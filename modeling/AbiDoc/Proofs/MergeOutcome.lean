import AbiDoc.CommandLine.Run
import AbiDoc.Proofs.Outcome

/-!
# How a merge comes out

A merge loads one file, finds the contracts that are asked for and documents them, in this order.
It gives a documentation when all of that succeeds (`outcome_merged_eq_ok_iff`) and fails with the
first fault on the way otherwise (`outcome_merged_eq_error_iff`).
-/

namespace AbiDoc.CommandLine.MergeRequest

open Outcome

variable {request : MergeRequest} {opened : Except FileError ByteArray} {output : Json}
  {contracts : List CompiledContract} {docs : Assoc String ContractDoc} {fault : Fault}

/-! ## Selections -/

/-- The output is what the file holds that the merge reads. -/
def Loads [Machine] (request : MergeRequest) (opened : Except FileError ByteArray)
    (output : Json) : Prop :=
  (CompilerOutput.ofFile request.path opened).outcome = .ok output

/-- The contracts are those that are asked for: each name means the contract at its place; without
a name they are all contracts of the output. -/
inductive Selects (request : MergeRequest) (output : Json) (contracts : List CompiledContract) :
    Prop
  | all (hnames : request.contracts = []) (h : compiledContracts output = .ok contracts) :
      Selects request output contracts
  | named (hnames : request.contracts ≠ [])
      (h : List.Forall₂ (fun name contract => findContract output (queryOf name) = .ok contract)
        request.contracts contracts) : Selects request output contracts

theorem select_of_nil (hnames : request.contracts = []) :
    request.select output = compiledContracts output := by
  rw [select, hnames, List.isEmpty_nil, if_pos rfl]

theorem select_of_ne_nil (hnames : request.contracts ≠ []) :
    request.select output =
      request.contracts.mapM fun name => findContract output (queryOf name) := by
  rw [select, if_neg (by simpa using hnames)]

theorem select_eq_ok_iff :
    request.select output = .ok contracts ↔ request.Selects output contracts := by
  by_cases hnames : request.contracts = []
  · rw [select_of_nil hnames]
    constructor
    · exact .all hnames
    · rintro (⟨-, h⟩ | ⟨hnone, -⟩)
      · exact h
      · exact absurd hnames hnone
  · rw [select_of_ne_nil hnames, mapM_eq_ok_iff]
    constructor
    · exact .named hnames
    · rintro (⟨hnone, -⟩ | ⟨-, h⟩)
      · exact absurd hnone hnames
      · exact h

/-! ## Documentation of a selection -/

/-- There is a documentation of the contract. -/
def IsDocumented (contract : CompiledContract) : Prop :=
  ∃ doc, (ContractDoc.ofContract contract).outcome = .ok doc

/-- An entry is the documentation of a contract under its qualified name. -/
def IsEntryOf (contract : CompiledContract) (entry : String × ContractDoc) : Prop :=
  entry.1 = contract.qualifiedName ∧ (ContractDoc.ofContract contract).outcome = .ok entry.2

/-- The documentation of a contract under its qualified name. -/
def entryOf (contract : CompiledContract) : Outcome (String × ContractDoc) :=
  (ContractDoc.ofContract contract).outcome.map fun doc => (contract.qualifiedName, doc)

theorem entryOf_eq_ok_iff {contract : CompiledContract} {entry : String × ContractDoc} :
    entryOf contract = .ok entry ↔ IsEntryOf contract entry := by
  rw [entryOf, map_eq_ok_iff]
  constructor
  · rintro ⟨doc, hdoc, rfl⟩
    exact ⟨rfl, hdoc⟩
  · rintro ⟨hname, hdoc⟩
    exact ⟨entry.2, hdoc, by rw [← hname]⟩

theorem entryOf_eq_error_iff {contract : CompiledContract} :
    entryOf contract = .error fault ↔
      (ContractDoc.ofContract contract).outcome = .error fault :=
  map_eq_error_iff

theorem outcome_document (contracts : List CompiledContract) :
    (document contracts).outcome = (contracts.mapM entryOf).map Assoc.ofList := by
  have hentry : ∀ contract ∈ contracts, (do
      let doc ← ContractDoc.ofContract contract
      return (contract.qualifiedName, doc) : Logged _).outcome = entryOf contract := by
    intro contract _
    rw [Logged.outcome_bind, entryOf, ← bind_pure_eq_map]
    rfl
  rw [document, Logged.outcome_bind, Logged.outcome_mapM, mapM_congr hentry, ← bind_pure_eq_map]
  rfl

theorem exists_isEntryOf_iff {contract : CompiledContract} :
    (∃ entry, IsEntryOf contract entry) ↔ IsDocumented contract := by
  constructor
  · rintro ⟨entry, -, hdoc⟩
    exact ⟨entry.2, hdoc⟩
  · rintro ⟨doc, hdoc⟩
    exact ⟨(contract.qualifiedName, doc), rfl, hdoc⟩

/-- A selection is documented when each of its contracts is. -/
theorem outcome_document_eq_ok_iff :
    (document contracts).outcome = .ok docs ↔
      ∃ entries, List.Forall₂ IsEntryOf contracts entries ∧ Assoc.ofList entries = docs := by
  simp only [outcome_document, map_eq_ok_iff, mapM_eq_ok_iff, entryOf_eq_ok_iff]

/-- A selection fails with the fault of its first contract that fails. -/
theorem outcome_document_eq_error_iff :
    (document contracts).outcome = .error fault ↔
      FirstRefused IsDocumented
        (fun contract fault => (ContractDoc.ofContract contract).outcome = .error fault)
        contracts fault := by
  simp only [outcome_document, map_eq_error_iff, mapM_eq_error_iff, entryOf_eq_ok_iff,
    entryOf_eq_error_iff, exists_isEntryOf_iff]

theorem exists_document_iff :
    (∃ docs, (document contracts).outcome = .ok docs) ↔
      ∀ contract ∈ contracts, IsDocumented contract := by
  simp only [← exists_isEntryOf_iff]
  constructor
  · rintro ⟨docs, h⟩ contract hcontract
    obtain ⟨entries, hentries, -⟩ := outcome_document_eq_ok_iff.mp h
    obtain ⟨entry, -, hentry⟩ := exists_mem_of_forall₂ hentries.flip hcontract
    exact ⟨entry, hentry⟩
  · intro h
    obtain ⟨entries, hentries⟩ := exists_forall₂ h
    exact ⟨_, outcome_document_eq_ok_iff.mpr ⟨entries, hentries, rfl⟩⟩

/-! ## The whole merge -/

section

variable [Machine]

theorem outcome_merged :
    (request.merged opened).outcome =
      (CompilerOutput.ofFile request.path opened).outcome >>= fun output =>
        request.select output >>= fun contracts => (document contracts).outcome := by
  simp only [merged, Logged.outcome_bind, Logged.outcome_quietly]

/-- A merge gives a documentation when the file is loaded, the contracts are found and all of them
are documented. -/
theorem outcome_merged_eq_ok_iff :
    (request.merged opened).outcome = .ok docs ↔
      ∃ output contracts, request.Loads opened output ∧ request.Selects output contracts ∧
        (document contracts).outcome = .ok docs := by
  simp only [outcome_merged, bind_eq_ok_iff, select_eq_ok_iff, exists_and_left, Loads]

/-- The first fault of a merge: of loading the file, then of finding the contracts in the order in
which they are asked for, then of documenting them in the order in which they are selected. -/
inductive FirstFault (request : MergeRequest) (opened : Except FileError ByteArray)
    (fault : Fault) : Prop
  | loading (h : (CompilerOutput.ofFile request.path opened).outcome = .error fault) :
      FirstFault request opened fault
  | listing {output : Json} (houtput : request.Loads opened output)
      (hnames : request.contracts = []) (h : compiledContracts output = .error fault) :
      FirstFault request opened fault
  | finding {output : Json} (houtput : request.Loads opened output)
      (hnames : request.contracts ≠ [])
      (h : FirstRefused (fun name => ∃ contract, findContract output (queryOf name) = .ok contract)
        (fun name fault => findContract output (queryOf name) = .error fault)
        request.contracts fault) : FirstFault request opened fault
  | documenting {output : Json} {contracts : List CompiledContract}
      (houtput : request.Loads opened output)
      (hcontracts : request.Selects output contracts)
      (h : FirstRefused IsDocumented
        (fun contract fault => (ContractDoc.ofContract contract).outcome = .error fault)
        contracts fault) : FirstFault request opened fault

/-- A merge fails exactly with its first fault. -/
theorem outcome_merged_eq_error_iff :
    (request.merged opened).outcome = .error fault ↔ request.FirstFault opened fault := by
  rw [outcome_merged, bind_eq_error_iff]
  simp only [bind_eq_error_iff, outcome_document_eq_error_iff, select_eq_ok_iff]
  constructor
  · rintro (h | ⟨output, houtput, h | ⟨contracts, hcontracts, h⟩⟩)
    · exact .loading h
    · by_cases hnames : request.contracts = []
      · exact .listing houtput hnames (select_of_nil hnames ▸ h)
      · exact .finding houtput hnames (mapM_eq_error_iff.mp (select_of_ne_nil hnames ▸ h))
    · exact .documenting houtput hcontracts h
  · rintro (h | ⟨houtput, hnames, h⟩ | ⟨houtput, hnames, h⟩ | ⟨houtput, hcontracts, h⟩)
    · exact Or.inl h
    · exact Or.inr ⟨_, houtput, Or.inl (select_of_nil hnames ▸ h)⟩
    · exact Or.inr ⟨_, houtput,
        Or.inl (by rw [select_of_ne_nil hnames]; exact mapM_eq_error_iff.mpr h)⟩
    · exact Or.inr ⟨_, houtput, Or.inr ⟨_, hcontracts, h⟩⟩

end

end AbiDoc.CommandLine.MergeRequest
