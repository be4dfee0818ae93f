import AbiDoc.ContractDoc
import AbiDoc.Proofs.CategoryRecords
import AbiDoc.Proofs.ContractOutcome
import AbiDoc.Proofs.RecordParts

/-!
# Coherence of merged contracts

The parts of a record are made one after the other, and each part looks at the kind of the entry by
itself.  In a merged contract they agree: a record stands under the signature of its entry, has the
kind and the name of its entry throughout, and has a selector, modifiers and returned types where
its entry is a function and nowhere else (`ofContract_isCoherent`).
-/

namespace AbiDoc

open Outcome Declaration

namespace EntryDoc

/-- What the record of a function with some outputs says in its selector and in its modifiers. -/
structure IsCoherentFunction (doc : EntryDoc) (identifiers : Json) (signature : String)
    (outputs : List Json) (tokens : List String) : Prop where
  selector_eq : identifiers.require signature = .ok doc.selector
  selector_truthy : doc.selector.truthy = true
  outputs_eq : doc.abi.fieldElements "outputs" = .ok outputs
  modifiers_eq : doc.declaration.modifiers = .arr (tokens.map .str)
  head?_eq : tokens.head? = some "external"
  announces_tfae : ["returns" ∈ tokens, tokens.getLast? = some "returns",
    doc.declaration.returns ≠ .null, outputs ≠ []].TFAE
  returns_listed : ListsTexts outputs doc.declaration.returns

/-- The parts of a record agree with each other, with its key, and with its entry, which is among
the items of the interface. -/
structure IsCoherent (doc : EntryDoc) (kind identifiers : Json) (items : List Json)
    (signature : String) : Prop where
  signature_eq : Entry.signature doc.abi = .ok signature
  abi_mem : doc.abi ∈ items
  abi_kind : doc.abi.require "type" = .ok kind
  kind_eq : doc.kind = kind
  abi_name : doc.abi.require "name" = .ok doc.name
  name_eq : doc.declaration.name = doc.name
  parameters_listed : ∃ inputs, doc.abi.fieldElements "inputs" = .ok inputs ∧
    ListsTexts inputs doc.declaration.parameters
  selector_set_iff : doc.selector ≠ .null ↔ kind = functionKind
  modifiers_set_iff : doc.declaration.modifiers ≠ .null ↔ kind = functionKind
  function : kind = functionKind →
    ∃ outputs tokens, doc.IsCoherentFunction identifiers signature outputs tokens
  other : kind ≠ functionKind → doc.declaration.returns = .null ∧ doc.returns = none

/-- The selectors that the compiler gave count for functions alone. -/
theorem IsCoherent.change_identifiers {doc : EntryDoc} {kind identifiers : Json}
    {items : List Json} {signature : String}
    (h : doc.IsCoherent kind identifiers items signature) (hkind : kind ≠ functionKind)
    (other : Json) : doc.IsCoherent kind other items signature :=
  { h with function := fun hfunction => absurd hfunction hkind }

end EntryDoc

namespace Category

section

variable {kind devdoc userdoc identifiers entry : Json} {items : List Json} {signature : String}
  {doc : EntryDoc}

/-- The record of a function is coherent. -/
theorem isCoherentFunction_of_describes
    (hselector : selectorOf functionKind identifiers signature = .ok doc.selector)
    {inputs parameters : List Json}
    (hdescribes : Describes doc.abi doc.declaration inputs parameters)
    (hfunction : doc.kind = functionKind) :
    ∃ outputs tokens, doc.IsCoherentFunction identifiers signature outputs tokens := by
  obtain ⟨outputs, tokens, types, hparts⟩ := hdescribes.function hfunction
  obtain ⟨hrequired, hgiven⟩ := selectorOf_function_eq_ok_iff.mp hselector
  refine ⟨outputs, announced tokens types, ?_⟩
  exact {
    selector_eq := hrequired
    selector_truthy := hgiven
    outputs_eq := hparts.outputs_eq
    modifiers_eq := hparts.modifiers_eq
    head?_eq := hparts.head?_announced
    announces_tfae := hdescribes.announces_tfae hparts
    returns_listed := hdescribes.returns_listed hparts }

/-- Whatever is documented for an entry of a kind is coherent. -/
theorem isCoherent_of_document (hentry : entry ∈ entriesAmong kind items)
    (h : document kind devdoc userdoc identifiers entry = .ok (signature, doc)) :
    doc.IsCoherent kind identifiers items signature := by
  obtain ⟨hsignature, selector, dev, user, hselector, -, -, hdoc⟩ := document_eq_ok_iff.mp h
  have hmade := EntryDoc.isMadeOf_of_ofEntry hdoc
  obtain rfl := hmade.abi_eq
  obtain ⟨inputs, parameters, hdescribes⟩ := describes_of_ofEntry hmade.declaration_eq
  obtain ⟨hmem, htype⟩ := List.mem_filter.mp hentry
  have hkind : doc.kind = kind := by
    have hfield := Json.field_of_require hdescribes.kind_eq
    exact Except.ok.inj (hfield.symm.trans (of_decide_eq_true htype))
  have hfunction : kind = functionKind →
      ∃ outputs tokens, doc.IsCoherentFunction identifiers signature outputs tokens := by
    rintro rfl
    obtain ⟨-, rfl⟩ := hmade.function hkind
    exact isCoherentFunction_of_describes hselector hdescribes hkind
  have hother : kind ≠ functionKind → doc.kind ≠ functionKind := fun hne => hkind.trans_ne hne
  have hselector_set : doc.selector ≠ .null ↔ kind = functionKind := by
    constructor
    · intro hset
      by_contra hne
      exact hset (hmade.other (hother hne)).2
    · intro heq hnull
      obtain ⟨outputs, tokens, hparts⟩ := hfunction heq
      have htruthy := hparts.selector_truthy
      rw [hnull] at htruthy
      cases htruthy
  have hmodifiers_set : doc.declaration.modifiers ≠ .null ↔ kind = functionKind := by
    constructor
    · intro hset
      by_contra hne
      exact hset (hdescribes.other (hother hne)).1
    · intro heq hnull
      obtain ⟨outputs, tokens, hparts⟩ := hfunction heq
      cases hnull.symm.trans hparts.modifiers_eq
  exact {
    signature_eq := hsignature
    abi_mem := hmem
    abi_kind := hdescribes.kind_eq.trans (congrArg _ hkind)
    kind_eq := hkind
    abi_name := hmade.name_eq
    name_eq := Except.ok.inj (hdescribes.name_eq.symm.trans hmade.name_eq)
    parameters_listed := ⟨inputs, hdescribes.inputs_eq, hdescribes.parameters_listed⟩
    selector_set_iff := hselector_set
    modifiers_set_iff := hmodifiers_set
    function := hfunction
    other := fun hne => ⟨(hdescribes.other (hother hne)).2, (hmade.other (hother hne)).1⟩ }

/-- A category has the signature of every item of its kind among its keys, and a coherent record
under each key. -/
structure IsCoherent (kind identifiers : Json) (items : List Json)
    (category : Assoc String EntryDoc) : Prop where
  listed : ∀ entry ∈ items, entry.field "type" = .ok kind →
    ∃ signature, Entry.signature entry = .ok signature ∧ signature ∈ Assoc.keys category
  coherent : ∀ signature doc, (signature, doc) ∈ category →
    doc.IsCoherent kind identifiers items signature

theorem IsCoherent.change_identifiers {category : Assoc String EntryDoc}
    (h : IsCoherent kind identifiers items category) (hkind : kind ≠ functionKind)
    (other : Json) : IsCoherent kind other items category where
  listed := h.listed
  coherent signature doc hmem := (h.coherent signature doc hmem).change_identifiers hkind other

/-- A merged category is coherent. -/
theorem isCoherent_of_merge {kind : String} {abi : Json} {merged : Assoc String EntryDoc}
    (h : merge (.str kind) abi devdoc userdoc identifiers = .ok merged) :
    ∃ items, abi.elements = .ok items ∧
      IsCoherent (.str kind) identifiers items merged := by
  obtain ⟨items, documented, hitems, hdocumented, rfl⟩ := exists_documented_of_merge h
  refine ⟨items, hitems, ?_, ?_⟩
  · intro entry hentry htype
    have hmem : entry ∈ entriesAmong (.str kind) items :=
      List.mem_filter.mpr ⟨hentry, decide_eq_true htype⟩
    obtain ⟨⟨signature, doc⟩, hrecord, hdocument⟩ := exists_mem_of_forall₂ hdocumented.flip hmem
    refine ⟨signature, (document_eq_ok_iff.mp hdocument).1, ?_⟩
    rw [Assoc.keys_ofList, List.mem_eraseDups]
    exact List.mem_map_of_mem hrecord
  · intro signature doc hrecord
    obtain ⟨entry, hentry, hdocument⟩ :=
      exists_mem_of_forall₂ hdocumented (Assoc.mem_of_mem_ofList hrecord)
    exact isCoherent_of_document hentry hdocument

end

end Category

namespace ContractDoc

/-- All categories of a contract are coherent. -/
structure IsCoherent (doc : ContractDoc) (identifiers : Json) (items : List Json) : Prop where
  functions : Category.IsCoherent functionKind identifiers items doc.functions
  events : Category.IsCoherent eventKind identifiers items doc.events
  errors : Category.IsCoherent errorKind identifiers items doc.errors

end ContractDoc

/-- Whenever a contract is merged, what comes out is coherent with its interface and with the
selectors that the compiler gave. -/
theorem ofContract_isCoherent {contract : CompiledContract} {doc : ContractDoc}
    (h : (ContractDoc.ofContract contract).outcome = .ok doc) :
    ∃ items identifiers, contract.abi.elements = .ok items ∧
      (contract.evm.orElse (.obj [])).field "methodIdentifiers" = .ok identifiers ∧
      doc.IsCoherent identifiers items := by
  simp only [ContractDoc.ofContract, Logged.outcome_bind, Logged.outcome_quietly,
    Logged.outcome_say, Logged.outcome_pure, ContractDoc.outcome_mergeKind, ok_bind] at h
  obtain ⟨identifiers, hidentifiers, h⟩ := bind_eq_ok_iff.mp h
  obtain ⟨description, -, h⟩ := bind_eq_ok_iff.mp h
  obtain ⟨author, -, h⟩ := bind_eq_ok_iff.mp h
  obtain ⟨title, -, h⟩ := bind_eq_ok_iff.mp h
  obtain ⟨events, hevents, h⟩ := bind_eq_ok_iff.mp h
  obtain ⟨functions, hfunctions, h⟩ := bind_eq_ok_iff.mp h
  obtain ⟨errors, herrors, h⟩ := bind_eq_ok_iff.mp h
  obtain rfl := pure_eq_ok_iff.mp h
  obtain ⟨items, hitems, hfunctions⟩ := Category.isCoherent_of_merge hfunctions
  obtain ⟨eventItems, heventItems, hevents⟩ := Category.isCoherent_of_merge hevents
  obtain ⟨errorItems, herrorItems, herrors⟩ := Category.isCoherent_of_merge herrors
  -- All three categories walk over the same interface.
  obtain rfl := Except.ok.inj (hitems.symm.trans heventItems)
  obtain rfl := Except.ok.inj (hitems.symm.trans herrorItems)
  refine ⟨items, identifiers, hitems, hidentifiers, hfunctions, ?_, ?_⟩
  · exact hevents.change_identifiers (by decide) identifiers
  · exact herrors.change_identifiers (by decide) identifiers

/-! ## A contract with an output too many -/

/-- An output of which only the type is given. -/
def amountOutput : Json := .obj [("name", .str ""), ("type", .str "uint256")]

/-- A contract with a function, an event that has an output as if it were a function, and an error
without inputs. -/
def till : CompiledContract where
  source := .str "Till.sol"
  name := .str "Till"
  abi := .arr [
    .obj [("type", .str "event"), ("name", .str "Paid"), ("outputs", .arr [amountOutput])],
    .obj [("type", .str "function"), ("name", .str "pay"), ("stateMutability", .str "payable"),
      ("inputs", .arr [.obj [("name", .str "payee"), ("type", .str "address")]]),
      ("outputs", .arr [amountOutput])],
    .obj [("type", .str "error"), ("name", .str "Short"), ("inputs", .null)]]
  devdoc := .null
  userdoc := .null
  evm := .obj [("methodIdentifiers", .obj [("pay(address)", .str "0c11dedd")])]

/-- The contract is merged, and what comes out is coherent. -/
theorem ofContract_isCoherent_till :
    ∃ doc, (ContractDoc.ofContract till).outcome = .ok doc ∧
      ∃ items identifiers, till.abi.elements = .ok items ∧
        (till.evm.orElse (.obj [])).field "methodIdentifiers" = .ok identifiers ∧
        doc.IsCoherent identifiers items :=
  ⟨_, rfl, ofContract_isCoherent rfl⟩

/-- Outputs alone do not make a record say what is returned: those of an event are left out. -/
theorem not_returns_set_iff_of_event :
    ∃ doc entry outputs, (ContractDoc.ofContract till).outcome = .ok doc ∧
      ("Paid()", entry) ∈ doc.events ∧ entry.abi.fieldElements "outputs" = .ok outputs ∧
      ¬ (entry.declaration.returns ≠ .null ↔ outputs ≠ []) := by
  refine ⟨_, _, _, rfl, List.mem_singleton.mpr rfl, rfl, ?_⟩
  intro hiff
  exact hiff.mpr (List.cons_ne_nil _ _) rfl

end AbiDoc
