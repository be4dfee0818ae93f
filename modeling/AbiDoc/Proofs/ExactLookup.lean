import AbiDoc.Proofs.Catalogue

/-!
# Exact look-up

What the look-up of a name answers in an output that holds a catalogue without colons in its names.
A name without a colon means the contracts that are called so, and is refused unless there is
exactly one; a name with a colon means the one contract of which it is the qualified name, and is
never ambiguous (`findContract_isExact`).
-/

namespace AbiDoc

open Outcome Json

/-- A look-up is refused with a message. -/
def RefusesLookup (outcome : Outcome CompiledContract) (message : String) : Prop :=
  ∃ fault, outcome = .error fault ∧ fault.phase? = some .lookup ∧ fault.message = message

/-- The contracts with a name, in their order. -/
def contractsNamed (name : String) (contracts : List CompiledContract) : List CompiledContract :=
  contracts.filter fun contract => contract.name = .str name

/-- The look-up of names among the contracts of an output is exact. -/
structure IsExactLookup (output : Json) (contracts : List CompiledContract) : Prop where
  finds_qualified : ∀ contract ∈ contracts,
    findContract output (.str contract.qualifiedName) = .ok contract
  finds_named : ∀ query contract, ':' ∉ query.toList →
    contractsNamed query contracts = [contract] → findContract output (.str query) = .ok contract
  refuses_missing : ∀ query, ':' ∉ query.toList → contractsNamed query contracts = [] →
    RefusesLookup (findContract output (.str query)) ("Contract not found: " ++ query)
  refuses_ambiguous : ∀ query, ':' ∉ query.toList → 1 < (contractsNamed query contracts).length →
    RefusesLookup (findContract output (.str query))
      ("Contract name " ++ query ++ " is ambiguous: " ++
        ", ".intercalate ((contractsNamed query contracts).map CompiledContract.qualifiedName))
  not_ambiguous : ∀ query, ':' ∈ query.toList → ∀ asked candidates,
    findContract output (.str query) ≠ .error (.ambiguousContract asked candidates)
  reaches_iff : ∀ contract ∈ contracts, ∀ query, ':' ∈ query.toList →
    (findContract output (.str query) = .ok contract ↔ query = contract.qualifiedName)

namespace Catalogue

variable {output : Json} {catalogue : Catalogue}

theorem WellNamed.no_colon_of_mem_listed (h : catalogue.WellNamed) {listed : ListedContract}
    (hlisted : listed ∈ catalogue.listed) : ':' ∉ listed.name.toList := by
  simp only [Catalogue.listed, List.mem_flatMap, List.mem_map] at hlisted
  obtain ⟨entry, hentry, member, hmember, rfl⟩ := hlisted
  exact h.no_colon entry hentry member.1 (List.mem_map_of_mem hmember)

theorem colon_mem_qualifiedName (listed : ListedContract) :
    ':' ∈ listed.qualifiedName.toList := by
  simp [ListedContract.qualifiedName]

/-- A name without a colon is no qualified name, so it means the contracts that are called so. -/
theorem filter_answersTo_of_no_colon {query : String} (hquery : ':' ∉ query.toList) :
    catalogue.contracts.filter (CompiledContract.answersTo (.str query)) =
      contractsNamed query catalogue.contracts := by
  rw [contractsNamed]
  apply List.filter_congr
  intro contract hcontract
  obtain ⟨listed, -, rfl⟩ := List.mem_map.mp hcontract
  have hqualified : query ≠ listed.qualifiedName := by
    rintro rfl
    exact hquery (colon_mem_qualifiedName listed)
  have hname : listed.contract.name = .str listed.name := rfl
  rw [Bool.eq_iff_iff, answersTo_contract_iff, decide_eq_true_iff, hname, Json.str.injEq]
  constructor
  · rintro (h | h)
    · exact h.symm
    · exact absurd h hqualified
  · intro h
    exact Or.inl h.symm

/-- A name with a colon is the name of no contract, so it means the contracts of which it is the
qualified name. -/
theorem answersTo_iff_of_colon (hnamed : catalogue.WellNamed) {query : String}
    (hquery : ':' ∈ query.toList) {listed : ListedContract} (hlisted : listed ∈ catalogue.listed) :
    listed.contract.answersTo (.str query) = true ↔ query = listed.qualifiedName := by
  have hname : query ≠ listed.name := by
    rintro rfl
    exact hnamed.no_colon_of_mem_listed hlisted hquery
  rw [answersTo_contract_iff]
  constructor
  · rintro (h | h)
    · exact absurd h hname
    · exact h
  · exact Or.inr

theorem WellNamed.eq_of_qualifiedName (h : catalogue.WellNamed) {first second : ListedContract}
    (hfirst : first ∈ catalogue.listed) (hsecond : second ∈ catalogue.listed)
    (heq : first.qualifiedName = second.qualifiedName) : first = second :=
  List.inj_on_of_nodup_map h.nodup_qualifiedNames hfirst hsecond heq

/-- The one contract with a qualified name is all that the qualified name means. -/
theorem filter_answersTo_qualifiedName (hnamed : catalogue.WellNamed) {listed : ListedContract}
    (hlisted : listed ∈ catalogue.listed) :
    catalogue.listed.filter
      (CompiledContract.answersTo (.str listed.qualifiedName) ∘ ListedContract.contract) =
        [listed] := by
  have hcolon : ':' ∈ listed.qualifiedName.toList := colon_mem_qualifiedName listed
  have hnodup : catalogue.listed.Nodup := hnamed.nodup_qualifiedNames.of_map _
  apply eq_singleton_of_nodup (hnodup.filter _)
  · rw [List.mem_filter, Function.comp_apply, answersTo_iff_of_colon hnamed hcolon hlisted]
    exact ⟨hlisted, rfl⟩
  · intro other hother
    obtain ⟨hmem, hanswers⟩ := List.mem_filter.mp hother
    have hqualified := (answersTo_iff_of_colon hnamed hcolon hmem).mp hanswers
    exact hnamed.eq_of_qualifiedName hmem hlisted hqualified.symm

/-! ## Qualified names -/

theorem findContract_qualifiedName (h : output.require "contracts" = .ok catalogue.toJson)
    (hnamed : catalogue.WellNamed) {contract : CompiledContract}
    (hcontract : contract ∈ catalogue.contracts) :
    findContract output (.str contract.qualifiedName) = .ok contract := by
  obtain ⟨listed, hlisted, rfl⟩ := List.mem_map.mp hcontract
  rw [findContract_eq h, ListedContract.qualifiedName_contract, find,
    filter_answersTo_qualifiedName hnamed hlisted]
  rfl

/-- A name with a colon is found as a qualified name or not at all. -/
theorem findContract_cases_of_colon (h : output.require "contracts" = .ok catalogue.toJson)
    (hnamed : catalogue.WellNamed) {query : String} (hquery : ':' ∈ query.toList) :
    (∃ contract ∈ catalogue.contracts, query = contract.qualifiedName ∧
      findContract output (.str query) = .ok contract) ∨
        findContract output (.str query) = .error (.contractNotFound (.str query)) := by
  by_cases hexists : ∃ contract ∈ catalogue.contracts, query = contract.qualifiedName
  · obtain ⟨contract, hcontract, rfl⟩ := hexists
    exact Or.inl ⟨contract, hcontract, rfl, findContract_qualifiedName h hnamed hcontract⟩
  · right
    have hnone : catalogue.listed.filter
        (CompiledContract.answersTo (.str query) ∘ ListedContract.contract) = [] := by
      rw [List.filter_eq_nil_iff]
      intro listed hlisted hanswers
      have hqualified := (answersTo_iff_of_colon hnamed hquery hlisted).mp hanswers
      rw [← ListedContract.qualifiedName_contract] at hqualified
      exact hexists ⟨listed.contract, List.mem_map_of_mem hlisted, hqualified⟩
    rw [findContract_eq h, find, hnone]
    rfl

theorem eq_qualifiedName_of_findContract (h : output.require "contracts" = .ok catalogue.toJson)
    (hnamed : catalogue.WellNamed) {query : String} (hquery : ':' ∈ query.toList)
    {contract : CompiledContract} (hfound : findContract output (.str query) = .ok contract) :
    query = contract.qualifiedName := by
  rcases findContract_cases_of_colon h hnamed hquery with
    ⟨other, -, hqualified, hother⟩ | hmissing
  · obtain rfl := Except.ok.inj (hother.symm.trans hfound)
    exact hqualified
  · cases hmissing.symm.trans hfound

/-! ## Names without a colon -/

theorem findContract_of_no_colon (h : output.require "contracts" = .ok catalogue.toJson)
    {query : String} (hquery : ':' ∉ query.toList) :
    findContract output (.str query) = pick (.str query) CompiledContract.qualifiedName
      (contractsNamed query catalogue.contracts) := by
  rw [findContract_eq_pick (compiledContracts_eq h), filter_answersTo_of_no_colon hquery]

theorem pick_of_one_lt_length {α : Type} {query : Json} {qualify : α → String}
    {candidates : List α} (h : 1 < candidates.length) :
    pick query qualify candidates = .error (.ambiguousContract query (candidates.map qualify)) := by
  cases candidates with
  | nil => simp at h
  | cons first rest =>
      cases rest with
      | nil => simp at h
      | cons second rest => rfl

/-- In an output that holds a catalogue without colons in its names the look-up of names is
exact. -/
theorem findContract_isExact (h : output.require "contracts" = .ok catalogue.toJson)
    (hnamed : catalogue.WellNamed) :
    compiledContracts output = .ok catalogue.contracts ∧
      IsExactLookup output catalogue.contracts := by
  refine ⟨compiledContracts_eq h, ?_⟩
  constructor
  case finds_qualified =>
    intro contract hcontract
    exact findContract_qualifiedName h hnamed hcontract
  case finds_named =>
    intro query contract hquery hone
    rw [findContract_of_no_colon h hquery, hone, pick]
  case refuses_missing =>
    intro query hquery hnone
    rw [findContract_of_no_colon h hquery, hnone, pick]
    exact ⟨_, rfl, rfl, rfl⟩
  case refuses_ambiguous =>
    intro query hquery hseveral
    rw [findContract_of_no_colon h hquery, pick_of_one_lt_length hseveral]
    exact ⟨_, rfl, rfl, rfl⟩
  case not_ambiguous =>
    intro query hquery asked candidates hambiguous
    rcases findContract_cases_of_colon h hnamed hquery with ⟨contract, -, -, hfound⟩ | hmissing
    · cases hfound.symm.trans hambiguous
    · cases hmissing.symm.trans hambiguous
  case reaches_iff =>
    intro contract hcontract query hquery
    constructor
    · intro hfound
      exact eq_qualifiedName_of_findContract h hnamed hquery hfound
    · rintro rfl
      exact findContract_qualifiedName h hnamed hcontract

/-- Two contracts of one name, the first of a source with colons in its path. -/
def registry : Catalogue :=
  [("git:lib:Token", [("Token", [])]), ("Token", [("Vault", []), ("Token", [("abi", .null)])])]

def registryOutput : Json := .obj [("contracts", registry.toJson)]

theorem registry_wellNamed : registry.WellNamed where
  nodup_sources := by decide
  nodup_names := by decide
  no_colon := by decide +kernel

theorem findContract_isExact_registry :
    registryOutput.require "contracts" = .ok registry.toJson ∧ registry.WellNamed ∧
      IsExactLookup registryOutput registry.contracts ∧
      RefusesLookup (findContract registryOutput (.str "Token"))
        "Contract name Token is ambiguous: git:lib:Token:Token, Token:Token" := by
  have hexact : IsExactLookup registryOutput registry.contracts :=
    (findContract_isExact rfl registry_wellNamed).2
  have hrefused := hexact.refuses_ambiguous "Token" (by decide +kernel) (by decide +kernel)
  exact ⟨rfl, registry_wellNamed, hexact, hrefused⟩

end Catalogue

end AbiDoc
