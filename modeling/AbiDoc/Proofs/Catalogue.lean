import AbiDoc.CompiledContract
import AbiDoc.Proofs.Access
import Mathlib.Data.List.Nodup

/-!
# Catalogues of contracts

The contracts of an output by source and name.  Where no name holds a colon, the source and the name
can be told from the qualified name, so no qualified name occurs twice (`nodup_qualifiedNames`).
Which contract a name means depends on the sources and the names alone: replacing what the compiler
says of the contracts replaces it in the contract that is found and changes no refusal
(`find_replace`).
-/

namespace AbiDoc

open Outcome Json

/-- A contract by its source and its name, with the members that the compiler files for it. -/
structure ListedContract where
  source : String
  name : String
  members : Assoc String Json

namespace ListedContract

def qualifiedName (listed : ListedContract) : String := listed.source ++ ":" ++ listed.name

/-- The documents of a contract; those that are not given count as empty. -/
def contract (listed : ListedContract) : CompiledContract where
  source := .str listed.source
  name := .str listed.name
  abi := ((Assoc.find? "abi" listed.members).getD .null).orElse (.arr [])
  devdoc := ((Assoc.find? "devdoc" listed.members).getD .null).orElse (.obj [])
  userdoc := ((Assoc.find? "userdoc" listed.members).getD .null).orElse (.obj [])
  evm := ((Assoc.find? "evm" listed.members).getD .null).orElse (.obj [])

/-- The same contract with other members, which may depend on what they replace. -/
def replace (change : String → String → Assoc String Json → Assoc String Json)
    (listed : ListedContract) : ListedContract :=
  { listed with members := change listed.source listed.name listed.members }

theorem qualifiedName_contract (listed : ListedContract) :
    listed.contract.qualifiedName = listed.qualifiedName := rfl

end ListedContract

/-- Contracts by source and name, each with its members. -/
abbrev Catalogue := Assoc String (Assoc String (Assoc String Json))

namespace Catalogue

/-- The object in which a compiler files contracts. -/
def toJson (catalogue : Catalogue) : Json :=
  .obj (Assoc.mapValues (fun contracts => .obj (Assoc.mapValues .obj contracts)) catalogue)

/-- The contracts source by source, those of a source in their order. -/
def listed (catalogue : Catalogue) : List ListedContract :=
  catalogue.flatMap fun (source, contracts) =>
    contracts.map fun (name, members) => ⟨source, name, members⟩

def qualifiedNames (catalogue : Catalogue) : List String :=
  catalogue.listed.map ListedContract.qualifiedName

def contracts (catalogue : Catalogue) : List CompiledContract :=
  catalogue.listed.map ListedContract.contract

/-- The catalogue with the members of its contracts replaced. -/
def replace (change : String → String → Assoc String Json → Assoc String Json)
    (catalogue : Catalogue) : Catalogue :=
  catalogue.map fun (source, contracts) =>
    (source, contracts.map fun (name, members) => (name, change source name members))

/-- No source occurs twice, no name occurs twice under a source, and no name holds a colon. -/
structure WellNamed (catalogue : Catalogue) : Prop where
  nodup_sources : (Assoc.keys catalogue).Nodup
  nodup_names : ∀ entry ∈ catalogue, (Assoc.keys entry.2).Nodup
  no_colon : ∀ entry ∈ catalogue, ∀ name ∈ Assoc.keys entry.2, ':' ∉ name.toList

/-! ## Qualified names -/

/-- A source and a name without a colon can be told from the text with a colon between them. -/
theorem append_colon_inj {source other name name' : List Char} (hname : ':' ∉ name)
    (hname' : ':' ∉ name') (h : source ++ ':' :: name = other ++ ':' :: name') :
    source = other ∧ name = name' := by
  -- The last colon is the one in between, so it stands equally far from the end of both texts.
  have hlength : name.length = name'.length := by
    have hcolon := congrArg (fun text => text.reverse.idxOf ':') h
    simpa [List.idxOf_append_of_notMem, hname, hname'] using hcolon
  obtain ⟨hsource, hrest⟩ := List.append_inj' h (by simp [hlength])
  exact ⟨hsource, (List.cons.inj hrest).2⟩

theorem qualifiedName_inj {first second : ListedContract} (hfirst : ':' ∉ first.name.toList)
    (hsecond : ':' ∉ second.name.toList) (h : first.qualifiedName = second.qualifiedName) :
    first.source = second.source ∧ first.name = second.name := by
  have hchars : first.source.toList ++ ':' :: first.name.toList =
      second.source.toList ++ ':' :: second.name.toList := by
    simpa [ListedContract.qualifiedName] using congrArg String.toList h
  obtain ⟨hsource, hname⟩ := append_colon_inj hfirst hsecond hchars
  exact ⟨String.toList_inj.mp hsource, String.toList_inj.mp hname⟩

theorem WellNamed.nodup_qualifiedNames {catalogue : Catalogue} (h : catalogue.WellNamed) :
    catalogue.qualifiedNames.Nodup := by
  rw [qualifiedNames, listed, List.map_flatMap, List.nodup_flatMap]
  constructor
  -- Under one source the names differ; under two sources the sources do.
  · intro entry hentry
    have hnames := h.nodup_names entry hentry
    rw [Assoc.keys, List.Nodup, List.pairwise_map] at hnames
    rw [List.map_map, List.Nodup, List.pairwise_map]
    refine hnames.imp_of_mem fun {first second} hfirst hsecond hne heq => hne ?_
    exact (qualifiedName_inj (h.no_colon entry hentry _ (List.mem_map_of_mem hfirst))
      (h.no_colon entry hentry _ (List.mem_map_of_mem hsecond)) heq).2
  · have hsources := h.nodup_sources
    rw [Assoc.keys, List.Nodup, List.pairwise_map] at hsources
    refine hsources.imp_of_mem fun {first second} hfirst hsecond hne => ?_
    intro key hkey hother
    simp only [List.map_map, List.mem_map, Function.comp_apply] at hkey hother
    obtain ⟨contract, hcontract, rfl⟩ := hkey
    obtain ⟨contract', hcontract', heq⟩ := hother
    exact hne (qualifiedName_inj (h.no_colon first hfirst _ (List.mem_map_of_mem hcontract))
      (h.no_colon second hsecond _ (List.mem_map_of_mem hcontract')) heq.symm).1

/-! ## Finding contracts -/

variable {output : Json} {catalogue : Catalogue}

theorem ofSource_eq (source : String) (contracts : Assoc String (Assoc String Json)) :
    CompiledContract.ofSource source (.obj (Assoc.mapValues .obj contracts)) =
      .ok (contracts.map fun (name, members) =>
        ListedContract.contract ⟨source, name, members⟩) := by
  show (Assoc.mapValues Json.obj contracts).mapM _ = _
  rw [Assoc.mapValues, List.mapM_map]
  exact mapM_ok _ contracts

/-- The contracts of an output that holds a catalogue are those of the catalogue. -/
theorem compiledContracts_eq (h : output.require "contracts" = .ok catalogue.toJson) :
    compiledContracts output = .ok catalogue.contracts := by
  obtain ⟨members, rfl, hfound⟩ := require_eq_ok_iff.mp h
  have hwalk : (Assoc.mapValues (fun contracts => Json.obj (Assoc.mapValues .obj contracts))
      catalogue).mapM (fun entry => CompiledContract.ofSource entry.1 entry.2) =
      .ok (catalogue.map fun (source, contracts) => contracts.map fun (name, members) =>
        ListedContract.contract ⟨source, name, members⟩) := by
    rw [Assoc.mapValues, List.mapM_map]
    simp only [Function.comp_def, ofSource_eq]
    exact mapM_ok _ catalogue
  have hflat : (catalogue.map fun (source, contracts) => contracts.map fun (name, members) =>
      ListedContract.contract ⟨source, name, members⟩).flatten = catalogue.contracts := by
    simp [contracts, listed, List.flatMap_def, Function.comp_def]
  simp only [compiledContracts, membersOf, hfound, Option.getD_some, toJson, ok_bind, hwalk]
  rw [hflat]
  rfl

/-- The one candidate for what a name means. -/
def pick {α : Type} (query : Json) (qualify : α → String) : List α → Outcome α
  | [] => .error (.contractNotFound query)
  | [found] => .ok found
  | candidates => .error (.ambiguousContract query (candidates.map qualify))

theorem pick_map {α β : Type} (query : Json) (qualify : β → String) (f : α → β)
    (candidates : List α) :
    pick query qualify (candidates.map f) = (pick query (qualify ∘ f) candidates).map f := by
  cases candidates with
  | nil => rfl
  | cons candidate rest =>
      cases rest with
      | nil => rfl
      | cons other rest =>
          simp only [pick, List.map_cons, List.map_map, Except.map]
          rfl

theorem findContract_eq_pick {contracts : List CompiledContract}
    (h : compiledContracts output = .ok contracts) (query : Json) :
    findContract output query =
      pick query CompiledContract.qualifiedName
        (contracts.filter (CompiledContract.answersTo query)) := by
  rw [findContract, h, ok_bind]
  cases contracts.filter (CompiledContract.answersTo query) with
  | nil => rfl
  | cons contract rest =>
      cases rest with
      | nil => rfl
      | cons other rest => rfl

/-- The one contract of a catalogue that a name means. -/
def find (catalogue : Catalogue) (query : Json) : Outcome ListedContract :=
  pick query ListedContract.qualifiedName
    (catalogue.listed.filter (CompiledContract.answersTo query ∘ ListedContract.contract))

theorem findContract_eq (h : output.require "contracts" = .ok catalogue.toJson) (query : Json) :
    findContract output query = (catalogue.find query).map ListedContract.contract := by
  rw [findContract_eq_pick (compiledContracts_eq h), contracts, List.filter_map, pick_map]
  rfl

theorem eq_singleton_of_nodup {α : Type} {items : List α} {item : α} (h : items.Nodup)
    (hitem : item ∈ items) (hunique : ∀ other ∈ items, other = item) : items = [item] := by
  cases items with
  | nil => simp at hitem
  | cons head rest =>
      obtain rfl := hunique head (by simp)
      cases rest with
      | nil => rfl
      | cons next rest =>
          obtain rfl := hunique next (by simp)
          simp at h

theorem answersTo_contract_iff {query : String} {listed : ListedContract} :
    listed.contract.answersTo (.str query) = true ↔
      query = listed.name ∨ query = listed.qualifiedName := by
  have hname : listed.contract.name = .str listed.name := rfl
  rw [CompiledContract.answersTo, hname, listed.qualifiedName_contract, Bool.or_eq_true,
    same_str_iff, same_str_iff, Json.str.injEq, Json.str.injEq]

end Catalogue
end AbiDoc
