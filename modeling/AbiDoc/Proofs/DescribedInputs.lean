import AbiDoc.Proofs.DescribedOutputs
import AbiDoc.Proofs.OrderedMapping
import AbiDoc.Proofs.Totality

/-!
# Described inputs

How the inputs of an entry are paired with their descriptions.  The inputs give the order and the
documentation gives the content: an input that has a description under its name is listed with it,
and any other is left out, whatever the order of the descriptions (`collect_conservesInputs`).
Where no two inputs have one name and nothing is filed under the empty name, the descriptions that
are listed are those of inputs, each of them once.

The walk over the inputs is followed on values of any shape first (`picksInputs_of_walk`), since
names and descriptions are only looked at on the way.
-/

namespace AbiDoc
namespace ParamDoc

open Outcome Json

/-! ## One input -/

/-- The record of an input: its name, its declared type, the description under its name, and for an
event whether the input is indexed. -/
structure IsParamOf (descriptions kind input : Json) (param : ParamDoc) : Prop where
  name_eq : input.require "name" = .ok param.name
  type_eq : input.require "type" = .ok param.type
  description_eq : descriptions.fieldOf param.name = .ok param.description
  description_given : param.description.truthy = true
  indexed_eq : ∃ flag, input.field "indexed" = .ok flag ∧
    param.indexed = if kind = eventKind then .bool flag.truthy else .null

theorem isObject_of_fieldOf {object key value : Json} (h : object.fieldOf key = .ok value) :
    object.IsObject := by
  cases object with
  | obj members => exact ⟨members, rfl⟩
  | _ => simp [fieldOf] at h

/-- An input gives a record exactly when it has a description that counts as given. -/
theorem ofInput?_eq_ok_some_iff {descriptions entry kind input : Json} {param : ParamDoc}
    (hkind : entry.require "type" = .ok kind) :
    ofInput? descriptions entry input = .ok (some param) ↔
      IsParamOf descriptions kind input param := by
  constructor
  · intro h
    obtain ⟨members, -, h⟩ := bind_eq_ok_iff.mp h
    obtain ⟨name, hname, h⟩ := bind_eq_ok_iff.mp h
    obtain ⟨description, hdescription, h⟩ := bind_eq_ok_iff.mp h
    obtain ⟨flag, hflag⟩ := exists_field (field_of_require hname) "indexed"
    split at h
    · rename_i hgiven
      rw [hkind, hflag] at h
      obtain ⟨type, htype, h⟩ := bind_eq_ok_iff.mp h
      obtain ⟨indexed, hindexed, h⟩ := ite_bind_eq_ok_iff.mp h
      obtain rfl := Option.some.inj (pure_eq_ok_iff.mp h)
      refine ⟨hname, htype, hdescription, hgiven, flag, hflag, ?_⟩
      by_cases hevent : kind = eventKind
      · rw [if_pos hevent] at hindexed ⊢
        exact (Except.ok.inj hindexed).symm
      · rw [if_neg hevent] at hindexed ⊢
        exact (Except.ok.inj hindexed).symm
    · cases h
  · rintro ⟨hname, htype, hdescription, hgiven, flag, hflag, hindexed⟩
    obtain ⟨members, rfl⟩ := isObject_of_fieldOf hdescription
    rw [ofInput?, membersOf, ok_bind, hname, ok_bind, hdescription, ok_bind, if_pos hgiven, htype,
      ok_bind, hkind, ok_bind, hflag]
    by_cases hevent : kind = eventKind
    · rw [if_pos hevent] at hindexed ⊢
      rw [Except.map, ok_bind, ← hindexed]
      rfl
    · rw [if_neg hevent] at hindexed ⊢
      rw [ok_bind, ← hindexed]
      rfl

/-! ## All inputs -/

/-- The record of the input at a position. -/
def IsParamAt (descriptions kind : Json) (inputs : List Json) (position : Nat)
    (param : ParamDoc) : Prop :=
  ∃ input, inputs[position]? = some input ∧ IsParamOf descriptions kind input param

/-- `params` are the records that the inputs give, and `positions` are those of their inputs in
ascending order. -/
structure PicksInputs (descriptions kind : Json) (inputs : List Json) (positions : List Nat)
    (params : List ParamDoc) : Prop where
  ascending : positions.Pairwise (· < ·)
  mem_positions_iff : ∀ position,
    position ∈ positions ↔ ∃ param, IsParamAt descriptions kind inputs position param
  params_eq : List.Forall₂ (IsParamAt descriptions kind inputs) positions params

/-- The walk over the inputs picks the records that they give. -/
theorem picksInputs_of_walk {descriptions entry kind : Json} {inputs : List Json}
    {found : List (Option ParamDoc)} (hkind : entry.require "type" = .ok kind)
    (hfound : inputs.mapM (ofInput? descriptions entry) = .ok found) :
    ∃ positions, PicksInputs descriptions kind inputs positions found.reduceOption := by
  have hplaced : ∀ {position : Nat} {param : ParamDoc},
      found[position]? = some (some param) ↔
        IsParamAt descriptions kind inputs position param := by
    intro position param
    rw [getElem?_of_mapM hfound]
    exact exists_congr fun input => and_congr_right fun _ => ofInput?_eq_ok_some_iff hkind
  obtain ⟨positions, hpicked⟩ := exists_isPickedAt found
  refine ⟨positions, hpicked.ascending, fun position => ?_, ?_⟩
  · rw [hpicked.mem_iff]
    exact exists_congr fun param => hplaced
  · exact hpicked.picked_eq.imp fun _ _ => hplaced.mp

/-- What a walk over the inputs gives is listed, and nothing is where the documentation has no place
for inputs. -/
theorem collect_eq_ok_iff {dev entry : Json} {params : Option (List ParamDoc)} :
    collect dev entry = .ok params ↔
      ∃ descriptions, (if dev.truthy then dev.field "params" else .ok .null) = .ok descriptions ∧
        if descriptions = .null then params = none
        else ∃ inputs found, entry.fieldElements "inputs" = .ok inputs ∧
          inputs.mapM (ofInput? descriptions entry) = .ok found ∧
            params = some found.reduceOption := by
  rw [collect, ite_bind_eq_ok_iff]
  refine exists_congr fun descriptions => and_congr_right fun _ => ?_
  dsimp only
  split
  · rw [pure_eq_ok_iff]
    exact eq_comm
  · simp only [bind_eq_ok_iff, pure_eq_ok_iff]
    refine exists_congr fun inputs => ?_
    constructor
    · rintro ⟨hinputs, found, hfound, rfl⟩
      exact ⟨found, hinputs, hfound, rfl⟩
    · rintro ⟨found, hinputs, hfound, rfl⟩
      exact ⟨hinputs, found, hfound, rfl⟩

/-- Nothing is listed exactly where the fragment does not count as given or says nothing of inputs.
-/
theorem collect_eq_ok_none_iff {dev entry : Json} :
    collect dev entry = .ok none ↔ dev.truthy = false ∨ dev.field "params" = .ok .null := by
  have hnone : collect dev entry = .ok none ↔
      (if dev.truthy then dev.field "params" else .ok .null) = .ok .null := by
    rw [collect_eq_ok_iff]
    constructor
    · rintro ⟨descriptions, hdescriptions, h⟩
      split at h
      · rename_i hnull
        rwa [hnull] at hdescriptions
      · obtain ⟨inputs, found, -, -, h⟩ := h
        cases h
    · intro h
      exact ⟨.null, h, by rw [if_pos rfl]⟩
  rw [hnone]
  cases dev.truthy with
  | true => simp
  | false => simp

/-! ## Inputs with names and types -/

variable {descriptions : Assoc String Json} {inputs : List Json}

/-- The name has a description that counts as given. -/
def IsDescribed (descriptions : Assoc String Json) (name : String) (description : Json) : Prop :=
  Assoc.find? name descriptions = some description ∧ description.truthy = true

/-- The input at a position is described under its name. -/
def IsDescribedAt (descriptions : Assoc String Json) (inputs : List Json) (position : Nat) :
    Prop :=
  ∃ input name description, inputs[position]? = some input ∧
    input.require "name" = .ok (.str name) ∧ IsDescribed descriptions name description

/-- No two inputs have one name; any number of them may be without one. -/
def NamesApart (inputs : List Json) : Prop :=
  ∀ (position other : Nat) (input named : Json) (name : String), inputs[position]? = some input →
    inputs[other]? = some named → input.require "name" = .ok (.str name) →
      named.require "name" = .ok (.str name) → name ≠ "" → position = other

theorem isDescribed_iff {name : String} {description : Json} :
    IsDescribed descriptions name description ↔
      (Json.obj descriptions).fieldOf (.str name) = .ok description ∧
        description.truthy = true := by
  rw [IsDescribed, fieldOf_obj, Except.ok.injEq]
  refine and_congr_left fun hgiven => ?_
  cases Assoc.find? name descriptions with
  | some found => simp
  | none =>
      have hnull : Json.null ≠ description := by
        rintro rfl
        cases hgiven
      simp [hnull]

/-- Among inputs with names and types, those that are described give records. -/
theorem exists_isParamAt_iff {kind : Json}
    (hitems : ∀ input ∈ inputs, input.Demands "name" IsText ∧ input.Demands "type" IsText)
    {position : Nat} :
    (∃ param, IsParamAt (.obj descriptions) kind inputs position param) ↔
      IsDescribedAt descriptions inputs position := by
  constructor
  · rintro ⟨param, input, hinput, hparam⟩
    obtain ⟨hname, -⟩ := hitems input (List.mem_of_getElem? hinput)
    obtain ⟨name, hname⟩ := hname.of_eq_ok hparam.name_eq
    refine ⟨input, name, param.description, hinput, hname ▸ hparam.name_eq, ?_⟩
    exact isDescribed_iff.mpr ⟨hname ▸ hparam.description_eq, hparam.description_given⟩
  · rintro ⟨input, name, description, hinput, hname, hdescription⟩
    obtain ⟨-, type, htype, -⟩ := hitems input (List.mem_of_getElem? hinput)
    obtain ⟨flag, hflag⟩ := exists_field (field_of_require hname) "indexed"
    obtain ⟨hfound, hgiven⟩ := isDescribed_iff.mp hdescription
    exact ⟨⟨.str name, type, description, _⟩, input, hinput, hname, htype, hfound, hgiven, flag,
      hflag, rfl⟩

/-- `params` conserve the documentation of inputs.  There is one record for each of `positions`,
which are those of the described inputs in ascending order.  The names and descriptions that are
listed are the members of the documentation that count as given and whose key is the name of an
input, and each of them is listed once where the inputs have different names. -/
structure ConservesInputs (descriptions : Assoc String Json) (kind : Json) (inputs : List Json)
    (positions : List Nat) (params : List ParamDoc) : Prop where
  ascending : positions.Pairwise (· < ·)
  mem_positions_iff : ∀ position,
    position ∈ positions ↔ IsDescribedAt descriptions inputs position
  params_eq : List.Forall₂ (IsParamAt (.obj descriptions) kind inputs) positions params
  nodup_names : NamesApart inputs → "" ∉ Assoc.keys descriptions →
    (params.map ParamDoc.name).Nodup
  mem_members_iff : (Assoc.keys descriptions).Nodup → ∀ (name : String) (description : Json),
    (∃ param ∈ params, param.name = .str name ∧ param.description = description) ↔
      (name, description) ∈ descriptions ∧ description.truthy = true ∧
        ∃ input ∈ inputs, input.require "name" = .ok (.str name)

/-- Inputs without a name are not described where nothing is filed under the empty name, so those
that are have different names. -/
theorem PicksInputs.nodup_names {kind : Json} {positions : List Nat} {params : List ParamDoc}
    (h : PicksInputs (.obj descriptions) kind inputs positions params)
    (hitems : ∀ input ∈ inputs, input.Demands "name" IsText ∧ input.Demands "type" IsText)
    (hapart : NamesApart inputs) (hempty : "" ∉ Assoc.keys descriptions) :
    (params.map ParamDoc.name).Nodup := by
  apply nodup_map_of_ascending h.ascending h.params_eq
  rintro position other param named ⟨input, hinput, hparam⟩ ⟨later, hlater, hnamed⟩ hsame
  obtain ⟨hname, -⟩ := hitems input (List.mem_of_getElem? hinput)
  obtain ⟨name, hname⟩ := hname.of_eq_ok hparam.name_eq
  obtain ⟨hfound, -⟩ :=
    isDescribed_iff.mpr ⟨hname ▸ hparam.description_eq, hparam.description_given⟩
  have hgiven : name ≠ "" := by
    rintro rfl
    rw [Assoc.find?_eq_none hempty] at hfound
    cases hfound
  exact hapart position other input later name hinput hlater (hname ▸ hparam.name_eq)
    (hname ▸ hsame ▸ hnamed.name_eq) hgiven

/-- What is listed are the members that count as given and whose key is the name of an input. -/
theorem PicksInputs.mem_members_iff {kind : Json} {positions : List Nat} {params : List ParamDoc}
    (h : PicksInputs (.obj descriptions) kind inputs positions params)
    (hitems : ∀ input ∈ inputs, input.Demands "name" IsText ∧ input.Demands "type" IsText)
    (hkeys : (Assoc.keys descriptions).Nodup) (name : String) (description : Json) :
    (∃ param ∈ params, param.name = .str name ∧ param.description = description) ↔
      (name, description) ∈ descriptions ∧ description.truthy = true ∧
        ∃ input ∈ inputs, input.require "name" = .ok (.str name) := by
  constructor
  · rintro ⟨param, hmem, hname, rfl⟩
    obtain ⟨position, -, input, hinput, hparam⟩ := exists_mem_of_forall₂ h.params_eq hmem
    have hfound := hparam.description_eq
    rw [hname] at hfound
    obtain ⟨hfound, hgiven⟩ := isDescribed_iff.mpr ⟨hfound, hparam.description_given⟩
    refine ⟨Assoc.mem_of_find? hfound, hgiven, input, List.mem_of_getElem? hinput, ?_⟩
    rw [hparam.name_eq, hname]
  · rintro ⟨hmem, hgiven, input, hinput, hname⟩
    obtain ⟨position, hposition⟩ := List.mem_iff_getElem?.mp hinput
    have hfound : Assoc.find? name descriptions = some description :=
      (Assoc.find?_eq_some_iff_mem hkeys).mpr hmem
    have hdescribed : IsDescribedAt descriptions inputs position :=
      ⟨input, name, description, hposition, hname, hfound, hgiven⟩
    have hpicked :=
      (h.mem_positions_iff position).mpr ((exists_isParamAt_iff hitems).mpr hdescribed)
    obtain ⟨param, hparam, other, hother, hrecord⟩ :=
      exists_mem_of_forall₂ h.params_eq.flip hpicked
    obtain rfl := Option.some.inj (hposition.symm.trans hother)
    have hsame : .str name = param.name := Except.ok.inj (hname.symm.trans hrecord.name_eq)
    have hdescription := hrecord.description_eq
    rw [← hsame, fieldOf_obj, hfound] at hdescription
    exact ⟨param, hparam, hsame.symm, (Except.ok.inj hdescription).symm⟩

/-- The inputs of an entry are paired with their descriptions wherever the documentation has a place
for them, and nothing is listed exactly where it has none. -/
theorem collect_conservesInputs {entry kind : Json} (hkind : entry.require "type" = .ok kind)
    (hinputs : entry.fieldElements "inputs" = .ok inputs)
    (hitems : ∀ input ∈ inputs, input.Demands "name" IsText ∧ input.Demands "type" IsText) :
    (∀ dev, collect dev entry = .ok none ↔
      dev.truthy = false ∨ dev.field "params" = .ok .null) ∧
    ∀ (dev : Json) (descriptions : Assoc String Json),
      dev.require "params" = .ok (.obj descriptions) →
        ∃ positions params, collect dev entry = .ok (some params) ∧
          ConservesInputs descriptions kind inputs positions params := by
  refine ⟨fun _ => collect_eq_ok_none_iff, fun dev descriptions hdev => ?_⟩
  have hwalk : ∀ input ∈ inputs,
      Gives (ofInput? (.obj descriptions) entry input) fun _ => True := by
    intro input hinput
    obtain ⟨hname, htype⟩ := hitems input hinput
    exact gives_ofInput? ⟨descriptions, rfl⟩ ⟨kind, hkind, trivial⟩ hname htype
  obtain ⟨found, hfound, -⟩ := gives_mapM hwalk
  obtain ⟨positions, hpicked⟩ := picksInputs_of_walk hkind hfound
  have hcollect : collect dev entry = .ok (some found.reduceOption) := by
    refine collect_eq_ok_iff.mpr ⟨.obj descriptions, ?_, ?_⟩
    · rw [if_pos (truthy_of_require hdev), field_of_require hdev]
    · rw [if_neg (by simp)]
      exact ⟨inputs, found, hinputs, hfound, rfl⟩
  refine ⟨positions, found.reduceOption, hcollect, ?_⟩
  exact {
    ascending := hpicked.ascending
    mem_positions_iff := fun position =>
      (hpicked.mem_positions_iff position).trans (exists_isParamAt_iff hitems)
    params_eq := hpicked.params_eq
    nodup_names := hpicked.nodup_names hitems
    mem_members_iff := hpicked.mem_members_iff hitems }

/-! ## Inputs with and without names -/

/-- A payer, two inputs without names, an amount and a note that nobody describes. -/
def depositInputs : List Json := [
  .obj [("name", .str "payer"), ("type", .str "address"), ("indexed", .bool true)],
  .obj [("name", .str ""), ("type", .str "bytes32")],
  .obj [("name", .str "amount"), ("type", .str "uint256"), ("indexed", .bool false)],
  .obj [("name", .str ""), ("type", .str "bool")],
  .obj [("name", .str "note"), ("type", .str "string")]]

/-- Descriptions in another order, of which one is blank and one belongs to no input. -/
def depositDescriptions : Assoc String Json :=
  [("note", .str ""), ("amount", .str "What is paid"), ("payee", .str "Stray"),
    ("payer", .str "Who pays")]

def deposit : Json :=
  .obj [("type", .str "event"), ("name", .str "Deposit"), ("inputs", .arr depositInputs)]

theorem depositInputs_namesApart : NamesApart depositInputs := by
  have hnamed : ∀ (position : Nat) (input : Json) (name : String),
      depositInputs[position]? = some input → input.require "name" = .ok (.str name) →
        name ≠ "" → (position, name) ∈ [(0, "payer"), (2, "amount"), (4, "note")] := by
    intro position input name hinput hname hgiven
    rcases position with _ | _ | _ | _ | _ | position
    · obtain rfl := Option.some.inj hinput
      obtain rfl := Json.str.inj (Except.ok.inj hname)
      decide
    · obtain rfl := Option.some.inj hinput
      exact absurd (Json.str.inj (Except.ok.inj hname)).symm hgiven
    · obtain rfl := Option.some.inj hinput
      obtain rfl := Json.str.inj (Except.ok.inj hname)
      decide
    · obtain rfl := Option.some.inj hinput
      exact absurd (Json.str.inj (Except.ok.inj hname)).symm hgiven
    · obtain rfl := Option.some.inj hinput
      obtain rfl := Json.str.inj (Except.ok.inj hname)
      decide
    · cases hinput
  intro position other input named name hinput hother hname hsame hgiven
  have hleft := hnamed position input name hinput hname hgiven
  have hright := hnamed other named name hother hsame hgiven
  simp only [List.mem_cons, Prod.mk.injEq, List.not_mem_nil, or_false] at hleft hright
  rcases hleft with ⟨rfl, rfl⟩ | ⟨rfl, rfl⟩ | ⟨rfl, rfl⟩
  all_goals exact Eq.symm (by simpa using hright)

/-- The payer and the amount are listed in the order of the inputs, and the note is left out. -/
theorem collect_conservesInputs_deposit :
    NamesApart depositInputs ∧ "" ∉ Assoc.keys depositDescriptions ∧
      (Assoc.keys depositDescriptions).Nodup ∧
      ∃ positions params,
        collect (.obj [("params", .obj depositDescriptions)]) deposit = .ok (some params) ∧
          ConservesInputs depositDescriptions eventKind depositInputs positions params ∧
          params.map ParamDoc.name = [.str "payer", .str "amount"] := by
  have hitems : ∀ input ∈ depositInputs,
      input.Demands "name" IsText ∧ input.Demands "type" IsText := by
    intro input hinput
    simp only [depositInputs, List.mem_cons, List.not_mem_nil, or_false] at hinput
    rcases hinput with rfl | rfl | rfl | rfl | rfl
    all_goals exact ⟨⟨_, rfl, _, rfl⟩, _, rfl, _, rfl⟩
  have hpaired : ∃ positions params,
      collect (.obj [("params", .obj depositDescriptions)]) deposit = .ok (some params) ∧
        ConservesInputs depositDescriptions eventKind depositInputs positions params :=
    (collect_conservesInputs rfl rfl hitems).2 _ _ rfl
  have hcollected : ∃ found,
      collect (.obj [("params", .obj depositDescriptions)]) deposit = .ok (some found) ∧
        found.map ParamDoc.name = [.str "payer", .str "amount"] := ⟨_, rfl, rfl⟩
  obtain ⟨positions, params, hparams, hconserves⟩ := hpaired
  obtain ⟨found, hfound, hnames⟩ := hcollected
  obtain rfl := Option.some.inj (Except.ok.inj (hparams.symm.trans hfound))
  exact ⟨depositInputs_namesApart, by decide, by decide, positions, params, hparams, hconserves,
    hnames⟩

end ParamDoc
end AbiDoc
