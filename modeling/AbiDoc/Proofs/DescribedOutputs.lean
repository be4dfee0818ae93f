import AbiDoc.EntryDoc
import AbiDoc.Proofs.WellFormed
import Mathlib.Data.List.ReduceOption

/-!
# Described outputs

How the outputs of an entry are paired with their descriptions.  Each output is looked up under its
key, which is its name or, where it has none, its position among all outputs; it is listed with the
description that is found there, and left out where there is none (`collect_pairsOutputs`).  Where
the keys of no two outputs can meet (`KeysApart`), no description is used twice.

The walk over the outputs drops some of them on the way, so what is listed is traced back to the
positions from which it was picked (`IsPickedAt`).
-/

namespace AbiDoc

open Outcome Json

/-! ## Picking values out of a list -/

/-- `picked` are the values that are present in a list, and `positions` the places where they stand,
in ascending order. -/
structure IsPickedAt {α : Type} (found : List (Option α)) (positions : List Nat)
    (picked : List α) : Prop where
  ascending : positions.Pairwise (· < ·)
  mem_iff : ∀ position, position ∈ positions ↔ ∃ value, found[position]? = some (some value)
  picked_eq : List.Forall₂ (fun position value => found[position]? = some (some value))
    positions picked

section

variable {α : Type} {found : List (Option α)} {positions : List Nat} {picked : List α}

theorem IsPickedAt.pairwise_succ (h : IsPickedAt found positions picked) :
    (positions.map (· + 1)).Pairwise (· < ·) := by
  rw [List.pairwise_map]
  exact h.ascending.imp Nat.succ_lt_succ

theorem IsPickedAt.picked_succ (h : IsPickedAt found positions picked) (head : Option α) :
    List.Forall₂ (fun position value => (head :: found)[position]? = some (some value))
      (positions.map (· + 1)) picked := by
  rw [List.forall₂_map_left_iff]
  exact h.picked_eq

theorem IsPickedAt.cons_none (h : IsPickedAt found positions picked) :
    IsPickedAt (none :: found) (positions.map (· + 1)) picked where
  ascending := h.pairwise_succ
  mem_iff position := by
    cases position with
    | zero => simp
    | succ position => simpa using h.mem_iff position
  picked_eq := h.picked_succ none

theorem IsPickedAt.cons_some (h : IsPickedAt found positions picked) (value : α) :
    IsPickedAt (some value :: found) (0 :: positions.map (· + 1)) (value :: picked) where
  ascending := by
    refine List.pairwise_cons.mpr ⟨?_, h.pairwise_succ⟩
    intro position hposition
    obtain ⟨earlier, -, rfl⟩ := List.mem_map.mp hposition
    exact Nat.succ_pos earlier
  mem_iff position := by
    cases position with
    | zero => simp
    | succ position => simpa using h.mem_iff position
  picked_eq := .cons rfl (h.picked_succ (some value))

/-- Leaving out what is missing picks the values that are present. -/
theorem exists_isPickedAt (found : List (Option α)) :
    ∃ positions, IsPickedAt found positions found.reduceOption := by
  induction found with
  | nil => exact ⟨[], .nil, by simp, .nil⟩
  | cons head found ih =>
      obtain ⟨positions, h⟩ := ih
      cases head with
      | none => exact ⟨_, by simpa using h.cons_none⟩
      | some value => exact ⟨_, by simpa using h.cons_some value⟩

/-- Values that stem from ascending positions have distinct keys where no two positions share one.
-/
theorem nodup_map_of_ascending {β : Type} {key : α → β} {stems : Nat → α → Prop}
    (hascending : positions.Pairwise (· < ·)) (hpicked : List.Forall₂ stems positions picked)
    (hapart : ∀ (position other : Nat) (value named : α), stems position value →
      stems other named → key value = key named → position = other) :
    (picked.map key).Nodup := by
  rw [List.Nodup, List.pairwise_map]
  induction hpicked with
  | nil => exact .nil
  | @cons position value positions picked hvalue hpicked ih =>
      obtain ⟨hfirst, hrest⟩ := List.pairwise_cons.mp hascending
      refine List.pairwise_cons.mpr ⟨?_, ih hrest⟩
      intro named hnamed hkey
      obtain ⟨later, hlater, hstems⟩ := exists_mem_of_forall₂ hpicked hnamed
      have hsame : position = later := hapart position later value named hvalue hstems hkey
      exact absurd (hfirst later hlater) (by simp [hsame])

end

namespace ReturnDoc

/-! ## Keys of outputs -/

/-- The name of an output, which is empty where it has none. -/
def nameOf (output : Json) : String :=
  match output.field "name" with
  | .ok (.str name) => name
  | _ => ""

/-- The key under which an output at a position is described: its name, or its position with an
underscore before it. -/
def keyOf (output : Json) (position : Nat) : String :=
  if nameOf output = "" then "_" ++ toString position else nameOf output

/-- Positions have different keys, since the digits of a number give it back. -/
theorem eq_of_positionName {position other : Nat}
    (h : "_" ++ toString position = "_" ++ toString other) : position = other := by
  have hdigits : Nat.toDigits 10 position = Nat.toDigits 10 other := by
    rw [← Nat.toList_repr, ← Nat.toList_repr]
    exact congrArg String.toList ((String.append_right_inj "_").mp h)
  have hvalue := congrArg (Nat.ofDigitChars 10 · 0) hdigits
  simpa only [Nat.ofDigitChars_ten_toDigits] using hvalue

/-- No two outputs have one name, and no output is named like the position of one without a name. -/
structure KeysApart (outputs : List Json) : Prop where
  names : ∀ (position other : Nat) (output named : Json), outputs[position]? = some output →
    outputs[other]? = some named → nameOf output ≠ "" → nameOf output = nameOf named →
      position = other
  positions : ∀ (position other : Nat) (output named : Json), outputs[position]? = some output →
    outputs[other]? = some named → nameOf output = "" → nameOf named ≠ "_" ++ toString position

/-- Outputs with keys that cannot meet have different keys. -/
theorem KeysApart.eq_of_keyOf {outputs : List Json} (h : KeysApart outputs) {position other : Nat}
    {output named : Json} (houtput : outputs[position]? = some output)
    (hnamed : outputs[other]? = some named) (hkey : keyOf output position = keyOf named other) :
    position = other := by
  unfold keyOf at hkey
  by_cases hleft : nameOf output = ""
  · by_cases hright : nameOf named = ""
    · rw [if_pos hleft, if_pos hright] at hkey
      exact eq_of_positionName hkey
    · rw [if_pos hleft, if_neg hright] at hkey
      exact absurd hkey.symm (h.positions position other output named houtput hnamed hleft)
  · by_cases hright : nameOf named = ""
    · rw [if_neg hleft, if_pos hright] at hkey
      exact absurd hkey (h.positions other position named output hnamed houtput hright)
    · rw [if_neg hleft, if_neg hright] at hkey
      exact h.names position other output named houtput hnamed hleft hkey

/-- The text that an output is looked up by is its key. -/
theorem orElse_positionKey {output given : Json} (hgiven : output.field "name" = .ok given)
    (hname : given.NullOr IsText) (position : Nat) :
    given.orElse (positionKey position) = .str (keyOf output position) := by
  rcases hname with rfl | ⟨name, rfl⟩
  · simp [orElse, truthy, keyOf, nameOf, hgiven, positionKey]
  · by_cases hempty : name = ""
    · simp [orElse, truthy, keyOf, nameOf, hgiven, positionKey, hempty]
    · simp [orElse, truthy, keyOf, nameOf, hgiven, hempty]

/-! ## One output -/

variable {descriptions : Assoc String Json} {output : Json} {outputs : List Json}

/-- The description of an output, under its key; what does not count as given is none. -/
def descriptionOf (descriptions : Assoc String Json) (output : Json) (position : Nat) :
    Option Json :=
  (Assoc.find? (keyOf output position) descriptions).filter truthy

/-- The record of an output: its key, its declared type and its description. -/
structure IsReturnOf (descriptions : Assoc String Json) (output : Json) (position : Nat)
    (ret : ReturnDoc) : Prop where
  name_eq : ret.name = .str (keyOf output position)
  type_eq : output.require "type" = .ok ret.type
  description_eq : descriptionOf descriptions output position = some ret.description

theorem ofOutput?_eq (hname : output.Allows "name" IsText) (position : Nat) :
    ofOutput? (.obj descriptions) output position =
      match descriptionOf descriptions output position with
      | some description => (output.require "type").map fun type =>
          some ⟨.str (keyOf output position), type, description⟩
      | none => .ok none := by
  obtain ⟨given, hgiven, htext⟩ := hname
  have hkey := orElse_positionKey hgiven htext position
  rw [ofOutput?, hgiven, ok_bind, hkey]
  dsimp only
  rw [fieldOf_obj, ok_bind, descriptionOf]
  cases Assoc.find? (keyOf output position) descriptions with
  | none => rfl
  | some description =>
      rw [Option.getD_some, Option.filter_some]
      split
      · exact bind_pure_eq_map _ _
      · rfl

/-- An output gives its record where it has a description, and none otherwise. -/
theorem ofOutput?_eq_ok_some_iff (hname : output.Allows "name" IsText) {position : Nat}
    {ret : ReturnDoc} :
    ofOutput? (.obj descriptions) output position = .ok (some ret) ↔
      IsReturnOf descriptions output position ret := by
  rw [ofOutput?_eq hname]
  constructor
  · intro h
    split at h
    · rename_i description hdescription
      obtain ⟨type, htype, hret⟩ := map_eq_ok_iff.mp h
      obtain rfl := Option.some.inj hret
      exact ⟨rfl, htype, hdescription⟩
    · cases h
  · rintro ⟨hkey, htype, hdescription⟩
    rw [hdescription, ← hkey]
    exact map_eq_ok_iff.mpr ⟨ret.type, htype, rfl⟩

/-- An output that has a type and may have a name can be looked up. -/
theorem exists_ofOutput? (htype : output.Demands "type" IsText)
    (hname : output.Allows "name" IsText) (position : Nat) :
    ∃ found, ofOutput? (.obj descriptions) output position = .ok found := by
  obtain ⟨type, htype, -⟩ := htype
  rw [ofOutput?_eq hname]
  cases descriptionOf descriptions output position with
  | none => exact ⟨none, rfl⟩
  | some description => exact ⟨_, map_eq_ok_iff.mpr ⟨type, htype, rfl⟩⟩

/-! ## All outputs -/

/-- The output at a position is described. -/
def IsDescribedAt (descriptions : Assoc String Json) (outputs : List Json) (position : Nat) :
    Prop :=
  ∃ output description, outputs[position]? = some output ∧
    descriptionOf descriptions output position = some description

/-- The record of the output at a position. -/
def IsReturnAt (descriptions : Assoc String Json) (outputs : List Json) (position : Nat)
    (ret : ReturnDoc) : Prop :=
  ∃ output, outputs[position]? = some output ∧ IsReturnOf descriptions output position ret

theorem exists_isReturnAt_iff (htypes : ∀ output ∈ outputs, output.Demands "type" IsText)
    {position : Nat} :
    (∃ ret, IsReturnAt descriptions outputs position ret) ↔
      IsDescribedAt descriptions outputs position := by
  constructor
  · rintro ⟨ret, output, houtput, hret⟩
    exact ⟨output, ret.description, houtput, hret.description_eq⟩
  · rintro ⟨output, description, houtput, hdescription⟩
    obtain ⟨type, htype, -⟩ := htypes output (List.mem_of_getElem? houtput)
    exact ⟨⟨_, type, description⟩, output, houtput, rfl, htype, hdescription⟩

/-- The walk over the outputs finds, at each position, the record of the output there. -/
theorem getElem?_of_walk {found : List (Option ReturnDoc)}
    (hnames : ∀ output ∈ outputs, output.Allows "name" IsText)
    (hfound : (outputs.zipIdx.mapM fun (output, position) =>
      ofOutput? (.obj descriptions) output position) = .ok found)
    {position : Nat} {ret : ReturnDoc} :
    found[position]? = some (some ret) ↔ IsReturnAt descriptions outputs position ret := by
  have hplaced : found[position]? = some (some ret) ↔ ∃ placed,
      outputs.zipIdx[position]? = some placed ∧
        ofOutput? (.obj descriptions) placed.1 placed.2 = .ok (some ret) :=
    getElem?_of_mapM hfound
  rw [hplaced]
  constructor
  · rintro ⟨placed, hplaced, hret⟩
    rw [List.getElem?_zipIdx] at hplaced
    obtain ⟨output, houtput, rfl⟩ := Option.map_eq_some_iff.mp hplaced
    have hname := hnames output (List.mem_of_getElem? houtput)
    rw [Nat.zero_add] at hret
    exact ⟨output, houtput, (ofOutput?_eq_ok_some_iff hname).mp hret⟩
  · rintro ⟨output, houtput, hret⟩
    have hname := hnames output (List.mem_of_getElem? houtput)
    refine ⟨(output, position), ?_, (ofOutput?_eq_ok_some_iff hname).mpr hret⟩
    rw [List.getElem?_zipIdx, houtput, Nat.zero_add]
    rfl

/-- `returns` pairs outputs with their descriptions.  There is one record for each of `positions`,
which are those of the described outputs in ascending order; a description is listed when its key is
that of some output; and no key is listed twice where the keys of the outputs are apart. -/
structure PairsOutputs (descriptions : Assoc String Json) (outputs : List Json)
    (positions : List Nat) (returns : List ReturnDoc) : Prop where
  ascending : positions.Pairwise (· < ·)
  mem_positions_iff : ∀ position,
    position ∈ positions ↔ IsDescribedAt descriptions outputs position
  returns_eq : List.Forall₂ (IsReturnAt descriptions outputs) positions returns
  lists_descriptions : ∀ (position : Nat) (output description : Json),
    outputs[position]? = some output →
      Assoc.find? (keyOf output position) descriptions = some description →
        description.truthy = true →
          ∃ ret ∈ returns, ret.name = .str (keyOf output position) ∧
            ret.description = description
  nodup_names : KeysApart outputs → (returns.map ReturnDoc.name).Nodup

/-- The names of the records of outputs whose keys are apart are distinct, since each record has the
key of the output at its own position. -/
theorem nodup_names_of_keysApart {positions : List Nat} {returns : List ReturnDoc}
    (hascending : positions.Pairwise (· < ·))
    (hreturns : List.Forall₂ (IsReturnAt descriptions outputs) positions returns)
    (hapart : KeysApart outputs) : (returns.map ReturnDoc.name).Nodup := by
  apply nodup_map_of_ascending hascending hreturns
  rintro position other ret named ⟨output, houtput, hret⟩ ⟨later, hlater, hnamed⟩ hname
  rw [hret.name_eq, hnamed.name_eq] at hname
  exact hapart.eq_of_keyOf houtput hlater (Json.str.inj hname)

/-- A fragment with descriptions of outputs has the outputs walked over. -/
theorem collect_eq {dev entry : Json} (hdev : dev.require "returns" = .ok (.obj descriptions))
    (houtputs : entry.fieldElements "outputs" = .ok outputs) :
    collect dev entry =
      (outputs.zipIdx.mapM fun (output, position) =>
        ofOutput? (.obj descriptions) output position).map fun found =>
          some (List.reduceOption found) := by
  have hgiven : Json.obj descriptions ≠ .null := by simp
  rw [collect, if_pos (truthy_of_require hdev), field_of_require hdev, ok_bind]
  dsimp only
  rw [if_neg hgiven, houtputs, ok_bind, ← bind_pure_eq_map]

/-- The outputs of an entry that have types and may have names are paired with their descriptions.
-/
theorem collect_pairsOutputs {dev entry : Json}
    (hdev : dev.require "returns" = .ok (.obj descriptions))
    (houtputs : entry.fieldElements "outputs" = .ok outputs)
    (hitems : ∀ output ∈ outputs, output.Demands "type" IsText ∧ output.Allows "name" IsText) :
    ∃ positions returns, collect dev entry = .ok (some returns) ∧
      PairsOutputs descriptions outputs positions returns := by
  have hwalk : ∀ placed ∈ outputs.zipIdx,
      Gives (ofOutput? (.obj descriptions) placed.1 placed.2) fun _ => True := by
    intro placed hplaced
    obtain ⟨htype, hname⟩ := hitems placed.1 (List.fst_mem_of_mem_zipIdx hplaced)
    obtain ⟨ret, hret⟩ := exists_ofOutput? htype hname placed.2
    exact ⟨ret, hret, trivial⟩
  obtain ⟨found, hfound, -⟩ := gives_mapM hwalk
  obtain ⟨positions, hpicked⟩ := exists_isPickedAt found
  have hnames : ∀ output ∈ outputs, output.Allows "name" IsText :=
    fun output houtput => (hitems output houtput).2
  have hreturns : List.Forall₂ (IsReturnAt descriptions outputs) positions found.reduceOption :=
    hpicked.picked_eq.imp fun _ _ => (getElem?_of_walk hnames hfound).mp
  have hdescribed : ∀ position,
      position ∈ positions ↔ IsDescribedAt descriptions outputs position := by
    intro position
    rw [hpicked.mem_iff, ← exists_isReturnAt_iff fun output houtput => (hitems output houtput).1]
    exact exists_congr fun ret => getElem?_of_walk hnames hfound
  refine ⟨positions, found.reduceOption, ?_, hpicked.ascending, hdescribed, hreturns, ?_,
    nodup_names_of_keysApart hpicked.ascending hreturns⟩
  · rw [collect_eq hdev houtputs, hfound]
    rfl
  · intro position output description houtput hfound hgiven
    have hdescription : descriptionOf descriptions output position = some description := by
      rw [descriptionOf, hfound, Option.filter_some, if_pos hgiven]
    have hposition := (hdescribed position).mpr ⟨output, description, houtput, hdescription⟩
    obtain ⟨ret, hmem, found, hoccurs, hret⟩ := exists_mem_of_forall₂ hreturns.flip hposition
    obtain rfl := Option.some.inj (houtput.symm.trans hoccurs)
    have hsame : some ret.description = some description :=
      hret.description_eq.symm.trans hdescription
    exact ⟨ret, hmem, hret.name_eq, Option.some.inj hsame⟩

/-! ## Outputs with and without names -/

/-- An amount, an account without a name, a flag that nobody describes and a digest of which the
name is null. -/
def receiptOutputs : List Json := [
  .obj [("name", .str "amount"), ("type", .str "uint256")],
  .obj [("type", .str "address")],
  .obj [("name", .str ""), ("type", .str "bool")],
  .obj [("name", .null), ("type", .str "bytes32")]]

/-- Descriptions in another order, of which one is blank and one belongs to no output. -/
def receiptDescriptions : Assoc String Json :=
  [("_3", .str "The digest"), ("_2", .str ""), ("_0", .str "Stray"), ("_1", .str "The payee"),
    ("amount", .str "What was paid")]

theorem receiptOutputs_named {position : Nat} {output : Json}
    (houtput : receiptOutputs[position]? = some output) (hname : nameOf output ≠ "") :
    position = 0 ∧ nameOf output = "amount" := by
  rcases position with _ | _ | _ | _ | position
  · obtain rfl := Option.some.inj houtput
    exact ⟨rfl, rfl⟩
  · obtain rfl := Option.some.inj houtput
    exact absurd rfl hname
  · obtain rfl := Option.some.inj houtput
    exact absurd rfl hname
  · obtain rfl := Option.some.inj houtput
    exact absurd rfl hname
  · cases houtput

theorem receiptOutputs_keysApart : KeysApart receiptOutputs where
  names position other output named houtput hnamed hname hsame := by
    rw [(receiptOutputs_named houtput hname).1,
      (receiptOutputs_named hnamed (hsame ▸ hname)).1]
  positions position other output named _ hnamed _ hname := by
    have hamount := (receiptOutputs_named hnamed (by simp [hname])).2
    have hletters := congrArg String.toList (hamount.symm.trans hname)
    simp at hletters

/-- Positions are counted over all outputs, so the digest keeps its own behind the flag. -/
theorem collect_pairsOutputs_receipt :
    KeysApart receiptOutputs ∧ ∃ positions returns,
      collect (.obj [("returns", .obj receiptDescriptions)])
          (.obj [("outputs", .arr receiptOutputs)]) = .ok (some returns) ∧
        PairsOutputs receiptDescriptions receiptOutputs positions returns ∧
        returns.map ReturnDoc.name = [.str "amount", .str "_1", .str "_3"] := by
  have hitems : ∀ output ∈ receiptOutputs,
      output.Demands "type" IsText ∧ output.Allows "name" IsText := by
    intro output houtput
    simp only [receiptOutputs, List.mem_cons, List.not_mem_nil, or_false] at houtput
    rcases houtput with rfl | rfl | rfl | rfl
    · exact ⟨⟨_, rfl, _, rfl⟩, _, rfl, Or.inr ⟨_, rfl⟩⟩
    · exact ⟨⟨_, rfl, _, rfl⟩, _, rfl, Or.inl rfl⟩
    · exact ⟨⟨_, rfl, _, rfl⟩, _, rfl, Or.inr ⟨_, rfl⟩⟩
    · exact ⟨⟨_, rfl, _, rfl⟩, _, rfl, Or.inl rfl⟩
  have hpaired : ∃ positions returns,
      collect (.obj [("returns", .obj receiptDescriptions)])
          (.obj [("outputs", .arr receiptOutputs)]) = .ok (some returns) ∧
        PairsOutputs receiptDescriptions receiptOutputs positions returns :=
    collect_pairsOutputs rfl rfl hitems
  have hcollected : ∃ found,
      collect (.obj [("returns", .obj receiptDescriptions)])
          (.obj [("outputs", .arr receiptOutputs)]) = .ok (some found) ∧
        found.map ReturnDoc.name = [.str "amount", .str "_1", .str "_3"] := ⟨_, rfl, rfl⟩
  obtain ⟨positions, returns, hreturns, hpairs⟩ := hpaired
  obtain ⟨found, hfound, hnames⟩ := hcollected
  obtain rfl := Option.some.inj (Except.ok.inj (hreturns.symm.trans hfound))
  exact ⟨receiptOutputs_keysApart, positions, returns, hreturns, hpairs, hnames⟩

end ReturnDoc
end AbiDoc
