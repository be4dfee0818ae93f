import AbiDoc.Proofs.ComponentShape
import Mathlib.Algebra.Order.BigOperators.Group.List
import Mathlib.Algebra.Order.Ring.Nat

/-!
# Signatures and the compiler's keys

A compiler files an entry under its name with the types of its inputs, where a tuple stands as its
components' types between parentheses with all of its array dimensions after them.  A canonical
signature keeps the dimensions of a tuple only where there are none or a single dynamic one.  It is
therefore the compiler's key exactly for inputs that have no other tuples, at any depth
(`signature_eq_compilerKey_iff`); every other signature is shorter than the key.
-/

namespace AbiDoc

/-- One dimension of an array type. -/
inductive Dimension where
  | dynamic
  | fixed (size : Nat)
  deriving DecidableEq

namespace Dimension

def text : Dimension → String
  | .dynamic => "[]"
  | .fixed size => "[" ++ toString size ++ "]"

/-- The suffix of an array type. -/
def suffix (dimensions : List Dimension) : String := String.join (dimensions.map text)

theorem length_text_fixed (size : Nat) :
    (fixed size).text.length = (toString size).length + 2 := by
  have hopen : "[".length = 1 := rfl
  have hclose : "]".length = 1 := rfl
  simp only [text, String.length_append]
  omega

theorem two_le_length_text (dimension : Dimension) : 2 ≤ dimension.text.length := by
  cases dimension with
  | dynamic => decide
  | fixed size =>
      rw [length_text_fixed]
      omega

/-- The dynamic dimension is the only one with nothing between its brackets. -/
theorem eq_dynamic_of_length_text {dimension : Dimension} (h : dimension.text.length = 2) :
    dimension = .dynamic := by
  cases dimension with
  | dynamic => rfl
  | fixed size =>
      have hsize : 0 < (toString size).length := Nat.length_repr_pos
      rw [length_text_fixed] at h
      omega

/-- Two characters make no suffix but that of a single dynamic dimension. -/
theorem eq_of_length_suffix {dimensions : List Dimension} (h : (suffix dimensions).length ≤ 2) :
    dimensions = [] ∨ dimensions = [.dynamic] := by
  rw [suffix, String.length_join] at h
  cases dimensions with
  | nil => exact Or.inl rfl
  | cons first rest =>
      have hfirst := two_le_length_text first
      simp only [List.map_cons, List.sum_cons] at h
      cases rest with
      | nil =>
          simp only [List.map_nil, List.sum_nil] at h
          have htwo : first.text.length = 2 := by omega
          rw [eq_dynamic_of_length_text htwo]
          exact Or.inr rfl
      | cons second rest =>
          have hsecond := two_le_length_text second
          simp only [List.map_cons, List.sum_cons] at h
          omega

/-- A tuple is declared as `tuple[]` exactly when a dynamic dimension is its only one. -/
theorem tuple_append_suffix_eq_iff {dimensions : List Dimension} :
    "tuple" ++ suffix dimensions = "tuple[]" ↔ dimensions = [.dynamic] := by
  constructor
  · intro h
    have hlength := congrArg String.length h
    rw [String.length_append] at hlength
    have htuple : "tuple".length = 5 := rfl
    have harray : "tuple[]".length = 7 := rfl
    have hsuffix : (suffix dimensions).length ≤ 2 := by omega
    rcases eq_of_length_suffix hsuffix with rfl | rfl
    · exact absurd h (by decide)
    · rfl
  · rintro rfl
    decide

end Dimension

/-- A type of an interface: an elementary type or a tuple, or an array of one of them. -/
inductive AbiType where
  | elementary (base : String) (dimensions : List Dimension)
  | tuple (components : List AbiType) (dimensions : List Dimension)

namespace AbiType

/-- Induction on a type, with the statement for every component of a tuple. -/
theorem induction {motive : AbiType → Prop}
    (elementary : ∀ base dimensions, motive (.elementary base dimensions))
    (tuple : ∀ components dimensions, (∀ component ∈ components, motive component) →
      motive (.tuple components dimensions)) :
    ∀ type, motive type
  | .elementary base dimensions => elementary base dimensions
  | .tuple components dimensions =>
      tuple components dimensions fun component _ => induction elementary tuple component

mutual

/-- The type as a compiler writes it into the key of an entry. -/
def key : AbiType → String
  | .elementary base dimensions => base ++ Dimension.suffix dimensions
  | .tuple components dimensions =>
      "(" ++ ",".intercalate (keys components) ++ ")" ++ Dimension.suffix dimensions
termination_by structural type => type

/-- The keys of types in a row. -/
def keys : List AbiType → List String
  | [] => []
  | type :: rest => key type :: keys rest
termination_by structural types => types

end

mutual

/-- What a canonical signature keeps of the type. -/
def shape : AbiType → Shape
  | .elementary base dimensions => .leaf (base ++ Dimension.suffix dimensions)
  | .tuple components dimensions => .tuple (decide (dimensions = [.dynamic])) (shapes components)
termination_by structural type => type

/-- What a canonical signature keeps of types in a row. -/
def shapes : List AbiType → List Shape
  | [] => []
  | type :: rest => shape type :: shapes rest
termination_by structural types => types

end

theorem keys_eq_map (types : List AbiType) : keys types = types.map key := by
  induction types with
  | nil => rfl
  | cons type rest ih => rw [keys, ih, List.map_cons]

theorem shapes_eq_map (types : List AbiType) : shapes types = types.map shape := by
  induction types with
  | nil => rfl
  | cons type rest ih => rw [shapes, ih, List.map_cons]

/-- Every tuple in the type has no dimensions, or a single dynamic one. -/
inductive DimensionsKept : AbiType → Prop
  | elementary (base : String) (dimensions : List Dimension) :
      DimensionsKept (.elementary base dimensions)
  | tuple {components : List AbiType} {dimensions : List Dimension}
      (hdimensions : dimensions = [] ∨ dimensions = [.dynamic])
      (hcomponents : ∀ component ∈ components, DimensionsKept component) :
      DimensionsKept (.tuple components dimensions)

/-! ## Lengths of listings -/

theorem length_intercalate (separator : String) (texts : List String) :
    (separator.intercalate texts).length =
      (texts.map String.length).sum + separator.length * (texts.length - 1) := by
  induction texts with
  | nil => simp
  | cons text rest ih =>
      cases rest with
      | nil => simp
      | cons next rest =>
          rw [String.intercalate_cons_cons, String.length_append, String.length_append, ih]
          simp only [List.map_cons, List.sum_cons, List.length_cons]
          simp only [Nat.add_sub_cancel, Nat.mul_succ]
          omega

/-- Listings with fewer characters in some part, and with more in none, are shorter. -/
theorem length_intercalate_lt {α : Type} {f g : α → String} (separator : String) {items : List α}
    (hle : ∀ item ∈ items, (f item).length ≤ (g item).length)
    (hlt : ∃ item ∈ items, (f item).length < (g item).length) :
    (separator.intercalate (items.map f)).length <
      (separator.intercalate (items.map g)).length := by
  rw [length_intercalate, length_intercalate, List.map_map, List.map_map, List.length_map,
    List.length_map]
  have hsum := List.sum_lt_sum (String.length ∘ f) (String.length ∘ g) hle hlt
  omega

theorem length_intercalate_le {α : Type} {f g : α → String} (separator : String) {items : List α}
    (hle : ∀ item ∈ items, (f item).length ≤ (g item).length) :
    (separator.intercalate (items.map f)).length ≤
      (separator.intercalate (items.map g)).length := by
  rw [length_intercalate, length_intercalate, List.map_map, List.map_map, List.length_map,
    List.length_map]
  have hsum := List.sum_le_sum (f := String.length ∘ f) (g := String.length ∘ g) hle
  omega

/-! ## The text of a type against its key -/

theorem key_tuple (components : List AbiType) (dimensions : List Dimension) :
    key (.tuple components dimensions) =
      "(" ++ ",".intercalate (components.map key) ++ ")" ++ Dimension.suffix dimensions := by
  rw [key, keys_eq_map]

theorem text_shape_tuple (components : List AbiType) (dimensions : List Dimension) :
    (shape (.tuple components dimensions)).text =
      "(" ++ ",".intercalate (components.map fun component => component.shape.text) ++ ")" ++
        if dimensions = [.dynamic] then "[]" else "" := by
  rw [shape, shapes_eq_map, Shape.text_tuple, Shape.listing, List.map_map]
  simp only [decide_eq_true_eq]
  rfl

/-- What is left of the dimensions of a tuple is no longer than the dimensions are. -/
theorem length_keptSuffix_le (dimensions : List Dimension) :
    (if dimensions = [.dynamic] then "[]" else "").length ≤
      (Dimension.suffix dimensions).length := by
  split
  · rename_i hdynamic
    subst hdynamic
    decide
  · exact Nat.zero_le _

theorem eq_of_length_keptSuffix {dimensions : List Dimension}
    (h : (Dimension.suffix dimensions).length ≤
      (if dimensions = [.dynamic] then "[]" else "").length) :
    dimensions = [] ∨ dimensions = [.dynamic] := by
  apply Dimension.eq_of_length_suffix
  apply h.trans
  split
  · decide
  · decide

theorem length_text_shape_le (type : AbiType) : type.shape.text.length ≤ type.key.length := by
  induction type using AbiType.induction with
  | elementary base dimensions => exact Nat.le_refl _
  | tuple components dimensions ih =>
      have hlistings := length_intercalate_le "," ih
      have hsuffixes := length_keptSuffix_le dimensions
      rw [key_tuple, text_shape_tuple]
      simp only [String.length_append]
      omega

/-- Where the texts of types are together as long as their keys, each of them is. -/
theorem length_key_le_of_intercalate {types : List AbiType}
    (h : (",".intercalate (types.map key)).length ≤
      (",".intercalate (types.map fun type => type.shape.text)).length) :
    ∀ type ∈ types, type.key.length ≤ type.shape.text.length := by
  intro type htype
  by_contra hshorter
  have hle : ∀ other ∈ types, other.shape.text.length ≤ other.key.length := by
    intro other _
    exact length_text_shape_le other
  have hlt := length_intercalate_lt "," hle ⟨type, htype, Nat.lt_of_not_le hshorter⟩
  omega

/-- A type of which dimensions are dropped has a text that is shorter than its key. -/
theorem dimensionsKept_of_length {type : AbiType}
    (h : type.key.length ≤ type.shape.text.length) : type.DimensionsKept := by
  induction type using AbiType.induction with
  | elementary base dimensions => exact .elementary base dimensions
  | tuple components dimensions ih =>
      have hlistings := length_intercalate_le "," fun component (_ : component ∈ components) =>
        length_text_shape_le component
      have hsuffixes := length_keptSuffix_le dimensions
      rw [key_tuple, text_shape_tuple] at h
      simp only [String.length_append] at h
      constructor
      · apply eq_of_length_keptSuffix
        omega
      · intro component hcomponent
        apply ih component hcomponent
        apply length_key_le_of_intercalate _ component hcomponent
        omega

theorem DimensionsKept.text_shape_eq {type : AbiType} (h : type.DimensionsKept) :
    type.shape.text = type.key := by
  induction h with
  | elementary base dimensions => rfl
  | @tuple components dimensions hdimensions _ ih =>
      have hsuffix : (if dimensions = [.dynamic] then "[]" else "") =
          Dimension.suffix dimensions := by
        rcases hdimensions with rfl | rfl
        · rfl
        · rfl
      rw [key_tuple, text_shape_tuple, hsuffix, List.map_congr_left ih]

end AbiType

/-- `component` declares the type: its `type` is an elementary type or `tuple`, with the suffix of
the dimensions, and the components of a tuple declare the types of its components. -/
inductive Declares : Json → AbiType → Prop
  | elementary {component : Json} {base : String} {dimensions : List Dimension}
      (hcomponents : component.field "components" = .ok .null)
      (htype : component.require "type" = .ok (.str (base ++ Dimension.suffix dimensions))) :
      Declares component (.elementary base dimensions)
  | tuple {component : Json} {items : List Json} {components : List AbiType}
      {dimensions : List Dimension}
      (hcomponents : component.field "components" = .ok (.arr items))
      (htype : component.require "type" = .ok (.str ("tuple" ++ Dimension.suffix dimensions)))
      (hitems : List.Forall₂ Declares items components) :
      Declares component (.tuple components dimensions)

theorem Declares.hasShape {component : Json} {type : AbiType} (h : Declares component type) :
    HasShape component type.shape := by
  induction type using AbiType.induction generalizing component with
  | elementary base dimensions =>
      cases h with
      | elementary hcomponents htype => exact .leaf hcomponents htype
  | tuple components dimensions ih =>
      cases h with
      | @tuple _ items _ _ hcomponents htype hitems =>
          have hparts : List.Forall₂ HasShape items (components.map AbiType.shape) :=
            List.forall₂_map_right_iff.mpr
              (Outcome.forall₂_imp_of_mem_right hitems fun component hcomponent _ =>
                ih component hcomponent)
          have hshape := HasShape.tuple hcomponents (by simp) htype rfl hparts
          simp only [Json.str.injEq, Dimension.tuple_append_suffix_eq_iff] at hshape
          rw [AbiType.shape, AbiType.shapes_eq_map]
          exact hshape

namespace Entry

/-- The key under which a compiler files an entry with a name and inputs of some types. -/
def compilerKey (name : String) (types : List AbiType) : String :=
  name ++ "(" ++ ",".intercalate (types.map AbiType.key) ++ ")"

/-- Every entry with inputs of declared types has a signature, which is the compiler's key exactly
when every tuple among the inputs, at any depth, has no dimensions or a single dynamic one. -/
theorem signature_eq_compilerKey_iff {entry : Json} {name : String} {inputs : List Json}
    {types : List AbiType} (hname : entry.require "name" = .ok (.str name))
    (hinputs : entry.fieldElements "inputs" = .ok inputs)
    (htypes : List.Forall₂ Declares inputs types) :
    ∃ key, signature entry = .ok key ∧
      (key = compilerKey name types ↔ ∀ type ∈ types, type.DimensionsKept) := by
  have hshapes : List.Forall₂ HasShape inputs (types.map AbiType.shape) :=
    List.forall₂_map_right_iff.mpr (htypes.imp fun _ _ => Declares.hasShape)
  refine ⟨_, signature_eq_ok_iff.mpr ⟨.str name, inputs, _, hname, hinputs, hshapes, rfl⟩, ?_⟩
  rw [Json.plain_str, Shape.listing, List.map_map, compilerKey]
  constructor
  · intro heq type htype
    have hlength := congrArg String.length heq
    simp only [String.length_append, Function.comp_def] at hlength
    apply AbiType.dimensionsKept_of_length
    apply AbiType.length_key_le_of_intercalate _ type htype
    omega
  · intro hkept
    have htexts : types.map (Shape.text ∘ AbiType.shape) = types.map AbiType.key :=
      List.map_congr_left fun type htype => (hkept type htype).text_shape_eq
    rw [htexts]

/-- An order, or an array of orders, as it is declared. -/
def order (declared : String) : Json :=
  .obj [("name", .str "orders"), ("type", .str declared), ("components", .arr [
    .obj [("name", .str "amount"), ("type", .str "uint256")],
    .obj [("name", .str "maker"), ("type", .str "address")]])]

/-- The type of orders in an array of some dimensions. -/
def orderType (dimensions : List Dimension) : AbiType :=
  .tuple [.elementary "uint256" [], .elementary "address" []] dimensions

/-- A function that fills orders. -/
def fill (declared : String) : Json :=
  .obj [("type", .str "function"), ("name", .str "fill"), ("inputs", .arr [order declared])]

theorem declares_order (dimensions : List Dimension) :
    Declares (order ("tuple" ++ Dimension.suffix dimensions)) (orderType dimensions) := by
  refine .tuple rfl rfl (.cons ?_ (.cons ?_ .nil))
  · exact .elementary rfl rfl
  · exact .elementary rfl rfl

/-- Orders in a dynamic array are filed where the compiler files them. -/
theorem signature_eq_compilerKey_iff_fill :
    (fill "tuple[]").require "name" = .ok (.str "fill") ∧
      (fill "tuple[]").fieldElements "inputs" = .ok [order "tuple[]"] ∧
      List.Forall₂ Declares [order "tuple[]"] [orderType [.dynamic]] ∧
      ∃ key, signature (fill "tuple[]") = .ok key ∧
        (key = compilerKey "fill" [orderType [.dynamic]] ↔
          ∀ type ∈ [orderType [.dynamic]], type.DimensionsKept) :=
  have hinputs : List.Forall₂ Declares [order "tuple[]"] [orderType [.dynamic]] :=
    .cons (declares_order [.dynamic]) .nil
  ⟨rfl, rfl, hinputs, signature_eq_compilerKey_iff rfl rfl hinputs⟩

/-- Orders in an array of three are not: the signature is that of a single order. -/
theorem signature_fill_ne_compilerKey :
    (fill "tuple[3]").require "name" = .ok (.str "fill") ∧
      (fill "tuple[3]").fieldElements "inputs" = .ok [order "tuple[3]"] ∧
      List.Forall₂ Declares [order "tuple[3]"] [orderType [.fixed 3]] ∧
      compilerKey "fill" [orderType [.fixed 3]] = "fill((uint256,address)[3])" ∧
      signature (fill "tuple[3]") = .ok "fill((uint256,address))" ∧
      signature (fill "tuple[3]") ≠ .ok (compilerKey "fill" [orderType [.fixed 3]]) :=
  ⟨rfl, rfl, .cons (declares_order [.fixed 3]) .nil, by decide, by decide, by decide⟩

end Entry

end AbiDoc
