import AbiDoc.Proofs.Access
import AbiDoc.Signature

/-!
# Shapes of components

What a canonical signature keeps of an input: a leaf keeps its declared type, and a component with
components of its own keeps their shapes and whether it is declared as `tuple[]`.  A component has
a canonical type exactly when it has a shape, and the type is the text of the shape
(`canonicalType_eq_str_iff`); a signature is the name with the texts of the inputs' shapes
(`signature_eq_ok_iff`).
-/

namespace AbiDoc

/-- What a canonical type is made of. -/
inductive Shape where
  | leaf (type : String)
  | tuple (isArray : Bool) (parts : List Shape)

namespace Shape

/-- Induction on a shape, with the statement for every part of a tuple. -/
theorem induction {motive : Shape → Prop}
    (leaf : ∀ type, motive (.leaf type))
    (tuple : ∀ isArray parts, (∀ part ∈ parts, motive part) → motive (.tuple isArray parts)) :
    ∀ shape, motive shape
  | .leaf type => leaf type
  | .tuple isArray parts =>
      tuple isArray parts fun part _ => induction leaf tuple part

mutual

/-- The text of a shape in a signature. -/
def text : Shape → String
  | .leaf type => type
  | .tuple isArray parts =>
      "(" ++ ",".intercalate (texts parts) ++ ")" ++ if isArray then "[]" else ""
termination_by structural shape => shape

/-- The texts of shapes in a row. -/
def texts : List Shape → List String
  | [] => []
  | shape :: rest => text shape :: texts rest
termination_by structural shapes => shapes

end

theorem texts_eq_map (shapes : List Shape) : texts shapes = shapes.map text := by
  induction shapes with
  | nil => rfl
  | cons shape rest ih => rw [texts, ih, List.map_cons]

/-- The texts of shapes with commas between them. -/
def listing (shapes : List Shape) : String := ",".intercalate (shapes.map text)

theorem text_tuple (isArray : Bool) (parts : List Shape) :
    text (.tuple isArray parts) =
      "(" ++ listing parts ++ ")" ++ if isArray then "[]" else "" := by
  rw [text, texts_eq_map, listing]

end Shape

/-- `component` has the shape: it is a leaf, or it has components of the shapes of the parts. -/
inductive HasShape : Json → Shape → Prop
  | leaf {component : Json} {type : String}
      (hnone : component.field "components" = .ok .null)
      (htype : component.require "type" = .ok (.str type)) :
      HasShape component (.leaf type)
  | tuple {component components declared : Json} {items : List Json} {parts : List Shape}
      (hcomponents : component.field "components" = .ok components)
      (hgiven : components ≠ .null)
      (htype : component.require "type" = .ok declared)
      (hitems : components.elements = .ok items)
      (hparts : List.Forall₂ HasShape items parts) :
      HasShape component (.tuple (decide (declared = .str "tuple[]")) parts)

namespace Component

open Outcome

/-- A component of a component is smaller; only an object can have components in its turn. -/
theorem sizeOf_part_lt {component components : Json} {items : List Json}
    {members : List (String × Json)}
    (hcomponents : component.field "components" = .ok components)
    (hitems : components.elements = .ok items) (hmember : .obj members ∈ items) :
    sizeOf (Json.obj members) < sizeOf component := by
  cases component with
  | obj outer =>
      simp only [Json.field, Except.ok.injEq] at hcomponents
      cases hfound : Assoc.find? "components" outer with
      | none =>
          rw [hfound] at hcomponents
          subst hcomponents
          simp [Json.elements] at hitems
      | some found =>
          rw [hfound, Option.getD_some] at hcomponents
          subst hcomponents
          have houter := List.sizeOf_lt_of_mem (Assoc.mem_of_find? hfound)
          cases found with
          | arr parts =>
              simp only [Json.elements, Except.ok.injEq] at hitems
              subst hitems
              have hpart := List.sizeOf_lt_of_mem hmember
              simp only [Prod.mk.sizeOf_spec, Json.arr.sizeOf_spec,
                Json.obj.sizeOf_spec] at houter hpart ⊢
              omega
          | obj inner =>
              simp only [Json.elements, Except.ok.injEq] at hitems
              subst hitems
              simp at hmember
          | str s =>
              simp only [Json.elements, Except.ok.injEq] at hitems
              subst hitems
              simp [Json.characters] at hmember
          | _ => simp [Json.elements] at hitems
  | _ => simp [Json.field] at hcomponents

/-- Induction on a component, with the statement for every component that it has. -/
theorem induction {motive : Json → Prop}
    (step : ∀ component, (∀ components items item,
      component.field "components" = .ok components → components.elements = .ok items →
        item ∈ items → motive item) → motive component)
    (component : Json) : motive component := by
  apply step
  intro components items item hcomponents hitems hitem
  cases item with
  | obj members =>
      have hsmaller := sizeOf_part_lt hcomponents hitems hitem
      exact induction step (.obj members)
  | _ =>
      -- Nothing but an object has a field, so there is nothing to suppose.
      apply step
      intro _ _ _ hfield
      simp [Json.field] at hfield
termination_by sizeOf component
decreasing_by exact hsmaller

/-- Items with canonical types have shapes when each of them has one. -/
theorem exists_shapes {items : List Json} {types : List String}
    (hshape : ∀ item ∈ items, ∀ type, canonicalType item = .ok (.str type) →
      ∃ shape, HasShape item shape ∧ shape.text = type)
    (h : List.Forall₂ (fun item type => canonicalType item = .ok (.str type)) items types) :
    ∃ shapes, List.Forall₂ HasShape items shapes ∧ shapes.map Shape.text = types := by
  induction h with
  | nil => exact ⟨[], .nil, rfl⟩
  | cons htype _ ih =>
      obtain ⟨shape, hhead, rfl⟩ := hshape _ (by simp) _ htype
      obtain ⟨shapes, hrest, rfl⟩ := ih fun item hitem => hshape item (by simp [hitem])
      exact ⟨shape :: shapes, .cons hhead hrest, rfl⟩

/-- The texts that a walk over components gives are those of the components. -/
theorem forall₂_canonicalType_of_mapM {items : List Json} {types : List String}
    (h : items.mapM canonicalType = .ok (types.map .str)) :
    List.Forall₂ (fun item type => canonicalType item = .ok (.str type)) items types := by
  rw [mapM_eq_ok_iff, List.forall₂_map_right_iff] at h
  exact h

theorem exists_hasShape_of_canonicalType {component : Json} {type : String}
    (h : canonicalType component = .ok (.str type)) :
    ∃ shape, HasShape component shape ∧ shape.text = type := by
  induction component using induction generalizing type with
  | step component ih =>
      rw [canonicalType_eq] at h
      obtain ⟨components, hcomponents, h⟩ := bind_eq_ok_iff.mp h
      by_cases hnone : components = .null
      · subst hnone
        rw [if_pos rfl] at h
        exact ⟨.leaf type, .leaf hcomponents h, rfl⟩
      · rw [if_neg hnone] at h
        obtain ⟨declared, hdeclared, h⟩ := bind_eq_ok_iff.mp h
        obtain ⟨items, hitems, h⟩ := bind_eq_ok_iff.mp h
        obtain ⟨types, htypes, h⟩ := bind_eq_ok_iff.mp h
        obtain ⟨inner, hinner, h⟩ := bind_eq_ok_iff.mp h
        obtain ⟨texts, rfl, rfl⟩ := Json.joinTexts_eq_ok_iff.mp hinner
        obtain ⟨shapes, hshapes, rfl⟩ := exists_shapes
          (fun item hitem type => ih components items item hcomponents hitems hitem)
          (forall₂_canonicalType_of_mapM htypes)
        refine ⟨.tuple _ shapes, .tuple hcomponents hnone hdeclared hitems hshapes, ?_⟩
        rw [Shape.text_tuple, ← Json.str.inj (pure_eq_ok_iff.mp h)]
        simp only [decide_eq_true_eq, Shape.listing]

theorem canonicalType_of_hasShape {component : Json} {shape : Shape}
    (h : HasShape component shape) : canonicalType component = .ok (.str shape.text) := by
  induction shape using Shape.induction generalizing component with
  | leaf type =>
      cases h with
      | leaf hnone htype => rw [canonicalType_eq, hnone, ok_bind, if_pos rfl, htype, Shape.text]
  | tuple isArray parts ih =>
      cases h with
      | @tuple _ components declared items _ hcomponents hgiven htype hitems hparts =>
          have htypes : items.mapM canonicalType = .ok ((parts.map Shape.text).map .str) := by
            rw [mapM_eq_ok_iff, List.forall₂_map_right_iff, List.forall₂_map_right_iff]
            exact forall₂_imp_of_mem_right hparts fun part hpart item => ih part hpart
          rw [canonicalType_eq, hcomponents, ok_bind, if_neg hgiven, htype, ok_bind, hitems,
            ok_bind, htypes, ok_bind, Json.joinTexts_map_str, ok_bind, Shape.text_tuple]
          simp only [decide_eq_true_eq, Shape.listing]
          rfl

/-- A component has a text for canonical type exactly when it has a shape, and it is the text of
the shape. -/
theorem canonicalType_eq_str_iff {component : Json} {type : String} :
    canonicalType component = .ok (.str type) ↔
      ∃ shape, HasShape component shape ∧ shape.text = type := by
  constructor
  · exact exists_hasShape_of_canonicalType
  · rintro ⟨shape, hshape, rfl⟩
    exact canonicalType_of_hasShape hshape

/-- Components have texts for canonical types exactly when they have shapes. -/
theorem canonicalTypes_eq_ok_iff {components : List Json} {types : List String} :
    canonicalTypes components = .ok (types.map .str) ↔
      ∃ shapes, List.Forall₂ HasShape components shapes ∧ shapes.map Shape.text = types := by
  rw [canonicalTypes_eq_mapM]
  constructor
  · intro h
    exact exists_shapes (fun item _ type => exists_hasShape_of_canonicalType)
      (forall₂_canonicalType_of_mapM h)
  · rintro ⟨shapes, hshapes, rfl⟩
    rw [mapM_eq_ok_iff, List.forall₂_map_right_iff, List.forall₂_map_right_iff]
    exact hshapes.imp fun _ _ => canonicalType_of_hasShape

end Component

namespace Entry

open Outcome

/-- An entry has a signature exactly when it has a name and inputs with shapes, and the signature
is the name with the listing of the shapes between parentheses. -/
theorem signature_eq_ok_iff {entry : Json} {key : String} :
    signature entry = .ok key ↔
      ∃ name inputs shapes, entry.require "name" = .ok name ∧
        entry.fieldElements "inputs" = .ok inputs ∧ List.Forall₂ HasShape inputs shapes ∧
          name.plain ++ "(" ++ Shape.listing shapes ++ ")" = key := by
  constructor
  · intro h
    obtain ⟨held, hheld, h⟩ := bind_eq_ok_iff.mp h
    obtain ⟨name, hname, h⟩ := bind_eq_ok_iff.mp h
    obtain ⟨inputs, hinputs, h⟩ := bind_eq_ok_iff.mp h
    obtain ⟨types, htypes, h⟩ := bind_eq_ok_iff.mp h
    obtain ⟨joined, hjoined, h⟩ := bind_eq_ok_iff.mp h
    obtain ⟨texts, rfl, rfl⟩ := Json.joinTexts_eq_ok_iff.mp hjoined
    obtain ⟨shapes, hshapes, rfl⟩ := Component.canonicalTypes_eq_ok_iff.mp htypes
    refine ⟨name, inputs, shapes, hname, ?_, hshapes, pure_eq_ok_iff.mp h⟩
    exact bind_eq_ok_iff.mpr ⟨held, hheld, hinputs⟩
  · rintro ⟨name, inputs, shapes, hname, hinputs, hshapes, rfl⟩
    obtain ⟨held, hheld, hinputs⟩ := bind_eq_ok_iff.mp hinputs
    have htypes := Component.canonicalTypes_eq_ok_iff.mpr ⟨shapes, hshapes, rfl⟩
    rw [signature, hheld, ok_bind, hname, ok_bind, hinputs, ok_bind, htypes, ok_bind,
      Json.joinTexts_map_str]
    rfl

end Entry

end AbiDoc
