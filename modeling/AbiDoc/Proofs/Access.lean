import AbiDoc.Json.Access
import AbiDoc.Proofs.Outcome

/-!
# Laws of access

When the uses of a value of unknown shape give something, and what they give: putting texts
together (`joinTexts_eq_ok_iff`), comparing with a text (`same_str_iff`) and asking for a member
that is given (`require_of_field`).
-/

namespace AbiDoc
namespace Json

open Outcome

theorem asText_eq_ok_iff {value : Json} {text : String} :
    value.asText = .ok text ↔ value = .str text := by
  cases value with
  | str s => simp [asText]
  | _ => simp [asText]

/-- Only texts can be put together to a text. -/
theorem joinTexts_eq_ok_iff {separator joined : String} {parts : List Json} :
    joinTexts separator parts = .ok joined ↔
      ∃ texts : List String, parts = texts.map .str ∧ separator.intercalate texts = joined := by
  have htexts : ∀ texts : List String,
      parts.mapM asText = .ok texts ↔ parts = texts.map .str := by
    intro texts
    rw [mapM_eq_ok_iff]
    simp only [asText_eq_ok_iff]
    rw [← List.forall₂_map_right_iff, List.forall₂_eq_eq_eq]
  rw [joinTexts, map_eq_ok_iff]
  simp only [htexts]

/-- Texts can always be put together. -/
theorem joinTexts_map_str (separator : String) (texts : List String) :
    joinTexts separator (texts.map .str) = .ok (separator.intercalate texts) :=
  joinTexts_eq_ok_iff.mpr ⟨texts, rfl, rfl⟩

theorem same_str_iff {value : Json} {text : String} :
    value.same (.str text) = true ↔ value = .str text := by
  cases value with
  | str s => simp [same]
  | _ => simp [same, sameNumber]

/-- An object that counts as not given is empty. -/
theorem orElse_empty (members : Assoc String Json) :
    (Json.obj members).orElse (.obj []) = .obj members := by
  cases members with
  | nil => rfl
  | cons member rest => rfl

theorem holds_obj (members : Assoc String Json) (key : String) :
    (Json.obj members).holds (.str key) = .ok (Assoc.find? key members).isSome := rfl

theorem fieldOf_obj (members : Assoc String Json) (key : String) :
    (Json.obj members).fieldOf (.str key) = .ok ((Assoc.find? key members).getD .null) := rfl

theorem atKey_obj {members : Assoc String Json} {key : String} {value : Json}
    (h : Assoc.find? key members = some value) :
    (Json.obj members).atKey (.str key) = .ok value := by
  simp only [atKey, asKey, ok_bind, Option.bind_some, h]
  rfl

theorem require_eq_ok_iff {key : String} {object value : Json} :
    object.require key = .ok value ↔
      ∃ members, object = .obj members ∧ Assoc.find? key members = some value := by
  cases object with
  | obj members =>
      cases hfound : Assoc.find? key members with
      | none => simp [require, hfound]
      | some found => simp [require, hfound]
  | _ => simp [require]

/-- An object with a member counts as given. -/
theorem truthy_of_require {key : String} {object value : Json}
    (h : object.require key = .ok value) : object.truthy = true := by
  obtain ⟨members, rfl, hfound⟩ := require_eq_ok_iff.mp h
  cases members with
  | nil => cases hfound
  | cons member rest => rfl

/-- A member that counts as given is there. -/
theorem require_of_field {key : String} {object value : Json}
    (h : object.field key = .ok value) (hgiven : value.truthy = true) :
    object.require key = .ok value := by
  cases object with
  | obj members =>
      simp only [field, Except.ok.injEq] at h
      cases hfound : Assoc.find? key members with
      | none =>
          rw [hfound] at h
          subst h
          simp [truthy] at hgiven
      | some found =>
          rw [hfound, Option.getD_some] at h
          rw [require, hfound, h]
  | _ => simp [field] at h

end Json
end AbiDoc
