import AbiDoc.Json.Access

/-!
# Canonical signatures

The key under which a compiler files a function, an event or an error: its name with the types of
its inputs between parentheses.  A tuple stands as its components' types between parentheses, with
`[]` after them when it is an array of tuples.

Components may nest as deep as they like: no limit is put on the calls that follow them, where a
machine with such a limit would give up.
-/

namespace AbiDoc

namespace Component

mutual

/-- The canonical type of an input or of a component of one.  Without components it is the declared
type, whatever that is. -/
def canonicalType : Json → Outcome Json
  | .obj members =>
    match partsIn members with
    | none => Json.require "type" (.obj members)
    | some parts => do
      let declared ← Json.require "type" (.obj members)
      let inner ← Json.joinTexts "," (← parts)
      return .str ("(" ++ inner ++ ")" ++ if declared = .str "tuple[]" then "[]" else "")
  | _ => .error .noMembers
termination_by structural component => component

/-- The canonical types of the components among the members, if any are given. -/
def partsIn : List (String × Json) → Option (Outcome (List Json))
  | [] => none
  | (key, value) :: rest => if key = "components" then partsOf value else partsIn rest
termination_by structural members => members

/-- The canonical types of components; null stands for no components.  A text and an object have
texts for elements, and a text is no component. -/
def partsOf : Json → Option (Outcome (List Json))
  | .null => none
  | .arr items => some (canonicalTypes items)
  | .obj [] => some (.ok [])
  | .obj (_ :: _) => some (.error .noMembers)
  | .str s => some (if s = "" then .ok [] else .error .noMembers)
  | _ => some (.error .wrongKind)
termination_by structural components => components

/-- The canonical types of a list of components. -/
def canonicalTypes : List Json → Outcome (List Json)
  | [] => .ok []
  | component :: rest => do
    let type ← canonicalType component
    let types ← canonicalTypes rest
    return type :: types
termination_by structural components => components

end

theorem canonicalTypes_eq_mapM (components : List Json) :
    canonicalTypes components = components.mapM canonicalType := by
  induction components with
  | nil => rfl
  | cons component rest ih => rw [canonicalTypes, List.mapM_cons, ih]

/-- The components are those of the first member called so. -/
theorem partsIn_eq (members : List (String × Json)) :
    partsIn members = (Assoc.find? "components" members).bind partsOf := by
  induction members with
  | nil => rfl
  | cons member rest ih =>
    obtain ⟨key, value⟩ := member
    by_cases h : key = "components" <;> simp [partsIn, Assoc.find?, h, ih]

/-- Components that are given are walked over; one that is a text ends the walk. -/
theorem partsOf_eq {components : Json} (hgiven : components ≠ .null) :
    partsOf components = some (components.elements >>= canonicalTypes) := by
  cases components with
  | null => exact absurd rfl hgiven
  | bool b => rfl
  | int n => rfl
  | float x => rfl
  | str s =>
    by_cases hempty : s = ""
    · subst hempty
      rfl
    · obtain ⟨c, rest, hs⟩ := List.exists_cons_of_ne_nil (mt String.toList_eq_nil_iff.1 hempty)
      rw [partsOf, if_neg hempty, Json.elements, Json.characters, hs]
      rfl
  | arr items => rfl
  | obj members =>
    cases members with
    | nil => rfl
    | cons member rest => rfl

/-- The canonical type in terms of what a component has: its declared type where it has no
components, and otherwise the canonical types of those between parentheses. -/
theorem canonicalType_eq (component : Json) :
    canonicalType component = do
      let components ← component.field "components"
      if components = .null then component.require "type"
      else
        let declared ← component.require "type"
        let parts ← components.elements
        let inner ← Json.joinTexts "," (← parts.mapM canonicalType)
        return .str ("(" ++ inner ++ ")" ++ if declared = .str "tuple[]" then "[]" else "") := by
  cases component with
  | obj members =>
    rw [canonicalType, partsIn_eq, Json.field]
    cases hfound : Assoc.find? "components" members with
    | none => rfl
    | some components =>
      by_cases hnull : components = .null
      · subst hnull
        rfl
      · simp only [Option.bind_some, partsOf_eq hnull, Option.getD_some, bind, Except.bind,
          if_neg hnull]
        cases Json.require "type" (.obj members) with
        | error fault => rfl
        | ok declared =>
          cases components.elements with
          | error fault => rfl
          | ok parts => simp only [canonicalTypes_eq_mapM]
  | _ => rfl

end Component

namespace Entry

/-- The canonical signature of a function, an event or an error. -/
def signature (entry : Json) : Outcome String := do
  let inputs := (← entry.field "inputs").orElse (.arr [])
  let name ← entry.require "name"
  let types ← Component.canonicalTypes (← inputs.elements)
  return name.plain ++ "(" ++ (← Json.joinTexts "," types) ++ ")"

end Entry

end AbiDoc
