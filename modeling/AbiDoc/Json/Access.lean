import AbiDoc.Fault

/-!
# Taking values apart

How a value of unknown shape is used: a member that may be absent, a member that has to be there,
the elements to walk over, a key to look up, a text to put together.  Each use names its own
fault.
-/

namespace AbiDoc.Json

/-- The member with the key, null when it is absent.  Only objects have members. -/
def field (key : String) : Json → Outcome Json
  | .obj members => .ok ((Assoc.find? key members).getD .null)
  | _ => .error .noMembers

/-- The member with the key, which has to be there. -/
def require (key : String) : Json → Outcome Json
  | .obj members =>
    match Assoc.find? key members with
    | some value => .ok value
    | none => .error (.missingKey (.str key))
  | _ => .error .wrongKind

/-- A member that is there is the member that is asked for. -/
theorem field_of_require {key : String} {object value : Json}
    (h : object.require key = .ok value) : object.field key = .ok value := by
  cases object with
  | obj members =>
    cases hfound : Assoc.find? key members with
    | none => simp [require, hfound] at h
    | some found =>
      simp only [require, hfound] at h
      rw [field, hfound, Option.getD_some, h]
  | _ => simp [require] at h

/-- A value with one member has all others, absent ones as null. -/
theorem exists_field {key : String} {object value : Json} (h : object.field key = .ok value)
    (other : String) : ∃ found, object.field other = .ok found := by
  cases object with
  | obj members => exact ⟨_, rfl⟩
  | _ => simp [field] at h

/-- A value as a key.  Keys of objects are texts, so another scalar is the key of nothing; arrays
and objects cannot be keys at all. -/
def asKey : Json → Outcome (Option String)
  | .str key => .ok (some key)
  | .arr _ | .obj _ => .error .wrongKind
  | _ => .ok none

/-- The member under a key of any kind, null when it is absent. -/
def fieldOf (object key : Json) : Outcome Json :=
  match object with
  | .obj members =>
    (asKey key).map fun key => (key.bind fun key => Assoc.find? key members).getD .null
  | _ => .error .noMembers

/-- The characters of a text, each as a text. -/
def characters (s : String) : List Json := s.toList.map fun c => .str (String.singleton c)

/-- The elements to walk over: the items of an array, the keys of an object, the characters of a
text. -/
def elements : Json → Outcome (List Json)
  | .arr items => .ok items
  | .obj members => .ok (members.map fun member => .str member.1)
  | .str s => .ok (characters s)
  | _ => .error .wrongKind

/-- The value if it is given, and the other one otherwise. -/
def orElse (value default : Json) : Json := if value.truthy then value else default

/-- The member with the key when both the object and the member are given, and null otherwise. -/
def given (key : String) (object : Json) : Outcome Json :=
  if object.truthy then (object.field key).map (·.orElse .null) else .ok .null

/-- The elements of a member that may be absent or empty. -/
def fieldElements (key : String) (object : Json) : Outcome (List Json) := do
  ((← object.field key).orElse (.arr [])).elements

/-- A text; nothing else can be put together to a text. -/
def asText : Json → Outcome String
  | .str s => .ok s
  | _ => .error .wrongKind

/-- Texts put together with a separator. -/
def joinTexts (separator : String) (parts : List Json) : Outcome String :=
  (parts.mapM asText).map separator.intercalate

/-- The elements of a value put together with a separator. -/
def joined (separator : String) (value : Json) : Outcome String :=
  value.elements.bind (joinTexts separator)

/-- Whether one text stands somewhere in another. -/
def occursIn (part : List Char) : List Char → Bool
  | [] => part.isEmpty
  | c :: rest => part.isPrefixOf (c :: rest) || occursIn part rest

/-- Whether a value holds a key: a member's key, an item that is the same, a part of a text. -/
def holds (value key : Json) : Outcome Bool :=
  match value with
  | .obj members =>
    (asKey key).map fun key => (key.bind fun key => Assoc.find? key members).isSome
  | .arr items => .ok (items.any fun item => key.same item)
  | .str s =>
    match key with
    | .str part => .ok (occursIn part.toList s.toList)
    | _ => .error .wrongKind
  | _ => .error .wrongKind

/-- The item at a position, counted from the end when it is negative. -/
def itemAt (items : List Json) (position : Int) : Outcome Json :=
  let index := if position < 0 then position + items.length else position
  match if index < 0 then none else items[index.toNat]? with
  | some item => .ok item
  | none => .error .outOfRange

/-- A whole number as a position. -/
def asPosition : Json → Outcome Int
  | .int n => .ok n
  | .bool b => .ok b.toNat
  | _ => .error .wrongKind

/-- What a value has at a key: the member of an object, the item of an array or the character of a
text at a position. -/
def atKey (value key : Json) : Outcome Json :=
  match value with
  | .obj members => do
    match (← asKey key).bind fun key => Assoc.find? key members with
    | some value => return value
    | none => throw (.missingKey key)
  | .arr items => do itemAt items (← asPosition key)
  | .str s => do itemAt (characters s) (← asPosition key)
  | _ => .error .wrongKind

/-- The members of an object, as a mapping. -/
def membersOf : Json → Outcome (Assoc String Json)
  | .obj members => .ok members
  | _ => .error .noMembers

/-- Members without those that are null, which stand for what is not set. -/
def withoutNulls (members : Assoc String Json) : Assoc String Json :=
  members.filter fun member => member.2 ≠ .null

end AbiDoc.Json
