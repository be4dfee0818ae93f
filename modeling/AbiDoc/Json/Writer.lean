import AbiDoc.Fault
import AbiDoc.Json.Printer
import AbiDoc.Machine

/-!
# Texts of JSON values

A value is written as a text when its indentation is a machine word and the text is not too long for
the machine.  How long a text would be is known without it (`length_renderAt`), so a text that is
refused is not made.
-/

namespace AbiDoc.Json

/-! ## Indentations -/

/-- An indentation is a signed machine word; this many of them are positive or zero. -/
def indentLimit : Int := Int.pow 2 63

/-- A value can be written without an indentation, or under one that is a signed machine word. -/
def IsIndentation : Option Int → Prop
  | none => True
  | some indent => -indentLimit ≤ indent ∧ indent < indentLimit

instance : DecidablePred IsIndentation
  | none => .isTrue trivial
  | some _ => inferInstanceAs (Decidable (_ ∧ _))

namespace Layout

/-- The layout under an indentation: none for one line, zero or less for lines without indentation.
-/
def under : Option Int → Layout
  | none => .inline
  | some indent => .lines indent.toNat

/-- The blanks of one level. -/
def width : Layout → Nat
  | .inline => 0
  | .lines width => width

/-! ## Lengths -/

/-- The length of `margin`. -/
def marginLength : Layout → Nat → Nat
  | .inline, _ => 0
  | .lines width, depth => width * depth + 1

/-- The length of `separator`. -/
def separatorLength (layout : Layout) (depth : Nat) : Nat :=
  match layout with
  | .inline => 2
  | .lines _ => layout.marginLength depth + 1

theorem length_margin (layout : Layout) (depth : Nat) :
    (layout.margin depth).length = layout.marginLength depth := by
  cases layout with
  | inline => rfl
  | lines width => simp [margin, marginLength]

theorem length_separator (layout : Layout) (depth : Nat) :
    (layout.separator depth).length = layout.separatorLength depth := by
  cases layout with
  | inline => rfl
  | lines width => simp [separator, separatorLength, length_margin]

end Layout

mutual

/-- The length of `renderAt`. -/
def lengthAt (layout : Layout) (depth : Nat) : Json → Nat
  | .null => 4
  | .bool true => 4
  | .bool false => 5
  | .int n => (renderInt n).length
  | .float x => (numberLayout.text "NaN" "Infinity" x).length
  | .str s => (renderString s).length
  | .arr [] => 2
  | .arr (item :: rest) =>
    layout.marginLength (depth + 1) + lengthAt layout (depth + 1) item +
      itemsLength layout (depth + 1) rest + layout.marginLength depth + 2
  | .obj [] => 2
  | .obj ((key, value) :: rest) =>
    layout.marginLength (depth + 1) + (renderString key).length + 2 +
      lengthAt layout (depth + 1) value +
      membersLength layout (depth + 1) rest + layout.marginLength depth + 2
termination_by structural value => value

/-- The length of `renderItems`. -/
def itemsLength (layout : Layout) (depth : Nat) : List Json → Nat
  | [] => 0
  | item :: rest =>
    layout.separatorLength depth + lengthAt layout depth item + itemsLength layout depth rest
termination_by structural items => items

/-- The length of `renderMembers`. -/
def membersLength (layout : Layout) (depth : Nat) : List (String × Json) → Nat
  | [] => 0
  | (key, value) :: rest =>
    layout.separatorLength depth + (renderString key).length + 2 + lengthAt layout depth value +
      membersLength layout depth rest
termination_by structural members => members

end

mutual

theorem length_renderAt (layout : Layout) (depth : Nat) :
    ∀ value, (renderAt layout depth value).length = lengthAt layout depth value
  | .null => rfl
  | .bool true => rfl
  | .bool false => rfl
  | .int _ => rfl
  | .float _ => rfl
  | .str _ => rfl
  | .arr [] => rfl
  | .arr (item :: rest) => by
    simp only [renderAt, lengthAt, List.length_cons, List.length_append, List.length_nil,
      Layout.length_margin, length_renderAt layout (depth + 1) item,
      length_renderItems layout (depth + 1) rest]
    omega
  | .obj [] => rfl
  | .obj ((key, value) :: rest) => by
    simp only [renderAt, lengthAt, List.length_cons, List.length_append, List.length_nil,
      Layout.length_margin, length_renderAt layout (depth + 1) value,
      length_renderMembers layout (depth + 1) rest]
    omega

theorem length_renderItems (layout : Layout) (depth : Nat) :
    ∀ items, (renderItems layout depth items).length = itemsLength layout depth items
  | [] => rfl
  | item :: rest => by
    simp only [renderItems, itemsLength, List.length_append, Layout.length_separator,
      length_renderAt layout depth item, length_renderItems layout depth rest]

theorem length_renderMembers (layout : Layout) (depth : Nat) :
    ∀ members, (renderMembers layout depth members).length = membersLength layout depth members
  | [] => rfl
  | (key, value) :: rest => by
    simp only [renderMembers, membersLength, List.length_append, List.length_cons,
      Layout.length_separator, length_renderAt layout depth value,
      length_renderMembers layout depth rest]
    omega

end

/-! ## Writing -/

/-- The machine has room for the text of a value, and for the blanks of one level by themselves. -/
def Fits [Machine] (layout : Layout) (value : Json) : Prop :=
  layout.width ≤ Machine.maxLength ∧ (renderAt layout 0 value).length ≤ Machine.maxLength

/-- Whether a text fits is decided by its length, without the text. -/
instance [Machine] (layout : Layout) (value : Json) : Decidable (value.Fits layout) :=
  decidable_of_iff
    (layout.width ≤ Machine.maxLength ∧ lengthAt layout 0 value ≤ Machine.maxLength)
    (by rw [Fits, length_renderAt])

/-- Writes a value under an indentation. -/
def write [Machine] (indent : Option Int) (value : Json) : Outcome String :=
  if ¬ IsIndentation indent then .error .indentTooLarge
  else if value.Fits (.under indent) then .ok (value.render (.under indent))
  else .error .tooLong

end AbiDoc.Json
