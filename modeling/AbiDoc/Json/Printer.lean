import AbiDoc.Json.Basic
import AbiDoc.Json.Number
import AbiDoc.Text.Hex

/-!
# Writing JSON

A value as JSON text in pure ASCII.  Members stand in their order.  On one line, items are
separated by a comma and a blank; spread over lines, every item stands on a line of its own,
indented by a fixed count of blanks per level, and an empty array or object is never spread.

A value may nest as deep as it likes.  A printer that calls itself once a level gives up where the
calls of its machine are limited; that limit is left out here.
-/

namespace AbiDoc.Json

/-- How a JSON text is laid out. -/
inductive Layout where
  /-- Everything on one line. -/
  | inline
  /-- One item a line, each level indented by `width` blanks. -/
  | lines (width : Nat)
  deriving DecidableEq, Repr

namespace Layout

/-- What stands between an opening bracket and the first item at `depth`, and between the last item
and the closing bracket at `depth`. -/
def margin : Layout → Nat → List Char
  | .inline, _ => []
  | .lines width, depth => '\n' :: List.replicate (width * depth) ' '

/-- What stands between two items at `depth`. -/
def separator (layout : Layout) (depth : Nat) : List Char :=
  ',' :: match layout with
    | .inline => [' ']
    | .lines _ => layout.margin depth

end Layout

/-- An escape by a UTF-16 code unit. -/
def unitEscape (unit : Nat) : List Char := '\\' :: 'u' :: Text.hexDigits 4 unit

/-- The UTF-16 code units of a character: one, or two surrogates. -/
def codeUnits (c : Char) : List Nat :=
  if c.toNat < 0x10000 then [c.toNat]
  else [0xd800 + (c.toNat - 0x10000) / 0x400, 0xdc00 + (c.toNat - 0x10000) % 0x400]

/-- The escapes that are named by one letter. -/
def shortEscapes : List (Char × Char) :=
  [('"', '"'), ('\\', '\\'), ('\n', 'n'), ('\r', 'r'), ('\t', 't'), ('\x08', 'b'), ('\x0c', 'f')]

/-- One character of a string: as it is when it is printable ASCII without an escape of its own,
and by its code units otherwise. -/
def escapedChar (c : Char) : List Char :=
  match Assoc.find? c shortEscapes with
  | some letter => ['\\', letter]
  | none => if ' ' ≤ c ∧ c ≤ '~' then [c] else (codeUnits c).flatMap unitEscape

/-- A string with its quotes. -/
def renderString (s : String) : List Char :=
  '"' :: s.toList.flatMap escapedChar ++ ['"']

/-- A whole number in decimal. -/
def renderInt (n : Int) : List Char :=
  (if n < 0 then ['-'] else []) ++ Nat.toDigits 10 n.natAbs

mutual

/-- The characters of a value whose brackets stand at `depth`. -/
def renderAt (layout : Layout) (depth : Nat) : Json → List Char
  | .null => ['n', 'u', 'l', 'l']
  | .bool true => ['t', 'r', 'u', 'e']
  | .bool false => ['f', 'a', 'l', 's', 'e']
  | .int n => renderInt n
  | .float x => numberLayout.text "NaN" "Infinity" x
  | .str s => renderString s
  | .arr [] => ['[', ']']
  | .arr (item :: rest) =>
    '[' :: layout.margin (depth + 1) ++ renderAt layout (depth + 1) item ++
      renderItems layout (depth + 1) rest ++ layout.margin depth ++ [']']
  | .obj [] => ['\x7b', '\x7d']
  | .obj ((key, value) :: rest) =>
    '\x7b' :: layout.margin (depth + 1) ++ renderString key ++ ':' :: ' ' ::
      renderAt layout (depth + 1) value ++
      renderMembers layout (depth + 1) rest ++ layout.margin depth ++ ['\x7d']
termination_by structural value => value

/-- The items after the first, each after its separator. -/
def renderItems (layout : Layout) (depth : Nat) : List Json → List Char
  | [] => []
  | item :: rest =>
    layout.separator depth ++ renderAt layout depth item ++ renderItems layout depth rest
termination_by structural items => items

/-- The members after the first, each after its separator. -/
def renderMembers (layout : Layout) (depth : Nat) : List (String × Json) → List Char
  | [] => []
  | (key, value) :: rest =>
    layout.separator depth ++ renderString key ++ ':' :: ' ' :: renderAt layout depth value ++
      renderMembers layout depth rest
termination_by structural members => members

end

/-- The JSON text of a value. -/
def render (layout : Layout) (value : Json) : String :=
  String.ofList (renderAt layout 0 value)

end AbiDoc.Json
