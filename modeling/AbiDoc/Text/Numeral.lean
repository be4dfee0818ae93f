import AbiDoc.Text.Digit

/-!
# Integers in text

A whole number as an argument spells it: blanks around it, an optional sign, decimal digits of any
script, and single underscores between digits.  Numbers of more than `digitLimit` digits are
refused.
-/

namespace AbiDoc.Text

/-- The most digits that an integer may have. -/
def digitLimit : Nat := 4300

/-- The number that decimal digits spell. -/
def ofDigits (digits : List Nat) : Nat := digits.foldl (fun value digit => 10 * value + digit) 0

/-- The digits of a text in which single underscores may stand between digits. -/
def digits? : List Char → Option (List Nat)
  | [] => none
  | [c] => (digitValue? c).map ([·])
  | c :: '_' :: rest => do return (← digitValue? c) :: (← digits? rest)
  | c :: next :: rest => do return (← digitValue? c) :: (← digits? (next :: rest))

/-- A text without the blanks around it. -/
def trimmed (text : List Char) : List Char :=
  ((text.dropWhile isBlank).reverse.dropWhile isBlank).reverse

/-- An unsigned whole number. -/
def readNat? (text : List Char) : Option Nat := do
  let digits ← digits? text
  if digits.length ≤ digitLimit then some (ofDigits digits) else none

/-- A whole number with blanks around it and an optional sign. -/
def readInt? (text : List Char) : Option Int :=
  match trimmed text with
  | '-' :: rest => (readNat? rest).map fun value => -(value : Int)
  | '+' :: rest => (readNat? rest).map Int.ofNat
  | rest => (readNat? rest).map Int.ofNat

end AbiDoc.Text
