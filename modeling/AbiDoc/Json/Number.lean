import AbiDoc.Binary64

/-!
# Number text

How a double-precision number is written: the fewest digits that read back, positionally while the
decimal point falls near the digits and with an exponent otherwise.
-/

namespace AbiDoc

/-- Where a number is written positionally and how its exponent looks otherwise. -/
structure NumberLayout where
  /-- The least position of the decimal point, counted from before the first digit. -/
  leastPoint : Int
  /-- The greatest position of the decimal point. -/
  greatestPoint : Int
  /-- The least count of digits of an exponent. -/
  exponentWidth : Nat

/-- A text filled up with zeros on the left to a width. -/
def padZeros (width : Nat) (digits : List Char) : List Char :=
  List.replicate (width - digits.length) '0' ++ digits

namespace NumberLayout

/-- Digits with a decimal point among or beside them, and at least one digit on each side. -/
def positional (digits : List Char) (point : Int) : List Char :=
  if point ≤ 0 then '0' :: '.' :: (List.replicate (-point).toNat '0' ++ digits)
  else if (digits.length : Int) ≤ point then
    digits ++ List.replicate (point - digits.length).toNat '0' ++ ['.', '0']
  else digits.take point.toNat ++ '.' :: digits.drop point.toNat

/-- Digits with the decimal point after the first one, and an exponent. -/
def scientific (width : Nat) (digits : List Char) (point : Int) : List Char :=
  let mantissa := match digits with
    | first :: next :: rest => first :: '.' :: next :: rest
    | _ => digits
  let exponent := point - 1
  let sign := if exponent < 0 then '-' else '+'
  mantissa ++ 'e' :: sign :: padZeros width (Nat.toDigits 10 exponent.natAbs)

/-- The text of a number without its sign. -/
def unsigned (layout : NumberLayout) (mantissa : Nat) (exponent : Int) : List Char :=
  if mantissa = 0 then ['0', '.', '0']
  else
    let decimal := Binary64.shortest mantissa exponent
    if layout.leastPoint ≤ decimal.point ∧ decimal.point ≤ layout.greatestPoint then
      positional decimal.digits decimal.point
    else scientific layout.exponentWidth decimal.digits decimal.point

/-- The text of a number, given the words for what is no number and for infinity. -/
def text (layout : NumberLayout) (nan infinity : String) : Binary64 → List Char
  | .nan => nan.toList
  | .infinity negative => (if negative then ['-'] else []) ++ infinity.toList
  | .finite negative mantissa exponent =>
    (if negative then ['-'] else []) ++ layout.unsigned mantissa exponent

end NumberLayout

namespace Json

/-- Numbers are positional from `0.0001` to below `10 ^ 16`; an exponent has a sign and two digits
or more. -/
def numberLayout : NumberLayout := ⟨-3, 16, 2⟩

/-- The text of the number nearest to `digits · 10 ^ scale`. -/
def decimalText (digits : Nat) (scale : Int) : List Char :=
  numberLayout.text "NaN" "Infinity"
    (.ofDecimal false digits (Nat.toDigits 10 digits).length scale)

example : decimalText 1 0 = ['1', '.', '0'] := by decide +kernel
example : decimalText 1 (-4) = ['0', '.', '0', '0', '0', '1'] := by decide +kernel
example : decimalText 1 (-5) = ['1', 'e', '-', '0', '5'] := by decide +kernel
example : decimalText 9007199254740993 0 = "9007199254740992.0".toList := by decide +kernel
example : decimalText 1 16 = ['1', 'e', '+', '1', '6'] := by decide +kernel
example : decimalText 225 (-1) = ['2', '2', '.', '5'] := by decide +kernel

end Json

end AbiDoc
