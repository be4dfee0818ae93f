/-!
# Double-precision numbers

A number of the IEEE binary64 format as a sign, a mantissa and a power of two, so that every
question about it is one of whole numbers.  A decimal is rounded to the nearest number, a tie going
to the even mantissa, and a number is written with the fewest decimal digits that round back to it;
of two such decimals the nearer is taken, and of two equally near ones the even.
-/

namespace AbiDoc

/-- A double-precision number; `finite negative mantissa exponent` stands for
`± mantissa · 2 ^ exponent`. -/
inductive Binary64 where
  | nan
  | infinity (negative : Bool)
  | finite (negative : Bool) (mantissa : Nat) (exponent : Int)
  deriving DecidableEq, Repr, Inhabited

namespace Binary64

/-- The least exponent of a number: that of the subnormal ones. -/
def leastExponent : Int := -1074

/-- The greatest exponent of a number; beyond it numbers are infinite. -/
def greatestExponent : Int := 971

/-- The bits of a mantissa. -/
def precision : Nat := 53

/-- A quotient rounded to the nearest whole number, a tie to the even one. -/
def roundDiv (num den : Nat) : Nat :=
  let quotient := num / den
  let rest := num % den
  if 2 * rest < den then quotient
  else if den < 2 * rest then quotient + 1
  else quotient + quotient % 2

/-- The greatest `k` with `2 ^ k * den ≤ num`, for positive `num` and `den`. -/
def log2Quotient (num den : Nat) : Int :=
  let guess : Int := (num.log2 : Int) - den.log2
  if den * Nat.pow 2 guess.toNat ≤ num * Nat.pow 2 (-guess).toNat then guess else guess - 1

/-- The number nearest to a positive quotient. -/
def ofQuotient (negative : Bool) (num den : Nat) : Binary64 :=
  let exponent := max (log2Quotient num den - (precision - 1)) leastExponent
  let mantissa := roundDiv (num * Nat.pow 2 (-exponent).toNat) (den * Nat.pow 2 exponent.toNat)
  let (mantissa, exponent) :=
    if mantissa = Nat.pow 2 precision then (Nat.pow 2 (precision - 1), exponent + 1)
    else (mantissa, exponent)
  if greatestExponent < exponent then .infinity negative else .finite negative mantissa exponent

/-- The number nearest to `digits · 10 ^ scale`, where `digits` has `count` decimal
digits.  Decimals far beyond the range are settled by their size alone. -/
def ofDecimal (negative : Bool) (digits count : Nat) (scale : Int) : Binary64 :=
  if digits = 0 then .finite negative 0 leastExponent
  else if 400 < scale + count then .infinity negative
  else if scale + count < -400 then .finite negative 0 leastExponent
  else ofQuotient negative (digits * Nat.pow 10 scale.toNat) (Nat.pow 10 (-scale).toNat)

/-- The number equals a whole number. -/
def eqInt (x : Binary64) (n : Int) : Bool :=
  match x with
  | .finite negative mantissa exponent =>
    let signed : Int := if negative then -mantissa else mantissa
    signed * Int.pow 2 exponent.toNat == n * Int.pow 2 (-exponent).toNat
  | _ => false

/-- The number is zero, of either sign. -/
def isZero : Binary64 → Bool
  | .finite _ mantissa _ => mantissa == 0
  | _ => false

/-- A decimal `0.d₁d₂… · 10 ^ point` by its digits. -/
structure Decimal where
  digits : List Char
  point : Int
  deriving DecidableEq, Repr

/-- The count of digits before the decimal point of a positive quotient; zero or negative when
the quotient is below a tenth or more of one. `steps` bounds the search below one. -/
def pointOf (num den : Nat) : Nat → Int
  | 0 => 0
  | steps + 1 =>
    if den ≤ num then (Nat.toDigits 10 (num / den)).length
    else pointOf (num * 10) den steps - 1

/-- The shortest decimal of `count` digits or more that lies between `low` and `high`, for the
value `mid`; the three are in units of `2 ^ scale`, and the ends count when `closed` is
set.  `steps` bounds the count from above. -/
def shortestFrom (low mid high : Nat) (closed : Bool) (scale point : Int) (count : Nat) :
    Nat → Decimal
  | 0 => ⟨['0'], point⟩
  | steps + 1 =>
    let grid := point - count
    let unit := Nat.pow 2 scale.toNat * Nat.pow 10 (-grid).toNat
    let cell := Nat.pow 10 grid.toNat * Nat.pow 2 (-scale).toNat
    let floor := mid * unit / cell
    let within (candidate : Nat) : Bool :=
      if closed then low * unit ≤ candidate * cell && candidate * cell ≤ high * unit
      else low * unit < candidate * cell && candidate * cell < high * unit
    let below := mid * unit - floor * cell
    let above := (floor + 1) * cell - mid * unit
    let written (candidate : Nat) : Decimal :=
      let digits := Nat.toDigits 10 candidate
      ⟨(digits.reverse.dropWhile (· = '0')).reverse, point + digits.length - count⟩
    if within floor && within (floor + 1) then
      if below < above || (below = above && floor % 2 = 0) then written floor
      else written (floor + 1)
    else if within floor then written floor
    else if within (floor + 1) then written (floor + 1)
    else shortestFrom low mid high closed scale point (count + 1) steps

/-- The decimal with the fewest digits that rounds to `mantissa · 2 ^ exponent`, for a positive
mantissa.  Below a power of two the neighbours are half as far apart. -/
def shortest (mantissa : Nat) (exponent : Int) : Decimal :=
  let gap := if mantissa = Nat.pow 2 (precision - 1) ∧ leastExponent < exponent then 1 else 2
  let point := pointOf (mantissa * Nat.pow 2 exponent.toNat) (Nat.pow 2 (-exponent).toNat) 400
  shortestFrom (4 * mantissa - gap) (4 * mantissa) (4 * mantissa + 2) (mantissa % 2 = 0)
    (exponent - 2) point 1 17

end Binary64

end AbiDoc
