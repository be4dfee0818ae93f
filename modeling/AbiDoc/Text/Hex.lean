/-!
# Hexadecimal digits

Writing a number with a fixed count of lower-case hexadecimal digits, and reading such digits back
in either case.  Main statement: what was written reads back (`readHex?_hexDigits`).
-/

namespace AbiDoc.Text

/-- The lower-case hexadecimal digit of a number below sixteen. -/
def hexDigit (value : Nat) : Char :=
  if value < 10 then Char.ofNat (48 + value) else Char.ofNat (87 + value)

/-- The value of a hexadecimal digit in either case. -/
def hexValue? (c : Char) : Option Nat :=
  if '0' ≤ c ∧ c ≤ '9' then some (c.toNat - 48)
  else if 'a' ≤ c ∧ c ≤ 'f' then some (c.toNat - 87)
  else if 'A' ≤ c ∧ c ≤ 'F' then some (c.toNat - 55)
  else none

/-- The lowest `count` hexadecimal digits of a number, the highest of them first. -/
def hexDigits : Nat → Nat → List Char
  | 0, _ => []
  | count + 1, value => hexDigits count (value / 16) ++ [hexDigit (value % 16)]

/-- The number that hexadecimal digits spell, after a number read before them. -/
def readHexFrom? (start : Nat) : List Char → Option Nat
  | [] => some start
  | c :: rest => (hexValue? c).bind fun digit => readHexFrom? (16 * start + digit) rest

/-- The number that hexadecimal digits spell. -/
def readHex? (digits : List Char) : Option Nat := readHexFrom? 0 digits

theorem hexValue?_hexDigit {value : Nat} (h : value < 16) :
    hexValue? (hexDigit value) = some value := by
  have all : ∀ d : Fin 16, hexValue? (hexDigit d.val) = some d.val := by decide
  exact all ⟨value, h⟩

theorem readHexFrom?_append (start : Nat) (xs ys : List Char) :
    readHexFrom? start (xs ++ ys) = (readHexFrom? start xs).bind (readHexFrom? · ys) := by
  induction xs generalizing start with
  | nil => rfl
  | cons c rest ih =>
    simp only [List.cons_append, readHexFrom?]
    cases hexValue? c with
    | none => rfl
    | some digit => exact ih _

theorem readHexFrom?_hexDigits (start count value : Nat) :
    readHexFrom? start (hexDigits count value) =
      some (Nat.pow 16 count * start + value % Nat.pow 16 count) := by
  simp only [Nat.pow_eq]
  induction count generalizing value with
  | zero => simp [hexDigits, readHexFrom?, Nat.mod_one]
  | succ count ih =>
    rw [hexDigits, readHexFrom?_append, ih]
    simp only [Option.bind_some, readHexFrom?, hexValue?_hexDigit (Nat.mod_lt value (by decide))]
    congr 1
    rw [Nat.pow_succ, Nat.mul_comm (16 ^ count) 16, Nat.mod_mul, Nat.mul_add, Nat.mul_assoc]
    omega

/-- A number below `16 ^ count` reads back from its `count` digits. -/
theorem readHex?_hexDigits {count value : Nat} (h : value < Nat.pow 16 count) :
    readHex? (hexDigits count value) = some value := by
  rw [readHex?, readHexFrom?_hexDigits, Nat.mul_zero, Nat.zero_add, Nat.mod_eq_of_lt h]

end AbiDoc.Text
