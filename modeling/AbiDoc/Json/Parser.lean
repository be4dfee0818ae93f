import AbiDoc.Json.Basic
import AbiDoc.Machine
import AbiDoc.Text.Hex
import AbiDoc.Text.Numeral

/-!
# Reading JSON

Readers take the text that is left and return what they read with the text after it.  A failure
carries its cause and the text from the offending character on, so its position is the length of
the text before that.  Of members with one key the first gives the position and the last the value.

The readers of values call one another on ever shorter text; `fuel` bounds the calls, and twice the
length of the text is always enough, since of two calls in a row one passes over a character.  Apart
from that, `room` counts the arrays and objects that may still be opened inside of one another: the
machine has room for so many, and the bracket for which there is none ends the reading.

A string is held as its characters, and of a surrogate on its own there is none.  Such code units
all become the replacement character (`scalar`), so strings that differ in nothing else are equal
once they are read: as values, as names that are looked up, and as keys, where the later of two such
members replaces the earlier one.  What is shown of texts and of files is meant for such without
surrogates on their own.
-/

namespace AbiDoc.Json

/-- Why a text is not JSON. -/
inductive SyntaxCause where
  | byteOrderMark
  | expectedValue
  | expectedName
  | expectedColon
  | expectedComma
  | extraData
  | unterminatedString
  | controlCharacter
  | badEscape
  | badUnicodeEscape
  /-- A whole number has more than `Text.digitLimit` digits. -/
  | oversizedInteger
  /-- More arrays and objects are open than the machine has room for. -/
  | tooDeep
  deriving DecidableEq, Repr

/-- A failure to read, with the text from the offending character on. -/
structure Failure where
  cause : SyntaxCause
  rest : List Char
  deriving DecidableEq, Repr

/-- A reader of some kind of value from the front of a text. -/
abbrev Reader (α : Type) := List Char → Except Failure (α × List Char)

/-- The blanks that may stand between tokens. -/
def isSpace (c : Char) : Bool := c = ' ' || c = '\t' || c = '\n' || c = '\r'

/-- The text without the blanks at its front. -/
def skipSpace (text : List Char) : List Char := text.dropWhile isSpace

/-! ### Strings -/

/-- The character that a one-letter escape stands for. -/
def unescaped? : Char → Option Char
  | '"' => some '"'
  | '\\' => some '\\'
  | '/' => some '/'
  | 'b' => some '\x08'
  | 'f' => some '\x0c'
  | 'n' => some '\n'
  | 'r' => some '\r'
  | 't' => some '\t'
  | _ => none

/-- The code points and code units of a string up to its closing quote; `opening` is the text from
the opening quote on.  An escape by a code unit never ends the text. -/
def readUnits (opening : List Char) : Reader (List Nat)
  | [] => .error ⟨.unterminatedString, opening⟩
  | '"' :: rest => .ok ([], rest)
  | '\\' :: [] => .error ⟨.unterminatedString, opening⟩
  | '\\' :: 'u' :: a :: b :: c :: d :: rest =>
    match Text.readHex? [a, b, c, d] with
    | some unit =>
      if rest.isEmpty then .error ⟨.badUnicodeEscape, 'u' :: a :: b :: c :: d :: rest⟩
      else do
        let (units, after) ← readUnits opening rest
        return (unit :: units, after)
    | none => .error ⟨.badUnicodeEscape, 'u' :: a :: b :: c :: d :: rest⟩
  | '\\' :: 'u' :: rest => .error ⟨.badUnicodeEscape, 'u' :: rest⟩
  | '\\' :: letter :: rest =>
    match unescaped? letter with
    | some c => do
      let (units, after) ← readUnits opening rest
      return (c.toNat :: units, after)
    | none => .error ⟨.badEscape, '\\' :: letter :: rest⟩
  | c :: rest =>
    if c < ' ' then .error ⟨.controlCharacter, c :: rest⟩
    else do
      let (units, after) ← readUnits opening rest
      return (c.toNat :: units, after)

/-- The first of two surrogates. -/
def isHighSurrogate (unit : Nat) : Bool := 0xd800 ≤ unit && unit < 0xdc00

/-- The second of two surrogates. -/
def isLowSurrogate (unit : Nat) : Bool := 0xdc00 ≤ unit && unit < 0xe000

/-- A code point as a character.  A surrogate on its own becomes the replacement character, so it is
no longer told from other such surrogates nor from that character. -/
def scalar (unit : Nat) : Char :=
  if 0xd800 ≤ unit ∧ unit < 0xe000 then '\ufffd' else Char.ofNat unit

/-- Characters from code points and code units, a pair of surrogates giving one character. -/
def joinUnits : List Nat → List Char
  | [] => []
  | [unit] => [scalar unit]
  | high :: low :: rest =>
    if isHighSurrogate high && isLowSurrogate low then
      Char.ofNat (0x10000 + (high - 0xd800) * 0x400 + (low - 0xdc00)) :: joinUnits rest
    else scalar high :: joinUnits (low :: rest)

/-- A string after its opening quote. -/
def readString : Reader String := fun text => do
  let (units, rest) ← readUnits ('"' :: text) text
  return (String.ofList (joinUnits units), rest)

/-! ### Numbers -/

/-- The digits of a fraction, when a point and a digit come next. -/
def readFraction : List Char → List Char × List Char
  | '.' :: rest =>
    if (rest.takeWhile Char.isDigit).isEmpty then ([], '.' :: rest)
    else (rest.takeWhile Char.isDigit, rest.dropWhile Char.isDigit)
  | text => ([], text)

/-- The sign and the digits of an exponent, when a mark, an optional sign and a digit come next. -/
def readExponent (text : List Char) : Option (Bool × List Char) × List Char :=
  match text with
  | mark :: rest =>
    if mark = 'e' ∨ mark = 'E' then
      let (negative, digits) := match rest with
        | '-' :: digits => (true, digits)
        | '+' :: digits => (false, digits)
        | digits => (false, digits)
      if (digits.takeWhile Char.isDigit).isEmpty then (none, text)
      else (some (negative, digits.takeWhile Char.isDigit), digits.dropWhile Char.isDigit)
    else (none, text)
  | [] => (none, text)

/-- The number that ASCII digits spell. -/
def natOfDigits (digits : List Char) : Nat := Text.ofDigits (digits.map fun c => c.toNat - 48)

/-- The digits before the fraction: a zero, or digits that start with none. -/
def readIntegerPart : List Char → Option (List Char × List Char)
  | '0' :: rest => some (['0'], rest)
  | c :: rest =>
    if c.isDigit then some (c :: rest.takeWhile Char.isDigit, rest.dropWhile Char.isDigit) else none
  | [] => none

/-- A number after its sign; `start` is the text from the sign on. -/
def readNumber (negative : Bool) (start : List Char) : Reader Json := fun text =>
  match readIntegerPart text with
  | none => .error ⟨.expectedValue, start⟩
  | some (whole, afterWhole) =>
    let (fraction, afterFraction) := readFraction afterWhole
    let (exponent, rest) := readExponent afterFraction
    match fraction, exponent with
    | [], none =>
      if Text.digitLimit < whole.length then .error ⟨.oversizedInteger, start⟩
      else
        let value : Int := natOfDigits whole
        .ok (.int (if negative then -value else value), rest)
    | _, _ =>
      let scale : Int := match exponent with
        | some (true, digits) => -(natOfDigits digits : Int)
        | some (false, digits) => natOfDigits digits
        | none => 0
      let digits := natOfDigits (whole ++ fraction)
      let count := (Nat.toDigits 10 digits).length
      .ok (.float (Binary64.ofDecimal negative digits count (scale - fraction.length)), rest)

/-! ### Values -/

/-- The constants, by their names. -/
def constants : List (List Char × Json) := [
    ("null".toList, .null), ("true".toList, .bool true), ("false".toList, .bool false),
    ("NaN".toList, .float .nan), ("Infinity".toList, .float (.infinity false)),
    ("-Infinity".toList, .float (.infinity true))]

/-- The constant at the front of the text, with the text after it. -/
def readConstant? (text : List Char) : Option (Json × List Char) :=
  (constants.find? fun entry => entry.1.isPrefixOf text).map fun entry =>
    (entry.2, text.drop entry.1.length)

mutual

/-- The value that starts at the first character. -/
def readValue : Nat → Nat → Reader Json
  | 0, _, text => .error ⟨.expectedValue, text⟩
  | fuel + 1, room, text =>
    match text with
    | '"' :: rest => do
      let (s, after) ← readString rest
      return (.str s, after)
    | '[' :: rest =>
      match room with
      | 0 => .error ⟨.tooDeep, text⟩
      | room + 1 =>
        match skipSpace rest with
        | ']' :: after => .ok (.arr [], after)
        | inside => do
          let (items, after) ← readItems fuel room inside
          return (.arr items, after)
    | '\x7b' :: rest =>
      match room with
      | 0 => .error ⟨.tooDeep, text⟩
      | room + 1 =>
        match skipSpace rest with
        | '\x7d' :: after => .ok (.obj [], after)
        | inside => do
          let (members, after) ← readMembers fuel room inside
          return (.obj (Assoc.ofList members), after)
    | _ =>
      match readConstant? text with
      | some found => .ok found
      | none =>
        match text with
        | '-' :: rest => readNumber true text rest
        | _ => readNumber false text text
termination_by structural fuel => fuel

/-- The items of an array from one item on, with the bracket that closes it. -/
def readItems : Nat → Nat → Reader (List Json)
  | 0, _, text => .error ⟨.expectedValue, text⟩
  | fuel + 1, room, text => do
    let (item, after) ← readValue fuel room text
    match skipSpace after with
    | ']' :: rest => return ([item], rest)
    | ',' :: rest =>
      let (items, rest) ← readItems fuel room (skipSpace rest)
      return (item :: items, rest)
    | rest => .error ⟨.expectedComma, rest⟩
termination_by structural fuel => fuel

/-- The members of an object from one member on, with the brace that closes it. -/
def readMembers : Nat → Nat → Reader (List (String × Json))
  | 0, _, text => .error ⟨.expectedName, text⟩
  | fuel + 1, room, text =>
    match text with
    | '"' :: text => do
      let (key, after) ← readString text
      match skipSpace after with
      | ':' :: rest =>
        let (value, after) ← readValue fuel room (skipSpace rest)
        match skipSpace after with
        | '\x7d' :: rest => return ([(key, value)], rest)
        | ',' :: rest =>
          let (members, rest) ← readMembers fuel room (skipSpace rest)
          return ((key, value) :: members, rest)
        | rest => .error ⟨.expectedComma, rest⟩
      | rest => .error ⟨.expectedColon, rest⟩
    | _ => .error ⟨.expectedName, text⟩
termination_by structural fuel => fuel

end

/-- A whole text as one value with blanks around it. -/
def readDocument [Machine] (text : List Char) : Except Failure Json :=
  match text with
  | '\ufeff' :: _ => .error ⟨.byteOrderMark, text⟩
  | _ => do
    let (value, after) ← readValue (2 * text.length + 2) Machine.maxNesting (skipSpace text)
    match skipSpace after with
    | [] => return value
    | rest => .error ⟨.extraData, rest⟩

/-! ### Positions -/

/-- A failure with the place at which it shows. -/
structure SyntaxError where
  cause : SyntaxCause
  /-- The characters before the place. -/
  position : Nat
  /-- The line of the place, counted from one. -/
  line : Nat
  /-- The column of the place, counted from one. -/
  column : Nat
  deriving DecidableEq, Repr

/-- A failure placed in the text in which it arose. -/
def Failure.locate (text : List Char) (failure : Failure) : SyntaxError :=
  let position := text.length - failure.rest.length
  let before := text.take position
  { cause := failure.cause
    position := position
    line := before.count '\n' + 1
    column := (before.reverse.takeWhile (· ≠ '\n')).length + 1 }

/-- Reads a text as one JSON value. -/
def parse [Machine] (text : String) : Except SyntaxError Json :=
  (readDocument text.toList).mapError (Failure.locate text.toList)

/-- What a message says of a cause. -/
def SyntaxCause.message : SyntaxCause → String
  | .byteOrderMark => "Unexpected UTF-8 BOM (decode using utf-8-sig)"
  | .expectedValue => "Expecting value"
  | .expectedName => "Expecting property name enclosed in double quotes"
  | .expectedColon => "Expecting ':' delimiter"
  | .expectedComma => "Expecting ',' delimiter"
  | .extraData => "Extra data"
  | .unterminatedString => "Unterminated string starting at"
  | .controlCharacter => "Invalid control character at"
  | .badEscape => "Invalid \\escape"
  | .badUnicodeEscape => "Invalid \\uXXXX escape"
  | .oversizedInteger => "Exceeds the limit of digits for an integer"
  | .tooDeep => "Exceeds the limit of arrays and objects inside of one another"

/-- What a message says of an error and its place. -/
def SyntaxError.message (error : SyntaxError) : String :=
  error.cause.message ++ ": line " ++ toString error.line ++ " column " ++ toString error.column ++
    " (char " ++ toString error.position ++ ")"

end AbiDoc.Json
