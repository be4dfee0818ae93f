import AbiDoc.Text.Printable
import AbiDoc.Text.Hex

/-!
# Quoted text

How a message quotes a text: between single quotes, or between double quotes when the text holds a
single quote and no double one.  The enclosing quote and the backslash are escaped, line feed,
carriage return and tab have short escapes, and any other unprintable character is written with its
code point in two, four or eight hexadecimal digits.
-/

namespace AbiDoc.Text

/-- The quote that encloses a text. -/
def enclosingQuote (text : List Char) : Char :=
  if '\'' ∈ text ∧ '"' ∉ text then '"' else '\''

/-- One character between quotes. -/
def quotedChar (quote c : Char) : List Char :=
  if c = quote ∨ c = '\\' then ['\\', c]
  else if c = '\n' then ['\\', 'n']
  else if c = '\r' then ['\\', 'r']
  else if c = '\t' then ['\\', 't']
  else if isPrintable c then [c]
  else if c.toNat < 0x100 then '\\' :: 'x' :: hexDigits 2 c.toNat
  else if c.toNat < 0x10000 then '\\' :: 'u' :: hexDigits 4 c.toNat
  else '\\' :: 'U' :: hexDigits 8 c.toNat

/-- The text as a message quotes it. -/
def quoted (text : String) : String :=
  let quote := enclosingQuote text.toList
  String.ofList (quote :: text.toList.flatMap (quotedChar quote) ++ [quote])

example : quoted "a'b" = "\"a'b\"" := by decide +kernel
example : quoted "a'\"b" = "'a\\'\"b'" := by decide +kernel
example : quoted "\t\x7f\u2028é" = "'\\t\\x7f\\u2028é'" := by decide +kernel

end AbiDoc.Text
