import AbiDoc.Json.Basic
import AbiDoc.Json.Number
import AbiDoc.Text.Quoted

/-!
# Values inside messages

The text by which a value stands in a signature or a message.  A text stands as it is; any other
value by its literal, in which the constants are spelled `None`, `True` and `False` and every text
is quoted.
-/

namespace AbiDoc.Json

mutual

/-- The literal of a value. -/
def literal : Json → String
  | .null => "None"
  | .bool b => if b then "True" else "False"
  | .int n => toString n
  | .float x => String.ofList (numberLayout.text "nan" "inf" x)
  | .str s => Text.quoted s
  | .arr items => "[" ++ ", ".intercalate (literals items) ++ "]"
  | .obj members => "\x7b" ++ ", ".intercalate (memberLiterals members) ++ "\x7d"
termination_by structural value => value

/-- The literals of the items of an array. -/
def literals : List Json → List String
  | [] => []
  | item :: rest => literal item :: literals rest
termination_by structural items => items

/-- The literals of the members of an object, each after its quoted key. -/
def memberLiterals : List (String × Json) → List String
  | [] => []
  | (key, value) :: rest => (Text.quoted key ++ ": " ++ literal value) :: memberLiterals rest
termination_by structural members => members

end

/-- A value as it stands in a text. -/
def plain : Json → String
  | .str s => s
  | value => literal value

@[simp] theorem plain_str (s : String) : plain (.str s) = s := rfl

end AbiDoc.Json
