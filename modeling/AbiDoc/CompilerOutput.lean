import AbiDoc.FileSystem
import AbiDoc.Logged

/-!
# Compiler output

Reading the file in which a compiler's output lies.  The file is UTF-8 text; its line ends are made
line feeds before it is read as JSON.  A build record that wraps the output in its member `output`
counts as that member.
-/

namespace AbiDoc.CompilerOutput

/-- A text with line feeds for line ends. -/
def unifyLineEnds : List Char → List Char
  | '\r' :: '\n' :: rest => '\n' :: unifyLineEnds rest
  | '\r' :: rest => '\n' :: unifyLineEnds rest
  | c :: rest => c :: unifyLineEnds rest
  | [] => []

/-- The text of a file. -/
def decode (content : ByteArray) : Outcome String :=
  match String.fromUTF8? content with
  | some text => .ok (String.ofList (unifyLineEnds text.toList))
  | none => .error .undecodable

/-- A text that was written as UTF-8 is read back, but for its line ends. -/
theorem decode_toUTF8 (text : String) :
    decode text.toUTF8 = .ok (String.ofList (unifyLineEnds text.toList)) := by
  have hvalid : text.toUTF8.IsValidUTF8 := text.isValidUTF8
  rw [decode, String.fromUTF8?, dif_pos hvalid]
  rfl

/-- Why a text is given up: it breaks a limit of its reader, or it is no JSON. -/
def faultOf (path : Path) (error : Json.SyntaxError) : Fault :=
  match error.cause with
  | .oversizedInteger => .oversizedInteger
  | .tooDeep => .tooDeep
  | _ => .invalidJson path error

/-- The value that a text holds; `path` names the text in a report. -/
def parse [Machine] (path : Path) (text : String) : Outcome Json :=
  (Json.parse text).mapError (faultOf path)

/-- The output itself, out of the build record that may wrap it. -/
def unwrap (value : Json) : Json :=
  match value with
  | .obj members =>
    match Assoc.find? "output" members with
    | some (.obj inner) => .obj inner
    | _ => value
  | _ => value

/-- Whether a value is an object with an object of contracts. -/
def hasContracts : Json → Bool
  | .obj members =>
    match Assoc.find? "contracts" members with
    | some (.obj _) => true
    | _ => false
  | _ => false

/-- The output in a text. -/
def ofText [Machine] (path : Path) (text : String) : Outcome Json := do
  let output := unwrap (← parse path text)
  if hasContracts output then return output else throw (.noContracts path)

/-- The output in a text, by the value that the text reads as. -/
theorem ofText_of_parse [Machine] {text : String} {value : Json}
    (h : Json.parse text = .ok value) (path : Path) :
    ofText path text =
      if hasContracts (unwrap value) then .ok (unwrap value) else .error (.noContracts path) := by
  rw [ofText, parse, h]
  rfl

/-- A text that does not read as a value holds no output. -/
theorem ofText_of_parse_error [Machine] {text : String} {error : Json.SyntaxError}
    (h : Json.parse text = .error error) (path : Path) :
    ofText path text = .error (faultOf path error) := by
  rw [ofText, parse, h]
  rfl

/-- The bytes of a file that is to be read, given what opening it gave. -/
def contentOf (path : Path) (opened : Except FileError ByteArray) : Outcome ByteArray :=
  if path.hasNull then .error .nullInPath else opened.mapError .unreadable

/-- The output in a file, given what opening the file gave. -/
def ofFile [Machine] (path : Path) (opened : Except FileError ByteArray) : Logged Json := do
  Logged.say ("Loading compiler output from " ++ path.toString)
  Logged.quietly do
    let content ← contentOf path opened
    ofText path (← decode content)

/-- A file that holds a text is loaded as that text. -/
theorem outcome_ofFile_toUTF8 [Machine] {path : Path} (hpath : path.hasNull = false)
    (text : String) :
    (ofFile path (.ok text.toUTF8)).outcome =
      ofText path (String.ofList (unifyLineEnds text.toList)) := by
  have hcontent : contentOf path (.ok text.toUTF8) = .ok text.toUTF8 := by
    rw [contentOf, hpath]
    rfl
  simp only [ofFile, Logged.outcome_bind, Logged.outcome_say, Logged.outcome_quietly, hcontent]
  show (decode text.toUTF8 >>= fun text => ofText path text) = _
  rw [decode_toUTF8]
  rfl

end AbiDoc.CompilerOutput
