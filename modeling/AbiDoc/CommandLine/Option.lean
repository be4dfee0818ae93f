import AbiDoc.Assoc
import AbiDoc.CommandLine.Usage
import AbiDoc.Text.Digit
import AbiDoc.Text.Quoted

/-!
# Options among arguments

How an argument is told to be an option or a word, and what an option argument asks for.  A long
option may be shortened as long as one option fits; its value may follow after `=`.  Short options
may share one argument as long as they take no value, and the first that takes one takes what is
left; an equals sign right behind the first of them is passed over.  A negative number and anything
with a blank in it is a word unless it spells an option, and after `--` everything is a word.

The divider `--` is never a value: an option to which it is attached is left blank.  That is how the
option parser of the early 3.11 patch releases takes it; later ones keep an attached divider.
-/

namespace AbiDoc.CommandLine

/-- What an option sets. -/
inductive Setting where
  | help
  | verbose
  | contract
  | output
  | indent
  deriving DecidableEq, Repr

/-- Whether the option needs a value. -/
def Setting.takesValue : Setting → Bool
  | .help | .verbose => false
  | .contract | .output | .indent => true

/-- The name by which messages call the option. -/
def Setting.label : Setting → String
  | .help => "-h/--help"
  | .verbose => "--verbose/-v"
  | .contract => "--contract/-c"
  | .output => "--output/-o"
  | .indent => "--indent"

/-- The spellings of the options, in the order in which messages list them. -/
def Level.spellings : Level → Assoc (List Char) Setting
  | .program => [
      (['-', 'h'], .help), ("--help".toList, .help),
      ("--verbose".toList, .verbose), (['-', 'v'], .verbose)]
  | .merge => [
      (['-', 'h'], .help), ("--help".toList, .help),
      ("--contract".toList, .contract), (['-', 'c'], .contract),
      ("--output".toList, .output), (['-', 'o'], .output),
      ("--indent".toList, .indent)]

/-- The value of an option; it is blank when the divider stands in its place. -/
inductive Value (α : Type) where
  | blank
  | given (value : α)
  deriving DecidableEq, Repr

/-- The value that an attached text gives.  An attached divider is dropped, which later patch
releases of the option parser no longer do. -/
def Value.ofText (text : List Char) : Value String :=
  if text = ['-', '-'] then .blank else .given (String.ofList text)

/-- What stands in one argument behind the spelling of its option. -/
inductive Attached where
  | nothing
  /-- The text behind a long option and an equals sign. -/
  | value (text : List Char)
  /-- The text behind a short option, with or without an equals sign between them. -/
  | tail (text : List Char)
  deriving DecidableEq, Repr

/-- Whether a spelling is that of a long option. -/
def isLong : List Char → Bool
  | '-' :: '-' :: _ => true
  | _ => false

/-- What stands behind a spelling, given the text after its equals sign, if it has one. -/
def Attached.behind (spelling : List Char) : Option (List Char) → Attached
  | none => .nothing
  | some text => if isLong spelling then .value text else .tail text

/-- What an argument is. -/
inductive Token where
  | word
  /-- The first `--`. -/
  | divider
  | option (setting : Setting) (attached : Attached)
  /-- An argument that looks like an option and spells none. -/
  | unknown
  /-- An argument that shortens more than one option. -/
  | ambiguous (spellings : List (List Char))
  deriving DecidableEq, Repr

/-- A negative number in decimal digits of any script, with or without a fraction; a line feed may
follow it. -/
def isNegativeNumber (argument : List Char) : Bool :=
  match argument with
  | '-' :: rest =>
    let rest := if rest.getLast? = some '\n' then rest.dropLast else rest
    match rest.dropWhile Text.isDigit with
    | [] => !rest.isEmpty
    | '.' :: decimals => !decimals.isEmpty && decimals.all Text.isDigit
    | _ => false
  | _ => false

/-- An argument cut at its first equals sign, if it has one. -/
def cutAtEquals (argument : List Char) : List Char × Option (List Char) :=
  match argument.dropWhile (· ≠ '=') with
  | _ :: text => (argument.takeWhile (· ≠ '='), some text)
  | [] => (argument, none)

/-- The options that an argument may shorten or start with. -/
def candidates (spellings : Assoc (List Char) Setting) (argument : List Char) :
    List (List Char × Setting × Attached) :=
  if isLong argument then
    let (start, text) := cutAtEquals argument
    (spellings.filter fun entry => start.isPrefixOf entry.1).map fun entry =>
      (entry.1, entry.2, .behind entry.1 text)
  else
    spellings.filterMap fun entry =>
      if entry.1 = argument.take 2 then some (entry.1, entry.2, .tail (argument.drop 2))
      else if argument.isPrefixOf entry.1 then some (entry.1, entry.2, .nothing)
      else none

/-- What an argument before any divider is. -/
def classify (spellings : Assoc (List Char) Setting) (argument : List Char) : Token :=
  if argument.head? ≠ some '-' then .word
  else match Assoc.find? argument spellings with
  | some setting => .option setting .nothing
  | none =>
    if argument = ['-'] then .word
    else
      let (start, text) := cutAtEquals argument
      match Assoc.find? start spellings with
      | some setting => .option setting (.behind start text)
      | none =>
        match candidates spellings argument with
        | [(_, setting, attached)] => .option setting attached
        | [] =>
          if isNegativeNumber argument then .word
          else if ' ' ∈ argument then .word
          else .unknown
        | several => .ambiguous (several.map (·.1))

/-- Arguments with what each of them is. -/
def tokens (spellings : Assoc (List Char) Setting) : List String → List (String × Token)
  | [] => []
  | argument :: rest =>
    if argument = "--" then (argument, .divider) :: rest.map fun word => (word, .word)
    else (argument, classify spellings argument.toList) :: tokens spellings rest

/-- What one option argument asks for. -/
structure OptionReading where
  /-- The options that are complete, with their values; one that takes none is blank. -/
  settings : List (Setting × Value String)
  /-- The last option, when it waits for the next argument. -/
  awaiting : Option Setting
  deriving DecidableEq, Repr

/-- An option without a value in front of a reading. -/
def OptionReading.cons (setting : Setting) (reading : OptionReading) : OptionReading :=
  { reading with settings := (setting, .blank) :: reading.settings }

/-- The report that an option was given a value that it does not take. -/
def ignoredValue (setting : Setting) (text : List Char) : String :=
  "argument " ++ setting.label ++ ": ignored explicit argument " ++
    Text.quoted (String.ofList text)

/-- An option that nothing follows in its argument. -/
def readBare (setting : Setting) : OptionReading :=
  if setting.takesValue then ⟨[], some setting⟩ else ⟨[(setting, .blank)], none⟩

/-- An option with a text for its value. -/
def readValued (setting : Setting) (text : List Char) : Except String OptionReading :=
  if setting.takesValue then .ok ⟨[(setting, .ofText text)], none⟩
  else .error (ignoredValue setting text)

/-- A short option with the text behind it: its value, or further short options. -/
def readTail (spellings : Assoc (List Char) Setting) (setting : Setting) :
    List Char → Except String OptionReading
  | [] => readValued setting []
  | letter :: rest =>
    if setting.takesValue then readValued setting (letter :: rest)
    else
      match Assoc.find? ['-', letter] spellings with
      | none => .error (ignoredValue setting (letter :: rest))
      | some next =>
        (if rest.isEmpty then .ok (readBare next) else readTail spellings next rest).map
          (.cons setting)

/-- What an option argument asks for, or why it is refused. -/
def readOption (spellings : Assoc (List Char) Setting) (setting : Setting) :
    Attached → Except String OptionReading
  | .nothing => .ok (readBare setting)
  | .value text => readValued setting text
  | .tail text => readTail spellings setting text

end AbiDoc.CommandLine
