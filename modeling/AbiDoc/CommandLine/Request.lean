import AbiDoc.CommandLine.Option
import AbiDoc.Path
import AbiDoc.Text.Numeral

/-!
# Requests

Reading the arguments of a run as a request: the options of the program, then the command with the
options and the one path of its own, in any order.  Arguments are read from left to right, and the
first that asks for help or cannot be read ends the reading.
-/

namespace AbiDoc.CommandLine

/-- What a merge is asked for. -/
structure MergeRequest where
  /-- The compiler output to read. -/
  path : Path
  /-- The contracts to merge, by name; all of them when there is none. -/
  contracts : List (Value String)
  /-- The file to write; standard output when there is none. -/
  output : Option (Value Path)
  indent : Value Int
  deriving DecidableEq, Repr

/-- What a run is asked for. -/
structure Request where
  verbose : Bool
  /-- Without a command there is nothing to do. -/
  merge : Option MergeRequest
  deriving DecidableEq, Repr

/-- Why the arguments make no request. -/
inductive Refusal where
  /-- Help was asked for. -/
  | help (level : Level)
  /-- The arguments cannot be read. -/
  | usage (level : Level) (message : String)
  deriving DecidableEq, Repr

/-- The arguments of a level with what each of them is; none may be ambiguous. -/
def scan (level : Level) (arguments : List String) : Except Refusal (List (String × Token)) :=
  let scanned := tokens level.spellings arguments
  match scanned.findSome? fun entry =>
      match entry.2 with
      | .ambiguous spellings => some (entry.1, spellings)
      | _ => none with
  | some (argument, spellings) =>
    .error (.usage level ("ambiguous option: " ++ argument ++ " could match " ++
      ", ".intercalate (spellings.map String.ofList)))
  | none => .ok scanned

/-- A refusal because of one option. -/
def refuseSetting (level : Level) (setting : Setting) (reason : String) : Refusal :=
  .usage level ("argument " ++ setting.label ++ ": " ++ reason)

/-! ### The arguments of a merge -/

/-- What the arguments of a merge have said so far. -/
structure MergeState where
  path : Option String
  contracts : List (Value String)
  output : Option (Value Path)
  indent : Value Int
  /-- The arguments that nobody knows. -/
  unknown : List String
  deriving DecidableEq, Repr

namespace MergeState

/-- Nothing said: all contracts, to standard output, indented by two. -/
def initial : MergeState := ⟨none, [], none, .given 2, []⟩

/-- One more argument that nobody knows. -/
def ignore (state : MergeState) (argument : String) : MergeState :=
  { state with unknown := state.unknown ++ [argument] }

/-- A word: the path, or one word too many. -/
def word (state : MergeState) (argument : String) : MergeState :=
  match state.path with
  | none => { state with path := some argument }
  | some _ => state.ignore argument

/-- The path that a text spells; blank for no text. -/
def pathOf : Value String → Value Path
  | .blank => .blank
  | .given text => .given (Path.ofString text)

/-- The number that a text spells; blank for no text. -/
def indentOf : Value String → Except Refusal (Value Int)
  | .blank => .ok .blank
  | .given text =>
    match Text.readInt? text.toList with
    | some indent => .ok (.given indent)
    | none => .error (refuseSetting .merge .indent ("invalid int value: " ++ Text.quoted text))

/-- One option with its value. -/
def set (state : MergeState) (setting : Setting) (value : Value String) :
    Except Refusal MergeState :=
  match setting with
  | .help => .error (.help .merge)
  | .verbose => .ok state
  | .contract => .ok { state with contracts := state.contracts ++ [value] }
  | .output => .ok { state with output := some (pathOf value) }
  | .indent => (indentOf value).map fun indent => { state with indent := indent }

/-- Options in order. -/
def setAll (state : MergeState) (settings : List (Setting × Value String)) :
    Except Refusal MergeState :=
  settings.foldlM (fun state entry => state.set entry.1 entry.2) state

/-- Reads the arguments of a merge one by one.  The divider belongs to the word beside it that
becomes the path; otherwise nobody knows it. -/
def readAll (state : MergeState) : List (String × Token) → Except Refusal MergeState
  | [] => .ok state
  | (argument, .word) :: (divider, .divider) :: rest =>
    match state.path with
    | none => readAll (state.word argument) rest
    | some _ => readAll ((state.ignore argument).ignore divider) rest
  | (argument, .word) :: rest => readAll (state.word argument) rest
  | (divider, .divider) :: (argument, .word) :: rest =>
    match state.path with
    | none => readAll (state.word argument) rest
    | some _ => readAll ((state.ignore divider).ignore argument) rest
  | (divider, .divider) :: rest => readAll (state.ignore divider) rest
  | (_, .option setting attached) :: rest =>
    match readOption Level.merge.spellings setting attached with
    | .error message => .error (.usage .merge message)
    | .ok reading =>
      match reading.awaiting, rest with
      | none, rest => do readAll (← state.setAll reading.settings) rest
      | some setting, (value, .word) :: rest => do
        readAll (← state.setAll (reading.settings ++ [(setting, .given value)])) rest
      | some setting, _ => .error (refuseSetting .merge setting "expected one argument")
  | (argument, _) :: rest => readAll (state.ignore argument) rest

end MergeState

/-- The arguments of a merge as a request, with the arguments that nobody knows. -/
def readMerge (arguments : List String) : Except Refusal (MergeRequest × List String) := do
  let state ← MergeState.initial.readAll (← scan .merge arguments)
  match state.path with
  | some path =>
    return (⟨Path.ofString path, state.contracts, state.output, state.indent⟩, state.unknown)
  | none => throw (.usage .merge "the following arguments are required: path")

/-! ### The arguments of the program -/

/-- What the options in front of the command say: whether to tell the progress, and the arguments
that nobody knows. -/
structure ProgramState where
  verbose : Bool
  unknown : List String
  deriving DecidableEq, Repr

/-- One option of the program. -/
def ProgramState.set (state : ProgramState) : Setting → Except Refusal ProgramState
  | .help => .error (.help .program)
  | .verbose => .ok { state with verbose := true }
  | _ => .ok state

/-- A command by its name with the arguments behind it. -/
def readCommand (state : ProgramState) (name : String) (arguments : List String) :
    Except Refusal (Request × List String) :=
  if name = "merge" then do
    let (merge, unknown) ← readMerge arguments
    return (⟨state.verbose, some merge⟩, state.unknown ++ unknown)
  else
    .error (.usage .program ("argument command: invalid choice: " ++ Text.quoted name ++
      " (choose from 'merge')"))

/-- Reads the options of the program up to the command. -/
def readProgram (state : ProgramState) :
    List (String × Token) → Except Refusal (Request × List String)
  | [] => .ok (⟨state.verbose, none⟩, state.unknown)
  | (name, .word) :: rest => readCommand state name (rest.map (·.1))
  | [(divider, .divider)] => .ok (⟨state.verbose, none⟩, state.unknown ++ [divider])
  | (divider, .divider) :: rest => readCommand state divider (rest.map (·.1))
  | (_, .option setting attached) :: rest =>
    match readOption Level.program.spellings setting attached with
    | .error message => .error (.usage .program message)
    | .ok reading => do
      readProgram (← reading.settings.foldlM (fun state entry => state.set entry.1) state) rest
  | (argument, _) :: rest =>
    readProgram { state with unknown := state.unknown ++ [argument] } rest

/-- The request that arguments make; all of them have to be known. -/
def readRequest (arguments : List String) : Except Refusal Request := do
  let (request, unknown) ← readProgram ⟨false, []⟩ (← scan .program arguments)
  if unknown.isEmpty then return request
  else throw (.usage .program ("unrecognized arguments: " ++ " ".intercalate unknown))

end AbiDoc.CommandLine
