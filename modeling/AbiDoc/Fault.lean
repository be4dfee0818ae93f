import AbiDoc.FileSystem
import AbiDoc.Json.Parser
import AbiDoc.Json.Plain
import AbiDoc.Machine

/-!
# Faults

The causes for which a document, a contract or a run is given up, and the words in which each is
reported.  The documents come from outside and have any shape, so besides the faults of the domain
(no selector, unknown mutability, no such contract) there are those of shape: a value without
members was asked for one, a member is missing, a value stands where its kind cannot stand.  They
also have any size, and a machine may have no room for them.
-/

namespace AbiDoc

/-- Why something was given up. -/
inductive Fault where
  /-- A value that has no members was asked for one. -/
  | noMembers
  /-- A value stands where its kind cannot stand. -/
  | wrongKind
  /-- A key that has to be present is missing. -/
  | missingKey (key : Json)
  /-- A position lies outside a list. -/
  | outOfRange
  /-- An indentation is no number of a machine word. -/
  | indentTooLarge
  /-- A text needs more of a memory than the machine has. -/
  | outOfMemory {memory : Memory}
  /-- A function has no selector under its canonical signature. -/
  | selectorNotFound (signature : String)
  /-- A state mutability has no modifiers; `name` is that of the function, or null. -/
  | unknownMutability (mutability name : Json)
  /-- An input file cannot be opened. -/
  | unreadable (error : FileError)
  /-- An input file is no JSON. -/
  | invalidJson (path : Path) (error : Json.SyntaxError)
  /-- An input file holds a whole number of too many digits. -/
  | oversizedInteger
  /-- An input file is no UTF-8 text. -/
  | undecodable
  /-- A path holds the null character. -/
  | nullInPath
  /-- An input file holds no compiled contracts. -/
  | noContracts (path : Path)
  /-- No contract has the name. -/
  | contractNotFound (query : Json)
  /-- More than one contract has the name. -/
  | ambiguousContract (query : Json) (candidates : List String)
  /-- The indentation was left blank. -/
  | blankIndent
  /-- The name of the output file was left blank. -/
  | blankOutput
  /-- An output file cannot be opened. -/
  | unwritable (error : FileError)
  deriving DecidableEq, Repr

/-- A text that is written is too long. -/
abbrev Fault.tooLong : Fault := @Fault.outOfMemory .heap

/-- A text that is read nests too deep. -/
abbrev Fault.tooDeep : Fault := @Fault.outOfMemory .stack

/-- A value, or why there is none. -/
abbrev Outcome := Except Fault

/-- Outcomes are compared in one way, whichever other instances are in scope. -/
instance (priority := high) instDecidableEqExcept {ε α : Type} [DecidableEq ε] [DecidableEq α] :
    DecidableEq (Except ε α)
  | .ok a, .ok b => decidable_of_iff (a = b) ⟨congrArg _, Except.ok.inj⟩
  | .error e, .error f => decidable_of_iff (e = f) ⟨congrArg _, Except.error.inj⟩
  | .ok _, .error _ => .isFalse nofun
  | .error _, .ok _ => .isFalse nofun

/-- The step of a run at which loading fails. -/
inductive LoadPhase where
  | reading
  | parsing
  | lookup
  deriving DecidableEq, Repr

namespace Fault

/-- What a fault says of itself; empty where a fault has nothing to say. -/
def message : Fault → String
  | .missingKey key => key.literal
  | .selectorNotFound signature => "Failed to parse selector for " ++ signature ++ " function"
  | .unknownMutability mutability name =>
    "Failed to get function modifiers from " ++ mutability.plain ++
      if name.truthy then " (function " ++ name.plain ++ ")" else ""
  | .unreadable error => error.message
  | .invalidJson path error => "Invalid JSON in " ++ path.toString ++ ": " ++ error.message
  | .noContracts path => "No contracts found in " ++ path.toString
  | .contractNotFound query => "Contract not found: " ++ query.plain
  | .ambiguousContract query candidates =>
    "Contract name " ++ query.plain ++ " is ambiguous: " ++ ", ".intercalate candidates
  | .unwritable error => error.message
  | .noMembers | .wrongKind | .outOfRange | .indentTooLarge | .outOfMemory | .oversizedInteger
  | .undecodable | .nullInPath | .blankIndent | .blankOutput => ""

/-- The phase in which a fault of loading arises. -/
def phase? : Fault → Option LoadPhase
  | .unreadable _ => some .reading
  | .invalidJson _ _ => some .parsing
  | .noContracts _ => some .parsing
  | .contractNotFound _ => some .lookup
  | .ambiguousContract _ _ => some .lookup
  | _ => none

/-- A fault that a run reports to its user; any other ends the run. -/
def isReported (fault : Fault) : Bool :=
  fault.phase?.isSome ||
    match fault with
    | .selectorNotFound _ => true
    | .unknownMutability _ _ => true
    | _ => false

/-- What is logged where the fault arises, before anyone reports it. -/
def logged? : Fault → Option String
  | .selectorNotFound signature => some ("No selector found for " ++ signature)
  | .unknownMutability mutability name =>
    some ("Unknown state mutability " ++ mutability.literal ++ " for " ++ name.plain)
  | .unreadable error =>
    some ("Failed to read " ++ error.path.toString ++ ": " ++ error.message)
  | .invalidJson path error =>
    some ("Invalid JSON in " ++ path.toString ++ ": " ++ error.message)
  | _ => none

end Fault

end AbiDoc
