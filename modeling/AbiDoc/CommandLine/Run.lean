import AbiDoc.CommandLine.Request
import AbiDoc.CompilerOutput
import AbiDoc.ContractDoc

/-!
# Runs

What a run of the command line does: it reads one file, merges the contracts that were asked for
and gives the documentation out, on standard output or into a file.  Everything is merged before
anything is given out, so a run that fails changes no file and prints no documentation.
-/

namespace AbiDoc.CommandLine

/-- What a run gives back: its exit code, or the fault that ended it, and what it printed. -/
structure Report where
  result : Outcome Nat
  stdout : String
  stderr : String

/-- One line of the log. -/
def logLine (severity text : String) : String := severity ++ ": " ++ text ++ "\n"

/-- The log of the progress, which only a verbose run shows. -/
def progressLog (verbose : Bool) (lines : List String) : String :=
  if verbose then String.join (lines.map (logLine "INFO")) else ""

/-- What is printed about a fault that is reported. -/
def faultLog (fault : Fault) : String :=
  (match fault.logged? with
    | some text => logLine "ERROR" text
    | none => "") ++
  logLine "ERROR" ("Merge failed: " ++ fault.message) ++ "Error: " ++ fault.message ++ "\n"

/-- What a run gives back when it fails after some progress was printed. -/
def Report.failed (progress : String) (fault : Fault) : Report :=
  if fault.isReported then ⟨.ok 1, "", progress ++ faultLog fault⟩ else ⟨.error fault, "", progress⟩

/-- What a run gives back when its arguments make no request. -/
def Refusal.report : Refusal → Report
  | .help level => ⟨.ok 1, level.help, ""⟩
  | .usage level message =>
    ⟨.ok 2, "", level.usage ++ level.title ++ ": error: " ++ message ++ "\n"⟩

/-- The merge that arguments ask for and whether to tell the progress, or what the run gives back
without one. -/
def interpret (arguments : List String) : Except Report (Bool × MergeRequest) :=
  match readRequest arguments with
  | .error refusal => .error refusal.report
  | .ok ⟨_, none⟩ => .error ⟨.ok 1, "", Level.program.help⟩
  | .ok ⟨verbose, some merge⟩ => .ok (verbose, merge)

namespace MergeRequest

/-- What a name asks for; a blank one asks for an empty list, which no contract answers to. -/
def queryOf : Value String → Json
  | .blank => .arr []
  | .given name => .str name

/-- The contracts of an output that are asked for, in the order in which they are. -/
def select (request : MergeRequest) (output : Json) : Outcome (List CompiledContract) :=
  if request.contracts.isEmpty then compiledContracts output
  else request.contracts.mapM fun name => findContract output (queryOf name)

/-- The documentation of contracts, by qualified name. -/
def document (contracts : List CompiledContract) : Logged (Assoc String ContractDoc) := do
  let documented ← contracts.mapM fun contract => do
    let doc ← ContractDoc.ofContract contract
    return (contract.qualifiedName, doc)
  return Assoc.ofList documented

/-- The documentation that is asked for, given what opening the input gave. -/
def merged [Machine] (request : MergeRequest) (opened : Except FileError ByteArray) :
    Logged (Assoc String ContractDoc) := do
  let output ← CompilerOutput.ofFile request.path opened
  let contracts ← Logged.quietly (request.select output)
  document contracts

/-- The documentation of some contracts as one value. -/
def docsJson (docs : Assoc String ContractDoc) : Json :=
  .obj (Assoc.mapValues ContractDoc.toJson docs)

/-- Documentation as JSON text with a line feed after it. -/
def content [Machine] (indent : Value Int) (docs : Assoc String ContractDoc) : Outcome String :=
  match indent with
  | .blank => .error .blankIndent
  | .given indent => ((docsJson docs).write (some indent)).map (· ++ "\n")

/-- What is printed once the documentation of some contracts was written to a file. -/
def closing (verbose : Bool) (count : Nat) (path : Path) : String :=
  progressLog verbose ["Merged documentation written to " ++ path.toString] ++
    "Merged " ++ toString count ++ " contracts. Written to: " ++ path.toString ++ "\n"

end MergeRequest

/-- What is left to do once everything is merged. -/
inductive Plan where
  /-- Nothing but to give back a report. -/
  | finish (report : Report)
  /-- A file is to be written; `progress` was printed before and `closing` follows when it
  succeeds. -/
  | write (path : Path) (content progress closing : String)

/-- What a merge comes to, given what opening the input gave. -/
def MergeRequest.plan [Machine] (request : MergeRequest) (verbose : Bool)
    (opened : Except FileError ByteArray) : Plan :=
  let work := request.merged opened
  let progress := progressLog verbose work.lines
  match work.outcome with
  | .error fault => .finish (.failed progress fault)
  | .ok docs =>
    match content request.indent docs with
    | .error fault => .finish (.failed progress fault)
    | .ok text =>
      match request.output with
      | none => .finish ⟨.ok 0, text, progress⟩
      | some .blank => .finish (.failed progress .blankOutput)
      | some (.given path) => .write path text progress (closing verbose docs.length path)

/-- A file system with one file written. -/
def writeText (files : FileSystem) (path : Path) (text : String) : Outcome FileSystem :=
  if path.hasNull then .error .nullInPath
  else (files.write path text.toUTF8).mapError .unwritable

/-- Carries out a plan: what the run gives back, and the files after it. -/
def Plan.carryOut (files : FileSystem) : Plan → Report × FileSystem
  | .finish report => (report, files)
  | .write path content progress closing =>
    match writeText files path content with
    | .ok written => (⟨.ok 0, "", progress ++ closing⟩, written)
    | .error fault => (.failed progress fault, files)

/-- A merge on a file system. -/
def MergeRequest.run [Machine] (request : MergeRequest) (verbose : Bool) (files : FileSystem) :
    Report × FileSystem :=
  (request.plan verbose (files.read request.path)).carryOut files

/-- A whole run on a file system: what it gives back, and the files after it. -/
def run [Machine] (files : FileSystem) (arguments : List String) : Report × FileSystem :=
  match interpret arguments with
  | .error report => (report, files)
  | .ok (verbose, request) => request.run verbose files

end AbiDoc.CommandLine
