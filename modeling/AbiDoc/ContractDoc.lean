import AbiDoc.Category
import AbiDoc.CompiledContract
import AbiDoc.Json.Writer
import AbiDoc.Logged

/-!
# Documented contracts

The documentation of a whole contract: its own description and, category by category, that of its
functions, events and errors.  It is put together from the documents of a compiled contract and
written as JSON.
-/

namespace AbiDoc

/-- The documentation of a contract; null stands for what is not set. -/
structure ContractDoc where
  name : Json
  notice : Json
  details : Json
  author : Json
  title : Json
  functions : Assoc String EntryDoc
  events : Assoc String EntryDoc
  errors : Assoc String EntryDoc
  deriving DecidableEq, Repr

namespace ContractDoc

/-- A category by signature. -/
def categoryJson (category : Assoc String EntryDoc) : Json :=
  .obj (Assoc.mapValues EntryDoc.toJson category)

/-- The parts that are set, by name; the categories are always there. -/
def toJson (doc : ContractDoc) : Json :=
  .obj (Json.withoutNulls [
    ("name", doc.name), ("notice", doc.notice), ("details", doc.details),
    ("author", doc.author), ("title", doc.title)] ++
    [("functions", categoryJson doc.functions), ("events", categoryJson doc.events),
      ("errors", categoryJson doc.errors)])

/-- The documentation as JSON text. -/
def render [Machine] (indent : Option Int) (doc : ContractDoc) : Outcome String :=
  doc.toJson.write indent

/-- The entries of one kind with their documentation, with a line that says how many there are. -/
def mergeKind (kind abi devdoc userdoc identifiers : Json) : Logged (Assoc String EntryDoc) := do
  let merged ← Logged.quietly (Category.merge kind abi devdoc userdoc identifiers)
  Logged.say ("Merged " ++ toString merged.length ++ " " ++ kind.plain ++ " entries")
  return merged

/-- The documentation of a compiled contract. -/
def ofContract (contract : CompiledContract) : Logged ContractDoc := do
  Logged.say ("Parsing contract info for " ++ contract.name.plain)
  let devdoc := contract.devdoc.orElse (.obj [])
  let userdoc := contract.userdoc.orElse (.obj [])
  let identifiers ← Logged.quietly ((contract.evm.orElse (.obj [])).field "methodIdentifiers")
  let description ← Logged.quietly (Description.gather contract.name devdoc userdoc)
  let author ← Logged.quietly (devdoc.given "author")
  let title ← Logged.quietly (devdoc.given "title")
  let events ← mergeKind eventKind contract.abi devdoc userdoc .null
  let functions ← mergeKind functionKind contract.abi devdoc userdoc identifiers
  let errors ← mergeKind errorKind contract.abi devdoc userdoc .null
  Logged.say ("Parsed " ++ contract.name.plain ++ ": " ++ toString functions.length ++
    " functions, " ++ toString events.length ++ " events, " ++ toString errors.length ++ " errors")
  return {
    name := description.name
    notice := description.notice
    details := description.details
    author := author
    title := title
    functions := functions
    events := events
    errors := errors }

end ContractDoc

end AbiDoc
