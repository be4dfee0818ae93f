import AbiDoc.CompilerOutput
import AbiDoc.ContractDoc

/-!
# Sessions

Working on one compiler output step by step: a contract is picked and its documents may be
replaced before it is merged, and the documentation that came out may be edited.  The last two
results are kept for comparison.  A step that fails changes nothing.
-/

namespace AbiDoc

/-- The documents of a contract that a step may replace. -/
inductive Session.Field where
  | source
  | name
  | abi
  | devdoc
  | userdoc
  | evm
  deriving DecidableEq, Repr

/-- The categories of a documentation. -/
inductive Session.Category where
  | functions
  | events
  | errors
  deriving DecidableEq, Repr

/-- The parts of a documentation that a step may replace. -/
inductive Session.Part where
  | name
  | notice
  | details
  | author
  | title
  | category (category : Category)
  deriving DecidableEq, Repr

/-- What has been loaded, picked and merged so far. -/
structure Session where
  output : Option Json
  contract : Option CompiledContract
  last : Option ContractDoc
  previous : Option ContractDoc

namespace Session

/-- A session in which nothing was done. -/
def start : Session := ⟨none, none, none, none⟩

/-- One step of a session. -/
inductive Step where
  | load (path : Path)
  | list
  | find (query : Json)
  | set (field : Field) (value : Json)
  | merge
  | same
  | edit (part : Part) (value : Json)
  | drop (category : Category) (signature : Json)
  | json (indent : Option Int)
  | modifiers (mutability appended : Json)

/-- What a step answers. -/
inductive Answer where
  | names (names : List String)
  | name (name : String)
  | doc (doc : ContractDoc)
  | verdict (verdict : Bool)
  | text (text : String)
  | values (values : List Json)

/-- A contract with one document replaced. -/
def replace (contract : CompiledContract) (value : Json) : Field → CompiledContract
  | .source => { contract with source := value }
  | .name => { contract with name := value }
  | .abi => { contract with abi := value }
  | .devdoc => { contract with devdoc := value }
  | .userdoc => { contract with userdoc := value }
  | .evm => { contract with evm := value }

/-- The entries of a category. -/
def entries (doc : ContractDoc) : Category → Assoc String EntryDoc
  | .functions => doc.functions
  | .events => doc.events
  | .errors => doc.errors

/-- A documentation with other entries in a category. -/
def withEntries (doc : ContractDoc) (entries : Assoc String EntryDoc) : Category → ContractDoc
  | .functions => { doc with functions := entries }
  | .events => { doc with events := entries }
  | .errors => { doc with errors := entries }

/-- A documentation with one part replaced.  No documented entry can be given as a value, so a
category can only be emptied. -/
def amend (doc : ContractDoc) (value : Json) : Part → Outcome ContractDoc
  | .name => .ok { doc with name := value }
  | .notice => .ok { doc with notice := value }
  | .details => .ok { doc with details := value }
  | .author => .ok { doc with author := value }
  | .title => .ok { doc with title := value }
  | .category category =>
    if value = .obj [] then .ok (withEntries doc [] category) else .error .noMembers

/-- Entries without the one under a signature, which has to be there. -/
def remove (entries : Assoc String EntryDoc) (signature : Json) :
    Outcome (Assoc String EntryDoc) := do
  match ← signature.asKey with
  | some key =>
    if (Assoc.find? key entries).isSome then return Assoc.erase key entries
    else throw (.missingKey signature)
  | none => throw (.missingKey signature)

/-- Whether two results are the same; two that are missing are. -/
def sameDocs : Option ContractDoc → Option ContractDoc → Bool
  | none, none => true
  | some doc, some other => doc.toJson.same other.toJson
  | _, _ => false

/-- What a step needs and has. -/
def needed {α : Type} : Option α → Outcome α
  | some value => .ok value
  | none => .error .noMembers

/-- One step: its answer and the session after it. -/
def step [Machine] (files : FileSystem) (session : Session) : Step → Outcome (Answer × Session)
  | .load path => do
    let output ← (CompilerOutput.ofFile path (files.read path)).outcome
    let sources ← (← output.field "contracts").membersOf
    return (.names (Assoc.keys sources), { session with output := some output })
  | .list => do
    let contracts ← compiledContracts (← needed session.output)
    return (.names (contracts.map (·.qualifiedName)), session)
  | .find query => do
    let contract ← findContract (← needed session.output) query
    return (.name contract.qualifiedName, { session with contract := some contract })
  | .set field value => do
    let contract := replace (← needed session.contract) value field
    return (.name contract.qualifiedName, { session with contract := some contract })
  | .merge => do
    let doc ← (ContractDoc.ofContract (← needed session.contract)).outcome
    return (.doc doc, { session with last := some doc, previous := session.last })
  | .same => return (.verdict (sameDocs session.last session.previous), session)
  | .edit part value => do
    let doc ← amend (← needed session.last) value part
    return (.doc doc, { session with last := some doc })
  | .drop category signature => do
    let doc ← needed session.last
    let left ← remove (entries doc category) signature
    return (.names (Assoc.keys left), { session with last := some (withEntries doc left category) })
  | .json indent => do
    return (.text (← (← needed session.last).render indent), session)
  | .modifiers mutability appended => do
    let modifiers ← modifiersOf mutability .null
    return (.values (modifiers.map .str ++ [appended]), session)

/-- All steps in order, each on what the ones before it left; a step that fails is passed over. -/
def runAll [Machine] (files : FileSystem) (session : Session) : List Step → List (Outcome Answer)
  | [] => []
  | first :: rest =>
    match step files session first with
    | .ok (answer, next) => .ok answer :: runAll files next rest
    | .error fault => .error fault :: runAll files session rest

end Session

end AbiDoc
