import AbiDoc.EntryDoc
import AbiDoc.Fragment
import AbiDoc.Signature

/-!
# Categories

The entries of one kind of a contract's interface, each with its documentation, under their
canonical signatures.  Entries keep the order of the interface; of entries with one signature the
first gives the position and the last the record.
-/

namespace AbiDoc

/-- The entries of a kind, in the order of the interface. -/
def entriesOf (kind abi : Json) : Outcome (List Json) := do
  (← abi.elements).filterM fun entry => (entry.field "type").map (·.same kind)

namespace Category

/-- The selector of an entry: a function has to have one under its signature, other entries have
none. -/
def selectorOf (kind identifiers : Json) (signature : String) : Outcome Json :=
  if kind = functionKind then do
    let selector ← (identifiers.orElse (.obj [])).field signature
    if selector.truthy then return selector else throw (.selectorNotFound signature)
  else .ok .null

/-- An entry of a kind with its documentation, under its signature. -/
def document (kind devdoc userdoc identifiers entry : Json) : Outcome (String × EntryDoc) := do
  let signature ← Entry.signature entry
  let selector ← selectorOf kind identifiers signature
  let dev ← Fragment.find devdoc kind (.str signature)
  let user ← Fragment.find userdoc kind (.str signature)
  return (signature, ← EntryDoc.ofEntry entry dev user selector)

/-- All entries of a kind with their documentation, by signature. -/
def merge (kind abi devdoc userdoc identifiers : Json) : Outcome (Assoc String EntryDoc) := do
  let documented ← (← entriesOf kind abi).mapM (document kind devdoc userdoc identifiers)
  return Assoc.ofList documented

end Category

end AbiDoc
