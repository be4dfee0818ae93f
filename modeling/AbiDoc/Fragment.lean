import AbiDoc.Declaration

/-!
# Documentation fragments

Where a documentation document keeps what it says of one entry.  Functions are filed under
`methods`, events under `events` and, failing that, under `methods`, errors under `errors`; an
error has a list of fragments, of which the first counts.  A missing document, bucket or key means
that there is no fragment, which null stands for.
-/

namespace AbiDoc.Fragment

/-- The buckets that hold the fragments of a kind of entry, in the order in which they are
searched. -/
def buckets : Assoc String (List String) :=
  [("function", ["methods"]), ("event", ["events", "methods"]), ("error", ["errors"])]

/-- The buckets to search for a kind of entry, which has to be one of the three. -/
def bucketsOf (kind : Json) : Outcome (List String) := do
  match (← kind.asKey).bind fun key => Assoc.find? key buckets with
  | some names => return names
  | none => throw (.missingKey kind)

/-- The fragment in what a bucket holds for a signature. -/
def select (kind held : Json) : Outcome Json :=
  if kind = errorKind then
    if held.truthy then held.atKey (.int 0) else .ok .null
  else .ok held

/-- The fragment under a signature in the first of some buckets that holds it. -/
def findIn (document kind signature : Json) : List String → Outcome Json
  | [] => .ok .null
  | name :: rest => do
    let bucket ← document.field name
    if !bucket.truthy then findIn document kind signature rest
    else if !(← bucket.holds signature) then findIn document kind signature rest
    else select kind (← bucket.atKey signature)

/-- The fragment of a document for an entry of a kind under its signature. -/
def find (document kind signature : Json) : Outcome Json := do
  if document.truthy then findIn document kind signature (← bucketsOf kind) else return .null

end AbiDoc.Fragment
