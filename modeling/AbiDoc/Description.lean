import AbiDoc.Json.Access

/-!
# Descriptions

What contracts and their entries have in common: a name, the notice that the user documentation
gives, and the details that the developer documentation gives.
-/

namespace AbiDoc

/-- A name with its notice and details; null stands for what is not documented. -/
structure Description where
  name : Json
  notice : Json
  details : Json
  deriving DecidableEq, Repr

/-- The description of a name by its two documentation fragments. -/
def Description.gather (name devdoc userdoc : Json) : Outcome Description := do
  let notice ← userdoc.given "notice"
  let details ← devdoc.given "details"
  return ⟨name, notice, details⟩

end AbiDoc
