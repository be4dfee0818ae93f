import AbiDoc.Declaration
import AbiDoc.Description

/-!
# Documented entries

One function, event or error of a contract with its documentation: inputs and outputs are paired
with their descriptions, an output without a name by its position, and what has no description is
left out.
-/

namespace AbiDoc

/-- A documented input; `indexed` is set for events alone. -/
structure ParamDoc where
  name : Json
  type : Json
  description : Json
  indexed : Json
  deriving DecidableEq, Repr

/-- A documented output. -/
structure ReturnDoc where
  name : Json
  type : Json
  description : Json
  deriving DecidableEq, Repr

/-- A documented function, event or error; null and `none` stand for what is not set. -/
structure EntryDoc where
  name : Json
  abi : Json
  declaration : Declaration
  notice : Json
  details : Json
  params : Option (List ParamDoc)
  returns : Option (List ReturnDoc)
  selector : Json
  deriving DecidableEq, Repr

namespace ParamDoc

/-- The parts that are set, by name. -/
def toJson (param : ParamDoc) : Json :=
  .obj (Json.withoutNulls [
    ("name", param.name), ("type", param.type), ("description", param.description),
    ("indexed", param.indexed)])

/-- The input with its description, if it has one. -/
def ofInput? (descriptions entry input : Json) : Outcome (Option ParamDoc) := do
  let _ ← descriptions.membersOf
  let name ← input.require "name"
  let description ← descriptions.fieldOf name
  if description.truthy then
    let type ← input.require "type"
    let indexed ←
      if (← entry.require "type") = eventKind then
        (input.field "indexed").map fun value => .bool value.truthy
      else .ok .null
    return some ⟨name, type, description, indexed⟩
  else return none

/-- The documented inputs of an entry, in order; not set when the documentation has no place for
them. -/
def collect (devdoc entry : Json) : Outcome (Option (List ParamDoc)) := do
  let descriptions ← if devdoc.truthy then devdoc.field "params" else .ok .null
  if descriptions = .null then return none
  let found ← (← entry.fieldElements "inputs").mapM (ofInput? descriptions entry)
  return some found.reduceOption

end ParamDoc

namespace ReturnDoc

/-- All parts, by name. -/
def toJson (ret : ReturnDoc) : Json :=
  .obj [("name", ret.name), ("type", ret.type), ("description", ret.description)]

/-- The key of an output without a name: its position among all outputs. -/
def positionKey (position : Nat) : Json := .str ("_" ++ toString position)

/-- The output at a position with its description, if it has one. -/
def ofOutput? (descriptions : Json) (output : Json) (position : Nat) :
    Outcome (Option ReturnDoc) := do
  let name := (← output.field "name").orElse (positionKey position)
  let description ← descriptions.fieldOf name
  if description.truthy then
    return some ⟨name, ← output.require "type", description⟩
  else return none

/-- The documented outputs of an entry, in order; not set when the documentation has no place for
them. -/
def collect (devdoc entry : Json) : Outcome (Option (List ReturnDoc)) := do
  let descriptions ← if devdoc.truthy then devdoc.field "returns" else .ok .null
  if descriptions = .null then return none
  let outputs ← entry.fieldElements "outputs"
  let found ← outputs.zipIdx.mapM fun (output, position) => ofOutput? descriptions output position
  return some found.reduceOption

end ReturnDoc

namespace EntryDoc

/-- What kind of entry it is. -/
def kind (doc : EntryDoc) : Json := doc.declaration.kind

/-- The parts that are set, by name. -/
def toJson (doc : EntryDoc) : Json :=
  .obj (Json.withoutNulls ([
    ("name", doc.name), ("notice", doc.notice), ("details", doc.details),
    ("selector", doc.selector), ("abi", doc.abi), ("full_signature", doc.declaration.toJson)] ++
    (doc.params.map fun params => ("params", Json.arr (params.map ParamDoc.toJson))).toList ++
    (doc.returns.map fun returns => ("returns", Json.arr (returns.map ReturnDoc.toJson))).toList))

/-- An entry with its documentation fragments.  Selector and documented outputs belong to
functions. -/
def ofEntry (entry devdoc userdoc selector : Json) : Outcome EntryDoc := do
  let description ← Description.gather (← entry.require "name") devdoc userdoc
  let declaration ← Declaration.ofEntry entry
  let params ← ParamDoc.collect devdoc entry
  let isFunction := (← entry.require "type") = functionKind
  let returns ← if isFunction then ReturnDoc.collect devdoc entry else .ok none
  return {
    name := description.name
    abi := entry
    declaration := declaration
    notice := description.notice
    details := description.details
    params := params
    returns := returns
    selector := if isFunction then selector else .null }

end EntryDoc

end AbiDoc
