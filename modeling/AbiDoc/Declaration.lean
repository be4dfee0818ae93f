import AbiDoc.Json.Access

/-!
# Declarations

The one-line form in which a reader knows a function, an event or an error: its kind and name, its
parameters, and for a function its modifiers and the types that it returns.
-/

namespace AbiDoc

/-- The `type` of a function entry. -/
def functionKind : Json := .str "function"

/-- The `type` of an event entry. -/
def eventKind : Json := .str "event"

/-- The `type` of an error entry. -/
def errorKind : Json := .str "error"

/-- The modifiers that each state mutability is written with. -/
def mutabilityModifiers : Assoc String (List String) := [
    ("payable", ["external", "payable"]), ("nonpayable", ["external"]),
    ("view", ["external", "view"]), ("pure", ["external", "pure"])]

/-- The modifiers of a function; `name` is the function's name in the report of a failure. -/
def modifiersOf (mutability name : Json) : Outcome (List String) := do
  match (← mutability.asKey).bind fun key => Assoc.find? key mutabilityModifiers with
  | some modifiers => return modifiers
  | none => throw (.unknownMutability mutability name)

/-- The parts of a declaration; null stands for a part that is not set. -/
structure Declaration where
  kind : Json
  name : Json
  parameters : Json
  modifiers : Json
  returns : Json
  deriving DecidableEq, Repr

namespace Declaration

/-- A list of texts, or null when it is empty. -/
def listOrUnset (items : List Json) : Json := if items.isEmpty then .null else .arr items

/-- The declaration on one line. -/
def render (declaration : Declaration) : Outcome String := do
  let parameters ← (declaration.parameters.orElse (.arr [])).joined ", "
  let modifiers ←
    if declaration.modifiers.truthy then (declaration.modifiers.joined " ").map (" " ++ ·)
    else .ok ""
  let returns ←
    if declaration.returns.truthy then
      (declaration.returns.joined ", ").map fun text => " (" ++ text ++ ")"
    else .ok ""
  return declaration.kind.plain ++ " " ++ declaration.name.plain ++ "(" ++ parameters ++ ")" ++
    modifiers ++ returns

/-- The parts that are set, by name. -/
def toJson (declaration : Declaration) : Json :=
  .obj (Json.withoutNulls [
    ("method_type", declaration.kind), ("method_name", declaration.name),
    ("parameters", declaration.parameters), ("modifiers", declaration.modifiers),
    ("returns", declaration.returns)])

/-- An input as a parameter: its type, the word `indexed` for an indexed input of an event, and its
name. -/
def parameterOf (kind input : Json) : Outcome Json := do
  let indexed ← if kind = eventKind then (input.field "indexed").map Json.truthy else .ok false
  let type ← input.require "type"
  let name ← input.require "name"
  return .str (type.plain ++ (if indexed then " indexed" else "") ++ " " ++ name.plain)

/-- An output as a returned type, with its name if it has one. -/
def returnOf (output : Json) : Outcome Json := do
  let name ← output.field "name"
  let type ← output.require "type"
  return if name.truthy then .str (type.plain ++ " " ++ name.plain) else type

/-- The declaration of an entry.  Modifiers and returned types belong to functions; a function that
returns something has `returns` as its last modifier. -/
def ofEntry (entry : Json) : Outcome Declaration := do
  let kind ← entry.require "type"
  let name ← entry.require "name"
  let parameters ← (← entry.fieldElements "inputs").mapM (parameterOf kind)
  let declaration : Declaration := ⟨kind, name, listOrUnset parameters, .null, .null⟩
  let declaration ←
    if kind = functionKind then do
      let modifiers ← modifiersOf (← entry.field "stateMutability") name
      let returns ← (← entry.fieldElements "outputs").mapM returnOf
      let modifiers := if returns.isEmpty then modifiers else modifiers ++ ["returns"]
      pure { declaration with
        modifiers := .arr (modifiers.map .str)
        returns := listOrUnset returns }
    else pure declaration
  let _ ← declaration.render
  return declaration

end Declaration

end AbiDoc
