import AbiDoc.Json.Access

/-!
# Compiled contracts

What a compiler says of one contract: its source, its name, its interface, its two documentation
documents and its metadata.  A contract is asked for by its name or by its source and name.
-/

namespace AbiDoc

/-- The documents of one compiled contract. -/
structure CompiledContract where
  source : Json
  name : Json
  abi : Json
  devdoc : Json
  userdoc : Json
  evm : Json
  deriving DecidableEq, Repr

namespace CompiledContract

/-- The source and the name of a contract. -/
def qualifiedName (contract : CompiledContract) : String :=
  contract.source.plain ++ ":" ++ contract.name.plain

/-- Whether a contract is meant by its name or its qualified name. -/
def answersTo (query : Json) (contract : CompiledContract) : Bool :=
  query.same contract.name || query.same (.str contract.qualifiedName)

/-- The contract that the compiler files under a source and a name; documents that are not given
count as empty. -/
def ofCompiled (source name : String) (compiled : Json) : Outcome CompiledContract := do
  let abi := (← compiled.field "abi").orElse (.arr [])
  let devdoc := (← compiled.field "devdoc").orElse (.obj [])
  let userdoc := (← compiled.field "userdoc").orElse (.obj [])
  let evm := (← compiled.field "evm").orElse (.obj [])
  return ⟨.str source, .str name, abi, devdoc, userdoc, evm⟩

/-- The contracts that the compiler files under one source, in order. -/
def ofSource (source : String) (contracts : Json) : Outcome (List CompiledContract) := do
  (← contracts.membersOf).mapM fun (name, compiled) => ofCompiled source name compiled

end CompiledContract

/-- The contracts of a compiler's output, source by source, in order. -/
def compiledContracts (output : Json) : Outcome (List CompiledContract) := do
  let sources ← output.membersOf
  let sources := (Assoc.find? "contracts" sources).getD (.obj [])
  let found ← (← sources.membersOf).mapM fun (source, contracts) =>
    CompiledContract.ofSource source contracts
  return found.flatten

/-- The one contract of a compiler's output that is meant by a name. -/
def findContract (output query : Json) : Outcome CompiledContract := do
  match (← compiledContracts output).filter (CompiledContract.answersTo query) with
  | [] => throw (.contractNotFound query)
  | [contract] => return contract
  | candidates => throw (.ambiguousContract query (candidates.map (·.qualifiedName)))

end AbiDoc
