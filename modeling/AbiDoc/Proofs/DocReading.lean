import AbiDoc.ContractDoc
import AbiDoc.Proofs.Access
import AbiDoc.Proofs.OrderedMapping

/-!
# Reading documentation back

The object as which a documentation is written holds all that the documentation holds.  Each record
is read back from its object: a member that is absent was not set, and what stands in a member was
set as it stands there, nulls inside of it included.  So no two documentations are written as one
object (`ContractDoc.toJson_isLossless`).
-/

namespace AbiDoc

open Outcome

namespace Json

/-- A member that is written unless it is null is read back, be it null or not. -/
theorem field_withoutNulls {key : String} {value : Json} {members : Assoc String Json}
    (hkeys : (Assoc.keys members).Nodup) (hmem : (key, value) ∈ members) :
    (Json.obj (withoutNulls members)).field key = .ok value := by
  rw [field, withoutNulls, Assoc.find?_filter _ hkeys hmem]
  by_cases hnull : value = .null
  · simp [hnull]
  · simp [hnull]

/-- A list that may not be set, as a value. -/
def ofList? {α : Type} (write : α → Json) : Option (List α) → Json
  | none => .null
  | some items => .arr (items.map write)

theorem withoutNulls_append (members others : Assoc String Json) :
    withoutNulls (members ++ others) = withoutNulls members ++ withoutNulls others :=
  List.filter_append members others

/-- A list that is not set is left out, as a null is. -/
theorem withoutNulls_ofList? {α : Type} (key : String) (write : α → Json)
    (items : Option (List α)) :
    withoutNulls (items.map fun items => (key, .arr (items.map write))).toList =
      withoutNulls [(key, ofList? write items)] := by
  cases items with
  | none => rfl
  | some items => rfl

/-- A value as a list that may not be set. -/
def readList? {α : Type} (read : Json → Outcome α) : Json → Outcome (Option (List α))
  | .null => .ok none
  | .arr items => (items.mapM read).map some
  | _ => .error .wrongKind

theorem mapM_read_map {α β : Type} {write : α → β} {read : β → Outcome α}
    (h : ∀ item, read (write item) = .ok item) (items : List α) :
    (items.map write).mapM read = .ok items := by
  rw [mapM_eq_ok_iff, List.forall₂_map_left_iff]
  exact List.forall₂_same.mpr fun item _ => h item

theorem readList?_ofList? {α : Type} {write : α → Json} {read : Json → Outcome α}
    (h : ∀ item, read (write item) = .ok item) (items : Option (List α)) :
    readList? read (ofList? write items) = .ok items := by
  cases items with
  | none => rfl
  | some items =>
      rw [ofList?, readList?, mapM_read_map h]
      rfl

end Json

open Json

/-! ## Inputs, outputs and declarations -/

namespace ParamDoc

/-- The documented input that an object was written for. -/
def read (object : Json) : Outcome ParamDoc := do
  let name ← object.field "name"
  let type ← object.field "type"
  let description ← object.field "description"
  let indexed ← object.field "indexed"
  return ⟨name, type, description, indexed⟩

theorem read_toJson (param : ParamDoc) : read param.toJson = .ok param := by
  have hfield : ∀ key value, (key, value) ∈ [("name", param.name), ("type", param.type),
      ("description", param.description), ("indexed", param.indexed)] →
      param.toJson.field key = .ok value := by
    intro key value hmem
    exact field_withoutNulls (by simp [Assoc.keys]) hmem
  simp only [read, hfield "name" param.name (by simp), hfield "type" param.type (by simp),
    hfield "description" param.description (by simp), hfield "indexed" param.indexed (by simp),
    ok_bind]
  rfl

end ParamDoc

namespace ReturnDoc

/-- The documented output that an object was written for.  All its members are written. -/
def read (object : Json) : Outcome ReturnDoc := do
  let name ← object.require "name"
  let type ← object.require "type"
  let description ← object.require "description"
  return ⟨name, type, description⟩

theorem read_toJson (ret : ReturnDoc) : read ret.toJson = .ok ret := rfl

end ReturnDoc

namespace Declaration

/-- The declaration that an object was written for. -/
def read (object : Json) : Outcome Declaration := do
  let kind ← object.field "method_type"
  let name ← object.field "method_name"
  let parameters ← object.field "parameters"
  let modifiers ← object.field "modifiers"
  let returns ← object.field "returns"
  return ⟨kind, name, parameters, modifiers, returns⟩

theorem read_toJson (declaration : Declaration) : read declaration.toJson = .ok declaration := by
  have hfield : ∀ key value, (key, value) ∈ [("method_type", declaration.kind),
      ("method_name", declaration.name), ("parameters", declaration.parameters),
      ("modifiers", declaration.modifiers), ("returns", declaration.returns)] →
      declaration.toJson.field key = .ok value := by
    intro key value hmem
    exact field_withoutNulls (by simp [Assoc.keys]) hmem
  simp only [read, hfield "method_type" declaration.kind (by simp),
    hfield "method_name" declaration.name (by simp),
    hfield "parameters" declaration.parameters (by simp),
    hfield "modifiers" declaration.modifiers (by simp),
    hfield "returns" declaration.returns (by simp), ok_bind]
  rfl

end Declaration

/-! ## Entries -/

namespace EntryDoc

/-- The parts of a record by name; a list that is not set is null, like any other part. -/
def parts (doc : EntryDoc) : Assoc String Json := [
    ("name", doc.name), ("notice", doc.notice), ("details", doc.details),
    ("selector", doc.selector), ("abi", doc.abi), ("full_signature", doc.declaration.toJson),
    ("params", ofList? ParamDoc.toJson doc.params),
    ("returns", ofList? ReturnDoc.toJson doc.returns)]

theorem toJson_eq (doc : EntryDoc) : doc.toJson = .obj (withoutNulls doc.parts) := by
  have hparams := withoutNulls_ofList? "params" ParamDoc.toJson doc.params
  have hreturns := withoutNulls_ofList? "returns" ReturnDoc.toJson doc.returns
  rw [toJson, withoutNulls_append, withoutNulls_append, hparams, hreturns, ← withoutNulls_append,
    ← withoutNulls_append]
  rfl

/-- The record that an object was written for. -/
def read (object : Json) : Outcome EntryDoc := do
  let name ← object.field "name"
  let notice ← object.field "notice"
  let details ← object.field "details"
  let selector ← object.field "selector"
  let abi ← object.field "abi"
  let declaration ← Declaration.read (← object.field "full_signature")
  let params ← readList? ParamDoc.read (← object.field "params")
  let returns ← readList? ReturnDoc.read (← object.field "returns")
  return ⟨name, abi, declaration, notice, details, params, returns, selector⟩

theorem read_toJson (doc : EntryDoc) : read doc.toJson = .ok doc := by
  have hfield : ∀ key value, (key, value) ∈ doc.parts → doc.toJson.field key = .ok value := by
    intro key value hmem
    rw [toJson_eq]
    exact field_withoutNulls (by simp [parts, Assoc.keys]) hmem
  have hparams := readList?_ofList? ParamDoc.read_toJson doc.params
  have hreturns := readList?_ofList? ReturnDoc.read_toJson doc.returns
  simp only [read, hfield "name" doc.name (by simp [parts]),
    hfield "notice" doc.notice (by simp [parts]), hfield "details" doc.details (by simp [parts]),
    hfield "selector" doc.selector (by simp [parts]), hfield "abi" doc.abi (by simp [parts]),
    hfield "full_signature" doc.declaration.toJson (by simp [parts]),
    hfield "params" (ofList? ParamDoc.toJson doc.params) (by simp [parts]),
    hfield "returns" (ofList? ReturnDoc.toJson doc.returns) (by simp [parts]),
    Declaration.read_toJson, hparams, hreturns, ok_bind]
  rfl

end EntryDoc

/-! ## Whole documentations -/

namespace ContractDoc

/-- The parts of a documentation by name. -/
def parts (doc : ContractDoc) : Assoc String Json := [
    ("name", doc.name), ("notice", doc.notice), ("details", doc.details),
    ("author", doc.author), ("title", doc.title), ("functions", categoryJson doc.functions),
    ("events", categoryJson doc.events), ("errors", categoryJson doc.errors)]

theorem toJson_eq (doc : ContractDoc) : doc.toJson = .obj (withoutNulls doc.parts) := by
  -- A category is an object, so it is never left out.
  have hcategories : withoutNulls [("functions", categoryJson doc.functions),
      ("events", categoryJson doc.events), ("errors", categoryJson doc.errors)] =
      [("functions", categoryJson doc.functions), ("events", categoryJson doc.events),
        ("errors", categoryJson doc.errors)] := rfl
  rw [toJson, ← hcategories, ← withoutNulls_append]
  rfl

/-- The category that an object was written for. -/
def readCategory (object : Json) : Outcome (Assoc String EntryDoc) := do
  (← object.membersOf).mapM fun member => do
    return (member.1, ← EntryDoc.read member.2)

theorem readCategory_categoryJson (category : Assoc String EntryDoc) :
    readCategory (categoryJson category) = .ok category := by
  apply mapM_read_map
  intro entry
  show (EntryDoc.read entry.2.toJson >>= fun doc => pure (entry.1, doc)) = _
  rw [EntryDoc.read_toJson]
  rfl

/-- The documentation that an object was written for. -/
def read (object : Json) : Outcome ContractDoc := do
  let name ← object.field "name"
  let notice ← object.field "notice"
  let details ← object.field "details"
  let author ← object.field "author"
  let title ← object.field "title"
  let functions ← readCategory (← object.field "functions")
  let events ← readCategory (← object.field "events")
  let errors ← readCategory (← object.field "errors")
  return ⟨name, notice, details, author, title, functions, events, errors⟩

theorem read_toJson (doc : ContractDoc) : read doc.toJson = .ok doc := by
  have hfield : ∀ key value, (key, value) ∈ doc.parts → doc.toJson.field key = .ok value := by
    intro key value hmem
    rw [toJson_eq]
    exact field_withoutNulls (by simp [parts, Assoc.keys]) hmem
  simp only [read, hfield "name" doc.name (by simp [parts]),
    hfield "notice" doc.notice (by simp [parts]), hfield "details" doc.details (by simp [parts]),
    hfield "author" doc.author (by simp [parts]), hfield "title" doc.title (by simp [parts]),
    hfield "functions" (categoryJson doc.functions) (by simp [parts]),
    hfield "events" (categoryJson doc.events) (by simp [parts]),
    hfield "errors" (categoryJson doc.errors) (by simp [parts]), readCategory_categoryJson,
    ok_bind]
  rfl

end ContractDoc

theorem write_inj_of_read {α : Type} {write : α → Json} {read : Json → Outcome α}
    (h : ∀ item, read (write item) = .ok item) (item other : α) :
    write item = write other ↔ item = other := by
  constructor
  · intro hwritten
    have hread : read (write item) = read (write other) := congrArg read hwritten
    rw [h, h] at hread
    exact Except.ok.inj hread
  · intro hitem
    rw [hitem]

/-- A documentation and each record in it can be told from the object as which it is written. -/
theorem ContractDoc.toJson_isLossless :
    (∀ doc : ContractDoc, read doc.toJson = .ok doc) ∧
      (∀ doc other : ContractDoc, doc.toJson = other.toJson ↔ doc = other) ∧
      (∀ doc : EntryDoc, EntryDoc.read doc.toJson = .ok doc) ∧
      ∀ doc other : EntryDoc, doc.toJson = other.toJson ↔ doc = other :=
  ⟨read_toJson, write_inj_of_read read_toJson, EntryDoc.read_toJson,
    write_inj_of_read EntryDoc.read_toJson⟩

end AbiDoc
