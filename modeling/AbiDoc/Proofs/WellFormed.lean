import AbiDoc.CompiledContract
import AbiDoc.Declaration
import AbiDoc.Proofs.Access

/-!
# Well-formed documents

The documents that a compiler writes.  Almost every member may be absent or null, and what is given
has the expected form: texts for names and types, lists of objects for inputs, outputs and
components, objects for documents, buckets and fragments.  Nothing else is asked of them: keys may
be missing, stale or repeated, and an entry of any other kind needs no more than its kind.
-/

namespace AbiDoc

open Outcome

namespace Json

def IsText (value : Json) : Prop := ∃ text, value = .str text

theorem exists_texts {parts : List Json} (h : ∀ part ∈ parts, part.IsText) :
    ∃ texts : List String, parts = texts.map .str := by
  induction parts with
  | nil => exact ⟨[], rfl⟩
  | cons part rest ih =>
      obtain ⟨text, rfl⟩ := h part (by simp)
      obtain ⟨texts, rfl⟩ := ih fun other hother => h other (by simp [hother])
      exact ⟨text :: texts, rfl⟩

/-- A list of which every item has the property. -/
def IsListOf (property : Json → Prop) (value : Json) : Prop :=
  ∃ items, value = .arr items ∧ ∀ item ∈ items, property item

/-- An object of which every member has the property. -/
def IsObjectOf (property : Json → Prop) (value : Json) : Prop :=
  ∃ members, value = .obj members ∧ ∀ member ∈ members, property member.2

def IsObject (value : Json) : Prop := ∃ members, value = .obj members

def NullOr (property : Json → Prop) (value : Json) : Prop := value = .null ∨ property value

/-- What is not given counts as empty, and has the property if what is empty has it. -/
theorem NullOr.orElse_empty {property : Json → Prop} {value : Json} (h : NullOr property value)
    (hempty : property (.obj [])) : property (value.orElse (.obj [])) := by
  unfold orElse
  split
  · rename_i hgiven
    rcases h with rfl | h
    · simp [truthy] at hgiven
    · exact h
  · exact hempty

/-- The value is an object in which the member is there and has the property. -/
def Demands (key : String) (property : Json → Prop) (value : Json) : Prop :=
  Gives (value.require key) property

/-- The value is an object in which the member is absent, null, or has the property. -/
def Allows (key : String) (property : Json → Prop) (value : Json) : Prop :=
  Gives (value.field key) (NullOr property)

theorem isObject_of_field {key : String} {object value : Json}
    (h : object.field key = .ok value) : object.IsObject := by
  cases object with
  | obj members => exact ⟨members, rfl⟩
  | _ => simp [field] at h

/-- A list that is allowed can be walked over; where it is not given there is nothing to walk over.
-/
theorem Allows.gives_fieldElements {key : String} {property : Json → Prop} {object : Json}
    (h : object.Allows key (IsListOf property)) :
    Gives (object.fieldElements key) fun items => ∀ item ∈ items, property item := by
  refine h.bind fun value hvalue => ?_
  rcases hvalue with rfl | ⟨items, rfl, hitems⟩
  · exact gives_ok (by simp)
  · cases items with
    | nil => exact gives_ok (by simp)
    | cons item rest => exact gives_ok hitems

/-- What a document or a fragment says of a key can be asked for, be it null or an object. -/
theorem gives_given {object : Json} (h : NullOr IsObject object) (key : String) :
    Gives (object.given key) fun _ => True := by
  rcases h with rfl | ⟨members, rfl⟩
  · exact gives_ok trivial
  · unfold given
    split
    · exact gives_ok trivial
    · exact gives_ok trivial

end Json

open Json

/-- A component with a type, and with none or a list of such components. -/
inductive Component.WellTyped : Json → Prop
  | leaf {component : Json} {type : String}
      (htype : component.require "type" = .ok (.str type))
      (hnone : component.field "components" = .ok .null) : WellTyped component
  | tuple {component : Json} {type : String} {parts : List Json}
      (htype : component.require "type" = .ok (.str type))
      (hcomponents : component.field "components" = .ok (.arr parts))
      (hparts : ∀ part ∈ parts, WellTyped part) : WellTyped component

theorem Component.WellTyped.demands_type {component : Json} (h : WellTyped component) :
    component.Demands "type" IsText := by
  cases h with
  | leaf htype _ =>
      exact ⟨_, htype, _, rfl⟩
  | tuple htype _ _ =>
      exact ⟨_, htype, _, rfl⟩

namespace Entry

/-- A function, an event or an error with a name and with none or a list of inputs, which have names
and types. -/
structure WellFormed (entry : Json) : Prop where
  name : entry.Demands "name" IsText
  inputs : entry.Allows "inputs" (IsListOf fun input =>
    input.Demands "name" IsText ∧ Component.WellTyped input)

/-- What a function has besides: none or a list of outputs, which have types and may have names, and
none or some state mutability. -/
structure WellFormedFunction (entry : Json) : Prop extends WellFormed entry where
  outputs : entry.Allows "outputs" (IsListOf fun output =>
    output.Demands "type" IsText ∧ output.Allows "name" IsText)
  mutability : entry.Allows "stateMutability" IsText

end Entry

/-- An item of an interface: it has a kind, and is as a function, an event or an error has to be if
it is one. -/
structure IsInterfaceItem (item : Json) : Prop where
  kind : item.Demands "type" IsText
  function : item.require "type" = .ok functionKind → Entry.WellFormedFunction item
  event : item.require "type" = .ok eventKind → Entry.WellFormed item
  error : item.require "type" = .ok errorKind → Entry.WellFormed item

/-- What a document says of one entry: nothing, or an object in which inputs and outputs may be
described. -/
def IsFragment : Json → Prop :=
  NullOr fun fragment => fragment.Allows "params" IsObject ∧ fragment.Allows "returns" IsObject

/-- A document with fragments of functions and events, and with lists of fragments of errors. -/
structure IsDocument (document : Json) : Prop where
  methods : document.Allows "methods" (IsObjectOf IsFragment)
  events : document.Allows "events" (IsObjectOf IsFragment)
  errors : document.Allows "errors" (IsObjectOf (NullOr (IsListOf IsFragment)))

/-- The documents of a contract are as a compiler writes them. -/
structure CompiledContract.WellFormed (contract : CompiledContract) : Prop where
  abi : contract.abi.IsListOf IsInterfaceItem
  devdoc : contract.devdoc.NullOr IsDocument
  userdoc : contract.userdoc.NullOr IsDocument
  evm : contract.evm.NullOr fun metadata =>
    metadata.Allows "methodIdentifiers" (IsObjectOf IsText)

end AbiDoc
