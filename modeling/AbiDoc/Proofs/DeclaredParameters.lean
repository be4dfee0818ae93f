import AbiDoc.Proofs.DescribedInputs
import AbiDoc.Proofs.DocReading
import AbiDoc.Proofs.RecordParts

/-!
# Declared and described parameters

A record shows the inputs of its entry twice.  Its declaration has a parameter for every input, and
its documentation lists the inputs that are described.  The two are made apart from each other, and
each of them decides by itself whether an input is indexed.  They never disagree: what is listed of
an input is what the parameter at the position of that input says (`ofEntry_showsInputs`), and this
still holds of the object as which the record is written.
-/

namespace AbiDoc

open Outcome Json

namespace Declaration

/-! ## Parameters of a declaration -/

/-- The text of a parameter. -/
def parameterText (type : Json) (indexed : Bool) (name : Json) : String :=
  type.plain ++ (if indexed then " indexed" else "") ++ " " ++ name.plain

/-- The parameter at a position. -/
def parameterAt? (declaration : Declaration) (position : Nat) : Option Json :=
  match declaration.parameters with
  | .arr parameters => parameters[position]?
  | _ => none

/-- The parameter at a position shows an input: its type, whether it is an indexed input of an
event, and its name. -/
structure ShowsInput (declaration : Declaration) (position : Nat) (input type flag name : Json) :
    Prop where
  type_eq : input.require "type" = .ok type
  flag_eq : input.field "indexed" = .ok flag
  name_eq : input.require "name" = .ok name
  parameter_eq : declaration.parameterAt? position =
    some (.str (parameterText type (declaration.kind = eventKind && flag.truthy) name))

theorem eq_parameterText_of_parameterOf {kind input parameter : Json}
    (h : parameterOf kind input = .ok parameter) :
    ∃ type flag name, input.require "type" = .ok type ∧ input.field "indexed" = .ok flag ∧
      input.require "name" = .ok name ∧
        parameter = .str (parameterText type (kind = eventKind && flag.truthy) name) := by
  obtain ⟨indexed, hindexed, h⟩ := ite_bind_eq_ok_iff.mp h
  obtain ⟨type, htype, h⟩ := bind_eq_ok_iff.mp h
  obtain ⟨name, hname, h⟩ := bind_eq_ok_iff.mp h
  obtain rfl := pure_eq_ok_iff.mp h
  obtain ⟨flag, hflag⟩ := exists_field (field_of_require hname) "indexed"
  refine ⟨type, flag, name, htype, hflag, hname, ?_⟩
  rw [hflag] at hindexed
  by_cases hevent : kind = eventKind
  · rw [if_pos hevent] at hindexed
    obtain rfl := Except.ok.inj hindexed
    simp [parameterText, hevent]
  · rw [if_neg hevent] at hindexed
    obtain rfl := Except.ok.inj hindexed
    simp [parameterText, hevent]

variable {entry : Json} {declaration : Declaration} {inputs parameters : List Json}

theorem Describes.parameterAt?_eq (h : Describes entry declaration inputs parameters)
    (position : Nat) : declaration.parameterAt? position = parameters[position]? := by
  rw [parameterAt?, h.declaration_parameters]
  cases parameters with
  | nil => simp [listOrUnset]
  | cons parameter rest => simp [listOrUnset]

/-- Every input is shown at its own position. -/
theorem Describes.exists_showsInput (h : Describes entry declaration inputs parameters)
    {position : Nat} {input : Json} (hinput : inputs[position]? = some input) :
    ∃ type flag name, declaration.ShowsInput position input type flag name := by
  have hbound : position < parameters.length := by
    rw [← h.parameters_eq.length_eq]
    exact (List.getElem?_eq_some_iff.mp hinput).1
  have hparameter := List.getElem?_eq_getElem hbound
  obtain ⟨other, hother, hshown⟩ :=
    (getElem?_of_mapM (mapM_eq_ok_iff.mpr h.parameters_eq)).mp hparameter
  obtain rfl := Option.some.inj (hinput.symm.trans hother)
  obtain ⟨type, flag, name, htype, hflag, hname, htext⟩ := eq_parameterText_of_parameterOf hshown
  exact ⟨type, flag, name, htype, hflag, hname, by rw [h.parameterAt?_eq, hparameter, htext]⟩

end Declaration

/-! ## Documented inputs -/

/-- A documented input is written with the key `indexed` exactly where that is set. -/
theorem ParamDoc.holds_indexed (param : ParamDoc) :
    param.toJson.holds (.str "indexed") = .ok (decide (param.indexed ≠ .null)) := by
  have hmem : ("indexed", param.indexed) ∈ [("name", param.name), ("type", param.type),
      ("description", param.description), ("indexed", param.indexed)] := by
    simp
  rw [toJson, holds_obj, withoutNulls, Assoc.find?_filter _ (by simp [Assoc.keys]) hmem]
  by_cases hnull : param.indexed = .null
  · simp [hnull]
  · simp [hnull]

namespace EntryDoc

/-- What is listed of the input at a position is what the parameter there says: its name and type,
and the word `indexed` exactly where the flag is set to true.  The flag is that of the input of an
event, and for any other kind it is neither set nor written. -/
structure AgreesAt (doc : EntryDoc) (inputs : List Json) (position : Nat) (param : ParamDoc) :
    Prop where
  input_eq : ∃ input flag, inputs[position]? = some input ∧
    input.require "name" = .ok param.name ∧ input.require "type" = .ok param.type ∧
      input.field "indexed" = .ok flag ∧
        param.indexed = if doc.kind = eventKind then .bool flag.truthy else .null
  parameter_eq : doc.declaration.parameterAt? position =
    some (.str (Declaration.parameterText param.type (param.indexed = .bool true) param.name))
  holds_indexed : param.toJson.holds (.str "indexed") = .ok (decide (doc.kind = eventKind))

/-- The documented inputs of a record agree with its declaration, input by input in ascending order
of `positions`, and are written as they are listed. -/
structure ShowsParams (doc : EntryDoc) (inputs : List Json) (positions : List Nat)
    (params : List ParamDoc) : Prop where
  ascending : positions.Pairwise (· < ·)
  agrees : List.Forall₂ (doc.AgreesAt inputs) positions params
  written_eq : doc.toJson.field "params" = .ok (.arr (params.map ParamDoc.toJson))

/-- A record shows the inputs of an entry: its declaration has a parameter for each of them, and its
documented inputs, where they are set, agree with the parameters. -/
structure ShowsInputs (doc : EntryDoc) (entry : Json) (inputs : List Json) : Prop where
  kind_eq : entry.require "type" = .ok doc.kind
  inputs_eq : entry.fieldElements "inputs" = .ok inputs
  declared : ∀ (position : Nat) (input : Json), inputs[position]? = some input →
    ∃ type flag name, doc.declaration.ShowsInput position input type flag name
  described : ∀ params, doc.params = some params →
    ∃ positions, doc.ShowsParams inputs positions params

variable {doc : EntryDoc} {inputs : List Json}

/-- The declaration and the documentation look at one flag. -/
theorem agreesAt_of_isParamAt {descriptions : Json} {position : Nat} {param : ParamDoc}
    (hshown : ∀ (position : Nat) (input : Json), inputs[position]? = some input →
      ∃ type flag name, doc.declaration.ShowsInput position input type flag name)
    (hparam : ParamDoc.IsParamAt descriptions doc.kind inputs position param) :
    doc.AgreesAt inputs position param := by
  obtain ⟨input, hinput, hrecord⟩ := hparam
  obtain ⟨type, flag, name, hshows⟩ := hshown position input hinput
  obtain ⟨other, hflag, hindexed⟩ := hrecord.indexed_eq
  obtain rfl := Except.ok.inj (hshows.type_eq.symm.trans hrecord.type_eq)
  obtain rfl := Except.ok.inj (hshows.name_eq.symm.trans hrecord.name_eq)
  obtain rfl := Except.ok.inj (hshows.flag_eq.symm.trans hflag)
  have hkind : doc.declaration.kind = doc.kind := rfl
  refine ⟨⟨input, flag, hinput, hrecord.name_eq, hrecord.type_eq, hflag, hindexed⟩, ?_, ?_⟩
  · rw [hshows.parameter_eq, hindexed, hkind]
    by_cases hevent : doc.kind = eventKind
    · simp [hevent]
    · simp [hevent]
  · rw [param.holds_indexed, hindexed]
    by_cases hevent : doc.kind = eventKind
    · simp [hevent]
    · simp [hevent]

theorem field_params (doc : EntryDoc) :
    doc.toJson.field "params" = .ok (ofList? ParamDoc.toJson doc.params) := by
  rw [toJson_eq]
  exact field_withoutNulls (by simp [parts, Assoc.keys]) (by simp [parts])

/-- Whatever entry a record is made for, its documented inputs agree with the parameters that are
declared. -/
theorem ofEntry_showsInputs {entry dev user selector : Json}
    (h : ofEntry entry dev user selector = .ok doc) :
    ∃ inputs, doc.ShowsInputs entry inputs := by
  have hmade := isMadeOf_of_ofEntry h
  obtain ⟨inputs, parameters, hdescribes⟩ := Declaration.describes_of_ofEntry hmade.declaration_eq
  have hshown : ∀ (position : Nat) (input : Json), inputs[position]? = some input →
      ∃ type flag name, doc.declaration.ShowsInput position input type flag name :=
    fun _ _ hinput => hdescribes.exists_showsInput hinput
  refine ⟨inputs, hdescribes.kind_eq, hdescribes.inputs_eq, hshown, fun params hparams => ?_⟩
  obtain ⟨descriptions, -, hcollected⟩ :=
    ParamDoc.collect_eq_ok_iff.mp (hparams ▸ hmade.params_eq)
  split at hcollected
  · cases hcollected
  · obtain ⟨others, found, hothers, hfound, hlisted⟩ := hcollected
    -- Both walks go over the inputs of one entry.
    obtain rfl := Except.ok.inj (hdescribes.inputs_eq.symm.trans hothers)
    obtain rfl := Option.some.inj hlisted
    obtain ⟨positions, hpicked⟩ := ParamDoc.picksInputs_of_walk hdescribes.kind_eq hfound
    refine ⟨positions, hpicked.ascending, ?_, ?_⟩
    · exact hpicked.params_eq.imp fun _ _ => agreesAt_of_isParamAt hshown
    · rw [field_params, hparams]
      rfl

/-! ## An entry with marked inputs -/

/-- An entry with one input that nobody describes, one that is marked by a number, and one that is
not marked. -/
def moved (kind : Json) : Json := .obj [("type", kind), ("name", .str "Moved"), ("inputs", .arr [
  .obj [("name", .str "asset"), ("type", .str "bytes32"), ("indexed", .bool true)],
  .obj [("name", .str "owner"), ("type", .str "address"), ("indexed", .int 1)],
  .obj [("name", .str "amount"), ("type", .str "uint256")]])]

def movedDescriptions : Json :=
  .obj [("params", .obj [("amount", .str "How much"), ("owner", .str "Who")])]

/-- The marks of an event are set and shown, and those of an error are passed over. -/
theorem ofEntry_showsInputs_moved :
    (∃ doc params, ofEntry (moved eventKind) movedDescriptions .null .null = .ok doc ∧
        doc.params = some params ∧ params.map ParamDoc.indexed = [.bool true, .bool false] ∧
        ∃ inputs, doc.ShowsInputs (moved eventKind) inputs) ∧
      ∃ doc params, ofEntry (moved errorKind) movedDescriptions .null .null = .ok doc ∧
        doc.params = some params ∧ params.map ParamDoc.indexed = [.null, .null] ∧
        ∃ inputs, doc.ShowsInputs (moved errorKind) inputs := by
  have hevent : ∃ doc params, ofEntry (moved eventKind) movedDescriptions .null .null = .ok doc ∧
      doc.params = some params ∧ params.map ParamDoc.indexed = [.bool true, .bool false] :=
    ⟨_, _, rfl, rfl, rfl⟩
  have herror : ∃ doc params, ofEntry (moved errorKind) movedDescriptions .null .null = .ok doc ∧
      doc.params = some params ∧ params.map ParamDoc.indexed = [.null, .null] :=
    ⟨_, _, rfl, rfl, rfl⟩
  obtain ⟨event, listed, hevent, hlisted, hmarked⟩ := hevent
  obtain ⟨error, others, herror, hothers, hunmarked⟩ := herror
  exact ⟨⟨event, listed, hevent, hlisted, hmarked, ofEntry_showsInputs hevent⟩,
    error, others, herror, hothers, hunmarked, ofEntry_showsInputs herror⟩

end EntryDoc
end AbiDoc
