import AbiDoc.ContractDoc
import AbiDoc.Proofs.CategoryRecords
import AbiDoc.Proofs.WellFormed

/-!
# The steps on well-formed documents

What the steps of a merge give on well-formed documents, however sparse those are: every step gives
a value, whichever members are absent, null or empty.  The one exception is the declaration of a
function whose state mutability is none of the known ones (`Declaration.ofEntry_eq_error`).
Main statements: an entry has a signature (`Entry.WellFormed.gives_signature`), a document has a
fragment for it, be it null (`Fragment.gives_find`), and the two fragments make a record of it
(`EntryDoc.gives_ofEntry`).
-/

namespace AbiDoc

open Outcome Json

/-! ## Texts -/

theorem Json.gives_joinTexts {parts : List Json} (separator : String)
    (h : ∀ part ∈ parts, part.IsText) : Gives (joinTexts separator parts) fun _ => True := by
  obtain ⟨texts, rfl⟩ := exists_texts h
  rw [joinTexts_map_str]
  exact gives_ok trivial

theorem Json.gives_joined {value : Json} (separator : String) (h : value.IsListOf IsText) :
    Gives (value.joined separator) fun _ => True := by
  obtain ⟨items, rfl, hitems⟩ := h
  exact gives_joinTexts separator hitems

/-- A list of texts that is given can be put together. -/
theorem Json.NullOr.gives_joined {value : Json} (h : value.NullOr (IsListOf IsText))
    (hgiven : value.truthy = true) (separator : String) :
    Gives (value.joined separator) fun _ => True := by
  rcases h with rfl | h
  · simp [truthy] at hgiven
  · exact Json.gives_joined separator h

/-! ## Signatures -/

theorem Component.WellTyped.gives_canonicalType {component : Json} (h : WellTyped component) :
    Gives (canonicalType component) IsText := by
  induction h with
  | @leaf component type htype hnone =>
      rw [canonicalType_eq, hnone, ok_bind, if_pos rfl, htype]
      exact gives_ok ⟨type, rfl⟩
  | @tuple component type parts htype hcomponents _ ih =>
      have hgiven : Json.arr parts ≠ .null := by simp
      rw [canonicalType_eq, hcomponents, ok_bind, if_neg hgiven, htype, ok_bind, elements, ok_bind]
      refine (gives_mapM ih).bind fun types htypes => ?_
      refine Gives.bind (gives_joinTexts "," htypes) fun inner _ => ?_
      exact gives_ok ⟨_, rfl⟩

theorem Entry.WellFormed.gives_signature {entry : Json} (h : WellFormed entry) :
    Gives (signature entry) fun _ => True := by
  obtain ⟨inputs, hinputs, hcomponents⟩ := h.inputs.gives_fieldElements
  obtain ⟨held, hheld, hinputs⟩ := bind_eq_ok_iff.mp hinputs
  have htyped : ∀ input ∈ inputs, Gives (Component.canonicalType input) IsText := by
    intro input hinput
    exact (hcomponents input hinput).2.gives_canonicalType
  rw [signature, hheld, ok_bind]
  refine h.name.bind fun name _ => ?_
  rw [hinputs, ok_bind, Component.canonicalTypes_eq_mapM]
  refine (gives_mapM htyped).bind fun types htypes => ?_
  refine Gives.bind (gives_joinTexts "," htypes) fun joined _ => ?_
  exact gives_ok trivial

/-! ## Declarations -/

namespace Declaration

theorem gives_parameterOf {kind input : Json} (hname : input.Demands "name" IsText)
    (htype : input.Demands "type" IsText) : Gives (parameterOf kind input) IsText := by
  refine gives_ite_bind ?_ ?_ fun indexed (_ : True) => ?_
  · intro _
    obtain ⟨name, hname, -⟩ := hname
    obtain ⟨indexed, hindexed⟩ := exists_field (field_of_require hname) "indexed"
    rw [hindexed]
    exact gives_ok trivial
  · intro _
    exact gives_ok trivial
  · refine htype.bind fun type _ => hname.bind fun name _ => ?_
    exact gives_ok ⟨_, rfl⟩

theorem gives_returnOf {output : Json} (htype : output.Demands "type" IsText)
    (hname : output.Allows "name" IsText) : Gives (returnOf output) IsText := by
  refine hname.bind fun name _ => htype.bind fun type htype => ?_
  refine gives_ok ?_
  split
  · exact ⟨_, rfl⟩
  · exact htype

/-- The parts of the declaration that are lists are lists of texts. -/
structure IsPrintable (declaration : Declaration) : Prop where
  parameters : declaration.parameters.NullOr (IsListOf IsText)
  modifiers : declaration.modifiers.NullOr (IsListOf IsText)
  returns : declaration.returns.NullOr (IsListOf IsText)

theorem listOrUnset_isPrintable {items : List Json} (h : ∀ item ∈ items, item.IsText) :
    (listOrUnset items).NullOr (IsListOf IsText) := by
  unfold listOrUnset
  split
  · exact Or.inl rfl
  · exact Or.inr ⟨items, rfl, h⟩

theorem IsPrintable.gives_render {declaration : Declaration} (h : declaration.IsPrintable) :
    Gives declaration.render fun _ => True := by
  have hparameters : Gives ((declaration.parameters.orElse (.arr [])).joined ", ")
      fun _ => True := by
    unfold orElse
    split
    · rename_i hgiven
      exact h.parameters.gives_joined hgiven ", "
    · exact gives_ok trivial
  unfold render
  refine hparameters.bind fun parameters _ => ?_
  refine gives_ite_bind ?_ ?_ fun modifiers (_ : True) => ?_
  · intro hgiven
    exact (h.modifiers.gives_joined hgiven " ").map fun _ _ => trivial
  · intro _
    exact gives_ok trivial
  · refine gives_ite_bind ?_ ?_ fun returns (_ : True) => ?_
    · intro hgiven
      exact (h.returns.gives_joined hgiven ", ").map fun _ _ => trivial
    · intro _
      exact gives_ok trivial
    · exact gives_ok trivial

/-- The mutabilities that a function can be declared with. -/
def IsMutability (mutability : Json) : Prop :=
  mutability ∈ [Json.str "payable", .str "nonpayable", .str "view", .str "pure"]

theorem gives_modifiersOf {mutability : Json} (h : IsMutability mutability) (name : Json) :
    Gives (modifiersOf mutability name) fun _ => True := by
  simp only [IsMutability, List.mem_cons, List.not_mem_nil, or_false] at h
  rcases h with rfl | rfl | rfl | rfl
  all_goals exact ⟨_, rfl, trivial⟩

theorem modifiersOf_eq_error {mutability : Json} (h : mutability.NullOr IsText)
    (hunknown : ¬ IsMutability mutability) (name : Json) :
    modifiersOf mutability name = .error (.unknownMutability mutability name) := by
  rcases h with rfl | ⟨text, rfl⟩
  · rfl
  · simp only [IsMutability, List.mem_cons, List.not_mem_nil, or_false, Json.str.injEq,
      not_or] at hunknown
    have hnone : Assoc.find? text mutabilityModifiers = none := by
      simp only [mutabilityModifiers, Assoc.find?, if_neg (Ne.symm hunknown.1),
        if_neg (Ne.symm hunknown.2.1), if_neg (Ne.symm hunknown.2.2.1),
        if_neg (Ne.symm hunknown.2.2.2)]
    rw [modifiersOf, asKey, ok_bind, Option.bind_some, hnone]
    rfl

theorem gives_parameters {entry : Json} (h : Entry.WellFormed entry) (kind : Json) :
    Gives (entry.fieldElements "inputs") fun inputs =>
      Gives (inputs.mapM (parameterOf kind)) fun parameters =>
        ∀ parameter ∈ parameters, parameter.IsText := by
  apply h.inputs.gives_fieldElements.imp
  intro inputs hinputs
  apply gives_mapM
  intro input hinput
  obtain ⟨hname, htyped⟩ := hinputs input hinput
  exact gives_parameterOf hname htyped.demands_type

theorem gives_returns {entry : Json} (h : Entry.WellFormedFunction entry) :
    Gives (entry.fieldElements "outputs") fun outputs =>
      Gives (outputs.mapM returnOf) fun returns => ∀ output ∈ returns, output.IsText := by
  apply h.outputs.gives_fieldElements.imp
  intro outputs houtputs
  apply gives_mapM
  intro output houtput
  obtain ⟨htype, hname⟩ := houtputs output houtput
  exact gives_returnOf htype hname

/-- A well-formed entry has a declaration; a function has to have a mutability for that. -/
theorem gives_ofEntry {entry kind : Json} (h : Entry.WellFormed entry)
    (hkind : entry.require "type" = .ok kind)
    (hfunction : kind = functionKind →
      Entry.WellFormedFunction entry ∧ Gives (entry.field "stateMutability") IsMutability) :
    Gives (ofEntry entry) fun _ => True := by
  rw [ofEntry, hkind, ok_bind]
  refine h.name.bind fun name _ => ?_
  refine (gives_parameters h kind).bind fun inputs hparameters => ?_
  refine hparameters.bind fun parameters hparameters => ?_
  dsimp only
  split
  · rename_i hkind
    obtain ⟨hentry, hmutability⟩ := hfunction hkind
    refine hmutability.bind fun mutability hmutability => ?_
    refine (gives_modifiersOf hmutability name).bind fun modifiers _ => ?_
    refine (gives_returns hentry).bind fun outputs hreturns => ?_
    refine hreturns.bind fun returns hreturns => ?_
    have hmodifiers : ∀ texts : List String, (Json.arr (texts.map .str)).IsListOf IsText := by
      intro texts
      refine ⟨_, rfl, fun modifier hmodifier => ?_⟩
      obtain ⟨text, -, rfl⟩ := List.mem_map.mp hmodifier
      exact ⟨text, rfl⟩
    refine Gives.bind (gives_ok ?_) fun declaration (hprintable : IsPrintable declaration) =>
      hprintable.gives_render.bind fun _ _ => gives_ok trivial
    exact ⟨listOrUnset_isPrintable hparameters, Or.inr (hmodifiers _),
      listOrUnset_isPrintable hreturns⟩
  · refine Gives.bind (gives_ok ?_) fun declaration (hprintable : IsPrintable declaration) =>
      hprintable.gives_render.bind fun _ _ => gives_ok trivial
    exact ⟨listOrUnset_isPrintable hparameters, Or.inl rfl, Or.inl rfl⟩

/-- A function of unknown mutability has no declaration. -/
theorem ofEntry_eq_error {entry name mutability : Json} (h : Entry.WellFormedFunction entry)
    (hkind : entry.require "type" = .ok functionKind) (hname : entry.require "name" = .ok name)
    (hmutability : entry.field "stateMutability" = .ok mutability)
    (hunknown : ¬ IsMutability mutability) :
    ofEntry entry = .error (.unknownMutability mutability name) := by
  obtain ⟨inputs, hinputs, parameters, hparameters, -⟩ :=
    gives_parameters h.toWellFormed functionKind
  have htext : mutability.NullOr IsText := h.mutability.of_eq_ok hmutability
  rw [ofEntry, hkind, ok_bind, hname, ok_bind, hinputs, ok_bind, hparameters, ok_bind]
  dsimp only
  rw [if_pos rfl, hmutability, ok_bind, modifiersOf_eq_error htext hunknown, error_bind]

end Declaration

/-! ## Records -/

theorem IsFragment.nullOr_isObject {fragment : Json} (h : IsFragment fragment) :
    fragment.NullOr IsObject := by
  rcases h with rfl | ⟨hparams, -⟩
  · exact Or.inl rfl
  · obtain ⟨_, hparams, -⟩ := hparams
    exact Or.inr (isObject_of_field hparams)

theorem Description.gives_gather (name : Json) {dev user : Json} (hdev : dev.NullOr IsObject)
    (huser : user.NullOr IsObject) : Gives (gather name dev user) fun _ => True := by
  refine (gives_given huser "notice").bind fun notice _ => ?_
  exact (gives_given hdev "details").bind fun details _ => gives_ok trivial

theorem ParamDoc.gives_ofInput? {descriptions entry input : Json} (h : descriptions.IsObject)
    (hkind : entry.Demands "type" fun _ => True) (hname : input.Demands "name" IsText)
    (htype : input.Demands "type" IsText) :
    Gives (ofInput? descriptions entry input) fun _ => True := by
  obtain ⟨members, rfl⟩ := h
  obtain ⟨_, hname, name, rfl⟩ := hname
  obtain ⟨type, htype, -⟩ := htype
  obtain ⟨kind, hkind, -⟩ := hkind
  obtain ⟨indexed, hindexed⟩ := exists_field (field_of_require hname) "indexed"
  rw [ofInput?, membersOf, ok_bind, hname, ok_bind]
  refine Gives.bind (gives_ok trivial) fun description (_ : True) => ?_
  split
  · rw [htype, ok_bind, hkind, ok_bind, hindexed]
    exact gives_ite_bind (fun _ => gives_ok trivial) (fun _ => gives_ok trivial)
      fun _ (_ : True) => gives_ok trivial
  · exact gives_ok trivial

theorem ParamDoc.gives_collect {dev entry : Json} (hdev : IsFragment dev)
    (h : Entry.WellFormed entry) (hkind : entry.Demands "type" fun _ => True) :
    Gives (collect dev entry) fun _ => True := by
  rcases hdev with rfl | ⟨hparams, -⟩
  · exact gives_ok trivial
  · refine gives_ite_bind (fun _ => hparams) (fun _ => gives_ok (Or.inl rfl))
      fun descriptions hdescriptions => ?_
    rcases hdescriptions with rfl | hdescriptions
    · exact gives_ok trivial
    · dsimp only
      split
      · exact gives_ok trivial
      · refine h.inputs.gives_fieldElements.bind fun inputs hinputs => ?_
        have hfound : ∀ input ∈ inputs,
            Gives (ofInput? descriptions entry input) fun _ => True := by
          intro input hinput
          obtain ⟨hname, htyped⟩ := hinputs input hinput
          exact gives_ofInput? hdescriptions hkind hname htyped.demands_type
        exact (gives_mapM hfound).bind fun found _ => gives_ok trivial

/-- An output can be asked for its description, by its name or by its position. -/
theorem ReturnDoc.gives_ofOutput? {descriptions output : Json} (h : descriptions.IsObject)
    (htype : output.Demands "type" IsText) (hname : output.Allows "name" IsText)
    (position : Nat) : Gives (ofOutput? descriptions output position) fun _ => True := by
  obtain ⟨members, rfl⟩ := h
  refine hname.bind fun given hgiven => ?_
  have hkey : (given.orElse (positionKey position)).IsText := by
    unfold orElse
    split
    · rename_i htruthy
      rcases hgiven with rfl | hgiven
      · simp [truthy] at htruthy
      · exact hgiven
    · exact ⟨_, rfl⟩
  obtain ⟨key, hkey⟩ := hkey
  rw [hkey]
  refine Gives.bind (gives_ok trivial) fun description (_ : True) => ?_
  split
  · exact htype.bind fun type _ => gives_ok trivial
  · exact gives_ok trivial

theorem ReturnDoc.gives_collect {dev entry : Json} (hdev : IsFragment dev)
    (h : Entry.WellFormedFunction entry) : Gives (collect dev entry) fun _ => True := by
  rcases hdev with rfl | ⟨-, hreturns⟩
  · exact gives_ok trivial
  · refine gives_ite_bind (fun _ => hreturns) (fun _ => gives_ok (Or.inl rfl))
      fun descriptions hdescriptions => ?_
    rcases hdescriptions with rfl | hdescriptions
    · exact gives_ok trivial
    · dsimp only
      split
      · exact gives_ok trivial
      · refine h.outputs.gives_fieldElements.bind fun outputs houtputs => ?_
        have hfound : ∀ placed ∈ outputs.zipIdx,
            Gives (ofOutput? descriptions placed.1 placed.2) fun _ => True := by
          intro placed hplaced
          obtain ⟨htype, hname⟩ := houtputs placed.1 (List.fst_mem_of_mem_zipIdx hplaced)
          exact gives_ofOutput? hdescriptions htype hname placed.2
        exact (gives_mapM hfound).bind fun found _ => gives_ok trivial

/-- A well-formed entry and two fragments make a record; a function has to have a mutability for
that. -/
theorem EntryDoc.gives_ofEntry {entry kind dev user : Json} (h : Entry.WellFormed entry)
    (hkind : entry.require "type" = .ok kind)
    (hfunction : kind = functionKind →
      Entry.WellFormedFunction entry ∧
        Gives (entry.field "stateMutability") Declaration.IsMutability)
    (hdev : IsFragment dev) (huser : IsFragment user) (selector : Json) :
    Gives (ofEntry entry dev user selector) fun _ => True := by
  refine h.name.bind fun name _ => ?_
  refine (Description.gives_gather name hdev.nullOr_isObject huser.nullOr_isObject).bind
    fun description _ => ?_
  refine (Declaration.gives_ofEntry h hkind hfunction).bind fun declaration _ => ?_
  refine (ParamDoc.gives_collect hdev h ⟨kind, hkind, trivial⟩).bind fun params _ => ?_
  rw [hkind, ok_bind]
  refine gives_ite_bind ?_ ?_ fun returns (_ : True) => gives_ok trivial
  · intro hkind
    exact ReturnDoc.gives_collect hdev (hfunction hkind).1
  · intro _
    exact gives_ok trivial

/-- A function of unknown mutability has no record. -/
theorem EntryDoc.ofEntry_eq_error {entry name mutability dev user : Json}
    (h : Entry.WellFormedFunction entry) (hkind : entry.require "type" = .ok functionKind)
    (hname : entry.require "name" = .ok name)
    (hmutability : entry.field "stateMutability" = .ok mutability)
    (hunknown : ¬ Declaration.IsMutability mutability) (hdev : IsFragment dev)
    (huser : IsFragment user) (selector : Json) :
    ofEntry entry dev user selector = .error (.unknownMutability mutability name) := by
  obtain ⟨description, hdescription, -⟩ :=
    Description.gives_gather name hdev.nullOr_isObject huser.nullOr_isObject
  rw [ofEntry, hname, ok_bind, hdescription, ok_bind,
    Declaration.ofEntry_eq_error h hkind hname hmutability hunknown, error_bind]

/-! ## Fragments -/

namespace Fragment

/-- An entry is looked for in one bucket after the other; what each of them holds has to be there
to select a fragment from. -/
theorem gives_findIn {document kind : Json} {held : Json → Prop} (names : List String)
    (hdocument : ∀ name ∈ names, document.Allows name (IsObjectOf held))
    (hselect : ∀ value, held value → Gives (select kind value) IsFragment) (signature : String) :
    Gives (findIn document kind (.str signature) names) IsFragment := by
  induction names with
  | nil => exact gives_ok (Or.inl rfl)
  | cons name rest ih =>
      have hrest : Gives (findIn document kind (.str signature) rest) IsFragment := by
        apply ih
        intro other hother
        exact hdocument other (by simp [hother])
      refine (hdocument name (by simp)).bind fun bucket hbucket => ?_
      -- An empty bucket is passed over like one that is not there.
      split
      · exact hrest
      · rename_i hgiven
        rcases hbucket with rfl | ⟨members, rfl, hmembers⟩
        · simp [truthy] at hgiven
        · cases hfound : Assoc.find? signature members with
          | none =>
              rw [holds_obj, hfound]
              exact hrest
          | some value =>
              rw [holds_obj, hfound, ok_bind, if_neg (by simp), atKey_obj hfound]
              exact hselect value (hmembers _ (Assoc.mem_of_find? hfound))

theorem gives_select_error {value : Json} (h : value.NullOr (IsListOf IsFragment)) :
    Gives (select errorKind value) IsFragment := by
  rcases h with rfl | ⟨fragments, rfl, hfragments⟩
  · exact gives_ok (Or.inl rfl)
  · cases fragments with
    | nil => exact gives_ok (Or.inl rfl)
    | cons fragment rest => exact gives_ok (hfragments fragment (by simp))

theorem gives_select_other {kind value : Json} (hkind : kind ≠ errorKind)
    (h : IsFragment value) : Gives (select kind value) IsFragment := by
  rw [select, if_neg hkind]
  exact gives_ok h

/-- A document has a fragment for every signature, be it null. -/
theorem gives_find {document kind : Json} (h : IsDocument document)
    (hkind : kind = functionKind ∨ kind = eventKind ∨ kind = errorKind) (signature : String) :
    Gives (find document kind (.str signature)) IsFragment := by
  unfold find
  split
  · rcases hkind with rfl | rfl | rfl
    · refine gives_findIn ["methods"] ?_ (fun _ => gives_select_other (by decide)) signature
      simpa using h.methods
    · refine gives_findIn ["events", "methods"] ?_ (fun _ => gives_select_other (by decide))
        signature
      simpa using And.intro h.events h.methods
    · refine gives_findIn ["errors"] ?_ (fun _ => gives_select_error) signature
      simpa using h.errors
  · exact gives_ok (Or.inl rfl)

end Fragment

end AbiDoc
