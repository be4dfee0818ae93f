import AbiDoc.ContractDoc
import AbiDoc.Proofs.CategoryRecords
import AbiDoc.Proofs.Totality

/-!
# Which contracts are merged

A contract with well-formed documents is merged when all of its functions are accepted: each has a
selector under its signature and a known state mutability.  Otherwise the merge fails with the
fault of the first function that is refused, for its selector before its mutability; there is no
other way in which it fails (`ofContract_outcome`).
-/

namespace AbiDoc

open Outcome Json

/-! ## Functions that are accepted and refused -/

/-- A selector is filed under the signature, and it is not empty. -/
def HasSelector (identifiers : Json) (signature : String) : Prop :=
  ∃ selector, identifiers.require signature = .ok (.str selector) ∧ selector ≠ ""

namespace Entry

/-- A function with a selector and with a known mutability. -/
def Accepted (identifiers entry : Json) : Prop :=
  Gives (signature entry) (HasSelector identifiers) ∧
    Gives (entry.field "stateMutability") Declaration.IsMutability

/-- A function that is refused, and the fault: the selector is asked for first. -/
inductive Refused (identifiers entry : Json) : Fault → Prop
  | noSelector {signature : String} (hsignature : Entry.signature entry = .ok signature)
      (hselector : ¬ HasSelector identifiers signature) :
      Refused identifiers entry (.selectorNotFound signature)
  | unknownMutability {name mutability : Json}
      (hselector : Gives (signature entry) (HasSelector identifiers))
      (hname : entry.require "name" = .ok name)
      (hmutability : entry.field "stateMutability" = .ok mutability)
      (hunknown : ¬ Declaration.IsMutability mutability) :
      Refused identifiers entry (.unknownMutability mutability name)

theorem Accepted.not_refused {identifiers entry : Json} {fault : Fault}
    (h : Accepted identifiers entry) : ¬ Refused identifiers entry fault := by
  rintro (⟨hsignature, hselector⟩ | ⟨-, -, hmutability, hunknown⟩)
  · exact hselector (h.1.of_eq_ok hsignature)
  · exact hunknown (h.2.of_eq_ok hmutability)

theorem Refused.unique {identifiers entry : Json} {fault other : Fault}
    (h : Refused identifiers entry fault) (hother : Refused identifiers entry other) :
    fault = other := by
  cases h with
  | noSelector hsignature hselector =>
      cases hother with
      | noSelector hother _ =>
          rw [Except.ok.inj (hsignature.symm.trans hother)]
      | unknownMutability hgiven _ _ _ =>
          exact absurd (hgiven.of_eq_ok hsignature) hselector
  | unknownMutability hgiven hname hmutability _ =>
      cases hother with
      | noSelector hsignature hselector =>
          exact absurd (hgiven.of_eq_ok hsignature) hselector
      | unknownMutability _ hothername hothermutability _ =>
          rw [Except.ok.inj (hname.symm.trans hothername),
            Except.ok.inj (hmutability.symm.trans hothermutability)]

end Entry

/-! ## One category -/

namespace Category

/-- Selectors that are texts are found unless they are absent or empty. -/
theorem selectorOf_outcome {identifiers : Json} (h : identifiers.NullOr (IsObjectOf IsText))
    (signature : String) :
    (HasSelector identifiers signature ∧
        ∃ selector, selectorOf functionKind identifiers signature = .ok selector) ∨
      (¬ HasSelector identifiers signature ∧
        selectorOf functionKind identifiers signature = .error (.selectorNotFound signature)) := by
  rw [selectorOf, if_pos rfl]
  rcases h with rfl | ⟨members, rfl, hmembers⟩
  · refine Or.inr ⟨?_, rfl⟩
    rintro ⟨selector, hselector, -⟩
    cases hselector
  · rw [orElse_empty]
    cases hfound : Assoc.find? signature members with
    | none =>
        refine Or.inr ⟨?_, ?_⟩
        · rintro ⟨selector, hselector, -⟩
          simp [require, hfound] at hselector
        · rw [field, hfound]
          rfl
    | some value =>
        obtain ⟨selector, hselector⟩ := hmembers _ (Assoc.mem_of_find? hfound)
        have hrequire : (Json.obj members).require signature = .ok (.str selector) := by
          rw [require, hfound, ← hselector]
        rw [field_of_require hrequire, ok_bind]
        by_cases hempty : selector = ""
        · refine Or.inr ⟨?_, ?_⟩
          · rintro ⟨other, hother, hgiven⟩
            exact hgiven ((Json.str.inj (Except.ok.inj (hother.symm.trans hrequire))).trans hempty)
          · rw [hempty]
            rfl
        · refine Or.inl ⟨⟨selector, hrequire, hempty⟩, .str selector, ?_⟩
          rw [if_pos (by simpa [truthy] using hempty)]
          rfl

variable {devdoc userdoc : Json}

/-- Events and errors are documented in any case. -/
theorem gives_document {kind entry : Json} (hdev : IsDocument devdoc) (huser : IsDocument userdoc)
    (h : Entry.WellFormed entry) (hkind : entry.require "type" = .ok kind)
    (hother : kind = eventKind ∨ kind = errorKind) (identifiers : Json) :
    Gives (document kind devdoc userdoc identifiers entry) fun _ => True := by
  have hfunction : kind ≠ functionKind := by
    rcases hother with rfl | rfl
    · decide
    · decide
  refine h.gives_signature.bind fun signature _ => ?_
  rw [selectorOf, if_neg hfunction, ok_bind]
  refine (Fragment.gives_find hdev (Or.inr hother) signature).bind fun dev hdev => ?_
  refine (Fragment.gives_find huser (Or.inr hother) signature).bind fun user huser => ?_
  have hdoc := EntryDoc.gives_ofEntry h hkind (fun hkind => absurd hkind hfunction) hdev huser .null
  exact hdoc.bind fun doc _ => gives_ok trivial

/-- A function is accepted and documented, or refused. -/
theorem document_function {entry identifiers : Json} (hdev : IsDocument devdoc)
    (huser : IsDocument userdoc) (hidentifiers : identifiers.NullOr (IsObjectOf IsText))
    (h : Entry.WellFormedFunction entry) (hkind : entry.require "type" = .ok functionKind) :
    (Entry.Accepted identifiers entry ∧
        ∃ record, document functionKind devdoc userdoc identifiers entry = .ok record) ∨
      ∃ fault, Entry.Refused identifiers entry fault ∧
        document functionKind devdoc userdoc identifiers entry = .error fault := by
  obtain ⟨signature, hsignature, -⟩ := h.gives_signature
  rw [document, hsignature, ok_bind]
  rcases selectorOf_outcome hidentifiers signature with
    ⟨hgiven, selector, hselector⟩ | ⟨hnone, hselector⟩
  · obtain ⟨dev, hdev, hfragment⟩ := Fragment.gives_find hdev (Or.inl rfl) signature
    obtain ⟨user, huser, hother⟩ := Fragment.gives_find huser (Or.inl rfl) signature
    obtain ⟨mutability, hmutability, -⟩ := h.mutability
    rw [hselector, ok_bind, hdev, ok_bind, huser, ok_bind]
    by_cases hknown : Declaration.IsMutability mutability
    · have hgives := EntryDoc.gives_ofEntry h.toWellFormed hkind
        (fun _ => ⟨h, mutability, hmutability, hknown⟩) hfragment hother selector
      obtain ⟨doc, hdoc, -⟩ := hgives
      rw [hdoc]
      exact Or.inl ⟨⟨⟨signature, hsignature, hgiven⟩, mutability, hmutability, hknown⟩, _, rfl⟩
    · obtain ⟨name, hname, -⟩ := h.name
      rw [EntryDoc.ofEntry_eq_error h hkind hname hmutability hknown hfragment hother, error_bind]
      exact Or.inr ⟨_, .unknownMutability ⟨signature, hsignature, hgiven⟩ hname hmutability hknown,
        rfl⟩
  · rw [hselector, error_bind]
    exact Or.inr ⟨_, .noSelector hsignature hnone, rfl⟩

theorem entriesOf_interface {items : List Json} (h : ∀ item ∈ items, IsInterfaceItem item)
    {kind : Json} (hkind : kind.IsText) :
    entriesOf kind (.arr items) = .ok (entriesAmong kind items) := by
  obtain ⟨text, rfl⟩ := hkind
  refine entriesOf_eq_ok_iff.mpr ⟨items, rfl, fun item hitem => ?_, rfl⟩
  obtain ⟨type, htype, -⟩ := (h item hitem).kind
  exact ⟨type, field_of_require htype⟩

theorem of_mem_entriesAmong {items : List Json} (h : ∀ item ∈ items, IsInterfaceItem item)
    {kind entry : Json} (hentry : entry ∈ entriesAmong kind items) :
    IsInterfaceItem entry ∧ entry.require "type" = .ok kind := by
  obtain ⟨hitem, hfield⟩ := List.mem_filter.mp hentry
  obtain ⟨type, htype, -⟩ := (h entry hitem).kind
  have hkind : Except.ok type = Except.ok kind :=
    (field_of_require htype).symm.trans (of_decide_eq_true hfield)
  exact ⟨h entry hitem, htype.trans hkind⟩

variable {items : List Json}

/-- Events and errors are merged in any case. -/
theorem gives_merge (hitems : ∀ item ∈ items, IsInterfaceItem item) (hdev : IsDocument devdoc)
    (huser : IsDocument userdoc) {kind : Json} (hkind : kind = eventKind ∨ kind = errorKind)
    (identifiers : Json) :
    Gives (merge kind (.arr items) devdoc userdoc identifiers) fun _ => True := by
  have htext : kind.IsText := by
    rcases hkind with rfl | rfl
    · exact ⟨_, rfl⟩
    · exact ⟨_, rfl⟩
  have hdocument : ∀ entry ∈ entriesAmong kind items,
      Gives (document kind devdoc userdoc identifiers entry) fun _ => True := by
    intro entry hentry
    obtain ⟨hitem, htype⟩ := of_mem_entriesAmong hitems hentry
    have hformed : Entry.WellFormed entry := by
      rcases hkind with hevent | herror
      · exact hitem.event (hevent ▸ htype)
      · exact hitem.error (herror ▸ htype)
    exact gives_document hdev huser hformed htype hkind identifiers
  rw [merge, entriesOf_interface hitems htext, ok_bind]
  exact (gives_mapM hdocument).bind fun documented _ => gives_ok trivial

/-- Functions are merged when all are accepted, and otherwise the first refusal counts. -/
theorem merge_functions {identifiers : Json} (hitems : ∀ item ∈ items, IsInterfaceItem item)
    (hdev : IsDocument devdoc) (huser : IsDocument userdoc)
    (hidentifiers : identifiers.NullOr (IsObjectOf IsText)) :
    ((∀ entry ∈ entriesAmong functionKind items, Entry.Accepted identifiers entry) ∧
        ∃ merged, merge functionKind (.arr items) devdoc userdoc identifiers = .ok merged) ∨
      ∃ fault, FirstRefused (Entry.Accepted identifiers) (Entry.Refused identifiers)
          (entriesAmong functionKind items) fault ∧
        merge functionKind (.arr items) devdoc userdoc identifiers = .error fault := by
  have hfunctions : ∀ entry ∈ entriesAmong functionKind items,
      Entry.WellFormedFunction entry ∧ entry.require "type" = .ok functionKind := by
    intro entry hentry
    obtain ⟨hitem, htype⟩ := of_mem_entriesAmong hitems hentry
    exact ⟨hitem.function htype, htype⟩
  have hentries : entriesOf functionKind (.arr items) = .ok (entriesAmong functionKind items) :=
    entriesOf_interface hitems ⟨_, rfl⟩
  rw [merge, hentries, ok_bind]
  rcases mapM_accepted_or_refused fun entry hentry =>
      document_function hdev huser hidentifiers (hfunctions entry hentry).1
        (hfunctions entry hentry).2 with
    ⟨hall, documented, hdocumented⟩ | ⟨fault, hfirst, hfault⟩
  · rw [hdocumented, ok_bind]
    exact Or.inl ⟨hall, _, rfl⟩
  · rw [hfault, error_bind]
    exact Or.inr ⟨fault, hfirst, rfl⟩

end Category

/-! ## The whole contract -/

/-- The functions alone decide how a merge comes out: it gives something when all are accepted, and
fails with the first refusal otherwise. -/
structure IsDecidedBy (identifiers : Json) (functions : List Json)
    (outcome : Outcome ContractDoc) : Prop where
  merged_or_refused : (∃ doc, outcome = .ok doc) ∨
    (∃ signature, outcome = .error (.selectorNotFound signature)) ∨
    ∃ mutability name, outcome = .error (.unknownMutability mutability name)
  merged_iff : (∃ doc, outcome = .ok doc) ↔
    ∀ entry ∈ functions, Entry.Accepted identifiers entry
  failed_iff : ∀ fault, outcome = .error fault ↔
    FirstRefused (Entry.Accepted identifiers) (Entry.Refused identifiers) functions fault

theorem isDecidedBy_of_ok {identifiers : Json} {functions : List Json} {doc : ContractDoc}
    (hall : ∀ entry ∈ functions, Entry.Accepted identifiers entry) :
    IsDecidedBy identifiers functions (.ok doc) where
  merged_or_refused := Or.inl ⟨doc, rfl⟩
  merged_iff := ⟨fun _ => hall, fun _ => ⟨doc, rfl⟩⟩
  failed_iff fault := by
    constructor
    · intro hfault
      cases hfault
    · intro hfirst
      obtain ⟨entry, hentry, hrefused⟩ := hfirst.exists_refused
      exact absurd hrefused (hall entry hentry).not_refused

theorem isDecidedBy_of_error {identifiers : Json} {functions : List Json} {fault : Fault}
    (hfirst : FirstRefused (Entry.Accepted identifiers) (Entry.Refused identifiers) functions
      fault) :
    IsDecidedBy identifiers functions (.error fault) where
  merged_or_refused := by
    obtain ⟨entry, -, hrefused⟩ := hfirst.exists_refused
    cases hrefused with
    | noSelector => exact Or.inr (Or.inl ⟨_, rfl⟩)
    | unknownMutability => exact Or.inr (Or.inr ⟨_, _, rfl⟩)
  merged_iff := by
    obtain ⟨entry, hentry, hrefused⟩ := hfirst.exists_refused
    constructor
    · rintro ⟨doc, hdoc⟩
      cases hdoc
    · intro hall
      exact absurd hrefused (hall entry hentry).not_refused
  failed_iff other := by
    constructor
    · intro hfault
      rwa [← Except.error.inj hfault]
    · intro hother
      rw [hfirst.unique (fun _ _ => Entry.Accepted.not_refused) (fun _ _ _ => Entry.Refused.unique)
        hother]

/-- A merge that says its progress comes out as the merge itself. -/
theorem ContractDoc.outcome_mergeKind (kind abi devdoc userdoc identifiers : Json) :
    (mergeKind kind abi devdoc userdoc identifiers).outcome =
      Category.merge kind abi devdoc userdoc identifiers := by
  simp only [mergeKind, Logged.outcome_bind, Logged.outcome_quietly, Logged.outcome_say,
    Logged.outcome_pure, ok_bind]
  cases Category.merge kind abi devdoc userdoc identifiers with
  | error fault => rfl
  | ok merged => rfl

theorem IsDocument.empty : IsDocument (.obj []) where
  methods := gives_ok (Or.inl rfl)
  events := gives_ok (Or.inl rfl)
  errors := gives_ok (Or.inl rfl)

theorem IsDocument.isObject {document : Json} (h : IsDocument document) : document.IsObject := by
  obtain ⟨bucket, hbucket, -⟩ := h.methods
  exact isObject_of_field hbucket

/-- Whatever its documents leave out, a contract is merged or one of its functions is refused, and
the functions decide which. -/
theorem ofContract_outcome {contract : CompiledContract} (h : contract.WellFormed) :
    ∃ items identifiers, contract.abi = .arr items ∧
      (contract.evm.orElse (.obj [])).field "methodIdentifiers" = .ok identifiers ∧
      IsDecidedBy identifiers (entriesAmong functionKind items)
        (ContractDoc.ofContract contract).outcome := by
  obtain ⟨items, habi, hitems⟩ := h.abi
  have hdev : IsDocument (contract.devdoc.orElse (.obj [])) := h.devdoc.orElse_empty .empty
  have huser : IsDocument (contract.userdoc.orElse (.obj [])) := h.userdoc.orElse_empty .empty
  have hmetadata := h.evm.orElse_empty (gives_ok (Or.inl rfl))
  obtain ⟨identifiers, hfield, hidentifiers⟩ := hmetadata
  refine ⟨items, identifiers, habi, hfield, ?_⟩
  obtain ⟨description, hdescription, -⟩ :=
    Description.gives_gather contract.name (Or.inr hdev.isObject) (Or.inr huser.isObject)
  obtain ⟨author, hauthor, -⟩ := gives_given (Or.inr hdev.isObject) "author"
  obtain ⟨title, htitle, -⟩ := gives_given (Or.inr hdev.isObject) "title"
  obtain ⟨events, hevents, -⟩ :=
    Category.gives_merge hitems hdev huser (Or.inl rfl : eventKind = eventKind ∨ _) .null
  obtain ⟨errors, herrors, -⟩ :=
    Category.gives_merge hitems hdev huser (Or.inr rfl : _ ∨ errorKind = errorKind) .null
  -- Events come before functions and errors after them; neither can fail.
  simp only [ContractDoc.ofContract, Logged.outcome_bind, Logged.outcome_quietly,
    Logged.outcome_say, Logged.outcome_pure, ContractDoc.outcome_mergeKind, ok_bind, habi, hfield,
    hdescription, hauthor, htitle, hevents, herrors]
  rcases Category.merge_functions hitems hdev huser hidentifiers with
    ⟨hall, functions, hfunctions⟩ | ⟨fault, hfirst, hfault⟩
  · rw [hfunctions, ok_bind]
    exact isDecidedBy_of_ok hall
  · rw [hfault, error_bind]
    exact isDecidedBy_of_error hfirst

/-! ## A sparse contract -/

/-- A function with a mutability, and no more. -/
def pauseEntry : Json :=
  .obj [("type", .str "function"), ("name", .str "pause"), ("stateMutability", .str "nonpayable")]

/-- A function that takes a tuple, and has no mutability. -/
def lockEntry : Json :=
  .obj [("type", .str "function"), ("name", .str "lock"), ("inputs", .arr [
    .obj [("name", .str "span"), ("type", .str "tuple"), ("components", .arr [
      .obj [("type", .str "uint256")]])]])]

/-- An error of which the inputs are null. -/
def lockedEntry : Json :=
  .obj [("type", .str "error"), ("name", .str "Locked"), ("inputs", .null)]

/-- A contract of which most is left out, and some of the rest is null. -/
def vault : CompiledContract where
  source := .str "Vault.sol"
  name := .str "Vault"
  abi := .arr [pauseEntry, lockedEntry, lockEntry, .obj [("type", .str "receive")]]
  devdoc := .null
  userdoc := .obj [("methods", .obj [("pause()", .null)]),
    ("errors", .obj [("Locked()", .arr [.null])])]
  evm := .obj [("methodIdentifiers", .obj [
    ("pause()", .str "8456cb59"), ("lock((uint256))", .str "dd467064")])]

theorem pauseEntry_wellFormed : Entry.WellFormedFunction pauseEntry where
  name := ⟨_, rfl, _, rfl⟩
  inputs := ⟨_, rfl, Or.inl rfl⟩
  outputs := ⟨_, rfl, Or.inl rfl⟩
  mutability := ⟨_, rfl, Or.inr ⟨_, rfl⟩⟩

theorem lockEntry_wellFormed : Entry.WellFormedFunction lockEntry where
  name := ⟨_, rfl, _, rfl⟩
  inputs := by
    refine ⟨_, rfl, Or.inr ⟨_, rfl, fun input hinput => ?_⟩⟩
    obtain rfl := List.mem_singleton.mp hinput
    refine ⟨⟨_, rfl, _, rfl⟩, .tuple rfl rfl fun part hpart => ?_⟩
    obtain rfl := List.mem_singleton.mp hpart
    exact .leaf rfl rfl
  outputs := ⟨_, rfl, Or.inl rfl⟩
  mutability := ⟨_, rfl, Or.inl rfl⟩

theorem vault_wellFormed : vault.WellFormed where
  abi := by
    refine ⟨_, rfl, fun item hitem => ?_⟩
    simp only [List.mem_cons, List.not_mem_nil, or_false] at hitem
    rcases hitem with rfl | rfl | rfl | rfl
    · exact ⟨⟨_, rfl, _, rfl⟩, fun _ => pauseEntry_wellFormed, fun h => absurd h (by decide),
        fun h => absurd h (by decide)⟩
    · exact ⟨⟨_, rfl, _, rfl⟩, fun h => absurd h (by decide), fun h => absurd h (by decide),
        fun _ => ⟨⟨_, rfl, _, rfl⟩, _, rfl, Or.inl rfl⟩⟩
    · exact ⟨⟨_, rfl, _, rfl⟩, fun _ => lockEntry_wellFormed, fun h => absurd h (by decide),
        fun h => absurd h (by decide)⟩
    · exact ⟨⟨_, rfl, _, rfl⟩, fun h => absurd h (by decide), fun h => absurd h (by decide),
        fun h => absurd h (by decide)⟩
  devdoc := Or.inl rfl
  userdoc := by
    refine Or.inr ⟨⟨_, rfl, Or.inr ⟨_, rfl, ?_⟩⟩, ⟨_, rfl, Or.inl rfl⟩,
      ⟨_, rfl, Or.inr ⟨_, rfl, ?_⟩⟩⟩
    · intro member hmember
      obtain rfl := List.mem_singleton.mp hmember
      exact Or.inl rfl
    · intro member hmember
      obtain rfl := List.mem_singleton.mp hmember
      refine Or.inr ⟨_, rfl, fun fragment hfragment => ?_⟩
      obtain rfl := List.mem_singleton.mp hfragment
      exact Or.inl rfl
  evm := by
    refine Or.inr ⟨_, rfl, Or.inr ⟨_, rfl, fun member hmember => ?_⟩⟩
    simp only [List.mem_cons, List.not_mem_nil, or_false] at hmember
    rcases hmember with rfl | rfl
    · exact ⟨_, rfl⟩
    · exact ⟨_, rfl⟩

/-- The contract is refused for its second function, which has no mutability. -/
theorem ofContract_outcome_vault :
    vault.WellFormed ∧
      (ContractDoc.ofContract vault).outcome =
        .error (.unknownMutability .null (.str "lock")) ∧
      ∃ items identifiers, vault.abi = .arr items ∧
        (vault.evm.orElse (.obj [])).field "methodIdentifiers" = .ok identifiers ∧
        IsDecidedBy identifiers (entriesAmong functionKind items)
          (ContractDoc.ofContract vault).outcome :=
  ⟨vault_wellFormed, rfl, ofContract_outcome vault_wellFormed⟩

end AbiDoc
