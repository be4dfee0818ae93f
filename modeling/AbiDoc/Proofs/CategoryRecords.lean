import AbiDoc.Category
import AbiDoc.Proofs.Access
import AbiDoc.Proofs.OrderedMapping

/-!
# The records of a category

What a merged category holds.  Its keys are the signatures of the entries of the kind, each where
it first occurs in the interface, and under a signature stands the record of the last entry that
has it (`merge_holdsRecords`).  A record depends on its entry, on the fragments under its signature
and on its selector, and on no entry with another signature.
-/

namespace AbiDoc

open Outcome

/-- The entries of a kind among the items of an interface. -/
def entriesAmong (kind : Json) (items : List Json) : List Json :=
  items.filter fun item => item.field "type" = .ok kind

/-- An item answers whether it is of a kind when it has fields at all. -/
theorem kindTest_eq_ok_iff {item : Json} {kind : String} {answer : Bool} :
    (item.field "type").map (·.same (.str kind)) = .ok answer ↔
      (∃ type, item.field "type" = .ok type) ∧
        answer = decide (item.field "type" = .ok (.str kind)) := by
  cases item.field "type" with
  | error fault => simp [Except.map]
  | ok type =>
      have hsame : type.same (.str kind) = decide (type = .str kind) := by
        rw [Bool.eq_iff_iff, Json.same_str_iff, decide_eq_true_iff]
      simp only [Except.map, Except.ok.injEq, hsame, exists_eq', true_and]
      exact eq_comm

/-- The entries of a kind are found when every item is an object, and they are those whose `type`
is the kind. -/
theorem entriesOf_eq_ok_iff {kind : String} {abi : Json} {entries : List Json} :
    entriesOf (.str kind) abi = .ok entries ↔
      ∃ items, abi.elements = .ok items ∧
        (∀ item ∈ items, ∃ type, item.field "type" = .ok type) ∧
          entriesAmong (.str kind) items = entries := by
  have hkept : ∀ items : List Json, (∀ item ∈ items, ∃ type, item.field "type" = .ok type) →
      (items.filterM fun item => (item.field "type").map (·.same (.str kind))) =
        .ok (entriesAmong (.str kind) items) := by
    intro items hitems
    exact filterM_eq_ok fun item hitem => kindTest_eq_ok_iff.mpr ⟨hitems item hitem, rfl⟩
  rw [entriesOf, bind_eq_ok_iff]
  constructor
  · rintro ⟨items, helements, hentries⟩
    have hitems : ∀ item ∈ items, ∃ type, item.field "type" = .ok type := by
      intro item hitem
      obtain ⟨answer, hanswer⟩ := answers_of_filterM_eq_ok hentries item hitem
      exact (kindTest_eq_ok_iff.mp hanswer).1
    rw [hkept items hitems] at hentries
    exact ⟨items, helements, hitems, Except.ok.inj hentries⟩
  · rintro ⟨items, helements, hitems, rfl⟩
    exact ⟨items, helements, hkept items hitems⟩

namespace Category

theorem document_eq_ok_iff {kind devdoc userdoc identifiers entry : Json} {signature : String}
    {doc : EntryDoc} :
    document kind devdoc userdoc identifiers entry = .ok (signature, doc) ↔
      Entry.signature entry = .ok signature ∧ ∃ selector dev user,
        selectorOf kind identifiers signature = .ok selector ∧
          Fragment.find devdoc kind (.str signature) = .ok dev ∧
          Fragment.find userdoc kind (.str signature) = .ok user ∧
          EntryDoc.ofEntry entry dev user selector = .ok doc := by
  simp only [document, bind_eq_ok_iff, pure_eq_ok_iff, Prod.mk.injEq]
  constructor
  · rintro ⟨_, hsignature, selector, hselector, dev, hdev, user, huser, _, hdoc, rfl, rfl⟩
    exact ⟨hsignature, selector, dev, user, hselector, hdev, huser, hdoc⟩
  · rintro ⟨hsignature, selector, dev, user, hselector, hdev, huser, hdoc⟩
    exact ⟨_, hsignature, selector, hselector, dev, hdev, user, huser, _, hdoc, rfl, rfl⟩

theorem merge_eq_ok_iff {kind abi devdoc userdoc identifiers : Json}
    {merged : Assoc String EntryDoc} :
    merge kind abi devdoc userdoc identifiers = .ok merged ↔
      ∃ entries documented, entriesOf kind abi = .ok entries ∧
        List.Forall₂ (fun entry record =>
          document kind devdoc userdoc identifiers entry = .ok record) entries documented ∧
          Assoc.ofList documented = merged := by
  simp only [merge, bind_eq_ok_iff, mapM_eq_ok_iff, pure_eq_ok_iff]
  constructor
  · rintro ⟨entries, hentries, documented, hdocumented, rfl⟩
    exact ⟨entries, documented, hentries, hdocumented, rfl⟩
  · rintro ⟨entries, documented, hentries, hdocumented, rfl⟩
    exact ⟨entries, hentries, documented, hdocumented, rfl⟩

/-! ## What a record is made of -/

/-- The selector of an entry: that which a function has under its signature, and none for other
entries. -/
def IsSelector (kind identifiers : Json) (signature : String) (selector : Json) : Prop :=
  if kind = functionKind then identifiers.require signature = .ok selector else selector = .null

/-- The selector of a function has to be there, and to count as given. -/
theorem selectorOf_function_eq_ok_iff {identifiers selector : Json} {signature : String} :
    selectorOf functionKind identifiers signature = .ok selector ↔
      identifiers.require signature = .ok selector ∧ selector.truthy = true := by
  rw [selectorOf, if_pos rfl, bind_eq_ok_iff]
  constructor
  · rintro ⟨held, hheld, h⟩
    split at h
    · rename_i hgiven
      obtain rfl := pure_eq_ok_iff.mp h
      have hrequired := Json.require_of_field hheld hgiven
      unfold Json.orElse at hrequired
      split at hrequired
      · exact ⟨hrequired, hgiven⟩
      · exact absurd hrequired (by simp [Json.require])
    · cases h
  · rintro ⟨hrequired, hgiven⟩
    obtain ⟨members, rfl, -⟩ := Json.require_eq_ok_iff.mp hrequired
    rw [Json.orElse_empty]
    exact ⟨selector, Json.field_of_require hrequired, if_pos hgiven⟩

theorem isSelector_of_selectorOf {kind identifiers selector : Json} {signature : String}
    (h : selectorOf kind identifiers signature = .ok selector) :
    IsSelector kind identifiers signature selector := by
  unfold IsSelector
  split
  · rename_i hfunction
    rw [hfunction] at h
    exact (selectorOf_function_eq_ok_iff.mp h).1
  · rename_i hother
    rw [selectorOf, if_neg hother] at h
    exact (Except.ok.inj h).symm

/-- `doc` is the record of an entry under a signature: the entry with the fragments that the
documents have under the signature, and with its selector. -/
def IsRecord (kind devdoc userdoc identifiers : Json) (signature : String) (entry : Json)
    (doc : EntryDoc) : Prop :=
  ∃ selector dev user, IsSelector kind identifiers signature selector ∧
    Fragment.find devdoc kind (.str signature) = .ok dev ∧
    Fragment.find userdoc kind (.str signature) = .ok user ∧
    EntryDoc.ofEntry entry dev user selector = .ok doc

/-- An entry has one record at most. -/
theorem IsRecord.unique {kind devdoc userdoc identifiers entry : Json} {signature : String}
    {doc other : EntryDoc} (h : IsRecord kind devdoc userdoc identifiers signature entry doc)
    (hother : IsRecord kind devdoc userdoc identifiers signature entry other) : doc = other := by
  obtain ⟨selector, dev, user, hselector, hdev, huser, hdoc⟩ := h
  obtain ⟨selector', dev', user', hselector', hdev', huser', hdoc'⟩ := hother
  obtain rfl := Except.ok.inj (hdev.symm.trans hdev')
  obtain rfl := Except.ok.inj (huser.symm.trans huser')
  have hselectors : selector = selector' := by
    unfold IsSelector at hselector hselector'
    split at hselector
    · rename_i hfunction
      rw [if_pos hfunction] at hselector'
      exact Except.ok.inj (hselector.symm.trans hselector')
    · rename_i hfunction
      rw [if_neg hfunction] at hselector'
      exact hselector.trans hselector'.symm
  subst hselectors
  exact Except.ok.inj (hdoc.symm.trans hdoc')

/-- The last entry of a kind with a signature among the items of an interface. -/
def lastUnder (kind : Json) (signature : String) (items : List Json) : Option Json :=
  ((entriesAmong kind items).filter fun entry =>
    Entry.signature entry = .ok signature).getLast?

/-- Of two lists that are related item by item, both have a last item or neither has, and the last
ones are related. -/
theorem getLast?_of_forall₂ {α β : Type} {related : α → β → Prop} {items : List α}
    {values : List β} (h : List.Forall₂ related items values) :
    Option.Rel related items.getLast? values.getLast? := by
  have hreverse : List.Forall₂ related items.reverse values.reverse := List.rel_reverse h
  rw [List.getLast?_eq_head?_reverse, List.getLast?_eq_head?_reverse]
  generalize items.reverse = items at hreverse ⊢
  generalize values.reverse = values at hreverse ⊢
  cases hreverse with
  | nil => exact .none
  | cons hlast _ => exact .some hlast

/-- What stands under a signature is the record of the last entry that has it, and nothing where no
entry has it. -/
theorem find?_record {kind devdoc userdoc identifiers : Json} {signature : String}
    {items : List Json} {documented : List (String × EntryDoc)}
    (h : List.Forall₂ (fun entry record =>
      document kind devdoc userdoc identifiers entry = .ok record)
      (entriesAmong kind items) documented) :
    Option.Rel (IsRecord kind devdoc userdoc identifiers signature)
      (lastUnder kind signature items)
      (Assoc.find? signature (Assoc.ofList documented)) := by
  have hfiltered : List.Forall₂
      (fun entry record => document kind devdoc userdoc identifiers entry = .ok record)
      ((entriesAmong kind items).filter fun entry => Entry.signature entry = .ok signature)
      (documented.filter fun record => record.1 = signature) := by
    refine List.rel_filter ?_ h
    rintro entry ⟨found, doc⟩ hdocument
    obtain ⟨hfound, -⟩ := document_eq_ok_iff.mp hdocument
    simp [hfound]
  have hlast := getLast?_of_forall₂ hfiltered
  rw [Assoc.find?_ofList]
  change Option.Rel _ (lastUnder kind signature items) _ at hlast
  generalize lastUnder kind signature items = last at hlast ⊢
  cases hrecord : (documented.filter fun record => record.1 = signature).getLast? with
  | none =>
      rw [hrecord] at hlast
      cases hlast
      exact .none
  | some record =>
      obtain ⟨found, doc⟩ := record
      have hfound : found = signature := by
        have hmem := List.mem_of_getLast? hrecord
        simpa using (List.mem_filter.mp hmem).2
      rw [hrecord] at hlast
      cases hlast with
      | some hdocument =>
          obtain ⟨-, selector, dev, user, hselector, hdev, huser, hdoc⟩ :=
            document_eq_ok_iff.mp hdocument
          subst hfound
          exact .some ⟨selector, dev, user, isSelector_of_selectorOf hselector, hdev, huser, hdoc⟩

/-- A merged category is written from the entries of the kind, in their order. -/
theorem exists_documented_of_merge {kind : String} {abi devdoc userdoc identifiers : Json}
    {merged : Assoc String EntryDoc}
    (h : merge (.str kind) abi devdoc userdoc identifiers = .ok merged) :
    ∃ items documented, abi.elements = .ok items ∧
      List.Forall₂ (fun entry record =>
        document (.str kind) devdoc userdoc identifiers entry = .ok record)
        (entriesAmong (.str kind) items) documented ∧
        Assoc.ofList documented = merged := by
  obtain ⟨entries, documented, hentries, hdocumented, hmerged⟩ := merge_eq_ok_iff.mp h
  obtain ⟨items, hitems, -, rfl⟩ := entriesOf_eq_ok_iff.mp hentries
  exact ⟨items, documented, hitems, hdocumented, hmerged⟩

/-- An entry and what stands under its signature determine each other. -/
theorem eq_some_iff_of_isRecord {kind devdoc userdoc identifiers : Json} {signature : String}
    {entry : Option Json} {found : Option EntryDoc}
    (h : Option.Rel (IsRecord kind devdoc userdoc identifiers signature) entry found)
    (doc : EntryDoc) :
    found = some doc ↔ ∃ last, entry = some last ∧
      IsRecord kind devdoc userdoc identifiers signature last doc := by
  cases h with
  | none => simp
  | @some last held hheld =>
      constructor
      · intro hdoc
        obtain rfl := Option.some.inj hdoc
        exact ⟨last, rfl, hheld⟩
      · rintro ⟨last', hlast, hdoc⟩
        obtain rfl := Option.some.inj hlast
        rw [hheld.unique hdoc]

/-- `merged` holds the records of a category, where `signatures` are those of the entries of the
kind among the items, in order: each signature is a key once, in the place where it first occurs;
under a signature stands the record of the last entry that has it; and whatever other interface has
the same last entry under a signature has the same record there. -/
structure HoldsRecords (kind devdoc userdoc identifiers : Json) (items : List Json)
    (signatures : List String) (merged : Assoc String EntryDoc) : Prop where
  signatures_eq : List.Forall₂ (fun entry signature => Entry.signature entry = .ok signature)
    (entriesAmong kind items) signatures
  keys_eq : Assoc.keys merged = signatures.eraseDups
  nodup_keys : (Assoc.keys merged).Nodup
  find?_eq_some_iff : ∀ signature doc, Assoc.find? signature merged = some doc ↔
    ∃ entry, lastUnder kind signature items = some entry ∧
      IsRecord kind devdoc userdoc identifiers signature entry doc
  find?_eq_of_lastUnder_eq : ∀ other otherItems otherMerged signature,
    other.elements = .ok otherItems →
    merge kind other devdoc userdoc identifiers = .ok otherMerged →
    lastUnder kind signature otherItems = lastUnder kind signature items →
    Assoc.find? signature otherMerged = Assoc.find? signature merged

/-- Whatever a merge of functions, of events or of errors gives holds the records of the entries of
that kind. -/
theorem merge_holdsRecords {kind : Json}
    (hkind : kind = functionKind ∨ kind = eventKind ∨ kind = errorKind)
    {abi devdoc userdoc identifiers : Json} {merged : Assoc String EntryDoc}
    (h : merge kind abi devdoc userdoc identifiers = .ok merged) :
    ∃ items signatures, abi.elements = .ok items ∧
      HoldsRecords kind devdoc userdoc identifiers items signatures merged := by
  obtain ⟨text, rfl⟩ : ∃ text, kind = .str text := by
    rcases hkind with rfl | rfl | rfl
    · exact ⟨"function", rfl⟩
    · exact ⟨"event", rfl⟩
    · exact ⟨"error", rfl⟩
  obtain ⟨items, documented, hitems, hdocumented, rfl⟩ := exists_documented_of_merge h
  refine ⟨items, documented.map (·.1), hitems, ?_, Assoc.keys_ofList documented,
    Assoc.nodup_keys_ofList documented, ?_, ?_⟩
  · rw [List.forall₂_map_right_iff]
    exact hdocumented.imp fun _ _ hdocument => (document_eq_ok_iff.mp hdocument).1
  · intro signature doc
    exact eq_some_iff_of_isRecord (find?_record hdocumented) doc
  · intro other otherItems otherMerged signature hother hmerge hlast
    obtain ⟨found, otherDocumented, hfound, hdocumented', rfl⟩ :=
      exists_documented_of_merge hmerge
    obtain rfl := Except.ok.inj (hother.symm.trans hfound)
    apply Option.ext
    intro doc
    rw [eq_some_iff_of_isRecord (find?_record hdocumented) doc,
      eq_some_iff_of_isRecord (find?_record hdocumented') doc, hlast]

/-- A transfer to an account with a name, with or without an amount. -/
def transfer (payee : String) (amounts : List Json) : Json :=
  .obj [("type", .str "function"), ("name", .str "transfer"),
    ("inputs", .arr (.obj [("name", .str payee), ("type", .str "address")] :: amounts)),
    ("outputs", .arr []), ("stateMutability", .str "nonpayable")]

/-- An interface in which a transfer of an amount is declared twice, around one without. -/
def transfers : List Json :=
  let amount : Json := .obj [("name", .str "amount"), ("type", .str "uint256")]
  [transfer "to" [amount], .obj [("type", .str "constructor")], transfer "to" [],
    transfer "account" [amount]]

/-- Selectors of the transfers. -/
def transferSelectors : Json :=
  .obj [("transfer(address,uint256)", .str "a9059cbb"), ("transfer(address)", .str "1a695230")]

/-- The transfers are merged into two records, of which the first is that of the last transfer. -/
theorem merge_holdsRecords_transfers :
    ∃ merged, merge functionKind (.arr transfers) .null .null transferSelectors = .ok merged ∧
      Assoc.keys merged = ["transfer(address,uint256)", "transfer(address)"] ∧
      ((Assoc.find? "transfer(address,uint256)" merged).map (·.abi)) = transfers.getLast? ∧
      ∃ items signatures, (Json.arr transfers).elements = .ok items ∧
        HoldsRecords functionKind .null .null transferSelectors items signatures merged := by
  have hmerge : ∃ merged,
      merge functionKind (.arr transfers) .null .null transferSelectors = .ok merged ∧
        Assoc.keys merged = ["transfer(address,uint256)", "transfer(address)"] ∧
        ((Assoc.find? "transfer(address,uint256)" merged).map (·.abi)) = transfers.getLast? :=
    ⟨_, rfl, rfl, rfl⟩
  obtain ⟨merged, hmerged, hkeys, hlast⟩ := hmerge
  exact ⟨merged, hmerged, hkeys, hlast, merge_holdsRecords (Or.inl rfl) hmerged⟩

end Category

end AbiDoc
