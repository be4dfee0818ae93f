import AbiDoc.Proofs.CategoryRecords
import AbiDoc.Proofs.WellFormed

/-!
# Interfaces in two parts

What the merge of an interface has to do with the merges of its parts.  An interface of two parts is
merged like the first part and then the second: it fails as the first of them that fails, and
otherwise its records are those of the first part with those of the second written after them
(`merge_append_isInTurn`).  All items are sorted by kind before any is documented, so items of the
second part that are no objects would be noticed before the faults of the first; nothing is asked of
the items of the first part.
-/

namespace AbiDoc

open Outcome

/-- The entries of an interface of two parts are those of the first and then those of the second. -/
theorem entriesOf_append (kind : Json) (first second : List Json) :
    entriesOf kind (.arr (first ++ second)) = do
      let entries ← entriesOf kind (.arr first)
      let more ← entriesOf kind (.arr second)
      return entries ++ more :=
  filterM_append _ first second

/-- Among objects the entries of any kind can be told. -/
theorem exists_entriesOf {items : List Json} (h : ∀ item ∈ items, item.IsObject) (kind : Json) :
    ∃ entries, entriesOf kind (.arr items) = .ok entries := by
  apply exists_filterM
  intro item hitem
  obtain ⟨members, rfl⟩ := h item hitem
  exact ⟨_, rfl⟩

namespace Category

variable {kind devdoc userdoc identifiers : Json} {second : List Json}

/-- A merge is given by what documenting its entries in order gives. -/
theorem merge_of_entriesOf {abi : Json} {entries : List Json}
    (h : entriesOf kind abi = .ok entries) :
    merge kind abi devdoc userdoc identifiers =
      (entries.mapM (document kind devdoc userdoc identifiers)).map Assoc.ofList := by
  rw [merge, h, ok_bind, bind_pure_eq_map]

theorem merge_of_entriesOf_error {abi : Json} {fault : Fault}
    (h : entriesOf kind abi = .error fault) :
    merge kind abi devdoc userdoc identifiers = .error fault := by
  rw [merge, h, error_bind]

/-- An interface of two parts is merged part by part. -/
theorem merge_append (kind devdoc userdoc identifiers : Json) (first : List Json)
    (hsecond : ∀ item ∈ second, item.IsObject) :
    merge kind (.arr (first ++ second)) devdoc userdoc identifiers = do
      let earlier ← merge kind (.arr first) devdoc userdoc identifiers
      let later ← merge kind (.arr second) devdoc userdoc identifiers
      return Assoc.update earlier later := by
  obtain ⟨more, hmore⟩ := exists_entriesOf hsecond kind
  have hboth := entriesOf_append kind first second
  cases hentries : entriesOf kind (.arr first) with
  | error fault =>
      rw [hentries, error_bind] at hboth
      rw [merge_of_entriesOf_error hboth, merge_of_entriesOf_error hentries, error_bind]
  | ok entries =>
      rw [hentries, ok_bind, hmore, ok_bind] at hboth
      rw [merge_of_entriesOf hboth, merge_of_entriesOf hentries, merge_of_entriesOf hmore,
        List.mapM_append]
      cases entries.mapM (document kind devdoc userdoc identifiers) with
      | error fault => rfl
      | ok documented =>
          cases more.mapM (document kind devdoc userdoc identifiers) with
          | error fault => rfl
          | ok others => exact congrArg Except.ok (Assoc.ofList_append documented others)

theorem nodup_keys_of_merge {abi : Json} {merged : Assoc String EntryDoc}
    (h : merge kind abi devdoc userdoc identifiers = .ok merged) : (Assoc.keys merged).Nodup := by
  obtain ⟨entries, documented, -, -, rfl⟩ := merge_eq_ok_iff.mp h
  exact Assoc.nodup_keys_ofList documented

/-- `whole` is what two merges in turn come to: the fault of the first, or else that of the second,
or else the records of both.  The keys of the first keep their places and those that only the second
has follow in its order, and under a key stands the record of the second if it has one. -/
structure IsInTurn (first second whole : Outcome (Assoc String EntryDoc)) : Prop where
  first_fault : ∀ fault, first = .error fault → whole = .error fault
  second_fault : ∀ earlier fault, first = .ok earlier → second = .error fault →
    whole = .error fault
  records : ∀ earlier later, first = .ok earlier → second = .ok later →
    whole = .ok (Assoc.update earlier later)
  keys_eq : ∀ earlier later both, first = .ok earlier → second = .ok later → whole = .ok both →
    Assoc.keys both =
      Assoc.keys earlier ++ (Assoc.keys later).filter fun key => key ∉ Assoc.keys earlier
  find?_eq : ∀ earlier later both, first = .ok earlier → second = .ok later → whole = .ok both →
    ∀ signature, Assoc.find? signature both =
      (Assoc.find? signature later).or (Assoc.find? signature earlier)

/-- The merge of an interface in two parts comes to the merges of the parts in turn, whatever else
is wrong with its items. -/
theorem merge_append_isInTurn (kind devdoc userdoc identifiers : Json) (first : List Json)
    (hsecond : ∀ item ∈ second, item.IsObject) :
    IsInTurn (merge kind (.arr first) devdoc userdoc identifiers)
      (merge kind (.arr second) devdoc userdoc identifiers)
      (merge kind (.arr (first ++ second)) devdoc userdoc identifiers) := by
  have hwhole := merge_append kind devdoc userdoc identifiers first hsecond
  have hrecords : ∀ earlier later,
      merge kind (.arr first) devdoc userdoc identifiers = .ok earlier →
        merge kind (.arr second) devdoc userdoc identifiers = .ok later →
          merge kind (.arr (first ++ second)) devdoc userdoc identifiers =
            .ok (Assoc.update earlier later) := by
    intro earlier later hearlier hlater
    rw [hwhole, hearlier, hlater]
    rfl
  refine ⟨?_, ?_, hrecords, ?_, ?_⟩
  · intro fault hfault
    rw [hwhole, hfault, error_bind]
  · intro earlier fault hearlier hfault
    rw [hwhole, hearlier, ok_bind, hfault, error_bind]
  · intro earlier later both hearlier hlater hboth
    obtain rfl := Except.ok.inj ((hrecords earlier later hearlier hlater).symm.trans hboth)
    exact Assoc.keys_update earlier (nodup_keys_of_merge hlater)
  · intro earlier later both hearlier hlater hboth signature
    obtain rfl := Except.ok.inj ((hrecords earlier later hearlier hlater).symm.trans hboth)
    exact Assoc.find?_update signature earlier (nodup_keys_of_merge hlater)

/-- A transfer without an amount before three others, of which one has its signature and two share
another: its place is kept, and its record is that of the later one. -/
theorem merge_append_isInTurn_transfers :
    (∀ item ∈ transfers, item.IsObject) ∧ ∃ both,
      merge functionKind (.arr ([transfer "payee" []] ++ transfers)) .null .null
          transferSelectors = .ok both ∧
        Assoc.keys both = ["transfer(address)", "transfer(address,uint256)"] ∧
        ((Assoc.find? "transfer(address)" both).map (·.abi)) = some (transfer "to" []) ∧
        IsInTurn (merge functionKind (.arr [transfer "payee" []]) .null .null transferSelectors)
          (merge functionKind (.arr transfers) .null .null transferSelectors) (.ok both) := by
  have hobjects : ∀ item ∈ transfers, item.IsObject := by
    intro item hitem
    simp only [transfers, List.mem_cons, List.not_mem_nil, or_false] at hitem
    rcases hitem with rfl | rfl | rfl | rfl
    · exact ⟨_, rfl⟩
    · exact ⟨_, rfl⟩
    · exact ⟨_, rfl⟩
    · exact ⟨_, rfl⟩
  have hmerge : ∃ both,
      merge functionKind (.arr ([transfer "payee" []] ++ transfers)) .null .null
          transferSelectors = .ok both ∧
        Assoc.keys both = ["transfer(address)", "transfer(address,uint256)"] ∧
        ((Assoc.find? "transfer(address)" both).map (·.abi)) = some (transfer "to" []) :=
    ⟨_, rfl, rfl, rfl⟩
  obtain ⟨both, hboth, hkeys, hrecord⟩ := hmerge
  have hturn := merge_append_isInTurn functionKind .null .null transferSelectors
    [transfer "payee" []] hobjects
  rw [hboth] at hturn
  exact ⟨hobjects, both, hboth, hkeys, hrecord, hturn⟩

end Category
end AbiDoc
