import AbiDoc.Assoc
import Mathlib.Data.List.Induction

/-!
# Laws of ordered mappings

What a mapping holds that was written entry by entry.  Its keys are those of the entries, each
where it first arrived (`keys_ofList`), and under a key stands the value of the last entry with it
(`find?_ofList`).  Entries with distinct keys are written as they stand (`ofList_of_nodup`), and
sorting some of them out hides no other (`find?_filter`).  Writing entries in two parts is writing
the mapping of the second part after that of the first (`ofList_append`), where keys that are there
stay in their places (`keys_update`).
-/

namespace AbiDoc
namespace Assoc

variable {κ β : Type} [DecidableEq κ]

theorem ofList_concat (entries : List (κ × β)) (entry : κ × β) :
    ofList (entries ++ [entry]) = insert entry.1 entry.2 (ofList entries) := by
  rw [ofList, update, List.foldl_append]
  rfl

/-- The keys are those of the entries in the order in which they first arrive. -/
theorem keys_ofList (entries : List (κ × β)) :
    keys (ofList entries) = (entries.map (·.1)).eraseDups := by
  induction entries using List.reverseRecOn with
  | nil => rfl
  | append_singleton entries entry ih =>
      rw [ofList_concat, keys_insert, ih, List.map_append, List.eraseDups_append]
      by_cases hmem : entry.1 ∈ entries.map (·.1)
      · rw [if_pos (List.mem_eraseDups.mpr hmem)]
        simp [List.removeAll, hmem]
      · rw [if_neg (mt List.mem_eraseDups.mp hmem)]
        simp [List.removeAll, hmem, List.eraseDups_cons]

theorem mem_of_mem_insert {key : κ} {value : β} {entries : Assoc κ β} {entry : κ × β}
    (h : entry ∈ insert key value entries) : entry = (key, value) ∨ entry ∈ entries := by
  induction entries with
  | nil => exact Or.inl (List.mem_singleton.mp h)
  | cons head rest ih =>
      rw [insert] at h
      split at h
      · rename_i hkey
        rcases List.mem_cons.mp h with h | h
        · exact Or.inl (h.trans (by rw [hkey]))
        · exact Or.inr (by simp [h])
      · rcases List.mem_cons.mp h with h | h
        · exact Or.inr (by simp [h])
        · rcases ih h with h | h
          · exact Or.inl h
          · exact Or.inr (by simp [h])

/-- Nothing is in a mapping but the entries that were written. -/
theorem mem_of_mem_ofList {entries : List (κ × β)} {entry : κ × β} (h : entry ∈ ofList entries) :
    entry ∈ entries := by
  induction entries using List.reverseRecOn with
  | nil => exact h
  | append_singleton entries last ih =>
      rw [ofList_concat] at h
      rcases mem_of_mem_insert h with rfl | h
      · simp
      · simp [ih h]

theorem nodup_keys_ofList (entries : List (κ × β)) : (keys (ofList entries)).Nodup := by
  induction entries using List.reverseRecOn with
  | nil => exact List.nodup_nil
  | append_singleton entries entry ih =>
      rw [ofList_concat]
      exact nodup_keys_insert ih entry.1 entry.2

/-- The last entry with a key gives its value. -/
theorem find?_ofList (key : κ) (entries : List (κ × β)) :
    find? key (ofList entries) =
      ((entries.filter fun entry => entry.1 = key).getLast?).map (·.2) := by
  induction entries using List.reverseRecOn with
  | nil => rfl
  | append_singleton entries entry ih =>
      rw [ofList_concat, find?_insert, List.filter_append, List.getLast?_append, ih]
      by_cases hkey : entry.1 = key
      · simp [hkey]
      · simp [hkey, Ne.symm hkey]

/-- A mapping is written entry by entry as it stands when no key occurs twice. -/
theorem ofList_of_nodup {entries : Assoc κ β}
    (h : (keys entries).Nodup) : ofList entries = entries := by
  induction entries using List.reverseRecOn with
  | nil => rfl
  | append_singleton entries entry ih =>
      rw [keys, List.map_append, List.nodup_append] at h
      have hentries : ofList entries = entries := ih h.1
      have hnew : ∀ other ∈ entries, other.1 ≠ entry.1 := by
        intro other hother
        exact h.2.2 other.1 (List.mem_map_of_mem hother) entry.1 (by simp)
      rw [ofList_concat, hentries]
      clear ih h hentries
      induction entries with
      | nil => rfl
      | cons other rest ih =>
          have hrest := ih fun later hlater => hnew later (by simp [hlater])
          rw [insert, if_neg (hnew other (by simp)), hrest, List.cons_append]

theorem find?_eq_none {key : κ} {entries : Assoc κ β} (h : key ∉ keys entries) :
    find? key entries = none := by
  have hnone : ¬ (find? key entries).isSome := mt find?_isSome_iff.mp h
  simpa using hnone

/-- Where no key occurs twice, what is filed under a key is found unless it is sorted out. -/
theorem find?_filter {key : κ} {value : β} {entries : Assoc κ β} (test : κ × β → Bool)
    (hkeys : (keys entries).Nodup) (hmem : (key, value) ∈ entries) :
    find? key (entries.filter test) = if test (key, value) then some value else none := by
  induction entries with
  | nil => simp at hmem
  | cons entry rest ih =>
      obtain ⟨other, held⟩ := entry
      rw [keys, List.map_cons, List.nodup_cons] at hkeys
      obtain ⟨hother, hrest⟩ := hkeys
      rcases List.mem_cons.mp hmem with heq | hmem
      · obtain ⟨rfl, rfl⟩ := Prod.mk.inj heq
        have hlater : find? key (rest.filter test) = none := by
          apply find?_eq_none
          intro hkey
          exact hother ((List.filter_sublist.map _).subset hkey)
        by_cases htest : test (key, value) = true
        · simp [htest, find?]
        · simp [htest, hlater]
      · have hne : other ≠ key := by
          rintro rfl
          exact hother (List.mem_map.mpr ⟨_, hmem, rfl⟩)
        have hfound := ih hrest hmem
        by_cases htest : test (other, held) = true
        · simp [htest, find?, hne, hfound]
        · simp [htest, hfound]

/-- Where no key occurs twice, what is found under a key is what is filed under it. -/
theorem find?_eq_some_iff_mem {key : κ} {value : β} {entries : Assoc κ β}
    (hkeys : (keys entries).Nodup) :
    find? key entries = some value ↔ (key, value) ∈ entries := by
  constructor
  · exact mem_of_find?
  · intro hmem
    have hkept := find?_filter (fun _ => true) hkeys hmem
    rwa [List.filter_eq_self.mpr fun _ _ => rfl, if_pos rfl] at hkept

/-! ## Writing one mapping after another -/

/-- A write to a key takes the place of an earlier one. -/
theorem insert_insert (key : κ) (value old : β) (entries : Assoc κ β) :
    insert key value (insert key old entries) = insert key value entries := by
  induction entries with
  | nil => simp [insert]
  | cons entry rest ih =>
      obtain ⟨other, held⟩ := entry
      by_cases hkey : other = key
      · simp [insert, hkey]
      · simp [insert, hkey, ih]

/-- A write to a key that is there can be made before or after any other. -/
theorem insert_comm_of_mem {key other : κ} {entries : Assoc κ β} (hkey : key ∈ keys entries)
    (hne : key ≠ other) (value held : β) :
    insert key value (insert other held entries) =
      insert other held (insert key value entries) := by
  induction entries with
  | nil => simp [keys] at hkey
  | cons entry rest ih =>
      obtain ⟨head, old⟩ := entry
      by_cases hhead : head = key
      · subst hhead
        simp [insert, hne]
      · have hrest : key ∈ keys rest := by
          simpa [keys, Ne.symm hhead] using hkey
        by_cases hother : head = other
        · simp [insert, hother, hne.symm]
        · simp [insert, hhead, hother, ih hrest]

theorem mem_keys_insert {key other : κ} {value : β} {entries : Assoc κ β} :
    key ∈ keys (insert other value entries) ↔ key = other ∨ key ∈ keys entries := by
  rw [← find?_isSome_iff, ← find?_isSome_iff, find?_insert]
  split
  · rename_i hkey
    simp [hkey]
  · rename_i hkey
    simp [hkey]

theorem update_append (entries newer newest : Assoc κ β) :
    update entries (newer ++ newest) = update (update entries newer) newest :=
  List.foldl_append

/-- A key that is there may be written before or after entries with other keys. -/
theorem update_insert_of_mem {key : κ} (value : β) {entries newer : Assoc κ β}
    (hkey : key ∈ keys entries) (hnew : key ∉ keys newer) :
    update (insert key value entries) newer = insert key value (update entries newer) := by
  induction newer generalizing entries with
  | nil => rfl
  | cons entry rest ih =>
      rw [keys, List.map_cons, List.mem_cons, not_or] at hnew
      have hmem : key ∈ keys (insert entry.1 entry.2 entries) :=
        mem_keys_insert.mpr (Or.inr hkey)
      have hrest := ih hmem hnew.2
      rw [insert_comm_of_mem hkey hnew.1] at hrest
      exact hrest

/-- Writing a mapping that was written to is writing it and then writing once more. -/
theorem update_insert (key : κ) (value : β) (entries : Assoc κ β) {newer : Assoc κ β}
    (hnewer : (keys newer).Nodup) :
    update entries (insert key value newer) = insert key value (update entries newer) := by
  induction newer generalizing entries with
  | nil => rfl
  | cons entry rest ih =>
      obtain ⟨other, held⟩ := entry
      rw [keys, List.map_cons, List.nodup_cons] at hnewer
      by_cases hkey : other = key
      · subst hkey
        have hmem : other ∈ keys (insert other held entries) := mem_keys_insert.mpr (Or.inl rfl)
        have hrest := update_insert_of_mem value hmem hnewer.1
        rw [insert_insert] at hrest
        rw [insert, if_pos rfl]
        exact hrest
      · rw [insert, if_neg hkey]
        exact ih (insert other held entries) hnewer.2

/-- Writing the mapping that entries make is writing the entries. -/
theorem update_ofList (entries : Assoc κ β) (newer : List (κ × β)) :
    update entries (ofList newer) = update entries newer := by
  induction newer using List.reverseRecOn with
  | nil => rfl
  | append_singleton newer entry ih =>
      rw [ofList_concat, update_insert entry.1 entry.2 entries (nodup_keys_ofList newer), ih,
        update_append]
      rfl

/-- The mapping that two lists of entries make is that of the first with that of the second
written after it. -/
theorem ofList_append (first second : List (κ × β)) :
    ofList (first ++ second) = update (ofList first) (ofList second) := by
  rw [update_ofList, ofList, update_append]
  rfl

/-- Keys that are there stay where they are, and new ones follow in their order. -/
theorem keys_update (entries : Assoc κ β) {newer : Assoc κ β} (hnewer : (keys newer).Nodup) :
    keys (update entries newer) =
      keys entries ++ (keys newer).filter fun key => key ∉ keys entries := by
  induction newer using List.reverseRecOn with
  | nil => simp [update, keys]
  | append_singleton newer entry ih =>
      rw [keys, List.map_append, List.nodup_append] at hnewer
      have hnew : entry.1 ∉ keys newer := by
        intro hmem
        exact hnewer.2.2 entry.1 hmem entry.1 (by simp) rfl
      have hwritten : update entries (newer ++ [entry]) =
          insert entry.1 entry.2 (update entries newer) := update_append entries newer [entry]
      have hkeys : keys (newer ++ [entry]) = keys newer ++ [entry.1] := by simp [keys]
      rw [hwritten, keys_insert, ih hnewer.1, hkeys, List.filter_append]
      by_cases hkey : entry.1 ∈ keys entries
      · simp [hkey]
      · simp [hkey, hnew]

/-- What was written last stands under its key, and the rest stays. -/
theorem find?_update (key : κ) (entries : Assoc κ β) {newer : Assoc κ β}
    (hnewer : (keys newer).Nodup) :
    find? key (update entries newer) = (find? key newer).or (find? key entries) := by
  induction newer generalizing entries with
  | nil => rfl
  | cons entry rest ih =>
      obtain ⟨other, value⟩ := entry
      rw [keys, List.map_cons, List.nodup_cons] at hnewer
      have hrest := ih (insert other value entries) hnewer.2
      rw [find?_insert] at hrest
      refine hrest.trans ?_
      by_cases hkey : other = key
      · subst hkey
        rw [find?_eq_none hnewer.1]
        simp [find?]
      · simp [find?, hkey, Ne.symm hkey]

end Assoc
end AbiDoc
