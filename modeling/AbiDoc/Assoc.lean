/-!
# Ordered association lists

A mapping whose entries keep the position at which their key first arrived.  Writing to a key that
is present replaces the value where it stands; a new key goes to the end.  Main statements: looking
up after a write (`find?_insert`), the order of the keys after a write (`keys_insert`), and that
writing keeps the keys distinct (`nodup_keys_insert`).
-/

namespace AbiDoc

/-- Entries of a mapping, in the order in which their keys arrived. -/
abbrev Assoc (κ β : Type) := List (κ × β)

namespace Assoc

variable {κ β γ : Type}

/-- The keys, in order. -/
def keys (entries : Assoc κ β) : List κ := entries.map (·.1)

/-- Changes every value and leaves the keys as they are. -/
def mapValues (f : β → γ) (entries : Assoc κ β) : Assoc κ γ :=
  entries.map fun entry => (entry.1, f entry.2)

variable [DecidableEq κ]

/-- The value of the first entry with the key. -/
def find? (key : κ) : Assoc κ β → Option β
  | [] => none
  | (other, value) :: rest => if other = key then some value else find? key rest

/-- Replaces the value of a key that is present, where it stands; appends a new key. -/
def insert (key : κ) (value : β) : Assoc κ β → Assoc κ β
  | [] => [(key, value)]
  | (other, old) :: rest =>
    if other = key then (other, value) :: rest else (other, old) :: insert key value rest

/-- Removes the first entry with the key. -/
def erase (key : κ) : Assoc κ β → Assoc κ β
  | [] => []
  | (other, value) :: rest => if other = key then rest else (other, value) :: erase key rest

/-- Writes the entries of `newer` one after the other. -/
def update (entries newer : Assoc κ β) : Assoc κ β :=
  newer.foldl (fun acc entry => insert entry.1 entry.2 acc) entries

/-- The mapping written by a list of entries: of entries with one key the first gives the position
and the last gives the value. -/
def ofList (entries : List (κ × β)) : Assoc κ β := update [] entries

@[simp] theorem find?_nil (key : κ) : find? key ([] : Assoc κ β) = none := rfl

@[simp] theorem find?_insert_self (key : κ) (value : β) (entries : Assoc κ β) :
    find? key (insert key value entries) = some value := by
  induction entries with
  | nil => simp [insert, find?]
  | cons entry rest ih =>
    obtain ⟨other, old⟩ := entry
    by_cases h : other = key <;> simp [insert, find?, h, ih]

theorem find?_insert_of_ne {key other : κ} (hne : other ≠ key) (value : β)
    (entries : Assoc κ β) :
    find? other (insert key value entries) = find? other entries := by
  induction entries with
  | nil => simp [insert, find?, hne.symm]
  | cons entry rest ih =>
    obtain ⟨head, old⟩ := entry
    by_cases h : head = key
    · subst h
      simp [insert, find?, hne.symm]
    · simp only [insert, if_neg h, find?, ih]

/-- A write shows at its own key and nowhere else. -/
theorem find?_insert (key other : κ) (value : β) (entries : Assoc κ β) :
    find? other (insert key value entries) =
      if other = key then some value else find? other entries := by
  by_cases h : other = key
  · subst h
    simp
  · simp [h, find?_insert_of_ne h]

/-- A key is found exactly when it is among the keys. -/
theorem find?_isSome_iff {key : κ} {entries : Assoc κ β} :
    (find? key entries).isSome ↔ key ∈ keys entries := by
  induction entries with
  | nil => simp [find?, keys]
  | cons entry rest ih =>
    obtain ⟨other, value⟩ := entry
    by_cases h : other = key
    · simp [find?, keys, h]
    · simpa [find?, keys, h, Ne.symm h] using ih

/-- What is found under a key is filed under it. -/
theorem mem_of_find? {key : κ} {value : β} {entries : Assoc κ β}
    (h : find? key entries = some value) : (key, value) ∈ entries := by
  induction entries with
  | nil => simp at h
  | cons entry rest ih =>
    obtain ⟨other, held⟩ := entry
    by_cases hkey : other = key
    · simp only [find?, if_pos hkey, Option.some.injEq] at h
      simp [hkey, h]
    · simp only [find?, if_neg hkey] at h
      exact List.mem_cons_of_mem _ (ih h)

/-- A write adds its key at the end unless the key is there already. -/
theorem keys_insert (key : κ) (value : β) (entries : Assoc κ β) :
    keys (insert key value entries) =
      if key ∈ keys entries then keys entries else keys entries ++ [key] := by
  induction entries with
  | nil => simp [insert, keys]
  | cons entry rest ih =>
    obtain ⟨other, old⟩ := entry
    by_cases h : other = key
    · subst h
      simp [insert, keys]
    · simp only [insert, if_neg h, keys, List.map_cons, List.mem_cons, Ne.symm h, false_or] at ih ⊢
      rw [ih]
      by_cases hmem : key ∈ List.map (fun x => x.fst) rest <;> simp [hmem]

theorem nodup_keys_insert {entries : Assoc κ β} (h : (keys entries).Nodup) (key : κ) (value : β) :
    (keys (insert key value entries)).Nodup := by
  rw [keys_insert]
  split
  · exact h
  · rename_i hkey
    exact List.nodup_append.2 ⟨h, by simp, by
      intro a ha b hb
      rw [List.mem_singleton.1 hb]
      exact fun hab => hkey (hab ▸ ha)⟩

end Assoc

end AbiDoc
