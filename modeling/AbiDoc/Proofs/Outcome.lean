import AbiDoc.Fault
import Mathlib.Data.List.Forall2

/-!
# Laws of outcomes

How a sequence of steps that may fail comes out.  A sequence gives a value exactly when each of
its steps does (`bind_eq_ok_iff`, `mapM_eq_ok_iff`), and a walk over a list fails with the fault
of the first item that is refused (`mapM_eq_error_iff`, `mapM_accepted_or_refused`).  The statements
are about any type of faults.
-/

namespace AbiDoc
namespace Outcome

variable {ε α β γ : Type}

/-- A step gives a value exactly when its first half does and the second half does on that. -/
theorem bind_eq_ok_iff {first : Except ε α} {next : α → Except ε β} {value : β} :
    first >>= next = .ok value ↔ ∃ a, first = .ok a ∧ next a = .ok value := by
  cases first with
  | error fault => simp [bind, Except.bind]
  | ok a => simp [bind, Except.bind]

/-- A step fails exactly when its first half does or the second half does after it. -/
theorem bind_eq_error_iff {first : Except ε α} {next : α → Except ε β} {fault : ε} :
    first >>= next = .error fault ↔
      first = .error fault ∨ ∃ a, first = .ok a ∧ next a = .error fault := by
  cases first with
  | error other => simp [bind, Except.bind]
  | ok a => simp [bind, Except.bind]

/-- A step of which the first half depends on a condition gives a value when the half that counts
does and the second half does on that. -/
theorem ite_bind_eq_ok_iff {condition : Prop} [Decidable condition] {first other : Except ε α}
    {next : α → Except ε β} {value : β} :
    (if condition then first >>= next else other >>= next) = .ok value ↔
      ∃ a, (if condition then first else other) = .ok a ∧ next a = .ok value := by
  split
  · exact bind_eq_ok_iff
  · exact bind_eq_ok_iff

@[simp] theorem ok_bind (a : α) (next : α → Except ε β) :
    (Except.ok a >>= next) = next a := rfl

@[simp] theorem error_bind (fault : ε) (next : α → Except ε β) :
    (Except.error fault >>= next) = .error fault := rfl

theorem map_eq_ok_iff {outcome : Except ε α} {f : α → β} {value : β} :
    outcome.map f = .ok value ↔ ∃ a, outcome = .ok a ∧ f a = value := by
  cases outcome with
  | error fault => simp [Except.map]
  | ok a => simp [Except.map]

theorem map_eq_error_iff {outcome : Except ε α} {f : α → β} {fault : ε} :
    outcome.map f = .error fault ↔ outcome = .error fault := by
  cases outcome with
  | error other => simp [Except.map]
  | ok a => simp [Except.map]

theorem bind_pure_eq_map (outcome : Except ε α) (f : α → β) :
    (outcome >>= fun a => pure (f a)) = outcome.map f := by
  cases outcome with
  | error fault => rfl
  | ok a => rfl

theorem pure_eq_ok_iff {a b : α} : (pure a : Except ε α) = .ok b ↔ a = b := by
  simp [pure, Except.pure]

/-- A walk over a list gives values exactly when every item gives the value at its place. -/
theorem mapM_eq_ok_iff {f : α → Except ε β} {items : List α} {values : List β} :
    items.mapM f = .ok values ↔
      List.Forall₂ (fun item value => f item = .ok value) items values := by
  induction items generalizing values with
  | nil =>
      rw [List.mapM_nil, List.forall₂_nil_left_iff, pure_eq_ok_iff]
      exact eq_comm
  | cons item rest ih =>
      rw [List.mapM_cons, List.forall₂_cons_left_iff, bind_eq_ok_iff]
      constructor
      · rintro ⟨value, hvalue, h⟩
        obtain ⟨others, hothers, h⟩ := bind_eq_ok_iff.mp h
        exact ⟨value, others, hvalue, ih.mp hothers, (pure_eq_ok_iff.mp h).symm⟩
      · rintro ⟨value, others, hvalue, hothers, rfl⟩
        refine ⟨value, hvalue, bind_eq_ok_iff.mpr ?_⟩
        exact ⟨others, ih.mpr hothers, rfl⟩

/-- A value stands where the item stands that gave it. -/
theorem getElem?_of_mapM {f : α → Except ε β} {items : List α} {values : List β}
    (h : items.mapM f = .ok values) {position : Nat} {value : β} :
    values[position]? = some value ↔
      ∃ item, items[position]? = some item ∧ f item = .ok value := by
  have hvalues := mapM_eq_ok_iff.mp h
  clear h
  induction hvalues generalizing position with
  | nil => simp
  | @cons item head items values hhead _ ih =>
      cases position with
      | zero =>
          simp only [List.getElem?_cons_zero, Option.some.injEq, exists_eq_left', hhead,
            Except.ok.injEq]
      | succ position => simpa using ih

/-- Steps that come out alike on the items of a list make walks over it that come out alike. -/
theorem mapM_congr {f g : α → Except ε β} {items : List α} (h : ∀ item ∈ items, f item = g item) :
    items.mapM f = items.mapM g := by
  induction items with
  | nil => rfl
  | cons item rest ih =>
      have hrest := ih fun other hother => h other (by simp [hother])
      rw [List.mapM_cons, List.mapM_cons, h item (by simp), hrest]

/-- A walk over a list on which no step fails. -/
theorem mapM_ok (f : α → β) (items : List α) :
    (items.mapM fun item => (.ok (f item) : Except ε β)) = .ok (items.map f) := by
  rw [mapM_eq_ok_iff, List.forall₂_map_right_iff]
  exact List.forall₂_same.mpr fun _ _ => rfl

/-- Two lists that are related item by item are so by any relation that follows for the items of
the second. -/
theorem forall₂_imp_of_mem_right {related implied : α → β → Prop} {items : List α}
    {values : List β} (h : List.Forall₂ related items values)
    (himp : ∀ value ∈ values, ∀ item, related item value → implied item value) :
    List.Forall₂ implied items values := by
  induction h with
  | nil => exact .nil
  | cons hhead _ ih =>
      refine .cons (himp _ (by simp) _ hhead) (ih ?_)
      intro value hvalue
      exact himp value (by simp [hvalue])

/-- Of two lists that are related item by item, an item of the second has one of the first. -/
theorem exists_mem_of_forall₂ {related : α → β → Prop} {items : List α} {values : List β}
    {value : β} (h : List.Forall₂ related items values) (hvalue : value ∈ values) :
    ∃ item ∈ items, related item value := by
  induction h with
  | nil => simp at hvalue
  | @cons item head items values hhead _ ih =>
      rcases List.mem_cons.mp hvalue with rfl | hvalue
      · exact ⟨item, by simp, hhead⟩
      · obtain ⟨found, hfound, hrelated⟩ := ih hvalue
        exact ⟨found, by simp [hfound], hrelated⟩

/-- Where each item is related to something there is a list that is related item by item. -/
theorem exists_forall₂ {related : α → β → Prop} {items : List α}
    (h : ∀ item ∈ items, ∃ value, related item value) :
    ∃ values, List.Forall₂ related items values := by
  induction items with
  | nil => exact ⟨[], .nil⟩
  | cons item rest ih =>
      obtain ⟨value, hvalue⟩ := h item (by simp)
      obtain ⟨values, hvalues⟩ := ih fun other hother => h other (by simp [hother])
      exact ⟨value :: values, .cons hvalue hvalues⟩

/-! ## Steps that give a value with a property -/

/-- The outcome is a value, and the value has the property. -/
def Gives (outcome : Except ε α) (property : α → Prop) : Prop :=
  ∃ value, outcome = .ok value ∧ property value

theorem gives_ok {value : α} {property : α → Prop} (h : property value) :
    Gives (.ok value : Except ε α) property :=
  ⟨value, rfl, h⟩

theorem Gives.imp {outcome : Except ε α} {property implied : α → Prop}
    (h : Gives outcome property) (himp : ∀ value, property value → implied value) :
    Gives outcome implied := by
  obtain ⟨value, houtcome, hvalue⟩ := h
  exact ⟨value, houtcome, himp value hvalue⟩

theorem Gives.of_eq_ok {outcome : Except ε α} {property : α → Prop} {value : α}
    (h : Gives outcome property) (hvalue : outcome = .ok value) : property value := by
  obtain ⟨given, hgiven, hproperty⟩ := h
  rwa [Except.ok.inj (hvalue.symm.trans hgiven)]

theorem Gives.bind {first : Except ε α} {next : α → Except ε β} {property : α → Prop}
    {result : β → Prop} (h : Gives first property)
    (hnext : ∀ value, property value → Gives (next value) result) :
    Gives (first >>= next) result := by
  obtain ⟨value, rfl, hvalue⟩ := h
  exact hnext value hvalue

/-- A step with two halves, of which the first depends on a condition. -/
theorem gives_ite_bind {condition : Prop} [Decidable condition] {first other : Except ε α}
    {next : α → Except ε β} {property : α → Prop} {result : β → Prop}
    (hfirst : condition → Gives first property) (hother : ¬ condition → Gives other property)
    (hnext : ∀ value, property value → Gives (next value) result) :
    Gives (if condition then first >>= next else other >>= next) result := by
  split
  · rename_i hcondition
    exact (hfirst hcondition).bind hnext
  · rename_i hcondition
    exact (hother hcondition).bind hnext

theorem Gives.map {outcome : Except ε α} {f : α → β} {property : α → Prop}
    {result : β → Prop} (h : Gives outcome property)
    (hf : ∀ value, property value → result (f value)) : Gives (outcome.map f) result := by
  obtain ⟨value, rfl, hvalue⟩ := h
  exact ⟨f value, rfl, hf value hvalue⟩

/-- A walk over a list gives values with a property when every item gives one. -/
theorem gives_mapM {f : α → Except ε β} {items : List α} {property : β → Prop}
    (h : ∀ item ∈ items, Gives (f item) property) :
    Gives (items.mapM f) fun values => ∀ value ∈ values, property value := by
  induction items with
  | nil => exact gives_ok (by simp)
  | cons item rest ih =>
      have hrest := ih fun other hother => h other (by simp [hother])
      rw [List.mapM_cons]
      refine (h item (by simp)).bind fun value hvalue => hrest.bind fun values hvalues => ?_
      refine gives_ok fun found hfound => ?_
      rcases List.mem_cons.mp hfound with rfl | hfound
      · exact hvalue
      · exact hvalues found hfound

/-! ## The first refusal -/

/-- The fault of the first item that is refused; all items before it are accepted. -/
inductive FirstRefused (accepted : α → Prop) (refused : α → ε → Prop) : List α → ε → Prop
  | here {item : α} {rest : List α} {fault : ε} (h : refused item fault) :
      FirstRefused accepted refused (item :: rest) fault
  | later {item : α} {rest : List α} {fault : ε} (haccepted : accepted item)
      (hrest : FirstRefused accepted refused rest fault) :
      FirstRefused accepted refused (item :: rest) fault

section FirstRefused

variable {accepted : α → Prop} {refused : α → ε → Prop} {items : List α}

theorem FirstRefused.exists_refused {fault : ε} (h : FirstRefused accepted refused items fault) :
    ∃ item ∈ items, refused item fault := by
  induction h with
  | @here item _ _ h => exact ⟨item, by simp, h⟩
  | later _ _ ih =>
      obtain ⟨item, hitem, h⟩ := ih
      exact ⟨item, by simp [hitem], h⟩

/-- A walk over a list fails exactly with the first fault on its way. -/
theorem mapM_eq_error_iff {f : α → Except ε β} {items : List α} {fault : ε} :
    items.mapM f = .error fault ↔
      FirstRefused (fun item => ∃ value, f item = .ok value)
        (fun item fault => f item = .error fault) items fault := by
  induction items with
  | nil =>
      constructor
      · intro h
        cases h
      · intro h
        cases h
  | cons item rest ih =>
      rw [List.mapM_cons, bind_eq_error_iff]
      constructor
      · rintro (h | ⟨value, hvalue, h⟩)
        · exact .here h
        · rcases bind_eq_error_iff.mp h with h | ⟨values, -, h⟩
          · exact .later ⟨value, hvalue⟩ (ih.mp h)
          · cases h
      · intro h
        cases h with
        | here h => exact Or.inl h
        | later haccepted hrest =>
            obtain ⟨value, hvalue⟩ := haccepted
            exact Or.inr ⟨value, hvalue, bind_eq_error_iff.mpr (Or.inl (ih.mpr hrest))⟩

/-- Where no item is both accepted and refused, there is one first refusal at most. -/
theorem FirstRefused.unique
    (hexclusive : ∀ item fault, accepted item → ¬ refused item fault)
    (hunique : ∀ item fault other, refused item fault → refused item other → fault = other)
    {fault other : ε} (h : FirstRefused accepted refused items fault)
    (hother : FirstRefused accepted refused items other) : fault = other := by
  induction h with
  | here h =>
      cases hother with
      | here hother => exact hunique _ _ _ h hother
      | later haccepted _ => exact absurd h (hexclusive _ _ haccepted)
  | later haccepted _ ih =>
      cases hother with
      | here hother => exact absurd hother (hexclusive _ _ haccepted)
      | later _ hother => exact ih hother

/-- A walk over a list of items of which each is accepted or refused with a fault: it gives values
when all are accepted, and otherwise fails with the first refusal. -/
theorem mapM_accepted_or_refused {f : α → Except ε β}
    (h : ∀ item ∈ items, (accepted item ∧ ∃ value, f item = .ok value) ∨
      ∃ fault, refused item fault ∧ f item = .error fault) :
    ((∀ item ∈ items, accepted item) ∧ ∃ values, items.mapM f = .ok values) ∨
      ∃ fault, FirstRefused accepted refused items fault ∧ items.mapM f = .error fault := by
  induction items with
  | nil => exact Or.inl ⟨by simp, [], rfl⟩
  | cons item rest ih =>
      rw [List.mapM_cons]
      rcases h item (by simp) with ⟨haccepted, value, hvalue⟩ | ⟨fault, hrefused, hfault⟩
      · rw [hvalue, ok_bind]
        rcases ih fun other hother => h other (by simp [hother]) with
          ⟨hall, values, hvalues⟩ | ⟨fault, hfirst, hfault⟩
        · rw [hvalues, ok_bind]
          refine Or.inl ⟨fun other hother => ?_, value :: values, rfl⟩
          rcases List.mem_cons.mp hother with rfl | hother
          · exact haccepted
          · exact hall other hother
        · rw [hfault, error_bind]
          exact Or.inr ⟨fault, .later haccepted hfirst, rfl⟩
      · rw [hfault, error_bind]
        exact Or.inr ⟨fault, .here hrefused, rfl⟩

end FirstRefused

/-! ## Sorting out -/

theorem filterAuxM_eq_ok {test : α → Except ε Bool} {answer : α → Bool} {items : List α}
    (h : ∀ item ∈ items, test item = .ok (answer item)) (kept : List α) :
    List.filterAuxM test items kept = .ok ((items.filter answer).reverse ++ kept) := by
  induction items generalizing kept with
  | nil => rfl
  | cons item rest ih =>
      have hrest := ih fun other hother => h other (by simp [hother])
      rw [List.filterAuxM, h item (by simp), ok_bind, hrest]
      cases hanswer : answer item with
      | true => simp [hanswer]
      | false => simp [hanswer]

/-- Where a test answers on every item, sorting out keeps the items that pass it. -/
theorem filterM_eq_ok {test : α → Except ε Bool} {answer : α → Bool} {items : List α}
    (h : ∀ item ∈ items, test item = .ok (answer item)) :
    items.filterM test = .ok (items.filter answer) := by
  rw [List.filterM, filterAuxM_eq_ok h, ok_bind]
  simp [pure, Except.pure]

theorem answers_of_filterAuxM_eq_ok {test : α → Except ε Bool} {items kept found : List α}
    (h : List.filterAuxM test items kept = .ok found) :
    ∀ item ∈ items, ∃ answer, test item = .ok answer := by
  induction items generalizing kept with
  | nil => simp
  | cons item rest ih =>
      rw [List.filterAuxM] at h
      obtain ⟨answer, hanswer, h⟩ := bind_eq_ok_iff.mp h
      intro other hother
      rcases List.mem_cons.mp hother with rfl | hother
      · exact ⟨answer, hanswer⟩
      · exact ih h other hother

/-- Sorting out gives a list only where the test answers on every item. -/
theorem answers_of_filterM_eq_ok {test : α → Except ε Bool} {items found : List α}
    (h : items.filterM test = .ok found) :
    ∀ item ∈ items, ∃ answer, test item = .ok answer := by
  rw [List.filterM] at h
  obtain ⟨kept, hkept, -⟩ := bind_eq_ok_iff.mp h
  exact answers_of_filterAuxM_eq_ok hkept

/-- What was kept before stays behind what is kept of the items. -/
theorem filterAuxM_eq_map (test : α → Except ε Bool) (items kept : List α) :
    List.filterAuxM test items kept = (List.filterAuxM test items []).map (· ++ kept) := by
  induction items generalizing kept with
  | nil => rfl
  | cons item rest ih =>
      rw [List.filterAuxM, List.filterAuxM]
      cases test item with
      | error fault => rfl
      | ok answer =>
          rw [ok_bind, ok_bind, ih, ih (cond answer [item] [])]
          cases List.filterAuxM test rest [] with
          | error fault => rfl
          | ok found => cases answer <;> simp [Except.map]

theorem filterAuxM_append (test : α → Except ε Bool) (first second kept : List α) :
    List.filterAuxM test (first ++ second) kept =
      List.filterAuxM test first kept >>= List.filterAuxM test second := by
  induction first generalizing kept with
  | nil => rfl
  | cons item rest ih =>
      rw [List.cons_append, List.filterAuxM, List.filterAuxM]
      cases test item with
      | error fault => rfl
      | ok answer => exact ih _

/-- Sorting out two lists in a row is sorting out the first and then the second. -/
theorem filterM_append (test : α → Except ε Bool) (first second : List α) :
    (first ++ second).filterM test = do
      let kept ← first.filterM test
      let more ← second.filterM test
      return kept ++ more := by
  simp only [List.filterM, filterAuxM_append]
  cases List.filterAuxM test first [] with
  | error fault => rfl
  | ok kept =>
      rw [ok_bind, filterAuxM_eq_map]
      cases List.filterAuxM test second [] with
      | error fault => rfl
      | ok more => simp [Except.map, pure, Except.pure, bind, Except.bind]

theorem exists_filterM {test : α → Except ε Bool} {items : List α}
    (h : ∀ item ∈ items, ∃ answer, test item = .ok answer) :
    ∃ found, items.filterM test = .ok found := by
  classical
  have hanswer : ∀ item ∈ items, test item = .ok (decide (test item = .ok true)) := by
    intro item hitem
    obtain ⟨answer, hanswer⟩ := h item hitem
    rw [hanswer]
    cases answer with
    | true => simp
    | false => simp
  exact ⟨_, filterM_eq_ok hanswer⟩

end Outcome
end AbiDoc
