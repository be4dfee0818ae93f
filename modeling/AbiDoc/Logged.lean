import AbiDoc.Fault

/-!
# Work that tells its progress

A computation that says what it does as it goes on: the lines it said, and its outcome.  A fault
keeps the lines that were said before it, and those after it are never said.  Main statements:
saying something changes no outcome (`outcome_say`), and the outcome of a sequence or of a walk over
a list is that of the outcomes (`outcome_bind`, `outcome_mapM`).
-/

namespace AbiDoc

/-- An outcome with the lines said on the way to it. -/
structure Logged (α : Type) where
  lines : List String
  outcome : Outcome α

namespace Logged

/-- Work in sequence; a fault ends it. -/
def andThen {α β : Type} (first : Logged α) (next : α → Logged β) : Logged β :=
  match first.outcome with
  | .ok value => ⟨first.lines ++ (next value).lines, (next value).outcome⟩
  | .error fault => ⟨first.lines, .error fault⟩

instance : Monad Logged where
  pure value := ⟨[], .ok value⟩
  bind := andThen

/-- Says one line. -/
def say (line : String) : Logged Unit := ⟨[line], .ok ()⟩

/-- Work that says nothing. -/
def quietly {α : Type} (outcome : Outcome α) : Logged α := ⟨[], outcome⟩

instance : MonadLift Outcome Logged := ⟨quietly⟩

@[simp] theorem outcome_pure {α : Type} (value : α) :
    (pure value : Logged α).outcome = .ok value := rfl

@[simp] theorem outcome_say (line : String) : (say line).outcome = .ok () := rfl

@[simp] theorem outcome_quietly {α : Type} (outcome : Outcome α) :
    (quietly outcome).outcome = outcome := rfl

@[simp] theorem outcome_bind {α β : Type} (first : Logged α) (next : α → Logged β) :
    (first >>= next).outcome = first.outcome >>= fun value => (next value).outcome := by
  show (andThen first next).outcome = _
  unfold andThen
  cases first.outcome <;> rfl

theorem outcome_mapM_loop {α β : Type} (f : α → Logged β) (items : List α) (done : List β) :
    (List.mapM.loop f items done).outcome =
      List.mapM.loop (fun item => (f item).outcome) items done := by
  induction items generalizing done with
  | nil => rfl
  | cons item rest ih => simp only [List.mapM.loop, outcome_bind, ih]

@[simp] theorem outcome_mapM {α β : Type} (f : α → Logged β) (items : List α) :
    (items.mapM f).outcome = items.mapM fun item => (f item).outcome :=
  outcome_mapM_loop f items []

end Logged

end AbiDoc
