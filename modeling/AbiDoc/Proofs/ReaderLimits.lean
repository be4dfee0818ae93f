import AbiDoc.Json.Parser
import Mathlib.Data.List.Infix
import Mathlib.Data.List.TakeWhile

/-!
# The limits of readers

Where a text is refused for the digits of a number, as many digits stand in it one after another
(`hasLongRun_of_parse`), and where it is refused because too much is open in it, so many brackets
stand in it that open something (`maxNesting_lt_of_parse`).  Every reader is followed on a text of
any shape: what it leaves is an end of the text, so what it refuses stands in the text itself
(`StaysIn`).  One bracket more than there is room for is refused indeed (`exists_parse_brackets`).
-/

namespace AbiDoc
namespace Json

variable {α β : Type}

/-! ## What readers leave -/

/-- A run of more digits than a whole number may have stands somewhere in the text. -/
def HasLongRun (text : List Char) : Prop :=
  ∃ digits, digits <:+: text ∧ (∀ c ∈ digits, c.isDigit = true) ∧
    Text.digitLimit < digits.length

theorem HasLongRun.of_suffix {rest text : List Char} (h : HasLongRun rest)
    (hrest : rest <:+ text) : HasLongRun text := by
  obtain ⟨digits, hdigits, hlong⟩ := h
  exact ⟨digits, hdigits.trans hrest.isInfix, hlong⟩

/-- A bracket that opens an array or an object. -/
def isOpening (c : Char) : Bool := c = '[' || c = '\x7b'

/-- How many brackets in a text open something, wherever they stand. -/
def openings (text : List Char) : Nat := text.countP isOpening

theorem openings_le_of_suffix {rest text : List Char} (h : rest <:+ text) :
    openings rest ≤ openings text :=
  h.sublist.countP_le

/-- What is read from a text with `room` for brackets leaves an end of the text.  A number is
refused for its digits only where a long run of digits stands in the text, and a bracket for its
depth only where more brackets open something than there is room for. -/
structure StaysIn (room : Nat) (text : List Char) (read : Except Failure (α × List Char)) :
    Prop where
  rest_suffix : ∀ {value rest}, read = .ok (value, rest) → rest <:+ text
  hasLongRun : ∀ {failure}, read = .error failure → failure.cause = .oversizedInteger →
    HasLongRun text
  room_lt : ∀ {failure}, read = .error failure → failure.cause = .tooDeep → room < openings text

section

variable {room : Nat} {text rest : List Char} {read : Except Failure (α × List Char)}

theorem StaysIn.ok (value : α) (hrest : rest <:+ text) :
    StaysIn room text (.ok (value, rest)) where
  rest_suffix h := by
    obtain ⟨-, rfl⟩ := Prod.mk.inj (Except.ok.inj h)
    exact hrest
  hasLongRun h := by cases h
  room_lt h := by cases h

theorem StaysIn.error {cause : SyntaxCause} (hdigits : cause ≠ .oversizedInteger)
    (hdepth : cause ≠ .tooDeep) : StaysIn (α := α) room text (.error ⟨cause, rest⟩) where
  rest_suffix h := by cases h
  hasLongRun h hcause := by
    cases h
    exact absurd hcause hdigits
  room_lt h hcause := by
    cases h
    exact absurd hcause hdepth

theorem StaysIn.of_suffix (h : StaysIn room rest read) (hrest : rest <:+ text) :
    StaysIn room text read where
  rest_suffix hread := (h.rest_suffix hread).trans hrest
  hasLongRun hread hcause := (h.hasLongRun hread hcause).of_suffix hrest
  room_lt hread hcause := Nat.lt_of_lt_of_le (h.room_lt hread hcause) (openings_le_of_suffix hrest)

theorem StaysIn.bind {next : α × List Char → Except Failure (β × List Char)}
    (h : StaysIn room text read) (hnext : ∀ value rest, StaysIn room rest (next (value, rest))) :
    StaysIn room text (read >>= next) := by
  cases read with
  | error failure =>
      exact {
        rest_suffix := fun hread => nomatch hread
        hasLongRun := fun hread hcause => by
          cases hread
          exact h.hasLongRun rfl hcause
        room_lt := fun hread hcause => by
          cases hread
          exact h.room_lt rfl hcause }
  | ok found =>
      obtain ⟨value, rest⟩ := found
      exact (hnext value rest).of_suffix (h.rest_suffix rfl)

theorem StaysIn.map (f : α → β) (h : StaysIn room text read) :
    StaysIn room text (read >>= fun found => pure (f found.1, found.2)) :=
  h.bind fun value _ => .ok (f value) List.suffix_rfl

/-- A bracket is refused when there is no room for it. -/
theorem StaysIn.tooDeep {bracket : Char} (hbracket : isOpening bracket = true) :
    StaysIn (α := α) 0 (bracket :: text) (.error ⟨.tooDeep, rest⟩) where
  rest_suffix h := by cases h
  hasLongRun h hcause := by
    cases h
    cases hcause
  room_lt _ _ := by
    rw [openings, List.countP_cons_of_pos hbracket]
    exact Nat.succ_pos _

/-- What stands in a bracket is read with one place less. -/
theorem StaysIn.of_bracket {bracket : Char} (hbracket : isOpening bracket = true)
    (h : StaysIn room rest read) (hrest : rest <:+ text) :
    StaysIn (room + 1) (bracket :: text) read where
  rest_suffix := (h.of_suffix (hrest.trans (List.suffix_cons _ _))).rest_suffix
  hasLongRun := (h.of_suffix (hrest.trans (List.suffix_cons _ _))).hasLongRun
  room_lt hread hcause := by
    have hopen : room < openings text := (h.of_suffix hrest).room_lt hread hcause
    rw [openings, List.countP_cons_of_pos hbracket]
    exact Nat.succ_lt_succ hopen

end

/-! ## Strings -/

theorem staysIn_readUnits (room : Nat) (opening text : List Char) :
    StaysIn room text (readUnits opening text) := by
  fun_induction readUnits opening text with
  | case1 => exact .error (by decide) (by decide)
  | case2 => exact .ok _ (List.suffix_cons _ _)
  | case3 => exact .error (by decide) (by decide)
  | case4 => exact .error (by decide) (by decide)
  | case5 a b c d rest unit _ _ ih => exact (ih.map _).of_suffix ⟨['\\', 'u', a, b, c, d], rfl⟩
  | case6 => exact .error (by decide) (by decide)
  | case7 => exact .error (by decide) (by decide)
  | case8 letter rest _ _ c _ ih => exact (ih.map _).of_suffix ⟨['\\', letter], rfl⟩
  | case9 => exact .error (by decide) (by decide)
  | case10 => exact .error (by decide) (by decide)
  | case11 c rest _ _ _ _ _ _ ih => exact (ih.map _).of_suffix (List.suffix_cons c rest)

theorem staysIn_readString (room : Nat) (text : List Char) :
    StaysIn room text (readString text) := by
  unfold readString
  exact (staysIn_readUnits room _ text).map fun units => String.ofList (joinUnits units)

/-! ## Numbers -/

theorem readFraction_suffix (text : List Char) : (readFraction text).2 <:+ text := by
  unfold readFraction
  split
  · split
    · exact List.suffix_rfl
    · exact (List.dropWhile_suffix _).trans (List.suffix_cons _ _)
  · exact List.suffix_rfl

theorem readExponent_suffix (text : List Char) : (readExponent text).2 <:+ text := by
  unfold readExponent
  split
  · rename_i mark rest
    have hdigits : ∀ (negative : Bool) (digits : List Char), digits <:+ rest →
        (if (digits.takeWhile Char.isDigit).isEmpty then (none, mark :: rest)
          else (some (negative, digits.takeWhile Char.isDigit),
            digits.dropWhile Char.isDigit)).2 <:+ mark :: rest := by
      intro negative digits hdigits
      split
      · exact List.suffix_rfl
      · exact ((List.dropWhile_suffix _).trans hdigits).trans (List.suffix_cons _ _)
    split
    · split
      rename_i negative digits hsigned
      apply hdigits
      split at hsigned
      · cases hsigned
        exact List.suffix_cons _ _
      · cases hsigned
        exact List.suffix_cons _ _
      · cases hsigned
        exact List.suffix_rfl
    · exact List.suffix_rfl
  · exact List.suffix_rfl

/-- The digits before the fraction are digits at the front of the text. -/
theorem readIntegerPart_spec {text whole rest : List Char}
    (h : readIntegerPart text = some (whole, rest)) :
    text = whole ++ rest ∧ ∀ c ∈ whole, c.isDigit = true := by
  unfold readIntegerPart at h
  split at h
  · cases h
    simp
  · split at h
    · rename_i c more _ hdigit
      cases h
      refine ⟨by simp [List.takeWhile_append_dropWhile], ?_⟩
      intro other hother
      rcases List.mem_cons.mp hother with rfl | hother
      · exact hdigit
      · exact List.mem_takeWhile_imp hother
    · cases h
  · cases h

theorem staysIn_readNumber (room : Nat) (negative : Bool) (start text : List Char) :
    StaysIn room text (readNumber negative start text) := by
  unfold readNumber
  split
  · exact .error (by decide) (by decide)
  · rename_i whole afterWhole hwhole
    obtain ⟨rfl, hdigits⟩ := readIntegerPart_spec hwhole
    have hrest : (readExponent (readFraction afterWhole).2).2 <:+ whole ++ afterWhole :=
      ((readExponent_suffix _).trans (readFraction_suffix _)).trans (List.suffix_append _ _)
    dsimp only
    split
    · split
      · rename_i hlong
        have hrun : HasLongRun (whole ++ afterWhole) :=
          ⟨whole, List.infix_append [] whole afterWhole, hdigits, hlong⟩
        exact {
          rest_suffix := fun h => nomatch h
          hasLongRun := fun _ _ => hrun
          room_lt := fun h hcause => by
            cases h
            cases hcause }
      · exact .ok _ hrest
    · exact .ok _ hrest

/-! ## Values -/

theorem readConstant?_suffix {text rest : List Char} {value : Json}
    (h : readConstant? text = some (value, rest)) : rest <:+ text := by
  obtain ⟨constant, -, hconstant⟩ := Option.map_eq_some_iff.mp h
  obtain ⟨-, rfl⟩ := Prod.mk.inj hconstant
  exact List.drop_suffix _ _

theorem skipSpace_suffix (text : List Char) : skipSpace text <:+ text :=
  List.dropWhile_suffix _

section

variable {fuel : Nat}

theorem staysIn_readValue_succ
    (hitems : ∀ room text, StaysIn room text (readItems fuel room text))
    (hmembers : ∀ room text, StaysIn room text (readMembers fuel room text))
    (room : Nat) (text : List Char) : StaysIn room text (readValue (fuel + 1) room text) := by
  unfold readValue
  split
  · exact ((staysIn_readString _ _).map _).of_suffix (List.suffix_cons _ _)
  · rename_i rest
    split
    · exact .tooDeep rfl
    · rename_i room
      have hinside := skipSpace_suffix rest
      split
      · rename_i after hafter
        rw [hafter] at hinside
        exact .ok _ (((List.suffix_cons _ _).trans hinside).trans (List.suffix_cons _ _))
      · exact ((hitems room _).map _).of_bracket rfl hinside
  · rename_i rest
    split
    · exact .tooDeep rfl
    · rename_i room
      have hinside := skipSpace_suffix rest
      split
      · rename_i after hafter
        rw [hafter] at hinside
        exact .ok _ (((List.suffix_cons _ _).trans hinside).trans (List.suffix_cons _ _))
      · exact ((hmembers room _).map fun members => Json.obj (Assoc.ofList members)).of_bracket
          rfl hinside
  · split
    · rename_i found hfound
      exact .ok _ (readConstant?_suffix hfound)
    · split
      · exact (staysIn_readNumber _ _ _ _).of_suffix (List.suffix_cons _ _)
      · exact staysIn_readNumber _ _ _ _

variable {room : Nat}

theorem staysIn_readItems_succ (hvalue : ∀ text, StaysIn room text (readValue fuel room text))
    (hitems : ∀ text, StaysIn room text (readItems fuel room text)) (text : List Char) :
    StaysIn room text (readItems (fuel + 1) room text) := by
  rw [readItems]
  apply (hvalue text).bind
  intro item after
  have hafter := skipSpace_suffix after
  dsimp only
  split
  · rename_i rest hrest
    rw [hrest] at hafter
    exact .ok _ ((List.suffix_cons _ _).trans hafter)
  · rename_i rest hrest
    rw [hrest] at hafter
    have hnext := ((skipSpace_suffix rest).trans (List.suffix_cons _ _)).trans hafter
    exact ((hitems _).map _).of_suffix hnext
  · exact .error (by decide) (by decide)

theorem staysIn_readMembers_succ (hvalue : ∀ text, StaysIn room text (readValue fuel room text))
    (hmembers : ∀ text, StaysIn room text (readMembers fuel room text)) (text : List Char) :
    StaysIn room text (readMembers (fuel + 1) room text) := by
  unfold readMembers
  split
  · rename_i text
    refine StaysIn.of_suffix ?_ (List.suffix_cons _ _)
    apply (staysIn_readString room text).bind
    intro key after
    have hafter := skipSpace_suffix after
    dsimp only
    split
    · rename_i rest hrest
      rw [hrest] at hafter
      have hbehind := ((skipSpace_suffix rest).trans (List.suffix_cons _ _)).trans hafter
      refine StaysIn.of_suffix ?_ hbehind
      apply (hvalue _).bind
      intro value after
      have hafter := skipSpace_suffix after
      dsimp only
      split
      · rename_i rest hrest
        rw [hrest] at hafter
        exact .ok _ ((List.suffix_cons _ _).trans hafter)
      · rename_i rest hrest
        rw [hrest] at hafter
        have hnext := ((skipSpace_suffix rest).trans (List.suffix_cons _ _)).trans hafter
        exact ((hmembers _).map _).of_suffix hnext
      · exact .error (by decide) (by decide)
    · exact .error (by decide) (by decide)
  · exact .error (by decide) (by decide)

end

/-- The readers of values call one another, so what they leave is shown of all at once. -/
theorem staysIn_readers (fuel : Nat) :
    (∀ room text, StaysIn room text (readValue fuel room text)) ∧
      (∀ room text, StaysIn room text (readItems fuel room text)) ∧
        ∀ room text, StaysIn room text (readMembers fuel room text) := by
  induction fuel with
  | zero =>
      refine ⟨fun room text => ?_, fun room text => ?_, fun room text => ?_⟩
      · exact .error (by decide) (by decide)
      · exact .error (by decide) (by decide)
      · exact .error (by decide) (by decide)
  | succ fuel ih =>
      obtain ⟨hvalue, hitems, hmembers⟩ := ih
      exact ⟨staysIn_readValue_succ hitems hmembers,
        fun room => staysIn_readItems_succ (hvalue room) (hitems room),
        fun room => staysIn_readMembers_succ (hvalue room) (hmembers room)⟩

/-! ## Whole texts -/

/-- A text is refused for what its value is refused for, or because something is missing in front
of the value or stands behind it. -/
theorem readDocument_error_cases [Machine] {text : List Char} {failure : Failure}
    (h : readDocument text = .error failure) :
    failure.cause = .byteOrderMark ∨ failure.cause = .extraData ∨
      ∃ fuel, readValue fuel Machine.maxNesting (skipSpace text) = .error failure := by
  unfold readDocument at h
  split at h
  · cases h
    exact Or.inl rfl
  · cases hvalue : readValue (2 * text.length + 2) Machine.maxNesting (skipSpace text) with
    | error found =>
        rw [hvalue] at h
        cases h
        exact Or.inr (Or.inr ⟨_, hvalue⟩)
    | ok found =>
        rw [hvalue] at h
        dsimp only [bind, Except.bind] at h
        split at h
        · cases h
        · cases h
          exact Or.inr (Or.inl rfl)
theorem exists_readValue_of_parse [Machine] {text : String} {error : SyntaxError}
    (h : parse text = .error error) (hcause : error.cause = .oversizedInteger ∨
      error.cause = .tooDeep) :
    ∃ fuel failure, failure.cause = error.cause ∧
      readValue fuel Machine.maxNesting (skipSpace text.toList) = .error failure := by
  unfold parse at h
  cases hread : readDocument text.toList with
  | error failure =>
      rw [hread] at h
      obtain rfl := Except.error.inj h
      have hcause : failure.cause = .oversizedInteger ∨ failure.cause = .tooDeep := hcause
      rcases readDocument_error_cases hread with hother | hother | ⟨fuel, hvalue⟩
      · simp [hother] at hcause
      · simp [hother] at hcause
      · exact ⟨fuel, failure, rfl, hvalue⟩
  | ok value =>
      rw [hread] at h
      cases h

/-- A text is refused for a number of too many digits only where as many digits stand in it. -/
theorem hasLongRun_of_parse [Machine] {text : String} {error : SyntaxError}
    (h : parse text = .error error) (hcause : error.cause = .oversizedInteger) :
    HasLongRun text.toList := by
  obtain ⟨fuel, failure, hfailure, hvalue⟩ := exists_readValue_of_parse h (Or.inl hcause)
  have hvalues := (staysIn_readers fuel).1 Machine.maxNesting (skipSpace text.toList)
  exact (hvalues.hasLongRun hvalue (hfailure.trans hcause)).of_suffix (skipSpace_suffix _)

/-- A text is refused for its depth only where more brackets open something than the machine has
room for. -/
theorem maxNesting_lt_of_parse [Machine] {text : String} {error : SyntaxError}
    (h : parse text = .error error) (hcause : error.cause = .tooDeep) :
    Machine.maxNesting < openings text.toList := by
  obtain ⟨fuel, failure, hfailure, hvalue⟩ := exists_readValue_of_parse h (Or.inr hcause)
  have hvalues := (staysIn_readers fuel).1 Machine.maxNesting (skipSpace text.toList)
  exact Nat.lt_of_lt_of_le (hvalues.room_lt hvalue (hfailure.trans hcause))
    (openings_le_of_suffix (skipSpace_suffix _))

/-! ## Open brackets -/

theorem skipSpace_brackets (count : Nat) :
    skipSpace (List.replicate count '[') = List.replicate count '[' := by
  cases count with
  | zero => rfl
  | succ count => simp [skipSpace, List.replicate_succ, isSpace]

/-- Of brackets that are opened in a row, the first for which there is no room is refused. -/
theorem exists_readValue_brackets {fuel room : Nat} (hfuel : 2 * room < fuel) :
    ∃ failure, failure.cause = .tooDeep ∧
      readValue fuel room (List.replicate (room + 1) '[') = .error failure := by
  induction room generalizing fuel with
  | zero =>
      obtain ⟨fuel, rfl⟩ := Nat.exists_eq_succ_of_ne_zero (by omega : fuel ≠ 0)
      exact ⟨_, rfl, rfl⟩
  | succ room ih =>
      -- A bracket takes two calls: one for the array and one for its items.
      obtain ⟨fuel, rfl⟩ := Nat.exists_eq_add_of_le' (by omega : 2 ≤ fuel)
      obtain ⟨failure, hcause, hinner⟩ := ih (by omega : 2 * room < fuel)
      refine ⟨failure, hcause, ?_⟩
      have hitems : readItems (fuel + 1) room (List.replicate (room + 1) '[') = .error failure := by
        rw [readItems, hinner]
        rfl
      rw [List.replicate_succ, readValue, skipSpace_brackets]
      split
      · rename_i hclosed
        cases hclosed
      · rw [hitems]
        rfl

/-- A text of one open bracket more than the machine has room for is refused for its depth. -/
theorem exists_parse_brackets [Machine] {text : String}
    (h : text.toList = List.replicate (Machine.maxNesting + 1) '[') :
    ∃ error, parse text = .error error ∧ error.cause = .tooDeep := by
  have hfuel : 2 * Machine.maxNesting < 2 * (Machine.maxNesting + 1) + 2 := by omega
  obtain ⟨failure, hcause, hread⟩ := exists_readValue_brackets hfuel
  refine ⟨failure.locate text.toList, ?_, hcause⟩
  rw [parse, h, readDocument]
  · rw [List.length_replicate, skipSpace_brackets, hread]
    rfl
  · intro rest heq
    cases heq

end Json
end AbiDoc
