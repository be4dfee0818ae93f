import AbiDoc.CommandLine.Request
import AbiDoc.Proofs.JsonText
import AbiDoc.Proofs.OrderedMapping

/-!
# What one argument is

A long option with an equals sign is that option with the text behind the sign for its value,
whatever stands in that text (`classify_behind`).  A level without such an option takes the
argument for a word or for an unknown one and never for an ambiguous one (`classify_foreign`).  A
whole number in decimal reads back as itself (`readInt?_toString`).
-/

namespace AbiDoc

/-! ## Whole numbers in decimal -/

namespace Text

open Json

/-- A text without blanks is left as it is. -/
theorem trimmed_eq_self {text : List Char} (h : ∀ c ∈ text, isBlank c = false) :
    trimmed text = text := by
  have hkept : ∀ chars : List Char, (∀ c ∈ chars, isBlank c = false) →
      chars.dropWhile isBlank = chars := by
    intro chars hchars
    cases chars with
    | nil => rfl
    | cons c rest => rw [List.dropWhile_cons_of_neg (by simp [hchars c])]
  rw [trimmed, hkept text h, hkept text.reverse (by simpa using h), List.reverse_reverse]

/-- The values of ASCII digits, one by one. -/
theorem digits?_of_isDigit {first : Char} {rest : List Char}
    (h : ∀ c ∈ first :: rest, c.isDigit = true) :
    digits? (first :: rest) = some ((first :: rest).map fun c => c.toNat - 48) := by
  induction rest generalizing first with
  | nil => simp [digits?, digitValue?_of_isDigit (h first (by simp))]
  | cons next rest ih =>
      have hmore : ∀ c ∈ next :: rest, c.isDigit = true := fun c hc => h c (by simp [hc])
      have hnext : next ≠ '_' := ne_of_isDigit (h next (by simp)) rfl
      rw [digits?, digitValue?_of_isDigit (h first (by simp)), ih hmore]
      · rfl
      · exact fun hunderscore => hnext hunderscore

theorem readNat?_toDigits {n : Nat} (hdigits : (Nat.toDigits 10 n).length ≤ digitLimit) :
    readNat? (Nat.toDigits 10 n) = some n := by
  obtain ⟨first, rest, hcons, -, hmem⟩ := exists_toDigits_eq_cons n
  have hvalue := natOfDigits_toDigits n
  rw [natOfDigits] at hvalue
  rw [hcons] at hdigits hvalue ⊢
  simp only [readNat?, digits?_of_isDigit hmem, Option.bind_eq_bind, Option.bind_some,
    List.length_map, if_pos hdigits, hvalue]

/-- The decimal text of a whole number: its digits behind a sign where one is due. -/
theorem toList_toString (n : Int) :
    (toString n).toList = (if n < 0 then ['-'] else []) ++ Nat.toDigits 10 n.natAbs := by
  cases n with
  | ofNat n =>
      rw [if_neg (by simp)]
      exact Nat.toList_repr
  | negSucc n =>
      have hsign : (toString (Int.negSucc n)).toList = '-' :: (Nat.repr (n + 1)).toList :=
        String.toList_append
      rw [hsign, if_pos (by simp), Nat.toList_repr]
      rfl

theorem not_isBlank_of_mem_toString {n : Int} {c : Char} (hc : c ∈ (toString n).toList) :
    isBlank c = false := by
  rw [toList_toString, List.mem_append] at hc
  rcases hc with hsign | hdigit
  · split at hsign
    · rw [List.mem_singleton.mp hsign]
      rfl
    · cases hsign
  · exact not_isBlank_of_isDigit (Nat.isDigit_of_mem_toDigits (by decide) (by decide) hdigit)

/-- A whole number in decimal reads back as itself. -/
theorem readInt?_toString {n : Int} (hdigits : (Nat.toDigits 10 n.natAbs).length ≤ digitLimit) :
    readInt? (toString n).toList = some n := by
  have hread := readNat?_toDigits hdigits
  rw [readInt?, trimmed_eq_self fun c hc => not_isBlank_of_mem_toString hc, toList_toString]
  by_cases hneg : n < 0
  · have hvalue : -(n.natAbs : Int) = n := by omega
    rw [if_pos hneg, List.singleton_append]
    simp only [hread, Option.bind_eq_bind, Option.bind_some, Option.pure_def, Option.map_some,
      hvalue]
  · obtain ⟨first, rest, hcons, -, hmem⟩ := exists_toDigits_eq_cons n.natAbs
    have hdigit : first.isDigit = true := hmem first (by simp)
    rw [if_neg hneg, List.nil_append]
    rw [hcons] at hread ⊢
    split
    · rename_i hminus
      exact absurd (List.cons.inj hminus).1 (ne_of_isDigit hdigit rfl)
    · rename_i hplus
      exact absurd (List.cons.inj hplus).1 (ne_of_isDigit hdigit rfl)
    · rw [hread, Option.map_some]
      exact congrArg some (Int.natAbs_of_nonneg (by omega))

end Text

namespace CommandLine

variable {level : Level} {start rest : List Char} {setting : Setting} {arguments : List String}

/-! ## Words and long options -/

theorem classify_word {spellings : Assoc (List Char) Setting} {argument : List Char}
    (h : argument.head? ≠ some '-') : classify spellings argument = .word := if_pos h

/-- The cut is at the first equals sign; what stands behind it may have more of them. -/
theorem cutAtEquals_append (h : '=' ∉ start) :
    cutAtEquals (start ++ '=' :: rest) = (start, some rest) := by
  have hstart : ∀ c ∈ start, decide (c ≠ '=') = true := by
    intro c hc
    exact decide_eq_true fun hequals => h (hequals ▸ hc)
  have hdrop : (start ++ '=' :: rest).dropWhile (· ≠ '=') = '=' :: rest := by
    rw [List.dropWhile_append_of_pos hstart, List.dropWhile_cons_of_neg (by decide)]
  have htake : (start ++ '=' :: rest).takeWhile (· ≠ '=') = start := by
    rw [List.takeWhile_append_of_pos hstart, List.takeWhile_cons_of_neg (by decide),
      List.append_nil]
  rw [cutAtEquals, hdrop, htake]

theorem equals_notMem_spelling (level : Level) :
    ∀ spelling ∈ Assoc.keys level.spellings, '=' ∉ spelling := by
  cases level <;> decide

/-- No argument with an equals sign is the spelling of an option. -/
theorem find?_append_equals (level : Level) (start rest : List Char) :
    Assoc.find? (start ++ '=' :: rest) level.spellings = none := by
  apply Assoc.find?_eq_none
  intro hmem
  exact equals_notMem_spelling level _ hmem (by simp)

theorem exists_of_isLong (h : isLong start = true) : ∃ name, start = '-' :: '-' :: name := by
  rw [isLong.eq_def] at h
  split at h
  · exact ⟨_, rfl⟩
  · cases h

/-- A long option is that option with what stands behind its equals sign, whatever that is. -/
theorem classify_behind (hlong : isLong start = true) (hequals : '=' ∉ start)
    (hfound : Assoc.find? start level.spellings = some setting) :
    classify level.spellings (start ++ '=' :: rest) = .option setting (.value rest) := by
  have hbehind : Attached.behind start (some rest) = .value rest := if_pos hlong
  obtain ⟨name, rfl⟩ := exists_of_isLong hlong
  rw [classify, if_neg (by simp), find?_append_equals]
  simp only [cutAtEquals_append hequals, hfound, hbehind]
  exact if_neg (by simp)

theorem candidates_foreign (hlong : isLong start = true) (hequals : '=' ∉ start)
    (hforeign : ∀ spelling ∈ Assoc.keys level.spellings, start.isPrefixOf spelling = false) :
    candidates level.spellings (start ++ '=' :: rest) = [] := by
  have hnone : level.spellings.filter (fun entry => start.isPrefixOf entry.1) = [] := by
    rw [List.filter_eq_nil_iff]
    intro entry hentry
    simp [hforeign entry.1 (List.mem_map_of_mem hentry)]
  have hargument : isLong (start ++ '=' :: rest) = true := by
    obtain ⟨name, rfl⟩ := exists_of_isLong hlong
    rfl
  rw [candidates, if_pos hargument, cutAtEquals_append hequals]
  simp only [hnone, List.map_nil]

/-- The argument does not shorten several options. -/
def Token.IsClear (token : Token) : Prop := ∀ spellings, token ≠ .ambiguous spellings

/-- At a level where it shortens no option, a long option is clear: it is a word or unknown. -/
theorem classify_foreign (hlong : isLong start = true) (hequals : '=' ∉ start)
    (hforeign : ∀ spelling ∈ Assoc.keys level.spellings, start.isPrefixOf spelling = false) :
    (classify level.spellings (start ++ '=' :: rest)).IsClear := by
  intro several
  have hunspelled : Assoc.find? start level.spellings = none := by
    apply Assoc.find?_eq_none
    intro hmem
    have hself : start.isPrefixOf start = true := by simp
    rw [hforeign start hmem] at hself
    cases hself
  have hcandidates : candidates level.spellings (start ++ '=' :: rest) = [] :=
    candidates_foreign hlong hequals hforeign
  rw [classify]
  simp only [find?_append_equals, cutAtEquals_append hequals, hunspelled, hcandidates]
  split_ifs <;> simp

/-! ## Scanning without a divider -/

theorem tokens_of_notMem (spellings : Assoc (List Char) Setting) (h : "--" ∉ arguments) :
    tokens spellings arguments =
      arguments.map fun argument => (argument, classify spellings argument.toList) := by
  induction arguments with
  | nil => rfl
  | cons argument rest ih =>
      simp only [List.mem_cons, not_or] at h
      rw [tokens, if_neg (Ne.symm h.1), ih h.2, List.map_cons]

/-- Without a divider every argument is taken by itself. -/
theorem scan_eq_ok (hdivider : "--" ∉ arguments)
    (hclear : ∀ argument ∈ arguments, (classify level.spellings argument.toList).IsClear) :
    scan level arguments = .ok
      (arguments.map fun argument => (argument, classify level.spellings argument.toList)) := by
  rw [scan, tokens_of_notMem _ hdivider]
  split
  · rename_i argument spellings hfound
    obtain ⟨entry, hentry, hambiguous⟩ := List.exists_of_findSome?_eq_some hfound
    obtain ⟨argument, hargument, rfl⟩ := List.mem_map.mp hentry
    dsimp only at hambiguous
    split at hambiguous
    · rename_i hclassify
      exact absurd hclassify (hclear argument hargument _)
    · cases hambiguous
  · rfl

end CommandLine
end AbiDoc
