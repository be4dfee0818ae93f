import AbiDoc.Json.Parser
import AbiDoc.Json.Printer
import AbiDoc.Proofs.Outcome

/-!
# Strings in JSON text

What is written for a string reads back as that string.  Every character is written by its code
units, one or two, each of them escaped unless it is printable ASCII (`readUnits_escapedChar`), and
the units of a text are put together to the characters that they came from
(`joinUnits_codeUnits`).
-/

namespace AbiDoc
namespace Json

open Outcome

/-! ## Code units -/

theorem toNat_lt_or_lt_toNat (c : Char) :
    c.toNat < 0xd800 ∨ 0xdfff < c.toNat ∧ c.toNat < 0x110000 := by
  exact c.valid

theorem scalar_toNat (c : Char) : scalar c.toNat = c := by
  have hrange := toNat_lt_or_lt_toNat c
  rw [scalar, if_neg (by omega), Char.ofNat_toNat]

/-- A unit that is no first surrogate is a character of its own. -/
theorem joinUnits_cons {unit : Nat} (h : isHighSurrogate unit = false) (rest : List Nat) :
    joinUnits (unit :: rest) = scalar unit :: joinUnits rest := by
  cases rest with
  | nil => rfl
  | cons next rest => simp [joinUnits, h]

/-- The code units of a text are put together to its characters. -/
theorem joinUnits_codeUnits (text : List Char) : joinUnits (text.flatMap codeUnits) = text := by
  induction text with
  | nil => rfl
  | cons c rest ih =>
      have hrange := toNat_lt_or_lt_toNat c
      rw [List.flatMap_cons, codeUnits]
      split
      · rename_i hsmall
        have hhigh : isHighSurrogate c.toNat = false := by
          simp only [isHighSurrogate, Bool.and_eq_false_iff, decide_eq_false_iff_not]
          omega
        rw [List.singleton_append, joinUnits_cons hhigh, scalar_toNat, ih]
      · rename_i hlarge
        -- The two surrogates hold the ten higher and the ten lower bits of the distance.
        have hhigh : isHighSurrogate (0xd800 + (c.toNat - 0x10000) / 0x400) = true := by
          simp only [isHighSurrogate, Bool.and_eq_true, decide_eq_true_eq]
          omega
        have hlow : isLowSurrogate (0xdc00 + (c.toNat - 0x10000) % 0x400) = true := by
          simp only [isLowSurrogate, Bool.and_eq_true, decide_eq_true_eq]
          omega
        have hjoined : 0x10000 + (0xd800 + (c.toNat - 0x10000) / 0x400 - 0xd800) * 0x400 +
            (0xdc00 + (c.toNat - 0x10000) % 0x400 - 0xdc00) = c.toNat := by
          omega
        rw [List.cons_append, List.singleton_append, joinUnits, hhigh, hlow, hjoined,
          Char.ofNat_toNat, ih]
        rfl

theorem lt_of_mem_codeUnits {c : Char} {unit : Nat} (h : unit ∈ codeUnits c) :
    unit < 0x10000 := by
  have hrange := toNat_lt_or_lt_toNat c
  unfold codeUnits at h
  split at h
  · simp only [List.mem_singleton] at h
    omega
  · simp only [List.mem_cons, List.not_mem_nil, or_false] at h
    omega

/-! ## Characters -/

/-- Units in front of what a reader gives. -/
def withUnits (units : List Nat) (read : List Nat × List Char) : List Nat × List Char :=
  (units ++ read.1, read.2)

/-- A unit that is read before others stands in front of them. -/
theorem bind_unit (read : Except Failure (List Nat × List Char)) (unit : Nat) :
    (do let (units, after) ← read
        return (unit :: units, after)) = read.map (withUnits [unit]) := by
  cases read with
  | error failure => rfl
  | ok read => rfl

theorem map_withUnits_nil (read : Except Failure (List Nat × List Char)) :
    read.map (withUnits []) = read := by
  cases read with
  | error failure => rfl
  | ok read => rfl

theorem map_withUnits_cons (read : Except Failure (List Nat × List Char)) (unit : Nat)
    (units : List Nat) :
    (read.map (withUnits units)).map (withUnits [unit]) =
      read.map (withUnits (unit :: units)) := by
  cases read with
  | error failure => rfl
  | ok read => rfl

theorem readUnits_unitEscape (opening : List Char) {unit : Nat} (hunit : unit < 0x10000)
    {rest : List Char} (hrest : rest ≠ []) :
    readUnits opening (unitEscape unit ++ rest) =
      (readUnits opening rest).map (withUnits [unit]) := by
  have hread : Text.readHex? (Text.hexDigits 4 unit) = some unit :=
    Text.readHex?_hexDigits (by simpa using hunit)
  have hempty : rest.isEmpty = false := by simpa using hrest
  simp only [Text.hexDigits, List.nil_append, List.cons_append] at hread
  simp only [unitEscape, Text.hexDigits, List.nil_append, List.cons_append, readUnits, hread,
    hempty]
  exact bind_unit _ unit

theorem readUnits_unitEscapes (opening : List Char) {units : List Nat}
    (hunits : ∀ unit ∈ units, unit < 0x10000) {rest : List Char} (hrest : rest ≠ []) :
    readUnits opening (units.flatMap unitEscape ++ rest) =
      (readUnits opening rest).map (withUnits units) := by
  induction units with
  | nil => exact (map_withUnits_nil _).symm
  | cons unit units ih =>
      have hmore : units.flatMap unitEscape ++ rest ≠ [] := by simp [hrest]
      have hread := ih fun other hother => hunits other (by simp [hother])
      rw [List.flatMap_cons, List.append_assoc,
        readUnits_unitEscape opening (hunits unit (by simp)) hmore, hread, map_withUnits_cons]

/-- A character that is written as it is reads as its code point. -/
theorem readUnits_cons (opening : List Char) {c : Char} (hquote : c ≠ '"') (hescape : c ≠ '\\')
    (hcontrol : ' ' ≤ c) (rest : List Char) :
    readUnits opening (c :: rest) = (readUnits opening rest).map (withUnits [c.toNat]) := by
  rw [readUnits]
  · rw [if_neg (Char.not_lt.mpr hcontrol)]
    exact bind_unit _ c.toNat
  all_goals simp_all

/-- A character with an escape of its own reads as its code point. -/
theorem readUnits_shortEscape (opening : List Char) {c letter : Char}
    (h : (c, letter) ∈ shortEscapes) (rest : List Char) :
    readUnits opening ('\\' :: letter :: rest) =
      (readUnits opening rest).map (withUnits [c.toNat]) := by
  have hletters : ∀ entry ∈ shortEscapes, entry.2 ≠ 'u' ∧ unescaped? entry.2 = some entry.1 := by
    decide
  obtain ⟨hunicode, hunescaped⟩ := hletters _ h
  rw [readUnits]
  · simp only [hunescaped]
    exact bind_unit _ c.toNat
  all_goals simp_all

/-- A written character reads as its code units. -/
theorem readUnits_escapedChar (opening : List Char) (c : Char) {rest : List Char}
    (hrest : rest ≠ []) :
    readUnits opening (escapedChar c ++ rest) =
      (readUnits opening rest).map (withUnits (codeUnits c)) := by
  unfold escapedChar
  split
  · rename_i letter hfound
    have hsmall : ∀ entry ∈ shortEscapes, entry.1.toNat < 0x10000 := by decide
    have hescape := Assoc.mem_of_find? hfound
    rw [codeUnits, if_pos (hsmall _ hescape)]
    exact readUnits_shortEscape opening hescape rest
  · rename_i hnone
    split
    · rename_i hplain
      have hquote : c ≠ '"' := by
        rintro rfl
        simp [shortEscapes, Assoc.find?] at hnone
      have hescape : c ≠ '\\' := by
        rintro rfl
        simp [shortEscapes, Assoc.find?] at hnone
      have hsmall : c.toNat < 0x10000 := Nat.lt_of_le_of_lt hplain.2 (by decide)
      rw [List.singleton_append, readUnits_cons opening hquote hescape hplain.1, codeUnits,
        if_pos hsmall]
    · exact readUnits_unitEscapes opening (fun unit => lt_of_mem_codeUnits) hrest

/-! ## Strings -/

theorem readUnits_flatMap (opening text rest : List Char) :
    readUnits opening (text.flatMap escapedChar ++ '"' :: rest) =
      .ok (text.flatMap codeUnits, rest) := by
  induction text with
  | nil => rfl
  | cons c text ih =>
      have hmore : text.flatMap escapedChar ++ '"' :: rest ≠ [] := by simp
      rw [List.flatMap_cons, List.append_assoc, readUnits_escapedChar opening c hmore, ih]
      rfl

/-- What is written for a string, behind its opening quote, reads back. -/
theorem readString_renderString (s : String) (rest : List Char) :
    readString (s.toList.flatMap escapedChar ++ '"' :: rest) = .ok (s, rest) := by
  rw [readString, readUnits_flatMap, ok_bind]
  dsimp only
  rw [joinUnits_codeUnits, String.ofList_toList]
  rfl

/-! ## Printable characters -/

/-- Printable ASCII, from the blank to the tilde. -/
def IsPlain (c : Char) : Prop := ' ' ≤ c ∧ c ≤ '~'

instance : DecidablePred IsPlain := fun _ => inferInstanceAs (Decidable (_ ∧ _))

theorem isPlain_of_all {chars : List Char} (h : chars.all (fun c => decide (IsPlain c)) = true) :
    ∀ c ∈ chars, IsPlain c := by
  intro c hc
  exact of_decide_eq_true (List.all_eq_true.mp h c hc)

theorem isPlain_hexDigit {value : Nat} (h : value < 16) : IsPlain (Text.hexDigit value) := by
  have all : ∀ digit : Fin 16, IsPlain (Text.hexDigit digit.val) := by decide
  exact all ⟨value, h⟩

theorem isPlain_of_mem_hexDigits {count value : Nat} {c : Char}
    (h : c ∈ Text.hexDigits count value) : IsPlain c := by
  induction count generalizing value with
  | zero => simp [Text.hexDigits] at h
  | succ count ih =>
      rcases List.mem_append.mp h with h | h
      · exact ih h
      · obtain rfl := List.mem_singleton.mp h
        exact isPlain_hexDigit (Nat.mod_lt value (by decide))

theorem isPlain_of_mem_unitEscape {unit : Nat} {c : Char} (h : c ∈ unitEscape unit) :
    IsPlain c := by
  simp only [unitEscape, List.mem_cons] at h
  rcases h with rfl | rfl | h
  · decide
  · decide
  · exact isPlain_of_mem_hexDigits h

theorem isPlain_of_mem_escapedChar {c written : Char} (h : written ∈ escapedChar c) :
    IsPlain written := by
  unfold escapedChar at h
  split at h
  · rename_i letter hfound
    have hletters : ∀ entry ∈ shortEscapes, IsPlain entry.2 := by decide
    simp only [List.mem_cons, List.not_mem_nil, or_false] at h
    rcases h with rfl | rfl
    · decide
    · exact hletters _ (Assoc.mem_of_find? hfound)
  · split at h
    · rename_i hplain
      obtain rfl := List.mem_singleton.mp h
      exact hplain
    · obtain ⟨unit, -, hunit⟩ := List.mem_flatMap.mp h
      exact isPlain_of_mem_unitEscape hunit

/-- A string is written in printable ASCII. -/
theorem isPlain_of_mem_renderString {s : String} {c : Char} (h : c ∈ renderString s) :
    IsPlain c := by
  rw [renderString, List.cons_append, List.mem_cons, List.mem_append, List.mem_singleton] at h
  rcases h with rfl | h | rfl
  · decide
  · obtain ⟨source, -, hsource⟩ := List.mem_flatMap.mp h
    exact isPlain_of_mem_escapedChar hsource
  · decide

end Json
end AbiDoc
