import AbiDoc.Proofs.JsonLayout
import Mathlib.Data.List.TakeWhile

/-!
# Values in JSON text

What is written for a value reads back as that value, members in their order, whatever the layout,
on every machine with room for the arrays and objects that are open at once (`parse_render`).  Every
reader is followed on the text of a value with any text behind it that cannot be the rest of a
number (`ReadsBack`).  Left out are values with numbers that are rounded or refused on reading, and
objects with one key twice (`IsExact`).
-/

namespace AbiDoc
namespace Json

open Outcome

/-! ## Numbers -/

theorem ne_of_isDigit {c other : Char} (h : c.isDigit = true) (hother : other.isDigit = false) :
    c ≠ other := by
  rintro rfl
  rw [h] at hother
  cases hother

/-- A text that cannot be the rest of a number. -/
def EndsNumber (text : List Char) : Prop :=
  ∀ c ∈ text.head?, c.isDigit = false ∧ c ≠ '.' ∧ c ≠ 'e' ∧ c ≠ 'E'

theorem endsNumber_cons {c : Char} {text : List Char}
    (h : c.isDigit = false ∧ c ≠ '.' ∧ c ≠ 'e' ∧ c ≠ 'E') : EndsNumber (c :: text) := by
  intro first hfirst
  obtain rfl := Option.some.inj hfirst
  exact h

/-- Digits are taken up to the end of the number. -/
theorem takeWhile_isDigit_append {digits rest : List Char}
    (hdigits : ∀ c ∈ digits, c.isDigit = true) (hrest : EndsNumber rest) :
    (digits ++ rest).takeWhile Char.isDigit = digits ∧
      (digits ++ rest).dropWhile Char.isDigit = rest := by
  rw [List.takeWhile_append_of_pos hdigits, List.dropWhile_append_of_pos hdigits]
  cases rest with
  | nil => simp
  | cons c rest => simp [(hrest c rfl).1]

/-- A number is written with a digit in front, and this is no zero but for the number zero. -/
theorem exists_toDigits_eq_cons (n : Nat) :
    ∃ first rest, Nat.toDigits 10 n = first :: rest ∧ (0 < n → first ≠ '0') ∧
      ∀ c ∈ first :: rest, c.isDigit = true := by
  have hmem : ∀ c ∈ Nat.toDigits 10 n, c.isDigit = true := by
    intro c hc
    exact Nat.isDigit_of_mem_toDigits (by decide) (by decide) hc
  suffices h : ∃ first rest, Nat.toDigits 10 n = first :: rest ∧ (0 < n → first ≠ '0') by
    obtain ⟨first, rest, hdigits, hfirst⟩ := h
    exact ⟨first, rest, hdigits, hfirst, hdigits ▸ hmem⟩
  clear hmem
  induction n using Nat.strongRecOn with
  | ind n ih =>
      rw [Nat.toDigits_eq_if (by decide)]
      split
      · rename_i hsmall
        have hdigits : ∀ digit : Fin 10, 0 < digit.val → Nat.digitChar digit.val ≠ '0' := by decide
        exact ⟨_, _, rfl, hdigits ⟨n, hsmall⟩⟩
      · rename_i hlarge
        -- The first digit is that of the number without its last digit.
        obtain ⟨first, rest, hdigits, hfirst⟩ := ih (n / 10) (by omega)
        refine ⟨first, rest ++ [(n % 10).digitChar], by rw [hdigits, List.cons_append], ?_⟩
        intro _
        exact hfirst (by omega)

theorem readIntegerPart_toDigits (n : Nat) {rest : List Char} (hrest : EndsNumber rest) :
    readIntegerPart (Nat.toDigits 10 n ++ rest) = some (Nat.toDigits 10 n, rest) := by
  rcases Nat.eq_zero_or_pos n with rfl | hpos
  · rfl
  · obtain ⟨first, digits, hdigits, hfirst, hmem⟩ := exists_toDigits_eq_cons n
    have hmore : ∀ c ∈ digits, c.isDigit = true := fun c hc => hmem c (by simp [hc])
    have htaken := takeWhile_isDigit_append hmore hrest
    rw [hdigits, List.cons_append, readIntegerPart, if_pos (hmem first (by simp)), htaken.1,
      htaken.2]
    intro hzero
    exact absurd hzero (hfirst hpos)

theorem natOfDigits_toDigits (n : Nat) : natOfDigits (Nat.toDigits 10 n) = n := by
  rw [natOfDigits, Text.ofDigits, List.foldl_map]
  exact Nat.ofDigitChars_toDigits (by decide) (by decide)

theorem readFraction_of_endsNumber {rest : List Char} (h : EndsNumber rest) :
    readFraction rest = ([], rest) := by
  unfold readFraction
  split
  · exact absurd rfl (h '.' rfl).2.1
  · rfl

theorem readExponent_of_endsNumber {rest : List Char} (h : EndsNumber rest) :
    readExponent rest = (none, rest) := by
  cases rest with
  | nil => rfl
  | cons c rest =>
      obtain ⟨-, -, hlower, hupper⟩ := h c rfl
      simp [readExponent, hlower, hupper]

/-- The digits of a number read back as that number, with the sign that was read before them. -/
theorem readNumber_toDigits (negative : Bool) (start : List Char) {n : Nat}
    (hdigits : (Nat.toDigits 10 n).length ≤ Text.digitLimit) {rest : List Char}
    (hrest : EndsNumber rest) :
    readNumber negative start (Nat.toDigits 10 n ++ rest) =
      .ok (.int (if negative then -(n : Int) else n), rest) := by
  simp only [readNumber, readIntegerPart_toDigits n hrest, readFraction_of_endsNumber hrest,
    readExponent_of_endsNumber hrest, if_neg (Nat.not_lt.mpr hdigits), natOfDigits_toDigits]

/-! ## Blanks -/

/-- Blanks are passed over up to the first other character. -/
theorem skipSpace_append {blanks text : List Char} (hblanks : ∀ c ∈ blanks, isSpace c = true)
    (htext : ∀ c ∈ text.head?, isSpace c = false) : skipSpace (blanks ++ text) = text := by
  rw [skipSpace, List.dropWhile_append_of_pos hblanks]
  cases text with
  | nil => rfl
  | cons c text => rw [List.dropWhile_cons_of_neg (by simp [htext c rfl])]

theorem isSpace_of_mem_margin (layout : Layout) (depth : Nat) :
    ∀ c ∈ layout.margin depth, isSpace c = true := by
  intro c hc
  cases layout with
  | inline => simp [Layout.margin] at hc
  | lines width =>
      rcases List.mem_cons.mp hc with rfl | hc
      · rfl
      · rw [List.eq_of_mem_replicate hc]
        rfl

/-- What stands between two items is a comma with blanks after it. -/
theorem exists_separator_eq_cons (layout : Layout) (depth : Nat) :
    ∃ blanks, layout.separator depth = ',' :: blanks ∧ ∀ c ∈ blanks, isSpace c = true := by
  cases layout with
  | inline => exact ⟨[' '], rfl, by simp [isSpace]⟩
  | lines width => exact ⟨_, rfl, isSpace_of_mem_margin _ depth⟩

/-- Blanks and a closing bracket end a number. -/
theorem endsNumber_append {blanks : List Char} (hblanks : ∀ c ∈ blanks, isSpace c = true)
    {closing : Char} (hclosing : closing = ']' ∨ closing = '\x7d') (rest : List Char) :
    EndsNumber (blanks ++ closing :: rest) := by
  cases blanks with
  | nil =>
      rcases hclosing with rfl | rfl
      · exact endsNumber_cons (by decide)
      · exact endsNumber_cons (by decide)
  | cons c blanks =>
      have hspace := hblanks c (by simp)
      simp only [isSpace, Bool.or_eq_true, decide_eq_true_eq] at hspace
      rcases hspace with ((rfl | rfl) | rfl) | rfl
      all_goals exact endsNumber_cons (by decide)

/-- The text starts with a character that is neither blank nor closes anything. -/
def StartsToken (text : List Char) : Prop :=
  ∃ first more, text = first :: more ∧ isSpace first = false ∧ first ≠ ']' ∧ first ≠ '\x7d'

theorem StartsToken.head_append {text : List Char} (h : StartsToken text) (tail : List Char) :
    ∀ c ∈ (text ++ tail).head?, isSpace c = false ∧ c ≠ ']' ∧ c ≠ '\x7d' := by
  obtain ⟨first, more, rfl, hfirst⟩ := h
  intro c hc
  obtain rfl := Option.some.inj hc
  exact hfirst

theorem StartsToken.skipSpace_append {text : List Char} (h : StartsToken text)
    {blanks : List Char} (hblanks : ∀ c ∈ blanks, isSpace c = true) (tail : List Char) :
    skipSpace (blanks ++ (text ++ tail)) = text ++ tail :=
  Json.skipSpace_append hblanks fun c hc => (h.head_append tail c hc).1

theorem startsToken_renderAt (layout : Layout) (depth : Nat) {value : Json}
    (h : value.IsExact) : StartsToken (renderAt layout depth value) := by
  cases h with
  | null => exact ⟨_, _, rfl, by decide⟩
  | bool b =>
      cases b with
      | true => exact ⟨_, _, rfl, by decide⟩
      | false => exact ⟨_, _, rfl, by decide⟩
  | @int n _ =>
      rw [renderAt, renderInt]
      split
      · exact ⟨_, _, rfl, by decide⟩
      · obtain ⟨c, more, htext, -, hdigits⟩ := exists_toDigits_eq_cons n.natAbs
        have hc : c.isDigit = true := hdigits c (by simp)
        refine ⟨c, more, htext, ?_, ne_of_isDigit hc rfl, ne_of_isDigit hc rfl⟩
        simp [isSpace, ne_of_isDigit hc]
  | str s => exact ⟨_, _, rfl, by decide⟩
  | @arr items _ =>
      cases items with
      | nil => exact ⟨_, _, rfl, by decide⟩
      | cons item rest => exact ⟨_, _, rfl, by decide⟩
  | @obj members _ _ =>
      cases members with
      | nil => exact ⟨_, _, rfl, by decide⟩
      | cons member rest => exact ⟨_, _, rfl, by decide⟩

theorem startsToken_memberText (layout : Layout) (depth : Nat) (member : String × Json) :
    StartsToken (memberText layout depth member) :=
  ⟨'"', _, rfl, by decide⟩

/-! ## Leaves -/

/-- With `room` for brackets, a value reads back from its text, whatever follows that cannot be the
rest of a number. -/
def ReadsBack (layout : Layout) (room : Nat) (value : Json) : Prop :=
  ∀ (depth fuel : Nat) (rest : List Char), EndsNumber rest →
    2 * (renderAt layout depth value).length ≤ fuel →
    readValue fuel room (renderAt layout depth value ++ rest) = .ok (value, rest)

/-- One call is enough to read a value without values inside. -/
theorem readsBack_of_succ {layout : Layout} {room : Nat} {value : Json} (hexact : value.IsExact)
    (h : ∀ (depth fuel : Nat) (rest : List Char), EndsNumber rest →
      readValue (fuel + 1) room (renderAt layout depth value ++ rest) = .ok (value, rest)) :
    ReadsBack layout room value := by
  intro depth fuel rest hrest hfuel
  obtain ⟨first, more, htext, -⟩ := startsToken_renderAt layout depth hexact
  rw [htext, List.length_cons] at hfuel
  obtain ⟨fuel, rfl⟩ := Nat.exists_eq_succ_of_ne_zero (by omega : fuel ≠ 0)
  exact h depth fuel rest hrest

theorem readsBack_null (layout : Layout) (room : Nat) : ReadsBack layout room .null := by
  refine readsBack_of_succ .null fun depth fuel rest _ => ?_
  simp [renderAt, readValue, readConstant?, constants, List.isPrefixOf]

theorem readsBack_bool (layout : Layout) (room : Nat) (b : Bool) :
    ReadsBack layout room (.bool b) := by
  refine readsBack_of_succ (.bool b) fun depth fuel rest _ => ?_
  cases b with
  | true => simp [renderAt, readValue, readConstant?, constants, List.isPrefixOf]
  | false => simp [renderAt, readValue, readConstant?, constants, List.isPrefixOf]

theorem readsBack_str (layout : Layout) (room : Nat) (s : String) :
    ReadsBack layout room (.str s) := by
  refine readsBack_of_succ (.str s) fun depth fuel rest _ => ?_
  rw [renderAt, renderString, List.cons_append, List.cons_append, List.append_assoc,
    List.singleton_append, readValue, readString_renderString]
  rfl

/-- What starts with a digit is a number, with or without a sign in front. -/
theorem readValue_of_isDigit {c : Char} (h : c.isDigit = true) (fuel room : Nat)
    (text : List Char) :
    readValue (fuel + 1) room (c :: text) = readNumber false (c :: text) (c :: text) ∧
      readValue (fuel + 1) room ('-' :: c :: text) =
        readNumber true ('-' :: c :: text) (c :: text) := by
  have hother : ∀ other : Char, other.isDigit = false → other ≠ c :=
    fun other hother => (ne_of_isDigit h hother).symm
  have hplain : readConstant? (c :: text) = none := by
    simp [readConstant?, constants, List.isPrefixOf, hother]
  have hsigned : readConstant? ('-' :: c :: text) = none := by
    simp [readConstant?, constants, List.isPrefixOf, hother]
  constructor
  · rw [readValue]
    · simp only [hplain]
    all_goals
      intro rest heq
      exact absurd (List.cons.inj heq).1 (ne_of_isDigit h rfl)
  · rw [readValue]
    simp only [hsigned]

theorem readsBack_int (layout : Layout) (room : Nat) {n : Int}
    (hdigits : (Nat.toDigits 10 n.natAbs).length ≤ Text.digitLimit) :
    ReadsBack layout room (.int n) := by
  refine readsBack_of_succ (.int hdigits) fun depth fuel rest hrest => ?_
  obtain ⟨c, more, htext, -, hmem⟩ := exists_toDigits_eq_cons n.natAbs
  obtain ⟨hplain, hsigned⟩ := readValue_of_isDigit (hmem c (by simp)) fuel room
    (more ++ rest)
  rw [← List.cons_append, ← htext] at hplain hsigned
  rw [renderAt, renderInt]
  split
  · rename_i hneg
    have hn : -(n.natAbs : Int) = n := by omega
    rw [List.singleton_append, List.cons_append, hsigned, readNumber_toDigits true _ hdigits hrest,
      if_pos rfl, hn]
  · rename_i hneg
    have hn : (n.natAbs : Int) = n := by omega
    rw [List.nil_append, hplain, readNumber_toDigits false _ hdigits hrest,
      if_neg Bool.false_ne_true, hn]

/-! ## Rows and brackets -/

section Rows

variable (layout : Layout) (depth : Nat) (texts : List (List Char))

theorem length_rows_cons_lt (text : List Char) :
    text.length + (rows layout depth texts).length <
      (rows layout depth (text :: texts)).length := by
  obtain ⟨spacing, hseparator, -⟩ := exists_separator_eq_cons layout depth
  simp only [rows, List.flatMap_cons, hseparator, List.length_append, List.length_cons]
  omega

/-- Behind the comma in front of a further text stands that text after some blanks. -/
theorem exists_rows_cons_append {text : List Char} (h : StartsToken text) (tail : List Char) :
    ∃ after, rows layout depth (text :: texts) ++ tail = ',' :: after ∧
      skipSpace after = text ++ (rows layout depth texts ++ tail) := by
  obtain ⟨spacing, hseparator, hspacing⟩ := exists_separator_eq_cons layout depth
  exact ⟨_, by simp [rows, hseparator], h.skipSpace_append hspacing _⟩

/-- Behind the opening bracket stands the first text after some blanks. -/
theorem exists_bracketed_append (opening closing : Char) {first : List Char}
    (h : StartsToken first) (rest : List Char) :
    ∃ inside, bracketed layout depth opening closing first texts ++ rest = opening :: inside ∧
      skipSpace inside = first ++
        (rows layout (depth + 1) texts ++ (layout.margin depth ++ closing :: rest)) := by
  have hmargin := isSpace_of_mem_margin layout (depth + 1)
  exact ⟨_, by simp [bracketed], h.skipSpace_append hmargin _⟩

theorem lt_of_length_bracketed {opening closing : Char} {first : List Char} {fuel : Nat}
    (h : 2 * (bracketed layout depth opening closing first texts).length ≤ fuel) :
    2 * (first.length + (rows layout (depth + 1) texts).length) + 1 < fuel := by
  simp only [bracketed, List.length_cons, List.length_append, List.length_nil] at h
  omega

/-- What follows an item or a member is the next one or the closing bracket. -/
theorem endsNumber_rows {blanks : List Char} (hblanks : ∀ c ∈ blanks, isSpace c = true)
    {closing : Char} (hclosing : closing = ']' ∨ closing = '\x7d') (rest : List Char) :
    EndsNumber (rows layout depth texts ++ (blanks ++ closing :: rest)) := by
  cases texts with
  | nil => exact endsNumber_append hblanks hclosing rest
  | cons text texts =>
      obtain ⟨_, hseparator, -⟩ := exists_separator_eq_cons layout depth
      rw [rows, List.flatMap_cons, hseparator]
      exact endsNumber_cons (by decide)

end Rows

section Nested

variable {layout : Layout} {depth room : Nat}

/-! ## Arrays -/

/-- An array with something in it reads as its items. -/
theorem readValue_bracket (fuel : Nat) {text first tail : List Char} (hstart : StartsToken first)
    (hskip : skipSpace text = first ++ tail) :
    readValue (fuel + 1) (room + 1) ('[' :: text) = do
      let (items, after) ← readItems fuel room (first ++ tail)
      return (.arr items, after) := by
  have hopen := hstart.head_append tail
  rw [readValue, hskip]
  split
  · rename_i heq
    exact absurd rfl (hopen ']' (by rw [heq]; rfl)).2.1
  · rfl

/-- An item in front of a comma reads as that item, and what comes after as further ones. -/
theorem readItems_cons {item : Json} {text after tail : List Char} {fuel : Nat}
    (hread : readValue fuel room text = .ok (item, ',' :: after)) (hskip : skipSpace after = tail) :
    readItems (fuel + 1) room text = do
      let (items, rest) ← readItems fuel room tail
      return (item :: items, rest) := by
  rw [readItems, hread, ← hskip]
  rfl

/-- The items of an array read back when each of them does. -/
theorem readItems_rows {item : Json} {more : List Json} (hitem : ReadsBack layout room item)
    (hmore : ∀ other ∈ more, other.IsExact ∧ ReadsBack layout room other) {blanks : List Char}
    (hblanks : ∀ c ∈ blanks, isSpace c = true) (rest : List Char) {fuel : Nat}
    (hfuel : 2 * ((renderAt layout depth item).length +
      (rows layout depth (more.map (renderAt layout depth))).length) < fuel) :
    readItems fuel room (renderAt layout depth item ++
        (rows layout depth (more.map (renderAt layout depth)) ++ (blanks ++ ']' :: rest))) =
      .ok (item :: more, rest) := by
  induction more generalizing item fuel with
  | nil =>
      obtain ⟨fuel, rfl⟩ := Nat.exists_eq_succ_of_ne_zero (by omega : fuel ≠ 0)
      have hends := endsNumber_rows layout depth [] hblanks (Or.inl rfl) rest
      have hclosed : skipSpace (blanks ++ ']' :: rest) = ']' :: rest :=
        skipSpace_append hblanks (by simp [isSpace])
      rw [List.map_nil, readItems, hitem depth fuel _ hends (by omega), ok_bind]
      simp only [rows, List.flatMap_nil, List.nil_append, hclosed]
      rfl
  | cons next more ih =>
      obtain ⟨fuel, rfl⟩ := Nat.exists_eq_succ_of_ne_zero (by omega : fuel ≠ 0)
      obtain ⟨hexact, hnext⟩ := hmore next (by simp)
      obtain ⟨after, htail, hskip⟩ := exists_rows_cons_append layout depth
        (more.map (renderAt layout depth)) (startsToken_renderAt layout depth hexact)
        (blanks ++ ']' :: rest)
      have hends := endsNumber_rows layout depth ((next :: more).map (renderAt layout depth))
        hblanks (Or.inl rfl) rest
      rw [List.map_cons] at hfuel hends ⊢
      -- The item takes one call, and at least a comma goes with it, so the fuel lasts.
      have hlength := length_rows_cons_lt layout depth (more.map (renderAt layout depth))
        (renderAt layout depth next)
      have hread := hitem depth fuel _ hends (by omega)
      rw [htail] at hread ⊢
      have hless : 2 * ((renderAt layout depth next).length +
          (rows layout depth (more.map (renderAt layout depth))).length) < fuel := by omega
      have hothers := ih hnext (fun other hother => hmore other (by simp [hother])) hless
      rw [readItems_cons hread hskip, hothers]
      rfl

theorem readsBack_arr {items : List Json}
    (hitems : ∀ item ∈ items, item.IsExact ∧ ReadsBack layout room item) :
    ReadsBack layout (room + 1) (.arr items) := by
  cases items with
  | nil => exact readsBack_of_succ (.arr (by simp)) fun _ _ _ _ => rfl
  | cons item more =>
      intro depth fuel rest _ hfuel
      rw [renderAt_arr_cons] at hfuel ⊢
      have hlength := lt_of_length_bracketed layout depth _ hfuel
      obtain ⟨fuel, rfl⟩ := Nat.exists_eq_succ_of_ne_zero (by omega : fuel ≠ 0)
      obtain ⟨hexact, hitem⟩ := hitems item (by simp)
      have hstart := startsToken_renderAt layout (depth + 1) hexact
      have hmore : ∀ other ∈ more, other.IsExact ∧ ReadsBack layout room other :=
        fun other hother => hitems other (by simp [hother])
      have hread := readItems_rows hitem hmore (isSpace_of_mem_margin layout depth) rest
        (Nat.lt_of_succ_lt_succ hlength)
      obtain ⟨inside, hinside, hskip⟩ := exists_bracketed_append layout depth
        (more.map (renderAt layout (depth + 1))) '[' ']' hstart rest
      rw [hinside, readValue_bracket fuel hstart hskip, hread]
      rfl

/-! ## Objects -/

/-- An object with something in it reads as its members. -/
theorem readValue_brace (fuel : Nat) {text first tail : List Char} (hstart : StartsToken first)
    (hskip : skipSpace text = first ++ tail) :
    readValue (fuel + 1) (room + 1) ('\x7b' :: text) = do
      let (members, after) ← readMembers fuel room (first ++ tail)
      return (.obj (Assoc.ofList members), after) := by
  have hopen := hstart.head_append tail
  rw [readValue, hskip]
  split
  · rename_i heq
    exact absurd rfl (hopen '\x7d' (by rw [heq]; rfl)).2.2
  · rfl

/-- The first of some members reads as its key with its value; a closing brace ends the members
and a comma stands in front of further ones. -/
theorem readMembers_memberText {member : String × Json}
    (hmember : member.2.IsExact ∧ ReadsBack layout room member.2) {fuel : Nat}
    (hfuel : 2 * (memberText layout depth member).length ≤ fuel) {after : List Char}
    (hafter : EndsNumber after) :
    readMembers (fuel + 1) room (memberText layout depth member ++ after) =
      match skipSpace after with
      | '\x7d' :: rest => .ok ([member], rest)
      | ',' :: rest => do
        let (members, rest) ← readMembers fuel room (skipSpace rest)
        return (member :: members, rest)
      | rest => .error ⟨.expectedComma, rest⟩ := by
  obtain ⟨key, value⟩ := member
  obtain ⟨hexact, hvalue⟩ := hmember
  have hblank : ∀ c ∈ [' '], isSpace c = true := by simp [isSpace]
  have hskip : skipSpace (' ' :: (renderAt layout depth value ++ after)) =
      renderAt layout depth value ++ after :=
    (startsToken_renderAt layout depth hexact).skipSpace_append hblank after
  have hlength : (renderAt layout depth value).length ≤
      (memberText layout depth (key, value)).length := by
    simp only [memberText, List.length_append, List.length_cons]
    omega
  have hread := hvalue depth fuel after hafter (by dsimp only; omega)
  simp only [memberText, renderString, List.cons_append, List.append_assoc, List.nil_append]
  rw [readMembers, readString_renderString, ok_bind]
  change (readValue fuel room (skipSpace _) >>= _) = _
  rw [hskip, hread, ok_bind]
  rfl

/-- The members of an object read back when the value of each does. -/
theorem readMembers_rows {member : String × Json} {more : List (String × Json)}
    (hmember : member.2.IsExact ∧ ReadsBack layout room member.2)
    (hmore : ∀ other ∈ more, other.2.IsExact ∧ ReadsBack layout room other.2) {blanks : List Char}
    (hblanks : ∀ c ∈ blanks, isSpace c = true) (rest : List Char) {fuel : Nat}
    (hfuel : 2 * ((memberText layout depth member).length +
      (rows layout depth (more.map (memberText layout depth))).length) < fuel) :
    readMembers fuel room (memberText layout depth member ++
        (rows layout depth (more.map (memberText layout depth)) ++ (blanks ++ '\x7d' :: rest))) =
      .ok (member :: more, rest) := by
  induction more generalizing member fuel with
  | nil =>
      obtain ⟨fuel, rfl⟩ := Nat.exists_eq_succ_of_ne_zero (by omega : fuel ≠ 0)
      have hends := endsNumber_rows layout depth [] hblanks (Or.inr rfl) rest
      have hclosed : skipSpace (blanks ++ '\x7d' :: rest) = '\x7d' :: rest :=
        skipSpace_append hblanks (by simp [isSpace])
      rw [List.map_nil, readMembers_memberText hmember (by omega) hends]
      simp only [rows, List.flatMap_nil, List.nil_append, hclosed]
  | cons next more ih =>
      obtain ⟨fuel, rfl⟩ := Nat.exists_eq_succ_of_ne_zero (by omega : fuel ≠ 0)
      obtain ⟨after, htail, hskip⟩ := exists_rows_cons_append layout depth
        (more.map (memberText layout depth)) (startsToken_memberText layout depth next)
        (blanks ++ '\x7d' :: rest)
      have hends := endsNumber_rows layout depth ((next :: more).map (memberText layout depth))
        hblanks (Or.inr rfl) rest
      rw [List.map_cons] at hfuel hends ⊢
      have hlength := length_rows_cons_lt layout depth (more.map (memberText layout depth))
        (memberText layout depth next)
      have hcomma : skipSpace (',' :: after) = ',' :: after := by simp [skipSpace, isSpace]
      have hless : 2 * ((memberText layout depth next).length +
          (rows layout depth (more.map (memberText layout depth))).length) < fuel := by omega
      have hothers := ih (hmore next (by simp))
        (fun other hother => hmore other (by simp [hother])) hless
      rw [readMembers_memberText hmember (by omega) hends, htail, hcomma]
      simp only [hskip, hothers, ok_bind]
      rfl

theorem readsBack_obj {members : List (String × Json)} (hkeys : (Assoc.keys members).Nodup)
    (hmembers : ∀ member ∈ members, member.2.IsExact ∧ ReadsBack layout room member.2) :
    ReadsBack layout (room + 1) (.obj members) := by
  cases members with
  | nil => exact readsBack_of_succ (.obj hkeys (by simp)) fun _ _ _ _ => rfl
  | cons member more =>
      intro depth fuel rest _ hfuel
      rw [renderAt_obj_cons] at hfuel ⊢
      have hlength := lt_of_length_bracketed layout depth _ hfuel
      obtain ⟨fuel, rfl⟩ := Nat.exists_eq_succ_of_ne_zero (by omega : fuel ≠ 0)
      have hstart := startsToken_memberText layout (depth + 1) member
      have hmore : ∀ other ∈ more, other.2.IsExact ∧ ReadsBack layout room other.2 :=
        fun other hother => hmembers other (by simp [hother])
      have hread := readMembers_rows (hmembers member (by simp)) hmore
        (isSpace_of_mem_margin layout depth) rest (Nat.lt_of_succ_lt_succ hlength)
      obtain ⟨inside, hinside, hskip⟩ := exists_bracketed_append layout depth
        (more.map (memberText layout (depth + 1))) '\x7b' '\x7d' hstart rest
      rw [hinside, readValue_brace fuel hstart hskip, hread, ok_bind]
      simp only [Assoc.ofList_of_nodup hkeys]
      rfl

end Nested

/-! ## Nesting -/

mutual

/-- The arrays and objects in a value that are inside of one another, at most. -/
def nesting : Json → Nat
  | .arr items => itemsNesting items + 1
  | .obj members => membersNesting members + 1
  | _ => 0
termination_by structural value => value

/-- The nesting of the item that nests deepest. -/
def itemsNesting : List Json → Nat
  | [] => 0
  | item :: rest => max (nesting item) (itemsNesting rest)
termination_by structural items => items

/-- The nesting of the member that nests deepest. -/
def membersNesting : List (String × Json) → Nat
  | [] => 0
  | (_, value) :: rest => max (nesting value) (membersNesting rest)
termination_by structural members => members

end

theorem nesting_le_of_mem {items : List Json} {item : Json} (h : item ∈ items) :
    item.nesting ≤ itemsNesting items := by
  induction items with
  | nil => cases h
  | cons first rest ih =>
      rw [itemsNesting]
      rcases List.mem_cons.mp h with rfl | h
      · exact Nat.le_max_left _ _
      · exact (ih h).trans (Nat.le_max_right _ _)

theorem nesting_le_of_mem_members {members : List (String × Json)} {member : String × Json}
    (h : member ∈ members) : member.2.nesting ≤ membersNesting members := by
  induction members with
  | nil => cases h
  | cons first rest ih =>
      rw [membersNesting]
      rcases List.mem_cons.mp h with rfl | h
      · exact Nat.le_max_left _ _
      · exact (ih h).trans (Nat.le_max_right _ _)

/-! ## Whole texts -/

/-- Every exact value reads back from its text when there is room for what is open in it. -/
theorem IsExact.readsBack {value : Json} (h : value.IsExact) (layout : Layout) {room : Nat}
    (hroom : value.nesting ≤ room) : ReadsBack layout room value := by
  induction h generalizing room with
  | null => exact readsBack_null layout room
  | bool b => exact readsBack_bool layout room b
  | int hdigits => exact readsBack_int layout room hdigits
  | str s => exact readsBack_str layout room s
  | arr hitems ih =>
      rw [nesting] at hroom
      obtain ⟨room, rfl⟩ := Nat.exists_eq_succ_of_ne_zero (by omega : room ≠ 0)
      refine readsBack_arr fun item hitem => ⟨hitems item hitem, ih item hitem ?_⟩
      exact (nesting_le_of_mem hitem).trans (Nat.le_of_succ_le_succ hroom)
  | obj hkeys hmembers ih =>
      rw [nesting] at hroom
      obtain ⟨room, rfl⟩ := Nat.exists_eq_succ_of_ne_zero (by omega : room ≠ 0)
      refine readsBack_obj hkeys fun member hmember =>
        ⟨hmembers member hmember, ih member hmember ?_⟩
      exact (nesting_le_of_mem_members hmember).trans (Nat.le_of_succ_le_succ hroom)

/-- What is written for an exact value reads as that value, on every machine with room for what is
open in it. -/
theorem parse_render [Machine] {value : Json} (h : value.IsExact)
    (hroom : value.nesting ≤ Machine.maxNesting) (layout : Layout) :
    parse (value.render layout) = .ok value := by
  have hread := h.readsBack layout hroom 0 (2 * (renderAt layout 0 value).length + 2) []
    (by simp [EndsNumber]) (by omega)
  have hstart : skipSpace ([] ++ (renderAt layout 0 value ++ [])) = renderAt layout 0 value ++ [] :=
    (startsToken_renderAt layout 0 h).skipSpace_append (by simp) []
  rw [parse, render, String.toList_ofList, readDocument]
  · rw [List.append_nil] at hread hstart
    rw [List.nil_append] at hstart
    rw [hstart, hread]
    rfl
  -- A text in which a byte order mark leads is refused, but none is written.
  · intro rest heq
    have hmark := h.isTextChar layout 0 '\ufeff' (by rw [heq]; simp)
    exact absurd hmark (by decide)

end Json
end AbiDoc
