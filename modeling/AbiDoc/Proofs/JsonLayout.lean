import AbiDoc.Proofs.OrderedMapping
import AbiDoc.Proofs.StringText

/-!
# The layout of JSON text

What the text of a value is made of: texts in rows, between brackets, with the margins of the layout
between them (`renderAt_arr_cons`, `renderAt_obj_cons`).  The text is printable ASCII but for the
line ends of the layout (`IsExact.isTextChar`), of which there is one before every item and member
and one before every closing bracket that has something to close (`IsExact.count_renderAt`).
-/

namespace AbiDoc
namespace Json

/-- The value has no number with a fraction or an exponent, no whole number of too many digits, and
no object with one key twice. -/
inductive IsExact : Json → Prop
  | null : IsExact .null
  | bool (b : Bool) : IsExact (.bool b)
  | int {n : Int} (hdigits : (Nat.toDigits 10 n.natAbs).length ≤ Text.digitLimit) :
      IsExact (.int n)
  | str (s : String) : IsExact (.str s)
  | arr {items : List Json} (hitems : ∀ item ∈ items, IsExact item) : IsExact (.arr items)
  | obj {members : List (String × Json)} (hkeys : (Assoc.keys members).Nodup)
      (hmembers : ∀ member ∈ members, IsExact member.2) : IsExact (.obj members)

/-! ## Rows -/

/-- Texts in a row, each after its separator. -/
def rows (layout : Layout) (depth : Nat) (texts : List (List Char)) : List Char :=
  texts.flatMap fun text => layout.separator depth ++ text

/-- The text of a member: its key, a colon and its value. -/
def memberText (layout : Layout) (depth : Nat) (member : String × Json) : List Char :=
  renderString member.1 ++ ':' :: ' ' :: renderAt layout depth member.2

theorem renderItems_eq_rows (layout : Layout) (depth : Nat) (items : List Json) :
    renderItems layout depth items = rows layout depth (items.map (renderAt layout depth)) := by
  induction items with
  | nil => rfl
  | cons item rest ih =>
      rw [renderItems, ih]
      rfl

theorem renderMembers_eq_rows (layout : Layout) (depth : Nat) (members : List (String × Json)) :
    renderMembers layout depth members =
      rows layout depth (members.map (memberText layout depth)) := by
  induction members with
  | nil => rfl
  | cons member rest ih =>
      rw [renderMembers, ih]
      simp [rows, memberText]

/-- Texts between brackets, with the margins of the layout around them. -/
def bracketed (layout : Layout) (depth : Nat) (opening closing : Char) (first : List Char)
    (more : List (List Char)) : List Char :=
  opening :: (layout.margin (depth + 1) ++
    (first ++ (rows layout (depth + 1) more ++ (layout.margin depth ++ [closing]))))

theorem renderAt_arr_cons (layout : Layout) (depth : Nat) (item : Json) (rest : List Json) :
    renderAt layout depth (.arr (item :: rest)) =
      bracketed layout depth '[' ']' (renderAt layout (depth + 1) item)
        (rest.map (renderAt layout (depth + 1))) := by
  rw [renderAt, renderItems_eq_rows]
  simp [bracketed]

theorem renderAt_obj_cons (layout : Layout) (depth : Nat) (member : String × Json)
    (rest : List (String × Json)) :
    renderAt layout depth (.obj (member :: rest)) =
      bracketed layout depth '\x7b' '\x7d' (memberText layout (depth + 1) member)
        (rest.map (memberText layout (depth + 1))) := by
  rw [renderAt, renderMembers_eq_rows]
  simp [bracketed, memberText]

/-! ## The characters of a text -/

/-- A character that may stand in a text: printable ASCII, or the end of a line. -/
def IsTextChar (c : Char) : Prop := IsPlain c ∨ c = '\n'

instance : DecidablePred IsTextChar := fun _ => inferInstanceAs (Decidable (_ ∨ _))

theorem isTextChar_of_mem_margin {layout : Layout} {depth : Nat} {c : Char}
    (h : c ∈ layout.margin depth) : IsTextChar c := by
  cases layout with
  | inline => simp [Layout.margin] at h
  | lines width =>
      rcases List.mem_cons.mp h with rfl | h
      · exact Or.inr rfl
      · rw [List.eq_of_mem_replicate h]
        exact Or.inl (by decide)

theorem isTextChar_of_mem_separator {layout : Layout} {depth : Nat} {c : Char}
    (h : c ∈ layout.separator depth) : IsTextChar c := by
  rcases List.mem_cons.mp h with rfl | h
  · exact Or.inl (by decide)
  · cases layout with
    | inline =>
        obtain rfl := List.mem_singleton.mp h
        exact Or.inl (by decide)
    | lines width => exact isTextChar_of_mem_margin h

theorem isPlain_of_mem_renderInt {n : Int} {c : Char} (h : c ∈ renderInt n) : IsPlain c := by
  rcases List.mem_append.mp h with h | h
  · split at h
    · obtain rfl := List.mem_singleton.mp h
      decide
    · simp at h
  · have hdigit : c.isDigit = true := Nat.isDigit_of_mem_toDigits (by decide) (by decide) h
    simp only [Char.isDigit, Bool.and_eq_true, decide_eq_true_eq] at hdigit
    exact ⟨Char.le_trans (by decide) hdigit.1, Char.le_trans hdigit.2 (by decide)⟩

theorem isTextChar_of_mem_bracketed {layout : Layout} {depth : Nat} {opening closing : Char}
    {first : List Char} {more : List (List Char)} (hopening : IsPlain opening)
    (hclosing : IsPlain closing) (htexts : ∀ text ∈ first :: more, ∀ c ∈ text, IsTextChar c) :
    ∀ c ∈ bracketed layout depth opening closing first more, IsTextChar c := by
  intro c hc
  simp only [bracketed, rows, List.mem_cons, List.mem_append, List.mem_flatMap,
    List.not_mem_nil, or_false] at hc
  rcases hc with rfl | hc | hc | ⟨text, htext, hc | hc⟩ | hc | rfl
  · exact Or.inl hopening
  · exact isTextChar_of_mem_margin hc
  · exact htexts first (by simp) c hc
  · exact isTextChar_of_mem_separator hc
  · exact htexts text (by simp [htext]) c hc
  · exact isTextChar_of_mem_margin hc
  · exact Or.inl hclosing

theorem isTextChar_of_mem_memberText {layout : Layout} {depth : Nat} {member : String × Json}
    (h : ∀ c ∈ renderAt layout depth member.2, IsTextChar c) :
    ∀ c ∈ memberText layout depth member, IsTextChar c := by
  intro c hc
  simp only [memberText, List.mem_append, List.mem_cons] at hc
  rcases hc with hc | rfl | rfl | hc
  · exact Or.inl (isPlain_of_mem_renderString hc)
  · exact Or.inl (by decide)
  · exact Or.inl (by decide)
  · exact h c hc

/-- Nothing but printable ASCII and line ends is written for a value. -/
theorem IsExact.isTextChar {value : Json} (h : value.IsExact) (layout : Layout) (depth : Nat) :
    ∀ c ∈ renderAt layout depth value, IsTextChar c := by
  induction h generalizing depth with
  | null =>
      intro c hc
      simp only [renderAt, List.mem_cons, List.not_mem_nil, or_false] at hc
      rcases hc with rfl | rfl | rfl | rfl
      all_goals exact Or.inl (by decide)
  | bool b =>
      have hwords : ∀ c ∈ ['t', 'r', 'u', 'e'] ++ ['f', 'a', 'l', 's', 'e'], IsPlain c :=
        isPlain_of_all (by decide)
      intro c hc
      cases b with
      | true => exact Or.inl (hwords c (List.mem_append_left _ hc))
      | false => exact Or.inl (hwords c (List.mem_append_right _ hc))
  | int _ => exact fun c hc => Or.inl (isPlain_of_mem_renderInt hc)
  | str s => exact fun c hc => Or.inl (isPlain_of_mem_renderString hc)
  | @arr items _ ih =>
      cases items with
      | nil =>
          intro c hc
          have hbrackets : ∀ c ∈ ['[', ']'], IsPlain c := isPlain_of_all (by decide)
          exact Or.inl (hbrackets c hc)
      | cons item rest =>
          rw [renderAt_arr_cons]
          refine isTextChar_of_mem_bracketed (by decide) (by decide) ?_
          intro text htext
          rw [← List.map_cons] at htext
          obtain ⟨found, hfound, rfl⟩ := List.mem_map.mp htext
          exact ih found hfound (depth + 1)
  | @obj members _ _ ih =>
      cases members with
      | nil =>
          intro c hc
          have hbraces : ∀ c ∈ ['\x7b', '\x7d'], IsPlain c := isPlain_of_all (by decide)
          exact Or.inl (hbraces c hc)
      | cons member rest =>
          rw [renderAt_obj_cons]
          refine isTextChar_of_mem_bracketed (by decide) (by decide) ?_
          intro text htext
          rw [← List.map_cons] at htext
          obtain ⟨found, hfound, rfl⟩ := List.mem_map.mp htext
          exact isTextChar_of_mem_memberText (ih found hfound (depth + 1))

/-! ## The lines of a text -/

mutual

/-- The line ends of a value that is spread over lines: one before every item and member at any
depth, and one before every closing bracket that has something to close. -/
def lineEnds : Json → Nat
  | .arr items => itemLineEnds items + if items.isEmpty then 0 else 1
  | .obj members => memberLineEnds members + if members.isEmpty then 0 else 1
  | _ => 0
termination_by structural value => value

/-- The line ends before and in items. -/
def itemLineEnds : List Json → Nat
  | [] => 0
  | item :: rest => 1 + lineEnds item + itemLineEnds rest
termination_by structural items => items

/-- The line ends before and in members. -/
def memberLineEnds : List (String × Json) → Nat
  | [] => 0
  | (_, value) :: rest => 1 + lineEnds value + memberLineEnds rest
termination_by structural members => members

end

/-- The line ends that stand in one place between items. -/
def Layout.lineEnds : Layout → Nat
  | .inline => 0
  | .lines _ => 1

theorem count_margin (layout : Layout) (depth : Nat) :
    (layout.margin depth).count '\n' = layout.lineEnds := by
  cases layout with
  | inline => rfl
  | lines width => simp [Layout.margin, Layout.lineEnds, List.count_replicate]

theorem count_separator (layout : Layout) (depth : Nat) :
    (layout.separator depth).count '\n' = layout.lineEnds := by
  cases layout with
  | inline => rfl
  | lines width =>
      rw [Layout.separator, List.count_cons_of_ne (by decide)]
      exact count_margin _ depth

theorem count_eq_zero_of_isPlain {text : List Char} (h : ∀ c ∈ text, IsPlain c) :
    text.count '\n' = 0 :=
  List.count_eq_zero_of_not_mem fun hmem => absurd (h _ hmem) (by decide)

theorem count_rows_cons (layout : Layout) (depth : Nat) (text : List Char)
    (texts : List (List Char)) :
    (rows layout depth (text :: texts)).count '\n' =
      layout.lineEnds + text.count '\n' + (rows layout depth texts).count '\n' := by
  rw [rows, List.flatMap_cons, List.count_append, List.count_append, count_separator]
  rfl

theorem count_bracketed (layout : Layout) (depth : Nat) {opening closing : Char}
    (hopening : opening ≠ '\n') (hclosing : closing ≠ '\n') (first : List Char)
    (more : List (List Char)) :
    (bracketed layout depth opening closing first more).count '\n' =
      (rows layout (depth + 1) (first :: more)).count '\n' + layout.lineEnds := by
  rw [bracketed, List.count_cons_of_ne hopening, List.count_append, List.count_append,
    List.count_append, List.count_append, count_margin, count_margin, count_rows_cons,
    List.count_singleton]
  simp [hclosing]
  omega

theorem count_memberText (layout : Layout) (depth : Nat) (member : String × Json) :
    (memberText layout depth member).count '\n' =
      (renderAt layout depth member.2).count '\n' := by
  have hkey : (renderString member.1).count '\n' = 0 :=
    count_eq_zero_of_isPlain fun c hc => isPlain_of_mem_renderString hc
  rw [memberText, List.count_append, hkey, List.count_cons_of_ne (by decide),
    List.count_cons_of_ne (by decide), Nat.zero_add]

section Counts

variable {layout : Layout} {depth : Nat}

theorem count_items {items : List Json}
    (h : ∀ item ∈ items,
      (renderAt layout depth item).count '\n' = layout.lineEnds * item.lineEnds) :
    (rows layout depth (items.map (renderAt layout depth))).count '\n' =
      layout.lineEnds * itemLineEnds items := by
  induction items with
  | nil => rfl
  | cons item rest ih =>
      have hrest := ih fun other hother => h other (by simp [hother])
      rw [List.map_cons, count_rows_cons, h item (by simp), hrest, itemLineEnds, Nat.mul_add,
        Nat.mul_add, Nat.mul_one]

theorem count_members {members : List (String × Json)}
    (h : ∀ member ∈ members,
      (renderAt layout depth member.2).count '\n' = layout.lineEnds * member.2.lineEnds) :
    (rows layout depth (members.map (memberText layout depth))).count '\n' =
      layout.lineEnds * memberLineEnds members := by
  induction members with
  | nil => rfl
  | cons member rest ih =>
      have hrest := ih fun other hother => h other (by simp [hother])
      rw [List.map_cons, count_rows_cons, count_memberText, h member (by simp), hrest,
        memberLineEnds, Nat.mul_add, Nat.mul_add, Nat.mul_one]

end Counts

/-- The only line ends in a text are those between its items and before its brackets. -/
theorem IsExact.count_renderAt {value : Json} (h : value.IsExact) (layout : Layout)
    (depth : Nat) :
    (renderAt layout depth value).count '\n' = layout.lineEnds * value.lineEnds := by
  induction h generalizing depth with
  | null => rfl
  | bool b =>
      cases b with
      | true => rfl
      | false => rfl
  | int _ => exact count_eq_zero_of_isPlain fun c hc => isPlain_of_mem_renderInt hc
  | str s => exact count_eq_zero_of_isPlain fun c hc => isPlain_of_mem_renderString hc
  | @arr items _ ih =>
      cases items with
      | nil => rfl
      | cons item rest =>
          have hitems := count_items fun other hother => ih other hother (depth + 1)
          rw [renderAt_arr_cons, count_bracketed layout depth (by decide) (by decide),
            ← List.map_cons, hitems, lineEnds]
          exact (Nat.mul_succ _ _).symm
  | @obj members _ _ ih =>
      cases members with
      | nil => rfl
      | cons member rest =>
          have hmembers := count_members fun other hother => ih other hother (depth + 1)
          rw [renderAt_obj_cons, count_bracketed layout depth (by decide) (by decide),
            ← List.map_cons, hmembers, lineEnds]
          exact (Nat.mul_succ _ _).symm

end Json
end AbiDoc
