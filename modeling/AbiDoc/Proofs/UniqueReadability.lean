import AbiDoc.Proofs.ComponentShape

/-!
# Unique readability of canonical signatures

A canonical signature can be read in one way only.  Where leaves have nonempty types without
parentheses and commas, the text of a shape is told apart from whatever follows it
(`readsBack_of_plain`), and so is a listing of shapes from the parenthesis that closes it
(`listing_append_inj`).  Two entries with one signature therefore have one name and inputs of the
same shapes (`signature_readsBack`).
-/

namespace AbiDoc

/-- The text begins with a character at which reading stops. -/
def StartsWith (stop : Char → Prop) (text : List Char) : Prop :=
  ∃ c rest, text = c :: rest ∧ stop c

/-- What is read up to a stop is determined by the whole text. -/
theorem append_inj_of_stop {stop : Char → Prop} {xs ys rest rest' : List Char}
    (hxs : ∀ c ∈ xs, ¬ stop c) (hys : ∀ c ∈ ys, ¬ stop c)
    (hrest : StartsWith stop rest) (hrest' : StartsWith stop rest')
    (h : xs ++ rest = ys ++ rest') : xs = ys ∧ rest = rest' := by
  induction xs generalizing ys with
  | nil =>
      cases ys with
      | nil => exact ⟨rfl, h⟩
      | cons d ys =>
          obtain ⟨c, tail, rfl, hc⟩ := hrest
          obtain ⟨rfl, -⟩ := List.cons.inj h
          exact absurd hc (hys c (by simp))
  | cons c xs ih =>
      cases ys with
      | nil =>
          obtain ⟨d, tail, rfl, hd⟩ := hrest'
          obtain ⟨rfl, -⟩ := List.cons.inj h
          exact absurd hd (hxs c (by simp))
      | cons d ys =>
          obtain ⟨rfl, htails⟩ := List.cons.inj h
          obtain ⟨rfl, hrests⟩ := ih (fun e he => hxs e (by simp [he]))
            (fun e he => hys e (by simp [he])) htails
          exact ⟨rfl, hrests⟩

/-- A declared type that a reader cannot take for anything else. -/
def PlainType (type : String) : Prop :=
  type ≠ "" ∧ ∀ c ∈ type.toList, c ≠ '(' ∧ c ≠ ')' ∧ c ≠ ','

-- Going through the characters of the text, not through all characters there are.
instance (type : String) : Decidable (PlainType type) :=
  @instDecidableAnd _ _ inferInstance (List.decidableBAll _ type.toList)

/-- The characters after a type in a listing. -/
def Closes (c : Char) : Prop := c = ',' ∨ c = ')'

namespace Shape

/-- All leaves of the shape have plain types. -/
inductive Plain : Shape → Prop
  | leaf {type : String} (htype : PlainType type) : Plain (.leaf type)
  | tuple {isArray : Bool} {parts : List Shape} (hparts : ∀ part ∈ parts, Plain part) :
      Plain (.tuple isArray parts)

/-- The shape and what follows it can be read from the text that they make. -/
def ReadsBack (shape : Shape) : Prop :=
  ∀ (other : Shape) (rest rest' : List Char), other.Plain →
    StartsWith Closes rest → StartsWith Closes rest' →
      shape.text.toList ++ rest = other.text.toList ++ rest' → shape = other ∧ rest = rest'

/-- The text of a tuple up to its closing parenthesis, and what follows that. -/
theorem text_tuple_append (isArray : Bool) (parts : List Shape) (rest : List Char) :
    (text (.tuple isArray parts)).toList ++ rest =
      '(' :: ((listing parts).toList ++ ')' :: ((if isArray then ['[', ']'] else []) ++ rest)) := by
  rw [text_tuple]
  cases isArray with
  | true => simp [String.toList_append]
  | false => simp [String.toList_append]

theorem exists_cons_of_plainType {type : String} (h : PlainType type) :
    ∃ c rest, type.toList = c :: rest ∧ c ≠ '(' ∧ c ≠ ')' := by
  have hchars : type.toList ≠ [] := mt String.toList_eq_nil_iff.mp h.1
  obtain ⟨c, rest, hcons⟩ := List.exists_cons_of_ne_nil hchars
  obtain ⟨hopen, hclose, -⟩ := h.2 c (by simp [hcons])
  exact ⟨c, rest, hcons, hopen, hclose⟩

/-- No text of a shape begins with the parenthesis that closes a listing. -/
theorem Plain.text_eq_cons {shape : Shape} (h : shape.Plain) :
    ∃ c rest, shape.text.toList = c :: rest ∧ c ≠ ')' := by
  cases h with
  | @leaf type htype =>
      obtain ⟨c, rest, hcons, -, hclose⟩ := exists_cons_of_plainType htype
      exact ⟨c, rest, hcons, hclose⟩
  | @tuple isArray parts hparts =>
      have htext := text_tuple_append isArray parts []
      rw [List.append_nil] at htext
      exact ⟨'(', _, htext, by decide⟩

/-- What follows the first of several shapes, up to the end of the listing and beyond. -/
def afterFirst : List Shape → List Char → List Char
  | [], tail => ')' :: tail
  | shape :: rest, tail => ',' :: ((listing (shape :: rest)).toList ++ ')' :: tail)

theorem startsWith_afterFirst (shapes : List Shape) (tail : List Char) :
    StartsWith Closes (afterFirst shapes tail) := by
  cases shapes with
  | nil => exact ⟨')', tail, rfl, Or.inr rfl⟩
  | cons shape rest => exact ⟨',', _, rfl, Or.inl rfl⟩

theorem listing_cons_append (shape : Shape) (rest : List Shape) (tail : List Char) :
    (listing (shape :: rest)).toList ++ ')' :: tail =
      shape.text.toList ++ afterFirst rest tail := by
  cases rest with
  | nil => simp [listing, afterFirst]
  | cons next rest => simp [listing, afterFirst, String.toList_append]

/-- A listing is told apart from what follows the parenthesis that closes it. -/
theorem listing_append_inj {parts others : List Shape} {tail tail' : List Char}
    (hreads : ∀ part ∈ parts, part.ReadsBack) (hparts : ∀ part ∈ parts, part.Plain)
    (hothers : ∀ other ∈ others, other.Plain)
    (h : (listing parts).toList ++ ')' :: tail = (listing others).toList ++ ')' :: tail') :
    parts = others ∧ tail = tail' := by
  induction parts generalizing others with
  | nil =>
      cases others with
      | nil => exact ⟨rfl, (List.cons.inj h).2⟩
      | cons other others =>
          obtain ⟨c, rest, hchars, hclose⟩ := (hothers other (by simp)).text_eq_cons
          rw [listing_cons_append, hchars] at h
          exact absurd (List.cons.inj h).1.symm hclose
  | cons part parts ih =>
      cases others with
      | nil =>
          obtain ⟨c, rest, hchars, hclose⟩ := (hparts part (by simp)).text_eq_cons
          rw [listing_cons_append, hchars] at h
          exact absurd (List.cons.inj h).1 hclose
      | cons other others =>
          rw [listing_cons_append, listing_cons_append] at h
          obtain ⟨rfl, hrest⟩ := hreads part (by simp) other _ _ (hothers other (by simp))
            (startsWith_afterFirst parts tail) (startsWith_afterFirst others tail') h
          cases parts with
          | nil =>
              cases others with
              | nil => exact ⟨rfl, (List.cons.inj hrest).2⟩
              | cons => exact absurd (List.cons.inj hrest).1 (by decide)
          | cons =>
              cases others with
              | nil => exact absurd (List.cons.inj hrest).1 (by decide)
              | cons =>
                  obtain ⟨hparts', htails⟩ := ih (fun p hp => hreads p (by simp [hp]))
                    (fun p hp => hparts p (by simp [hp]))
                    (fun p hp => hothers p (by simp [hp])) (List.cons.inj hrest).2
                  exact ⟨by rw [hparts'], htails⟩

/-- A suffix `[]` cannot be taken for what follows a type. -/
theorem suffix_append_inj {isArray isArray' : Bool} {rest rest' : List Char}
    (hrest : StartsWith Closes rest) (hrest' : StartsWith Closes rest')
    (h : (if isArray then ['[', ']'] else []) ++ rest =
      (if isArray' then ['[', ']'] else []) ++ rest') :
    isArray = isArray' ∧ rest = rest' := by
  obtain ⟨c, tail, rfl, hc⟩ := hrest
  obtain ⟨c', tail', rfl, hc'⟩ := hrest'
  cases isArray with
  | true =>
      cases isArray' with
      | true => exact ⟨rfl, (List.cons.inj (List.cons.inj h).2).2⟩
      | false =>
          have hbracket : '[' = c' := (List.cons.inj h).1
          subst hbracket
          exact absurd hc' (by simp [Closes])
  | false =>
      cases isArray' with
      | true =>
          have hbracket : c = '[' := (List.cons.inj h).1
          subst hbracket
          exact absurd hc (by simp [Closes])
      | false => exact ⟨rfl, h⟩

theorem not_closes_of_plainType {type : String} (h : PlainType type) :
    ∀ c ∈ type.toList, ¬ Closes c := by
  intro c hc hcloses
  obtain ⟨-, hclose, hcomma⟩ := h.2 c hc
  rcases hcloses with rfl | rfl
  · exact hcomma rfl
  · exact hclose rfl

/-- A leaf and a tuple differ in their first character. -/
theorem leaf_append_ne_tuple_append {type : String} (htype : PlainType type) (isArray : Bool)
    (parts : List Shape) (rest rest' : List Char) :
    type.toList ++ rest ≠ (text (.tuple isArray parts)).toList ++ rest' := by
  intro h
  obtain ⟨c, chars, hchars, hopen, -⟩ := exists_cons_of_plainType htype
  rw [hchars, text_tuple_append] at h
  exact hopen (List.cons.inj h).1

/-- Every shape with plain leaves can be read back from its text. -/
theorem readsBack_of_plain {shape : Shape} (h : shape.Plain) : shape.ReadsBack := by
  induction h with
  | @leaf type htype =>
      intro other rest rest' hother hrest hrest' heq
      cases hother with
      | @leaf type' htype' =>
          obtain ⟨hchars, hrests⟩ := append_inj_of_stop (not_closes_of_plainType htype)
            (not_closes_of_plainType htype') hrest hrest' heq
          exact ⟨by rw [String.toList_inj.mp hchars], hrests⟩
      | tuple => exact absurd heq (leaf_append_ne_tuple_append htype _ _ _ _)
  | @tuple isArray parts hparts ih =>
      intro other rest rest' hother hrest hrest' heq
      cases hother with
      | leaf htype' => exact absurd heq.symm (leaf_append_ne_tuple_append htype' _ _ _ _)
      | tuple hothers =>
          rw [text_tuple_append, text_tuple_append] at heq
          obtain ⟨rfl, htails⟩ := listing_append_inj ih hparts hothers (List.cons.inj heq).2
          obtain ⟨rfl, hrests⟩ := suffix_append_inj hrest hrest' htails
          exact ⟨rfl, hrests⟩

/-- Listings of shapes with plain leaves are equal only when the shapes are. -/
theorem listing_inj {shapes others : List Shape} (hshapes : ∀ shape ∈ shapes, shape.Plain)
    (hothers : ∀ other ∈ others, other.Plain)
    (h : (listing shapes).toList ++ [')'] = (listing others).toList ++ [')']) :
    shapes = others :=
  (listing_append_inj (fun shape hshape => readsBack_of_plain (hshapes shape hshape))
    hshapes hothers h).1

end Shape

/-- `leaf` is the component or is found among its components, and has no components itself. -/
inductive Component.LeafOf (leaf : Json) : Json → Prop
  | self (hnone : leaf.field "components" = .ok .null) : LeafOf leaf leaf
  | part {component components item : Json} {items : List Json}
      (hcomponents : component.field "components" = .ok components)
      (hitems : components.elements = .ok items) (hitem : item ∈ items)
      (hleaf : LeafOf leaf item) : LeafOf leaf component

namespace Component.LeafOf

/-- A component without components has no leaf but itself. -/
theorem eq_of_no_components {leaf component : Json} (h : LeafOf leaf component)
    (hnone : component.field "components" = .ok .null) : leaf = component := by
  cases h with
  | self => rfl
  | part hcomponents hitems _ _ =>
      obtain rfl := Except.ok.inj (hnone.symm.trans hcomponents)
      simp [Json.elements] at hitems

/-- A leaf of a component with components is a leaf of one of them. -/
theorem exists_part {leaf component components : Json} {items : List Json}
    (h : LeafOf leaf component) (hcomponents : component.field "components" = .ok components)
    (hitems : components.elements = .ok items) : ∃ item ∈ items, LeafOf leaf item := by
  cases h with
  | self hnone =>
      obtain rfl := Except.ok.inj (hnone.symm.trans hcomponents)
      simp [Json.elements] at hitems
  | part hcomponents' hitems' hitem hleaf =>
      obtain rfl := Except.ok.inj (hcomponents.symm.trans hcomponents')
      obtain rfl := Except.ok.inj (hitems.symm.trans hitems')
      exact ⟨_, hitem, hleaf⟩

end Component.LeafOf

/-- A component of which all leaves have plain types has a plain shape. -/
theorem HasShape.plain {component : Json} {shape : Shape} (h : HasShape component shape)
    (hleaves : ∀ leaf, Component.LeafOf leaf component →
      ∃ type, leaf.require "type" = .ok (.str type) ∧ PlainType type) : shape.Plain := by
  induction shape using Shape.induction generalizing component with
  | leaf type =>
      cases h with
      | leaf hnone htype =>
          obtain ⟨type', htype', hplain⟩ := hleaves component (.self hnone)
          obtain rfl : type = type' :=
            Json.str.inj (Except.ok.inj (htype.symm.trans htype'))
          exact .leaf hplain
  | tuple isArray parts ih =>
      cases h with
      | @tuple _ components _ items _ hcomponents hgiven _ hitems hparts =>
          refine .tuple fun part hpart => ?_
          obtain ⟨item, hitem, hshape⟩ := Outcome.exists_mem_of_forall₂ hparts hpart
          exact ih part hpart hshape fun leaf hleaf =>
            hleaves leaf (.part hcomponents hitems hitem hleaf)

namespace Entry

/-- An entry of which the signature can be read back: its name has no parenthesis and the leaves of
its inputs have plain types. -/
structure Readable (entry : Json) (name : String) (inputs : List Json) : Prop where
  name_eq : entry.require "name" = .ok (.str name)
  name_plain : '(' ∉ name.toList
  inputs_eq : entry.fieldElements "inputs" = .ok inputs
  leaves_plain : ∀ input ∈ inputs, ∀ leaf, Component.LeafOf leaf input →
    ∃ type, leaf.require "type" = .ok (.str type) ∧ PlainType type

/-- The signature of a readable entry is its name with the listing of plain shapes. -/
theorem Readable.signature_eq {entry : Json} {name key : String} {inputs : List Json}
    (h : Readable entry name inputs) (hkey : signature entry = .ok key) :
    ∃ shapes, List.Forall₂ HasShape inputs shapes ∧ (∀ shape ∈ shapes, shape.Plain) ∧
      name ++ "(" ++ Shape.listing shapes ++ ")" = key := by
  obtain ⟨name', inputs', shapes, hname, hinputs, hshapes, rfl⟩ := signature_eq_ok_iff.mp hkey
  obtain rfl : .str name = name' := Except.ok.inj (h.name_eq.symm.trans hname)
  obtain rfl : inputs = inputs' := Except.ok.inj (h.inputs_eq.symm.trans hinputs)
  refine ⟨shapes, hshapes, ?_, rfl⟩
  intro shape hshape
  obtain ⟨input, hinput, hinputShape⟩ := Outcome.exists_mem_of_forall₂ hshapes hshape
  exact hinputShape.plain (h.leaves_plain input hinput)

/-- Entries with one signature have one name and inputs of the same shapes: as many inputs, and in
each place leaves of one declared type, or components of the same shapes of which both or neither
are declared as `tuple[]`. -/
theorem signature_readsBack {entry other : Json} {name otherName key : String}
    {inputs otherInputs : List Json} (hentry : Readable entry name inputs)
    (hother : Readable other otherName otherInputs)
    (hkey : signature entry = .ok key) (hsame : signature other = .ok key) :
    name = otherName ∧ ∃ shapes, List.Forall₂ HasShape inputs shapes ∧
      List.Forall₂ HasShape otherInputs shapes := by
  obtain ⟨shapes, hshapes, hplain, rfl⟩ := hentry.signature_eq hkey
  obtain ⟨shapes', hshapes', hplain', heq⟩ := hother.signature_eq hsame
  have hchars : name.toList ++ '(' :: ((Shape.listing shapes).toList ++ [')']) =
      otherName.toList ++ '(' :: ((Shape.listing shapes').toList ++ [')']) := by
    have h := congrArg String.toList heq.symm
    simpa [String.toList_append] using h
  obtain ⟨hnames, hlistings⟩ := append_inj_of_stop
    (fun c hc => ne_of_mem_of_not_mem hc hentry.name_plain)
    (fun c hc => ne_of_mem_of_not_mem hc hother.name_plain)
    ⟨'(', _, rfl, rfl⟩ ⟨'(', _, rfl, rfl⟩ hchars
  obtain rfl := Shape.listing_inj hplain hplain' (List.cons.inj hlistings).2
  exact ⟨String.toList_inj.mp hnames, shapes, hshapes, hshapes'⟩

/-- The inputs of a batch: a tuple that is declared so, and an address. -/
def batchInputs (declared : String) : List Json := [
  .obj [("name", .str "items"), ("type", .str declared), ("components", .arr [
    .obj [("name", .str "amount"), ("type", .str "uint256")],
    .obj [("name", .str "data"), ("type", .str "bytes"), ("components", .null)]])],
  .obj [("name", .str "to"), ("type", .str "address")]]

/-- A function that takes a batch. -/
def batch (declared : String) : Json :=
  .obj [("type", .str "function"), ("name", .str "submit"),
    ("inputs", .arr (batchInputs declared))]

theorem batch_readable (declared : String) :
    Readable (batch declared) "submit" (batchInputs declared) where
  name_eq := rfl
  name_plain := by decide
  inputs_eq := rfl
  leaves_plain := by
    intro input hinput leaf hleaf
    simp only [batchInputs, List.mem_cons, List.not_mem_nil, or_false] at hinput
    rcases hinput with rfl | rfl
    · obtain ⟨item, hitem, hleaf⟩ := hleaf.exists_part rfl rfl
      simp only [List.mem_cons, List.not_mem_nil, or_false] at hitem
      rcases hitem with rfl | rfl
      · obtain rfl := hleaf.eq_of_no_components rfl
        exact ⟨"uint256", rfl, by decide⟩
      · obtain rfl := hleaf.eq_of_no_components rfl
        exact ⟨"bytes", rfl, by decide⟩
    · obtain rfl := hleaf.eq_of_no_components rfl
      exact ⟨"address", rfl, by decide⟩

/-- Two declarations of a batch share their key, and so agree on everything but the dimensions of
the tuple. -/
theorem signature_readsBack_batch :
    Readable (batch "tuple[3]") "submit" (batchInputs "tuple[3]") ∧
      Readable (batch "tuple") "submit" (batchInputs "tuple") ∧
      signature (batch "tuple[3]") = .ok "submit((uint256,bytes),address)" ∧
      signature (batch "tuple") = .ok "submit((uint256,bytes),address)" ∧
      ("submit" = "submit" ∧ ∃ shapes, List.Forall₂ HasShape (batchInputs "tuple[3]") shapes ∧
        List.Forall₂ HasShape (batchInputs "tuple") shapes) :=
  have hfixed : signature (batch "tuple[3]") = .ok "submit((uint256,bytes),address)" := rfl
  have hsingle : signature (batch "tuple") = .ok "submit((uint256,bytes),address)" := rfl
  ⟨batch_readable "tuple[3]", batch_readable "tuple", hfixed, hsingle,
    signature_readsBack (batch_readable "tuple[3]") (batch_readable "tuple") hfixed hsingle⟩

end Entry

end AbiDoc
