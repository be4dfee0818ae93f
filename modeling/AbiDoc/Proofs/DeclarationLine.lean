import AbiDoc.Proofs.DeclaredParameters
import AbiDoc.Proofs.UniqueReadability

/-!
# Reading declarations back

A declaration can be read back from the line on which it is written.  The line has optional parts
with blanks between them, and lists that are empty are written like lists that are not set; but
where names and types are words, each part ends at a character that cannot stand in it
(`Line.text_inj`).  So two entries with one line have one declaration (`eq_of_render_eq`).
-/

namespace AbiDoc

open Outcome Json

/-- What the line of a declaration is made of; a list without items is not written. -/
structure Line where
  kind : String
  name : String
  parameters : List String
  modifiers : List String
  returns : List String

namespace Line

/-- The characters of words with a blank before each, and of what follows them. -/
def spaced : List String → List Char → List Char
  | [], tail => tail
  | word :: rest, tail => ' ' :: (word.toList ++ spaced rest tail)

/-- The characters of texts with commas between them, up to the parenthesis that closes them, and of
what follows it. -/
def group (texts : List String) (tail : List Char) : List Char :=
  (", ".intercalate texts).toList ++ ')' :: tail

/-- The characters of a list of returned types. -/
def returned : List String → List Char
  | [] => []
  | types => ' ' :: '(' :: group types []

/-- The characters of the line. -/
def chars (line : Line) : List Char :=
  line.kind.toList ++ ' ' :: (line.name.toList ++ '(' ::
    group line.parameters (spaced line.modifiers (returned line.returns)))

/-- The declaration that the line is written for. -/
def declaration (line : Line) : Declaration where
  kind := .str line.kind
  name := .str line.name
  parameters := Declaration.listOrUnset (line.parameters.map .str)
  modifiers := Declaration.listOrUnset (line.modifiers.map .str)
  returns := Declaration.listOrUnset (line.returns.map .str)

/-! ## Writing -/

/-- The text of the line. -/
def text (line : Line) : String :=
  line.kind ++ " " ++ line.name ++ "(" ++ ", ".intercalate line.parameters ++ ")" ++
    (if line.modifiers.isEmpty then "" else " " ++ " ".intercalate line.modifiers) ++
    (if line.returns.isEmpty then "" else " (" ++ ", ".intercalate line.returns ++ ")")

theorem truthy_listOrUnset (texts : List String) :
    (Declaration.listOrUnset (texts.map .str)).truthy = !texts.isEmpty := by
  cases texts with
  | nil => rfl
  | cons text rest => rfl

theorem joined_listOrUnset (separator : String) {texts : List String}
    (hgiven : texts.isEmpty = false) :
    (Declaration.listOrUnset (texts.map .str)).joined separator =
      .ok (separator.intercalate texts) := by
  have hjoined := joinTexts_map_str separator texts
  cases texts with
  | nil => cases hgiven
  | cons text rest => exact hjoined

theorem joined_orElse_listOrUnset (separator : String) (texts : List String) :
    ((Declaration.listOrUnset (texts.map .str)).orElse (.arr [])).joined separator =
      .ok (separator.intercalate texts) := by
  cases texts with
  | nil => exact joinTexts_map_str separator []
  | cons text rest => exact @joined_listOrUnset separator (text :: rest) rfl

/-- A line is what its declaration is rendered as. -/
theorem render_declaration (line : Line) : line.declaration.render = .ok line.text := by
  have hparameters := joined_orElse_listOrUnset ", " line.parameters
  rw [Declaration.render, declaration, hparameters, ok_bind, truthy_listOrUnset,
    truthy_listOrUnset, text]
  cases hmodifiers : line.modifiers.isEmpty with
  | true =>
      cases hreturns : line.returns.isEmpty with
      | true => rfl
      | false =>
          simp only [joined_listOrUnset ", " hreturns]
          rfl
  | false =>
      simp only [joined_listOrUnset " " hmodifiers]
      cases hreturns : line.returns.isEmpty with
      | true => rfl
      | false =>
          simp only [joined_listOrUnset ", " hreturns]
          rfl

theorem toList_intercalate_blank (word : String) (rest : List String) (tail : List Char) :
    (" ".intercalate (word :: rest)).toList ++ tail = word.toList ++ spaced rest tail := by
  induction rest generalizing word with
  | nil => simp [spaced]
  | cons next rest ih => simp [spaced, ← ih, String.toList_append]

theorem toList_text (line : Line) : line.text.toList = line.chars := by
  obtain ⟨kind, name, parameters, modifiers, returns⟩ := line
  have hreturns : (if returns.isEmpty then ""
      else " (" ++ ", ".intercalate returns ++ ")").toList = returned returns := by
    cases returns with
    | nil => rfl
    | cons type rest => simp [returned, group, String.toList_append]
  have hmodifiers : ∀ tail, (if modifiers.isEmpty then ""
      else " " ++ " ".intercalate modifiers).toList ++ tail = spaced modifiers tail := by
    intro tail
    cases modifiers with
    | nil => rfl
    | cons word rest => simp [spaced, ← toList_intercalate_blank, String.toList_append]
  simp only [text, chars, group, String.toList_append, hreturns, hmodifiers, List.append_assoc]
  rfl

/-! ## Reading -/

/-- What follows the first of several texts in a group. -/
def afterFirst : List String → List Char → List Char
  | [], tail => ')' :: tail
  | text :: rest, tail => ',' :: ' ' :: (text.toList ++ afterFirst rest tail)

theorem startsWith_afterFirst (texts : List String) (tail : List Char) :
    StartsWith Closes (afterFirst texts tail) := by
  cases texts with
  | nil => exact ⟨')', tail, rfl, Or.inr rfl⟩
  | cons text rest => exact ⟨',', _, rfl, Or.inl rfl⟩

theorem group_cons (text : String) (rest : List String) (tail : List Char) :
    group (text :: rest) tail = text.toList ++ afterFirst rest tail := by
  induction rest generalizing text with
  | nil => simp [group, afterFirst]
  | cons next rest ih =>
      rw [afterFirst, ← ih]
      simp [group, String.toList_append]

theorem afterFirst_inj {texts others : List String} {tail tail' : List Char}
    (htexts : ∀ text ∈ texts, PlainType text) (hothers : ∀ other ∈ others, PlainType other)
    (h : afterFirst texts tail = afterFirst others tail') : texts = others ∧ tail = tail' := by
  induction texts generalizing others with
  | nil =>
      cases others with
      | nil => exact ⟨rfl, (List.cons.inj h).2⟩
      | cons other others => exact absurd (List.cons.inj h).1 (by decide)
  | cons text texts ih =>
      cases others with
      | nil => exact absurd (List.cons.inj h).1 (by decide)
      | cons other others =>
          obtain ⟨hchars, hrest⟩ := append_inj_of_stop
            (Shape.not_closes_of_plainType (htexts text (by simp)))
            (Shape.not_closes_of_plainType (hothers other (by simp)))
            (startsWith_afterFirst texts tail) (startsWith_afterFirst others tail')
            (List.cons.inj (List.cons.inj h).2).2
          obtain ⟨rfl, htail⟩ := ih (fun later hlater => htexts later (by simp [hlater]))
            (fun later hlater => hothers later (by simp [hlater])) hrest
          exact ⟨by rw [String.toList_inj.mp hchars], htail⟩

/-- A group of texts is told apart from what follows the parenthesis that closes it. -/
theorem group_inj {texts others : List String} {tail tail' : List Char}
    (htexts : ∀ text ∈ texts, PlainType text) (hothers : ∀ other ∈ others, PlainType other)
    (h : group texts tail = group others tail') : texts = others ∧ tail = tail' := by
  cases texts with
  | nil =>
      cases others with
      | nil => exact ⟨rfl, (List.cons.inj h).2⟩
      | cons other others =>
          obtain ⟨c, chars, hchars, -, hclose⟩ :=
            Shape.exists_cons_of_plainType (hothers other (by simp))
          rw [group_cons, hchars] at h
          exact absurd (List.cons.inj h).1.symm hclose
  | cons text texts =>
      cases others with
      | nil =>
          obtain ⟨c, chars, hchars, -, hclose⟩ :=
            Shape.exists_cons_of_plainType (htexts text (by simp))
          rw [group_cons, hchars] at h
          exact absurd (List.cons.inj h).1 hclose
      | cons other others =>
          -- With a comma before each of them, both groups are what follows a first text.
          have hafter : afterFirst (text :: texts) tail = afterFirst (other :: others) tail' := by
            rw [group_cons, group_cons] at h
            rw [afterFirst, afterFirst, h]
          exact afterFirst_inj htexts hothers hafter

theorem returned_cases (types : List String) :
    returned types = [] ∨ ∃ rest, returned types = ' ' :: '(' :: rest := by
  cases types with
  | nil => exact Or.inl rfl
  | cons type rest => exact Or.inr ⟨_, rfl⟩

theorem returned_inj {types others : List String} (htypes : ∀ type ∈ types, PlainType type)
    (hothers : ∀ other ∈ others, PlainType other) (h : returned types = returned others) :
    types = others := by
  cases types with
  | nil =>
      cases others with
      | nil => rfl
      | cons other others => cases h
  | cons type types =>
      cases others with
      | nil => cases h
      | cons other others =>
          exact (group_inj htypes hothers (List.cons.inj (List.cons.inj h).2).2).1

/-- A word that can stand among the modifiers. -/
def IsModifier (word : String) : Prop := word ≠ "" ∧ ' ' ∉ word.toList ∧ '(' ∉ word.toList

/-- A word is taken for neither the end of the line nor for a list of returned types. -/
theorem spaced_cons_ne_returned {word : String} (hword : IsModifier word) (rest types : List String)
    (tail : List Char) : spaced (word :: rest) tail ≠ returned types := by
  intro h
  obtain ⟨hgiven, -, hopen⟩ := hword
  obtain ⟨c, chars, hchars⟩ := List.exists_cons_of_ne_nil (mt String.toList_eq_nil_iff.mp hgiven)
  rcases returned_cases types with hnone | ⟨others, hsome⟩
  · cases h.trans hnone
  · rw [spaced, hchars, hsome] at h
    have hfirst : c = '(' := (List.cons.inj (List.cons.inj h).2).1
    exact hopen (by simp [hchars, hfirst])

theorem startsWith_spaced (words types : List String) :
    StartsWith (· = ' ') (spaced words (returned types) ++ [' ']) := by
  cases words with
  | nil =>
      rcases returned_cases types with hnone | ⟨rest, hsome⟩
      · exact ⟨' ', [], by rw [spaced, hnone]; rfl, rfl⟩
      · exact ⟨' ', _, by rw [spaced, hsome]; rfl, rfl⟩
  | cons word rest => exact ⟨' ', _, rfl, rfl⟩

/-- Modifiers are told apart from the returned types that may follow them. -/
theorem spaced_inj {words others types types' : List String}
    (hwords : ∀ word ∈ words, IsModifier word) (hothers : ∀ other ∈ others, IsModifier other)
    (h : spaced words (returned types) = spaced others (returned types')) :
    words = others ∧ returned types = returned types' := by
  induction words generalizing others with
  | nil =>
      cases others with
      | nil => exact ⟨rfl, h⟩
      | cons other others =>
          exact absurd h.symm (spaced_cons_ne_returned (hothers other (by simp)) _ _ _)
  | cons word words ih =>
      cases others with
      | nil => exact absurd h (spaced_cons_ne_returned (hwords word (by simp)) _ _ _)
      | cons other others =>
          -- The line may end with a word, so a blank is put behind it for the word to end at.
          have hended : word.toList ++ (spaced words (returned types) ++ [' ']) =
              other.toList ++ (spaced others (returned types') ++ [' ']) := by
            rw [← List.append_assoc, ← List.append_assoc, (List.cons.inj h).2]
          obtain ⟨hchars, hrest⟩ := append_inj_of_stop
            (fun c hc => ne_of_mem_of_not_mem hc (hwords word (by simp)).2.1)
            (fun c hc => ne_of_mem_of_not_mem hc (hothers other (by simp)).2.1)
            (startsWith_spaced words types) (startsWith_spaced others types') hended
          obtain ⟨rfl, hreturned⟩ := ih (fun later hlater => hwords later (by simp [hlater]))
            (fun later hlater => hothers later (by simp [hlater])) (List.append_cancel_right hrest)
          exact ⟨by rw [String.toList_inj.mp hchars], hreturned⟩

/-- Each part of the line ends at a character that cannot stand in it. -/
structure Plain (line : Line) : Prop where
  kind : ' ' ∉ line.kind.toList
  name : '(' ∉ line.name.toList
  parameters : ∀ parameter ∈ line.parameters, PlainType parameter
  modifiers : ∀ word ∈ line.modifiers, IsModifier word
  returns : ∀ type ∈ line.returns, PlainType type

/-- A plain line can be read back from its text. -/
theorem text_inj {line other : Line} (hline : line.Plain) (hother : other.Plain)
    (h : line.text = other.text) : line = other := by
  have hchars : line.chars = other.chars := by
    rw [← toList_text, ← toList_text, h]
  obtain ⟨hkind, hchars⟩ := append_inj_of_stop
    (fun c hc => ne_of_mem_of_not_mem hc hline.kind)
    (fun c hc => ne_of_mem_of_not_mem hc hother.kind)
    ⟨' ', _, rfl, rfl⟩ ⟨' ', _, rfl, rfl⟩ hchars
  obtain ⟨hname, hchars⟩ := append_inj_of_stop
    (fun c hc => ne_of_mem_of_not_mem hc hline.name)
    (fun c hc => ne_of_mem_of_not_mem hc hother.name)
    ⟨'(', _, rfl, rfl⟩ ⟨'(', _, rfl, rfl⟩ (List.cons.inj hchars).2
  obtain ⟨hparameters, hchars⟩ :=
    group_inj hline.parameters hother.parameters (List.cons.inj hchars).2
  obtain ⟨hmodifiers, hchars⟩ := spaced_inj hline.modifiers hother.modifiers hchars
  have hreturns := returned_inj hline.returns hother.returns hchars
  cases line
  cases other
  simp only [Line.mk.injEq]
  exact ⟨String.toList_inj.mp hkind, String.toList_inj.mp hname, hparameters, hmodifiers, hreturns⟩

end Line

/-! ## Texts in lists -/

/-- No character of the text ends a list or an item of one. -/
def Unbroken (text : String) : Prop := ∀ c ∈ text.toList, c ≠ '(' ∧ c ≠ ')' ∧ c ≠ ','

instance (text : String) : Decidable (Unbroken text) := List.decidableBAll _ text.toList

theorem Unbroken.append {text rest : String} (htext : Unbroken text) (hrest : Unbroken rest) :
    Unbroken (text ++ rest) := by
  intro c hc
  rw [String.toList_append, List.mem_append] at hc
  rcases hc with hc | hc
  · exact htext c hc
  · exact hrest c hc

/-- A text that is one word of a line: there are no blanks, commas and parentheses in it. -/
def PlainWord (text : String) : Prop :=
  ∀ c ∈ text.toList, c ≠ ' ' ∧ c ≠ ',' ∧ c ≠ '(' ∧ c ≠ ')'

instance (text : String) : Decidable (PlainWord text) := List.decidableBAll _ text.toList

def Json.IsWord (value : Json) : Prop := ∃ text, value = .str text ∧ PlainWord text

theorem Json.IsWord.unbroken {value : Json} (h : value.IsWord) : Unbroken value.plain := by
  obtain ⟨text, rfl, hchars⟩ := h
  intro c hc
  obtain ⟨-, hcomma, hopen, hclose⟩ := hchars c hc
  exact ⟨hopen, hclose, hcomma⟩

/-- A word that is not empty. -/
def Json.IsGivenWord (value : Json) : Prop := value.IsWord ∧ value ≠ .str ""

/-- A text that stands in a list of a line. -/
def Json.IsListed (value : Json) : Prop := ∃ text, value = .str text ∧ PlainType text

theorem exists_plain_texts {parts : List Json} (h : ∀ part ∈ parts, part.IsListed) :
    ∃ texts : List String, parts = texts.map .str ∧ ∀ text ∈ texts, PlainType text := by
  obtain ⟨texts, rfl⟩ := exists_texts fun part hpart => (h part hpart).imp fun _ htext => htext.1
  refine ⟨texts, rfl, fun text htext => ?_⟩
  obtain ⟨other, hother, hplain⟩ := h (.str text) (List.mem_map_of_mem htext)
  obtain rfl := Json.str.inj hother
  exact hplain

/-- A list of a line has items that begin with a type. -/
theorem Json.IsGivenWord.isListed_append {type : Json} (htype : type.IsGivenWord) {rest : String}
    (hrest : Unbroken rest) : (Json.str (type.plain ++ rest)).IsListed := by
  refine ⟨_, rfl, ?_, htype.1.unbroken.append hrest⟩
  obtain ⟨⟨text, rfl, -⟩, hgiven⟩ := htype
  have htext : text ≠ "" := fun hempty => hgiven (congrArg Json.str hempty)
  simp [htext]

/-! ## Lines of entries -/

/-- A function, an event or an error of which all names and types are words.  Inputs and outputs may
have empty names, and outputs may have none. -/
structure Entry.IsWorded (entry : Json) : Prop where
  kind : entry.Demands "type" fun kind => kind ∈ [functionKind, eventKind, errorKind]
  name : entry.Demands "name" IsWord
  inputs : Gives (entry.fieldElements "inputs") fun inputs => ∀ input ∈ inputs,
    input.Demands "type" IsGivenWord ∧ input.Demands "name" IsWord
  outputs : entry.require "type" = .ok functionKind →
    Gives (entry.fieldElements "outputs") fun outputs => ∀ output ∈ outputs,
      output.Demands "type" IsGivenWord ∧ output.Allows "name" IsWord

namespace Declaration

theorem isListed_of_parameterOf {kind input parameter : Json}
    (htype : input.Demands "type" IsGivenWord) (hname : input.Demands "name" IsWord)
    (h : parameterOf kind input = .ok parameter) : parameter.IsListed := by
  obtain ⟨type, flag, name, htype', -, hname', rfl⟩ := eq_parameterText_of_parameterOf h
  have hmark : ∀ indexed : Bool, Unbroken (if indexed then " indexed" else "") := by decide
  rw [parameterText, String.append_assoc, String.append_assoc]
  apply (htype.of_eq_ok htype').isListed_append
  exact (hmark _).append (.append (by decide) (hname.of_eq_ok hname').unbroken)

theorem isListed_of_returnOf {output type : Json} (htype : output.Demands "type" IsGivenWord)
    (hname : output.Allows "name" IsWord) (h : returnOf output = .ok type) : type.IsListed := by
  obtain ⟨name, hname', h⟩ := bind_eq_ok_iff.mp h
  obtain ⟨declared, htype', h⟩ := bind_eq_ok_iff.mp h
  obtain rfl := pure_eq_ok_iff.mp h
  have hword : declared.IsGivenWord := htype.of_eq_ok htype'
  split
  · rename_i hgiven
    rcases hname.of_eq_ok hname' with rfl | hname
    · cases hgiven
    · rw [String.append_assoc]
      exact hword.isListed_append (.append (by decide) hname.unbroken)
  · have hlisted : (Json.str (declared.plain ++ "")).IsListed := hword.isListed_append (by decide)
    obtain ⟨⟨text, rfl, -⟩, -⟩ := hword
    simpa using hlisted

/-- Only known words stand among the modifiers of a function. -/
theorem isModifier_of_announced {mutability name : Json} {tokens : List String}
    (htokens : modifiersOf mutability name = .ok tokens) (types : List Json) :
    ∀ word ∈ announced tokens types, Line.IsModifier word := by
  have hknown : ∀ tokens ∈ [["external", "payable"], ["external"], ["external", "view"],
      ["external", "pure"]], ∀ word ∈ tokens ++ ["returns"], Line.IsModifier word := by
    unfold Line.IsModifier
    decide
  intro word hword
  apply hknown tokens (mem_of_modifiersOf htokens)
  unfold announced at hword
  split at hword
  · exact List.mem_append_left _ hword
  · exact hword

theorem eq_declaration {line : Line} {declaration : Declaration}
    (hkind : declaration.kind = .str line.kind) (hname : declaration.name = .str line.name)
    (hparameters : declaration.parameters = listOrUnset (line.parameters.map .str))
    (hmodifiers : declaration.modifiers = listOrUnset (line.modifiers.map .str))
    (hreturns : declaration.returns = listOrUnset (line.returns.map .str)) :
    declaration = line.declaration := by
  rw [Line.declaration, ← hkind, ← hname, ← hparameters, ← hmodifiers, ← hreturns]

/-- The modifiers and the returned types of a function stand on its line, and other entries have
none. -/
theorem exists_ending {entry : Json} {declaration : Declaration} {inputs parameters : List Json}
    (hentry : Entry.IsWorded entry) (h : Describes entry declaration inputs parameters) :
    ∃ modifiers returns : List String, (∀ word ∈ modifiers, Line.IsModifier word) ∧
      (∀ type ∈ returns, PlainType type) ∧
        declaration.modifiers = listOrUnset (modifiers.map .str) ∧
          declaration.returns = listOrUnset (returns.map .str) := by
  by_cases hfunction : declaration.kind = functionKind
  · obtain ⟨outputs, tokens, types, hparts⟩ := h.function hfunction
    obtain ⟨mutability, -, htokens⟩ := hparts.tokens_eq
    have houtputs := (hentry.outputs (hfunction ▸ h.kind_eq)).of_eq_ok hparts.outputs_eq
    have hlisted : ∀ type ∈ types, type.IsListed := by
      intro type htype
      obtain ⟨output, houtput, hreturn⟩ := exists_mem_of_forall₂ hparts.types_eq htype
      obtain ⟨hdeclared, hname⟩ := houtputs output houtput
      exact isListed_of_returnOf hdeclared hname hreturn
    obtain ⟨returns, rfl, hplain⟩ := exists_plain_texts hlisted
    refine ⟨announced tokens (returns.map .str), returns, isModifier_of_announced htokens _, hplain,
      ?_, hparts.returns_eq⟩
    rw [hparts.modifiers_eq, listOrUnset]
    have hgiven := hparts.head?_announced
    cases hannounced : announced tokens (returns.map .str) with
    | nil => simp [hannounced] at hgiven
    | cons word rest => rfl
  · obtain ⟨hmodifiers, hreturns⟩ := h.other hfunction
    exact ⟨[], [], by simp, by simp, hmodifiers, hreturns⟩

/-- The declaration of a worded entry is that of a plain line. -/
theorem exists_plain_line {entry : Json} {declaration : Declaration}
    (hentry : Entry.IsWorded entry) (h : ofEntry entry = .ok declaration) :
    ∃ line : Line, line.Plain ∧ declaration = line.declaration := by
  obtain ⟨inputs, parameters, hdescribes⟩ := describes_of_ofEntry h
  have hkind : ∀ kind ∈ [functionKind, eventKind, errorKind],
      ∃ text, kind = .str text ∧ ' ' ∉ text.toList := by
    intro kind hkind
    simp only [List.mem_cons, List.not_mem_nil, or_false] at hkind
    rcases hkind with rfl | rfl | rfl
    all_goals exact ⟨_, rfl, by decide⟩
  obtain ⟨kind, hkind, hblank⟩ := hkind _ (hentry.kind.of_eq_ok hdescribes.kind_eq)
  obtain ⟨name, hname, hchars⟩ := hentry.name.of_eq_ok hdescribes.name_eq
  have hinputs := hentry.inputs.of_eq_ok hdescribes.inputs_eq
  have hlisted : ∀ parameter ∈ parameters, parameter.IsListed := by
    intro parameter hparameter
    obtain ⟨input, hinput, hshown⟩ := exists_mem_of_forall₂ hdescribes.parameters_eq hparameter
    obtain ⟨htype, hname⟩ := hinputs input hinput
    exact isListed_of_parameterOf htype hname hshown
  obtain ⟨texts, rfl, hplain⟩ := exists_plain_texts hlisted
  obtain ⟨modifiers, returns, hwords, htypes, hmodifiers, hreturns⟩ :=
    exists_ending hentry hdescribes
  refine ⟨⟨kind, name, texts, modifiers, returns⟩, ?_, ?_⟩
  · exact ⟨hblank, fun hopen => (hchars _ hopen).2.2.1 rfl, hplain, hwords, htypes⟩
  · exact eq_declaration hkind hname hdescribes.declaration_parameters hmodifiers hreturns

/-- Entries of which all names and types are words have one line only if they have one declaration:
the same kind and name, and the same parameters, modifiers and returned types. -/
theorem eq_of_render_eq {entry otherEntry : Json} {declaration other : Declaration} {line : String}
    (hentry : Entry.IsWorded entry) (hother : Entry.IsWorded otherEntry)
    (hdeclared : ofEntry entry = .ok declaration)
    (hdeclared' : ofEntry otherEntry = .ok other) (hline : declaration.render = .ok line)
    (hsame : other.render = .ok line) : declaration = other := by
  obtain ⟨parts, hplain, rfl⟩ := exists_plain_line hentry hdeclared
  obtain ⟨others, hplain', rfl⟩ := exists_plain_line hother hdeclared'
  rw [Line.render_declaration] at hline hsame
  have htext : parts.text = others.text := Except.ok.inj (hline.trans hsame.symm)
  rw [Line.text_inj hplain hplain' htext]

/-! ## A function with unnamed inputs and outputs -/

/-- A function of which an input and an output have no name; what is said of the name of the output
is left open. -/
def quote (nameless : List (String × Json)) : Json := .obj [("type", .str "function"),
  ("name", .str "quote"), ("stateMutability", .str "view"),
  ("inputs", .arr [
    .obj [("name", .str ""), ("type", .str "uint256")],
    .obj [("name", .str "indexed"), ("type", .str "address")]]),
  ("outputs", .arr [
    .obj (("type", .str "uint256") :: nameless),
    .obj [("name", .str "id"), ("type", .str "bytes32")]])]

/-- The line of that function. -/
def quoteLine : String :=
  "function quote(uint256 , address indexed) external view returns (uint256, bytes32 id)"

theorem quote_isWorded {nameless : List (String × Json)}
    (hnameless : (Json.obj (("type", .str "uint256") :: nameless)).Allows "name" IsWord) :
    Entry.IsWorded (quote nameless) where
  kind := ⟨functionKind, rfl, by simp⟩
  name := ⟨_, rfl, _, rfl, by decide⟩
  inputs := by
    refine ⟨_, rfl, fun input hinput => ?_⟩
    simp only [List.mem_cons, List.not_mem_nil, or_false] at hinput
    rcases hinput with rfl | rfl
    all_goals exact ⟨⟨_, rfl, ⟨_, rfl, by decide⟩, by decide⟩, _, rfl, _, rfl, by decide⟩
  outputs _ := by
    refine ⟨_, rfl, fun output houtput => ?_⟩
    simp only [List.mem_cons, List.not_mem_nil, or_false] at houtput
    rcases houtput with rfl | rfl
    · exact ⟨⟨_, rfl, ⟨_, rfl, by decide⟩, by decide⟩, hnameless⟩
    · exact ⟨⟨_, rfl, ⟨_, rfl, by decide⟩, by decide⟩, _, rfl, Or.inr ⟨_, rfl, by decide⟩⟩

/-- An empty name and none make one line, and so one declaration. -/
theorem eq_of_render_eq_quote :
    Entry.IsWorded (quote []) ∧ Entry.IsWorded (quote [("name", .str "")]) ∧
      ∃ declaration other, ofEntry (quote []) = .ok declaration ∧
        ofEntry (quote [("name", .str "")]) = .ok other ∧
        declaration.render = .ok quoteLine ∧ other.render = .ok quoteLine ∧
        declaration = other := by
  have habsent : Entry.IsWorded (quote []) := quote_isWorded ⟨_, rfl, Or.inl rfl⟩
  have hempty : Entry.IsWorded (quote [("name", .str "")]) :=
    quote_isWorded ⟨_, rfl, Or.inr ⟨_, rfl, by decide⟩⟩
  have hquote : ∃ declaration, ofEntry (quote []) = .ok declaration ∧
      declaration.render = .ok quoteLine := ⟨_, rfl, rfl⟩
  have hother : ∃ other, ofEntry (quote [("name", .str "")]) = .ok other ∧
      other.render = .ok quoteLine := ⟨_, rfl, rfl⟩
  obtain ⟨declaration, hdeclared, hline⟩ := hquote
  obtain ⟨other, hdeclared', hsame⟩ := hother
  exact ⟨habsent, hempty, declaration, other, hdeclared, hdeclared', hline, hsame,
    eq_of_render_eq habsent hempty hdeclared hdeclared' hline hsame⟩

end Declaration
end AbiDoc
