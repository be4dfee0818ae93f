import AbiDoc.EntryDoc
import AbiDoc.Proofs.OrderedMapping
import AbiDoc.Proofs.WellFormed
import Mathlib.Tactic.TFAE

/-!
# The parts of a record

What a declaration and a record say of the entry for which they were made.  Each part comes from one
member of the entry (`Declaration.describes_of_ofEntry`, `EntryDoc.isMadeOf_of_ofEntry`).  A list of
texts has one for each input or output (`Declaration.Describes.parameters_listed`,
`Declaration.Describes.returns_listed`), and the modifiers of a function end with the word that
announces returned types exactly when there are any (`Declaration.Describes.announces_tfae`).
-/

namespace AbiDoc

open Outcome Json

namespace Declaration

/-! ## Modifiers -/

theorem mem_of_modifiersOf {mutability name : Json} {tokens : List String}
    (h : modifiersOf mutability name = .ok tokens) :
    tokens ∈
      [["external", "payable"], ["external"], ["external", "view"], ["external", "pure"]] := by
  obtain ⟨key, -, h⟩ := bind_eq_ok_iff.mp h
  cases hfound : key.bind fun key => Assoc.find? key mutabilityModifiers with
  | none =>
      rw [hfound] at h
      cases h
  | some found =>
      rw [hfound] at h
      obtain rfl := pure_eq_ok_iff.mp h
      obtain ⟨text, -, htext⟩ := Option.bind_eq_some_iff.mp hfound
      have hmem := List.mem_map_of_mem (f := Prod.snd) (Assoc.mem_of_find? htext)
      simpa [mutabilityModifiers] using hmem

theorem head?_of_modifiersOf {mutability name : Json} {tokens : List String}
    (h : modifiersOf mutability name = .ok tokens) : tokens.head? = some "external" := by
  have hmem := mem_of_modifiersOf h
  simp only [List.mem_cons, List.not_mem_nil, or_false] at hmem
  rcases hmem with rfl | rfl | rfl | rfl
  all_goals rfl

theorem returns_not_mem_of_modifiersOf {mutability name : Json} {tokens : List String}
    (h : modifiersOf mutability name = .ok tokens) : "returns" ∉ tokens := by
  have hmem := mem_of_modifiersOf h
  simp only [List.mem_cons, List.not_mem_nil, or_false] at hmem
  rcases hmem with rfl | rfl | rfl | rfl
  all_goals decide

/-! ## What a declaration says -/

/-- The modifiers of a function that returns values of some types. -/
def announced (tokens : List String) (types : List Json) : List String :=
  if types.isEmpty then tokens else tokens ++ ["returns"]

/-- What a declaration says of a function besides its inputs. -/
structure DescribesFunction (entry : Json) (declaration : Declaration) (outputs : List Json)
    (tokens : List String) (types : List Json) : Prop where
  outputs_eq : entry.fieldElements "outputs" = .ok outputs
  tokens_eq : ∃ mutability, entry.field "stateMutability" = .ok mutability ∧
    modifiersOf mutability declaration.name = .ok tokens
  types_eq : List.Forall₂ (fun output type => returnOf output = .ok type) outputs types
  modifiers_eq : declaration.modifiers = .arr ((announced tokens types).map .str)
  returns_eq : declaration.returns = listOrUnset types

/-- What a declaration says of an entry. -/
structure Describes (entry : Json) (declaration : Declaration) (inputs parameters : List Json) :
    Prop where
  kind_eq : entry.require "type" = .ok declaration.kind
  name_eq : entry.require "name" = .ok declaration.name
  inputs_eq : entry.fieldElements "inputs" = .ok inputs
  parameters_eq : List.Forall₂
    (fun input parameter => parameterOf declaration.kind input = .ok parameter) inputs parameters
  declaration_parameters : declaration.parameters = listOrUnset parameters
  function : declaration.kind = functionKind →
    ∃ outputs tokens types, DescribesFunction entry declaration outputs tokens types
  other : declaration.kind ≠ functionKind →
    declaration.modifiers = .null ∧ declaration.returns = .null
  rendered : ∃ line, declaration.render = .ok line

theorem describes_of_ofEntry {entry : Json} {declaration : Declaration}
    (h : ofEntry entry = .ok declaration) :
    ∃ inputs parameters, Describes entry declaration inputs parameters := by
  obtain ⟨kind, hkind, h⟩ := bind_eq_ok_iff.mp h
  obtain ⟨name, hname, h⟩ := bind_eq_ok_iff.mp h
  obtain ⟨inputs, hinputs, h⟩ := bind_eq_ok_iff.mp h
  obtain ⟨parameters, hparameters, h⟩ := bind_eq_ok_iff.mp h
  have hlisted := mapM_eq_ok_iff.mp hparameters
  refine ⟨inputs, parameters, ?_⟩
  dsimp only at h
  split at h
  · rename_i hfunction
    obtain ⟨mutability, hmutability, h⟩ := bind_eq_ok_iff.mp h
    obtain ⟨tokens, htokens, h⟩ := bind_eq_ok_iff.mp h
    obtain ⟨outputs, houtputs, h⟩ := bind_eq_ok_iff.mp h
    obtain ⟨types, htypes, h⟩ := bind_eq_ok_iff.mp h
    obtain ⟨made, hmade, h⟩ := bind_eq_ok_iff.mp h
    obtain ⟨line, hline, h⟩ := bind_eq_ok_iff.mp h
    obtain rfl := pure_eq_ok_iff.mp h
    obtain rfl := pure_eq_ok_iff.mp hmade
    refine ⟨hkind, hname, hinputs, hlisted, rfl, ?_, ?_, line, hline⟩
    · intro _
      refine ⟨outputs, tokens, types, ?_⟩
      exact ⟨houtputs, ⟨mutability, hmutability, htokens⟩, mapM_eq_ok_iff.mp htypes, rfl, rfl⟩
    · intro hother
      exact absurd hfunction hother
  · rename_i hother
    obtain ⟨made, hmade, h⟩ := bind_eq_ok_iff.mp h
    obtain ⟨line, hline, h⟩ := bind_eq_ok_iff.mp h
    obtain rfl := pure_eq_ok_iff.mp h
    obtain rfl := pure_eq_ok_iff.mp hmade
    refine ⟨hkind, hname, hinputs, hlisted, rfl, ?_, ?_, line, hline⟩
    · intro hfunction
      exact absurd hfunction hother
    · intro _
      exact ⟨rfl, rfl⟩

/-! ## Lists of texts -/

/-- A value lists one text for each item, or is not set where there are no items. -/
structure ListsTexts (items : List Json) (value : Json) : Prop where
  unset_iff : value = .null ↔ items = []
  texts : items ≠ [] → ∃ texts : List String,
    value = .arr (texts.map .str) ∧ texts.length = items.length

theorem listsTexts_listOrUnset {items parts : List Json} (hlength : items.length = parts.length)
    (hparts : ∀ part ∈ parts, part.IsText) : ListsTexts items (listOrUnset parts) := by
  obtain ⟨texts, rfl⟩ := exists_texts hparts
  cases items with
  | nil =>
      have hnil : texts.map Json.str = [] := List.length_eq_zero_iff.mp hlength.symm
      rw [hnil]
      exact ⟨iff_of_true rfl rfl, fun hitems => absurd rfl hitems⟩
  | cons item rest =>
      cases texts with
      | nil => simp at hlength
      | cons text texts =>
          refine ⟨by simp [listOrUnset], fun _ => ⟨text :: texts, rfl, ?_⟩⟩
          simpa using hlength.symm

theorem isText_of_parameterOf {kind input parameter : Json}
    (h : parameterOf kind input = .ok parameter) : parameter.IsText := by
  obtain ⟨indexed, -, h⟩ := ite_bind_eq_ok_iff.mp h
  obtain ⟨type, -, h⟩ := bind_eq_ok_iff.mp h
  obtain ⟨name, -, h⟩ := bind_eq_ok_iff.mp h
  exact ⟨_, (pure_eq_ok_iff.mp h).symm⟩

theorem joined_of_render {declaration : Declaration} {line : String}
    (h : declaration.render = .ok line) (hset : declaration.returns.truthy = true) :
    ∃ text, declaration.returns.joined ", " = .ok text := by
  obtain ⟨parameters, -, h⟩ := bind_eq_ok_iff.mp h
  obtain ⟨modifiers, -, h⟩ := ite_bind_eq_ok_iff.mp h
  obtain ⟨returns, hreturns, -⟩ := ite_bind_eq_ok_iff.mp h
  rw [if_pos hset] at hreturns
  obtain ⟨text, htext, -⟩ := map_eq_ok_iff.mp hreturns
  exact ⟨text, htext⟩

section

variable {entry : Json} {declaration : Declaration} {inputs parameters outputs types : List Json}
  {tokens : List String}

/-- A declaration has one parameter for each input. -/
theorem Describes.parameters_listed (h : Describes entry declaration inputs parameters) :
    ListsTexts inputs declaration.parameters := by
  rw [h.declaration_parameters]
  apply listsTexts_listOrUnset h.parameters_eq.length_eq
  intro parameter hparameter
  obtain ⟨input, -, hinput⟩ := exists_mem_of_forall₂ h.parameters_eq hparameter
  exact isText_of_parameterOf hinput

/-- A declaration has one returned type for each output.  The type of an output without a name can
be any value, but only texts can be put on a line. -/
theorem Describes.returns_listed (h : Describes entry declaration inputs parameters)
    (hfunction : DescribesFunction entry declaration outputs tokens types) :
    ListsTexts outputs declaration.returns := by
  rw [hfunction.returns_eq]
  apply listsTexts_listOrUnset hfunction.types_eq.length_eq
  intro type htype
  have hlist : listOrUnset types = .arr types := by
    cases types with
    | nil => simp at htype
    | cons first rest => rfl
  have hset : declaration.returns.truthy = true := by
    rw [hfunction.returns_eq, hlist]
    cases types with
    | nil => simp at htype
    | cons first rest => rfl
  obtain ⟨line, hline⟩ := h.rendered
  obtain ⟨text, htext⟩ := joined_of_render hline hset
  rw [hfunction.returns_eq, hlist] at htext
  obtain ⟨texts, rfl, -⟩ := joinTexts_eq_ok_iff.mp htext
  obtain ⟨found, -, rfl⟩ := List.mem_map.mp htype
  exact ⟨found, rfl⟩

theorem DescribesFunction.head?_announced
    (h : DescribesFunction entry declaration outputs tokens types) :
    (announced tokens types).head? = some "external" := by
  obtain ⟨mutability, -, htokens⟩ := h.tokens_eq
  have hhead := head?_of_modifiersOf htokens
  rw [announced]
  split
  · exact hhead
  · rw [List.head?_append, hhead]
    rfl

/-- The word `returns` stands among the modifiers when it stands at their end, when returned types
are set, and when the function has outputs. -/
theorem Describes.announces_tfae (h : Describes entry declaration inputs parameters)
    (hfunction : DescribesFunction entry declaration outputs tokens types) :
    ["returns" ∈ announced tokens types, (announced tokens types).getLast? = some "returns",
      declaration.returns ≠ .null, outputs ≠ []].TFAE := by
  obtain ⟨mutability, -, htokens⟩ := hfunction.tokens_eq
  have habsent := returns_not_mem_of_modifiersOf htokens
  have hempty : types = [] ↔ outputs = [] := by
    have hlength := hfunction.types_eq.length_eq
    rw [← List.length_eq_zero_iff, ← List.length_eq_zero_iff, hlength]
  tfae_have 2 → 1 := List.mem_of_getLast?
  tfae_have 3 ↔ 4 := not_congr (h.returns_listed hfunction).unset_iff
  tfae_have 1 → 4 := by
    intro hmem hnone
    rw [announced, hempty.mpr hnone] at hmem
    exact habsent hmem
  tfae_have 4 → 2 := by
    intro hsome
    have htypes : types.isEmpty = false := by
      simpa using mt hempty.mp hsome
    rw [announced, htypes]
    simp
  tfae_finish

end

end Declaration

theorem Description.name_of_gather {name dev user : Json} {description : Description}
    (h : gather name dev user = .ok description) : description.name = name := by
  obtain ⟨notice, -, h⟩ := bind_eq_ok_iff.mp h
  obtain ⟨details, -, h⟩ := bind_eq_ok_iff.mp h
  obtain rfl := pure_eq_ok_iff.mp h
  rfl

namespace EntryDoc

/-- A record is made of the parts of its entry, of its fragments and, for a function, of its
selector. -/
structure IsMadeOf (doc : EntryDoc) (entry dev user selector : Json) : Prop where
  abi_eq : doc.abi = entry
  name_eq : entry.require "name" = .ok doc.name
  description_eq : Description.gather doc.name dev user = .ok ⟨doc.name, doc.notice, doc.details⟩
  declaration_eq : Declaration.ofEntry entry = .ok doc.declaration
  params_eq : ParamDoc.collect dev entry = .ok doc.params
  function : doc.kind = functionKind →
    ReturnDoc.collect dev entry = .ok doc.returns ∧ doc.selector = selector
  other : doc.kind ≠ functionKind → doc.returns = none ∧ doc.selector = .null

theorem isMadeOf_of_ofEntry {doc : EntryDoc} {entry dev user selector : Json}
    (h : ofEntry entry dev user selector = .ok doc) : doc.IsMadeOf entry dev user selector := by
  obtain ⟨name, hname, h⟩ := bind_eq_ok_iff.mp h
  obtain ⟨description, hdescription, h⟩ := bind_eq_ok_iff.mp h
  obtain ⟨declaration, hdeclaration, h⟩ := bind_eq_ok_iff.mp h
  obtain ⟨params, hparams, h⟩ := bind_eq_ok_iff.mp h
  obtain ⟨type, htype, h⟩ := bind_eq_ok_iff.mp h
  obtain ⟨returns, hreturns, h⟩ := ite_bind_eq_ok_iff.mp h
  obtain rfl := pure_eq_ok_iff.mp h
  obtain rfl := Description.name_of_gather hdescription
  obtain ⟨inputs, parameters, hdescribes⟩ := Declaration.describes_of_ofEntry hdeclaration
  -- The kind is asked for twice, for the declaration and for the record.
  have hkind : type = declaration.kind := Except.ok.inj (htype.symm.trans hdescribes.kind_eq)
  refine ⟨rfl, hname, hdescription, hdeclaration, hparams, ?_, ?_⟩
  · intro hfunction
    have htest : type = functionKind := hkind.trans hfunction
    rw [if_pos htest] at hreturns
    exact ⟨hreturns, if_pos htest⟩
  · intro hother
    have htest : type ≠ functionKind := hkind.trans_ne hother
    rw [if_neg htest] at hreturns
    exact ⟨(Except.ok.inj hreturns).symm, if_neg htest⟩

end EntryDoc
end AbiDoc
