import AbiDoc.ContractDoc
import AbiDoc.Proofs.JsonText
import Mathlib.Algebra.Group.Int.Defs

/-!
# The text of a documentation

A documentation of exact values is written as a JSON text that reads back as the very object that
was written.  It is written under every indentation, and under no other, that is a machine word and
for which the machine has room (`ContractDoc.exists_isTextOf_iff`), and it is read on every machine
that has room for what is open in it.  The indentation shows in the line ends and blanks alone, so
what is read is the same for all of them.
-/

namespace AbiDoc

open Json

/-! ## Exact documentation -/

structure ParamDoc.IsExact (param : ParamDoc) : Prop where
  name : param.name.IsExact
  type : param.type.IsExact
  description : param.description.IsExact
  indexed : param.indexed.IsExact

structure ReturnDoc.IsExact (ret : ReturnDoc) : Prop where
  name : ret.name.IsExact
  type : ret.type.IsExact
  description : ret.description.IsExact

structure Declaration.IsExact (declaration : Declaration) : Prop where
  kind : declaration.kind.IsExact
  name : declaration.name.IsExact
  parameters : declaration.parameters.IsExact
  modifiers : declaration.modifiers.IsExact
  returns : declaration.returns.IsExact

structure EntryDoc.IsExact (doc : EntryDoc) : Prop where
  name : doc.name.IsExact
  abi : doc.abi.IsExact
  declaration : doc.declaration.IsExact
  notice : doc.notice.IsExact
  details : doc.details.IsExact
  params : ∀ params ∈ doc.params, ∀ param ∈ params, param.IsExact
  returns : ∀ returns ∈ doc.returns, ∀ ret ∈ returns, ret.IsExact
  selector : doc.selector.IsExact

/-- The entries of a category are exact, and no signature occurs twice. -/
structure IsExactCategory (category : Assoc String EntryDoc) : Prop where
  nodup_keys : (Assoc.keys category).Nodup
  entries : ∀ entry ∈ category, entry.2.IsExact

/-- All values in a documentation are exact. -/
structure ContractDoc.IsExact (doc : ContractDoc) : Prop where
  name : doc.name.IsExact
  notice : doc.notice.IsExact
  details : doc.details.IsExact
  author : doc.author.IsExact
  title : doc.title.IsExact
  functions : IsExactCategory doc.functions
  events : IsExactCategory doc.events
  errors : IsExactCategory doc.errors

/-- What is set of a record is exact when all its parts are. -/
theorem Json.isExact_withoutNulls {members : Assoc String Json}
    (hkeys : (Assoc.keys members).Nodup) (hmembers : ∀ member ∈ members, member.2.IsExact) :
    (Json.obj (withoutNulls members)).IsExact := by
  refine .obj ?_ fun member hmember => hmembers member (List.mem_of_mem_filter hmember)
  exact hkeys.sublist (List.filter_sublist.map _)

theorem ParamDoc.IsExact.toJson {param : ParamDoc} (h : param.IsExact) : param.toJson.IsExact := by
  apply isExact_withoutNulls (by simp [Assoc.keys])
  simp [h.name, h.type, h.description, h.indexed]

theorem ReturnDoc.IsExact.toJson {ret : ReturnDoc} (h : ret.IsExact) : ret.toJson.IsExact := by
  apply Json.IsExact.obj (by simp [Assoc.keys])
  simp [h.name, h.type, h.description]

theorem Declaration.IsExact.toJson {declaration : Declaration} (h : declaration.IsExact) :
    declaration.toJson.IsExact := by
  apply isExact_withoutNulls (by simp [Assoc.keys])
  simp [h.kind, h.name, h.parameters, h.modifiers, h.returns]

theorem EntryDoc.IsExact.toJson {doc : EntryDoc} (h : doc.IsExact) : doc.toJson.IsExact := by
  have hparams : ∀ params ∈ doc.params, (Json.arr (params.map ParamDoc.toJson)).IsExact := by
    intro params hparams
    refine .arr fun item hitem => ?_
    obtain ⟨param, hparam, rfl⟩ := List.mem_map.mp hitem
    exact (h.params params hparams param hparam).toJson
  have hreturns : ∀ returns ∈ doc.returns, (Json.arr (returns.map ReturnDoc.toJson)).IsExact := by
    intro returns hreturns
    refine .arr fun item hitem => ?_
    obtain ⟨ret, hret, rfl⟩ := List.mem_map.mp hitem
    exact (h.returns returns hreturns ret hret).toJson
  apply isExact_withoutNulls
  · cases doc.params with
    | none =>
        cases doc.returns with
        | none => simp [Assoc.keys]
        | some returns => simp [Assoc.keys]
    | some params =>
        cases doc.returns with
        | none => simp [Assoc.keys]
        | some returns => simp [Assoc.keys]
  · intro member hmember
    simp only [List.mem_append, Option.mem_toList,
      Option.map_eq_some_iff] at hmember
    rcases hmember with (hmember | ⟨params, hparams', rfl⟩) | ⟨returns, hreturns', rfl⟩
    · simp only [List.mem_cons, List.not_mem_nil, or_false] at hmember
      rcases hmember with rfl | rfl | rfl | rfl | rfl | rfl
      · exact h.name
      · exact h.notice
      · exact h.details
      · exact h.selector
      · exact h.abi
      · exact h.declaration.toJson
    · exact hparams params hparams'
    · exact hreturns returns hreturns'

theorem IsExactCategory.categoryJson {category : Assoc String EntryDoc}
    (h : IsExactCategory category) : (ContractDoc.categoryJson category).IsExact := by
  have hkeys : Assoc.keys (Assoc.mapValues EntryDoc.toJson category) = Assoc.keys category := by
    simp [Assoc.keys, Assoc.mapValues]
  refine .obj (hkeys ▸ h.nodup_keys) fun member hmember => ?_
  obtain ⟨entry, hentry, rfl⟩ := List.mem_map.mp hmember
  exact (h.entries entry hentry).toJson

theorem ContractDoc.IsExact.toJson {doc : ContractDoc} (h : doc.IsExact) :
    doc.toJson.IsExact := by
  refine .obj ?_ fun member hmember => ?_
  · rw [Assoc.keys, List.map_append]
    refine List.Nodup.sublist ((List.filter_sublist.map _).append_right _) ?_
    simp
  · rcases List.mem_append.mp hmember with hmember | hmember
    · have hset := List.mem_of_mem_filter hmember
      simp only [List.mem_cons, List.not_mem_nil, or_false] at hset
      rcases hset with rfl | rfl | rfl | rfl | rfl
      · exact h.name
      · exact h.notice
      · exact h.details
      · exact h.author
      · exact h.title
    · simp only [List.mem_cons, List.not_mem_nil, or_false] at hmember
      rcases hmember with rfl | rfl | rfl
      · exact h.functions.categoryJson
      · exact h.events.categoryJson
      · exact h.errors.categoryJson

/-! ## Writing -/

section

variable [Machine]

/-- A value is written when its indentation is one and its text fits. -/
theorem Json.write_eq_ok_iff {indent : Option Int} {value : Json} {text : String} :
    value.write indent = .ok text ↔
      IsIndentation indent ∧ value.Fits (.under indent) ∧ value.render (.under indent) = text := by
  rw [write]
  by_cases hindent : IsIndentation indent
  · by_cases hfits : value.Fits (.under indent)
    · simp [hindent, hfits]
    · simp [hindent, hfits]
  · simp [hindent]

/-- A value that is not written has an indentation that is none, or its text does not fit. -/
theorem Json.write_eq_error_iff {indent : Option Int} {value : Json} {fault : Fault} :
    value.write indent = .error fault ↔
      (¬ IsIndentation indent ∧ fault = .indentTooLarge) ∨
        (IsIndentation indent ∧ ¬ value.Fits (.under indent) ∧ fault = .tooLong) := by
  rw [write]
  by_cases hindent : IsIndentation indent
  · by_cases hfits : value.Fits (.under indent)
    · simp [hindent, hfits]
    · simp [hindent, hfits, eq_comm]
  · simp [hindent, eq_comm]

end

/-- `text` is the text of a value under an indentation: it reads as that value on every machine with
room for what is open in the value, and it consists of printable ASCII and of line ends, which are
those of the indentation. -/
structure Json.IsTextOf (value : Json) (indent : Option Int) (text : String) : Prop where
  parse_eq : ∀ [Machine], value.nesting ≤ Machine.maxNesting → parse text = .ok value
  isTextChar : ∀ c ∈ text.toList, IsTextChar c
  count_lineEnds : text.toList.count '\n' = if indent.isSome then value.lineEnds else 0

theorem Json.IsExact.isTextOf_render {value : Json} (h : value.IsExact) (indent : Option Int) :
    value.IsTextOf indent (value.render (.under indent)) where
  parse_eq hroom := parse_render h hroom _
  isTextChar := by
    rw [render, String.toList_ofList]
    exact h.isTextChar _ 0
  count_lineEnds := by
    rw [render, String.toList_ofList, h.count_renderAt]
    cases indent with
    | none => exact Nat.zero_mul _
    | some indent => exact Nat.one_mul _

/-- A documentation of exact values is written, under exactly the indentations that are machine
words and for which there is room, as a text that reads back as the object of its parts. -/
theorem ContractDoc.exists_isTextOf_iff [Machine] {doc : ContractDoc} (h : doc.IsExact)
    (indent : Option Int) :
    (∃ text, doc.render indent = .ok text ∧ doc.toJson.IsTextOf indent text) ↔
      IsIndentation indent ∧ doc.toJson.Fits (.under indent) := by
  constructor
  · rintro ⟨text, htext, -⟩
    obtain ⟨hindent, hfits, -⟩ := write_eq_ok_iff.mp htext
    exact ⟨hindent, hfits⟩
  · rintro ⟨hindent, hfits⟩
    exact ⟨_, write_eq_ok_iff.mpr ⟨hindent, hfits, rfl⟩, h.toJson.isTextOf_render indent⟩

/-! ## A documentation of odd texts -/

/-- A function of which the documentation holds line ends, quotes and characters beyond ASCII. -/
def releaseDoc : EntryDoc where
  name := .str "release"
  abi := .obj [("type", .str "function"), ("inputs", .arr []), ("gas", .int (-(2 ^ 256))),
    ("pure", .bool false), ("note", .null)]
  declaration := ⟨.str "function", .str "release", .null, .arr [.str "external"], .null⟩
  notice := .str "Pays\r\n\"all\" \x7f"
  details := .null
  params := some [⟨.str "to", .str "address", .str "🙂\\é", .null⟩]
  returns := some []
  selector := .str "86d1a69f"

/-- A contract of which the title is no text. -/
def escrowDoc : ContractDoc where
  name := .str "Escrow"
  notice := .null
  details := .null
  author := .null
  title := .arr [.obj [], .arr [.int 0]]
  functions := [("release(address)", releaseDoc)]
  events := []
  errors := []

theorem releaseDoc_isExact : releaseDoc.IsExact where
  name := .str _
  abi := by
    refine .obj (by simp [Assoc.keys]) fun member hmember => ?_
    simp only [List.mem_cons, List.not_mem_nil, or_false] at hmember
    rcases hmember with rfl | rfl | rfl | rfl | rfl
    · exact .str _
    · exact .arr (by simp)
    · exact .int (by decide +kernel)
    · exact .bool _
    · exact .null
  declaration := ⟨.str _, .str _, .null, .arr (by simp [IsExact.str]), .null⟩
  notice := .str _
  details := .null
  params := by
    intro params hparams param hparam
    obtain rfl := Option.some.inj hparams
    obtain rfl := List.mem_singleton.mp hparam
    exact ⟨.str _, .str _, .str _, .null⟩
  returns := by
    intro returns hreturns ret hret
    obtain rfl := Option.some.inj hreturns
    simp at hret
  selector := .str _

theorem escrowDoc_isExact : escrowDoc.IsExact where
  name := .str _
  notice := .null
  details := .null
  author := .null
  title := by
    refine .arr fun item hitem => ?_
    simp only [List.mem_cons, List.not_mem_nil, or_false] at hitem
    rcases hitem with rfl | rfl
    · exact .obj List.nodup_nil (by simp)
    · refine .arr fun item hitem => ?_
      obtain rfl := List.mem_singleton.mp hitem
      exact .int (by decide)
  functions := by
    refine ⟨by simp [escrowDoc, Assoc.keys], fun entry hentry => ?_⟩
    obtain rfl := List.mem_singleton.mp hentry
    exact releaseDoc_isExact
  events := ⟨List.nodup_nil, by simp [escrowDoc]⟩
  errors := ⟨List.nodup_nil, by simp [escrowDoc]⟩

/-- A negative indentation is laid out like none: its text has line ends and no other blanks. -/
theorem ContractDoc.exists_isTextOf_escrow :
    escrowDoc.IsExact ∧ ∃ text, escrowDoc.render (some (-1)) = .ok text ∧
      escrowDoc.toJson.IsTextOf (some (-1)) text :=
  ⟨escrowDoc_isExact, (exists_isTextOf_iff escrowDoc_isExact _).mpr
    ⟨by decide, by decide +kernel⟩⟩

/-- A contract with nothing but a name. -/
def bareDoc : ContractDoc := ⟨.str "K", .null, .null, .null, .null, [], [], []⟩

theorem bareDoc_isExact : bareDoc.IsExact where
  name := .str _
  notice := .null
  details := .null
  author := .null
  title := .null
  functions := ⟨List.nodup_nil, by simp [bareDoc]⟩
  events := ⟨List.nodup_nil, by simp [bareDoc]⟩
  errors := ⟨List.nodup_nil, by simp [bareDoc]⟩

/-- An indentation below the least machine word makes no text, though it asks for no blanks. -/
theorem ContractDoc.not_exists_isTextOf_of_belowWord :
    bareDoc.IsExact ∧ bareDoc.render (some (-(2 ^ 63) - 1)) = .error .indentTooLarge ∧
      ¬ ∃ text, bareDoc.render (some (-(2 ^ 63) - 1)) = .ok text ∧
        bareDoc.toJson.IsTextOf (some (-(2 ^ 63) - 1)) text := by
  have hfails : bareDoc.render (some (-(2 ^ 63) - 1)) = .error .indentTooLarge := rfl
  refine ⟨bareDoc_isExact, hfails, ?_⟩
  rintro ⟨text, htext, -⟩
  rw [hfails] at htext
  cases htext

end AbiDoc
