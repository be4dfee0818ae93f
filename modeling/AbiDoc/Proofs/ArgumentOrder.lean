import AbiDoc.Proofs.ArgumentText
import AbiDoc.Proofs.Loading

/-!
# Arguments in any order

The path of a merge and its long options with their values may stand in any order, and the values
may be any texts: the run is the merge of that path with those values (`run_eq_of_orders`).  The one
text that is no value is the divider, which leaves the option blank, as it does in the option parser
of the early 3.11 patch releases; later ones keep it (`Value.ofText`).  What a state holds after
some arguments is followed through the reading, one argument at a time (`MergeState.Holds.take`).
-/

namespace AbiDoc.CommandLine

/-! ## Arguments of a merge -/

/-- An argument of a merge: its path, or a long option with the value that it spells. -/
inductive Argument where
  | path (text : String)
  | contract (name : String)
  | output (text : String)
  | indent (width : Int)
  deriving DecidableEq, Repr

namespace Argument

/-- The argument as it is written. -/
def text : Argument → String
  | .path text => text
  | .contract name => "--contract=" ++ name
  | .output text => "--output=" ++ text
  | .indent width => "--indent=" ++ toString width

def path? : Argument → Option String
  | .path text => some text
  | _ => none

def contract? : Argument → Option String
  | .contract name => some name
  | _ => none

def output? : Argument → Option String
  | .output text => some text
  | _ => none

def indent? : Argument → Option Int
  | .indent width => some width
  | _ => none

/-- The argument can be read for what it is: a path does not look like an option, and a width has
no more digits than are read.  Names and outputs are free. -/
def IsLegible : Argument → Prop
  | .path text => text.toList.head? ≠ some '-'
  | .indent width => (Nat.toDigits 10 width.natAbs).length ≤ Text.digitLimit
  | _ => True

/-- What the command makes of the argument. -/
def token : Argument → Token
  | .path _ => .word
  | .contract name => .option .contract (.value name.toList)
  | .output text => .option .output (.value text.toList)
  | .indent width => .option .indent (.value (toString width).toList)

end Argument

/-- The value that a text behind an option comes to: itself, unless it is the divider. -/
def Value.attached (text : String) : Value String := if text = "--" then .blank else .given text

theorem Value.ofText_toList (text : String) : Value.ofText text.toList = .attached text := by
  have hdivider : text.toList = ['-', '-'] ↔ text = "--" := by
    rw [← String.toList_inj]
    rfl
  simp only [Value.ofText, Value.attached, hdivider, String.ofList_toList]

/-- The merge of a path with these values as they stand. -/
def MergeRequest.verbatim (path : String) (contracts : List String) (output : Option String)
    (indent : Option Int) : MergeRequest :=
  ⟨Path.ofString path, contracts.map .given, output.map fun text => .given (Path.ofString text),
    .given (indent.getD 2)⟩

/-- The merge that arguments with these values come to. -/
def MergeRequest.spelled (path : String) (contracts : List String) (output : Option String)
    (indent : Option Int) : MergeRequest :=
  ⟨Path.ofString path, contracts.map .attached,
    output.map fun text => MergeState.pathOf (.attached text), .given (indent.getD 2)⟩

/-- Values other than the divider reach the merge as they stand. -/
theorem MergeRequest.spelled_eq_verbatim {path : String} {contracts : List String}
    {output : Option String} {indent : Option Int} (hcontracts : "--" ∉ contracts)
    (houtput : "--" ∉ output) : spelled path contracts output indent =
      verbatim path contracts output indent := by
  have hgiven : ∀ name ∈ contracts, Value.attached name = .given name := by
    intro name hname
    exact if_neg (ne_of_mem_of_not_mem hname hcontracts)
  have hwritten : ∀ text ∈ output, Value.attached text = .given text := by
    intro text htext
    exact if_neg (ne_of_mem_of_not_mem htext houtput)
  rw [spelled, verbatim, List.map_congr_left hgiven]
  congr 1
  cases output with
  | none => rfl
  | some text => rw [Option.map_some, hwritten text rfl, MergeState.pathOf, Option.map_some]

/-- Arguments of a merge in some order: one path, an argument for each contract in their order, and
one for the output and the indentation where they are given. -/
structure Orders (arguments : List Argument) (path : String) (contracts : List String)
    (output : Option String) (indent : Option Int) : Prop where
  perm : arguments.Perm (.path path :: (contracts.map .contract ++
    (output.toList.map .output ++ indent.toList.map .indent)))
  contracts_eq : arguments.filterMap Argument.contract? = contracts

/-! ## What an argument is -/

/-- A long option of the merge that is none of the program. -/
structure IsMergeOption (start : List Char) (setting : Setting) : Prop where
  isLong : isLong start = true
  no_equals : '=' ∉ start
  found : Assoc.find? start Level.merge.spellings = some setting
  foreign : ∀ spelling ∈ Assoc.keys Level.program.spellings, start.isPrefixOf spelling = false

namespace Argument

variable {argument : Argument} {arguments : List Argument}

theorem text_cases (argument : Argument) :
    (∃ text, argument = .path text) ∨ ∃ start setting value, IsMergeOption start setting ∧
      argument.text.toList = start ++ '=' :: value ∧
      argument.token = .option setting (.value value) := by
  cases argument with
  | path text => exact Or.inl ⟨text, rfl⟩
  | contract name =>
      exact Or.inr ⟨"--contract".toList, .contract, name.toList,
        ⟨rfl, by decide, rfl, by decide⟩, String.toList_append, rfl⟩
  | output text =>
      exact Or.inr ⟨"--output".toList, .output, text.toList,
        ⟨rfl, by decide, rfl, by decide⟩, String.toList_append, rfl⟩
  | indent width =>
      exact Or.inr ⟨"--indent".toList, .indent, (toString width).toList,
        ⟨rfl, by decide, rfl, by decide⟩, String.toList_append, rfl⟩

theorem classify_merge (h : argument.IsLegible) :
    classify Level.merge.spellings argument.text.toList = argument.token := by
  obtain ⟨text, rfl⟩ | ⟨start, setting, value, hoption, htext, htoken⟩ := argument.text_cases
  · exact classify_word h
  · rw [htext, htoken]
    exact classify_behind hoption.isLong hoption.no_equals hoption.found

/-- The program can leave the argument to the command. -/
theorem classify_program (h : argument.IsLegible) :
    (classify Level.program.spellings argument.text.toList).IsClear := by
  obtain ⟨text, rfl⟩ | ⟨start, setting, value, hoption, htext, -⟩ := argument.text_cases
  · intro several
    rw [Argument.text, classify_word h]
    simp
  · rw [htext]
    exact classify_foreign hoption.isLong hoption.no_equals hoption.foreign

theorem text_ne_divider (h : argument.IsLegible) : argument.text ≠ "--" := by
  intro hdivider
  obtain ⟨text, rfl⟩ | ⟨start, setting, value, -, htext, -⟩ := argument.text_cases
  · obtain rfl : text = "--" := hdivider
    exact h rfl
  · have hequals : '=' ∈ "--".toList := by
      rw [← hdivider, htext]
      simp
    revert hequals
    decide

theorem divider_notMem (h : ∀ argument ∈ arguments, argument.IsLegible) :
    "--" ∉ arguments.map text := by
  intro hmem
  obtain ⟨argument, hargument, htext⟩ := List.mem_map.mp hmem
  exact text_ne_divider (h argument hargument) htext

theorem token_isClear (argument : Argument) : argument.token.IsClear := by
  intro several
  cases argument <;> simp [token]

theorem scan_merge (h : ∀ argument ∈ arguments, argument.IsLegible) :
    scan .merge (arguments.map text) =
      .ok (arguments.map fun argument => (argument.text, argument.token)) := by
  rw [scan_eq_ok (divider_notMem h), List.map_map]
  · congr 1
    apply List.map_congr_left
    intro argument hargument
    exact congrArg (argument.text, ·) (classify_merge (h argument hargument))
  · intro written hwritten
    obtain ⟨argument, hargument, rfl⟩ := List.mem_map.mp hwritten
    rw [classify_merge (h argument hargument)]
    exact token_isClear argument

theorem scan_program (h : ∀ argument ∈ arguments, argument.IsLegible) :
    scan .program ("merge" :: arguments.map text) = .ok (("merge", .word) ::
      (arguments.map text).map fun written =>
        (written, classify Level.program.spellings written.toList)) := by
  have hmerge : classify Level.program.spellings "merge".toList = .word :=
    classify_word (by decide)
  rw [scan_eq_ok, List.map_cons, hmerge]
  · simp [divider_notMem h]
  · intro written hwritten
    rcases List.mem_cons.mp hwritten with rfl | hwritten
    · rw [hmerge]
      exact fun several => by simp
    · obtain ⟨argument, hargument, rfl⟩ := List.mem_map.mp hwritten
      exact classify_program (h argument hargument)

end Argument

/-! ## Reading one argument after another -/

namespace MergeState

open Argument

variable {state : MergeState} {setting : Setting} {value : List Char}
  {before after : List Argument} {rest : List (String × Token)}

/-- What an argument adds to a state. -/
def take (state : MergeState) : Argument → MergeState
  | .path text => state.word text
  | .contract name => { state with contracts := state.contracts ++ [.attached name] }
  | .output text => { state with output := some (pathOf (.attached text)) }
  | .indent width => { state with indent := .given width }

theorem readAll_word (text : String) (h : ∀ divider, (divider, .divider) ∉ rest) :
    readAll state ((text, .word) :: rest) = readAll (state.word text) rest := by
  cases rest with
  | nil => rfl
  | cons entry rest =>
      obtain ⟨argument, token⟩ := entry
      cases token with
      | divider => exact absurd List.mem_cons_self (h argument)
      | _ => rfl

theorem readAll_option (argument : String) (h : setting.takesValue = true) :
    readAll state ((argument, .option setting (.value value)) :: rest) =
      state.set setting (.ofText value) >>= fun next => readAll next rest := by
  rw [readAll, readOption, readValued, if_pos h]
  simp only [setAll, List.foldlM_cons, List.foldlM_nil, bind_pure]

theorem indentOf_toString {width : Int} (h : (Argument.indent width).IsLegible) :
    indentOf (.ofText (toString width).toList) = .ok (.given width) := by
  have hread : Text.readInt? (toString width).toList = some width := Text.readInt?_toString h
  -- The divider is no number, so it is not what is written for one.
  have hdivider : toString width ≠ "--" := by
    intro hdivider
    have hnone : Text.readInt? "--".toList = none := by decide
    rw [hdivider, hnone] at hread
    cases hread
  rw [Value.ofText_toList, Value.attached, if_neg hdivider, indentOf, hread]

theorem readAll_argument (argument : Argument) (h : argument.IsLegible)
    (hrest : ∀ divider, (divider, .divider) ∉ rest) :
    readAll state ((argument.text, argument.token) :: rest) =
      readAll (state.take argument) rest := by
  cases argument with
  | path text => exact readAll_word text hrest
  | contract name =>
      rw [token, readAll_option _ rfl, Value.ofText_toList]
      rfl
  | output text =>
      rw [token, readAll_option _ rfl, Value.ofText_toList]
      rfl
  | indent width =>
      rw [token, readAll_option _ rfl, set, indentOf_toString h]
      rfl

/-- What a state holds after some arguments: the first path, every name in order, and of outputs
and of widths the last.  Nobody knows the further paths. -/
structure Holds (state : MergeState) (arguments : List Argument) : Prop where
  path_eq : state.path = (arguments.filterMap path?).head?
  contracts_eq : state.contracts = (arguments.filterMap contract?).map .attached
  output_eq : state.output =
    (arguments.filterMap output?).getLast?.map fun text => pathOf (.attached text)
  indent_eq : state.indent = .given ((arguments.filterMap indent?).getLast?.getD 2)
  unknown_eq : state.unknown = (arguments.filterMap path?).tail

theorem holds_initial : initial.Holds [] := ⟨rfl, rfl, rfl, rfl, rfl⟩

theorem word_eq {words : List String} (hpath : state.path = words.head?)
    (hunknown : state.unknown = words.tail) (text : String) :
    state.word text =
      { state with path := (words ++ [text]).head?, unknown := (words ++ [text]).tail } := by
  cases words with
  | nil => simp [word, hpath, hunknown]
  | cons first words => simp [word, ignore, hpath, hunknown]

theorem filterMap_concat {α β : Type} (f : α → Option β) (items : List α) (item : α) :
    (items ++ [item]).filterMap f = items.filterMap f ++ (f item).toList := by
  rw [List.filterMap_append]
  cases h : f item <;> simp [h]

/-- One more argument is held with those before it. -/
theorem Holds.take (h : state.Holds before) (argument : Argument) :
    (state.take argument).Holds (before ++ [argument]) := by
  obtain ⟨hpath, hcontracts, houtput, hindent, hunknown⟩ := h
  have hword := word_eq hpath hunknown
  constructor
  all_goals rw [filterMap_concat]
  case path_eq =>
    cases argument with
    | path text => rw [MergeState.take, hword]; rfl
    | _ => simpa only [MergeState.take, path?, Option.toList_none, List.append_nil] using hpath
  case contracts_eq =>
    cases argument <;> simp [MergeState.take, hword, hcontracts, contract?]
  case output_eq =>
    cases argument <;> simp [MergeState.take, hword, houtput, output?, -List.getLast?_filterMap]
  case indent_eq =>
    cases argument <;> simp [MergeState.take, hword, hindent, indent?, -List.getLast?_filterMap]
  case unknown_eq =>
    cases argument with
    | path text => rw [MergeState.take, hword]; rfl
    | _ => simpa only [MergeState.take, path?, Option.toList_none, List.append_nil] using hunknown

/-- Legible arguments are all read, and what they say is held. -/
theorem exists_readAll (hstate : state.Holds before)
    (h : ∀ argument ∈ after, argument.IsLegible) :
    ∃ final,
      readAll state (after.map fun argument => (argument.text, argument.token)) = .ok final ∧
        final.Holds (before ++ after) := by
  induction after generalizing state before with
  | nil => exact ⟨state, rfl, by rwa [List.append_nil]⟩
  | cons argument after ih =>
      have hmore : ∀ other ∈ after, other.IsLegible := fun other hother =>
        h other (List.mem_cons_of_mem _ hother)
      have hrest : ∀ divider, (divider, Token.divider) ∉
          after.map fun argument => (argument.text, argument.token) := by
        intro divider hmem
        obtain ⟨other, -, hother⟩ := List.mem_map.mp hmem
        cases other <;> cases (Prod.mk.inj hother).2
      obtain ⟨final, hfinal, hholds⟩ := ih (hstate.take argument) hmore
      refine ⟨final, ?_, by simpa using hholds⟩
      rw [List.map_cons, readAll_argument argument (h argument List.mem_cons_self) hrest, hfinal]

end MergeState

/-! ## Orders of the arguments -/

variable {arguments : List Argument} {path : String} {contracts : List String}
  {output : Option String} {indent : Option Int}

namespace Orders

open Argument

theorem isLegible (h : Orders arguments path contracts output indent)
    (hpath : path.toList.head? ≠ some '-')
    (hindent : ∀ width ∈ indent, (Nat.toDigits 10 width.natAbs).length ≤ Text.digitLimit) :
    ∀ argument ∈ arguments, argument.IsLegible := by
  intro argument hargument
  have hmem := h.perm.mem_iff.mp hargument
  simp only [List.mem_cons, List.mem_append, List.mem_map, Option.mem_toList] at hmem
  obtain rfl | ⟨name, -, rfl⟩ | ⟨text, -, rfl⟩ | ⟨width, hwidth, rfl⟩ := hmem
  · exact hpath
  · trivial
  · trivial
  · exact hindent width hwidth

theorem eq_toList_of_perm {α : Type} {items : List α} {item? : Option α}
    (h : items.Perm item?.toList) : items = item?.toList := by
  cases item? with
  | none => exact List.perm_nil.mp h
  | some item => exact List.perm_singleton.mp h

theorem paths_eq (h : Orders arguments path contracts output indent) :
    arguments.filterMap path? = [path] := by
  have hperm := h.perm.filterMap path?
  simpa [path?, List.filterMap_map, Function.comp_def] using hperm

theorem outputs_eq (h : Orders arguments path contracts output indent) :
    arguments.filterMap output? = output.toList := by
  have hperm := h.perm.filterMap output?
  apply eq_toList_of_perm
  simpa [output?, List.filterMap_cons, List.filterMap_map, Function.comp_def] using hperm

theorem indents_eq (h : Orders arguments path contracts output indent) :
    arguments.filterMap indent? = indent.toList := by
  have hperm := h.perm.filterMap indent?
  apply eq_toList_of_perm
  simpa [indent?, List.filterMap_cons, List.filterMap_map, Function.comp_def] using hperm

/-- The order of the arguments does not show in what is read off them. -/
theorem readMerge_eq (h : Orders arguments path contracts output indent)
    (hlegible : ∀ argument ∈ arguments, argument.IsLegible) :
    readMerge (arguments.map text) = .ok (.spelled path contracts output indent, []) := by
  obtain ⟨final, hread, hholds⟩ := MergeState.exists_readAll MergeState.holds_initial hlegible
  rw [List.nil_append] at hholds
  have hpath : final.path = some path := by
    rw [hholds.path_eq, h.paths_eq, List.head?_cons]
  have hcontracts : final.contracts = contracts.map .attached := by
    rw [hholds.contracts_eq, h.contracts_eq]
  have houtput : final.output = output.map fun text => MergeState.pathOf (.attached text) := by
    rw [hholds.output_eq, h.outputs_eq]
    cases output <;> rfl
  have hindent : final.indent = .given (indent.getD 2) := by
    rw [hholds.indent_eq, h.indents_eq]
    cases indent <;> rfl
  have hunknown : final.unknown = [] := by
    rw [hholds.unknown_eq, h.paths_eq, List.tail_cons]
  rw [readMerge, scan_merge hlegible, Outcome.ok_bind, hread, Outcome.ok_bind]
  simp only [hpath, hcontracts, houtput, hindent, hunknown]
  rfl

theorem readRequest_eq (h : Orders arguments path contracts output indent)
    (hlegible : ∀ argument ∈ arguments, argument.IsLegible) :
    readRequest ("merge" :: arguments.map text) =
      .ok ⟨false, some (.spelled path contracts output indent)⟩ := by
  rw [readRequest, scan_program hlegible, Outcome.ok_bind, readProgram, List.map_map]
  simp only [Function.comp_def, List.map_id', readCommand, h.readMerge_eq hlegible]
  rfl

end Orders

/-- A merge of a path with options in any order is the merge of their values.  A divider is dropped
from the values, as the option parser of the early 3.11 patch releases does. -/
theorem run_eq_of_orders [Machine] (h : Orders arguments path contracts output indent)
    (hpath : path.toList.head? ≠ some '-')
    (hindent : ∀ width ∈ indent, (Nat.toDigits 10 width.natAbs).length ≤ Text.digitLimit)
    (files : FileSystem) :
    run files ("merge" :: arguments.map Argument.text) =
      (MergeRequest.spelled path contracts output indent).run false files := by
  rw [run, interpret, h.readRequest_eq (h.isLegible hpath hindent)]

/-! ## Values that look like options -/

/-- An output with two contracts of odd names. -/
def oddText : String :=
  "\x7b\"contracts\": \x7b\"-a b.sol\": \x7b\"--\": \x7b\x7d, \"x=-y\": \x7b\x7d\x7d\x7d\x7d"

def oddOutput : Json :=
  .obj [("contracts", .obj [("-a b.sol", .obj [("--", .obj []), ("x=-y", .obj [])])])]

/-- A directory with that text in it. -/
def oddFiles : FileSystem := ⟨[(["out.json"], .file oddText.toUTF8)], []⟩

/-- Values with blanks, equals signs and dashes reach the merge from any place. -/
theorem run_eq_of_orders_odd :
    Orders [.output "all docs.json", .contract "x=-y", .indent (-1), .path "out.json",
        .contract "-a b.sol:--"] "out.json" ["x=-y", "-a b.sol:--"] (some "all docs.json")
        (some (-1)) ∧
      run oddFiles ["merge", "--output=all docs.json", "--contract=x=-y", "--indent=-1", "out.json",
          "--contract=-a b.sol:--"] =
        (MergeRequest.verbatim "out.json" ["x=-y", "-a b.sol:--"] (some "all docs.json")
          (some (-1))).run false oddFiles := by
  have horders : Orders [.output "all docs.json", .contract "x=-y", .indent (-1),
      .path "out.json", .contract "-a b.sol:--"] "out.json" ["x=-y", "-a b.sol:--"]
      (some "all docs.json") (some (-1)) := ⟨List.isPerm_iff.mp (by decide +kernel), rfl⟩
  have hrun := run_eq_of_orders horders (by decide) (by decide) oddFiles
  rw [MergeRequest.spelled_eq_verbatim (by decide) (by decide)] at hrun
  exact ⟨horders, hrun⟩

/-- A merge of that file for the contract of one name. -/
def oddRequest (name : Value String) : MergeRequest :=
  ⟨⟨.relative, ["out.json"]⟩, [name], none, .given 2⟩

theorem oddRequest_loads (name : Value String) :
    (oddRequest name).Loads (oddFiles.read (oddRequest name).path) oddOutput := by
  have hfile : (CompilerOutput.ofFile ⟨.relative, ["out.json"]⟩ (.ok oddText.toUTF8)).outcome =
      .ok oddOutput := by
    rw [CompilerOutput.outcome_ofFile_toUTF8 (by decide)]
    decide +kernel
  exact hfile

/-- What is merged for the contract with the name of the divider. -/
def oddDocs : Assoc String ContractDoc :=
  [("-a b.sol:--", ⟨.str "--", .null, .null, .null, .null, [], [], []⟩)]

theorem oddRequest_merged :
    ((oddRequest (.given "--")).merged (oddFiles.read (oddRequest (.given "--")).path)).outcome =
      .ok oddDocs := by
  have hcontracts : (oddRequest (.given "--")).Selects oddOutput
      [⟨.str "-a b.sol", .str "--", .arr [], .obj [], .obj [], .obj []⟩] :=
    .named (List.cons_ne_nil _ _) (.cons (by decide +kernel) .nil)
  exact MergeRequest.outcome_merged_eq_ok_iff.mpr
    ⟨_, _, oddRequest_loads _, hcontracts, by decide +kernel⟩

theorem oddRequest_isReady : (oddRequest (.given "--")).IsReady oddFiles where
  merges := MergeRequest.exists_merged_iff.mp ⟨_, oddRequest_merged⟩
  hasOutput := MergeRequest.hasOutput_of_none rfl

theorem oddRequest_hasRoom : (oddRequest (.given "--")).HasRoom oddFiles :=
  MergeRequest.hasRoom_of_merged oddRequest_merged rfl (by decide +kernel)

theorem oddRequest_firstFault :
    (oddRequest .blank).FirstFault (oddFiles.read (oddRequest .blank).path)
      (.contractNotFound (.arr [])) := by
  have hselect : (oddRequest .blank).select oddOutput = .error (.contractNotFound (.arr [])) := by
    decide +kernel
  apply MergeRequest.outcome_merged_eq_error_iff.mp
  rw [MergeRequest.outcome_merged, oddRequest_loads, Outcome.ok_bind, hselect, Outcome.error_bind]

theorem readRequest_divider :
    readRequest ["merge", "out.json", "--contract=--"] = .ok ⟨false, some (oddRequest .blank)⟩ := by
  decide +kernel

theorem verbatim_divider :
    MergeRequest.verbatim "out.json" ["--"] none none = oddRequest (.given "--") := by
  decide +kernel

/-- A contract that has the divider for its name is not found behind an equals sign, but a merge
for that name finds it. -/
theorem run_ne_verbatim_divider :
    Orders [.path "out.json", .contract "--"] "out.json" ["--"] none none ∧
      [Argument.path "out.json", .contract "--"].map Argument.text =
        ["out.json", "--contract=--"] ∧
      "out.json".toList.head? ≠ some '-' ∧
      (run oddFiles ["merge", "out.json", "--contract=--"]).1.result = .ok 1 ∧
      ((MergeRequest.verbatim "out.json" ["--"] none none).run false oddFiles).1.result =
        .ok 0 := by
  refine ⟨⟨List.Perm.refl _, rfl⟩, by decide +kernel, by decide, ?_, ?_⟩
  · obtain ⟨progress, hrun⟩ := run_of_firstFault readRequest_divider oddRequest_firstFault
    rw [hrun]
    exact (Report.failed_tells rfl).result
  · rw [verbatim_divider]
    exact MergeRequest.run_result_of_isReady oddRequest_isReady ⟨2, rfl, by decide⟩
      oddRequest_hasRoom false

end AbiDoc.CommandLine
