import AbiDoc.Proofs.ReaderLimits
import AbiDoc.Proofs.RunOutcome

/-!
# Loading

How the loading of a file ends.  It is meant to end in one of two ways, with an output that has an
object of contracts or with a fault of reading or of parsing (`IsClosed`), and it does so exactly
for legible files (`IsLegible`).  Any other file ends it with a fault that is not reported: its path
holds the null character, its bytes are no UTF-8, a number in it has too many digits, or more arrays
and objects are open in it than the machine has room for (`loading_outcome`).  Digits are counted
where they stand one after another, so a text without such a run of digits and with as many opening
brackets as there is room for is safe (`isLegible_of_short`).
-/

namespace AbiDoc

open Outcome

namespace CompilerOutput

variable {path : Path} {opened : Except FileError ByteArray}

/-- Loading has ended as it is meant to end. -/
inductive IsClosed : Outcome Json → Prop
  | loaded {members contracts : Assoc String Json}
      (h : Assoc.find? "contracts" members = some (.obj contracts)) :
      IsClosed (.ok (.obj members))
  | failed {fault : Fault} (h : fault.phase? = some .reading ∨ fault.phase? = some .parsing) :
      IsClosed (.error fault)

theorem IsClosed.isReported {fault : Fault} (h : IsClosed (.error fault)) :
    fault.isReported = true := by
  cases h with
  | failed hphase =>
      unfold Fault.isReported
      rcases hphase with hphase | hphase
      · simp [hphase]
      · simp [hphase]

/-! ## From the bytes to the output -/

theorem outcome_ofFile [Machine] (path : Path) (opened : Except FileError ByteArray) :
    (ofFile path opened).outcome =
      contentOf path opened >>= fun content => decode content >>= fun text => ofText path text := by
  simp only [ofFile, Logged.outcome_bind, Logged.outcome_say, Logged.outcome_quietly]
  rfl

/-- Bytes that are no text as UTF-8 are not decoded. -/
theorem decode_of_ne {content : ByteArray} (h : ∀ text : String, content ≠ text.toUTF8) :
    decode content = .error .undecodable := by
  rw [decode, String.fromUTF8?]
  split
  · rename_i text htext
    split at htext
    · rename_i hvalid
      exact absurd rfl (h (String.fromUTF8 content hvalid))
    · cases htext
  · rfl

/-- The text of a file with line feeds for its line ends. -/
def withLineFeeds (text : String) : String := String.ofList (unifyLineEnds text.toList)

/-- A text that breaks no limit and is refused is refused in the phase of parsing. -/
theorem phase?_faultOf {error : Json.SyntaxError} (hdigits : error.cause ≠ .oversizedInteger)
    (hdepth : error.cause ≠ .tooDeep) (path : Path) :
    (faultOf path error).phase? = some .parsing := by
  unfold faultOf
  split
  · rename_i hcause
    exact absurd hcause hdigits
  · rename_i hcause
    exact absurd hcause hdepth
  · rfl

theorem isClosed_of_hasContracts {output : Json} (h : hasContracts output = true) :
    IsClosed (.ok output) := by
  unfold hasContracts at h
  split at h
  · split at h
    · rename_i members _ contracts hcontracts
      exact .loaded hcontracts
    · cases h
  · cases h

section

variable [Machine]

/-- Reading a text as JSON is given up for a cause. -/
def StopsFor (cause : Json.SyntaxCause) (text : String) : Prop :=
  ∃ error, Json.parse (withLineFeeds text) = .error error ∧ error.cause = cause

/-- A number in a text has too many digits: reading the text as JSON stops there. -/
def HasOversized (text : String) : Prop := StopsFor .oversizedInteger text

/-- More arrays and objects are open in a text than the machine has room for: reading the text as
JSON stops at the bracket that opens the first of these. -/
def NestsTooDeep (text : String) : Prop := StopsFor .tooDeep text

theorem ofText_of_hasOversized {text : String} (h : HasOversized text) (path : Path) :
    ofText path (withLineFeeds text) = .error .oversizedInteger := by
  obtain ⟨error, herror, hcause⟩ := h
  rw [ofText_of_parse_error herror, faultOf, hcause]

theorem ofText_of_nestsTooDeep {text : String} (h : NestsTooDeep text) (path : Path) :
    ofText path (withLineFeeds text) = .error .tooDeep := by
  obtain ⟨error, herror, hcause⟩ := h
  rw [ofText_of_parse_error herror, faultOf, hcause]

/-- A text is loaded, or refused in the phase of parsing, unless it breaks a limit. -/
theorem isClosed_ofText {text : String} (hdigits : ¬ HasOversized text)
    (hdepth : ¬ NestsTooDeep text) (path : Path) : IsClosed (ofText path (withLineFeeds text)) := by
  cases hvalue : Json.parse (withLineFeeds text) with
  | error error =>
      have hphase : (faultOf path error).phase? = some .parsing :=
        phase?_faultOf (fun hcause => hdigits ⟨error, hvalue, hcause⟩)
          (fun hcause => hdepth ⟨error, hvalue, hcause⟩) path
      rw [ofText_of_parse_error hvalue]
      exact .failed (Or.inr hphase)
  | ok value =>
      rw [ofText_of_parse hvalue]
      split
      · rename_i hcontracts
        exact isClosed_of_hasContracts hcontracts
      · exact .failed (Or.inr rfl)

/-! ## Legible files -/

/-- A file is legible under a path: the path can be that of a file, and what the file holds, if it
can be opened, is a text that breaks no limit. -/
structure IsLegible (path : Path) (opened : Except FileError ByteArray) : Prop where
  hasNull : path.hasNull = false
  content : ∀ content, opened = .ok content →
    ∃ text : String, content = text.toUTF8 ∧ ¬ HasOversized text ∧ ¬ NestsTooDeep text

/-- The faults that escape when a file is not legible, each with what is wrong. -/
inductive Escapes (path : Path) (opened : Except FileError ByteArray) : Fault → Prop
  | nullInPath (h : path.hasNull = true) : Escapes path opened .nullInPath
  | undecodable {content : ByteArray} (hopened : opened = .ok content)
      (h : ∀ text : String, content ≠ text.toUTF8) : Escapes path opened .undecodable
  | oversizedInteger {text : String} (hopened : opened = .ok text.toUTF8)
      (h : HasOversized text) : Escapes path opened .oversizedInteger
  | tooDeep {text : String} (hopened : opened = .ok text.toUTF8) (h : NestsTooDeep text) :
      Escapes path opened .tooDeep

theorem Escapes.not_isReported {fault : Fault} (h : Escapes path opened fault) :
    fault.isReported = false := by
  cases h with
  | nullInPath => rfl
  | undecodable => rfl
  | oversizedInteger => rfl
  | tooDeep => rfl

theorem IsLegible.isClosed (h : IsLegible path opened) :
    IsClosed (ofFile path opened).outcome := by
  cases hopened : opened with
  | error error =>
      rw [outcome_ofFile, contentOf, h.hasNull]
      exact .failed (Or.inl rfl)
  | ok content =>
      obtain ⟨text, rfl, hdigits, hdepth⟩ := h.content content hopened
      rw [outcome_ofFile_toUTF8 h.hasNull]
      exact isClosed_ofText hdigits hdepth path

/-- A file that is not legible ends the loading with a fault that says what is wrong with it. -/
theorem escapes_of_not_isLegible (h : ¬ IsLegible path opened) :
    ∃ fault, (ofFile path opened).outcome = .error fault ∧ Escapes path opened fault := by
  cases hnull : path.hasNull with
  | true =>
      refine ⟨.nullInPath, ?_, .nullInPath hnull⟩
      rw [outcome_ofFile, contentOf, hnull]
      rfl
  | false =>
      have hcontent : ∃ content, opened = .ok content ∧ ∀ text : String,
          content = text.toUTF8 → ¬ HasOversized text → NestsTooDeep text := by
        by_contra hnone
        push Not at hnone
        exact h ⟨hnull, hnone⟩
      obtain ⟨content, rfl, hcontent⟩ := hcontent
      by_cases htext : ∃ text : String, content = text.toUTF8
      · obtain ⟨text, rfl⟩ := htext
        rw [outcome_ofFile_toUTF8 hnull]
        by_cases hdigits : HasOversized text
        · exact ⟨_, ofText_of_hasOversized hdigits path, .oversizedInteger rfl hdigits⟩
        · have hdepth : NestsTooDeep text := hcontent text rfl hdigits
          exact ⟨_, ofText_of_nestsTooDeep hdepth path, .tooDeep rfl hdepth⟩
      · push Not at htext
        refine ⟨.undecodable, ?_, .undecodable rfl htext⟩
        rw [outcome_ofFile, contentOf, hnull]
        change decode content >>= _ = _
        rw [decode_of_ne htext]
        rfl

theorem isClosed_iff_isLegible :
    IsClosed (ofFile path opened).outcome ↔ IsLegible path opened := by
  constructor
  · intro hclosed
    by_contra hlegible
    obtain ⟨fault, hfault, hescapes⟩ := escapes_of_not_isLegible hlegible
    rw [hfault] at hclosed
    cases hclosed.isReported.symm.trans hescapes.not_isReported
  · exact IsLegible.isClosed

end

/-! ## Short texts -/

/-- Digits do not start with a line feed. -/
theorem eq_nil_of_prefix_lineFeed {digits rest : List Char}
    (hdigits : ∀ c ∈ digits, c.isDigit = true) (h : digits <+: '\n' :: rest) : digits = [] := by
  cases digits with
  | nil => rfl
  | cons digit digits =>
      obtain ⟨rfl, -⟩ := List.cons_prefix_cons.mp h
      have hdigit := hdigits '\n' (by simp)
      cases hdigit

theorem prefix_of_prefix_unifyLineEnds {digits text : List Char}
    (hdigits : ∀ c ∈ digits, c.isDigit = true) (h : digits <+: unifyLineEnds text) :
    digits <+: text := by
  fun_induction unifyLineEnds text generalizing digits with
  | case1 rest ih =>
      rw [eq_nil_of_prefix_lineFeed hdigits h]
      exact List.nil_prefix
  | case2 rest _ ih =>
      rw [eq_nil_of_prefix_lineFeed hdigits h]
      exact List.nil_prefix
  | case3 c rest _ _ ih =>
      cases digits with
      | nil => exact List.nil_prefix
      | cons digit digits =>
          obtain ⟨rfl, hrest⟩ := List.cons_prefix_cons.mp h
          have hmore := ih (fun c hc => hdigits c (by simp [hc])) hrest
          exact List.cons_prefix_cons.mpr ⟨rfl, hmore⟩
  | case4 => exact h

/-- Digits that stand one after another in a text with line feeds for its line ends stand so in the
text itself. -/
theorem infix_of_infix_unifyLineEnds {digits text : List Char}
    (hdigits : ∀ c ∈ digits, c.isDigit = true) (h : digits <:+: unifyLineEnds text) :
    digits <:+: text := by
  fun_induction unifyLineEnds text with
  | case1 rest ih =>
      rcases List.infix_cons_iff.mp h with hfront | hrest
      · rw [eq_nil_of_prefix_lineFeed hdigits hfront]
        exact List.nil_infix
      · exact ((ih hrest).trans (List.suffix_cons _ _).isInfix).trans
          (List.suffix_cons _ _).isInfix
  | case2 rest _ ih =>
      rcases List.infix_cons_iff.mp h with hfront | hrest
      · rw [eq_nil_of_prefix_lineFeed hdigits hfront]
        exact List.nil_infix
      · exact (ih hrest).trans (List.suffix_cons _ _).isInfix
  | case3 c rest hcrlf hcr ih =>
      rcases List.infix_cons_iff.mp h with hfront | hrest
      · have hunified : unifyLineEnds (c :: rest) = c :: unifyLineEnds rest := by
          rw [unifyLineEnds]
          · exact hcrlf
          · exact hcr
        rw [← hunified] at hfront
        exact (prefix_of_prefix_unifyLineEnds hdigits hfront).isInfix
      · exact (ih hrest).trans (List.suffix_cons _ _).isInfix
  | case4 => exact h

/-- Line feeds for the line ends of a text leave its brackets as they are. -/
theorem openings_unifyLineEnds (text : List Char) :
    Json.openings (unifyLineEnds text) = Json.openings text := by
  have hlineEnds : Json.isOpening '\r' = false ∧ Json.isOpening '\n' = false := by decide
  simp only [Json.openings]
  fun_induction unifyLineEnds text with
  | case1 rest ih => simp [hlineEnds, ih]
  | case2 rest _ ih => simp [hlineEnds, ih]
  | case3 c rest _ _ ih => simp only [List.countP_cons, ih]
  | case4 => rfl

theorem withLineFeeds_brackets (count : Nat) :
    (withLineFeeds (String.ofList (List.replicate count '['))).toList =
      List.replicate count '[' := by
  rw [withLineFeeds, String.toList_ofList, String.toList_ofList]
  induction count with
  | zero => rfl
  | succ count ih =>
      rw [List.replicate_succ, unifyLineEnds, ih]
      all_goals simp

section

variable [Machine]

/-- Without a long run of digits in it, a text has no oversized numbers. -/
theorem not_hasOversized_of_short {text : String} (h : ¬ Json.HasLongRun text.toList) :
    ¬ HasOversized text := by
  rintro ⟨error, herror, hcause⟩
  obtain ⟨digits, hrun, hdigits, hlong⟩ := Json.hasLongRun_of_parse herror hcause
  rw [withLineFeeds, String.toList_ofList] at hrun
  exact h ⟨digits, infix_of_infix_unifyLineEnds hdigits hrun, hdigits, hlong⟩

/-- With as many opening brackets as there is room for, a text does not nest too deep. -/
theorem not_nestsTooDeep_of_short {text : String}
    (h : Json.openings text.toList ≤ Machine.maxNesting) : ¬ NestsTooDeep text := by
  rintro ⟨error, herror, hcause⟩
  have hopen := Json.maxNesting_lt_of_parse herror hcause
  rw [withLineFeeds, String.toList_ofList, openings_unifyLineEnds] at hopen
  exact absurd h (Nat.not_le.mpr hopen)

/-- No machine has room for every file: brackets that are opened in a row nest too deep for any. -/
theorem exists_tooDeep (hpath : path.hasNull = false) :
    ∃ text : String, (ofFile path (.ok text.toUTF8)).outcome = .error .tooDeep := by
  obtain ⟨error, herror, hcause⟩ := Json.exists_parse_brackets
    (withLineFeeds_brackets (Machine.maxNesting + 1))
  refine ⟨String.ofList (List.replicate (Machine.maxNesting + 1) '['), ?_⟩
  rw [outcome_ofFile_toUTF8 hpath]
  exact ofText_of_nestsTooDeep ⟨error, herror, hcause⟩ path

/-- A file without a long run of digits and with few brackets is legible when it is a text. -/
theorem isLegible_of_short (hpath : path.hasNull = false)
    (hcontent : ∀ content, opened = .ok content → ∃ text : String, content = text.toUTF8 ∧
      ¬ Json.HasLongRun text.toList ∧ Json.openings text.toList ≤ Machine.maxNesting) :
    IsLegible path opened where
  hasNull := hpath
  content content hopened := by
    obtain ⟨text, htext, hdigits, hdepth⟩ := hcontent content hopened
    exact ⟨text, htext, not_hasOversized_of_short hdigits, not_nestsTooDeep_of_short hdepth⟩

end

end CompilerOutput

namespace CommandLine

open CompilerOutput

variable {files : FileSystem} {arguments : List String} {request : MergeRequest} {fault : Fault}
  {verbose : Bool}

/-! ## Merges of a file that is not loaded -/

section

variable [Machine]

theorem run_of_firstFault (h : readRequest arguments = .ok ⟨verbose, some request⟩)
    (hfault : request.FirstFault (files.read request.path) fault) :
    ∃ progress, run files arguments = (.failed progress fault, files) := by
  have hmerged := MergeRequest.outcome_merged_eq_error_iff.mpr hfault
  rw [run, interpret, h]
  simp only [MergeRequest.run, MergeRequest.plan, hmerged, Plan.carryOut]
  exact ⟨_, rfl⟩

/-- How the loading of a file ends, and how a merge ends that cannot load it. -/
structure LoadingOutcome (files : FileSystem) (path : Path) (outcome : Outcome Json) : Prop where
  closed_iff : IsClosed outcome ↔ IsLegible path (files.read path)
  legible_of_short : path.hasNull = false →
    (∀ content, files.read path = .ok content → ∃ text : String, content = text.toUTF8 ∧
      ¬ Json.HasLongRun text.toList ∧ Json.openings text.toList ≤ Machine.maxNesting) →
    IsLegible path (files.read path)
  escapes : ¬ IsLegible path (files.read path) →
    ∃ fault, outcome = .error fault ∧ Escapes path (files.read path) fault
  /-- However much room a machine has, some file is too deep for it. -/
  tooDeep_escapes : path.hasNull = false →
    ∃ text : String, (ofFile path (.ok text.toUTF8)).outcome = .error .tooDeep
  merge_tells : ∀ {arguments verbose request fault},
    readRequest arguments = .ok ⟨verbose, some request⟩ → request.path = path →
    outcome = .error fault → IsLegible path (files.read path) →
    (run files arguments).1.Tells fault
  merge_ends : ∀ {arguments verbose request fault},
    readRequest arguments = .ok ⟨verbose, some request⟩ → request.path = path →
    outcome = .error fault → ¬ IsLegible path (files.read path) →
    (run files arguments).1.result = .error fault
  merge_keeps : ∀ {arguments verbose request fault},
    readRequest arguments = .ok ⟨verbose, some request⟩ → request.path = path →
    outcome = .error fault →
    (run files arguments).1.stdout = "" ∧ (run files arguments).2 = files

/-- Loading any file ends as it is meant to end exactly when the file is legible, and a merge tells
the faults of exactly the legible files. -/
theorem loading_outcome (files : FileSystem) (path : Path) :
    LoadingOutcome files path (ofFile path (files.read path)).outcome where
  closed_iff := isClosed_iff_isLegible
  legible_of_short := isLegible_of_short
  escapes := escapes_of_not_isLegible
  tooDeep_escapes := exists_tooDeep
  merge_tells := by
    rintro arguments verbose request fault hrequest rfl hfault hlegible
    have hclosed := hlegible.isClosed
    rw [hfault] at hclosed
    obtain ⟨progress, hrun⟩ := run_of_firstFault hrequest (.loading hfault)
    rw [hrun]
    exact Report.failed_tells hclosed.isReported
  merge_ends := by
    rintro arguments verbose request fault hrequest rfl hfault hillegible
    obtain ⟨other, hother, hescapes⟩ := escapes_of_not_isLegible hillegible
    obtain rfl := Except.error.inj (hfault.symm.trans hother)
    obtain ⟨progress, hrun⟩ := run_of_firstFault hrequest (.loading hfault)
    rw [hrun]
    exact Report.failed_of_not_isReported hescapes.not_isReported
  merge_keeps := by
    rintro arguments verbose request fault hrequest rfl hfault
    obtain ⟨progress, hrun⟩ := run_of_firstFault hrequest (.loading hfault)
    rw [hrun]
    exact ⟨Report.failed_stdout progress fault, rfl⟩

end

/-! ## A file with a stray byte -/

def strayPath : Path := ⟨.relative, ["a.json"]⟩

/-- A directory with a file of one byte, which starts no character. -/
def strayFiles : FileSystem := ⟨[(["a.json"], .file ⟨#[0xff]⟩)], []⟩

/-- Loading the file does not end as it is meant to end, and a merge of the file is cut short. -/
theorem not_isClosed_stray :
    ¬ IsClosed (ofFile strayPath (strayFiles.read strayPath)).outcome ∧
      (run strayFiles ["merge", "a.json"]).1.result = .error .undecodable := by
  have hfault : (ofFile strayPath (strayFiles.read strayPath)).outcome = .error .undecodable := rfl
  constructor
  · rw [hfault]
    intro hclosed
    cases hclosed.isReported
  · have hrequest : readRequest ["merge", "a.json"] =
        .ok ⟨false, some ⟨strayPath, [], none, .given 2⟩⟩ := by
      decide +kernel
    obtain ⟨progress, hrun⟩ := run_of_firstFault hrequest (.loading hfault)
    rw [hrun]
    exact Report.failed_of_not_isReported rfl

end CommandLine
end AbiDoc
