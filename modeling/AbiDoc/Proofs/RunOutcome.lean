import AbiDoc.Proofs.DocText
import AbiDoc.Proofs.MergeOutcome

/-!
# All or nothing

A run of the command line succeeds when its arguments ask for a merge for which everything is there:
the file is loaded, the contracts that are asked for are found and documented, the indentation is a
machine word, the machine has room for the text, and the file for it can be opened.  Any other run
leaves the files as they are and prints no documentation, and a merge that reports a fault reports
its first one (`run_isAllOrNothing`).
-/

namespace AbiDoc

open Outcome

/-- A file can be opened for writing under a path: the path leads somewhere, and not to a
directory. -/
def FileSystem.CanWrite (files : FileSystem) (path : Path) : Prop :=
  path.hasNull = false ∧
    ∃ location, files.locate path = .ok location ∧ files.node? location ≠ some .directory

namespace CommandLine

variable {files : FileSystem} {arguments : List String} {request : MergeRequest} {fault : Fault}
  {verbose : Bool}

/-! ## Reports of a failure -/

/-- A fault is reported: the run gives one, and the log ends with the message of the fault. -/
structure Report.Tells (report : Report) (fault : Fault) : Prop where
  isReported : fault.isReported = true
  result : report.result = .ok 1
  stderr : ∃ log, report.stderr = log ++ "Error: " ++ fault.message ++ "\n"

theorem Report.failed_tells {progress : String} (h : fault.isReported = true) :
    (Report.failed progress fault).Tells fault where
  isReported := h
  result := by
    rw [Report.failed, if_pos h]
  stderr := by
    rw [Report.failed, if_pos h]
    exact ⟨_, by simp only [faultLog, ← String.append_assoc]; rfl⟩

theorem Report.failed_of_not_isReported {progress : String} (h : fault.isReported = false) :
    (Report.failed progress fault).result = .error fault := by
  rw [Report.failed, if_neg (by simp [h])]

theorem Report.failed_result_ne (progress : String) (fault : Fault) :
    (Report.failed progress fault).result ≠ .ok 0 := by
  rw [Report.failed]
  split <;> simp

theorem Report.failed_stdout (progress : String) (fault : Fault) :
    (Report.failed progress fault).stdout = "" := by
  rw [Report.failed]
  split <;> rfl

theorem Report.failed_code_le {progress : String} {code : Nat}
    (h : (Report.failed progress fault).result = .ok code) : code ≤ 1 := by
  rw [Report.failed] at h
  split at h
  · cases h
    exact Nat.le_refl 1
  · cases h

/-! ## Giving out -/

theorem exists_writeText_iff {path : Path} {text : String} :
    (∃ written, writeText files path text = .ok written) ↔ files.CanWrite path := by
  rw [writeText, FileSystem.CanWrite, FileSystem.write]
  cases hnull : path.hasNull with
  | true => simp
  | false =>
      cases hlocation : files.locate path with
      | error cause => simp [Except.mapError]
      | ok location =>
          simp only [Bool.false_eq_true, if_false, true_and, Except.ok.injEq, exists_eq_left']
          split
          · rename_i hdirectory
            simp [hdirectory, Except.mapError]
          · rename_i hdirectory
            simpa [Except.mapError] using hdirectory

theorem not_isReported_of_writeText {path : Path} {text : String}
    (h : writeText files path text = .error fault) : fault.isReported = false := by
  rw [writeText] at h
  split at h
  · cases h
    rfl
  · cases hwrite : files.write path text.toUTF8 with
    | error error =>
        rw [hwrite] at h
        cases h
        rfl
    | ok written =>
        rw [hwrite] at h
        cases h

namespace MergeRequest

/-- The indentation that is asked for is a number and a signed machine word. -/
def HasLayout (request : MergeRequest) : Prop :=
  ∃ indent, request.indent = .given indent ∧ Json.IsIndentation (some indent)

/-- The machine has room for the text of what is merged. -/
def HasRoom [Machine] (request : MergeRequest) (files : FileSystem) : Prop :=
  ∀ docs indent, (request.merged (files.read request.path)).outcome = .ok docs →
    request.indent = .given indent → (docsJson docs).Fits (.under (some indent))

/-- Where a file is asked for, it has a name and can be opened for writing. -/
def HasOutput (request : MergeRequest) (files : FileSystem) : Prop :=
  ∀ value ∈ request.output, ∃ path, value = .given path ∧ files.CanWrite path

theorem hasOutput_of_none (houtput : request.output = none) : request.HasOutput files := by
  intro value hvalue
  rw [houtput] at hvalue
  cases hvalue

theorem not_hasOutput_of_blank (houtput : request.output = some .blank) :
    ¬ request.HasOutput files := by
  intro h
  obtain ⟨path, hpath, -⟩ := h .blank houtput
  cases hpath

theorem hasOutput_given_iff {path : Path} (houtput : request.output = some (.given path)) :
    request.HasOutput files ↔ files.CanWrite path := by
  constructor
  · intro h
    obtain ⟨other, hother, hcan⟩ := h (.given path) houtput
    rwa [Value.given.inj hother]
  · intro hcan value hvalue
    obtain rfl := Option.some.inj (houtput.symm.trans hvalue)
    exact ⟨path, rfl, hcan⟩

section

variable [Machine] {docs : Assoc String ContractDoc}

theorem hasRoom_of_merged {indent : Int}
    (hmerged : (request.merged (files.read request.path)).outcome = .ok docs)
    (hindent : request.indent = .given indent)
    (hfits : (docsJson docs).Fits (.under (some indent))) : request.HasRoom files := by
  intro other width hother hwidth
  obtain rfl := Except.ok.inj (hmerged.symm.trans hother)
  obtain rfl := Value.given.inj (hindent.symm.trans hwidth)
  exact hfits

theorem exists_content_iff
    (hmerged : (request.merged (files.read request.path)).outcome = .ok docs) :
    (∃ text, content request.indent docs = .ok text) ↔
      request.HasLayout ∧ request.HasRoom files := by
  cases hindent : request.indent with
  | blank => simp [content, HasLayout, hindent]
  | given indent =>
      simp only [content, map_eq_ok_iff, Json.write_eq_ok_iff]
      constructor
      · rintro ⟨_, _, ⟨hword, hfits, -⟩, -⟩
        exact ⟨⟨indent, hindent, hword⟩, hasRoom_of_merged hmerged hindent hfits⟩
      · rintro ⟨⟨other, hgiven, hword⟩, hroom⟩
        obtain rfl := Value.given.inj (hindent.symm.trans hgiven)
        exact ⟨_, _, ⟨hword, hroom docs indent hmerged hindent, rfl⟩, rfl⟩

theorem not_isReported_of_content (h : content request.indent docs = .error fault) :
    fault.isReported = false := by
  unfold content at h
  split at h
  · cases h
    rfl
  · rw [map_eq_error_iff, Json.write_eq_error_iff] at h
    rcases h with ⟨-, rfl⟩ | ⟨-, -, rfl⟩
    · rfl
    · rfl

end

/-! ## How a merge ends -/

/-- The documentation is given out: it is printed, or a file is written and nothing is printed. -/
inductive GivesOut (request : MergeRequest) (files : FileSystem) (text : String) (report : Report)
    (after : FileSystem) : Prop
  | printed (houtput : request.output = none) (hstdout : report.stdout = text)
      (hafter : after = files) : GivesOut request files text report after
  | written {path : Path} (houtput : request.output = some (.given path))
      (hstdout : report.stdout = "") (hafter : writeText files path text = .ok after) :
      GivesOut request files text report after

section

variable [Machine]

/-- Everything is there that a merge needs: it loads the file, finds the contracts that are asked
for, documents each of them and can open the file to write. -/
structure IsReady (request : MergeRequest) (files : FileSystem) : Prop where
  merges : ∃ output contracts, request.Loads (files.read request.path) output ∧
    request.Selects output contracts ∧ ∀ contract ∈ contracts, IsDocumented contract
  hasOutput : request.HasOutput files

/-- How a merge can end: with its first fault; with another fault that is not reported, because the
documentation cannot be given out; or with the documentation given out. -/
inductive Ends (request : MergeRequest) (files : FileSystem) : Report × FileSystem → Prop
  | faulty {fault : Fault} {progress : String}
      (hfault : request.FirstFault (files.read request.path) fault) :
      Ends request files (.failed progress fault, files)
  | kept {docs : Assoc String ContractDoc} {fault : Fault} {progress : String}
      (hmerged : (request.merged (files.read request.path)).outcome = .ok docs)
      (hkept : ¬ (request.HasLayout ∧ request.HasRoom files ∧ request.HasOutput files))
      (hfault : fault.isReported = false) : Ends request files (.failed progress fault, files)
  | given {docs : Assoc String ContractDoc} {text : String} {report : Report} {after : FileSystem}
      (hmerged : (request.merged (files.read request.path)).outcome = .ok docs)
      (htext : content request.indent docs = .ok text)
      (houtput : request.HasOutput files) (hresult : report.result = .ok 0)
      (hgiven : request.GivesOut files text report after) : Ends request files (report, after)

theorem run_ends (request : MergeRequest) (verbose : Bool) (files : FileSystem) :
    request.Ends files (request.run verbose files) := by
  rw [run, plan]
  cases hmerged : (request.merged (files.read request.path)).outcome with
  | error fault => exact .faulty (outcome_merged_eq_error_iff.mp hmerged)
  | ok docs =>
      dsimp only
      cases htext : content request.indent docs with
      | error fault =>
          have htextless : ¬ (request.HasLayout ∧ request.HasRoom files) := by
            intro h
            obtain ⟨text, hother⟩ := (exists_content_iff hmerged).mpr h
            cases htext.symm.trans hother
          exact .kept hmerged (fun h => htextless ⟨h.1, h.2.1⟩) (not_isReported_of_content htext)
      | ok text =>
          dsimp only
          split
          · rename_i houtput
            exact .given hmerged htext (hasOutput_of_none houtput) rfl (.printed houtput rfl rfl)
          · rename_i houtput
            exact .kept hmerged (fun h => not_hasOutput_of_blank houtput h.2.2) rfl
          · rename_i path houtput
            rw [Plan.carryOut]
            split
            · rename_i written hwritten
              have hcan : files.CanWrite path := exists_writeText_iff.mp ⟨written, hwritten⟩
              exact .given hmerged htext ((hasOutput_given_iff houtput).mpr hcan) rfl
                (.written houtput rfl hwritten)
            · rename_i fault hrefused
              -- What the text holds plays no part, so no text at all could have been written.
              have hcan : ¬ files.CanWrite path := by
                intro hcan
                obtain ⟨written, hwritten⟩ := exists_writeText_iff.mpr hcan
                cases hrefused.symm.trans hwritten
              exact .kept hmerged (fun h => hcan ((hasOutput_given_iff houtput).mp h.2.2))
                (not_isReported_of_writeText hrefused)

theorem exists_merged_iff :
    (∃ docs, (request.merged (files.read request.path)).outcome = .ok docs) ↔
      ∃ output contracts, request.Loads (files.read request.path) output ∧
        request.Selects output contracts ∧ ∀ contract ∈ contracts, IsDocumented contract := by
  simp only [outcome_merged_eq_ok_iff, ← exists_document_iff]
  constructor
  · rintro ⟨docs, output, contracts, houtput, hcontracts, hdocs⟩
    exact ⟨output, contracts, houtput, hcontracts, docs, hdocs⟩
  · rintro ⟨output, contracts, houtput, hcontracts, docs, hdocs⟩
    exact ⟨docs, output, contracts, houtput, hcontracts, hdocs⟩

theorem not_firstFault_of_merged {docs : Assoc String ContractDoc}
    (hmerged : (request.merged (files.read request.path)).outcome = .ok docs) (fault : Fault) :
    ¬ request.FirstFault (files.read request.path) fault := by
  intro hfault
  cases hmerged.symm.trans (outcome_merged_eq_error_iff.mpr hfault)

variable {report : Report} {after : FileSystem}

theorem Ends.succeeds_iff (h : request.Ends files (report, after)) :
    report.result = .ok 0 ↔
      request.IsReady files ∧ request.HasLayout ∧ request.HasRoom files := by
  cases h with
  | faulty hfault =>
      refine iff_of_false (Report.failed_result_ne _ _) ?_
      rintro ⟨hready, -⟩
      obtain ⟨docs, hmerged⟩ := exists_merged_iff.mpr hready.merges
      exact not_firstFault_of_merged hmerged _ hfault
  | kept hmerged hkept hfault =>
      refine iff_of_false (Report.failed_result_ne _ _) ?_
      rintro ⟨hready, hlayout, hroom⟩
      exact hkept ⟨hlayout, hroom, hready.hasOutput⟩
  | given hmerged htext houtput hresult hgiven =>
      have hready : request.IsReady files := ⟨exists_merged_iff.mp ⟨_, hmerged⟩, houtput⟩
      exact iff_of_true hresult ⟨hready, (exists_content_iff hmerged).mp ⟨_, htext⟩⟩

theorem run_result_of_isReady (hready : request.IsReady files) (hlayout : request.HasLayout)
    (hroom : request.HasRoom files) (verbose : Bool) :
    (request.run verbose files).1.result = .ok 0 := by
  have hends := request.run_ends verbose files
  generalize request.run verbose files = ending at hends ⊢
  obtain ⟨report, after⟩ := ending
  exact hends.succeeds_iff.mpr ⟨hready, hlayout, hroom⟩

theorem Ends.gives_out (h : request.Ends files (report, after)) (hresult : report.result = .ok 0) :
    ∃ docs text, (request.merged (files.read request.path)).outcome = .ok docs ∧
      content request.indent docs = .ok text ∧ request.GivesOut files text report after := by
  cases h with
  | faulty => exact absurd hresult (Report.failed_result_ne _ _)
  | kept => exact absurd hresult (Report.failed_result_ne _ _)
  | given hmerged htext _ _ hgiven => exact ⟨_, _, hmerged, htext, hgiven⟩

theorem Ends.gives_nothing (h : request.Ends files (report, after))
    (hresult : report.result ≠ .ok 0) : after = files ∧ report.stdout = "" := by
  cases h with
  | faulty => exact ⟨rfl, Report.failed_stdout _ _⟩
  | kept => exact ⟨rfl, Report.failed_stdout _ _⟩
  | given _ _ _ hok _ => exact absurd hok hresult

theorem Ends.reports_first (h : request.Ends files (report, after)) :
    report.result = .ok 1 ↔
      ∃ fault, request.FirstFault (files.read request.path) fault ∧ report.Tells fault := by
  constructor
  · intro hresult
    cases h with
    | @faulty fault progress hfault =>
        cases hreported : fault.isReported with
        | true => exact ⟨fault, hfault, Report.failed_tells hreported⟩
        | false => cases hresult.symm.trans (Report.failed_of_not_isReported hreported)
    | kept _ _ hfault => cases hresult.symm.trans (Report.failed_of_not_isReported hfault)
    | given _ _ _ hok _ => cases hresult.symm.trans hok
  · rintro ⟨fault, -, htells⟩
    exact htells.result

theorem Ends.escapes (h : request.Ends files (report, after))
    (hfault : request.FirstFault (files.read request.path) fault)
    (hescapes : fault.isReported = false) : report.result = .error fault := by
  cases h with
  | faulty hother =>
      have hmerged := outcome_merged_eq_error_iff.mpr hother
      cases hmerged.symm.trans (outcome_merged_eq_error_iff.mpr hfault)
      exact Report.failed_of_not_isReported hescapes
  | kept hmerged _ _ => exact absurd hfault (not_firstFault_of_merged hmerged fault)
  | given hmerged _ _ _ _ => exact absurd hfault (not_firstFault_of_merged hmerged fault)

theorem Ends.code_le {code : Nat} (h : request.Ends files (report, after))
    (hcode : report.result = .ok code) : code ≤ 1 := by
  cases h with
  | faulty => exact Report.failed_code_le hcode
  | kept => exact Report.failed_code_le hcode
  | given _ _ _ hok _ =>
      obtain rfl := Except.ok.inj (hcode.symm.trans hok)
      exact Nat.zero_le 1

/-- What a merge answers: it gives out the documentation when it succeeds, and it reports its first
fault, unless that is none to report and ends the run. -/
structure Answers (request : MergeRequest) (files : FileSystem) (report : Report)
    (after : FileSystem) : Prop where
  gives_out : report.result = .ok 0 → ∃ docs text,
    (request.merged (files.read request.path)).outcome = .ok docs ∧
      content request.indent docs = .ok text ∧ request.GivesOut files text report after
  reports_first : report.result = .ok 1 ↔
    ∃ fault, request.FirstFault (files.read request.path) fault ∧ report.Tells fault
  escapes : ∀ {fault}, request.FirstFault (files.read request.path) fault →
    fault.isReported = false → report.result = .error fault

theorem Ends.answers (h : request.Ends files (report, after)) :
    request.Answers files report after where
  gives_out := h.gives_out
  reports_first := h.reports_first
  escapes := h.escapes

end

end MergeRequest

/-! ## Whole runs -/

section

variable [Machine]

/-- A run succeeds exactly when its arguments ask for a merge for which everything is there.
Otherwise no file is changed and nothing but help is printed. -/
structure IsAllOrNothing (files : FileSystem) (arguments : List String) (report : Report)
    (after : FileSystem) : Prop where
  succeeds_iff : report.result = .ok 0 ↔
    ∃ verbose request, readRequest arguments = .ok ⟨verbose, some request⟩ ∧
      request.IsReady files ∧ request.HasLayout ∧ request.HasRoom files
  unchanged : report.result ≠ .ok 0 → after = files
  prints_help : report.result ≠ .ok 0 → report.stdout = "" ∨
    ∃ level, readRequest arguments = .error (.help level) ∧ report.stdout = level.help
  answers : ∀ {verbose request}, readRequest arguments = .ok ⟨verbose, some request⟩ →
    request.Answers files report after
  code_le : ∀ {code}, report.result = .ok code → code ≤ 2

theorem isAllOrNothing_of_refusal {refusal : Refusal}
    (h : readRequest arguments = .error refusal) :
    IsAllOrNothing files arguments refusal.report files where
  succeeds_iff := by
    refine iff_of_false ?_ ?_
    · cases refusal <;> simp [Refusal.report]
    · rintro ⟨verbose, request, hrequest, -⟩
      cases h.symm.trans hrequest
  unchanged _ := rfl
  prints_help _ := by
    cases refusal with
    | help level => exact Or.inr ⟨level, h, rfl⟩
    | usage level message => exact Or.inl rfl
  answers hrequest := by cases h.symm.trans hrequest
  code_le hcode := by
    cases refusal with
    | help level =>
        cases hcode
        decide
    | usage level message =>
        cases hcode
        decide

theorem isAllOrNothing_of_idle (h : readRequest arguments = .ok ⟨verbose, none⟩) :
    IsAllOrNothing files arguments ⟨.ok 1, "", Level.program.help⟩ files where
  succeeds_iff := by
    refine iff_of_false (by simp) ?_
    rintro ⟨other, request, hrequest, -⟩
    cases h.symm.trans hrequest
  unchanged _ := rfl
  prints_help _ := Or.inl rfl
  answers hrequest := by cases h.symm.trans hrequest
  code_le hcode := by
    cases hcode
    decide

theorem isAllOrNothing_of_ends {report : Report} {after : FileSystem}
    (h : readRequest arguments = .ok ⟨verbose, some request⟩)
    (hends : request.Ends files (report, after)) :
    IsAllOrNothing files arguments report after where
  succeeds_iff := by
    rw [hends.succeeds_iff]
    constructor
    · rintro ⟨hready, hlayout, hroom⟩
      exact ⟨verbose, request, h, hready, hlayout, hroom⟩
    · rintro ⟨_, _, hrequest, hready, hlayout, hroom⟩
      cases h.symm.trans hrequest
      exact ⟨hready, hlayout, hroom⟩
  unchanged hresult := (hends.gives_nothing hresult).1
  prints_help hresult := Or.inl (hends.gives_nothing hresult).2
  answers hrequest := by
    cases h.symm.trans hrequest
    exact hends.answers
  code_le hcode := Nat.le_succ_of_le (hends.code_le hcode)

/-- Every run of the command line is all or nothing. -/
theorem run_isAllOrNothing (files : FileSystem) (arguments : List String) :
    IsAllOrNothing files arguments (run files arguments).1 (run files arguments).2 := by
  rw [run, interpret]
  cases h : readRequest arguments with
  | error refusal => exact isAllOrNothing_of_refusal h
  | ok asked =>
      obtain ⟨verbose, merge⟩ := asked
      cases merge with
      | none => exact isAllOrNothing_of_idle h
      | some request => exact isAllOrNothing_of_ends h (request.run_ends verbose files)

end

/-! ## A merge that cannot be laid out -/

/-- An output with one contract, of which nothing is said. -/
def bareText : String := "\x7b\"contracts\": \x7b\"K.sol\": \x7b\"K\": \x7b\x7d\x7d\x7d\x7d"

def bareOutput : Json := .obj [("contracts", .obj [("K.sol", .obj [("K", .obj [])])])]

/-- A directory with that text in it. -/
def bareFiles : FileSystem := ⟨[(["out.json"], .file bareText.toUTF8)], []⟩

/-- A merge of that file under an indentation that is no machine word. -/
def belowWordRequest : MergeRequest :=
  ⟨⟨.relative, ["out.json"]⟩, [], none, .given (-(2 ^ 63) - 1)⟩

def belowWordArguments : List String := ["merge", "out.json", "--indent=-9223372036854775809"]

theorem readRequest_belowWord :
    readRequest belowWordArguments = .ok ⟨false, some belowWordRequest⟩ := by
  decide +kernel

theorem belowWordRequest_merged :
    (belowWordRequest.merged (bareFiles.read belowWordRequest.path)).outcome =
      .ok [("K.sol:K", bareDoc)] := by
  have hread : bareFiles.read belowWordRequest.path = .ok bareText.toUTF8 := rfl
  have houtput : belowWordRequest.Loads (bareFiles.read belowWordRequest.path) bareOutput := by
    rw [MergeRequest.Loads, hread, CompilerOutput.outcome_ofFile_toUTF8 (by decide)]
    decide +kernel
  have hcontracts : belowWordRequest.Selects bareOutput
      [⟨.str "K.sol", .str "K", .arr [], .obj [], .obj [], .obj []⟩] :=
    .all rfl rfl
  exact MergeRequest.outcome_merged_eq_ok_iff.mpr
    ⟨_, _, houtput, hcontracts, by decide +kernel⟩

theorem belowWordRequest_isReady : belowWordRequest.IsReady bareFiles where
  merges := MergeRequest.exists_merged_iff.mp ⟨_, belowWordRequest_merged⟩
  hasOutput := MergeRequest.hasOutput_of_none rfl

/-- Everything is there for a merge that is not laid out, so the merge ends with a fault. -/
theorem run_result_of_belowWord :
    (∃ verbose request, readRequest belowWordArguments = .ok ⟨verbose, some request⟩ ∧
        request.IsReady bareFiles) ∧
      (run bareFiles belowWordArguments).1.result = .error .indentTooLarge := by
  refine ⟨⟨_, _, readRequest_belowWord, belowWordRequest_isReady⟩, ?_⟩
  have hcontent : MergeRequest.content belowWordRequest.indent [("K.sol:K", bareDoc)] =
      .error .indentTooLarge := rfl
  rw [run, interpret, readRequest_belowWord]
  simp only [MergeRequest.run, MergeRequest.plan, belowWordRequest_merged, hcontent,
    Plan.carryOut]
  exact Report.failed_of_not_isReported rfl

end CommandLine
end AbiDoc
