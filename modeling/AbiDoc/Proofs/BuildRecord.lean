import AbiDoc.Proofs.FileFrame
import AbiDoc.Proofs.RunOutcome

/-!
# Build records

A build record wraps the compiler's output in a member of its own.  The record is unwrapped before
anything is asked of the output, so all that the loading of a file depends on is the unwrapped value
(`ofFile_congr`): what else the record says, and how either is spelled, plays no part.  Whole runs
therefore cannot tell a record from the output in it (`run_actsAlike`), whatever their arguments
are, and even if they overwrite the file.
-/

namespace AbiDoc

open Outcome

/-! ## Loading -/

namespace CompilerOutput

variable {members wrapper : Assoc String Json} {content content' : ByteArray} {value value' : Json}

theorem unwrap_of_plain (h : ∀ inner, Assoc.find? "output" members ≠ some (.obj inner)) :
    unwrap (.obj members) = .obj members := by
  rw [unwrap]
  split
  · rename_i inner hinner
    exact absurd hinner (h inner)
  · rfl

theorem unwrap_of_wrapped (h : Assoc.find? "output" wrapper = some (.obj members)) :
    unwrap (.obj wrapper) = .obj members := by
  rw [unwrap, h]

section

variable [Machine]

/-- The content of a file is a text that reads as a value. -/
def Holds (content : ByteArray) (value : Json) : Prop :=
  ∃ text, decode content = .ok text ∧ Json.parse text = .ok value

theorem holds_toUTF8 {text : String}
    (h : Json.parse (String.ofList (unifyLineEnds text.toList)) = .ok value) :
    Holds text.toUTF8 value :=
  ⟨_, decode_toUTF8 text, h⟩

theorem decode_bind_ofText (h : Holds content value) (path : Path) :
    (decode content >>= fun text => ofText path text) =
      if hasContracts (unwrap value) then .ok (unwrap value) else .error (.noContracts path) := by
  obtain ⟨text, htext, hvalue⟩ := h
  rw [htext, ok_bind, ofText_of_parse hvalue]

/-- Files whose values unwrap alike are loaded alike. -/
theorem ofFile_congr (h : Holds content value) (h' : Holds content' value')
    (hunwrap : unwrap value = unwrap value') (path : Path) :
    ofFile path (.ok content) = ofFile path (.ok content') := by
  have hdecoded : (decode content >>= fun text => ofText path text) =
      (decode content' >>= fun text => ofText path text) := by
    rw [decode_bind_ofText h, decode_bind_ofText h', hunwrap]
  have hloaded : (contentOf path (.ok content) >>= fun content =>
        decode content >>= fun text => ofText path text) =
      (contentOf path (.ok content') >>= fun content =>
        decode content >>= fun text => ofText path text) := by
    rw [contentOf, contentOf]
    cases path.hasNull with
    | true => rfl
    | false => exact hdecoded
  rw [ofFile, ofFile]
  exact congrArg (fun loaded => Logged.say _ >>= fun _ => Logged.quietly loaded) hloaded

end

end CompilerOutput

/-! ## Running -/

namespace CommandLine

open CompilerOutput FileSystem

variable {files other : FileSystem} {place : Location} {content content' : ByteArray}

/-- What becomes of two file systems: nothing, or the same file is put at the same place. -/
inductive WritesAlike (files other : FileSystem) : FileSystem → FileSystem → Prop
  | nothing : WritesAlike files other files other
  | file (place : Location) (content : ByteArray) :
      WritesAlike files other (files.put place content) (other.put place content)

/-- Two runs, each on files of its own, report the same and write the same. -/
structure ActsAlike (files other : FileSystem) (ended ended' : Report × FileSystem) : Prop where
  report_eq : ended'.1 = ended.1
  writes : WritesAlike files other ended.2 ended'.2

theorem actsAlike_of_report (report : Report) :
    ActsAlike files other (report, files) (report, other) where
  report_eq := rfl
  writes := .nothing

/-- A plan is carried out alike on files that differ in the content of one. -/
theorem carryOut_actsAlike (hfiles : DifferAt place content content' files other) (plan : Plan) :
    ActsAlike files other (plan.carryOut files) (plan.carryOut other) := by
  cases plan with
  | finish report => exact actsAlike_of_report report
  | write path text progress closing =>
      rw [Plan.carryOut, Plan.carryOut, writeText, writeText]
      cases path.hasNull with
      | true => exact actsAlike_of_report _
      | false =>
          rcases hfiles.write_cases path text.toUTF8 with
            ⟨error, hrefused, hrefused'⟩ | ⟨somewhere, hwritten, hwritten'⟩
          · rw [hrefused, hrefused']
            exact actsAlike_of_report _
          · rw [hwritten, hwritten']
            exact ⟨rfl, .file somewhere text.toUTF8⟩

section

variable [Machine]

/-- A merge makes the same plan of a file that is loaded alike. -/
theorem plan_eq_of_ofFile (hfiles : DifferAt place content content' files other)
    (hload : ∀ path, ofFile path (.ok content) = ofFile path (.ok content'))
    (request : MergeRequest) (verbose : Bool) :
    request.plan verbose (other.read request.path) =
      request.plan verbose (files.read request.path) := by
  rcases hfiles.read_cases request.path with ⟨hread, hread'⟩ | hread
  · have hmerged : request.merged (.ok content') = request.merged (.ok content) := by
      rw [MergeRequest.merged, MergeRequest.merged, hload]
    rw [hread, hread', MergeRequest.plan, MergeRequest.plan, hmerged]
  · rw [hread]

theorem run_actsAlike_of_ofFile (hfiles : DifferAt place content content' files other)
    (hload : ∀ path, ofFile path (.ok content) = ofFile path (.ok content'))
    (arguments : List String) :
    ActsAlike files other (run files arguments) (run other arguments) := by
  rw [run, run]
  cases interpret arguments with
  | error report => exact actsAlike_of_report report
  | ok asked =>
      obtain ⟨verbose, request⟩ := asked
      dsimp only
      rw [MergeRequest.run, MergeRequest.run, plan_eq_of_ofFile hfiles hload]
      exact carryOut_actsAlike hfiles _

/-- An output and a build record around it are interchangeable: on files that differ only in that
the one file holds the output and the other the record, every run reports the same and writes the
same. -/
theorem run_actsAlike {members wrapper : Assoc String Json}
    (hplain : ∀ inner, Assoc.find? "output" members ≠ some (.obj inner))
    (hwrapper : Assoc.find? "output" wrapper = some (.obj members))
    (hcontent : Holds content (.obj members)) (hcontent' : Holds content' (.obj wrapper))
    (hfiles : DifferAt place content content' files other) (arguments : List String) :
    ActsAlike files other (run files arguments) (run other arguments) := by
  have hunwrap : unwrap (.obj members) = unwrap (.obj wrapper) := by
    rw [unwrap_of_plain hplain, unwrap_of_wrapped hwrapper]
  exact run_actsAlike_of_ofFile hfiles (ofFile_congr hcontent hcontent' hunwrap) arguments

end

/-! ## A record with contracts of its own -/

def bareMembers : Assoc String Json := [("contracts", .obj [("K.sol", .obj [("K", .obj [])])])]

/-- A build record around the output with one contract. -/
def recordMembers : Assoc String Json :=
  [("id", .int 1), ("contracts", .obj []), ("output", .obj bareMembers)]

def recordText : String :=
  "\x7b\"id\": 1, \"contracts\": \x7b\x7d,\r\n\"output\": " ++ bareText ++ "\x7d"

/-- The directory of the output with the record in its place. -/
def recordFiles : FileSystem := bareFiles.put ["out.json"] recordText.toUTF8

/-- The output is merged into its own file, and so is the record. -/
theorem run_actsAlike_record :
    (∀ inner, Assoc.find? "output" bareMembers ≠ some (.obj inner)) ∧
      Assoc.find? "output" recordMembers = some (.obj bareMembers) ∧
      Holds bareText.toUTF8 (.obj bareMembers) ∧ Holds recordText.toUTF8 (.obj recordMembers) ∧
      DifferAt ["out.json"] bareText.toUTF8 recordText.toUTF8 bareFiles recordFiles ∧
      ActsAlike bareFiles recordFiles (run bareFiles ["merge", "out.json", "-o", "out.json"])
        (run recordFiles ["merge", "out.json", "-o", "out.json"]) := by
  have hplain : ∀ inner, Assoc.find? "output" bareMembers ≠ some (.obj inner) := by
    intro inner
    simp [bareMembers, Assoc.find?]
  have hbare : Holds bareText.toUTF8 (.obj bareMembers) := holds_toUTF8 (by decide +kernel)
  have hrecord : Holds recordText.toUTF8 (.obj recordMembers) := holds_toUTF8 (by decide +kernel)
  have hfiles : DifferAt ["out.json"] bareText.toUTF8 recordText.toUTF8 bareFiles recordFiles :=
    differAt_put rfl recordText.toUTF8
  exact ⟨hplain, rfl, hbare, hrecord, hfiles, run_actsAlike hplain rfl hbare hrecord hfiles _⟩

end CommandLine
end AbiDoc
