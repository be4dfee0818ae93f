import AbiDoc.Proofs.FileFrame
import AbiDoc.Proofs.Loading

/-!
# The two routes of the output

A merge gives its documentation out on standard output or into a file.  Both routes are planned from
the same text (`plan_routes`), so they come to the same end, and the file that is written holds
exactly what would have been printed (`run_routesAgree`).  Nothing else in the file system is
touched, and a merge that does not overwrite its own input can be repeated without any further
change.
-/

namespace AbiDoc.CommandLine

variable {files : FileSystem} {path : Path} {place : Location} {verbose : Bool}

theorem writeText_of_locate (hnull : path.hasNull = false) (hpath : files.locate path = .ok place)
    (hplace : files.node? place ≠ some .directory) (text : String) :
    writeText files path text = .ok (files.put place text.toUTF8) := by
  rw [writeText, hnull, if_neg Bool.false_ne_true,
    FileSystem.write_of_locate hpath hplace text.toUTF8]
  rfl

namespace MergeRequest

variable {request : MergeRequest} {opened : Except FileError ByteArray}

/-- The merge with its documentation on standard output. -/
def toStdout (request : MergeRequest) : MergeRequest := { request with output := none }

/-- The merge with its documentation in a file. -/
def toFile (request : MergeRequest) (path : Path) : MergeRequest :=
  { request with output := some (.given path) }

/-! ## Planning -/

/-- What is merged depends on the input and on the contracts that are asked for. -/
theorem merged_congr [Machine] {other : MergeRequest} (hpath : request.path = other.path)
    (hcontracts : request.contracts = other.contracts) (opened : Except FileError ByteArray) :
    request.merged opened = other.merged opened := by
  simp only [merged, select, hpath, hcontracts]

/-- The plans of the two routes: the same failure, or the same text to be printed or written. -/
inductive PlannedAlike [Machine] (request : MergeRequest) (path : Path)
    (opened : Except FileError ByteArray) : Plan → Plan → Prop
  | failed (progress : String) (fault : Fault) :
      PlannedAlike request path opened (.finish (.failed progress fault))
        (.finish (.failed progress fault))
  | given {docs : Assoc String ContractDoc} (text progress closing : String)
      (hmerged : (request.merged opened).outcome = .ok docs) :
      PlannedAlike request path opened (.finish ⟨.ok 0, text, progress⟩)
        (.write path text progress closing)

/-- Where the documentation goes is looked at last, once its text is there. -/
theorem plan_routes [Machine] (request : MergeRequest) (path : Path) (verbose : Bool)
    (opened : Except FileError ByteArray) :
    request.PlannedAlike path opened (request.toStdout.plan verbose opened)
      ((request.toFile path).plan verbose opened) := by
  have hstdout : request.toStdout.merged opened = request.merged opened := merged_congr rfl rfl _
  have hfile : (request.toFile path).merged opened = request.merged opened := merged_congr rfl rfl _
  rw [plan, plan, hstdout, hfile]
  cases hmerged : (request.merged opened).outcome with
  | error fault => exact .failed _ fault
  | ok docs =>
      dsimp only [toStdout, toFile]
      cases content request.indent docs with
      | error fault => exact .failed _ fault
      | ok text => exact .given text _ _ hmerged

/-! ## Carrying out -/

theorem carryOut_write (hnull : path.hasNull = false) (hpath : files.locate path = .ok place)
    (hplace : files.node? place ≠ some .directory) (text progress closing : String) :
    (Plan.write path text progress closing).carryOut files =
      (⟨.ok 0, "", progress ++ closing⟩, files.put place text.toUTF8) := by
  rw [Plan.carryOut, writeText_of_locate hnull hpath hplace]

/-- What was written can be written once more, and that changes nothing. -/
theorem carryOut_write_again (hnull : path.hasNull = false)
    (hpath : files.locate path = .ok place) (hplace : files.node? place ≠ some .directory)
    (text progress closing : String) :
    (Plan.write path text progress closing).carryOut (files.put place text.toUTF8) =
      (⟨.ok 0, "", progress ++ closing⟩, files.put place text.toUTF8) := by
  have hfile : (files.put place text.toUTF8).node? place ≠ some .directory := by
    rw [FileSystem.node?_put_self hplace]
    simp
  rw [carryOut_write hnull (FileSystem.locate_put hplace hpath _) hfile, FileSystem.put_put]

/-- A merge that gives a documentation has read its input. -/
theorem exists_opened_of_merged [Machine] {docs : Assoc String ContractDoc}
    (hmerged : (request.merged opened).outcome = .ok docs) : ∃ content, opened = .ok content := by
  obtain ⟨output, contracts, hloads, -, -⟩ := outcome_merged_eq_ok_iff.mp hmerged
  cases opened with
  | ok content => exact ⟨content, rfl⟩
  | error error =>
      rw [Loads, CompilerOutput.outcome_ofFile, CompilerOutput.contentOf] at hloads
      split at hloads
      · cases hloads
      · cases hloads

/-- An input that was read is read again when another file was put. -/
theorem read_put_of_merged [Machine] {docs : Assoc String ContractDoc}
    (hmerged : (request.merged (files.read request.path)).outcome = .ok docs)
    (hinput : files.locate request.path ≠ .ok place)
    (hplace : files.node? place ≠ some .directory) (content : ByteArray) :
    (files.put place content).read request.path = files.read request.path := by
  obtain ⟨held, hheld⟩ := exists_opened_of_merged hmerged
  rw [hheld, FileSystem.read_put_of_ne hplace hinput hheld]

/-! ## The routes compared -/

section

variable [Machine]

/-- What a merge gives out on the two routes, `printed` on standard output and `written` to a file,
and what becomes of the files. -/
structure RoutesAgree (request : MergeRequest) (path : Path) (verbose : Bool) (files : FileSystem)
    (printed written : Report × FileSystem) : Prop where
  result_eq : written.1.result = printed.1.result
  /-- The file holds what is printed, whatever it held before. -/
  read_eq : printed.1.result = .ok 0 → written.2.read path = .ok printed.1.stdout.toUTF8
  written_stdout : written.1.stdout = ""
  printed_keeps : printed.2 = files
  written_keeps : printed.1.result ≠ .ok 0 → written.2 = files
  node?_eq : ∀ somewhere, files.locate path ≠ .ok somewhere →
    written.2.node? somewhere = files.node? somewhere
  workingDirectory_eq : written.2.workingDirectory = files.workingDirectory
  /-- Where the input is not overwritten, the merge can be repeated. -/
  repeats : printed.1.result = .ok 0 → files.locate request.path ≠ files.locate path →
    (request.toFile path).run verbose written.2 = written

theorem routesAgree_failed (progress : String) (fault : Fault) :
    request.RoutesAgree path verbose files (.failed progress fault, files)
      (.failed progress fault, files) where
  result_eq := rfl
  read_eq hresult := absurd hresult (Report.failed_result_ne progress fault)
  written_stdout := Report.failed_stdout progress fault
  printed_keeps := rfl
  written_keeps _ := rfl
  node?_eq _ _ := rfl
  workingDirectory_eq := rfl
  repeats hresult := absurd hresult (Report.failed_result_ne progress fault)

theorem routesAgree_given {docs : Assoc String ContractDoc} {text progress closing : String}
    (hmerged : (request.merged (files.read request.path)).outcome = .ok docs)
    (hplan : (request.toFile path).plan verbose (files.read request.path) =
      .write path text progress closing)
    (hnull : path.hasNull = false) (hpath : files.locate path = .ok place)
    (hplace : files.node? place ≠ some .directory) :
    request.RoutesAgree path verbose files (⟨.ok 0, text, progress⟩, files)
      (⟨.ok 0, "", progress ++ closing⟩, files.put place text.toUTF8) where
  result_eq := rfl
  read_eq _ := FileSystem.read_put_self hpath hplace text.toUTF8
  written_stdout := rfl
  printed_keeps := rfl
  written_keeps hresult := absurd rfl hresult
  node?_eq somewhere hsomewhere := by
    have hne : somewhere ≠ place := by
      rintro rfl
      exact hsomewhere hpath
    exact FileSystem.node?_put_of_ne hne files _
  workingDirectory_eq := rfl
  repeats _ hinput := by
    have hread : (files.put place text.toUTF8).read (request.toFile path).path =
        files.read request.path :=
      read_put_of_merged hmerged (hpath ▸ hinput) hplace _
    rw [run, hread, hplan, carryOut_write_again hnull hpath hplace]

/-- A merge comes to the same on both routes, under any path that can be written: it succeeds on
both or fails alike on both, the file then holds what would be printed, and no other file is
changed. -/
theorem run_routesAgree (request : MergeRequest) (verbose : Bool) (hcan : files.CanWrite path) :
    request.RoutesAgree path verbose files (request.toStdout.run verbose files)
      ((request.toFile path).run verbose files) := by
  obtain ⟨hnull, place, hpath, hplace⟩ := hcan
  have hplans := plan_routes request path verbose (files.read request.path)
  rw [run, run]
  change request.RoutesAgree path verbose files
    ((request.toStdout.plan verbose (files.read request.path)).carryOut files)
    (((request.toFile path).plan verbose (files.read request.path)).carryOut files)
  generalize request.toStdout.plan verbose (files.read request.path) = printing at hplans ⊢
  generalize hplan : (request.toFile path).plan verbose (files.read request.path) = writing
    at hplans ⊢
  cases hplans with
  | failed progress fault => exact routesAgree_failed progress fault
  | given text progress closing hmerged =>
      rw [carryOut_write hnull hpath hplace]
      exact routesAgree_given hmerged hplan hnull hpath hplace

end

/-! ## A file that is overwritten -/

def docPath : Path := ⟨.relative, ["doc.json"]⟩

/-- A directory with an output and with an older file. -/
def staleFiles : FileSystem := ⟨(["doc.json"], .file "stale".toUTF8) :: bareFiles.nodes, []⟩

/-- A merge of the output under the usual indentation. -/
def plainRequest : MergeRequest := { belowWordRequest with indent := .given 2 }

theorem staleFiles_canWrite : staleFiles.CanWrite docPath := by
  refine ⟨by decide, ["doc.json"], rfl, ?_⟩
  have hstale : staleFiles.node? ["doc.json"] = some (.file "stale".toUTF8) := rfl
  rw [hstale]
  simp

theorem plainRequest_merged :
    (plainRequest.toStdout.merged (staleFiles.read plainRequest.toStdout.path)).outcome =
      .ok [("K.sol:K", bareDoc)] := by
  have hread : staleFiles.read plainRequest.toStdout.path =
      bareFiles.read belowWordRequest.path := rfl
  have hplain : plainRequest.toStdout.merged (bareFiles.read belowWordRequest.path) =
      belowWordRequest.merged (bareFiles.read belowWordRequest.path) := merged_congr rfl rfl _
  rw [hread, hplain, belowWordRequest_merged]

theorem plainRequest_isReady : plainRequest.toStdout.IsReady staleFiles where
  merges := exists_merged_iff.mp ⟨_, plainRequest_merged⟩
  hasOutput := hasOutput_of_none rfl

/-- The merge succeeds, its file is overwritten, and it can be repeated. -/
theorem run_routesAgree_stale :
    staleFiles.CanWrite docPath ∧ (plainRequest.toStdout.run false staleFiles).1.result = .ok 0 ∧
      staleFiles.locate plainRequest.path ≠ staleFiles.locate docPath ∧
      plainRequest.RoutesAgree docPath false staleFiles
        (plainRequest.toStdout.run false staleFiles)
        ((plainRequest.toFile docPath).run false staleFiles) := by
  have hroom : plainRequest.toStdout.HasRoom staleFiles :=
    hasRoom_of_merged plainRequest_merged rfl (by decide +kernel)
  have hresult : (plainRequest.toStdout.run false staleFiles).1.result = .ok 0 :=
    run_result_of_isReady plainRequest_isReady ⟨2, rfl, by decide⟩ hroom false
  have hinput : staleFiles.locate plainRequest.path ≠ staleFiles.locate docPath := by
    intro hplace
    have hnames : (["out.json"] : Location) = ["doc.json"] := Except.ok.inj hplace
    exact absurd hnames (by decide)
  exact ⟨staleFiles_canWrite, hresult, hinput,
    run_routesAgree plainRequest false staleFiles_canWrite⟩

end MergeRequest
end AbiDoc.CommandLine
