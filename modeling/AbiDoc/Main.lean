import AbiDoc.CommandLine.Run

/-!
# The program

The command line on the real file system.  What to read, print and write is decided by
`AbiDoc.CommandLine`; here it is only carried out.
-/

namespace AbiDoc

/-- The cause for which a path could not be opened; any other failure is passed on. -/
def fileCause : IO.Error → IO FileCause
  | .noFileOrDirectory _ _ _ => return .notFound
  | .inappropriateType _ code _ => return if code = 20 then .notADirectory else .isADirectory
  | error => throw error

/-- Opens a file for reading. -/
def openFile (path : Path) : IO (Except FileError ByteArray) := do
  if path.hasNull then return .ok .empty
  try
    let handle ← IO.FS.Handle.mk path.toString .read
    return .ok (← handle.readBinToEnd)
  catch error =>
    return .error ⟨← fileCause error, path⟩

/-- Makes or overwrites a file. -/
def putFile (path : Path) (content : String) : IO (Outcome Unit) := do
  if path.hasNull then return .error .nullInPath
  try
    IO.FS.writeBinFile path.toString content.toUTF8
    return .ok ()
  catch error =>
    return .error (.unwritable ⟨← fileCause error, path⟩)

/-- Prints a report and gives its exit code; a fault that nobody reported gives one. -/
def finish (report : CommandLine.Report) : IO UInt32 := do
  (← IO.getStdout).putStr report.stdout
  (← IO.getStderr).putStr report.stderr
  match report.result with
  | .ok code => return UInt32.ofNat code
  | .error fault =>
    IO.eprintln ("The documents cannot be merged. " ++ fault.message)
    return 1

end AbiDoc

open AbiDoc in
/-- Runs the command line. -/
def main (arguments : List String) : IO UInt32 := do
  match CommandLine.interpret arguments with
  | .error report => finish report
  | .ok (verbose, request) =>
    match request.plan verbose (← openFile request.path) with
    | .finish report => finish report
    | .write path content progress closing =>
      match ← putFile path content with
      | .ok () => finish ⟨.ok 0, "", progress ++ closing⟩
      | .error fault => finish (.failed progress fault)
