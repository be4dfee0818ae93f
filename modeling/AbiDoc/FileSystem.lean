import AbiDoc.Assoc
import AbiDoc.Path

/-!
# Files and directories

A file system as a mapping from locations to files and directories, with a working directory.  A
location is the list of names from the root; the root itself is a directory.  Following a path
fails at the first name that is no directory, so `..` after a missing directory fails too.
-/

namespace AbiDoc

/-- The names from the root to a file or directory. -/
abbrev Location := List String

/-- What a location holds. -/
inductive FileSystem.Node where
  | file (content : ByteArray)
  | directory

/-- Files and directories by location, and the directory in which relative paths start. -/
structure FileSystem where
  nodes : Assoc Location FileSystem.Node
  workingDirectory : Location

/-- Why a path cannot be opened. -/
inductive FileCause where
  | notFound
  | notADirectory
  | isADirectory
  deriving DecidableEq, Repr

/-- A path that cannot be opened. -/
structure FileError where
  cause : FileCause
  path : Path
  deriving DecidableEq, Repr

/-- The number and the text of a cause. -/
def FileCause.text : FileCause → String
  | .notFound => "[Errno 2] No such file or directory"
  | .notADirectory => "[Errno 20] Not a directory"
  | .isADirectory => "[Errno 21] Is a directory"

/-- What a message says of a path that cannot be opened. -/
def FileError.message (error : FileError) : String :=
  error.cause.text ++ ": " ++ Text.quoted error.path.toString

namespace FileSystem

/-- What a location holds. -/
def node? (fs : FileSystem) : Location → Option Node
  | [] => some .directory
  | location => Assoc.find? location fs.nodes

/-- Follows names from a directory; only the last name may lead to something else than a
directory. -/
def follow (fs : FileSystem) (here : Location) : List String → Except FileCause Location
  | [] => .ok here
  | ".." :: rest => follow fs here.dropLast rest
  | [name] => .ok (here ++ [name])
  | name :: rest =>
    match fs.node? (here ++ [name]) with
    | none => .error .notFound
    | some (.file _) => .error .notADirectory
    | some .directory => follow fs (here ++ [name]) rest

/-- The location to which a path leads. -/
def locate (fs : FileSystem) (path : Path) : Except FileCause Location :=
  fs.follow (match path.root with | .relative => fs.workingDirectory | _ => []) path.names

/-- The bytes of a file. -/
def read (fs : FileSystem) (path : Path) : Except FileError ByteArray :=
  match fs.locate path with
  | .error cause => .error ⟨cause, path⟩
  | .ok location =>
    match fs.node? location with
    | none => .error ⟨.notFound, path⟩
    | some .directory => .error ⟨.isADirectory, path⟩
    | some (.file content) => .ok content

/-- The files after a file was made or overwritten. -/
def write (fs : FileSystem) (path : Path) (content : ByteArray) : Except FileError FileSystem :=
  match fs.locate path with
  | .error cause => .error ⟨cause, path⟩
  | .ok location =>
    match fs.node? location with
    | some .directory => .error ⟨.isADirectory, path⟩
    | _ => .ok { fs with nodes := Assoc.insert location (.file content) fs.nodes }

/-- The files with a directory and all directories above it. -/
def makeDirectory (fs : FileSystem) (location : Location) : FileSystem :=
  let above := (List.range location.length).map fun count => location.take (count + 1)
  { fs with nodes := above.foldl (fun nodes place => Assoc.insert place .directory nodes) fs.nodes }

/-- The files with one more file, and the directories above it. -/
def makeFile (fs : FileSystem) (location : Location) (content : ByteArray) : FileSystem :=
  let fs := fs.makeDirectory location.dropLast
  { fs with nodes := Assoc.insert location (.file content) fs.nodes }

/-- A file system with nothing but an empty working directory. -/
def empty (workingDirectory : Location) : FileSystem :=
  makeDirectory ⟨[], workingDirectory⟩ workingDirectory

/-- The files of `after` that `before` lacks or holds with other content. -/
def changes (before after : FileSystem) : Assoc Location ByteArray :=
  after.nodes.filterMap fun (location, node) =>
    match node with
    | .directory => none
    | .file content =>
      match before.node? location with
      | some (.file old) => if old.data = content.data then none else some (location, content)
      | _ => some (location, content)

end FileSystem

end AbiDoc
