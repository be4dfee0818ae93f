import AbiDoc.Text.Quoted

/-!
# Paths

A path as a root and the names to follow from there.  Doubled and trailing slashes and the name `.`
say nothing and are dropped; `..` is kept, since where it leads depends on the files.
-/

namespace AbiDoc

/-- Where a path starts. -/
inductive Path.Root where
  /-- At the working directory. -/
  | relative
  /-- At the root. -/
  | absolute
  /-- At the root, spelled with two slashes. -/
  | doubled
  deriving DecidableEq, Repr

/-- A path. -/
structure Path where
  root : Path.Root
  /-- The names to follow, none of them empty or `.`. -/
  names : List String
  deriving DecidableEq, Repr

namespace Path

/-- The pieces of a text between slashes. -/
def pieces : List Char → List (List Char)
  | [] => [[]]
  | '/' :: rest => [] :: pieces rest
  | c :: rest =>
    match pieces rest with
    | [] => [[c]]
    | piece :: more => (c :: piece) :: more

/-- The path that a text spells. -/
def ofString (text : String) : Path where
  root := match text.toList with
    | '/' :: '/' :: '/' :: _ => .absolute
    | '/' :: '/' :: _ => .doubled
    | '/' :: _ => .absolute
    | _ => .relative
  names := ((pieces text.toList).filter fun piece => piece ≠ [] ∧ piece ≠ ['.']).map String.ofList

/-- The text before the names. -/
def Root.text : Root → String
  | .relative => ""
  | .absolute => "/"
  | .doubled => "//"

/-- The spelling of a path. -/
def toString (path : Path) : String :=
  let text := path.root.text ++ "/".intercalate path.names
  if text = "" then "." else text

/-- No file can have a path with the null character in it. -/
def hasNull (path : Path) : Bool := path.names.any fun name => name.toList.contains '\x00'

end Path

end AbiDoc
