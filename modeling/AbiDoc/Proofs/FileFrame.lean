import AbiDoc.FileSystem
import AbiDoc.Proofs.OrderedMapping

/-!
# Places that stay

What the content of one file has to do with the rest of a file system.  A file that is put at a
place changes nothing at any other place (`node?_put_of_ne`), and what could be read elsewhere is
read as before (`read_put_of_ne`).  File systems that differ in the content of one file have their
paths lead to the same places, fail to open the same ones for the same reasons, and are written
alike (`DifferAt.read_cases`, `DifferAt.write_cases`).
-/

namespace AbiDoc
namespace FileSystem

variable {files other : FileSystem} {path : Path} {place : Location} {content : ByteArray}

/-- The files with a file put at a place. -/
def put (files : FileSystem) (place : Location) (content : ByteArray) : FileSystem :=
  { files with nodes := Assoc.insert place (.file content) files.nodes }

/-- A file is put anywhere but at the root, which is a directory. -/
theorem node?_put_self (hplace : files.node? place ≠ some .directory) (content : ByteArray) :
    (files.put place content).node? place = some (.file content) := by
  cases place with
  | nil => exact absurd rfl hplace
  | cons name names => exact Assoc.find?_insert_self _ _ _

theorem node?_put_of_ne {somewhere : Location} (hne : somewhere ≠ place) (files : FileSystem)
    (content : ByteArray) :
    (files.put place content).node? somewhere = files.node? somewhere := by
  cases somewhere with
  | nil => rfl
  | cons name names => exact Assoc.find?_insert_of_ne hne _ _

/-- A file that is put at a place replaces the one that was put there before. -/
theorem put_put (files : FileSystem) (place : Location) (old content : ByteArray) :
    (files.put place old).put place content = files.put place content := by
  simp only [put, Assoc.insert_insert]

/-! ## Where paths lead -/

/-- Directories of one file system are directories of another. -/
def KeepsDirectories (files other : FileSystem) : Prop :=
  ∀ place, files.node? place = some .directory → other.node? place = some .directory

theorem keepsDirectories_put (hplace : files.node? place ≠ some .directory)
    (content : ByteArray) : files.KeepsDirectories (files.put place content) := by
  intro somewhere hdirectory
  have hne : somewhere ≠ place := by
    rintro rfl
    exact hplace hdirectory
  rw [node?_put_of_ne hne, hdirectory]

theorem follow_cons {name : String} {rest : List String} (hname : name ≠ "..") (hrest : rest ≠ [])
    (files : FileSystem) (here : Location) :
    files.follow here (name :: rest) =
      match files.node? (here ++ [name]) with
      | none => .error .notFound
      | some (.file _) => .error .notADirectory
      | some .directory => files.follow (here ++ [name]) rest :=
  follow.eq_4 files here name rest hname hrest

/-- Names that lead somewhere lead there as long as directories are kept. -/
theorem follow_of_keepsDirectories (h : files.KeepsDirectories other) {here : Location}
    {names : List String} (hnames : files.follow here names = .ok place) :
    other.follow here names = .ok place := by
  fun_induction follow files here names with
  | case1 here => exact hnames
  | case2 here rest ih =>
      rw [follow]
      exact ih hnames
  | case3 here name hname =>
      rw [follow]
      · exact hnames
      · exact hname
  | case4 here name rest hname hrest hnode => cases hnames
  | case5 here name rest hname hrest content hnode => cases hnames
  | case6 here name rest hname hrest hnode ih =>
      rw [follow_cons hname hrest, h _ hnode]
      exact ih hnames

theorem locate_put (hplace : files.node? place ≠ some .directory) {somewhere : Location}
    (hpath : files.locate path = .ok somewhere) (content : ByteArray) :
    (files.put place content).locate path = .ok somewhere :=
  follow_of_keepsDirectories (keepsDirectories_put hplace content) hpath

/-! ## Reading and writing -/

theorem read_eq_ok_iff :
    files.read path = .ok content ↔
      ∃ place, files.locate path = .ok place ∧ files.node? place = some (.file content) := by
  rw [read]
  cases files.locate path with
  | error cause => simp
  | ok place =>
      dsimp only
      split
      · rename_i hnode
        simp [hnode]
      · rename_i hnode
        simp [hnode]
      · rename_i held hnode
        simp [hnode]

theorem write_of_locate (hpath : files.locate path = .ok place)
    (hplace : files.node? place ≠ some .directory) (content : ByteArray) :
    files.write path content = .ok (files.put place content) := by
  rw [write, hpath]
  dsimp only
  split
  · rename_i hdirectory
    exact absurd hdirectory hplace
  · rfl

/-- A file that was written is read back. -/
theorem read_put_self (hpath : files.locate path = .ok place)
    (hplace : files.node? place ≠ some .directory) (content : ByteArray) :
    (files.put place content).read path = .ok content := by
  exact read_eq_ok_iff.mpr
    ⟨place, locate_put hplace hpath content, node?_put_self hplace content⟩

/-- A file at another place is read as before. -/
theorem read_put_of_ne (hplace : files.node? place ≠ some .directory)
    (hpath : files.locate path ≠ .ok place) {held : ByteArray}
    (hread : files.read path = .ok held) (content : ByteArray) :
    (files.put place content).read path = .ok held := by
  obtain ⟨somewhere, hlocate, hnode⟩ := read_eq_ok_iff.mp hread
  refine read_eq_ok_iff.mpr ⟨somewhere, locate_put hplace hlocate content, ?_⟩
  have hne : somewhere ≠ place := by
    rintro rfl
    exact hpath hlocate
  rw [node?_put_of_ne hne, hnode]

/-! ## File systems that differ in one file -/

/-- Two file systems are the same but for a place where each has a file of its own. -/
structure DifferAt (place : Location) (content content' : ByteArray) (files other : FileSystem) :
    Prop where
  workingDirectory_eq : other.workingDirectory = files.workingDirectory
  node?_place : files.node? place = some (.file content)
  other_node?_place : other.node? place = some (.file content')
  node?_eq : ∀ somewhere, somewhere ≠ place → other.node? somewhere = files.node? somewhere

/-- A file that is replaced makes the only difference. -/
theorem differAt_put (hplace : files.node? place = some (.file content)) (content' : ByteArray) :
    DifferAt place content content' files (files.put place content') where
  workingDirectory_eq := rfl
  node?_place := hplace
  other_node?_place := node?_put_self (by rw [hplace]; simp) content'
  node?_eq _ hne := node?_put_of_ne hne files content'

namespace DifferAt

variable {content' : ByteArray}

theorem symm (h : DifferAt place content content' files other) :
    DifferAt place content' content other files where
  workingDirectory_eq := h.workingDirectory_eq.symm
  node?_place := h.other_node?_place
  other_node?_place := h.node?_place
  node?_eq somewhere hne := (h.node?_eq somewhere hne).symm

theorem keepsDirectories (h : DifferAt place content content' files other) :
    files.KeepsDirectories other := by
  intro somewhere hdirectory
  have hne : somewhere ≠ place := by
    rintro rfl
    cases hdirectory.symm.trans h.node?_place
  rw [h.node?_eq somewhere hne, hdirectory]

theorem exists_file (h : DifferAt place content content' files other) {somewhere : Location}
    {held : ByteArray} (hheld : files.node? somewhere = some (.file held)) :
    ∃ held', other.node? somewhere = some (.file held') := by
  by_cases hplace : somewhere = place
  · exact ⟨content', hplace ▸ h.other_node?_place⟩
  · exact ⟨held, (h.node?_eq somewhere hplace).trans hheld⟩

theorem follow_eq (h : DifferAt place content content' files other) (here : Location)
    (names : List String) : other.follow here names = files.follow here names := by
  fun_induction follow files here names with
  | case1 here => rfl
  | case2 here rest ih =>
      rw [follow]
      exact ih
  | case3 here name hname =>
      rw [follow]
      exact hname
  | case4 here name rest hname hrest hnode =>
      have hne : here ++ [name] ≠ place := by
        rintro rfl
        cases hnode.symm.trans h.node?_place
      rw [follow_cons hname hrest, h.node?_eq _ hne, hnode]
  | case5 here name rest hname hrest held hnode =>
      obtain ⟨held', hother⟩ := h.exists_file hnode
      rw [follow_cons hname hrest, hother]
  | case6 here name rest hname hrest hnode ih =>
      rw [follow_cons hname hrest, h.keepsDirectories _ hnode]
      exact ih

theorem locate_eq (h : DifferAt place content content' files other) (path : Path) :
    other.locate path = files.locate path := by
  rw [locate, locate, h.follow_eq, h.workingDirectory_eq]

/-- A path reads the two files that differ, or it reads the same or fails alike in both. -/
theorem read_cases (h : DifferAt place content content' files other) (path : Path) :
    (files.read path = .ok content ∧ other.read path = .ok content') ∨
      other.read path = files.read path := by
  rw [read, read, h.locate_eq]
  cases files.locate path with
  | error cause => exact Or.inr rfl
  | ok somewhere =>
      dsimp only
      by_cases hplace : somewhere = place
      · rw [hplace, h.node?_place, h.other_node?_place]
        exact Or.inl ⟨rfl, rfl⟩
      · rw [h.node?_eq somewhere hplace]
        exact Or.inr rfl

/-- A path is written at one place in both, or it cannot be written for the same reason. -/
theorem write_cases (h : DifferAt place content content' files other) (path : Path)
    (written : ByteArray) :
    (∃ error, files.write path written = .error error ∧
        other.write path written = .error error) ∨
      ∃ somewhere, files.write path written = .ok (files.put somewhere written) ∧
        other.write path written = .ok (other.put somewhere written) := by
  have hother := h.locate_eq path
  cases hlocate : files.locate path with
  | error cause =>
      rw [hlocate] at hother
      exact Or.inl ⟨⟨cause, path⟩, by rw [write, hlocate], by rw [write, hother]⟩
  | ok somewhere =>
      rw [hlocate] at hother
      by_cases hdirectory : files.node? somewhere = some .directory
      · refine Or.inl ⟨⟨.isADirectory, path⟩, ?_, ?_⟩
        · simp only [write, hlocate, hdirectory]
        · simp only [write, hother, h.keepsDirectories _ hdirectory]
      · have hkept := mt (h.symm.keepsDirectories somewhere) hdirectory
        exact Or.inr ⟨somewhere, write_of_locate hlocate hdirectory written,
          write_of_locate hother hkept written⟩

end DifferAt

end FileSystem
end AbiDoc
