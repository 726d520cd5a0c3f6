import DartSweep.Files.Glob

/-!
# The tree of a file system

Where paths lead, which names a directory lists and which paths match a glob depend on the tree of
directories and files and on what is refused in it, not on the bytes in the files.
-/
namespace DartSweep

def Node.isFile : Node → Bool
  | .directory => false
  | .file _ => true

namespace FileSystem

/-- The file systems differ at most in the bytes of their files. -/
structure SameTree (fs other : FileSystem) : Prop where
  workingDirectory : other.workingDirectory = fs.workingDirectory
  refusals : other.refusals = fs.refusals
  locations : other.nodes.map Prod.fst = fs.nodes.map Prod.fst
  isFile : ∀ location,
    (other.node? location).map Node.isFile = (fs.node? location).map Node.isFile

private theorem eq_or_files {entry other : Option Node}
    (h : other.map Node.isFile = entry.map Node.isFile) :
    other = entry ∨ ∃ bytes others, entry = some (.file bytes) ∧ other = some (.file others) := by
  match entry, other with
  | none, none => exact Or.inl rfl
  | some .directory, some .directory => exact Or.inl rfl
  | some (.file bytes), some (.file others) => exact Or.inr ⟨bytes, others, rfl, rfl⟩
  | none, some _ => simp at h
  | some _, none => simp at h
  | some .directory, some (.file _) => simp [Node.isFile] at h
  | some (.file _), some .directory => simp [Node.isFile] at h

/-- What is listed below a location is read off the locations. -/
theorem descendants_eq_inOrder (fs : FileSystem) (location : Location) :
    fs.descendants location = inOrder ((fs.nodes.map Prod.fst).filterMap fun place =>
      (location.isPrefixOf? place).filter fun rest => !rest.isEmpty && fs.lists location rest) := by
  rw [descendants, List.filterMap_map]
  congr 2
  funext entry
  dsimp only [Function.comp_apply]
  cases location.isPrefixOf? entry.1 with
  | none => rfl
  | some rest => cases rest <;> rfl

/-- A directory is listed unless that is refused. -/
theorem list_eq_of_resolve {fs : FileSystem} {path : Path} {location : Location}
    (hr : fs.resolve path = .ok location) (hd : fs.node? location = some .directory) :
    fs.list path = match fs.refusal? location with
      | none => .ok (fs.names location)
      | some reason => .error (.refused reason) := by
  simp only [list, hr, hd, bind, Except.bind]
  cases fs.refusal? location <;> rfl

namespace SameTree
variable {fs other third : FileSystem}

theorem refl (fs : FileSystem) : SameTree fs fs :=
  ⟨rfl, rfl, rfl, fun _ => rfl⟩

theorem trans (h : SameTree fs other) (hthird : SameTree other third) : SameTree fs third :=
  ⟨hthird.workingDirectory.trans h.workingDirectory, hthird.refusals.trans h.refusals,
    hthird.locations.trans h.locations,
    fun location => (hthird.isFile location).trans (h.isFile location)⟩

section
variable (h : SameTree fs other)
include h

private theorem isSome_node? (location : Location) :
    (other.node? location).isSome = (fs.node? location).isSome := by
  simpa using congrArg Option.isSome (h.isFile location)

private theorem enter_eq : other.enter = fs.enter := by
  funext location segment
  rw [enter, enter, h.isSome_node?]
  rcases eq_or_files (h.isFile location) with he | ⟨bytes, others, hfs, hother⟩
  · rw [he]
  · rw [hfs, hother]

theorem resolve_eq (path : Path) : other.resolve path = fs.resolve path := by
  rw [resolve, resolve, h.enter_eq, h.workingDirectory]

theorem refusal?_eq : other.refusal? = fs.refusal? := by
  funext location
  rw [refusal?, refusal?, h.refusals]

end
end SameTree
end FileSystem

namespace Glob
variable {fs other : FileSystem} (h : FileSystem.SameTree fs other)
include h

end Glob
end DartSweep
