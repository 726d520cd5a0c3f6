import DartSweep.Files.Path

/-!
# File systems

A file system is a finite table of directories and files under their locations, with a working
directory. Paths are resolved segment by segment from the root or the working directory, and every
segment, an empty one too, is looked up in a directory. Names have at most 255 bytes and paths at
most 4095.

Of permissions the table knows that reading can be refused: a refused file cannot be opened, and a
refused directory cannot be listed, but what lies in it can be looked up. Searching a directory is
never refused, and neither is writing a file that could be read. Symbolic links and names that are
not Unicode have no place in the table.
-/
namespace DartSweep

/-- The names that lead from the root to an entry. -/
abbrev Location := List Name

inductive Node
  | directory
  | file (bytes : ByteArray)
deriving Inhabited

instance : DecidableEq Node
  | .directory, .directory => isTrue rfl
  | .directory, .file _ => isFalse (by simp)
  | .file _, .directory => isFalse (by simp)
  | .file bytes, .file others =>
    decidable_of_iff (bytes.data = others.data) (by simp [ByteArray.ext_iff])

inductive AccessError
  | notFound
  | notDirectory
  | isDirectory
  | nameTooLong
  | nulByte
  | notUtf8
  | refused (reason : String)
deriving DecidableEq, Repr

def AccessError.message : AccessError → String
  | notFound => "No such file or directory (os error 2)"
  | notDirectory => "Not a directory (os error 20)"
  | isDirectory => "Is a directory (os error 21)"
  | nameTooLong => "File name too long (os error 36)"
  | nulByte => "file name contained an unexpected NUL byte"
  | notUtf8 => "stream did not contain valid UTF-8"
  | refused reason => reason

/-- The number of bytes of the text's UTF-8 form. -/
def byteLength (t : Text) : Nat :=
  t.foldr (fun c count => c.utf8Size + count) 0

/-- The name is one that an entry of a directory can have. -/
structure IsName (name : Name) : Prop where
  ne_nil : name ≠ []
  ne_dot : name ≠ ['.']
  ne_dots : name ≠ ['.', '.']
  no_slash : '/' ∉ name
  no_zero : '\x00' ∉ name
  short : byteLength name ≤ 255

instance (name : Name) : Decidable (IsName name) :=
  decidable_of_iff (name ≠ [] ∧ name ≠ ['.'] ∧ name ≠ ['.', '.'] ∧ '/' ∉ name ∧ '\x00' ∉ name ∧
      byteLength name ≤ 255)
    ⟨fun ⟨hnil, hdot, hdots, hslash, hzero, hshort⟩ => ⟨hnil, hdot, hdots, hslash, hzero, hshort⟩,
      fun h => ⟨h.ne_nil, h.ne_dot, h.ne_dots, h.no_slash, h.no_zero, h.short⟩⟩

/-- The entries below the root and the directory from which relative paths start. -/
structure FileSystem where
  nodes : List (Location × Node)
  workingDirectory : Location
  /-- The locations of which the system refuses to read the entry, with its reasons. -/
  refusals : List (Location × String) := []
  proper : ∀ location ∈ nodes.map Prod.fst, ∀ name ∈ location, IsName name := by decide
  nodup : (nodes.map Prod.fst).Nodup := by decide
deriving DecidableEq

instance : Inhabited FileSystem :=
  ⟨{ nodes := [], workingDirectory := [] }⟩

def inOrder {α : Type} [Ord α] (items : List α) : List α :=
  items.mergeSort fun first second => (compare first second).isLE

namespace FileSystem

def node? (fs : FileSystem) (location : Location) : Option Node :=
  if location = [] then some .directory else fs.nodes.lookup location

def refusal? (fs : FileSystem) (location : Location) : Option String :=
  fs.refusals.lookup location

def enter (fs : FileSystem) (location : Location) (segment : Text) :
    Except AccessError Location :=
  match fs.node? location with
  | none => .error .notFound
  | some (.file _) => .error .notDirectory
  | some .directory =>
    if segment = [] ∨ segment = ['.'] then .ok location
    else if segment = ['.', '.'] then .ok location.dropLast
    else if 255 < byteLength segment then .error .nameTooLong
    else if (fs.node? (location ++ [segment])).isSome then .ok (location ++ [segment])
    else .error .notFound

def resolve (fs : FileSystem) (path : Path) : Except AccessError Location :=
  if '\x00' ∈ path then .error .nulByte
  else if path = [] then .error .notFound
  else if 4095 < byteLength path then .error .nameTooLong
  else (split '/' path).foldlM fs.enter (if path.isAbsolute then [] else fs.workingDirectory)

def nodeAt? (fs : FileSystem) (path : Path) : Option Node :=
  match fs.resolve path with
  | .error _ => none
  | .ok location => fs.node? location

def exists? (fs : FileSystem) (path : Path) : Bool :=
  (fs.nodeAt? path).isSome

def isDirectory (fs : FileSystem) (path : Path) : Bool :=
  match fs.nodeAt? path with
  | some .directory => true
  | _ => false

def isFile (fs : FileSystem) (path : Path) : Bool :=
  match fs.nodeAt? path with
  | some (.file _) => true
  | _ => false

def bytesAt (fs : FileSystem) (location : Location) : Except AccessError ByteArray :=
  match fs.node? location, fs.refusal? location with
  | none, _ => .error .notFound
  | some _, some reason => .error (.refused reason)
  | some .directory, none => .error .isDirectory
  | some (.file bytes), none => .ok bytes

def textAt (fs : FileSystem) (location : Location) : Except AccessError Text := do
  match String.fromUTF8? (← fs.bytesAt location) with
  | none => .error .notUtf8
  | some content => .ok content.toList

def readBytes (fs : FileSystem) (path : Path) : Except AccessError ByteArray := do
  fs.bytesAt (← fs.resolve path)

def readText (fs : FileSystem) (path : Path) : Except AccessError Text := do
  fs.textAt (← fs.resolve path)

theorem map_fst_replace (nodes : List (Location × Node)) (location : Location) (node : Node) :
    (nodes.map fun entry => if entry.1 = location then (location, node) else entry).map Prod.fst =
      nodes.map Prod.fst := by
  rw [List.map_map]
  refine List.map_congr_left fun entry _ => ?_
  dsimp only [Function.comp_apply]
  split
  · rename_i he
    exact he.symm
  · rfl

def replace (fs : FileSystem) (location : Location) (bytes : ByteArray) : FileSystem where
  nodes := fs.nodes.map fun entry =>
    if entry.1 = location then (location, .file bytes) else entry
  workingDirectory := fs.workingDirectory
  refusals := fs.refusals
  proper := by
    rw [map_fst_replace]
    exact fs.proper
  nodup := by
    rw [map_fst_replace]
    exact fs.nodup

def writeText (fs : FileSystem) (path : Path) (content : Text) : Except AccessError FileSystem := do
  let location ← fs.resolve path
  match fs.node? location with
  | none => .error .notFound
  | some .directory => .error .isDirectory
  | some (.file _) => .ok (fs.replace location (String.ofList content).toUTF8)

/-- Listing directories from a location on downward comes to the entry below it. -/
def lists (fs : FileSystem) : Location → Location → Bool
  | _, [] => true
  | location, name :: rest =>
    (fs.refusal? location).isNone && fs.lists (location ++ [name]) rest

/-- The locations below a location that listing comes to, relative to it. A directory comes before
its entries, and entries of one directory are in order. -/
def descendants (fs : FileSystem) (location : Location) : List Location :=
  inOrder <| fs.nodes.filterMap fun entry =>
    match location.isPrefixOf? entry.1 with
    | none | some [] => none
    | some rest => if fs.lists location rest then some rest else none

def names (fs : FileSystem) (location : Location) : List Name :=
  (fs.descendants location).filterMap fun
    | [name] => some name
    | _ => none

def list (fs : FileSystem) (path : Path) : Except AccessError (List Name) := do
  let location ← fs.resolve path
  match fs.node? location, fs.refusal? location with
  | none, _ => .error .notFound
  | some (.file _), _ => .error .notDirectory
  | some .directory, some reason => .error (.refused reason)
  | some .directory, none => .ok (fs.names location)

def descendantsAt (fs : FileSystem) (path : Path) : List Location :=
  match fs.resolve path with
  | .error _ => []
  | .ok location => fs.descendants location

/-- The file system with an entry at a location, in place of one that is there. If the location has
a name that no entry can have, nothing is put. -/
def put (fs : FileSystem) (location : Location) (node : Node) : FileSystem :=
  if h : ∀ name ∈ location, IsName name then
    { fs with
      nodes := fs.nodes.filter (·.1 ≠ location) ++ [(location, node)]
      proper := by
        intro place hplace
        rw [List.map_append, List.mem_append] at hplace
        rcases hplace with hplace | hplace
        · exact fs.proper place ((List.filter_sublist.map _).mem hplace)
        · rw [List.mem_singleton.mp hplace]
          exact h
      nodup := by
        rw [List.map_append, List.nodup_append]
        refine ⟨fs.nodup.sublist (List.filter_sublist.map _), by simp, ?_⟩
        intro place hplace other hother
        obtain ⟨entry, hentry, rfl⟩ := List.mem_map.mp hplace
        rw [List.mem_singleton.mp hother]
        simpa using (List.mem_filter.mp hentry).2 }
  else fs

def addDirectory (fs : FileSystem) (location : Location) : FileSystem :=
  if (fs.node? location).isSome then fs else fs.put location .directory

/-- The file system with a directory at a location and at all locations above it. -/
def makeDirectory (fs : FileSystem) (location : Location) : FileSystem :=
  (List.range location.length).foldl
    (fun fs depth => fs.addDirectory (location.take (depth + 1))) fs

def addFile (fs : FileSystem) (location : Location) (bytes : ByteArray) : FileSystem :=
  (fs.makeDirectory location.dropLast).put location (.file bytes)

def refuse (fs : FileSystem) (location : Location) (reason : String) : FileSystem :=
  { fs with refusals := (location, reason) :: fs.refusals }

/-- Only a working directory, and those above it. -/
def emptyAt (workingDirectory : Location) : FileSystem :=
  makeDirectory { nodes := [], workingDirectory } workingDirectory

end FileSystem
end DartSweep
