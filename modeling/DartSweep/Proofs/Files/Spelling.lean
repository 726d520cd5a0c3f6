import DartSweep.Files.System
import Mathlib.Tactic.ByContra

/-!
# Spellings of a path

Paths with the same components differ in their empty segments and inner dots only. A directory is
found with all of these spellings. A file is not found if one of them is the last segment, because
then it is looked up in the file.
-/
namespace DartSweep

def IsPadding (segment : Text) : Prop :=
  segment = [] ∨ segment = ['.']

instance (segment : Text) : Decidable (IsPadding segment) :=
  inferInstanceAs (Decidable (_ ∨ _))

private theorem mem_iff_mem_split {sep c : Char} (hc : c ≠ sep) (t : Text) :
    c ∈ t ↔ ∃ field ∈ split sep t, c ∈ field := by
  induction t with
  | nil => simp [split]
  | cons d rest ih =>
    rw [split]
    by_cases hd : d = sep
    · have hcd : c ≠ d := hd ▸ hc
      simp [hd, hc, ih]
    · cases hs : split sep rest with
      | nil => exact absurd hs (split_ne_nil sep rest)
      | cons field fields =>
        rw [if_neg hd, List.mem_cons, ih, hs]
        simp only [List.mem_cons, exists_eq_or_imp]
        exact or_assoc.symm

private theorem exists_split_cons {sep c : Char} (hc : c ≠ sep) (t : Text) :
    ∃ field fields, split sep (c :: t) = (c :: field) :: fields := by
  rw [split, if_neg hc]
  cases split sep t with
  | nil => exact ⟨[], [], rfl⟩
  | cons field fields => exact ⟨field, fields, rfl⟩

namespace Path

/-- The path ends in a slash or a dot, so that it can lead to directories only. -/
def ForDirectory (path : Path) : Prop :=
  ∃ segment ∈ (split '/' path).getLast?, IsPadding segment

instance (path : Path) : Decidable path.ForDirectory :=
  inferInstanceAs (Decidable (∃ segment ∈ (split '/' path).getLast?, IsPadding segment))

def moves (path : Path) : List Text :=
  (split '/' path).filter fun segment => ¬IsPadding segment

def Component.move? : Component → Option Text
  | .root | .current => none
  | .parent => some ['.', '.']
  | .name segment => some segment

private theorem innerComponent?_of_isPadding {segment : Text} (h : IsPadding segment) :
    innerComponent? segment = none :=
  if_pos h

private theorem innerComponent?_of_not_isPadding {segment : Text} (h : ¬IsPadding segment) :
    ∃ component, innerComponent? segment = some component ∧ component.move? = some segment := by
  have hinner : innerComponent? segment =
      if segment = ['.', '.'] then some .parent else some (.name segment) :=
    if_neg h
  rw [hinner]
  by_cases hp : segment = ['.', '.']
  · rw [if_pos hp, hp]
    exact ⟨.parent, rfl, rfl⟩
  · rw [if_neg hp]
    exact ⟨.name segment, rfl, rfl⟩

private theorem filterMap_move?_innerComponent? (segments : List Text) :
    (segments.filterMap innerComponent?).filterMap Component.move? =
      segments.filter fun segment => ¬IsPadding segment := by
  induction segments with
  | nil => rfl
  | cons segment rest ih =>
    by_cases hp : IsPadding segment
    · rw [List.filterMap_cons_none (innerComponent?_of_isPadding hp), ih]
      simp [hp]
    · obtain ⟨component, hinner, hmove⟩ := innerComponent?_of_not_isPadding hp
      rw [List.filterMap_cons_some hinner, List.filterMap_cons_some hmove, ih]
      simp [hp]

theorem exists_split (path : Path) :
    ∃ first rest, split '/' path = first :: rest ∧
      path.components = leading path first ++ rest.filterMap innerComponent? := by
  cases hs : split '/' path with
  | nil => exact absurd hs (split_ne_nil '/' path)
  | cons first rest =>
    refine ⟨first, rest, rfl, ?_⟩
    rw [components, hs]

private theorem head_split_of_isAbsolute {path : Path} (h : isAbsolute path = true) {first : Text}
    {rest : List Text} (hs : split '/' path = first :: rest) : first = [] := by
  cases path with
  | nil => simp [isAbsolute] at h
  | cons c path =>
    have hc : c = '/' := by simpa [isAbsolute] using h
    rw [split, if_pos hc] at hs
    exact (List.cons.inj hs).1.symm

/-- The components tell all segments that lead to another location. -/
private theorem moves_eq (path : Path) :
    path.moves = path.components.filterMap Component.move? := by
  obtain ⟨first, rest, hs, hcomponents⟩ := exists_split path
  have hfirst : (leading path first).filterMap Component.move? =
      [first].filter fun segment => ¬IsPadding segment := by
    rw [leading]
    by_cases ha : isAbsolute path = true
    · rw [if_pos ha, head_split_of_isAbsolute ha hs]
      decide
    · rw [if_neg ha]
      by_cases hd : first = ['.']
      · rw [if_pos hd, hd]
        decide
      · rw [if_neg hd, ← filterMap_move?_innerComponent?]
        cases hi : innerComponent? first <;> simp [hi]
  rw [moves, hs, hcomponents, List.filterMap_append, filterMap_move?_innerComponent?, hfirst,
    ← List.filter_append, List.singleton_append]

private theorem innerComponent?_ne_root (segment : Text) :
    innerComponent? segment ≠ some .root := by
  rw [innerComponent?]
  split
  · simp
  · split <;> simp

/-- The components tell where a path starts. -/
private theorem isAbsolute_iff (path : Path) :
    isAbsolute path = true ↔ .root ∈ path.components := by
  obtain ⟨first, rest, -, hcomponents⟩ := exists_split path
  have hrest : Component.root ∉ rest.filterMap innerComponent? := by
    simp [innerComponent?_ne_root]
  rw [hcomponents, List.mem_append, or_iff_left hrest, leading]
  by_cases ha : isAbsolute path = true
  · simp [ha]
  · rw [if_neg ha]
    split
    · simp [ha]
    · simp [ha, innerComponent?_ne_root]

private theorem components_eq_nil_iff (path : Path) : path.components = [] ↔ path = [] := by
  constructor
  · intro h
    obtain ⟨first, rest, hs, hcomponents⟩ := exists_split path
    rw [hcomponents, List.append_eq_nil_iff, leading] at h
    cases path with
    | nil => rfl
    | cons c path =>
      by_cases hc : c = '/'
      · simp [isAbsolute, hc] at h
      · -- A first segment with a character is the current directory or has a component.
        obtain ⟨field, fields, hsplit⟩ := exists_split_cons hc path
        obtain ⟨rfl, rfl⟩ := List.cons.inj (hs.symm.trans hsplit)
        have ha : ¬isAbsolute (c :: path) = true := by simpa [isAbsolute] using hc
        rw [if_neg ha] at h
        by_cases hd : c :: field = ['.']
        · simp [hd] at h
        · have hp : ¬IsPadding (c :: field) := by simp [IsPadding, hd]
          obtain ⟨component, hinner, -⟩ := innerComponent?_of_not_isPadding hp
          simp [hd, hinner] at h
  · rintro rfl
    rfl

private theorem mem_iff_mem_moves {c : Char} (hslash : c ≠ '/') (hdot : c ≠ '.') (path : Path) :
    c ∈ path ↔ ∃ segment ∈ path.moves, c ∈ segment := by
  rw [mem_iff_mem_split hslash]
  constructor
  · rintro ⟨segment, hs, hc⟩
    refine ⟨segment, List.mem_filter.mpr ⟨hs, decide_eq_true ?_⟩, hc⟩
    rintro (rfl | rfl)
    · simp at hc
    · simp [hdot] at hc
  · rintro ⟨segment, hs, hc⟩
    exact ⟨segment, (List.mem_filter.mp hs).1, hc⟩

end Path

namespace FileSystem

theorem isFile_iff {fs : FileSystem} {path : Path} :
    fs.isFile path = true ↔ ∃ location bytes,
      fs.resolve path = .ok location ∧ fs.node? location = some (.file bytes) := by
  rw [isFile, nodeAt?]
  cases hr : fs.resolve path with
  | error cause => simp
  | ok location =>
    cases hn : fs.node? location with
    | none => simp [hn]
    | some node => cases node <;> simp [hn]

theorem isDirectory_iff {fs : FileSystem} {path : Path} :
    fs.isDirectory path = true ↔ ∃ location,
      fs.resolve path = .ok location ∧ fs.node? location = some .directory := by
  rw [isDirectory, nodeAt?]
  cases hr : fs.resolve path with
  | error cause => simp
  | ok location =>
    cases hn : fs.node? location with
    | none => simp [hn]
    | some node => cases node <;> simp [hn]

theorem isDirectory_of_isFile {fs : FileSystem} {path : Path} (h : fs.isFile path = true) :
    fs.isDirectory path = false := by
  obtain ⟨location, bytes, hr, hn⟩ := isFile_iff.mp h
  rw [Bool.eq_false_iff, ne_eq, isDirectory_iff]
  rintro ⟨other, hr', hn'⟩
  obtain rfl := Except.ok.inj (hr.symm.trans hr')
  simp [hn] at hn'

variable {fs : FileSystem} {location next : Location} {segment : Text} {segments : List Text}

theorem node?_of_enter (h : fs.enter location segment = .ok next) :
    fs.node? location = some .directory := by
  rw [enter] at h
  cases hn : fs.node? location with
  | none => simp [hn] at h
  | some node =>
    cases node with
    | directory => rfl
    | file bytes => simp [hn] at h

theorem enter_of_isPadding (hp : IsPadding segment) (hn : fs.node? location = some .directory) :
    fs.enter location segment = .ok location := by
  rw [enter, hn]
  exact if_pos hp

private theorem enter_of_file {bytes : ByteArray} (hn : fs.node? location = some (.file bytes)) :
    fs.enter location segment = .error .notDirectory := by
  rw [enter, hn]

private theorem foldlM_enter_of_ok (h : fs.enter location segment = .ok next) :
    (segment :: segments).foldlM fs.enter location = segments.foldlM fs.enter next := by
  rw [List.foldlM_cons, h]
  rfl

private theorem foldlM_enter_of_error {cause : AccessError}
    (h : fs.enter location segment = .error cause) :
    (segment :: segments).foldlM fs.enter location = .error cause := by
  rw [List.foldlM_cons, h]
  rfl

private theorem exists_enter (h : (segment :: segments).foldlM fs.enter location = .ok next) :
    ∃ middle, fs.enter location segment = .ok middle ∧
      segments.foldlM fs.enter middle = .ok next := by
  cases he : fs.enter location segment with
  | error cause => simp [foldlM_enter_of_error he] at h
  | ok middle => exact ⟨middle, rfl, by rwa [foldlM_enter_of_ok he] at h⟩

/-- Segments that lead nowhere else can be left out. -/
private theorem foldlM_enter_filter (h : segments.foldlM fs.enter location = .ok next) :
    (segments.filter fun segment => ¬IsPadding segment).foldlM fs.enter location = .ok next := by
  induction segments generalizing location with
  | nil => exact h
  | cons segment rest ih =>
    obtain ⟨middle, he, hrest⟩ := exists_enter h
    by_cases hp : IsPadding segment
    · rw [enter_of_isPadding hp (node?_of_enter he)] at he
      rw [List.filter_cons_of_neg (by simpa using hp), Except.ok.inj he]
      exact ih hrest
    · rw [List.filter_cons_of_pos (by simpa using hp), foldlM_enter_of_ok he]
      exact ih hrest

/-- What is no directory is where the segments end. -/
private theorem eq_nil_of_foldlM_enter (h : segments.foldlM fs.enter location = .ok next)
    (hn : fs.node? location ≠ some .directory) : segments = [] ∧ next = location := by
  cases segments with
  | nil => exact ⟨rfl, (Except.ok.inj h).symm⟩
  | cons segment rest =>
    obtain ⟨middle, he, -⟩ := exists_enter h
    exact absurd (node?_of_enter he) hn

private theorem isPadding_getLast? (hne : segments ≠ [])
    (h : (segments.filter fun segment => ¬IsPadding segment) = []) :
    ∃ segment ∈ segments.getLast?, IsPadding segment := by
  have hlast := List.getLast_mem hne
  refine ⟨segments.getLast hne, List.getLast?_eq_some_getLast hne, ?_⟩
  simpa using List.filter_eq_nil_iff.mp h _ hlast

/-- Segments that lead nowhere else can be put in, but not behind a file. -/
private theorem foldlM_enter_of_filter {node : Node}
    (h : (segments.filter fun segment => ¬IsPadding segment).foldlM fs.enter location = .ok next)
    (hn : fs.node? next = some node) :
    segments.foldlM fs.enter location = .ok next ∨
      (∃ bytes, node = .file bytes) ∧ segments.foldlM fs.enter location = .error .notDirectory ∧
        ∃ segment ∈ segments.getLast?, IsPadding segment := by
  induction segments generalizing location with
  | nil => exact Or.inl h
  | cons segment rest ih =>
    by_cases hp : IsPadding segment
    · have hmoves := h
      rw [List.filter_cons_of_neg (by simpa using hp)] at h
      by_cases hd : fs.node? location = some .directory
      · rw [foldlM_enter_of_ok (enter_of_isPadding hp hd)]
        rcases ih h with hrest | ⟨hfile, herror, last, hlast, hpadding⟩
        · exact Or.inl hrest
        · refine Or.inr ⟨hfile, herror, last, ?_, hpadding⟩
          simp [List.getLast?_cons, Option.mem_def.mp hlast]
      · -- The walk ends here, at a file, and the segment is looked up in it.
        obtain ⟨hnil, rfl⟩ := eq_nil_of_foldlM_enter hmoves hd
        cases node with
        | directory => exact absurd hn hd
        | file bytes =>
          exact Or.inr ⟨⟨bytes, rfl⟩, foldlM_enter_of_error (enter_of_file hn),
            isPadding_getLast? (List.cons_ne_nil _ _) hnil⟩
    · rw [List.filter_cons_of_pos (by simpa using hp)] at h
      obtain ⟨middle, he, hrest⟩ := exists_enter h
      rw [foldlM_enter_of_ok he]
      rcases ih hrest with hok | ⟨hfile, herror, last, hlast, hpadding⟩
      · exact Or.inl hok
      · refine Or.inr ⟨hfile, herror, last, ?_, hpadding⟩
        simp [List.getLast?_cons, Option.mem_def.mp hlast]

private theorem directory_of_getLast? (h : segments.foldlM fs.enter location = .ok next)
    (hlast : ∃ segment ∈ segments.getLast?, IsPadding segment) :
    fs.node? next = some .directory := by
  obtain ⟨segment, hs, hp⟩ := hlast
  obtain ⟨before, rfl⟩ := List.getLast?_eq_some_iff.mp hs
  rw [List.foldlM_append] at h
  cases hb : before.foldlM fs.enter location with
  | error cause => simp [hb, bind, Except.bind] at h
  | ok middle =>
    rw [hb] at h
    obtain ⟨last, he, hnil⟩ := exists_enter h
    obtain rfl : last = next := Except.ok.inj hnil
    have hd := node?_of_enter he
    rw [enter_of_isPadding hp hd] at he
    rwa [← Except.ok.inj he]

def start (fs : FileSystem) (path : Path) : Location :=
  if path.isAbsolute then [] else fs.workingDirectory

/-- Before a path is walked its characters and its length are looked at. -/
theorem resolve_of_walkable {path : Path} (hzero : '\x00' ∉ path) (hne : path ≠ []) :
    fs.resolve path =
      if 4095 < byteLength path then .error .nameTooLong
      else (split '/' path).foldlM fs.enter (fs.start path) := by
  rw [resolve, if_neg hzero, if_neg hne, start]

theorem walkable_of_resolve {path : Path} (h : fs.resolve path = .ok location) :
    '\x00' ∉ path ∧ path ≠ [] := by
  constructor
  · intro hzero
    rw [resolve, if_pos hzero] at h
    simp at h
  · rintro rfl
    simp [resolve] at h

theorem resolve_eq_ok_iff {path : Path} (hzero : '\x00' ∉ path) (hne : path ≠ []) :
    fs.resolve path = .ok location ↔ byteLength path ≤ 4095 ∧
      (split '/' path).foldlM fs.enter (fs.start path) = .ok location := by
  rw [resolve_of_walkable hzero hne]
  by_cases hl : 4095 < byteLength path
  · simp [hl, Nat.not_le.mpr hl]
  · simp [hl, Nat.le_of_not_lt hl]

/-- A path that looks something up in a file leads nowhere. -/
theorem node?_of_forDirectory {path : Path} (h : fs.resolve path = .ok location)
    (hd : path.ForDirectory) : fs.node? location = some .directory := by
  obtain ⟨hzero, hne⟩ := walkable_of_resolve h
  exact directory_of_getLast? ((resolve_eq_ok_iff hzero hne).mp h).2 hd

section
variable {path other : Path} (hc : other.components = path.components)
include hc

private theorem start_of_components : fs.start other = fs.start path := by
  have habsolute : other.isAbsolute = path.isAbsolute := by
    rw [Bool.eq_iff_iff, Path.isAbsolute_iff, Path.isAbsolute_iff, hc]
  rw [start, start, habsolute]

private theorem moves_of_components : other.moves = path.moves := by
  rw [Path.moves_eq, Path.moves_eq, hc]

variable (hr : fs.resolve path = .ok location)
include hr

private theorem walkable_of_components : '\x00' ∉ other ∧ other ≠ [] := by
  obtain ⟨hzero, hne⟩ := walkable_of_resolve hr
  constructor
  · rw [Path.mem_iff_mem_moves (by decide) (by decide)] at hzero ⊢
    rwa [moves_of_components hc]
  · rw [ne_eq, ← Path.components_eq_nil_iff] at hne ⊢
    rwa [hc]

theorem resolve_of_tooLong (hl : 4095 < byteLength other) :
    fs.resolve other = .error .nameTooLong := by
  obtain ⟨hzero, hne⟩ := walkable_of_components hc hr
  rw [resolve_of_walkable hzero hne, if_pos hl]

/-- Another spelling leads to the same location, unless it looks something up in a file. -/
theorem resolve_of_components {node : Node} (hn : fs.node? location = some node)
    (hl : byteLength other ≤ 4095) :
    fs.resolve other = .ok location ∨
      (∃ bytes, node = .file bytes) ∧ fs.resolve other = .error .notDirectory ∧
        other.ForDirectory := by
  obtain ⟨hzero, hne⟩ := walkable_of_resolve hr
  obtain ⟨hzero', hne'⟩ := walkable_of_components hc hr
  have hwalk : path.moves.foldlM fs.enter (fs.start path) = .ok location :=
    foldlM_enter_filter ((resolve_eq_ok_iff hzero hne).mp hr).2
  rw [← moves_of_components hc, ← start_of_components hc] at hwalk
  rw [resolve_of_walkable hzero' hne', if_neg (Nat.not_lt.mpr hl)]
  exact foldlM_enter_of_filter hwalk hn

end

end FileSystem
end DartSweep
