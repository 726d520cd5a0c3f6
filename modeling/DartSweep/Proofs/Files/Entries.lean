import DartSweep.Proofs.Files.Listing
import DartSweep.Proofs.Files.Spelling

/-!
# Paths of entries

The path of an entry of a directory leads to the entry, unless it is too long. Its name is the
entry's, and its extension tells if that name ends in a dot and the extension behind other
characters.
-/
namespace DartSweep

private theorem exists_last_field {sep : Char} {t : Text} (h : sep ∈ t) :
    ∃ before last, t = before ++ sep :: last ∧ sep ∉ last := by
  obtain ⟨last, before, hsplit, hlast⟩ := List.eq_append_cons_of_mem (List.mem_reverse.mpr h)
  refine ⟨before.reverse, last.reverse, ?_, by simpa using hlast⟩
  simpa using congrArg List.reverse hsplit

private theorem split_eq_singleton_nil_iff (sep : Char) (t : Text) :
    split sep t = [[]] ↔ t = [] := by
  constructor
  · intro h
    have ht := join_split sep t
    rw [h] at ht
    exact ht.symm
  · rintro rfl
    rfl

namespace Path
variable {path directory : Path} {name : Name}

private theorem extension?_of_dot {before last : Text}
    (hn : path.fileName? = some (before ++ '.' :: last)) (hlast : '.' ∉ last) :
    path.extension? = if before = [] then none else some last := by
  have hfields : split '.' (before ++ '.' :: last) = split '.' before ++ [last] := by
    rw [split_append, split_of_not_mem hlast]
  obtain ⟨stem, more, hrest⟩ := List.exists_cons_of_ne_nil
    (mt List.reverse_eq_nil_iff.mp (split_ne_nil '.' before))
  have hempty : stem = [] ∧ more = [] ↔ before = [] := by
    have hreverse : stem :: more = [[]] ↔ split '.' before = [[]] := by
      rw [← hrest]
      exact List.reverse_eq_iff
    rw [← split_eq_singleton_nil_iff '.' before, ← hreverse, List.cons.injEq]
  simp only [extension?, hn, bind, Option.bind, hfields, List.reverse_append, List.reverse_singleton,
    List.singleton_append, hrest, hempty]

private theorem extension?_of_no_dot (hn : path.fileName? = some name) (hdot : '.' ∉ name) :
    path.extension? = none := by
  simp [extension?, hn, split_of_not_mem hdot, bind, Option.bind]

/-- A name has the extension `dart` if it ends so behind other characters. -/
theorem extension?_eq_some_iff (hn : path.fileName? = some name) {extension : Text}
    (hdot : '.' ∉ extension) : path.extension? = some extension ↔
      ∃ stem, stem ≠ [] ∧ name = stem ++ '.' :: extension := by
  constructor
  · intro h
    by_cases hm : '.' ∈ name
    · obtain ⟨before, last, rfl, hlast⟩ := exists_last_field hm
      rw [extension?_of_dot hn hlast] at h
      by_cases hb : before = []
      · simp [hb] at h
      · rw [if_neg hb] at h
        exact ⟨before, hb, by rw [Option.some.inj h]⟩
    · simp [extension?_of_no_dot hn hm] at h
  · rintro ⟨stem, hstem, rfl⟩
    rw [extension?_of_dot hn hdot, if_neg hstem]

private theorem isAbsolute_eq_false (hname : IsName name) : isAbsolute name = false := by
  rw [isAbsolute, beq_eq_false_iff_ne]
  exact fun h => hname.no_slash (List.mem_of_head? h)

/-- A directory's path ends in a slash or gets one before the name of an entry. -/
private theorem exists_below (hne : directory ≠ []) (hname : IsName name) :
    ∃ before, directory.below name = before ++ '/' :: name ∧
      (directory = before ∨ directory = before ++ ['/']) := by
  have habsolute : ¬isAbsolute name = true := by simp [isAbsolute_eq_false hname]
  rw [below, if_neg habsolute]
  by_cases hslash : directory.getLast? = some '/'
  · obtain ⟨before, rfl⟩ := List.getLast?_eq_some_iff.mp hslash
    rw [if_pos (Or.inr hslash)]
    exact ⟨before, by simp, Or.inr rfl⟩
  · rw [if_neg (by simp [hne, hslash])]
    exact ⟨directory, rfl, Or.inl rfl⟩

/-- The last segment of an entry's path is its name. The others are those of the directory. -/
private theorem split_below (hne : directory ≠ []) (hname : IsName name) :
    ∃ before, before ≠ [] ∧ split '/' (directory.below name) = before ++ [name] ∧
      (split '/' directory = before ∨ split '/' directory = before ++ [[]]) := by
  obtain ⟨before, hbelow, hdirectory⟩ := exists_below hne hname
  refine ⟨split '/' before, split_ne_nil '/' before, ?_, ?_⟩
  · rw [hbelow, split_append, split_of_not_mem hname.no_slash]
  · rcases hdirectory with rfl | rfl
    · exact Or.inl rfl
    · exact Or.inr (split_append '/' before [])

private theorem isAbsolute_below (hne : directory ≠ []) (hname : IsName name) :
    isAbsolute (directory.below name) = isAbsolute directory := by
  obtain ⟨before, hbelow, hdirectory⟩ := exists_below hne hname
  rw [hbelow, isAbsolute, isAbsolute]
  rcases hdirectory with rfl | rfl
  · rw [List.head?_append_of_ne_nil _ hne]
  · rw [List.head?_append, List.head?_append]
    rfl

theorem fileName?_below (hne : directory ≠ []) (hname : IsName name) :
    (directory.below name).fileName? = some name := by
  obtain ⟨before, hbefore, hsplit, -⟩ := split_below hne hname
  obtain ⟨first, rest, hs, hcomponents⟩ := exists_split (directory.below name)
  obtain ⟨start, more, rfl⟩ := List.exists_cons_of_ne_nil hbefore
  obtain ⟨-, hrest⟩ := List.cons.inj (hs.symm.trans hsplit)
  have hrest : rest = more ++ [name] := hrest
  have hinner : innerComponent? name = some (.name name) := by
    simp [innerComponent?, hname.ne_nil, hname.ne_dot, hname.ne_dots]
  have hlast : (directory.below name).components.getLast? = some (.name name) := by
    rw [hcomponents, hrest, List.filterMap_append, List.filterMap_cons_some hinner, List.filterMap_nil,
      ← List.append_assoc, List.getLast?_concat]
  rw [fileName?, hlast]

end Path

namespace FileSystem
variable {fs : FileSystem} {directory : Path} {location next : Location} {name : Name}
  {segments : List Text}

private theorem foldlM_enter_concat (h : segments.foldlM fs.enter location = .ok next)
    (segment : Text) :
    (segments ++ [segment]).foldlM fs.enter location = fs.enter next segment := by
  rw [List.foldlM_append, h]
  exact bind_pure (fs.enter next segment)

private theorem foldlM_enter_of_concat_nil
    (h : (segments ++ [[]]).foldlM fs.enter location = .ok next) :
    segments.foldlM fs.enter location = .ok next := by
  cases hs : segments.foldlM fs.enter location with
  | error cause =>
    rw [List.foldlM_append, hs] at h
    simp [bind, Except.bind] at h
  | ok middle =>
    rw [foldlM_enter_concat hs] at h
    rw [← h, enter_of_isPadding (Or.inl rfl) (node?_of_enter h)]

section
variable (hr : fs.resolve directory = .ok location) (hname : IsName name)
include hr hname

/-- The path of an entry is walked through the directory. -/
theorem resolve_below : fs.resolve (directory.below name) =
    if 4095 < byteLength (directory.below name) then .error .nameTooLong
    else fs.enter location name := by
  obtain ⟨hzero, hne⟩ := walkable_of_resolve hr
  obtain ⟨before, hbelow, hdirectory⟩ := Path.exists_below hne hname
  have hzero' : '\x00' ∉ directory.below name := by
    have hbefore : '\x00' ∉ before := by rcases hdirectory with rfl | rfl <;> simp_all
    simp [hbelow, hbefore, hname.no_zero]
  have hne' : directory.below name ≠ [] := by simp [hbelow]
  obtain ⟨parts, -, hsplit, hparts⟩ := Path.split_below hne hname
  have hwalk : parts.foldlM fs.enter (fs.start directory) = .ok location := by
    have hfull := ((resolve_eq_ok_iff hzero hne).mp hr).2
    rcases hparts with he | he
    · rwa [he] at hfull
    · rw [he] at hfull
      exact foldlM_enter_of_concat_nil hfull
  have hstart : fs.start (directory.below name) = fs.start directory := by
    rw [start, start, Path.isAbsolute_below hne hname]
  rw [resolve_of_walkable hzero' hne', hsplit, hstart, foldlM_enter_concat hwalk]

theorem isFile_below_iff (hd : fs.node? location = some .directory) :
    fs.isFile (directory.below name) = true ↔ byteLength (directory.below name) ≤ 4095 ∧
      ∃ bytes, fs.node? (location ++ [name]) = some (.file bytes) := by
  have henter : fs.enter location name =
      if (fs.node? (location ++ [name])).isSome then .ok (location ++ [name])
      else .error .notFound := by
    simp [enter, hd, hname.ne_nil, hname.ne_dot, hname.ne_dots, Nat.not_lt.mpr hname.short]
  rw [isFile_iff, resolve_below hr hname, henter]
  by_cases hl : byteLength (directory.below name) ≤ 4095
  · rw [if_neg (Nat.not_lt.mpr hl), and_iff_right hl]
    cases hn : fs.node? (location ++ [name]) with
    | none => simp
    | some node => simp [hn]
  · simp [hl, Nat.lt_of_not_le hl]

end

end FileSystem
end DartSweep
