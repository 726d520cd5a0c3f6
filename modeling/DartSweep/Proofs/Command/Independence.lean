import DartSweep.Proofs.Command.Rewrite

/-!
# Processing several files

The files that a run leaves are those of its start with the entries processed that its paths lead
to. If no two paths lead to one file, every report is the one that the path gets alone, and the
order of the paths does not matter.
-/
namespace DartSweep

private theorem node?_foldl_pruneAt (settings : Settings) (fs : FileSystem)
    (locations : List Location) (location : Location) :
    (locations.foldl (FileSystem.pruneAt settings) fs).node? location =
      if location ∈ locations then fs.rewritten settings location else fs.node? location := by
  induction locations generalizing fs with
  | nil => rfl
  | cons place rest ih =>
    -- The place may stand in the rest as well, but its entry is rewritten once.
    rw [List.foldl_cons, ih, FileSystem.node?_pruneAt, FileSystem.rewritten_pruneAt]
    by_cases he : location = place
    · simp [he]
    · simp [he]

section
variable (settings : Settings) (fs : FileSystem)

private theorem sameTree_processFile (path : Path) :
    fs.SameTree (processFile settings fs path).2 := by
  rw [processFile_snd]
  cases fs.location? path with
  | none => exact .refl fs
  | some location => exact FileSystem.sameTree_pruneAt

/-- All paths are followed as at the start, and the entries they lead to are processed in turn. -/
theorem files_processFiles (paths : List Path) :
    (processFiles settings fs paths).files =
      (paths.filterMap fs.location?).foldl (FileSystem.pruneAt settings) fs := by
  induction paths generalizing fs with
  | nil => rfl
  | cons path paths ih =>
    -- The paths that follow lead from the new files where they lead from the old ones.
    have hlocation : (processFile settings fs path).2.location? = fs.location? := by
      funext other
      rw [FileSystem.location?, (sameTree_processFile settings fs path).resolve_eq]
      rfl
    rw [processFiles, ih, hlocation, processFile_snd]
    cases hl : fs.location? path with
    | none => rw [List.filterMap_cons_none hl, Option.elim_none]
    | some location => rw [List.filterMap_cons_some hl, List.foldl_cons, Option.elim_some]

private theorem node?_processFiles (paths : List Path) (location : Location) :
    (processFiles settings fs paths).files.node? location =
      if location ∈ paths.filterMap fs.location? then fs.rewritten settings location
      else fs.node? location := by
  rw [files_processFiles, node?_foldl_pruneAt]

theorem map_path_reports (paths : List Path) :
    (processFiles settings fs paths).reports.map Report.path = paths := by
  induction paths generalizing fs with
  | nil => rfl
  | cons path paths ih =>
    rw [processFiles, List.map_cons, ih, processFile_path]

theorem files_processFiles_perm {paths others : List Path} (h : others.Perm paths) :
    (processFiles settings fs others).files = (processFiles settings fs paths).files := by
  rw [files_processFiles, files_processFiles]
  refine (h.filterMap fs.location?).foldl_eq' ?_ fs
  intro location _ other _ fs
  exact FileSystem.pruneAt_comm fs location other

end

section
variable {settings : Settings} {fs : FileSystem}

private theorem node?_processFiles_of_resolve {paths : List Path} {path : Path}
    {location : Location} (hp : path ∈ paths) (hl : fs.resolve path = .ok location) :
    (processFiles settings fs paths).files.node? location =
      (processFile settings fs path).2.node? location := by
  have hl' := FileSystem.location?_eq_some_iff.mpr hl
  have hmem : location ∈ paths.filterMap fs.location? := List.mem_filterMap.mpr ⟨path, hp, hl'⟩
  rw [node?_processFiles, if_pos hmem, processFile_snd, hl', Option.elim_some,
    FileSystem.node?_pruneAt, if_pos rfl]

private theorem node?_processFiles_of_unreached {paths : List Path} {location : Location}
    (h : ∀ path ∈ paths, fs.resolve path ≠ .ok location) :
    (processFiles settings fs paths).files.node? location = fs.node? location := by
  have hmem : location ∉ paths.filterMap fs.location? := by
    intro hmem
    obtain ⟨path, hp, hl⟩ := List.mem_filterMap.mp hmem
    exact h path hp (FileSystem.location?_eq_some_iff.mp hl)
  rw [node?_processFiles, if_neg hmem]

private theorem files_processFiles_of_unmodified {before after : List Path} {path : Path}
    (h : ∀ removed, (processFile settings fs path).1.status ≠ .modified removed) :
    (processFiles settings fs (before ++ after)).files =
      (processFiles settings fs (before ++ path :: after)).files := by
  have hfirst : (path :: (before ++ after)).Perm (before ++ path :: after) :=
    List.perm_middle.symm
  have hsame : (processFile settings fs path).2 = fs :=
    (processFile_outcome settings fs path).files_eq (Or.inr h)
  rw [← files_processFiles_perm settings fs hfirst, processFiles, hsame]

end

theorem processFiles_of_unchanged {settings : Settings} {fs : FileSystem} {paths : List Path}
    (h : ∀ path ∈ paths, (processFile settings fs path).2 = fs) :
    (processFiles settings fs paths).files = fs ∧
      (processFiles settings fs paths).reports =
        paths.map fun path => (processFile settings fs path).1 := by
  induction paths with
  | nil => exact ⟨rfl, rfl⟩
  | cons path paths ih =>
    obtain ⟨hfirst, hrest⟩ := List.forall_mem_cons.mp h
    obtain ⟨hfiles, hreports⟩ := ih hrest
    rw [processFiles, hfirst, hfiles, hreports]
    exact ⟨rfl, rfl⟩

namespace FileSystem

def SameFile (fs : FileSystem) (path other : Path) : Prop :=
  ∃ location bytes, fs.resolve path = .ok location ∧ fs.resolve other = .ok location ∧
    fs.node? location = some (.file bytes)

theorem SameFile.symm {fs : FileSystem} {path other : Path} (h : fs.SameFile path other) :
    fs.SameFile other path := by
  obtain ⟨location, bytes, hpath, hother, hn⟩ := h
  exact ⟨location, bytes, hother, hpath, hn⟩

private theorem SameTree.sameFile_iff {fs after : FileSystem} (h : SameTree fs after)
    (path other : Path) : after.SameFile path other ↔ fs.SameFile path other := by
  have hfile (entry : Option Node) :
      (∃ bytes, entry = some (.file bytes)) ↔ entry.map Node.isFile = some true := by
    match entry with
    | none => simp
    | some .directory => simp [Node.isFile]
    | some (.file bytes) => simp [Node.isFile]
  simp only [SameFile, exists_and_left, hfile, h.resolve_eq, h.isFile]

end FileSystem

/-- Processing a path is not seen through a path to another file. -/
theorem readText_processFile {fs : FileSystem} {path other : Path}
    (h : ¬fs.SameFile path other) (settings : Settings) :
    (processFile settings fs path).2.readText other = fs.readText other := by
  rw [processFile_snd]
  cases hpath : fs.location? path with
  | none => rfl
  | some location =>
    rw [Option.elim_some, FileSystem.readText_pruneAt]
    split
    · rename_i hother
      cases hr : fs.readText other with
      | error cause => rfl
      | ok source =>
        obtain ⟨place, hplace, ht⟩ := FileSystem.readText_eq_ok_iff.mp hr
        obtain ⟨hn, -⟩ := FileSystem.textAt_eq_ok_iff.mp ht
        rw [FileSystem.location?_eq_some_iff] at hpath hother
        have he : place = location := Except.ok.inj (hplace.symm.trans hother)
        exact absurd ⟨location, _, hpath, hother, he ▸ hn⟩ h
    · rfl

theorem reports_processFiles {fs : FileSystem} {paths : List Path}
    (h : paths.Pairwise fun path other => ¬fs.SameFile path other) (settings : Settings) :
    (processFiles settings fs paths).reports =
      paths.map fun path => (processFile settings fs path).1 := by
  induction paths generalizing fs with
  | nil => rfl
  | cons path paths ih =>
    obtain ⟨hfirst, hrest⟩ := List.pairwise_cons.mp h
    have htree := sameTree_processFile settings fs path
    have hlater : paths.Pairwise fun path' other =>
        ¬(processFile settings fs path).2.SameFile path' other :=
      hrest.imp fun hne hsame => hne ((htree.sameFile_iff _ _).mp hsame)
    rw [processFiles, ih hlater, List.map_cons]
    refine congrArg _ (List.map_congr_left fun other hmem => ?_)
    rw [processFile_fst, processFile_fst, readText_processFile (hfirst other hmem)]

private theorem reports_processFiles_perm {fs : FileSystem} {paths others : List Path}
    (h : paths.Pairwise fun path other => ¬fs.SameFile path other) (settings : Settings)
    (hperm : others.Perm paths) :
    (processFiles settings fs others).reports.Perm (processFiles settings fs paths).reports := by
  have hothers : others.Pairwise fun path other => ¬fs.SameFile path other :=
    (hperm.pairwise_iff fun hne hsame => hne hsame.symm).mpr h
  rw [reports_processFiles h, reports_processFiles hothers]
  exact hperm.map _

/-- If no two paths lead to one file, then every file gets the report and the content that it gets
alone, all else stays, and paths in another order leave the same files, the same lines and the same
summary. A path whose file is not changed can be left out without any effect on the others. -/
theorem files_are_independent {settings : Settings} {fs : FileSystem} {paths : List Path}
    (h : paths.Pairwise fun path other => ¬fs.SameFile path other) :
    let processed := processFiles settings fs paths
    processed.reports = paths.map (fun path => (processFile settings fs path).1) ∧
      (∀ path ∈ paths, ∀ location, fs.resolve path = .ok location →
        processed.files.node? location = (processFile settings fs path).2.node? location) ∧
      (∀ location, (∀ path ∈ paths, fs.resolve path ≠ .ok location) →
        processed.files.node? location = fs.node? location) ∧
      (∀ others, others.Perm paths →
        (processFiles settings fs others).files = processed.files ∧
          ((processFiles settings fs others).reports.filterMap
            (Report.line? settings.dryRun)).Perm
              (processed.reports.filterMap (Report.line? settings.dryRun)) ∧
          summary (processFiles settings fs others).reports = summary processed.reports) ∧
      (∀ before path after, paths = before ++ path :: after →
        (∀ removed, (processFile settings fs path).1.status ≠ .modified removed) →
        (processFiles settings fs (before ++ after)).files = processed.files ∧
          (processFiles settings fs (before ++ after)).reports =
            (before ++ after).map fun other => (processFile settings fs other).1) := by
  refine ⟨reports_processFiles h settings, ?_, ?_, ?_, ?_⟩
  · intro path hp location hl
    exact node?_processFiles_of_resolve hp hl
  · intro location hno
    exact node?_processFiles_of_unreached hno
  · intro others hperm
    have hreports := reports_processFiles_perm h settings hperm
    refine ⟨files_processFiles_perm settings fs hperm, hreports.filterMap _, ?_⟩
    rw [summary, hreports.countP_eq, hreports.countP_eq, summary]
  · rintro before path after rfl hunchanged
    have hsublist : (before ++ after).Sublist (before ++ path :: after) :=
      (List.sublist_cons_self path after).append_left before
    exact ⟨files_processFiles_of_unmodified hunchanged,
      reports_processFiles (h.sublist hsublist) settings⟩

/-- A file system with a text at the path `a` and a file that is no text at the path `b`. -/
def textAndNoText (content : Text) : FileSystem where
  nodes := [([['a']], .file (String.ofList content).toUTF8), ([['b']], .file ⟨#[255]⟩)]
  workingDirectory := []
  proper := (by decide : ∀ location ∈ [[['a']], [['b']]], ∀ name ∈ location, IsName name)
  nodup := by simp

theorem readText_textAndNoText (content : Text) :
    (textAndNoText content).readText ['a'] = .ok content ∧
      (textAndNoText content).readText ['b'] = .error .notUtf8 ∧
      (textAndNoText content).readText ['c'] = .error .notFound := by
  have hnone : String.fromUTF8? ⟨#[255]⟩ = none := by decide +kernel
  have hbytes : (textAndNoText content).readBytes ['b'] = .ok ⟨#[255]⟩ := by rfl
  have ha : (textAndNoText content).textAt [['a']] = .ok content :=
    FileSystem.textAt_eq_ok_iff.mpr ⟨by rfl, by rfl⟩
  exact ⟨FileSystem.readText_eq_ok_iff.mpr ⟨[['a']], by rfl, ha⟩,
    FileSystem.readText_of_notUtf8 hbytes hnone, by rfl⟩

theorem not_sameFile_textAndNoText (content : Text) :
    [['a'], ['b'], ['c']].Pairwise fun path other =>
      ¬(textAndNoText content).SameFile path other := by
  have ha : (textAndNoText content).resolve ['a'] = .ok [['a']] := by rfl
  have hb : (textAndNoText content).resolve ['b'] = .ok [['b']] := by rfl
  have hc : (textAndNoText content).resolve ['c'] = .error .notFound := by rfl
  simp [FileSystem.SameFile, ha, hb, hc]

theorem files_are_independent_unreadable :
    (processFiles importKeeping (textAndNoText twoGetters) [['a'], ['b'], ['c']]).reports =
        [⟨['a'], .modified 2⟩, ⟨['b'], .failed (.unreadable ['b'] AccessError.notUtf8.message)⟩,
          ⟨['c'], .skipped⟩] ∧
      (processFiles importKeeping (textAndNoText twoGetters) [['c'], ['b'], ['a']]).files =
        (processFiles importKeeping (textAndNoText twoGetters) [['a'], ['b'], ['c']]).files ∧
      summary (processFiles importKeeping (textAndNoText twoGetters) [['c'], ['b'], ['a']]).reports =
        "\nModified: 1, Errors: 1" := by
  obtain ⟨hreports, -, -, hperm, -⟩ :=
    @files_are_independent importKeeping _ _ (not_sameFile_textAndNoText twoGetters)
  obtain ⟨hfiles, -, hsummary⟩ := hperm [['c'], ['b'], ['a']] (by decide)
  obtain ⟨ha, hb, hc⟩ := readText_textAndNoText twoGetters
  simp only [List.map_cons, List.map_nil, processFile_fst, ha, hb, hc, ofRead_twoGetters] at hreports
  refine ⟨hreports, hfiles, ?_⟩
  rw [hsummary, hreports]
  rfl

end DartSweep
