import DartSweep.Proofs.Command.Contribution
import DartSweep.Proofs.Files.Entries

/-!
# Expanded paths

What each kind of argument contributes to an expansion, and how the contributions make up its paths:
they are put together in the order of the arguments, and of the paths with the same components the
first is left.
-/
namespace DartSweep

/-- The argument stands for the paths. A directory stands for the Dart files right in it whose paths
are not too long, in the order of their names. Any other argument stands for itself or, with a
special character, for the files that match it. -/
inductive Contributes (fs : FileSystem) (argument : Path) : List Path → Prop
  | directory {location : Location} {names : List Name}
      (hr : fs.resolve argument = .ok location) (hd : fs.node? location = some .directory)
      (hsorted : names.Pairwise (· < ·))
      (hnames : ∀ name, name ∈ names ↔
        (∃ bytes, fs.node? (location ++ [name]) = some (.file bytes)) ∧
          (∃ stem, stem ≠ [] ∧ name = stem ++ ".dart".toList) ∧
          byteLength (argument.below name) ≤ 4095) :
      Contributes fs argument (names.map argument.below)
  | literal (hd : fs.isDirectory argument = false)
      (hplain : '*' ∉ argument ∧ '?' ∉ argument ∧ '[' ∉ argument) :
      Contributes fs argument [argument]
  | glob {glob : Glob} (hd : fs.isDirectory argument = false)
      (hspecial : '*' ∈ argument ∨ '?' ∈ argument ∨ '[' ∈ argument)
      (hg : Glob.ofText argument = .ok glob) :
      Contributes fs argument ((glob.paths fs).filter fs.isFile)

section
variable {fs : FileSystem} {argument directory : Path} {location : Location}

private theorem dartFiles_eq (fs : FileSystem) (directory : Path) (names : List Name) :
    dartFiles fs directory names = (names.filter fun name =>
      fs.isFile (directory.below name) &&
        (directory.below name).extension? = some "dart".toList).map directory.below := by
  rw [dartFiles, List.filter_map]
  rfl

private theorem contributes_dartFiles (hr : fs.resolve directory = .ok location)
    (hd : fs.node? location = some .directory) (hopen : fs.refusal? location = none) :
    Contributes fs directory (dartFiles fs directory (fs.names location)) := by
  have hne : directory ≠ [] := (FileSystem.walkable_of_resolve hr).2
  have hdot : '.' ∉ "dart".toList := by decide
  rw [dartFiles_eq]
  refine .directory hr hd ((fs.pairwise_names location).filter _) fun name => ?_
  rw [List.mem_filter, FileSystem.mem_names_iff, Bool.and_eq_true, decide_eq_true_eq]
  constructor
  · rintro ⟨⟨hm, -⟩, hfile, hextension⟩
    have hname : IsName name := fs.proper _ hm name (by simp)
    rw [FileSystem.isFile_below_iff hr hname hd] at hfile
    rw [Path.extension?_eq_some_iff (Path.fileName?_below hne hname) hdot] at hextension
    exact ⟨hfile.2, hextension, hfile.1⟩
  · rintro ⟨⟨bytes, hn⟩, hextension, hl⟩
    have hname : IsName name := FileSystem.isName_of_node? hn
    rw [FileSystem.isFile_below_iff hr hname hd,
      Path.extension?_eq_some_iff (Path.fileName?_below hne hname) hdot]
    exact ⟨⟨FileSystem.mem_locations_of_node? (by simp) hn, hopen⟩, ⟨hl, bytes, hn⟩, hextension⟩

private theorem contributes_of_contribution {paths : List Path}
    (h : contribution fs argument = .ok paths) : Contributes fs argument paths := by
  rw [contribution] at h
  by_cases hd : fs.isDirectory argument = true
  · obtain ⟨location, hr, hn⟩ := FileSystem.isDirectory_iff.mp hd
    rw [if_pos hd, FileSystem.list_eq_of_resolve hr hn] at h
    cases hopen : fs.refusal? location with
    | some reason => simp [hopen] at h
    | none =>
      rw [hopen] at h
      rw [← Except.ok.inj h]
      exact contributes_dartFiles hr hn hopen
  · rw [if_neg hd] at h
    rw [Bool.not_eq_true] at hd
    cases hg : isGlob argument with
    | false =>
      rw [hg, Bool.not_false, if_pos rfl] at h
      rw [← Except.ok.inj h]
      have hplain : ¬('*' ∈ argument ∨ '?' ∈ argument ∨ '[' ∈ argument) := by
        rw [← isGlob_iff, hg]
        exact Bool.false_ne_true
      exact .literal hd (by simpa only [not_or] using hplain)
    | true =>
      rw [hg, if_neg (by decide)] at h
      cases ht : Glob.ofText argument with
      | error cause => simp [ht] at h
      | ok glob =>
        rw [ht] at h
        rw [← Except.ok.inj h]
        exact .glob hd ((isGlob_iff argument).mp hg) ht

private theorem Contributes.isDirectory_eq_false {paths : List Path}
    (h : Contributes fs argument paths) {path : Path} (hp : path ∈ paths) :
    fs.isDirectory path = false := by
  cases h with
  | directory hr hd hsorted hnames =>
    obtain ⟨name, hm, rfl⟩ := List.mem_map.mp hp
    obtain ⟨⟨bytes, hn⟩, -, hl⟩ := (hnames name).mp hm
    have hname : IsName name := FileSystem.isName_of_node? hn
    have hfile := (FileSystem.isFile_below_iff hr hname hd).mpr ⟨hl, bytes, hn⟩
    exact FileSystem.isDirectory_of_isFile hfile
  | literal hd hplain =>
    rw [List.mem_singleton.mp hp]
    exact hd
  | glob hd hspecial hg => exact FileSystem.isDirectory_of_isFile (List.mem_filter.mp hp).2

end

/-- Arguments without a faulty glob, all of whose directories can be listed, expand to the first
spellings among all that they stand for, in their order. So the paths have different components,
none of them is a directory, and an argument that is neither a directory nor a glob is among them in
one of its spellings, whether or not it is there. A directory that cannot be listed is an error. -/
theorem expansion_contract {fs : FileSystem} {arguments : List Path}
    (hsound : ∀ argument ∈ arguments, ∀ cause, ¬FaultyGlob fs argument cause) :
    ((∀ argument ∈ arguments, ∀ reason, ¬UnlistedDirectory fs argument reason) →
      ∃ contributions paths, List.Forall₂ (Contributes fs) arguments contributions ∧
        expand fs arguments = .ok paths ∧
        paths = keptFrom (Path.IsFirst contributions.flatten) 0 contributions.flatten ∧
        (paths.Pairwise fun path other => path.components ≠ other.components) ∧
        (∀ path ∈ paths, fs.isDirectory path = false) ∧
        ∀ argument ∈ arguments, fs.isDirectory argument = false →
          '*' ∉ argument ∧ '?' ∉ argument ∧ '[' ∉ argument →
            ∃ path ∈ paths, path.components = argument.components) ∧
      ((∃ argument ∈ arguments, ∃ reason, UnlistedDirectory fs argument reason) →
        ∃ argument reason, FirstUnlisted fs arguments argument reason ∧
          expand fs arguments = .error ⟨argument, .listing (.refused reason)⟩) := by
  refine ⟨fun hlisted => ?_, expand_of_unlistedDirectory hsound⟩
  obtain ⟨paths, he⟩ := exists_expand hsound hlisted
  obtain ⟨contributions, hcontributions, hpaths⟩ := expand_eq_ok he
  refine ⟨contributions, paths, ?_, he, ?_, ?_, ?_, ?_⟩
  · exact hcontributions.imp fun argument contributed h => contributes_of_contribution h
  · rw [hpaths, Path.distinct_eq_keptFrom]
  · rw [hpaths]
    exact Path.pairwise_distinct _
  · intro path hpath
    rw [hpaths] at hpath
    have hsource := (Path.distinct_sublist _).mem hpath
    obtain ⟨argument, -, contributed, h, hm⟩ := (mem_flatten_iff hcontributions path).mp hsource
    exact (contributes_of_contribution h).isDirectory_eq_false hm
  · intro argument hargument hd hplain
    have hmem : argument ∈ contributions.flatten :=
      (mem_flatten_iff hcontributions argument).mpr
        ⟨argument, hargument, [argument], contribution_of_plain hd hplain,
          List.mem_singleton_self _⟩
    rw [hpaths]
    exact Path.exists_mem_distinct hmem

/-- The directory is found with all its slashes, but the path of its file is too long to be looked
up, so that the file is left out. -/
theorem long_spelling_hides_file :
    let fs : FileSystem :=
      { nodes := [([['d']], .directory), ([['d'], "a.dart".toList], .file .empty)]
        workingDirectory := [] }
    let directory : Path := 'd' :: List.replicate 4090 '/'
    fs.resolve directory = .ok [['d']] ∧ fs.node? [['d']] = some .directory ∧
      fs.refusal? [['d']] = none ∧
      fs.node? [['d'], "a.dart".toList] = some (.file .empty) ∧
      expand fs [directory] = .ok [] := by
  intro fs directory
  have hr : fs.resolve directory = .ok [['d']] := by decide +kernel
  have hd : fs.node? [['d']] = some .directory := by rfl
  have hopen : fs.refusal? [['d']] = none := by rfl
  have hn : fs.node? [['d'], "a.dart".toList] = some (.file .empty) := by rfl
  have hnames : fs.names [['d']] = ["a.dart".toList] := by decide +kernel
  have hhidden : fs.isFile (directory.below "a.dart".toList) = false := by decide +kernel
  have hnone : dartFiles fs directory ["a.dart".toList] = [] := by
    rw [dartFiles_eq, List.filter_cons_of_neg, List.filter_nil, List.map_nil]
    rw [hhidden, Bool.false_and]
    exact Bool.false_ne_true
  have hcontribution : contribution fs directory = .ok [] := by
    rw [contribution, if_pos (FileSystem.isDirectory_iff.mpr ⟨_, hr, hd⟩),
      FileSystem.list_eq_of_resolve hr hd, hopen]
    dsimp only
    rw [hnames, hnone]
  refine ⟨hr, hd, hopen, hn, ?_⟩
  rw [expand, List.mapM_cons, hcontribution]
  rfl

/-- A directory that could be a glob, with a hidden file in it, a directory that ends like a file,
and one that cannot be listed. -/
def mixedFiles : FileSystem where
  nodes := [(["lib[1]".toList], .directory), (["lib[1]".toList, "b.dart".toList], .file .empty),
    (["lib[1]".toList, "a.dart".toList], .file .empty),
    (["lib[1]".toList, ".dart".toList], .file .empty),
    (["c.dart".toList], .directory), (["x.dart".toList], .file .empty), ([['p']], .directory)]
  workingDirectory := []
  refusals := [([['p']], "Permission denied (os error 13)")]

def mixedArguments : List Path :=
  ["lib[1]".toList, "none.dart".toList, "*.dart".toList, "x.dart".toList, "none.dart/".toList]

private theorem names_mixedFiles :
    mixedFiles.names [] = ["c.dart".toList, "lib[1]".toList, ['p'], "x.dart".toList] ∧
      mixedFiles.names ["lib[1]".toList] =
        [".dart".toList, "a.dart".toList, "b.dart".toList] := by
  constructor
  · refine FileSystem.names_eq_of_pairwise (by decide) fun name => ?_
    simp [mixedFiles]
    tauto
  · refine FileSystem.names_eq_of_pairwise (by decide) fun name => ?_
    simp [mixedFiles]
    tauto

private theorem expand_mixedFiles : expand mixedFiles mixedArguments =
    .ok ["lib[1]/a.dart".toList, "lib[1]/b.dart".toList, "none.dart".toList, "x.dart".toList] := by
  obtain ⟨hroot, hlib⟩ := names_mixedFiles
  have hdirectory : contribution mixedFiles "lib[1]".toList =
      .ok ["lib[1]/a.dart".toList, "lib[1]/b.dart".toList] := by
    have hlist : mixedFiles.list "lib[1]".toList = .ok (mixedFiles.names ["lib[1]".toList]) := by
      rfl
    rw [contribution, if_pos (by rfl), hlist, hlib]
    rfl
  have hglob : contribution mixedFiles "*.dart".toList = .ok ["x.dart".toList] := by
    have hread : Glob.ofText "*.dart".toList =
        .ok ⟨false, [.pattern (.anyText :: ".dart".toList.map .char)], false⟩ := by decide +kernel
    have hlist : mixedFiles.list ['.'] = .ok (mixedFiles.names []) := by rfl
    rw [contribution, if_neg (by decide), if_neg (by decide), hread]
    dsimp only [Glob.paths]
    rw [Glob.follow, if_neg (by decide), hlist, hroot]
    rfl
  have hmissing : contribution mixedFiles "none.dart".toList = .ok ["none.dart".toList] := by rfl
  have hfile : contribution mixedFiles "x.dart".toList = .ok ["x.dart".toList] := by rfl
  have hslash : contribution mixedFiles "none.dart/".toList = .ok ["none.dart/".toList] := by rfl
  rw [expand, mixedArguments]
  simp only [List.mapM_cons, List.mapM_nil, hdirectory, hmissing, hglob, hfile, hslash]
  rfl

theorem expansion_contract_mixed :
    (∀ argument ∈ mixedArguments, ∀ cause, ¬FaultyGlob mixedFiles argument cause) ∧
      (∀ argument ∈ mixedArguments, ∀ reason, ¬UnlistedDirectory mixedFiles argument reason) ∧
      (∃ contributions paths, List.Forall₂ (Contributes mixedFiles) mixedArguments contributions ∧
        paths = keptFrom (Path.IsFirst contributions.flatten) 0 contributions.flatten ∧
        paths = ["lib[1]/a.dart".toList, "lib[1]/b.dart".toList, "none.dart".toList,
          "x.dart".toList] ∧
        ∃ path ∈ paths, path.components = Path.components "none.dart/".toList) ∧
      ∃ argument reason, FirstUnlisted mixedFiles [['x'], ['p'], ['p', '/']] argument reason ∧
        expand mixedFiles [['x'], ['p'], ['p', '/']] =
          .error ⟨argument, .listing (.refused reason)⟩ := by
  have hcontributed := exists_contribution_of_expand expand_mixedFiles
  have hsound : ∀ argument ∈ mixedArguments, ∀ cause, ¬FaultyGlob mixedFiles argument cause := by
    intro argument hmem
    obtain ⟨contributed, h⟩ := hcontributed argument hmem
    exact not_faultyGlob_of_contribution h
  have hlisted : ∀ argument ∈ mixedArguments, ∀ reason,
      ¬UnlistedDirectory mixedFiles argument reason := by
    intro argument hmem
    obtain ⟨contributed, h⟩ := hcontributed argument hmem
    exact not_unlistedDirectory_of_contribution h
  have hrefused : UnlistedDirectory mixedFiles ['p'] "Permission denied (os error 13)" :=
    ⟨[['p']], by rfl, by rfl, by rfl⟩
  obtain ⟨hpaths, -⟩ := expansion_contract hsound
  obtain ⟨contributions, paths, hcontributions, he, hkept, -, -, hliteral⟩ := hpaths hlisted
  obtain ⟨-, herror⟩ := @expansion_contract mixedFiles [['x'], ['p'], ['p', '/']]
    (not_faultyGlob_of_plain (by decide))
  have hsame := Except.ok.inj (he.symm.trans expand_mixedFiles)
  exact ⟨hsound, hlisted, ⟨contributions, paths, hcontributions, hkept, hsame,
    hliteral _ (by decide) (by rfl) (by decide)⟩, herror ⟨['p'], by decide, _, hrefused⟩⟩

end DartSweep
