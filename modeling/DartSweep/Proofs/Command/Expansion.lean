import DartSweep.Command.Run
import DartSweep.Proofs.Command.Independence
import DartSweep.Proofs.Files.Spelling
import Mathlib.Data.List.Forall2

/-!
# Expansion and whole runs

A run fails as a whole at its first argument that cannot be expanded, before any file is processed;
without such an argument it processes all files and ends with the summary. What the arguments stand
for depends on the tree of the file system only.
-/
namespace DartSweep

/-- The argument is a directory that cannot be listed for the given reason. -/
def UnlistedDirectory (fs : FileSystem) (argument : Path) (reason : String) : Prop :=
  ∃ location, fs.resolve argument = .ok location ∧ fs.node? location = some .directory ∧
    fs.refusal? location = some reason

/-- The argument is no directory, holds a special character of globs, and is no glob for the given
cause. -/
def FaultyGlob (fs : FileSystem) (argument : Path) (cause : PatternError) : Prop :=
  fs.isDirectory argument = false ∧ ('*' ∈ argument ∨ '?' ∈ argument ∨ '[' ∈ argument) ∧
    Glob.ofText argument = .error cause

theorem isGlob_iff (argument : Path) :
    isGlob argument = true ↔ '*' ∈ argument ∨ '?' ∈ argument ∨ '[' ∈ argument := by
  simp only [isGlob, List.any_eq_true, Bool.or_eq_true, decide_eq_true_eq]
  constructor
  · rintro ⟨c, hc, (rfl | rfl) | rfl⟩
    · exact Or.inl hc
    · exact Or.inr (Or.inl hc)
    · exact Or.inr (Or.inr hc)
  · rintro (hc | hc | hc)
    · exact ⟨_, hc, Or.inl (Or.inl rfl)⟩
    · exact ⟨_, hc, Or.inl (Or.inr rfl)⟩
    · exact ⟨_, hc, Or.inr rfl⟩

theorem not_faultyGlob_of_plain {fs : FileSystem} {arguments : List Path}
    (h : ∀ argument ∈ arguments, isGlob argument = false) :
    ∀ argument ∈ arguments, ∀ cause, ¬FaultyGlob fs argument cause := by
  intro argument hmem cause hfaulty
  have hglob := (isGlob_iff argument).mpr hfaulty.2.1
  simp [h argument hmem] at hglob

theorem not_unlistedDirectory {fs : FileSystem} (h : fs.refusals = []) (argument : Path)
    (reason : String) : ¬UnlistedDirectory fs argument reason := by
  rintro ⟨location, -, -, hrefused⟩
  simp [FileSystem.refusal?, h] at hrefused

theorem contribution_eq_error_iff {fs : FileSystem} {argument : Path} {error : ExpansionError} :
    contribution fs argument = .error error ↔
      (∃ reason, UnlistedDirectory fs argument reason ∧
        error = ⟨argument, .listing (.refused reason)⟩) ∨
      ∃ cause, FaultyGlob fs argument cause ∧ error = ⟨argument, .pattern cause⟩ := by
  rw [contribution]
  by_cases hd : fs.isDirectory argument = true
  · obtain ⟨location, hr, hn⟩ := FileSystem.isDirectory_iff.mp hd
    rw [if_pos hd, FileSystem.list_eq_of_resolve hr hn]
    simp only [UnlistedDirectory, FaultyGlob, hd, hr, hn, Except.ok.injEq, exists_eq_left']
    cases fs.refusal? location <;> simp [eq_comm]
  · have hlisted (reason : String) : ¬UnlistedDirectory fs argument reason := by
      rintro ⟨location, hr, hn, -⟩
      exact hd (FileSystem.isDirectory_iff.mpr ⟨location, hr, hn⟩)
    simp only [hlisted, FaultyGlob, ← isGlob_iff]
    rw [Bool.not_eq_true] at hd
    rw [hd]
    cases isGlob argument with
    | false => simp
    | true =>
      cases Glob.ofText argument with
      | error cause => simp [eq_comm]
      | ok glob => simp

section
variable {α β ε : Type} {f : α → Except ε β} {items : List α}

theorem forall₂_of_mapM {results : List β} (h : items.mapM f = .ok results) :
    List.Forall₂ (fun item result => f item = .ok result) items results := by
  induction items generalizing results with
  | nil =>
    obtain rfl : [] = results := Except.ok.inj h
    exact List.Forall₂.nil
  | cons first rest ih =>
    rw [List.mapM_cons] at h
    cases hf : f first with
    | error error => simp [hf, bind, Except.bind] at h
    | ok result =>
      cases hrest : rest.mapM f with
      | error error => simp [hf, hrest, bind, Except.bind] at h
      | ok others =>
        obtain rfl : result :: others = results := by
          simpa [hf, hrest, bind, Except.bind, pure, Except.pure] using h
        exact List.Forall₂.cons hf (ih hrest)

private theorem exists_ok_of_mapM {results : List β} (h : items.mapM f = .ok results) :
    ∀ item ∈ items, ∃ result, f item = .ok result := by
  have hresults := forall₂_of_mapM h
  clear h
  induction hresults with
  | nil => simp
  | cons hf hrest ih => exact List.forall_mem_cons.mpr ⟨⟨_, hf⟩, ih⟩

/-- The error is that of the first item that has one. -/
private theorem exists_error_of_mapM {error : ε} (h : items.mapM f = .error error) :
    ∃ before item after, items = before ++ item :: after ∧
      (∀ earlier ∈ before, ∃ result, f earlier = .ok result) ∧ f item = .error error := by
  induction items with
  | nil => simp [pure, Except.pure] at h
  | cons first rest ih =>
    rw [List.mapM_cons] at h
    cases hf : f first with
    | error found =>
      have he : found = error := by simpa [hf, bind, Except.bind] using h
      exact ⟨[], first, rest, rfl, by simp, he ▸ hf⟩
    | ok result =>
      have hrest : rest.mapM f = .error error := by
        cases hr : rest.mapM f with
        | error found => simpa [hf, hr, bind, Except.bind] using h
        | ok others => simp [hf, hr, bind, Except.bind, pure, Except.pure] at h
      obtain ⟨before, item, after, rfl, hbefore, hitem⟩ := ih hrest
      refine ⟨first :: before, item, after, rfl, ?_, hitem⟩
      intro earlier hmem
      rcases List.mem_cons.mp hmem with rfl | hmem
      · exact ⟨result, hf⟩
      · exact hbefore earlier hmem

end

section
variable {fs : FileSystem}

theorem exists_contribution_of_expand {arguments paths : List Path}
    (h : expand fs arguments = .ok paths) :
    ∀ argument ∈ arguments, ∃ contributed, contribution fs argument = .ok contributed := by
  rw [expand] at h
  cases hm : arguments.mapM (contribution fs) with
  | error error => simp [hm, Except.map] at h
  | ok contributions => exact exists_ok_of_mapM hm

private theorem exists_error_of_expand {arguments : List Path} {argument : Path}
    {error : ExpansionError} (hmem : argument ∈ arguments)
    (h : contribution fs argument = .error error) : ∃ first, expand fs arguments = .error first := by
  cases he : expand fs arguments with
  | error first => exact ⟨first, rfl⟩
  | ok paths =>
    obtain ⟨contributed, hcontributed⟩ := exists_contribution_of_expand he argument hmem
    simp [h] at hcontributed

/-- The error is that of the first argument that cannot be expanded. -/
private theorem exists_of_expand_eq_error {arguments : List Path} {error : ExpansionError}
    (h : expand fs arguments = .error error) :
    ∃ before argument after, arguments = before ++ argument :: after ∧
      (∀ earlier ∈ before, ∃ contributed, contribution fs earlier = .ok contributed) ∧
      contribution fs argument = .error error := by
  rw [expand] at h
  cases hm : arguments.mapM (contribution fs) with
  | ok contributions => simp [hm, Except.map] at h
  | error found =>
    obtain rfl : found = error := by simpa [hm, Except.map] using h
    exact exists_error_of_mapM hm

section
variable {argument : Path} {contributed : List Path}
  (h : contribution fs argument = .ok contributed)
include h

theorem not_faultyGlob_of_contribution (cause : PatternError) : ¬FaultyGlob fs argument cause := by
  intro hfaulty
  have herror := contribution_eq_error_iff.mpr (Or.inr ⟨cause, hfaulty, rfl⟩)
  simp [h] at herror

theorem not_unlistedDirectory_of_contribution (reason : String) :
    ¬UnlistedDirectory fs argument reason := by
  intro hrefused
  have herror := contribution_eq_error_iff.mpr (Or.inl ⟨reason, hrefused, rfl⟩)
  simp [h] at herror

end

def FirstUnlisted (fs : FileSystem) (arguments : List Path) (argument : Path) (reason : String) :
    Prop :=
  ∃ before after, arguments = before ++ argument :: after ∧
    (∀ earlier ∈ before, ∀ reason, ¬UnlistedDirectory fs earlier reason) ∧
    UnlistedDirectory fs argument reason

section
variable {arguments : List Path}
  (hsound : ∀ argument ∈ arguments, ∀ cause, ¬FaultyGlob fs argument cause)

include hsound in
theorem exists_expand
    (hlisted : ∀ argument ∈ arguments, ∀ reason, ¬UnlistedDirectory fs argument reason) :
    ∃ paths, expand fs arguments = .ok paths := by
  cases he : expand fs arguments with
  | ok paths => exact ⟨paths, rfl⟩
  | error error =>
    obtain ⟨before, argument, after, rfl, -, hargument⟩ := exists_of_expand_eq_error he
    rcases contribution_eq_error_iff.mp hargument with ⟨reason, hrefused, -⟩ | ⟨cause, hfaulty, -⟩
    · exact absurd hrefused (hlisted argument (by simp) reason)
    · exact absurd hfaulty (hsound argument (by simp) cause)

include hsound in
theorem expand_of_unlistedDirectory
    (hrefused : ∃ argument ∈ arguments, ∃ reason, UnlistedDirectory fs argument reason) :
    ∃ argument reason, FirstUnlisted fs arguments argument reason ∧
      expand fs arguments = .error ⟨argument, .listing (.refused reason)⟩ := by
  obtain ⟨argument, hmem, reason, hargument⟩ := hrefused
  obtain ⟨error, he⟩ := exists_error_of_expand hmem
    (contribution_eq_error_iff.mpr (Or.inl ⟨reason, hargument, rfl⟩))
  obtain ⟨before, first, after, rfl, hbefore, hfirst⟩ := exists_of_expand_eq_error he
  rcases contribution_eq_error_iff.mp hfirst with ⟨cause, hunlisted, rfl⟩ | ⟨cause, hfaulty, -⟩
  · refine ⟨first, cause, ⟨before, after, rfl, ?_, hunlisted⟩, he⟩
    intro earlier hmem
    obtain ⟨contributed, hcontributed⟩ := hbefore earlier hmem
    exact not_unlistedDirectory_of_contribution hcontributed
  · exact absurd hfaulty (hsound first (by simp) cause)

theorem expand_of_faultyGlob
    (hlisted : ∀ argument ∈ arguments, ∀ reason, ¬UnlistedDirectory fs argument reason)
    (hfaulty : ∃ argument ∈ arguments, ∃ cause, FaultyGlob fs argument cause) :
    ∃ before argument after cause, arguments = before ++ argument :: after ∧
      (∀ earlier ∈ before, ∀ cause, ¬FaultyGlob fs earlier cause) ∧
      FaultyGlob fs argument cause ∧ expand fs arguments = .error ⟨argument, .pattern cause⟩ := by
  obtain ⟨argument, hmem, cause, hargument⟩ := hfaulty
  obtain ⟨error, he⟩ := exists_error_of_expand hmem
    (contribution_eq_error_iff.mpr (Or.inr ⟨cause, hargument, rfl⟩))
  obtain ⟨before, first, after, rfl, hbefore, hfirst⟩ := exists_of_expand_eq_error he
  rcases contribution_eq_error_iff.mp hfirst with ⟨reason, hrefused, -⟩ | ⟨cause, hfaulty, rfl⟩
  · exact absurd hrefused (hlisted first (by simp) reason)
  · refine ⟨before, first, after, cause, rfl, ?_, hfaulty, he⟩
    intro earlier hmem
    obtain ⟨contributed, hcontributed⟩ := hbefore earlier hmem
    exact not_faultyGlob_of_contribution hcontributed

end

end

/-- The outcome is an error before any file is read: nothing is printed, all files are left, and the
log ends with the message and its cause. -/
structure Outcome.Fails (outcome : Outcome) (fs : FileSystem) (message cause : String) : Prop where
  exitCode : outcome.exitCode = 1
  stdout : outcome.stdout = ""
  files : outcome.files = fs
  stderr : ∃ logged, outcome.stderr =
    asLines (logged ++ ["Error: " ++ message, "", "Caused by:", "    " ++ cause])

section
variable {options : Options} {fs : FileSystem} (log : Option Level)

theorem fails_run_of_error {error : ExpansionError} (h : expand fs options.paths = .error error) :
    (run options log fs).Fails fs error.message error.cause.message := by
  rw [run, h]
  exact ⟨rfl, rfl, rfl, _, rfl⟩

theorem run_of_expand {paths : List Path} (h : expand fs options.paths = .ok paths) :
    (run options log fs).exitCode = 0 ∧
      (run options log fs).stdout =
        asLines ((processFiles options.settings fs paths).reports.filterMap
          (Report.line? options.dryRun) ++
            [summary (processFiles options.settings fs paths).reports]) ∧
      (run options log fs).files = (processFiles options.settings fs paths).files := by
  rw [run, h]
  exact ⟨rfl, rfl, rfl⟩

end

/-- If all directories among the arguments can be listed, a run with an argument that is no glob
fails as a whole: it prints nothing, leaves every file, and tells the first such argument. Any other
run succeeds, processes every path, and prints the summary last. -/
theorem run_all_or_nothing {options : Options} {fs : FileSystem}
    (hlisted : ∀ argument ∈ options.paths, ∀ reason, ¬UnlistedDirectory fs argument reason)
    (log : Option Level) :
    ((∃ argument ∈ options.paths, ∃ cause, FaultyGlob fs argument cause) →
      (run options log fs).exitCode = 1 ∧ (run options log fs).stdout = "" ∧
        (run options log fs).files = fs ∧
        ∃ before argument after cause logged,
          options.paths = before ++ argument :: after ∧
          (∀ earlier ∈ before, ∀ cause, ¬FaultyGlob fs earlier cause) ∧
          FaultyGlob fs argument cause ∧
          (run options log fs).stderr = asLines (logged ++
            ["Error: invalid glob pattern: " ++ String.ofList argument, "", "Caused by:",
              "    " ++ cause.message])) ∧
      ((∀ argument ∈ options.paths, ∀ cause, ¬FaultyGlob fs argument cause) →
        ∃ paths reports, expand fs options.paths = .ok paths ∧
          reports = (processFiles options.settings fs paths).reports ∧
          reports.map Report.path = paths ∧
          (run options log fs).exitCode = 0 ∧
          (run options log fs).stdout =
            asLines (reports.filterMap (Report.line? options.dryRun) ++
              ["\nModified: " ++ toString (reports.countP Report.isModified) ++
                ", Errors: " ++ toString (reports.countP Report.isError)])) := by
  constructor
  · intro hfaulty
    obtain ⟨before, argument, after, cause, hsplit, hbefore, hfirst, he⟩ :=
      expand_of_faultyGlob hlisted hfaulty
    obtain ⟨hexit, hstdout, hfiles, logged, hstderr⟩ := fails_run_of_error log he
    refine ⟨hexit, hstdout, hfiles, before, argument, after, cause, logged, hsplit, hbefore, hfirst,
      ?_⟩
    rw [hstderr]
    rfl
  · intro hsound
    obtain ⟨paths, he⟩ := exists_expand hsound hlisted
    obtain ⟨hexit, hstdout, -⟩ := run_of_expand log he
    exact ⟨paths, _, he, rfl, map_path_reports _ _ _, hexit, hstdout⟩

def lockedDirectory : FileSystem where
  nodes := [([['d']], .directory)]
  workingDirectory := []
  refusals := [([['d']], "Permission denied (os error 13)")]

theorem unlistedDirectory_locked :
    UnlistedDirectory lockedDirectory ['d'] "Permission denied (os error 13)" :=
  ⟨[['d']], by rfl, by rfl, by rfl⟩

private theorem reports_oneFile :
    (processFiles importKeeping (oneFile twoGetters) [['b'], ['a']]).reports =
      [⟨['b'], .skipped⟩, ⟨['a'], .modified 2⟩] := by
  have hresolve : (oneFile twoGetters).resolve ['b'] = .error .notFound := by rfl
  have hmissing : (oneFile twoGetters).readText ['b'] = .error .notFound := by rfl
  have hseparate : [['b'], ['a']].Pairwise fun path other =>
      ¬(oneFile twoGetters).SameFile path other := by
    simp [FileSystem.SameFile, hresolve]
  rw [reports_processFiles hseparate]
  simp only [List.map_cons, List.map_nil, processFile_fst, hmissing, readText_oneFile,
    ofRead_twoGetters]
  rfl

theorem run_all_or_nothing_open :
    let broken : Options := { paths := [['a'], ['['], ['*']], keepImports := true }
    let sound : Options := { paths := [['b'], ['a']], keepImports := true }
    (run broken none (oneFile twoGetters)).exitCode = 1 ∧
      (run broken none (oneFile twoGetters)).stdout = "" ∧
      (run broken none (oneFile twoGetters)).files = oneFile twoGetters ∧
      (run sound none (oneFile twoGetters)).exitCode = 0 ∧
      (run sound none (oneFile twoGetters)).stdout =
        asLines ["SKIP: b (not found)", "OK: a: Removed 2 getter(s)",
          "\nModified: 1, Errors: 0"] := by
  intro broken sound
  have hlisted := @not_unlistedDirectory (oneFile twoGetters) rfl
  obtain ⟨hbroken, -⟩ := @run_all_or_nothing broken _ (fun argument _ => hlisted argument) none
  obtain ⟨-, hsound⟩ := @run_all_or_nothing sound _ (fun argument _ => hlisted argument) none
  have hfaulty : FaultyGlob (oneFile twoGetters) ['['] ⟨0, .characterClass⟩ :=
    ⟨by rfl, by decide, by cbv⟩
  obtain ⟨hexit, hstdout, hfiles, -⟩ := hbroken ⟨['['], by decide, _, hfaulty⟩
  obtain ⟨paths, reports, he, rfl, -, hexit', hstdout'⟩ :=
    hsound (not_faultyGlob_of_plain (by decide))
  have hpaths : [['b'], ['a']] = paths := by
    -- For any content, so that the text itself is not evaluated.
    have hexpand (content : Text) :
        expand (oneFile content) sound.paths = .ok [['b'], ['a']] := by rfl
    exact Except.ok.inj ((hexpand _).symm.trans he)
  have hsettings : sound.settings = importKeeping := by rfl
  rw [← hpaths, hsettings, reports_oneFile] at hstdout'
  exact ⟨hexit, hstdout, hfiles, hexit', hstdout'⟩

end DartSweep
