import DartSweep.Proofs.Command.Expansion

/-!
# Dry runs

A dry run leaves all files. If no two of its paths lead to one file, it gives the reports that a
real run gives, and the lines of the two differ in one verb.
-/
namespace DartSweep

/-- The first line announces what the second one tells as done. -/
inductive Announces : String → String → Prop
  | same (line : String) : Announces line line
  | removal (name : String) (removed : Nat) :
      Announces ("OK: " ++ name ++ ": " ++ "Would remove " ++ toString removed ++ " getter(s)")
        ("OK: " ++ name ++ ": " ++ "Removed " ++ toString removed ++ " getter(s)")

private theorem announces_lines (reports : List Report) :
    List.Forall₂ Announces (reports.filterMap (Report.line? true))
      (reports.filterMap (Report.line? false)) := by
  induction reports with
  | nil => exact .nil
  | cons report rest ih =>
    obtain ⟨path, status⟩ := report
    cases status with
    | unmodified => exact ih
    | modified removed => exact .cons (.removal _ removed) ih
    | skipped | rejected fault | failed fault => exact .cons (.same _) ih

private theorem ofRead_dryRun (settings : Settings) (dryRun : Bool) (path : Path)
    (read : Except AccessError Text) :
    Status.ofRead { settings with dryRun } path read = Status.ofRead settings path read := by
  rfl

private theorem files_processFiles_dry {settings : Settings} (hd : settings.dryRun = true)
    (fs : FileSystem) (paths : List Path) : (processFiles settings fs paths).files = fs := by
  have hunchanged : ∀ path ∈ paths, (processFile settings fs path).2 = fs :=
    fun path _ => (processFile_outcome settings fs path).files_eq (Or.inl hd)
  exact (processFiles_of_unchanged hunchanged).1

theorem files_run_dry {options : Options} (hd : options.dryRun = true) (log : Option Level)
    (fs : FileSystem) : (run options log fs).files = fs := by
  cases he : expand fs options.paths with
  | error error => exact (fails_run_of_error log he).files
  | ok paths =>
    obtain ⟨-, -, hfiles⟩ := run_of_expand log he
    have hsettings : options.settings.dryRun = true := hd
    rw [hfiles, files_processFiles_dry hsettings]

/-- A dry run leaves the files as they are. If no two of its paths lead to one file, its reports are
those of the real run, so that the summaries are equal and the other lines differ in the verb. If a
directory cannot be listed, both runs fail at the same one for the same reason. -/
theorem dry_run_predicts (options : Options) (log later : Option Level) (fs : FileSystem) :
    let dry : Options := { options with dryRun := true }
    let real : Options := { options with dryRun := false }
    (run dry log fs).files = fs ∧
      ((∀ argument ∈ options.paths, ∀ cause, ¬FaultyGlob fs argument cause) →
        ((∀ argument ∈ options.paths, ∀ reason, ¬UnlistedDirectory fs argument reason) →
          ∃ paths, expand fs options.paths = .ok paths ∧
            (paths.Pairwise (fun path other => ¬fs.SameFile path other) →
              ∃ reports planned done,
                (processFiles dry.settings fs paths).reports = reports ∧
                (processFiles real.settings fs paths).reports = reports ∧
                (run dry log fs).exitCode = 0 ∧ (run real later fs).exitCode = 0 ∧
                (run dry log fs).stdout = asLines (planned ++ [summary reports]) ∧
                (run real later fs).stdout = asLines (done ++ [summary reports]) ∧
                planned = reports.filterMap (Report.line? true) ∧
                done = reports.filterMap (Report.line? false) ∧
                List.Forall₂ Announces planned done)) ∧
        ((∃ argument ∈ options.paths, ∃ reason, UnlistedDirectory fs argument reason) →
          ∃ argument reason, FirstUnlisted fs options.paths argument reason ∧
            (run dry log fs).Fails fs ("failed to read directory: " ++ String.ofList argument)
              reason ∧
            (run real later fs).Fails fs ("failed to read directory: " ++ String.ofList argument)
              reason)) := by
  intro dry real
  refine ⟨files_run_dry rfl log fs, fun hsound => ⟨fun hlisted => ?_, fun hrefused => ?_⟩⟩
  · obtain ⟨paths, he⟩ := exists_expand hsound hlisted
    refine ⟨paths, he, fun hseparate => ?_⟩
    have hsame : (processFiles real.settings fs paths).reports =
        (processFiles dry.settings fs paths).reports := by
      rw [reports_processFiles hseparate, reports_processFiles hseparate]
      refine List.map_congr_left fun path _ => ?_
      rw [processFile_fst, processFile_fst]
      exact congrArg _ (ofRead_dryRun dry.settings false path _)
    have hdry : expand fs dry.paths = .ok paths := he
    have hreal : expand fs real.paths = .ok paths := he
    obtain ⟨hexit, hstdout, -⟩ := run_of_expand log hdry
    obtain ⟨hexit', hstdout', -⟩ := run_of_expand later hreal
    rw [hsame] at hstdout'
    exact ⟨_, _, _, rfl, hsame, hexit, hexit', hstdout, hstdout', rfl, rfl, announces_lines _⟩
  · obtain ⟨argument, reason, hfirst, he⟩ := expand_of_unlistedDirectory hsound hrefused
    have hdry : expand fs dry.paths = .error ⟨argument, .listing (.refused reason)⟩ := he
    have hreal : expand fs real.paths = .error ⟨argument, .listing (.refused reason)⟩ := he
    exact ⟨argument, reason, hfirst, fails_run_of_error log hdry, fails_run_of_error later hreal⟩

theorem dry_run_predicts_unreadable :
    let options : Options := { paths := [['a'], ['b']], keepImports := true }
    let locked : Options := { paths := [['d']] }
    (run { options with dryRun := true } none (textAndNoText twoGetters)).files =
        textAndNoText twoGetters ∧
      (run { options with dryRun := true } none (textAndNoText twoGetters)).stdout =
        asLines ["OK: a: Would remove 2 getter(s)",
          "ERROR: b: failed to read b: stream did not contain valid UTF-8",
          "\nModified: 1, Errors: 1"] ∧
      (run { options with dryRun := false } none (textAndNoText twoGetters)).stdout =
        asLines ["OK: a: Removed 2 getter(s)",
          "ERROR: b: failed to read b: stream did not contain valid UTF-8",
          "\nModified: 1, Errors: 1"] ∧
      (run { locked with dryRun := true } none lockedDirectory).exitCode = 1 ∧
      (run { locked with dryRun := false } none lockedDirectory).exitCode = 1 := by
  intro options locked
  obtain ⟨hfiles, hpredicts⟩ := dry_run_predicts options none none (textAndNoText twoGetters)
  obtain ⟨hpredicted, -⟩ := hpredicts (not_faultyGlob_of_plain (by decide))
  obtain ⟨paths, he, hreal⟩ := hpredicted fun argument _ => not_unlistedDirectory rfl argument
  have hpaths : [['a'], ['b']] = paths := by
    have hexpand (content : Text) :
        expand (textAndNoText content) options.paths = .ok [['a'], ['b']] := by rfl
    exact Except.ok.inj ((hexpand _).symm.trans he)
  have hseparate : [['a'], ['b']].Pairwise fun path other =>
      ¬(textAndNoText twoGetters).SameFile path other :=
    (not_sameFile_textAndNoText twoGetters).sublist (by decide)
  obtain ⟨reports, planned, done, -, hreports, -, -, hdry, hdone, rfl, rfl, -⟩ :=
    hreal (hpaths ▸ hseparate)
  obtain ⟨ha, hb, -⟩ := readText_textAndNoText twoGetters
  have hsettings : ({ options with dryRun := false } : Options).settings = importKeeping := by rfl
  rw [← hpaths, hsettings, reports_processFiles hseparate] at hreports
  simp only [List.map_cons, List.map_nil, processFile_fst, ha, hb, ofRead_twoGetters] at hreports
  rw [← hreports] at hdry hdone
  obtain ⟨-, hpredicts'⟩ := dry_run_predicts locked none none lockedDirectory
  obtain ⟨-, hfail⟩ := hpredicts' (not_faultyGlob_of_plain (by decide))
  obtain ⟨argument, reason, -, hplanned, hfailed⟩ :=
    hfail ⟨['d'], by decide, _, unlistedDirectory_locked⟩
  exact ⟨hfiles, hdry, hdone, hplanned.exitCode, hfailed.exitCode⟩

end DartSweep
