import DartSweep.Command.Process
import DartSweep.Proofs.Files.Replace
import DartSweep.Proofs.Source.Outcome

/-!
# Processing a single file

What becomes of a file is told by what is read from it and by what pruning makes of that. The file
system changes only where a changed source has passed the census and is written back, and then only
at the location that the path leads to.
-/
namespace DartSweep

/-- No fault of pruning is one of reading or writing. -/
theorem ofFault_of_prune {settings : Settings} {source : Text} {fault : Fault}
    (h : prune settings source = .error fault) : Status.ofFault fault = .rejected fault := by
  rcases (prune_eq_error_iff settings source fault).mp h with hf | ⟨-, -, hc⟩
  · obtain ⟨marker, signature, rfl⟩ := fault_sweep hf
    rfl
  · rcases Census.check_eq_error hc with ⟨old, new, rfl⟩ | ⟨old, new, rfl⟩ <;> rfl

/-- What may become of the file that a path leads to and of the file system. -/
inductive FileOutcome (settings : Settings) (fs : FileSystem) (path : Path) :
    Status → FileSystem → Prop
  | missing (hr : fs.readText path = .error .notFound) : FileOutcome settings fs path .skipped fs
  | unreadable {cause : AccessError} (hr : fs.readText path = .error cause)
      (hc : cause ≠ .notFound) :
      FileOutcome settings fs path (.failed (.unreadable path cause.message)) fs
  | refused {source : Text} {fault : Fault} (hr : fs.readText path = .ok source)
      (hp : prune settings source = .error fault) :
      FileOutcome settings fs path (.rejected fault) fs
  | unmodified {source : Text} {pruned : Pruned} (hr : fs.readText path = .ok source)
      (hp : prune settings source = .ok pruned) (he : pruned.content = source) :
      FileOutcome settings fs path .unmodified fs
  | dry {source : Text} {pruned : Pruned} (hr : fs.readText path = .ok source)
      (hp : prune settings source = .ok pruned) (hne : pruned.content ≠ source)
      (hd : settings.dryRun = true) :
      FileOutcome settings fs path (.modified pruned.removed) fs
  | written {source : Text} {pruned : Pruned} {location : Location}
      (hr : fs.readText path = .ok source) (hp : prune settings source = .ok pruned)
      (hne : pruned.content ≠ source) (hd : settings.dryRun = false)
      (hl : fs.resolve path = .ok location) (ht : fs.textAt location = .ok source) :
      FileOutcome settings fs path (.modified pruned.removed)
        (fs.replace location (String.ofList pruned.content).toUTF8)

theorem processFile_path (settings : Settings) (fs : FileSystem) (path : Path) :
    (processFile settings fs path).1.path = path := by
  rw [processFile]
  split <;> rfl

private theorem processFile_of_unread {fs : FileSystem} {path : Path} {fault : Fault}
    (h : readSource fs path = .error fault) (settings : Settings) :
    processFile settings fs path = (⟨path, .ofFault fault⟩, fs) := by
  simp only [processFile, pruneFile, h, bind, Except.bind]

section
variable {settings : Settings} {fs : FileSystem} {path : Path} {source : Text}
  (hr : readSource fs path = .ok source)
include hr

private theorem processFile_of_refused {fault : Fault} (hp : prune settings source = .error fault) :
    processFile settings fs path = (⟨path, .ofFault fault⟩, fs) := by
  simp only [processFile, pruneFile, hr, hp, bind, Except.bind]

private theorem pruneFile_of_pruned {pruned : Pruned} (hp : prune settings source = .ok pruned) :
    pruneFile settings fs path =
      if pruned.content = source then .ok (.unmodified, fs)
      else if settings.dryRun then .ok (.modified pruned.removed, fs)
      else (writeSource fs path pruned.content).map fun fs => (.modified pruned.removed, fs) := by
  simp only [pruneFile, hr, hp, bind, Except.bind, pure, Except.pure]
  split
  · rfl
  · split
    · rfl
    · cases writeSource fs path pruned.content <;> rfl

end

theorem readSource_of_readText {fs : FileSystem} {path : Path} {source : Text}
    (h : fs.readText path = .ok source) : readSource fs path = .ok source := by
  simp only [readSource, h]

/-- Where a file could be read it can be written. -/
theorem writeSource_of_readText {fs : FileSystem} {path : Path} {source : Text}
    (h : fs.readText path = .ok source) (content : Text) :
    ∃ location, fs.resolve path = .ok location ∧ fs.textAt location = .ok source ∧
      writeSource fs path content =
        .ok (fs.replace location (String.ofList content).toUTF8) := by
  obtain ⟨location, hl, ht⟩ := FileSystem.readText_eq_ok_iff.mp h
  obtain ⟨hn, -⟩ := FileSystem.textAt_eq_ok_iff.mp ht
  refine ⟨location, hl, ht, ?_⟩
  simp only [writeSource, FileSystem.writeText_eq_ok hl hn]

theorem processFile_outcome (settings : Settings) (fs : FileSystem) (path : Path) :
    FileOutcome settings fs path (processFile settings fs path).1.status
      (processFile settings fs path).2 := by
  cases hr : fs.readText path with
  | error cause =>
    by_cases hc : cause = .notFound
    · subst hc
      have hread : readSource fs path = .error (.notFound path) := by simp only [readSource, hr]
      rw [processFile_of_unread hread]
      exact .missing hr
    · have hread : readSource fs path = .error (.unreadable path cause.message) := by
        simp only [readSource, hr]
      rw [processFile_of_unread hread]
      exact .unreadable hr hc
  | ok source =>
    have hread := readSource_of_readText hr
    cases hp : prune settings source with
    | error fault =>
      rw [processFile_of_refused hread hp, ofFault_of_prune hp]
      exact .refused hr hp
    | ok pruned =>
      rw [processFile, pruneFile_of_pruned hread hp]
      by_cases he : pruned.content = source
      · rw [if_pos he]
        exact .unmodified hr hp he
      · rw [if_neg he]
        cases hd : settings.dryRun with
        | true => exact .dry hr hp he hd
        | false =>
          obtain ⟨location, hl, ht, hw⟩ := writeSource_of_readText hr pruned.content
          rw [if_neg Bool.false_ne_true, hw]
          exact .written hr hp he hd hl ht

namespace FileOutcome
variable {settings : Settings} {fs after : FileSystem} {path : Path} {status : Status}
  (h : FileOutcome settings fs path status after)
include h

private theorem skipped_iff : status = .skipped ↔ fs.readText path = .error .notFound := by
  cases h with
  | missing hr => simp [hr]
  | unreadable hr hc => simp [hr, hc]
  | refused hr hp | unmodified hr hp he | dry hr hp hne hd | written hr hp hne hd hl ht => simp [hr]

private theorem failed_iff (fault : Fault) :
    status = .failed fault ↔ ∃ cause, cause ≠ .notFound ∧ fs.readText path = .error cause ∧
      fault = .unreadable path cause.message := by
  cases h with
  | missing hr => simp [hr]
  | unreadable hr hc => simp [hr, hc, eq_comm]
  | refused hr hp | unmodified hr hp he | dry hr hp hne hd | written hr hp hne hd hl ht => simp [hr]

private theorem rejected_iff (fault : Fault) :
    status = .rejected fault ↔
      ∃ source, fs.readText path = .ok source ∧ prune settings source = .error fault := by
  cases h with
  | missing hr | unreadable hr hc => simp [hr]
  | refused hr hp => simp [hr, hp]
  | unmodified hr hp he | dry hr hp hne hd | written hr hp hne hd hl ht => simp [hr, hp]

theorem unmodified_iff :
    status = .unmodified ↔ ∃ source pruned, fs.readText path = .ok source ∧
      prune settings source = .ok pruned ∧ pruned.content = source := by
  constructor
  · intro hs
    subst hs
    cases h with
    | unmodified hr hp he => exact ⟨_, _, hr, hp, he⟩
  · intro hex
    obtain ⟨source, pruned, hr, hp, he⟩ := hex
    cases h with
    | missing hread | unreadable hread hc => simp [hr] at hread
    | refused hread hfault =>
      rw [← Except.ok.inj (hr.symm.trans hread), hp] at hfault
      simp at hfault
    | unmodified hread hpruned hsame => rfl
    | dry hread hpruned hne hd | written hread hpruned hne hd hl ht =>
      have hsource := Except.ok.inj (hr.symm.trans hread)
      rw [← hsource, hp] at hpruned
      rw [← Except.ok.inj hpruned, ← hsource] at hne
      exact absurd he hne

private theorem modified_iff (removed : Nat) :
    status = .modified removed ↔ ∃ source pruned, fs.readText path = .ok source ∧
      prune settings source = .ok pruned ∧ pruned.content ≠ source ∧
        pruned.removed = removed := by
  cases h with
  | missing hr | unreadable hr hc => simp [hr]
  | refused hr hp => simp [hr, hp]
  | unmodified hr hp he => simp [hr, hp, he]
  | dry hr hp hne hd | written hr hp hne hd hl ht => simp [hr, hp, hne]

theorem files_eq (hs : settings.dryRun = true ∨ ∀ removed, status ≠ .modified removed) :
    after = fs := by
  cases h with
  | missing hr | unreadable hr hc | refused hr hp | unmodified hr hp he | dry hr hp hne hd => rfl
  | written hr hp hne hd hl ht =>
    rcases hs with hdry | hm
    · simp [hd] at hdry
    · exact absurd rfl (hm _)

private theorem node?_eq {location : Location} (hl : fs.resolve path ≠ .ok location) :
    after.node? location = fs.node? location := by
  cases h with
  | missing hr | unreadable hr hc | refused hr hp | unmodified hr hp he | dry hr hp hne hd => rfl
  | @written source pruned place hr hp hne hd hplace ht =>
    rw [FileSystem.node?_replace (FileSystem.textAt_eq_ok_iff.mp ht).1, if_neg]
    intro he
    exact hl (he ▸ hplace)

theorem resolve_eq (other : Path) : after.resolve other = fs.resolve other := by
  cases h with
  | missing hr | unreadable hr hc | refused hr hp | unmodified hr hp he | dry hr hp hne hd => rfl
  | written hr hp hne hd hl ht =>
    exact FileSystem.resolve_replace (FileSystem.textAt_eq_ok_iff.mp ht).1 _ other

/-- A changed source is written as a whole, and read again as it was written. -/
theorem exists_written {removed : Nat} (hs : status = .modified removed)
    (hd : settings.dryRun = false) :
    ∃ source pruned location, fs.readText path = .ok source ∧
      prune settings source = .ok pruned ∧ pruned.content ≠ source ∧ pruned.removed = removed ∧
      fs.resolve path = .ok location ∧
      fs.node? location = some (.file (String.ofList source).toUTF8) ∧
      after.node? location = some (.file (String.ofList pruned.content).toUTF8) ∧
      after.readText path = .ok pruned.content := by
  cases h with
  | missing hr | unreadable hr hc | refused hr hp | unmodified hr hp he => simp at hs
  | dry hr hp hne hdry => simp [hd] at hdry
  | @written source pruned location hr hp hne hd hl ht =>
    obtain ⟨hn, -⟩ := FileSystem.textAt_eq_ok_iff.mp ht
    refine ⟨source, pruned, location, hr, hp, hne, Status.modified.inj hs, hl, hn, ?_, ?_⟩
    · rw [FileSystem.node?_replace hn, if_pos rfl]
    · rw [FileSystem.readText_eq_ok_iff]
      exact ⟨location, (FileSystem.resolve_replace hn _ path).trans hl,
        FileSystem.textAt_replace ht _⟩

private theorem changes_iff :
    (∃ location, fs.resolve path = .ok location ∧ after.node? location ≠ fs.node? location) ↔
      settings.dryRun = false ∧ ∃ removed, status = .modified removed := by
  constructor
  · intro hex
    obtain ⟨location, -, hchanged⟩ := hex
    by_contra hno
    have hsame : after = fs := by
      apply h.files_eq
      cases hd : settings.dryRun with
      | true => exact Or.inl rfl
      | false =>
        right
        intro removed hs
        exact hno ⟨hd, removed, hs⟩
    exact hchanged (by rw [hsame])
  · intro hex
    obtain ⟨hd, removed, hs⟩ := hex
    obtain ⟨source, pruned, location, -, -, hne, -, hl, hbefore, hafter, -⟩ :=
      h.exists_written hs hd
    refine ⟨location, hl, ?_⟩
    rw [hbefore, hafter]
    intro he
    exact hne (toUTF8_inj (Node.file.inj (Option.some.inj he)))

end FileOutcome

/-- Processing a file changes it as a whole or not at all, and nothing else in any case. It is
changed exactly if the run is not dry and the status says so, to what pruning makes of the text that
was read. The status tells the outcomes of reading and pruning apart: a file that is missing, one
that cannot be read for any other cause, one with a fault, and one that pruning leaves as it is. -/
theorem processFile_atomic (settings : Settings) (fs : FileSystem) (path : Path) :
    let status := (processFile settings fs path).1.status
    let after := (processFile settings fs path).2
    (processFile settings fs path).1.path = path ∧
      (∀ location, fs.resolve path ≠ .ok location →
        after.node? location = fs.node? location) ∧
      (∀ other, after.resolve other = fs.resolve other) ∧
      ((∃ location, fs.resolve path = .ok location ∧
        after.node? location ≠ fs.node? location) ↔
          settings.dryRun = false ∧ ∃ removed, status = .modified removed) ∧
      (∀ removed, status = .modified removed → settings.dryRun = false →
        ∃ source pruned location, fs.readText path = .ok source ∧
          prune settings source = .ok pruned ∧ pruned.content ≠ source ∧
          pruned.removed = removed ∧ fs.resolve path = .ok location ∧
          fs.node? location = some (.file (String.ofList source).toUTF8) ∧
          after.node? location = some (.file (String.ofList pruned.content).toUTF8) ∧
          after.readText path = .ok pruned.content) ∧
      (∀ removed, status = .modified removed ↔
        ∃ source pruned, fs.readText path = .ok source ∧ prune settings source = .ok pruned ∧
          pruned.content ≠ source ∧ pruned.removed = removed) ∧
      (status = .skipped ↔ fs.readText path = .error .notFound) ∧
      (∀ fault, status = .failed fault ↔
        ∃ cause, cause ≠ .notFound ∧ fs.readText path = .error cause ∧
          fault = .unreadable path cause.message) ∧
      (∀ bytes, fs.readBytes path = .ok bytes → String.fromUTF8? bytes = none →
        status = .failed (.unreadable path AccessError.notUtf8.message)) ∧
      (∀ fault, status = .rejected fault ↔
        ∃ source, fs.readText path = .ok source ∧ prune settings source = .error fault) ∧
      (status = .unmodified ↔
        ∃ source pruned, fs.readText path = .ok source ∧ prune settings source = .ok pruned ∧
          pruned.content = source) ∧
      (settings.dryRun = true ∨ (∀ removed, status ≠ .modified removed) → after = fs) := by
  have h := processFile_outcome settings fs path
  refine ⟨processFile_path settings fs path, fun _ hl => h.node?_eq hl, h.resolve_eq,
    h.changes_iff, fun _ hs hd => h.exists_written hs hd, h.modified_iff, h.skipped_iff,
    h.failed_iff, ?_, h.rejected_iff, h.unmodified_iff, h.files_eq⟩
  intro bytes hb hu
  rw [h.failed_iff]
  exact ⟨.notUtf8, by decide, FileSystem.readText_of_notUtf8 hb hu, rfl⟩

theorem processFile_atomic_stacked :
    (processFile importless (oneFile stackedSource) ['a']).1.status = .modified 2 ∧
      (processFile importless (oneFile stackedSource) ['a']).2.readText ['a'] =
        .ok (joinLines stackedLeft) ∧
      (processFile importless (oneFile stackedSource) ['b']).1.status = .skipped := by
  obtain ⟨-, -, -, -, hwritten, hmodified, -⟩ :=
    processFile_atomic importless (oneFile stackedSource) ['a']
  obtain ⟨-, -, -, -, -, -, hskipped, -⟩ :=
    processFile_atomic importless (oneFile stackedSource) ['b']
  have hne : joinLines stackedLeft ≠ stackedSource := by
    intro he
    have hlength := congrArg List.length he
    exact absurd hlength (by decide +kernel)
  have hs := (hmodified 2).mpr ⟨_, _, readText_oneFile _, prune_stacked, hne, rfl⟩
  obtain ⟨source, pruned, -, hr, hp, -, -, -, -, -, hafter⟩ := hwritten 2 hs rfl
  have hsource : stackedSource = source := Except.ok.inj ((readText_oneFile _).symm.trans hr)
  rw [← hsource, prune_stacked] at hp
  rw [← Except.ok.inj hp] at hafter
  exact ⟨hs, hafter, hskipped.mpr (by rfl)⟩

end DartSweep
