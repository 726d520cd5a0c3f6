import DartSweep.Proofs.Command.SingleFile
import DartSweep.Proofs.Source.Fixpoint

/-!
# What processing does to one entry

Processing a path is a matter of the entry that it leads to: the status is read off the entry's
text, and the entry is rewritten or left. A rewritten entry is never rewritten again, and rewriting
two entries can be done in either order.
-/
namespace DartSweep

/-- The text that takes a source's place, if one does. -/
def Settings.rewrite? (settings : Settings) (source : Text) : Option Text :=
  match prune settings source with
  | .error _ => none
  | .ok pruned =>
    if settings.dryRun ∨ pruned.content = source then none else some pruned.content

/-- The text that is there after processing. Nothing takes its place any more. -/
def Settings.rewritten (settings : Settings) (source : Text) : Text :=
  (settings.rewrite? source).getD source

def Status.ofRead (settings : Settings) (path : Path) : Except AccessError Text → Status
  | .error .notFound => skipped
  | .error cause => failed (.unreadable path cause.message)
  | .ok source =>
    match prune settings source with
    | .error fault => rejected fault
    | .ok pruned => if pruned.content = source then unmodified else modified pruned.removed

namespace Settings

private theorem rewrite?_eq_some_iff {settings : Settings} {source content : Text} :
    settings.rewrite? source = some content ↔ settings.dryRun = false ∧ content ≠ source ∧
      ∃ removed, prune settings source = .ok ⟨content, removed⟩ := by
  rw [rewrite?]
  cases hp : prune settings source with
  | error fault => simp
  | ok pruned =>
    obtain ⟨left, count⟩ := pruned
    simp only [Option.ite_none_left_eq_some, not_or, Bool.not_eq_true, Option.some.injEq,
      Except.ok.injEq, Pruned.mk.injEq, exists_and_left, exists_eq', and_true, and_assoc]
    refine and_congr_right fun _ => ?_
    constructor
    · rintro ⟨hne, rfl⟩
      exact ⟨hne, rfl⟩
    · rintro ⟨hne, rfl⟩
      exact ⟨hne, rfl⟩

private theorem rewrite?_of_dryRun {settings : Settings} (h : settings.dryRun = true)
    (source : Text) : settings.rewrite? source = none := by
  rw [Option.eq_none_iff_forall_ne_some]
  intro content hs
  have hd := (rewrite?_eq_some_iff.mp hs).1
  simp [h] at hd

private theorem rewrite?_rewritten (settings : Settings) (source : Text) :
    settings.rewrite? (settings.rewritten source) = none := by
  cases hs : settings.rewrite? source with
  | none => rw [rewritten, hs, Option.getD_none, hs]
  | some content =>
    obtain ⟨hd, -, removed, hp⟩ := rewrite?_eq_some_iff.mp hs
    rw [rewritten, hs, Option.getD_some, rewrite?, prune_content hp]
    simp

end Settings

namespace FileSystem

def location? (fs : FileSystem) (path : Path) : Option Location :=
  (fs.resolve path).toOption

theorem location?_eq_some_iff {fs : FileSystem} {path : Path} {location : Location} :
    fs.location? path = some location ↔ fs.resolve path = .ok location := by
  rw [location?]
  cases fs.resolve path <;> simp [Except.toOption]

def rewrite? (settings : Settings) (fs : FileSystem) (location : Location) : Option Text :=
  (fs.textAt location).toOption.bind settings.rewrite?

def rewritten (settings : Settings) (fs : FileSystem) (location : Location) : Option Node :=
  match fs.rewrite? settings location with
  | none => fs.node? location
  | some content => some (.file (String.ofList content).toUTF8)

def pruneAt (settings : Settings) (fs : FileSystem) (location : Location) : FileSystem :=
  match fs.rewrite? settings location with
  | none => fs
  | some content => fs.replace location (String.ofList content).toUTF8

section
variable {settings : Settings} {fs : FileSystem} {location : Location}

private theorem rewrite?_eq_some_iff {content : Text} :
    fs.rewrite? settings location = some content ↔
      ∃ source, fs.textAt location = .ok source ∧ settings.rewrite? source = some content := by
  rw [rewrite?]
  cases fs.textAt location <;> simp [Except.toOption]

private theorem pruneAt_of_none (h : fs.rewrite? settings location = none) :
    fs.pruneAt settings location = fs := by
  rw [pruneAt, h]

private theorem pruneAt_of_some {content : Text}
    (h : fs.rewrite? settings location = some content) :
    fs.pruneAt settings location = fs.replace location (String.ofList content).toUTF8 := by
  rw [pruneAt, h]

private theorem exists_file_of_rewrite? {content : Text}
    (h : fs.rewrite? settings location = some content) :
    ∃ bytes, fs.node? location = some (.file bytes) := by
  obtain ⟨source, ht, -⟩ := rewrite?_eq_some_iff.mp h
  exact ⟨_, (textAt_eq_ok_iff.mp ht).1⟩

theorem node?_pruneAt (other : Location) :
    (fs.pruneAt settings location).node? other =
      if other = location then fs.rewritten settings location else fs.node? other := by
  rw [rewritten]
  cases hs : fs.rewrite? settings location with
  | none =>
    rw [pruneAt_of_none hs]
    split
    · rename_i he
      rw [he]
    · rfl
  | some content =>
    obtain ⟨bytes, hn⟩ := exists_file_of_rewrite? hs
    rw [pruneAt_of_some hs, node?_replace hn]

theorem sameTree_pruneAt : SameTree fs (fs.pruneAt settings location) := by
  cases hs : fs.rewrite? settings location with
  | none =>
    rw [pruneAt_of_none hs]
    exact .refl fs
  | some content =>
    obtain ⟨bytes, hn⟩ := exists_file_of_rewrite? hs
    rw [pruneAt_of_some hs]
    exact sameTree_replace hn _

theorem textAt_pruneAt (other : Location) :
    (fs.pruneAt settings location).textAt other =
      if other = location then (fs.textAt location).map settings.rewritten
      else fs.textAt other := by
  cases hs : fs.rewrite? settings location with
  | none =>
    rw [pruneAt_of_none hs]
    split
    · rename_i he
      subst he
      cases ht : fs.textAt other with
      | error cause => rfl
      | ok source =>
        have hsource : settings.rewrite? source = none := by
          simpa [rewrite?, ht, Except.toOption] using hs
        rw [Except.map, Settings.rewritten, hsource, Option.getD_none]
    · rfl
  | some content =>
    obtain ⟨source, ht, hsource⟩ := rewrite?_eq_some_iff.mp hs
    rw [pruneAt_of_some hs]
    split
    · rename_i he
      rw [he, textAt_replace ht, ht, Except.map, Settings.rewritten, hsource, Option.getD_some]
    · rename_i hne
      exact textAt_replace_of_ne (textAt_eq_ok_iff.mp ht).1 _ hne

private theorem rewrite?_pruneAt (other : Location) :
    (fs.pruneAt settings location).rewrite? settings other =
      if other = location then none else fs.rewrite? settings other := by
  rw [rewrite?, textAt_pruneAt]
  split
  · cases fs.textAt location with
    | error cause => rfl
    | ok source => exact settings.rewrite?_rewritten source
  · rfl

theorem rewritten_pruneAt (other : Location) :
    (fs.pruneAt settings location).rewritten settings other = fs.rewritten settings other := by
  rw [rewritten, rewrite?_pruneAt, node?_pruneAt]
  by_cases he : other = location
  · rw [if_pos he, if_pos he, he]
  · rw [if_neg he, if_neg he, rewritten]

theorem pruneAt_comm (fs : FileSystem) (location other : Location) :
    (fs.pruneAt settings location).pruneAt settings other =
      (fs.pruneAt settings other).pruneAt settings location := by
  by_cases he : location = other
  · rw [he]
  -- Neither step changes the entry that the other one reads.
  have hlocation : (fs.pruneAt settings other).rewrite? settings location =
      fs.rewrite? settings location := by rw [rewrite?_pruneAt, if_neg he]
  have hother : (fs.pruneAt settings location).rewrite? settings other =
      fs.rewrite? settings other := by rw [rewrite?_pruneAt, if_neg (Ne.symm he)]
  cases hr : fs.rewrite? settings location with
  | none => rw [pruneAt_of_none hr, pruneAt_of_none (hlocation.trans hr)]
  | some content =>
    cases hs : fs.rewrite? settings other with
    | none => rw [pruneAt_of_none hs, pruneAt_of_none (hother.trans hs)]
    | some others =>
      rw [pruneAt_of_some (hother.trans hs), pruneAt_of_some (hlocation.trans hr),
        pruneAt_of_some hr, pruneAt_of_some hs]
      exact replace_comm he _ _

private theorem rewrite?_of_resolve {path : Path} (hl : fs.resolve path = .ok location) :
    fs.rewrite? settings location = (fs.readText path).toOption.bind settings.rewrite? := by
  rw [rewrite?, readText, hl]
  rfl

private theorem elim_pruneAt_eq_self {path : Path}
    (h : ∀ source, fs.readText path = .ok source → settings.rewrite? source = none) :
    (fs.location? path).elim fs (fs.pruneAt settings) = fs := by
  cases hl : fs.resolve path with
  | error cause => simp only [location?, hl, Except.toOption, Option.elim_none]
  | ok location =>
    simp only [location?, hl, Except.toOption, Option.elim_some]
    apply pruneAt_of_none
    rw [rewrite?_of_resolve hl]
    cases hr : fs.readText path with
    | error cause => rfl
    | ok source => exact h source hr

end
end FileSystem

namespace FileOutcome
variable {settings : Settings} {fs after : FileSystem} {path : Path} {status : Status}
  (h : FileOutcome settings fs path status after)
include h

private theorem status_eq : status = .ofRead settings path (fs.readText path) := by
  cases h with
  | missing hr => rw [hr, Status.ofRead]
  | unreadable hr hc =>
    rw [hr, Status.ofRead]
    exact hc
  | refused hr hp => simp only [hr, Status.ofRead, hp]
  | unmodified hr hp he => simp only [hr, Status.ofRead, hp, if_pos he]
  | dry hr hp hne hd | written hr hp hne hd hl ht => simp only [hr, Status.ofRead, hp, if_neg hne]

/-- Only the entry that the path leads to is processed. -/
theorem files_eq_elim : after = (fs.location? path).elim fs (fs.pruneAt settings) := by
  cases h with
  | missing hr | unreadable hr hc =>
    exact (FileSystem.elim_pruneAt_eq_self (by simp [hr])).symm
  | refused hr hp =>
    exact (FileSystem.elim_pruneAt_eq_self (by simp [hr, Settings.rewrite?, hp])).symm
  | unmodified hr hp he =>
    exact (FileSystem.elim_pruneAt_eq_self (by simp [hr, Settings.rewrite?, hp, he])).symm
  | dry hr hp hne hd =>
    exact (FileSystem.elim_pruneAt_eq_self fun source _ =>
      Settings.rewrite?_of_dryRun hd source).symm
  | @written source pruned location hr hp hne hd hl ht =>
    have hrewrite : settings.rewrite? source = some pruned.content :=
      Settings.rewrite?_eq_some_iff.mpr ⟨hd, hne, pruned.removed, hp⟩
    simp only [FileSystem.location?, hl, Except.toOption, Option.elim_some]
    rw [FileSystem.pruneAt_of_some (FileSystem.rewrite?_eq_some_iff.mpr ⟨source, ht, hrewrite⟩)]

end FileOutcome

theorem processFile_fst (settings : Settings) (fs : FileSystem) (path : Path) :
    (processFile settings fs path).1 = ⟨path, .ofRead settings path (fs.readText path)⟩ :=
  congrArg₂ Report.mk (processFile_path settings fs path)
    (processFile_outcome settings fs path).status_eq

theorem processFile_snd (settings : Settings) (fs : FileSystem) (path : Path) :
    (processFile settings fs path).2 = (fs.location? path).elim fs (fs.pruneAt settings) :=
  (processFile_outcome settings fs path).files_eq_elim

theorem FileSystem.readText_pruneAt (settings : Settings) (fs : FileSystem) (location : Location)
    (path : Path) :
    (fs.pruneAt settings location).readText path =
      if fs.location? path = some location then (fs.readText path).map settings.rewritten
      else fs.readText path := by
  rw [readText, readText, sameTree_pruneAt.resolve_eq, location?]
  cases fs.resolve path with
  | error cause => rfl
  | ok place =>
    simp only [bind, Except.bind, Except.toOption, Option.some.injEq, textAt_pruneAt]
    split
    · rename_i he
      rw [he]
    · rfl

def importKeeping : Settings where
  deadImports := []

/-- A source whose sweep takes two passes. -/
def twoGetters : Text :=
  joinLines unstackingPass.lines

private theorem prune_twoGetters :
    prune importKeeping twoGetters = .ok ⟨joinLines stackedLeft, 2⟩ := by
  have hsweep : sweepSource importKeeping twoGetters =
      ⟨[unstackingPass, joiningPass], joinLines stackedLeft, none⟩ := by
    have himports : dropImports importKeeping.deadImports twoGetters =
        joinLines unstackingPass.lines := by rfl
    rw [sweepSource, himports, sweep_unstacking, sweep_joining]
  have hcensus : Census.ofSource importKeeping.classKeyword twoGetters =
      Census.ofSource importKeeping.classKeyword (joinLines stackedLeft) := by
    decide +kernel
  exact prune_of_census_eq hsweep hcensus

private theorem joinLines_stackedLeft_ne : joinLines stackedLeft ≠ twoGetters := by
  intro he
  have hlength := congrArg List.length he
  exact absurd hlength (by decide +kernel)

theorem ofRead_twoGetters (path : Path) :
    Status.ofRead importKeeping path (.ok twoGetters) = .modified 2 := by
  simp only [Status.ofRead, prune_twoGetters, if_neg joinLines_stackedLeft_ne]

end DartSweep
