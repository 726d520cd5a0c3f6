import DartSweep.Proofs.Edit.Survivors
import DartSweep.Proofs.Source.Outcome

/-!
# Where the lines of a pruned source come from

The lines of a source keep the indices they have there while imports are dropped and passes delete
getters. An entry is a line with its index. At the end each entry is still there, or has been
dropped with the imports, or one pass of the sweep had a reason to leave it out.
-/
namespace DartSweep

/-- The entries of the source without the dead imports. -/
def liveEntries (dead : List Text) (source : Text) : List (Text × Nat) :=
  (splitLines source).zipIdx.filter fun entry => !isDeadImport dead entry.1

def Pass.leaves (pass : Pass) (entries : List (Text × Nat)) : List (Text × Nat) :=
  keptFrom (pass.plan.Keeps pass.lines) 0 entries

/-- A pass together with the entries of its lines. -/
structure Stage where
  pass : Pass
  entries : List (Text × Nat)

def stages : List Pass → List (Text × Nat) → List Stage
  | [], _ => []
  | pass :: passes, entries => ⟨pass, entries⟩ :: stages passes (pass.leaves entries)

def remaining : List Pass → List (Text × Nat) → List (Text × Nat)
  | [], entries => entries
  | pass :: passes, entries => remaining passes (pass.leaves entries)

def history (settings : Settings) (source : Text) : List Stage :=
  stages (sweepSource settings source).passes (liveEntries settings.deadImports source)

def survivors (settings : Settings) (source : Text) : List (Text × Nat) :=
  remaining (sweepSource settings source).passes (liveEntries settings.deadImports source)

namespace Stage

/-- The entries belong to the lines of the pass, before it and after it, and the plan of the pass
holds the getters that a scan finds. -/
structure Faithful (stage : Stage) : Prop where
  before : stage.entries.map Prod.fst = stage.pass.lines
  scan : findGetters stage.pass.lines = .ok stage.pass.plan.spans
  after : (stage.pass.leaves stage.entries).map Prod.fst = stage.pass.result

/-- The entry is in a getter that the pass found, or it is blank and, with these getters deleted,
comes directly after a blank line. -/
def Drops (stage : Stage) (entry : Text × Nat) : Prop :=
  ∃ index, stage.entries[index]? = some entry ∧
    (Covered stage.pass.plan.spans index ∨
      (isBlank entry.1 = true ∧ BlankBefore stage.pass.plan.spans stage.pass.lines index))

theorem faithful {stage : Stage} (hl : stage.entries.map Prod.fst = stage.pass.lines)
    (hf : findGetters stage.pass.lines = .ok stage.pass.plan.spans) : stage.Faithful := by
  refine ⟨hl, hf, ?_⟩
  rw [Pass.leaves, map_keptFrom, hl, Pass.result, DeletionPlan.apply_eq_keptFrom]

private theorem drops_of_not_mem {stage : Stage}
    (hl : stage.entries.map Prod.fst = stage.pass.lines)
    {entry : Text × Nat} (hm : entry ∈ stage.entries)
    (hn : entry ∉ stage.pass.leaves stage.entries) : stage.Drops entry := by
  obtain ⟨index, hi⟩ := List.mem_iff_getElem?.mp hm
  have hline : stage.pass.lines[index]? = some entry.1 := by
    rw [← hl, List.getElem?_map, hi]
    rfl
  have hblank : BlankAt stage.pass.lines index ↔ isBlank entry.1 = true := by
    rw [BlankAt, hline, Option.any_some]
  have hkeep : ¬stage.pass.plan.Keeps stage.pass.lines index := by
    intro hk
    apply hn
    apply mem_keptFrom_of_getElem? _ hi
    rw [Nat.zero_add]
    exact hk
  refine ⟨index, hi, ?_⟩
  by_cases hc : Covered stage.pass.plan.spans index
  · exact Or.inl hc
  · right
    rw [← hblank]
    by_contra hs
    exact hkeep ⟨hc, hs⟩

end Stage

theorem leaves_sublist (pass : Pass) (entries : List (Text × Nat)) :
    (pass.leaves entries).Sublist entries :=
  keptFrom_sublist _ 0 entries

private theorem remaining_sublist (passes : List Pass) (entries : List (Text × Nat)) :
    (remaining passes entries).Sublist entries := by
  induction passes generalizing entries with
  | nil => exact List.Sublist.refl entries
  | cons pass passes ih => exact (ih _).trans (leaves_sublist pass entries)

private theorem exists_drops_of_not_mem {passes : List Pass} {entries : List (Text × Nat)}
    (hs : ∀ stage ∈ stages passes entries, stage.Faithful) {entry : Text × Nat}
    (hm : entry ∈ entries) (hn : entry ∉ remaining passes entries) :
    ∃ stage ∈ stages passes entries, stage.Drops entry := by
  induction passes generalizing entries with
  | nil => exact absurd hm hn
  | cons pass passes ih =>
    rw [stages, List.forall_mem_cons] at hs
    by_cases hleft : entry ∈ pass.leaves entries
    · obtain ⟨stage, hstage, hd⟩ := ih hs.2 hleft hn
      exact ⟨stage, List.mem_cons_of_mem _ hstage, hd⟩
    · have hd := Stage.drops_of_not_mem hs.1.before hm hleft
      exact ⟨⟨pass, entries⟩, List.mem_cons_self, hd⟩

/-- The content joins the lines of the entries. Where no entries are left it still has one line,
which is empty. -/
structure Numbers (entries : List (Text × Nat)) (content : Text) : Prop where
  joined : content = joinLines (entries.map Prod.fst)
  split : content = [] ∨ splitLines content = entries.map Prod.fst

private theorem numbers_of_sublist {entries : List (Text × Nat)} {source : Text}
    (h : (entries.map Prod.fst).Sublist (splitLines source)) :
    Numbers entries (joinLines (entries.map Prod.fst)) := by
  refine ⟨rfl, ?_⟩
  by_cases hne : entries.map Prod.fst = []
  · left
    rw [hne]
    rfl
  · exact Or.inr (splitLines_joinLines_of_sublist h hne)

theorem numbers_liveEntries (dead : List Text) (source : Text) :
    Numbers (liveEntries dead source) (dropImports dead source) := by
  have hlines : (liveEntries dead source).map Prod.fst =
      (splitLines source).filter fun line => !isDeadImport dead line := by
    conv => rhs; rw [← List.zipIdx_map_fst 0 (splitLines source), List.filter_map]
    rfl
  have hs : ((liveEntries dead source).map Prod.fst).Sublist (splitLines source) := by
    rw [hlines]
    exact List.filter_sublist
  rw [dropImports_eq, ← hlines]
  exact numbers_of_sublist hs

/-- Where no entries are left, the one line of the empty text holds no getter. -/
theorem Numbers.findGetters_eq {entries : List (Text × Nat)} {content : Text}
    (h : Numbers entries content) :
    findGetters (splitLines content) = findGetters (entries.map Prod.fst) := by
  rcases h.split with rfl | hsplit
  · have hjoined := h.joined
    cases hl : entries.map Prod.fst with
    | nil => rfl
    | cons line rest =>
      rw [hl] at hjoined
      cases rest with
      | nil =>
        have hline : [] = line := hjoined
        rw [← hline]
        rfl
      | cons next rest =>
        have hlength := congrArg List.length hjoined
        simp [joinLines, join] at hlength
  · rw [hsplit]

/-- A pass over numbered lines is faithful, and numbers what it leaves. -/
theorem Numbers.pass {content : Text} {entries : List (Text × Nat)} {plan : DeletionPlan}
    (h : Numbers entries content) (hf : findGetters (splitLines content) = .ok plan.spans)
    (hne : plan.spans ≠ []) :
    Stage.Faithful ⟨⟨splitLines content, plan⟩, entries⟩ ∧
      Numbers (Pass.leaves ⟨splitLines content, plan⟩ entries)
        (joinLines (plan.apply (splitLines content))) := by
  -- The line of an empty text needs no entry, because no pass ever starts from that line.
  have hlines : entries.map Prod.fst = splitLines content := by
    rcases h.split with rfl | hsplit
    · rw [findGetters_splitLines_nil] at hf
      exact absurd (Except.ok.inj hf).symm hne
    · exact hsplit.symm
  have hstage : Stage.Faithful ⟨⟨splitLines content, plan⟩, entries⟩ :=
    Stage.faithful hlines hf
  have hafter : (Pass.leaves ⟨splitLines content, plan⟩ entries).map Prod.fst =
      plan.apply (splitLines content) := hstage.after
  have hs := plan.apply_sublist (splitLines content)
  rw [← hafter] at hs ⊢
  exact ⟨hstage, numbers_of_sublist hs⟩

theorem sweep_faithful {content : Text} {entries : List (Text × Nat)}
    (h : Numbers entries content) :
    (∀ stage ∈ stages (sweep content).passes entries, stage.Faithful) ∧
      Numbers (remaining (sweep content).passes entries) (sweep content).content := by
  induction content using sweep_induction generalizing entries with
  | failed content fault hf => exact ⟨by simp [stages], h⟩
  | clean content hf => exact ⟨by simp [stages], h⟩
  | pass content plan later hf hne ih =>
    obtain ⟨hstage, hleaves⟩ := h.pass hf hne
    obtain ⟨hlater, hleft⟩ := ih hleaves
    exact ⟨List.forall_mem_cons.mpr ⟨hstage, hlater⟩, hleft⟩

theorem passes_eq_nil_iff (content : Text) :
    (sweep content).passes = [] ↔ (sweep content).removed = 0 := by
  induction content using sweep_induction with
  | failed content fault hf => simp [Sweep.removed]
  | clean content hf => simp [Sweep.removed]
  | pass content plan later hf hne ih =>
    rw [Sweep.removed_cons]
    simp [DeletionPlan.length, hne]

private theorem sweep_of_removed_eq_zero {content : Text} (h : (sweep content).removed = 0) :
    (sweep content).content = content := by
  have hpasses := (passes_eq_nil_iff content).mpr h
  revert hpasses
  induction content using sweep_induction with
  | failed content fault hf => exact fun _ => rfl
  | clean content hf => exact fun _ => rfl
  | pass content plan later hf hne ih => exact fun he => absurd he (List.cons_ne_nil _ _)

theorem sweepSource_faithful (settings : Settings) (source : Text) :
    (∀ stage ∈ history settings source, stage.Faithful) ∧
      Numbers (survivors settings source) (sweepSource settings source).content :=
  sweep_faithful (numbers_liveEntries settings.deadImports source)

theorem survivors_sublist (settings : Settings) (source : Text) :
    (survivors settings source).Sublist (splitLines source).zipIdx :=
  (remaining_sublist _ _).trans List.filter_sublist

theorem dead_or_drops_of_not_mem {settings : Settings} {source : Text} {entry : Text × Nat}
    (hm : entry ∈ (splitLines source).zipIdx) (hn : entry ∉ survivors settings source) :
    isDeadImport settings.deadImports entry.1 = true ∨
      ∃ stage ∈ history settings source, stage.Drops entry := by
  by_cases hdead : isDeadImport settings.deadImports entry.1 = true
  · exact Or.inl hdead
  · right
    have hlive : entry ∈ liveEntries settings.deadImports source := by
      apply List.mem_filter.mpr
      exact ⟨hm, by simp [hdead]⟩
    exact exists_drops_of_not_mem (sweepSource_faithful settings source).1 hlive hn

def spacedSource : Text :=
  joinLines ["import x;".toList, [], [], "int x;".toList]

private theorem prune_spaced :
    prune importless spacedSource = .ok ⟨joinLines [[], [], "int x;".toList], 0⟩ := by
  have hsplit : splitLines spacedSource = ["import x;".toList, [], [], "int x;".toList] := by rfl
  have hdrop : dropImports importless.deadImports spacedSource =
      joinLines [[], [], "int x;".toList] := by
    rw [dropImports_eq, hsplit]
    rfl
  have hclean : findGetters (splitLines (joinLines [[], [], "int x;".toList])) = .ok [] := by rfl
  have hsweep : sweepSource importless spacedSource =
      ⟨[], joinLines [[], [], "int x;".toList], none⟩ := by
    rw [sweepSource, hdrop, sweep_of_clean hclean]
  exact prune_of_census_eq hsweep (by rfl)

private theorem survivors_stacked :
    survivors importless stackedSource =
      [("class A".toList, 1), ([], 2),
        ("/// UI display type for generic rendering.".toList, 8), ("int x;".toList, 9)] := by
  rw [survivors, sweepSource_stacked]
  rfl

/-- Pruning leaves some of the source's lines, in their order and unaltered. For each line that is
missing there is a dead import text on it, or a pass that found it in a getter or, if it is blank,
directly after a blank line. Where no getter is removed, only dead imports are missing. -/
theorem prune_accounts_for_lines {settings : Settings} {source : Text} {pruned : Pruned}
    (h : prune settings source = .ok pruned) :
    (pruned.content = [] ∨
      (splitLines pruned.content = (survivors settings source).map Prod.fst ∧
        (splitLines pruned.content).Sublist (splitLines source))) ∧
      pruned.content = joinLines ((survivors settings source).map Prod.fst) ∧
      (survivors settings source).Sublist (splitLines source).zipIdx ∧
      (∀ stage ∈ history settings source, stage.Faithful) ∧
      (∀ entry ∈ (splitLines source).zipIdx, entry ∉ survivors settings source →
        (∃ needle ∈ settings.deadImports, needle <:+: entry.1) ∨
          ∃ stage ∈ history settings source, stage.Drops entry) ∧
      (pruned.removed = 0 → pruned.content = dropImports settings.deadImports source) := by
  obtain ⟨-, rfl, -⟩ := (prune_eq_ok_iff settings source pruned).mp h
  obtain ⟨hfaithful, hnumbers⟩ := sweepSource_faithful settings source
  have hsub := survivors_sublist settings source
  refine ⟨?_, hnumbers.joined, hsub, hfaithful, ?_, sweep_of_removed_eq_zero⟩
  · rcases hnumbers.split with he | hsplit
    · exact Or.inl he
    · right
      refine ⟨hsplit, ?_⟩
      have hlines := hsub.map Prod.fst
      rw [List.zipIdx_map_fst, ← hsplit] at hlines
      exact hlines
  · intro entry hm hn
    refine (dead_or_drops_of_not_mem hm hn).imp_left fun hdead => ?_
    obtain ⟨needle, hneedle, hoccurs⟩ := List.any_eq_true.mp hdead
    exact ⟨needle, hneedle, (occursIn_iff needle entry.1).mp hoccurs⟩

theorem prune_accounts_for_lines_stacked :
    prune importless stackedSource = .ok ⟨joinLines stackedLeft, 2⟩ ∧
      ([], 7) ∉ survivors importless stackedSource ∧
      (∃ stage ∈ history importless stackedSource, stage.Drops ([], 7)) ∧
      prune importless spacedSource = .ok ⟨joinLines [[], [], "int x;".toList], 0⟩ ∧
      joinLines [[], [], "int x;".toList] = dropImports importless.deadImports spacedSource := by
  have hmissing : ([], 7) ∉ survivors importless stackedSource := by
    rw [survivors_stacked]
    decide
  obtain ⟨-, -, -, -, haccount, -⟩ := prune_accounts_for_lines prune_stacked
  obtain ⟨-, -, -, -, -, hverbatim⟩ := prune_accounts_for_lines prune_spaced
  have hblank : ([], 7) ∈ (splitLines stackedSource).zipIdx := by
    rw [List.mem_zipIdx_iff_getElem?]
    rfl
  refine ⟨prune_stacked, hmissing, ?_, prune_spaced, hverbatim rfl⟩
  -- The second blank line is missing. No import stands on it, so a pass has dropped it.
  rcases haccount _ hblank hmissing with hdead | hdrops
  · obtain ⟨needle, hneedle, hin⟩ := hdead
    rw [List.infix_nil.mp hin] at hneedle
    exact absurd hneedle (by decide)
  · exact hdrops

end DartSweep
