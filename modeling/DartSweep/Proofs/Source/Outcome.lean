import DartSweep.Proofs.Getter.Decomposition
import DartSweep.Proofs.Source.Census
import DartSweep.Proofs.Source.DeadImports
import DartSweep.Source.Prune

/-!
# Outcomes of sweeping and pruning

One principle of induction covers all sweeps, and one equivalence each says when a source is
pruned and when it is refused. A sweep leaves an excerpt in which a scan finds nothing.
-/
namespace DartSweep

theorem exists_getterPlan {lines : List Text} {spans : List Span}
    (h : findGetters lines = .ok spans) :
    ∃ plan, plan.spans = spans ∧ getterPlan lines = .ok plan := by
  have hd := (findGetters_eq_ok_iff lines spans).mp h
  refine ⟨hd.plan, rfl, ?_⟩
  rw [getterPlan, h]
  exact hd.plan.ofSpans_spans

theorem getterPlan_of_error {lines : List Text} {fault : Fault}
    (h : findGetters lines = .error fault) : getterPlan lines = .error fault := by
  rw [getterPlan, h]
  rfl

theorem getterPlan_eq_ok_iff {lines : List Text} {plan : DeletionPlan} :
    getterPlan lines = .ok plan ↔ findGetters lines = .ok plan.spans := by
  cases hf : findGetters lines with
  | error fault => simp [getterPlan_of_error hf]
  | ok spans =>
    obtain ⟨found, rfl, hp⟩ := exists_getterPlan hf
    rw [hp, Except.ok.injEq, Except.ok.injEq, DeletionPlan.ext_iff]

theorem findGetters_splitLines_nil : findGetters (splitLines []) = .ok [] := by rfl

/-- A sweep fails at once, or finds nothing, or deletes the getters found and goes on with what is
left. -/
theorem sweep_induction {motive : Text → Sweep → Prop}
    (failed : ∀ content fault, findGetters (splitLines content) = .error fault →
      motive content ⟨[], content, some fault⟩)
    (clean : ∀ content, findGetters (splitLines content) = .ok [] → motive content ⟨[], content, none⟩)
    (pass : ∀ content (plan : DeletionPlan) (later : Sweep),
      findGetters (splitLines content) = .ok plan.spans → plan.spans ≠ [] →
      motive (joinLines (plan.apply (splitLines content))) later →
      motive content ⟨⟨splitLines content, plan⟩ :: later.passes, later.content, later.fault⟩)
    (content : Text) : motive content (sweep content) := by
  induction hn : (splitLines content).length using Nat.strong_induction_on generalizing content with
  | _ count ih =>
    cases hf : findGetters (splitLines content) with
    | error fault =>
      rw [sweep_of_error (getterPlan_of_error hf)]
      exact failed content fault hf
    | ok spans =>
      obtain ⟨plan, rfl, hp⟩ := exists_getterPlan hf
      by_cases hne : plan.spans = []
      · rw [hne] at hf
        rw [sweep_of_empty hp hne]
        exact clean content hf
      · have hlt := length_pass_lt hp hne
        rw [hn] at hlt
        rw [sweep_of_plan hp hne]
        exact pass content plan _ hf hne (ih _ hlt _ rfl)

theorem Sweep.removed_cons (pass : Pass) (later : Sweep) :
    Sweep.removed ⟨pass :: later.passes, later.content, later.fault⟩ =
      pass.plan.length + later.removed :=
  rfl

theorem sweep_of_clean {content : Text} (h : findGetters (splitLines content) = .ok []) :
    sweep content = ⟨[], content, none⟩ := by
  obtain ⟨plan, hs, hp⟩ := exists_getterPlan h
  exact sweep_of_empty hp hs

theorem sweep_joinLines_of_pass {pass : Pass} (hl : splitLines (joinLines pass.lines) = pass.lines)
    (hf : findGetters pass.lines = .ok pass.plan.spans) (hne : pass.plan.spans ≠ []) :
    sweep (joinLines pass.lines) =
      let later := sweep (joinLines pass.result)
      ⟨pass :: later.passes, later.content, later.fault⟩ := by
  have hp : getterPlan (splitLines (joinLines pass.lines)) = .ok pass.plan := by
    rw [getterPlan_eq_ok_iff, hl, hf]
  have h := sweep_of_plan hp hne
  rw [hl] at h
  exact h

theorem sweep_of_single {content : Text} {plan : DeletionPlan}
    (hf : findGetters (splitLines content) = .ok plan.spans) (hne : plan.spans ≠ [])
    (hc : findGetters (splitLines (joinLines (plan.apply (splitLines content)))) = .ok []) :
    sweep content =
      ⟨[⟨splitLines content, plan⟩], joinLines (plan.apply (splitLines content)), none⟩ := by
  rw [sweep_of_plan (getterPlan_eq_ok_iff.mpr hf) hne, sweep_of_clean hc]

/-- The last scan of a sweep without a fault finds nothing. -/
theorem findGetters_sweep {content : Text} (h : (sweep content).fault = none) :
    findGetters (splitLines (sweep content).content) = .ok [] := by
  revert h
  induction content using sweep_induction with
  | failed content fault hf =>
    intro h
    simp at h
  | clean content hf =>
    intro _
    exact hf
  | pass content plan later hf hne ih => exact ih

theorem findGetters_sweep_of_fault {content : Text} {fault : Fault}
    (h : (sweep content).fault = some fault) :
    findGetters (splitLines (sweep content).content) = .error fault := by
  revert h
  induction content using sweep_induction with
  | failed content found hf =>
    intro h
    rw [← Option.some.inj h]
    exact hf
  | clean content hf =>
    intro h
    simp at h
  | pass content plan later hf hne ih => exact ih

theorem fault_sweep {content : Text} {fault : Fault} (h : (sweep content).fault = some fault) :
    ∃ marker signature, fault = .unterminated marker signature := by
  revert h
  induction content using sweep_induction with
  | failed content found hf =>
    intro h
    obtain ⟨marker, signature, -, hu, -⟩ := (findGetters_eq_error_iff _ found).mp hf
    exact ⟨marker + 1, signature + 1, (Option.some.inj h).symm.trans hu⟩
  | clean content hf =>
    intro h
    simp at h
  | pass content plan later hf hne ih => exact ih

private theorem excerpt_apply (plan : DeletionPlan) (content : Text) :
    Excerpt (joinLines (plan.apply (splitLines content))) content :=
  ⟨plan.apply (splitLines content), plan.apply_sublist _, rfl⟩

theorem excerpt_sweep (content : Text) : Excerpt (sweep content).content content := by
  induction content using sweep_induction with
  | failed content fault hf => exact Excerpt.refl content
  | clean content hf => exact Excerpt.refl content
  | pass content plan later hf hne ih => exact ih.trans (excerpt_apply plan content)

theorem excerpt_sweepSource (settings : Settings) (source : Text) :
    Excerpt (sweepSource settings source).content source :=
  (excerpt_sweep _).trans (excerpt_dropImports settings.deadImports source)

theorem prune_eq_ok_iff (settings : Settings) (source : Text) (pruned : Pruned) :
    prune settings source = .ok pruned ↔
      (sweepSource settings source).fault = none ∧
        pruned = ⟨(sweepSource settings source).content, (sweepSource settings source).removed⟩ ∧
        (pruned.content = source ∨
          ∃ census, Census.check settings.classKeyword source pruned.content = .ok census) := by
  rw [prune]
  dsimp only
  cases hf : (sweepSource settings source).fault with
  | some fault => simp
  | none =>
    dsimp only
    split
    · rename_i he
      constructor
      · intro h
        have hp := Except.ok.inj h
        subst hp
        exact ⟨rfl, rfl, Or.inl he⟩
      · intro hex
        obtain ⟨-, rfl, -⟩ := hex
        rfl
    · rename_i he
      cases hc : Census.check settings.classKeyword source (sweepSource settings source).content with
      | error fault =>
        simp only [Except.map, reduceCtorEq, true_and, false_iff, not_and, not_or, not_exists]
        intro he
        subst he
        refine ⟨he, ?_⟩
        intro census
        simp [hc]
      | ok census =>
        simp only [Except.map, Except.ok.injEq, true_and]
        constructor
        · intro he
          subst he
          exact ⟨rfl, Or.inr ⟨census, hc⟩⟩
        · intro hex
          obtain ⟨rfl, -⟩ := hex
          rfl

theorem prune_eq_error_iff (settings : Settings) (source : Text) (fault : Fault) :
    prune settings source = .error fault ↔
      (sweepSource settings source).fault = some fault ∨
        ((sweepSource settings source).fault = none ∧
          (sweepSource settings source).content ≠ source ∧
          Census.check settings.classKeyword source (sweepSource settings source).content =
            .error fault) := by
  rw [prune]
  dsimp only
  cases hf : (sweepSource settings source).fault with
  | some other => simp
  | none =>
    dsimp only
    split
    · rename_i he
      simp [he]
    · rename_i he
      cases hc : Census.check settings.classKeyword source (sweepSource settings source).content <;>
        simp [he, Except.map]

theorem prune_of_census_eq {settings : Settings} {source content : Text} {passes : List Pass}
    (hs : sweepSource settings source = ⟨passes, content, none⟩)
    (hc : Census.ofSource settings.classKeyword source =
      Census.ofSource settings.classKeyword content) :
    prune settings source = .ok ⟨content, Sweep.removed ⟨passes, content, none⟩⟩ := by
  rw [prune_eq_ok_iff, hs]
  exact ⟨rfl, rfl, Or.inr ⟨_, Census.check_eq_ok_iff.mpr ⟨hc, rfl⟩⟩⟩

/-- The check of an unchanged source is no obstacle, so it does not matter that it is left out. -/
theorem prune_eq_check {settings : Settings} {source : Text}
    (h : (sweepSource settings source).fault = none) :
    prune settings source =
      (Census.check settings.classKeyword source (sweepSource settings source).content).map
        fun _ => ⟨(sweepSource settings source).content, (sweepSource settings source).removed⟩ := by
  rw [prune]
  dsimp only
  rw [h]
  dsimp only
  split
  · rename_i he
    rw [Census.check_eq_ok_iff.mpr ⟨congrArg _ he.symm, rfl⟩]
    rfl
  · rfl

theorem sweepSource_of_pass {settings : Settings} {pass : Pass} {left : List Text}
    (hl : splitLines (joinLines pass.lines) = pass.lines)
    (hd : pass.lines.filter (fun line => !isDeadImport settings.deadImports line) = pass.lines)
    (hf : findGetters pass.lines = .ok pass.plan.spans) (hne : pass.plan.spans ≠ [])
    (hr : pass.result = left) (hc : findGetters (splitLines (joinLines left)) = .ok []) :
    sweepSource settings (joinLines pass.lines) = ⟨[pass], joinLines left, none⟩ := by
  rw [sweepSource, dropImports_eq, hl, hd, sweep_joinLines_of_pass hl hf hne, hr, sweep_of_clean hc]

theorem prune_of_pass {settings : Settings} {pass : Pass} {left : List Text}
    (hl : splitLines (joinLines pass.lines) = pass.lines)
    (hd : pass.lines.filter (fun line => !isDeadImport settings.deadImports line) = pass.lines)
    (hf : findGetters pass.lines = .ok pass.plan.spans) (hne : pass.plan.spans ≠ [])
    (hr : pass.result = left) (hc : findGetters (splitLines (joinLines left)) = .ok [])
    (hcensus : Census.ofSource settings.classKeyword (joinLines pass.lines) =
      Census.ofSource settings.classKeyword (joinLines left)) :
    prune settings (joinLines pass.lines) = .ok ⟨joinLines left, pass.plan.length⟩ :=
  prune_of_census_eq (sweepSource_of_pass hl hd hf hne hr hc) hcensus

/-! ### A source with stacked markers

One of its getters keeps the upper marker away from the other, and its last marker is stray. -/

def importless : Settings where
  deadImports := ["import".toList]

def stackedSource : Text :=
  joinLines
    ["import x;".toList, "class A".toList, [],
      "/// UI display type for generic rendering.".toList,
      "/// Structured display sections for generic rendering.".toList,
      "List<ResultSection> get sections => [];".toList,
      "ResultDisplayType get displayType;".toList, [],
      "/// UI display type for generic rendering.".toList, "int x;".toList]

def unstackingPass : Pass where
  lines :=
    ["class A".toList, [],
      "/// UI display type for generic rendering.".toList,
      "/// Structured display sections for generic rendering.".toList,
      "List<ResultSection> get sections => [];".toList,
      "ResultDisplayType get displayType;".toList, [],
      "/// UI display type for generic rendering.".toList, "int x;".toList]
  plan := .single ⟨3, 5⟩

/-- The pass that leaves two blank lines together. -/
def joiningPass : Pass where
  lines :=
    ["class A".toList, [],
      "/// UI display type for generic rendering.".toList,
      "ResultDisplayType get displayType;".toList, [],
      "/// UI display type for generic rendering.".toList, "int x;".toList]
  plan := .single ⟨2, 4⟩

def stackedLeft : List Text :=
  ["class A".toList, [], "/// UI display type for generic rendering.".toList, "int x;".toList]

theorem splitLines_unstacking :
    splitLines (joinLines unstackingPass.lines) = unstackingPass.lines := by rfl

theorem splitLines_joining : splitLines (joinLines joiningPass.lines) = joiningPass.lines := by rfl

theorem splitLines_stackedLeft : splitLines (joinLines stackedLeft) = stackedLeft := by rfl

private theorem dropImports_stacked :
    dropImports importless.deadImports stackedSource = joinLines unstackingPass.lines := by
  have hsplit : splitLines stackedSource = "import x;".toList :: unstackingPass.lines := by rfl
  rw [dropImports_eq, hsplit]
  rfl

theorem sweep_unstacking :
    sweep (joinLines unstackingPass.lines) =
      let later := sweep (joinLines joiningPass.lines)
      ⟨unstackingPass :: later.passes, later.content, later.fault⟩ :=
  sweep_joinLines_of_pass splitLines_unstacking (by rfl) (by simp [unstackingPass])

theorem sweep_joining :
    sweep (joinLines joiningPass.lines) = ⟨[joiningPass], joinLines stackedLeft, none⟩ := by
  have hclean : findGetters (splitLines (joinLines stackedLeft)) = .ok [] := by
    rw [splitLines_stackedLeft]
    rfl
  have hleft : joiningPass.result = stackedLeft := by rfl
  rw [sweep_joinLines_of_pass splitLines_joining (by rfl) (by simp [joiningPass]), hleft,
    sweep_of_clean hclean]

theorem sweepSource_stacked :
    sweepSource importless stackedSource =
      ⟨[unstackingPass, joiningPass], joinLines stackedLeft, none⟩ := by
  rw [sweepSource, dropImports_stacked, sweep_unstacking, sweep_joining]

theorem prune_stacked :
    prune importless stackedSource = .ok ⟨joinLines stackedLeft, 2⟩ := by
  have hcensus : Census.ofSource importless.classKeyword stackedSource =
      Census.ofSource importless.classKeyword (joinLines stackedLeft) := by
    decide +kernel
  exact prune_of_census_eq sweepSource_stacked hcensus

end DartSweep
