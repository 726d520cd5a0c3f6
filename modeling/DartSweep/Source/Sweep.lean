import DartSweep.Edit.Plan
import DartSweep.Getter.Scan
import DartSweep.Text.Lines

/-!
# Sweeps

A sweep deletes getters in passes until a scan finds none, because the deletion of one getter can
bring a marker next to its own. A pass deletes all getters of one scan. Every pass takes at least
two lines of a source away and adds none, so a sweep ends.
-/
namespace DartSweep

/-- One pass: the lines that were scanned and the plan that was applied to them. -/
structure Pass where
  lines : List Text
  plan : DeletionPlan
deriving DecidableEq, Repr, Inhabited

def Pass.result (pass : Pass) : List Text :=
  pass.plan.apply pass.lines

structure Sweep where
  passes : List Pass
  /-- The source that the last scan read. -/
  content : Text
  /-- The fault of the last scan; without one, that scan found no getter. -/
  fault : Option Fault
deriving DecidableEq, Repr, Inhabited

def getterPlan (lines : List Text) : Except Fault DeletionPlan :=
  (findGetters lines).bind DeletionPlan.ofSpans

theorem getterPlan_bounds {lines : List Text} {plan : DeletionPlan}
    (h : getterPlan lines = .ok plan) :
    ∀ span ∈ plan.spans, span.start + 2 ≤ span.stop ∧ span.stop ≤ lines.length := by
  unfold getterPlan at h
  cases hf : findGetters lines with
  | error fault => simp [hf, Except.bind] at h
  | ok spans =>
    rw [hf] at h
    intro span hs
    exact findGetters_bounds hf span ((DeletionPlan.perm_of_ofSpans h).mem_iff.mp hs)

/-- A pass leaves fewer lines, also when they are read again from the text they make up. -/
theorem length_pass_lt {content : Text} {plan : DeletionPlan}
    (h : getterPlan (splitLines content) = .ok plan) (hne : plan.spans ≠ []) :
    (splitLines (joinLines (plan.apply (splitLines content)))).length <
      (splitLines content).length := by
  have hb := getterPlan_bounds h
  have hlt : (plan.apply (splitLines content)).length < (splitLines content).length := by
    refine DeletionPlan.length_apply_lt hne fun span hs => ?_
    have hspan := hb span hs
    omega
  by_cases he : plan.apply (splitLines content) = []
  · obtain ⟨span, hs⟩ := List.exists_mem_of_ne_nil _ hne
    have hspan := hb span hs
    rw [he]
    exact Nat.lt_of_lt_of_le (by decide : 1 < 2) (by omega)
  · rw [splitLines_joinLines he]
    · exact hlt
    · intro line hl
      exact not_mem_of_mem_split ((plan.apply_sublist _).mem hl)

/-- The passes over a source until a scan finds no getter or fails. -/
def sweep (content : Text) : Sweep :=
  match h : getterPlan (splitLines content) with
  | .error fault => ⟨[], content, some fault⟩
  | .ok plan =>
    if hne : plan.spans = [] then ⟨[], content, none⟩
    else
      let pass : Pass := ⟨splitLines content, plan⟩
      have := length_pass_lt h hne
      let later := sweep (joinLines pass.result)
      ⟨pass :: later.passes, later.content, later.fault⟩
termination_by (splitLines content).length

theorem sweep_of_error {content : Text} {fault : Fault}
    (h : getterPlan (splitLines content) = .error fault) :
    sweep content = ⟨[], content, some fault⟩ := by
  rw [sweep]
  split <;> simp_all

theorem sweep_of_empty {content : Text} {plan : DeletionPlan}
    (h : getterPlan (splitLines content) = .ok plan) (he : plan.spans = []) :
    sweep content = ⟨[], content, none⟩ := by
  rw [sweep]
  split <;> simp_all

theorem sweep_of_plan {content : Text} {plan : DeletionPlan}
    (h : getterPlan (splitLines content) = .ok plan) (hne : plan.spans ≠ []) :
    sweep content =
      let later := sweep (joinLines (plan.apply (splitLines content)))
      ⟨⟨splitLines content, plan⟩ :: later.passes, later.content, later.fault⟩ := by
  conv => lhs; rw [sweep]
  split
  · simp_all
  · rename_i found hf
    have hp : found = plan := Except.ok.inj (hf.symm.trans h)
    subst hp
    simp only [hne, dif_neg, not_false_eq_true]
    rfl

def Sweep.removed (sweep : Sweep) : Nat :=
  sweep.passes.foldr (fun pass count => pass.plan.length + count) 0

end DartSweep
