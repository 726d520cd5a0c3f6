import DartSweep.Edit.BlankRuns
import DartSweep.Fault

/-!
# Deletion plans

A plan holds spans in ascending order of their starts, each of which ends before any later one
begins. Applying it deletes the spans from the last to the first, so that no deletion moves the
lines of one still to come, and squeezes the blank lines that are left.
-/
namespace DartSweep

def Ascending (spans : List Span) : Prop :=
  spans.Pairwise fun first second => first.start ≤ second.start

instance (spans : List Span) : Decidable (Ascending spans) :=
  inferInstanceAs (Decidable (spans.Pairwise fun first second => first.start ≤ second.start))

/-- The spans to delete from a list of lines. -/
@[ext]
structure DeletionPlan where
  spans : List Span
  ascending : Ascending spans := by decide
  apart : spans.Pairwise Span.Apart := by decide
deriving DecidableEq, Repr

instance : Inhabited DeletionPlan :=
  ⟨{ spans := [] }⟩

/-- The first two neighbours of which the second begins before the first ends. -/
def firstOverlap? : List Span → Option (Span × Span)
  | first :: second :: rest =>
    if second.start < first.stop then some (first, second) else firstOverlap? (second :: rest)
  | _ => none

/-- What keeps apart from its successor keeps apart from all later spans, since these begin behind
the successor. No span needs to end behind its own start for it. -/
theorem Ascending.pairwise_apart {spans : List Span} (h : Ascending spans)
    (hnone : firstOverlap? spans = none) : spans.Pairwise Span.Apart := by
  induction spans with
  | nil => exact List.Pairwise.nil
  | cons first rest ih =>
    have hrest : Ascending rest := (List.pairwise_cons.mp h).2
    cases rest with
    | nil => exact List.pairwise_singleton _ _
    | cons second rest =>
      rw [firstOverlap?] at hnone
      split at hnone
      · simp at hnone
      · rename_i hstop
        have hfirst : first.stop ≤ second.start := Nat.le_of_not_lt hstop
        refine List.pairwise_cons.mpr ⟨fun later hl => ?_, ih hrest hnone⟩
        rcases List.mem_cons.mp hl with rfl | hl
        · exact hfirst
        · exact Nat.le_trans hfirst ((List.pairwise_cons.mp hrest).1 later hl)

/-- The spans in ascending order. Spans with equal starts keep their order. -/
def sortSpans (spans : List Span) : List Span :=
  spans.mergeSort fun first second => first.start ≤ second.start

theorem ascending_sortSpans (spans : List Span) : Ascending (sortSpans spans) := by
  refine (List.pairwise_mergeSort ?_ ?_ spans).imp of_decide_eq_true
  · intro first second third hfirst hsecond
    exact decide_eq_true (Nat.le_trans (of_decide_eq_true hfirst) (of_decide_eq_true hsecond))
  · intro first second
    simpa using Nat.le_total first.start second.start

def deleteSpan (span : Span) (lines : List Text) : List Text :=
  let span := span.clip lines.length
  lines.take span.start ++ lines.drop span.stop

/-- The lines without those of the spans, from the last span to the first. -/
def deleteSpans (spans : List Span) (lines : List Text) : List Text :=
  spans.foldr deleteSpan lines

namespace DeletionPlan

def ofSpans (spans : List Span) : Except Fault DeletionPlan :=
  match h : firstOverlap? (sortSpans spans) with
  | some (first, second) => .error (.overlapping first second)
  | none =>
    .ok ⟨sortSpans spans, ascending_sortSpans spans, (ascending_sortSpans spans).pairwise_apart h⟩

def length (plan : DeletionPlan) : Nat :=
  plan.spans.length

def isEmpty (plan : DeletionPlan) : Bool :=
  plan.spans.isEmpty

def delete (plan : DeletionPlan) (lines : List Text) : List Text :=
  deleteSpans plan.spans lines

/-- The lines after deleting the spans and squeezing the blank lines. -/
def apply (plan : DeletionPlan) (lines : List Text) : List Text :=
  squeezeBlanks (plan.delete lines)

end DeletionPlan

private theorem deleteSpan_sublist (span : Span) (lines : List Text) :
    (deleteSpan span lines).Sublist lines := by
  have hc := Span.clip_le span lines.length
  conv => rhs; rw [← List.take_append_drop (span.clip lines.length).start lines]
  refine List.Sublist.append (List.Sublist.refl _) ?_
  rw [show (span.clip lines.length).stop =
    (span.clip lines.length).start + ((span.clip lines.length).stop - (span.clip lines.length).start)
    by omega, ← List.drop_drop]
  exact List.drop_sublist _ _

private theorem deleteSpans_sublist (spans : List Span) (lines : List Text) :
    (deleteSpans spans lines).Sublist lines := by
  induction spans with
  | nil => exact List.Sublist.refl _
  | cons span spans ih => exact (deleteSpan_sublist span _).trans ih

theorem DeletionPlan.apply_sublist (plan : DeletionPlan) (lines : List Text) :
    (plan.apply lines).Sublist lines :=
  (squeezeBlanks_sublist _).trans (deleteSpans_sublist plan.spans lines)

theorem DeletionPlan.perm_of_ofSpans {spans : List Span} {plan : DeletionPlan}
    (h : ofSpans spans = .ok plan) : plan.spans.Perm spans := by
  rw [ofSpans] at h
  split at h
  · simp at h
  · simp only [Except.ok.injEq] at h
    subst h
    exact List.mergeSort_perm spans _

private theorem length_deleteSpan_lt {span : Span} {lines : List Text}
    (hs : span.start < span.stop) (hl : span.stop ≤ lines.length) :
    (deleteSpan span lines).length < lines.length := by
  rw [deleteSpan, Span.clip_eq_self (by omega) hl]
  simp only [List.length_append, List.length_take, List.length_drop]
  omega

/-- Deleting spans that hold lines takes lines away. -/
theorem length_deleteSpans_lt {spans : List Span} {lines : List Text} (hne : spans ≠ [])
    (hb : ∀ span ∈ spans, span.start < span.stop ∧ span.stop ≤ lines.length) :
    (deleteSpans spans lines).length < lines.length := by
  induction spans with
  | nil => exact absurd rfl hne
  | cons span spans ih =>
    have hs := hb span (by simp)
    by_cases hr : spans = []
    · subst hr
      exact length_deleteSpan_lt hs.1 hs.2
    · exact Nat.lt_of_le_of_lt (deleteSpan_sublist span _).length_le
        (ih hr fun s h => hb s (by simp [h]))

theorem DeletionPlan.length_apply_lt {plan : DeletionPlan} {lines : List Text}
    (hne : plan.spans ≠ [])
    (hb : ∀ span ∈ plan.spans, span.start < span.stop ∧ span.stop ≤ lines.length) :
    (plan.apply lines).length < lines.length :=
  Nat.lt_of_le_of_lt (squeezeBlanks_sublist _).length_le (length_deleteSpans_lt hne hb)

end DartSweep
