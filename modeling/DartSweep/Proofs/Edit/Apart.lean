import DartSweep.Edit.Plan
import Mathlib.Data.List.Chain

/-!
# Spans that keep apart

A plan is made of spans if no neighbours overlap once they are sorted, and names the first two that
do if some overlap. Spans that are not inverted and keep apart are sorted as they stand.
-/
namespace DartSweep

def Covered (spans : List Span) (index : Nat) : Prop :=
  ∃ span ∈ spans, span.Covers index

instance (spans : List Span) (index : Nat) : Decidable (Covered spans index) :=
  inferInstanceAs (Decidable (∃ span ∈ spans, span.Covers index))

@[simp] theorem not_covered_nil (index : Nat) : ¬Covered [] index := by
  simp [Covered]

theorem covered_cons_iff (span : Span) (spans : List Span) (index : Nat) :
    Covered (span :: spans) index ↔ span.Covers index ∨ Covered spans index := by
  simp [Covered]

theorem firstOverlap?_eq_none_iff (spans : List Span) :
    firstOverlap? spans = none ↔ spans.IsChain Span.Apart := by
  induction spans with
  | nil => simp [firstOverlap?]
  | cons first rest ih =>
    cases rest with
    | nil => simp [firstOverlap?]
    | cons second rest =>
      rw [firstOverlap?, List.isChain_cons_cons, ← ih, Span.Apart]
      by_cases ho : second.start < first.stop
      · have hn : ¬first.stop ≤ second.start := Nat.not_le.mpr ho
        simp [ho, hn]
      · have hl : first.stop ≤ second.start := Nat.not_lt.mp ho
        simp [ho, hl]

theorem ascending_of_isChain {spans : List Span} (hs : ∀ span ∈ spans, span.start ≤ span.stop)
    (hc : spans.IsChain Span.Apart) : Ascending spans := by
  have hneighbours : spans.IsChain fun first second => first.start ≤ second.start := by
    apply hc.imp_of_mem_imp
    intro first second hf _ ha
    have hself := hs first hf
    have hstop : first.stop ≤ second.start := ha
    omega
  have hstarts : (spans.map Span.start).IsChain (· ≤ ·) := (List.isChain_map _).mpr hneighbours
  exact List.pairwise_map.mp (List.isChain_iff_pairwise.mp hstarts)

namespace DeletionPlan

def single (span : Span) : DeletionPlan where
  spans := [span]
  ascending := List.pairwise_singleton _ _
  apart := List.pairwise_singleton _ _

@[simp] theorem spans_single (span : Span) : (single span).spans = [span] :=
  rfl

private theorem firstOverlap?_spans (plan : DeletionPlan) : firstOverlap? plan.spans = none :=
  (firstOverlap?_eq_none_iff _).mpr plan.apart.isChain

theorem ofSpans_eq_ok_iff {spans : List Span} {plan : DeletionPlan} :
    ofSpans spans = .ok plan ↔ sortSpans spans = plan.spans := by
  rw [ofSpans]
  split
  · rename_i first second hsome
    refine iff_of_false (by simp) fun hs => ?_
    rw [hs, plan.firstOverlap?_spans] at hsome
    simp at hsome
  · rw [Except.ok.injEq, DeletionPlan.ext_iff]

theorem ofSpans_eq_error_iff {spans : List Span} {fault : Fault} :
    ofSpans spans = .error fault ↔ ∃ first second,
      firstOverlap? (sortSpans spans) = some (first, second) ∧ fault = .overlapping first second := by
  rw [ofSpans]
  split
  · rename_i first second hsome
    simp [hsome, eq_comm]
  · rename_i hnone
    simp [hnone]

theorem ofSpans_spans (plan : DeletionPlan) : ofSpans plan.spans = .ok plan := by
  have hsorted : plan.spans.Pairwise fun first second =>
      decide (first.start ≤ second.start) = true :=
    plan.ascending.imp decide_eq_true
  exact ofSpans_eq_ok_iff.mpr (List.mergeSort_of_pairwise hsorted)

end DeletionPlan

private theorem firstOverlap?_eq_some {spans : List Span} {first second : Span}
    (h : firstOverlap? spans = some (first, second)) :
    [first, second] <:+: spans ∧ second.start < first.stop := by
  induction spans with
  | nil => simp [firstOverlap?] at h
  | cons span rest ih =>
    cases rest with
    | nil => simp [firstOverlap?] at h
    | cons next rest =>
      rw [firstOverlap?] at h
      split at h
      · rename_i ho
        simp only [Option.some.injEq, Prod.mk.injEq] at h
        obtain ⟨rfl, rfl⟩ := h
        exact ⟨⟨[], rest, rfl⟩, ho⟩
      · obtain ⟨hin, ho⟩ := ih h
        exact ⟨hin.trans (List.suffix_cons span _).isInfix, ho⟩

/-- Without a plan, the first neighbours that overlap in the sorted spans are named. -/
theorem DeletionPlan.exists_of_ofSpans_eq_error {spans : List Span} {fault : Fault}
    (h : ofSpans spans = .error fault) :
    ∃ first second, [first, second] <:+: sortSpans spans ∧ second.start < first.stop ∧
      fault = .overlapping first second := by
  obtain ⟨first, second, hsome, hfault⟩ := ofSpans_eq_error_iff.mp h
  obtain ⟨hin, ho⟩ := firstOverlap?_eq_some hsome
  exact ⟨first, second, hin, ho, hfault⟩

end DartSweep
