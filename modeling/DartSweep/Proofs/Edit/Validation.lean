import DartSweep.Proofs.Edit.Apart
import Mathlib.Data.List.Nodup
import Mathlib.Data.List.Perm.Subperm

/-!
# Which spans make a plan

Only neighbours in the sorted list are compared, and this settles all pairs. Spans that hold lines
make a plan exactly if no two of them share an index. The plan is then their one order in which each
ends before the next begins, so it does not matter in which order they come.
-/
namespace DartSweep

namespace Span

/-- Some index belongs to both spans. -/
def Overlaps (first second : Span) : Prop :=
  ∃ index, first.Covers index ∧ second.Covers index

variable {first second : Span}

theorem Overlaps.symm (h : first.Overlaps second) : second.Overlaps first := by
  obtain ⟨index, hfirst, hsecond⟩ := h
  exact ⟨index, hsecond, hfirst⟩

private theorem Apart.not_overlaps (h : first.Apart second) : ¬first.Overlaps second := by
  rintro ⟨index, hfirst, hsecond⟩
  have hstop : index < second.start := Nat.lt_of_lt_of_le hfirst.2 h
  exact absurd hsecond.1 (Nat.not_le.mpr hstop)

/-- The later one of two spans begins inside the earlier, unless that has ended. -/
private theorem overlaps_of_start_lt (hle : first.start ≤ second.start)
    (hlt : second.start < first.stop)
    (hsecond : second.start < second.stop) : first.Overlaps second :=
  ⟨second.start, ⟨hle, hlt⟩, ⟨Nat.le_refl _, hsecond⟩⟩

end Span

section
variable {spans others : List Span}

/-- Spans that hold lines and keep apart begin at different indices. -/
private theorem eq_of_start_eq (hs : ∀ span ∈ spans, span.start < span.stop)
    (ha : spans.Pairwise Span.Apart) {first second : Span} (hf : first ∈ spans)
    (hm : second ∈ spans) (he : first.start = second.start) : first = second := by
  have hstarts : spans.Pairwise fun first second => first.start ≠ second.start := by
    apply ha.imp_of_mem
    intro first second hfirst _ hapart
    have hself := hs first hfirst
    have hstop : first.stop ≤ second.start := hapart
    omega
  have hnodup : (spans.map Span.start).Nodup := List.pairwise_map.mpr hstarts
  exact List.inj_on_of_nodup_map hnodup hf hm he

/-- There is one order in which spans keep apart, and sorting them finds it. -/
theorem DeletionPlan.ofSpans_eq_ok_iff_perm (hs : ∀ span ∈ spans, span.start < span.stop)
    {plan : DeletionPlan} : ofSpans spans = .ok plan ↔ plan.spans.Perm spans := by
  constructor
  · exact perm_of_ofSpans
  · intro hperm
    have hplan : ∀ span ∈ plan.spans, span.start < span.stop :=
      fun span hm => hs span (hperm.mem_iff.mp hm)
    have hsort : (sortSpans spans).Perm plan.spans := (List.mergeSort_perm spans _).trans hperm.symm
    rw [ofSpans_eq_ok_iff]
    apply hsort.eq_of_pairwise _ (ascending_sortSpans spans) plan.ascending
    intro first second hf hm hle hge
    exact eq_of_start_eq hplan plan.apart (hsort.mem_iff.mp hf) hm (Nat.le_antisymm hle hge)

private theorem DeletionPlan.overlaps_of_ofSpans (hs : ∀ span ∈ spans, span.start < span.stop)
    {fault : Fault} (h : ofSpans spans = .error fault) :
    ∃ first second, fault = .overlapping first second ∧ [first, second].Subperm spans ∧
      first.Overlaps second := by
  obtain ⟨first, second, hin, hlt, rfl⟩ := exists_of_ofSpans_eq_error h
  have hp : (sortSpans spans).Perm spans := List.mergeSort_perm spans _
  have hle : first.start ≤ second.start := by
    simpa using List.Pairwise.sublist hin.sublist (ascending_sortSpans spans)
  have hsecond := hs second (hp.mem_iff.mp (hin.subset (by simp)))
  exact ⟨first, second, rfl, hin.sublist.subperm.trans hp.subperm,
    Span.overlaps_of_start_lt hle hlt hsecond⟩

theorem DeletionPlan.exists_ofSpans_iff (hs : ∀ span ∈ spans, span.start < span.stop) :
    (∃ plan, ofSpans spans = .ok plan) ↔
      spans.Pairwise fun first second => ¬first.Overlaps second := by
  constructor
  · rintro ⟨plan, h⟩
    have hplan : plan.spans.Pairwise fun first second => ¬first.Overlaps second :=
      plan.apart.imp Span.Apart.not_overlaps
    exact (perm_of_ofSpans h).pairwise hplan (mt Span.Overlaps.symm)
  · intro hdisjoint
    cases h : ofSpans spans with
    | ok plan => exact ⟨plan, rfl⟩
    | error fault =>
      obtain ⟨first, second, -, ⟨pair, hpair, hsub⟩, hoverlap⟩ := overlaps_of_ofSpans hs h
      have hnot := hpair.pairwise (hdisjoint.sublist hsub) (mt Span.Overlaps.symm)
      exact absurd hoverlap (by simpa using hnot)

end

/-- Spans that hold lines make a plan exactly if no two of them overlap. In another order they make
the same plan or again none, and where they make none, two of them that overlap are named. In a plan
every span begins at or behind the end of all spans before it, whatever shape these have. -/
theorem plan_exists_iff_disjoint (spans : List Span) :
    ((∀ span ∈ spans, span.start < span.stop) →
      ((∃ plan, DeletionPlan.ofSpans spans = .ok plan) ↔
          spans.Pairwise fun first second => ¬first.Overlaps second) ∧
        (∀ others plan, others.Perm spans →
          (DeletionPlan.ofSpans others = .ok plan ↔ DeletionPlan.ofSpans spans = .ok plan)) ∧
        ∀ fault, DeletionPlan.ofSpans spans = .error fault →
          ∃ first second, fault = .overlapping first second ∧ [first, second].Subperm spans ∧
            first.Overlaps second) ∧
      ∀ plan, DeletionPlan.ofSpans spans = .ok plan → plan.spans.Pairwise Span.Apart := by
  refine ⟨fun hs => ⟨DeletionPlan.exists_ofSpans_iff hs, ?_, ?_⟩, ?_⟩
  · intro others plan hp
    have hothers : ∀ span ∈ others, span.start < span.stop :=
      fun span hm => hs span (hp.mem_iff.mp hm)
    rw [DeletionPlan.ofSpans_eq_ok_iff_perm hs, DeletionPlan.ofSpans_eq_ok_iff_perm hothers,
      List.Perm.congr_right hp]
  · intro fault h
    exact DeletionPlan.overlaps_of_ofSpans hs h
  · intro plan _
    exact plan.apart

def scatteredSpans : List Span :=
  [⟨6, 8⟩, ⟨0, 2⟩, ⟨2, 5⟩]

def nestedSpans : List Span :=
  [⟨4, 5⟩, ⟨0, 9⟩, ⟨1, 2⟩]

def hollowSpans : List Span :=
  [⟨5, 1⟩, ⟨1, 3⟩, ⟨3, 3⟩]

theorem plan_exists_iff_disjoint_scattered :
    (∀ span ∈ scatteredSpans, span.start < span.stop) ∧
      (scatteredSpans.Pairwise fun first second => ¬first.Overlaps second) ∧
      DeletionPlan.ofSpans scatteredSpans.reverse = .ok { spans := [⟨0, 2⟩, ⟨2, 5⟩, ⟨6, 8⟩] } ∧
      (∀ span ∈ nestedSpans, span.start < span.stop) ∧
      (¬∃ plan, DeletionPlan.ofSpans nestedSpans = .ok plan) ∧
      (∃ first second, Fault.overlapping ⟨0, 9⟩ ⟨1, 2⟩ = .overlapping first second ∧
        [first, second].Subperm nestedSpans ∧ first.Overlaps second) ∧
      DeletionPlan.ofSpans hollowSpans = .ok { spans := [⟨1, 3⟩, ⟨3, 3⟩, ⟨5, 1⟩] } ∧
      [⟨1, 3⟩, ⟨3, 3⟩, ⟨5, 1⟩].Pairwise Span.Apart := by
  have hscattered : ∀ span ∈ scatteredSpans, span.start < span.stop := by decide
  have hnested : ∀ span ∈ nestedSpans, span.start < span.stop := by decide
  have hplan : DeletionPlan.ofSpans scatteredSpans = .ok { spans := [⟨0, 2⟩, ⟨2, 5⟩, ⟨6, 8⟩] } := by
    rw [DeletionPlan.ofSpans_eq_ok_iff]
    simp [sortSpans, scatteredSpans, List.mergeSort]
  have hfault : DeletionPlan.ofSpans nestedSpans = .error (.overlapping ⟨0, 9⟩ ⟨1, 2⟩) := by
    rw [DeletionPlan.ofSpans_eq_error_iff]
    simp [sortSpans, nestedSpans, List.mergeSort, firstOverlap?]
  have hhollow : DeletionPlan.ofSpans hollowSpans = .ok { spans := [⟨1, 3⟩, ⟨3, 3⟩, ⟨5, 1⟩] } := by
    rw [DeletionPlan.ofSpans_eq_ok_iff]
    simp [sortSpans, hollowSpans, List.mergeSort]
  obtain ⟨hiff, hperm, -⟩ := (plan_exists_iff_disjoint scatteredSpans).1 hscattered
  obtain ⟨-, -, hnamed⟩ := (plan_exists_iff_disjoint nestedSpans).1 hnested
  have hapart := (plan_exists_iff_disjoint hollowSpans).2 _ hhollow
  refine ⟨hscattered, hiff.mp ⟨_, hplan⟩, ?_, hnested, ?_, hnamed _ hfault, hhollow, hapart⟩
  · exact (hperm _ _ (List.reverse_perm _)).mpr hplan
  · simp [hfault]

end DartSweep
