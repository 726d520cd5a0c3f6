import DartSweep.Proofs.Edit.Apart
import Mathlib.Data.List.Basic
import Mathlib.Data.List.Perm.Basic

/-!
# What a plan takes away

A plan takes the lines of its spans, and then blank lines only. So a line that is not blank is
either left by the plan or found in the slice of one of its spans, as often as it stood in the
lines before.
-/
namespace DartSweep

def Span.slice (span : Span) (lines : List Text) : List Text :=
  (lines.take span.stop).drop span.start

namespace Span
variable {span : Span} {lines : List Text}

theorem length_slice (h : span.stop ≤ lines.length) :
    (span.slice lines).length = span.stop - span.start := by
  simp [slice, Nat.min_eq_left h]

theorem getElem?_slice {index : Nat} (h : span.start + index < span.stop) :
    (span.slice lines)[index]? = lines[span.start + index]? := by
  simp [slice, h]

theorem getElem?_slice_eq_none {index : Nat} (h : ¬span.start + index < span.stop) :
    (span.slice lines)[index]? = none := by
  rw [slice, List.getElem?_eq_none]
  simp only [List.length_drop, List.length_take]
  omega

private theorem slice_clip (span : Span) (lines : List Text) :
    (span.clip lines.length).slice lines = span.slice lines := by
  have htake : lines.take (min span.stop lines.length) = lines.take span.stop :=
    (List.take_eq_take_min).symm
  have hdrop : (lines.take span.stop).drop (min span.start (min span.stop lines.length)) =
      (lines.take span.stop).drop span.start := by
    by_cases hs : span.start ≤ min span.stop lines.length
    · rw [Nat.min_eq_left hs]
    · rw [List.drop_eq_nil_of_le, List.drop_eq_nil_of_le]
      · simp only [List.length_take]
        omega
      · simp only [List.length_take]
        omega
  rw [slice, clip, htake]
  exact hdrop

theorem slice_append_slice {low mid high : Nat} (hl : low ≤ mid) (hh : mid ≤ high)
    (lines : List Text) :
    (⟨low, mid⟩ : Span).slice lines ++ (⟨mid, high⟩ : Span).slice lines =
      (⟨low, high⟩ : Span).slice lines := by
  have hlength : high - low = (mid - low) + (high - mid) := by omega
  simp only [slice, List.drop_take]
  rw [hlength, List.take_add, List.drop_drop, Nat.add_sub_cancel' hl]

end Span

def DeletionPlan.slices (plan : DeletionPlan) (lines : List Text) : List Text :=
  plan.spans.flatMap fun span => span.slice lines

theorem DeletionPlan.slices_single (span : Span) (lines : List Text) :
    (single span).slices lines = span.slice lines :=
  List.flatMap_singleton _ _

theorem DeletionPlan.le_countP_slices {plan : DeletionPlan} {lines : List Text} {p : Text → Bool}
    {least : Nat} (h : ∀ span ∈ plan.spans, least ≤ (span.slice lines).countP p) :
    least * plan.length ≤ (plan.slices lines).countP p := by
  rw [length, slices]
  generalize plan.spans = spans at h
  induction spans with
  | nil => simp
  | cons span spans ih =>
    have hspan := h span (by simp)
    have hspans := ih fun s hm => h s (List.mem_cons_of_mem _ hm)
    rw [List.flatMap_cons, List.countP_append, List.length_cons, Nat.mul_succ]
    omega

private theorem perm_deleteSpan (span : Span) (lines : List Text) :
    lines.Perm (deleteSpan span lines ++ span.slice lines) := by
  have hclip := Span.clip_le span lines.length
  have hslice := Span.slice_clip span lines
  generalize hc : span.clip lines.length = clipped at hclip hslice
  have htake : lines.take clipped.stop = lines.take clipped.start ++ clipped.slice lines := by
    conv => lhs; rw [← List.take_append_drop clipped.start (lines.take clipped.stop)]
    rw [List.take_take, Nat.min_eq_left hclip.1, Span.slice]
  have hlines : lines =
      lines.take clipped.start ++ (clipped.slice lines ++ lines.drop clipped.stop) := by
    rw [← List.append_assoc, ← htake, List.take_append_drop]
  have hdelete : deleteSpan span lines = lines.take clipped.start ++ lines.drop clipped.stop := by
    rw [deleteSpan, hc]
  rw [hdelete, ← hslice, List.append_assoc]
  conv => lhs; rw [hlines]
  exact List.perm_append_comm.append_left _

private theorem deleteSpan_of_le {span : Span} (h : span.stop ≤ span.start) (lines : List Text) :
    deleteSpan span lines = lines := by
  have hclip : (span.clip lines.length).start = (span.clip lines.length).stop := by
    simp only [Span.clip]
    omega
  rw [deleteSpan, hclip, List.take_append_drop]

/-- A deletion behind an index moves no line before it. -/
theorem take_deleteSpan {span : Span} {index : Nat} (hi : index ≤ span.start) (lines : List Text) :
    (deleteSpan span lines).take index = lines.take index := by
  by_cases hempty : span.stop ≤ span.start
  · rw [deleteSpan_of_le hempty]
  by_cases hlen : span.start ≤ lines.length
  · have hstart : (span.clip lines.length).start = span.start := by
      simp only [Span.clip]
      omega
    have hle : index ≤ (lines.take span.start).length := by
      rw [List.length_take]
      omega
    rw [deleteSpan, hstart, List.take_append_of_le_length hle, List.take_take,
      Nat.min_eq_left hi]
  · -- A span that begins behind all lines is clipped to nothing.
    have hend : span.clip lines.length = ⟨lines.length, lines.length⟩ := by
      simp only [Span.clip, Span.mk.injEq]
      omega
    rw [deleteSpan, hend, List.take_append_drop]

theorem take_deleteSpans {spans : List Span} {index : Nat} (hi : ∀ span ∈ spans, index ≤ span.start)
    (lines : List Text) : (deleteSpans spans lines).take index = lines.take index := by
  induction spans with
  | nil => rfl
  | cons span spans ih =>
    rw [← ih fun s hm => hi s (List.mem_cons_of_mem _ hm)]
    exact take_deleteSpan (hi span List.mem_cons_self) _

private theorem perm_deleteSpans {spans : List Span} (h : spans.Pairwise Span.Apart)
    (lines : List Text) :
    lines.Perm (deleteSpans spans lines ++ spans.flatMap fun span => span.slice lines) := by
  induction spans with
  | nil => simp [deleteSpans]
  | cons span spans ih =>
    obtain ⟨hspan, hspans⟩ := List.pairwise_cons.mp h
    have hslice : span.slice (deleteSpans spans lines) = span.slice lines := by
      rw [Span.slice, Span.slice, take_deleteSpans hspan]
    have hstep := perm_deleteSpan span (deleteSpans spans lines)
    rw [hslice] at hstep
    refine (ih hspans).trans ((hstep.append_right _).trans ?_)
    rw [List.append_assoc]
    exact List.Perm.refl _

def holdsText (line : Text) : Bool :=
  !isBlank line

theorem filter_holdsText_squeezeAfter (blankBefore : Bool) (lines : List Text) :
    (squeezeAfter blankBefore lines).filter holdsText = lines.filter holdsText := by
  induction lines generalizing blankBefore with
  | nil => rfl
  | cons line rest ih =>
    rw [squeezeAfter]
    split
    · rename_i hb
      have hblank : isBlank line = true := (Bool.and_eq_true_iff.mp hb).1
      simp [ih, holdsText, hblank]
    · simp [List.filter_cons, ih]

namespace DeletionPlan
variable (plan : DeletionPlan) (lines : List Text)

private theorem perm_delete : lines.Perm (plan.delete lines ++ plan.slices lines) :=
  perm_deleteSpans plan.apart lines

/-- A line that is not blank is left by a plan or stands in one of its slices. -/
theorem perm_apply : (lines.filter holdsText).Perm
    ((plan.apply lines).filter holdsText ++ (plan.slices lines).filter holdsText) := by
  have hperm := (plan.perm_delete lines).filter holdsText
  rw [List.filter_append] at hperm
  rw [apply, squeezeBlanks, filter_holdsText_squeezeAfter]
  exact hperm

theorem length_apply_le :
    (plan.apply lines).length + (plan.slices lines).length ≤ lines.length := by
  have hlength : lines.length = (plan.delete lines ++ plan.slices lines).length :=
    (plan.perm_delete lines).length_eq
  have hle := (squeezeBlanks_sublist (plan.delete lines)).length_le
  rw [List.length_append] at hlength
  rw [apply]
  omega

end DeletionPlan

end DartSweep
