import DartSweep.Proofs.Edit.Survivors

/-!
# Deleting from the back

A plan reads the indices of its spans against a list that gets shorter, and clips each span to what
is left of it. No deletion moves or clips a span that is still to come, so what goes are the lines
with the indices that the spans cover. Every deletion cuts inside the lines that are there.
-/
namespace DartSweep

/-- The lines without those of the span, which has to begin before it ends and to end inside the
lines. -/
def cut? (span : Span) (lines : List Text) : Option (List Text) :=
  if span.start ≤ span.stop ∧ span.stop ≤ lines.length then
    some (lines.take span.start ++ lines.drop span.stop)
  else none

/-- The lines after cutting out the plan's spans from the last to the first, each clipped to the
lines left so far. -/
def DeletionPlan.cutAll? (plan : DeletionPlan) (lines : List Text) : Option (List Text) :=
  plan.spans.foldrM (fun span left => cut? (span.clip left.length) left) lines

private theorem cut?_clip (span : Span) (lines : List Text) :
    cut? (span.clip lines.length) lines = some (deleteSpan span lines) := by
  rw [cut?, if_pos (Span.clip_le span lines.length)]
  rfl

/-- No cut is out of bounds, whatever the spans are. -/
theorem DeletionPlan.cutAll?_eq (plan : DeletionPlan) (lines : List Text) :
    plan.cutAll? lines = some (plan.delete lines) := by
  rw [cutAll?, delete, deleteSpans]
  -- The spans behind the first one are cut out before it, so they come first in the induction too.
  induction plan.spans with
  | nil => rfl
  | cons span spans ih =>
    rw [List.foldrM_cons, ih, List.foldr_cons]
    exact cut?_clip span _

private theorem covered_perm {spans others : List Span} (h : spans.Perm others) (index : Nat) :
    Covered spans index ↔ Covered others index := by
  simp only [Covered, h.mem_iff]

/-- For spans in any order that a plan accepts, empty, inverted or past the end as they may be, the
cuts from the back succeed, and squeezing what they leave is squeezing the lines whose indices no
span covers. -/
theorem plan_takes_covered_lines {spans : List Span} {plan : DeletionPlan}
    (h : DeletionPlan.ofSpans spans = .ok plan) (lines : List Text) :
    (plan.cutAll? lines).map squeezeBlanks = some (plan.apply lines) ∧
      plan.apply lines = squeezeBlanks (keptFrom (fun index => ¬Covered spans index) 0 lines) := by
  have hperm : plan.spans.Perm spans := DeletionPlan.perm_of_ofSpans h
  constructor
  · rw [plan.cutAll?_eq, Option.map_some, DeletionPlan.apply]
  · -- The plan's spans are sorted, which changes nothing about the indices they cover.
    rw [DeletionPlan.apply, plan.delete_eq_keptFrom]
    congr 1
    apply keptFrom_congr
    intro index _ _
    rw [covered_perm hperm]

def untidySpans : List Span :=
  [⟨4, 9⟩, ⟨2, 2⟩, ⟨3, 1⟩, ⟨2, 3⟩]

def blankedLines : List Text :=
  ["a".toList, [], "b".toList, " ".toList, "c".toList, "d".toList]

theorem plan_takes_covered_lines_untidy :
    ∃ plan, DeletionPlan.ofSpans untidySpans = .ok plan ∧
      (plan.cutAll? blankedLines).map squeezeBlanks = some ["a".toList, []] ∧
      plan.apply blankedLines = ["a".toList, []] := by
  have hplan : DeletionPlan.ofSpans untidySpans =
      .ok { spans := [⟨2, 2⟩, ⟨2, 3⟩, ⟨3, 1⟩, ⟨4, 9⟩] } := by
    rw [DeletionPlan.ofSpans_eq_ok_iff]
    simp [sortSpans, untidySpans, List.mergeSort]
  obtain ⟨hcut, happly⟩ := plan_takes_covered_lines hplan blankedLines
  have hleft : squeezeBlanks (keptFrom (fun index => ¬Covered untidySpans index) 0 blankedLines) =
      ["a".toList, []] := by
    decide +kernel
  rw [hleft] at happly
  rw [happly] at hcut
  exact ⟨_, hplan, hcut, happly⟩

end DartSweep
