import DartSweep.Proofs.Edit.Slices
import DartSweep.Proofs.Source.Braces
import DartSweep.Proofs.Source.ClassLines

/-!
# Why a source is refused

The getters that a scan finds lie inside the lines and keep apart, so planning them cannot fail and
every deletion finds its whole span. What is left to refuse a source for is a getter that never
closes, or a count of the census that would change.
-/
namespace DartSweep

/-- Deleting from the last span to the first, each span still lies whole in the lines that the
later deletions left. -/
def DeletionPlan.FindsWhole (plan : DeletionPlan) (lines : List Text) : Prop :=
  ∀ earlier span later, plan.spans = earlier ++ span :: later →
    span.clip (deleteSpans later lines).length = span

private theorem length_deleteSpans_ge {spans : List Span} {lines : List Text} {index : Nat}
    (hi : ∀ span ∈ spans, index ≤ span.start) (hl : index ≤ lines.length) :
    index ≤ (deleteSpans spans lines).length := by
  have htake := congrArg List.length (take_deleteSpans hi lines)
  rw [List.length_take, List.length_take] at htake
  omega

/-- Spans inside the lines are not cut short by one another. -/
theorem DeletionPlan.findsWhole {plan : DeletionPlan} {lines : List Text}
    (hs : ∀ span ∈ plan.spans, span.start ≤ span.stop)
    (hl : ∀ span ∈ plan.spans, span.stop ≤ lines.length) : plan.FindsWhole lines := by
  intro earlier span later he
  have hapart := plan.apart
  rw [he] at hs hl hapart
  obtain ⟨hspan, -⟩ := List.pairwise_cons.mp (List.pairwise_append.mp hapart).2.1
  have hlength : span.stop ≤ (deleteSpans later lines).length :=
    length_deleteSpans_ge hspan (hl span (by simp))
  exact Span.clip_eq_self (hs span (by simp)) hlength

private theorem Decomposition.findsWhole {lines : List Text} {spans : List Span}
    (h : Decomposition lines 0 lines.length spans) : h.plan.FindsWhole lines :=
  DeletionPlan.findsWhole h.start_le_stop fun span hm => (h.inside span hm).2.2

/-- The spans of the getters found make a plan just as they stand, and none of them is clipped when
the plan is applied. So no source is refused for spans that overlap, nor for a file that cannot be
reached: it is refused for a getter that never closes, its class keywords or its braces. -/
theorem prune_refuses_for_text_only :
    (∀ lines spans, findGetters lines = .ok spans →
      ∃ plan, DeletionPlan.ofSpans spans = .ok plan ∧ plan.spans = spans ∧
        plan.FindsWhole lines) ∧
      ∀ settings source fault, prune settings source = .error fault →
        (∃ marker signature, fault = .unterminated marker signature) ∨
          (∃ before after, fault = .classCount before after) ∨
          ∃ before after, fault = .braceBalance before after := by
  constructor
  · intro lines spans hf
    have hd := (findGetters_eq_ok_iff lines spans).mp hf
    exact ⟨hd.plan, hd.plan.ofSpans_spans, rfl, hd.findsWhole⟩
  · intro settings source fault h
    rcases (prune_eq_error_iff settings source fault).mp h with hf | ⟨-, -, hc⟩
    · exact Or.inl (fault_sweep hf)
    · exact Or.inr (Census.check_eq_error hc)

theorem prune_refuses_for_text_only_quoting :
    findGetters quotingPass.lines = .ok [⟨1, 3⟩, ⟨5, 7⟩] ∧
      (∃ plan, DeletionPlan.ofSpans [⟨1, 3⟩, ⟨5, 7⟩] = .ok plan ∧
        plan.spans = [⟨1, 3⟩, ⟨5, 7⟩] ∧ plan.FindsWhole quotingPass.lines) ∧
      prune importless (joinLines documentedPass.lines) = .error (.classCount 1 0) ∧
      ((∃ marker signature, Fault.classCount 1 0 = .unterminated marker signature) ∨
        (∃ before after, Fault.classCount 1 0 = .classCount before after) ∨
        ∃ before after, Fault.classCount 1 0 = .braceBalance before after) := by
  have hf : findGetters quotingPass.lines = .ok [⟨1, 3⟩, ⟨5, 7⟩] := by rfl
  obtain ⟨hplans, hrefusals⟩ := prune_refuses_for_text_only
  exact ⟨hf, hplans _ _ hf, prune_documented, hrefusals _ _ _ prune_documented⟩

end DartSweep
