import DartSweep.Source.Census
import Mathlib.Logic.Basic

/-!
# Verdicts of the census

A change is accepted exactly if both counts are kept. The class keywords are compared first.
-/
namespace DartSweep.Census
variable {keyword before after : Text}

theorem check_eq_ok_iff {census : Census} :
    check keyword before after = .ok census ↔
      ofSource keyword before = ofSource keyword after ∧ census = ofSource keyword after := by
  rw [check]
  generalize ofSource keyword before = old
  generalize ofSource keyword after = new
  have hext : old = new ↔ old.classKeywords = new.classKeywords ∧
      old.braceBalance = new.braceBalance := by
    cases old
    cases new
    simp
  rw [hext]
  by_cases hc : old.classKeywords = new.classKeywords
  · by_cases hb : old.braceBalance = new.braceBalance
    · simp [hc, hb, eq_comm]
    · simp [hc, hb]
  · simp [hc]

theorem check_eq_ok {census : Census} (h : check keyword before after = .ok census) :
    occurrences keyword before = occurrences keyword after :=
  congrArg classKeywords (check_eq_ok_iff.mp h).1

theorem check_eq_classCount {old new : Nat}
    (h : check keyword before after = .error (.classCount old new)) :
    old = occurrences keyword before ∧ new = occurrences keyword after ∧ old ≠ new := by
  rw [check] at h
  by_cases he : occurrences keyword before = occurrences keyword after
  · have hcounts : ¬(ofSource keyword before).classKeywords ≠ (ofSource keyword after).classKeywords :=
      not_not.mpr he
    rw [if_neg hcounts] at h
    split at h
    · simp at h
    · simp at h
  · have hcounts : (ofSource keyword before).classKeywords ≠ (ofSource keyword after).classKeywords :=
      he
    rw [if_pos hcounts] at h
    obtain ⟨hold, hnew⟩ := Fault.classCount.inj (Except.error.inj h)
    rw [← hold, ← hnew]
    exact ⟨rfl, rfl, he⟩

theorem check_eq_error {fault : Fault} (h : check keyword before after = .error fault) :
    (∃ old new, fault = .classCount old new) ∨ ∃ old new, fault = .braceBalance old new := by
  rw [check] at h
  split at h
  · exact Or.inl ⟨_, _, (Except.error.inj h).symm⟩
  · split at h
    · exact Or.inr ⟨_, _, (Except.error.inj h).symm⟩
    · simp at h

theorem check_ne_unterminated (marker signature : Nat) :
    check keyword before after ≠ .error (.unterminated marker signature) := by
  intro h
  rcases check_eq_error h with ⟨old, new, he⟩ | ⟨old, new, he⟩
  · simp at he
  · simp at he

theorem check_of_braceBalance_ne (hk : occurrences keyword before = occurrences keyword after)
    (hb : (ofSource keyword before).braceBalance ≠ (ofSource keyword after).braceBalance) :
    check keyword before after = .error (.braceBalance (ofSource keyword before).braceBalance
      (ofSource keyword after).braceBalance) := by
  have hcounts : ¬(ofSource keyword before).classKeywords ≠ (ofSource keyword after).classKeywords :=
    not_not.mpr hk
  rw [check, if_neg hcounts, if_pos hb]

end DartSweep.Census
