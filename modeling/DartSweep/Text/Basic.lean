/-!
# Texts and character sets

A text is its list of characters, so that statements about it are statements about lists. A
character set is a list of code point ranges in ascending order, which lets a search stop at the
first range that begins too late.
-/
namespace DartSweep

/-- A text is its characters in order. -/
abbrev Text := List Char

/-- A set of characters, given by ascending inclusive ranges of code points. -/
abbrev CharSet := List (Nat × Nat)

namespace CharSet

def has : CharSet → Char → Bool
  | [], _ => false
  | (low, high) :: rest, c =>
    if c.toNat < low then false else c.toNat ≤ high || has rest c

def ascends (bound : Nat) : CharSet → Bool
  | [] => true
  | (low, high) :: rest => bound ≤ low && low ≤ high && ascends (high + 1) rest

private theorem le_of_ascends {bound : Nat} {set : CharSet} (h : set.ascends bound = true) :
    ∀ range ∈ set, bound ≤ range.1 := by
  induction set generalizing bound with
  | nil => simp
  | cons first rest ih =>
    simp only [ascends, Bool.and_eq_true, decide_eq_true_eq] at h
    intro range hr
    rcases List.mem_cons.mp hr with rfl | hr
    · exact h.1.1
    · have hb := ih h.2 range hr
      omega

theorem has_iff {bound : Nat} {set : CharSet} (h : set.ascends bound = true) (c : Char) :
    set.has c = true ↔ ∃ range ∈ set, range.1 ≤ c.toNat ∧ c.toNat ≤ range.2 := by
  induction set generalizing bound with
  | nil => simp [has]
  | cons first rest ih =>
    have ha := h
    simp only [ascends, Bool.and_eq_true, decide_eq_true_eq] at h
    by_cases hl : c.toNat < first.1
    · simp only [has, hl, if_true, Bool.false_eq_true, false_iff, not_exists, not_and]
      intro range hr hc
      have hb : first.1 ≤ range.1 := by
        rcases List.mem_cons.mp hr with rfl | hr
        · exact Nat.le_refl _
        · have hb := le_of_ascends h.2 range hr
          omega
      omega
    · simp only [has, hl, if_false, Bool.or_eq_true, decide_eq_true_eq, ih h.2, List.mem_cons,
        exists_eq_or_imp]
      constructor
      · rintro (hh | hh)
        · exact Or.inl ⟨by omega, hh⟩
        · exact Or.inr hh
      · rintro (hh | hh)
        · exact Or.inl hh.2
        · exact Or.inr hh

end CharSet
end DartSweep
