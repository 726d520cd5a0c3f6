import DartSweep.Getter.Nesting
import DartSweep.Proofs.Edit.Slices
import Mathlib.Algebra.Group.Int.Defs
import Mathlib.Algebra.Group.Nat.Defs

/-!
# Depths as counts

The counters of a nesting show how many more delimiters a text opens than it closes, as far as 32
bits can: a counter is zero when the difference is a multiple of `2 ^ 32`, which in a shorter text
is no other than zero.
-/
namespace DartSweep

/-- How often the first character stands in the text, less the second. -/
def excess (opener closer : Char) (t : Text) : Int :=
  (t.count opener : Int) - t.count closer

section
variable (opener closer : Char)

theorem excess_append (s t : Text) :
    excess opener closer (s ++ t) = excess opener closer s + excess opener closer t := by
  simp only [excess, List.count_append]
  omega

variable {opener closer} {t : Text}

theorem excess_eq_zero_of_dvd (hd : (2 ^ 32 : Int) ∣ excess opener closer t)
    (hl : t.length < 2 ^ 32) : excess opener closer t = 0 := by
  have hopener : t.count opener ≤ t.length := List.count_le_length
  have hcloser : t.count closer ≤ t.length := List.count_le_length
  rw [excess] at hd ⊢
  omega

theorem mem_of_excess_eq_zero (he : excess opener closer t = 0) (hc : closer ∈ t) :
    opener ∈ t := by
  have hpos : 0 < t.count closer := List.count_pos_iff.mpr hc
  apply List.count_pos_iff.mp
  rw [excess] at he
  omega

end

theorem ofInt_eq_zero_iff (n : Int) : Int32.ofInt n = 0 ↔ (2 ^ 32 : Int) ∣ n := by
  rw [Int32.ofInt_eq_iff_bmod_eq_toInt]
  exact (Int.dvd_iff_bmod_eq_zero (a := 2 ^ 32)).symm

namespace Nesting

/-- A counter that follows two delimiters character by character follows them through a text. -/
theorem counter_after {counter : Nesting → Int32} {opener closer : Char}
    (hstep : ∀ nesting c, counter (nesting.afterChar c) =
      counter nesting + Int32.ofInt (excess opener closer [c])) (nesting : Nesting) (t : Text) :
    counter (nesting.after t) = counter nesting + Int32.ofInt (excess opener closer t) := by
  induction t generalizing nesting with
  | nil => simp [excess]
  | cons c rest ih =>
    have hfirst : nesting.after (c :: rest) = (nesting.afterChar c).after rest := rfl
    have hparts : excess opener closer (c :: rest) =
        excess opener closer [c] + excess opener closer rest :=
      excess_append opener closer [c] rest
    rw [hfirst, ih, hstep, hparts, Int32.ofInt_add, Int32.add_assoc]

theorem braces_after (nesting : Nesting) (t : Text) :
    (nesting.after t).braces = nesting.braces + Int32.ofInt (excess '{' '}' t) := by
  refine counter_after (fun nesting c => ?_) nesting t
  unfold afterChar
  split <;> simp_all [excess, Int32.sub_eq_add_neg]

theorem brackets_after (nesting : Nesting) (t : Text) :
    (nesting.after t).brackets = nesting.brackets + Int32.ofInt (excess '[' ']' t) := by
  refine counter_after (fun nesting c => ?_) nesting t
  unfold afterChar
  split <;> simp_all [excess, Int32.sub_eq_add_neg]

private theorem started_afterChar (nesting : Nesting) (c : Char) :
    (nesting.afterChar c).started = true ↔ nesting.started = true ∨ c = '{' ∨ c = '[' := by
  unfold afterChar
  split <;> simp_all

/-- Nesting has started once a delimiter of either kind has been opened. -/
theorem started_after (nesting : Nesting) (t : Text) :
    (nesting.after t).started = true ↔ nesting.started = true ∨ '{' ∈ t ∨ '[' ∈ t := by
  induction t generalizing nesting with
  | nil => simp
  | cons c rest ih =>
    have hfirst : nesting.after (c :: rest) = (nesting.afterChar c).after rest := rfl
    rw [hfirst, ih, started_afterChar, List.mem_cons, List.mem_cons, @eq_comm _ '{', @eq_comm _ '[']
    tauto

end Nesting

end DartSweep
