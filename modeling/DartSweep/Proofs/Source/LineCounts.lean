import DartSweep.Proofs.Edit.Survivors
import DartSweep.Proofs.Source.Braces
import DartSweep.Proofs.Text.Occurrences
import Mathlib.Algebra.Ring.Int.Defs

/-!
# The census line by line

Both counts of the census are sums over the lines. For the braces this is so at any border. For the
keyword it is so because no occurrence crosses a line feed; where two texts meet without one, an
occurrence may begin that neither has. Lines that are taken out thus never raise the count of the
keyword, and they lower it unless none of them holds the keyword.
-/
namespace DartSweep

section
variable {α : Type} (keep : Nat → Prop) [DecidablePred keep]

private theorem mem_keptFrom_zero_iff {items : List α} {item : α} :
    item ∈ keptFrom keep 0 items ↔ ∃ index, items[index]? = some item ∧ keep index := by
  simp [keptFrom, List.mem_zipIdx_iff_getElem?]

variable (f : α → Nat)

/-- A sum over items is the sum over those that are kept and the sum over those left out. -/
private theorem sum_keptFrom (index : Nat) (items : List α) :
    (items.map f).sum = ((keptFrom keep index items).map f).sum +
      ((keptFrom (fun i => ¬keep i) index items).map f).sum := by
  induction items generalizing index with
  | nil => rfl
  | cons item rest ih =>
    have hrest := ih (index + 1)
    rw [List.map_cons, List.sum_cons]
    by_cases hk : keep index
    · rw [keptFrom_cons_of_pos keep hk, keptFrom_cons_of_neg _ (not_not.mpr hk), List.map_cons,
        List.sum_cons]
      omega
    · rw [keptFrom_cons_of_neg keep hk, keptFrom_cons_of_pos _ hk, List.map_cons, List.sum_cons]
      omega

private theorem sum_keptFrom_eq_iff (items : List α) :
    ((keptFrom keep 0 items).map f).sum = (items.map f).sum ↔
      ∀ index item, items[index]? = some item → ¬keep index → f item = 0 := by
  have hsum := sum_keptFrom keep f 0 items
  have hzero : ((keptFrom keep 0 items).map f).sum = (items.map f).sum ↔
      ((keptFrom (fun i => ¬keep i) 0 items).map f).sum = 0 := by
    omega
  rw [hzero, List.sum_eq_zero_iff, List.forall_mem_map]
  simp only [mem_keptFrom_zero_iff, forall_exists_index, and_imp]
  exact forall_comm

end

private theorem braceExcess_eq_sum (keyword : Text) (lines : List Text) :
    braceExcess lines = (lines.map fun line => (Census.ofSource keyword line).braceBalance).sum := by
  induction lines with
  | nil => rfl
  | cons line rest ih =>
    have hfirst : braceExcess [line] = (Census.ofSource keyword line).braceBalance := by
      rw [braceExcess, List.flatten_singleton, Census.ofSource]
    rw [List.map_cons, List.sum_cons, ← ih, ← hfirst, ← braceExcess_append, List.singleton_append]

private theorem occurrences_eq_zero_iff {keyword : Text} (hne : keyword ≠ []) (t : Text) :
    occurrences keyword t = 0 ↔ ¬keyword <:+: t := by
  rw [← occursIn_iff, ← occurrences_pos_iff hne]
  omega

/-- The counts of joined lines are the sums of the counts of the lines. Whichever lines are left
out, the class keywords do not become more, and they stay as many exactly if no line left out holds
the keyword. -/
theorem census_adds_up {keyword : Text} (hne : keyword ≠ []) (hn : '\n' ∉ keyword)
    (lines : List Text) :
    (Census.ofSource keyword (joinLines lines)).classKeywords =
        (lines.map fun line => (Census.ofSource keyword line).classKeywords).sum ∧
      (Census.ofSource keyword (joinLines lines)).braceBalance =
        (lines.map fun line => (Census.ofSource keyword line).braceBalance).sum ∧
      ∀ (keep : Nat → Prop) [DecidablePred keep],
        let kept := joinLines (keptFrom keep 0 lines)
        (Census.ofSource keyword kept).classKeywords ≤
            (Census.ofSource keyword (joinLines lines)).classKeywords ∧
          ((Census.ofSource keyword kept).classKeywords =
              (Census.ofSource keyword (joinLines lines)).classKeywords ↔
            ∀ index line, lines[index]? = some line → ¬keep index → ¬keyword <:+: line) := by
  have hcount (part : List Text) : (Census.ofSource keyword (joinLines part)).classKeywords =
      (part.map (occurrences keyword)).sum :=
    occurrences_joinLines hne hn part
  refine ⟨hcount lines, ?_, ?_⟩
  · rw [braceBalance_joinLines, braceExcess_eq_sum keyword]
  · intro keep _ kept
    rw [hcount, hcount, sum_keptFrom_eq_iff]
    simp only [occurrences_eq_zero_iff hne, and_true]
    have hsum := sum_keptFrom keep (occurrences keyword) 0 lines
    omega

/-- Put together without line feeds they would hold the text `aa` three times. -/
def overlappingLines : List Text :=
  ["aa\x7b".toList, "aaa".toList, "a\x7d\x7d".toList]

theorem census_adds_up_overlapping :
    "aa".toList ≠ [] ∧ '\n' ∉ "aa".toList ∧
      Census.ofSource "aa".toList (joinLines overlappingLines) = ⟨2, -1⟩ ∧
      (Census.ofSource "aa".toList (joinLines (keptFrom (· ≠ 2) 0 overlappingLines))).classKeywords =
        2 ∧
      (Census.ofSource "aa".toList (joinLines (keptFrom (· ≠ 1) 0 overlappingLines))).classKeywords <
        2 := by
  have hne : "aa".toList ≠ [] := by decide
  have hn : '\n' ∉ "aa".toList := by decide
  obtain ⟨hkeywords, hbraces, hkept⟩ := census_adds_up hne hn overlappingLines
  have htwo : (Census.ofSource "aa".toList (joinLines overlappingLines)).classKeywords = 2 :=
    hkeywords.trans (by decide)
  have hone : (Census.ofSource "aa".toList (joinLines overlappingLines)).braceBalance = -1 :=
    hbraces.trans (by decide)
  refine ⟨hne, hn, congrArg₂ Census.mk htwo hone, ?_, ?_⟩
  · rw [← htwo]
    apply (hkept (· ≠ 2)).2.mpr
    intro index line hline hlast
    obtain rfl : index = 2 := not_not.mp hlast
    obtain rfl : "a\x7d\x7d".toList = line := Option.some.inj hline
    decide
  · obtain ⟨hle, hiff⟩ := hkept (· ≠ 1)
    rw [htwo] at hle hiff
    apply Nat.lt_of_le_of_ne hle
    intro he
    exact hiff.mp he 1 "aaa".toList (by decide) (by decide) (by decide)

end DartSweep
