import DartSweep.Proofs.Getter.Depth
import DartSweep.Source.Census

/-!
# The two counters of braces

A nesting counts in 32 bits while it reads, the census counts a whole text at once and without
limits. On texts of less than `2 ^ 31` characters no counter of the nesting leaves its range, so both
counts are the same wherever the reading stops.
-/
namespace DartSweep

private theorem excess_bounds (opener closer : Char) (t : Text) :
    -(t.length : Int) ≤ excess opener closer t ∧ excess opener closer t ≤ t.length := by
  have hopener : t.count opener ≤ t.length := List.count_le_length
  have hcloser : t.count closer ≤ t.length := List.count_le_length
  rw [excess]
  omega

def Fits (n : Int) : Prop :=
  -2 ^ 31 ≤ n ∧ n < 2 ^ 31

instance (n : Int) : Decidable (Fits n) :=
  inferInstanceAs (Decidable (_ ∧ _))

private theorem fits_excess (opener closer : Char) {t : Text} (h : t.length < 2 ^ 31) :
    Fits (excess opener closer t) := by
  have hbounds := excess_bounds opener closer t
  rw [Fits]
  omega

/-- What a nesting reads at a time: a character, or all characters of a line. -/
inductive Portion
  | char (c : Char)
  | line (t : Text)
deriving DecidableEq, Repr

def Portion.text : Portion → Text
  | char c => [c]
  | line t => t

namespace Nesting

def read (nesting : Nesting) : Portion → Nesting
  | .char c => nesting.afterChar c
  | .line t => nesting.after t

/-- The depths after one more character, if it takes no counter out of its range. -/
def afterChar? (nesting : Nesting) (c : Char) : Option Nesting :=
  if Fits (nesting.braces.toInt + excess '{' '}' [c]) ∧
      Fits (nesting.brackets.toInt + excess '[' ']' [c]) then
    some (nesting.afterChar c)
  else none

def after? (nesting : Nesting) (t : Text) : Option Nesting :=
  t.foldlM afterChar? nesting

def read? (nesting : Nesting) : Portion → Option Nesting
  | .char c => nesting.afterChar? c
  | .line t => nesting.after? t

private theorem read_eq_after (nesting : Nesting) (portion : Portion) :
    nesting.read portion = nesting.after portion.text := by
  cases portion <;> rfl

private theorem foldl_read (nesting : Nesting) (portions : List Portion) :
    portions.foldl read nesting = nesting.after (portions.flatMap Portion.text) := by
  induction portions generalizing nesting with
  | nil => rfl
  | cons portion rest ih =>
    rw [List.foldl_cons, ih, read_eq_after, List.flatMap_cons, after_append]

/-- In a short text, a counter that follows two delimiters shows how many more were opened. -/
private theorem toInt_counter_after {counter : Nesting → Int32} {opener closer : Char}
    (hafter : ∀ nesting t, counter (nesting.after t) =
      counter nesting + Int32.ofInt (excess opener closer t))
    (hempty : counter empty = 0) {t : Text} (h : t.length < 2 ^ 31) :
    (counter (empty.after t)).toInt = excess opener closer t := by
  have hfits := fits_excess opener closer h
  rw [hafter, hempty, Int32.zero_add, Int32.toInt_ofInt_of_le hfits.1 hfits.2]

/-- No character takes a counter out of its range if the text with it is short. -/
private theorem after?_after {s t : Text} (h : (s ++ t).length < 2 ^ 31) :
    (empty.after s).after? t = some (empty.after (s ++ t)) := by
  induction t generalizing s with
  | nil => rw [List.append_nil, after?, List.foldlM_nil, Option.pure_def]
  | cons c rest ih =>
    have hsplit : s ++ c :: rest = (s ++ [c]) ++ rest := by simp
    rw [hsplit] at h ⊢
    have hread : (s ++ [c]).length < 2 ^ 31 := by
      rw [List.length_append] at h
      omega
    have hbefore : s.length < 2 ^ 31 := by
      rw [List.length_append] at hread
      omega
    have hbraces := fits_excess '{' '}' hread
    have hbrackets := fits_excess '[' ']' hread
    rw [excess_append, ← toInt_counter_after braces_after rfl hbefore] at hbraces
    rw [excess_append, ← toInt_counter_after brackets_after rfl hbefore] at hbrackets
    have hstep : (empty.after s).afterChar? c = some (empty.after (s ++ [c])) := by
      rw [afterChar?, if_pos ⟨hbraces, hbrackets⟩, after_append]
      rfl
    rw [after?, List.foldlM_cons, hstep]
    exact ih h

private theorem read?_eq_after? (nesting : Nesting) (portion : Portion) :
    nesting.read? portion = nesting.after? portion.text := by
  cases portion with
  | char c => simp [read?, after?, Portion.text]
  | line t => rfl

private theorem foldlM_read? (nesting : Nesting) (portions : List Portion) :
    portions.foldlM read? nesting = nesting.after? (portions.flatMap Portion.text) := by
  induction portions generalizing nesting with
  | nil => rfl
  | cons portion rest ih =>
    rw [List.foldlM_cons, read?_eq_after?, List.flatMap_cons, after?, after?, List.foldlM_append]
    congr 1
    funext next
    exact ih next

end Nesting

/-- Characters and lines that are read one after the other, less than `2 ^ 31` characters in all,
never take a counter out of its range. After each of them the counters show how many more delimiters
of their kind were opened than closed, for braces the balance that the census has for the text read
so far, and nesting has started once one was opened. -/
theorem counters_agree {portions : List Portion}
    (h : (portions.flatMap Portion.text).length < 2 ^ 31) :
    portions.foldlM Nesting.read? .empty = some (portions.foldl Nesting.read .empty) ∧
      ∀ done, done <+: portions →
        let read := done.flatMap Portion.text
        let nesting := done.foldl Nesting.read .empty
        nesting.braces.toInt = (read.count '{' : Int) - read.count '}' ∧
          nesting.brackets.toInt = (read.count '[' : Int) - read.count ']' ∧
          (nesting.started = true ↔ '{' ∈ read ∨ '[' ∈ read) ∧
          ∀ keyword, nesting.braces.toInt = (Census.ofSource keyword read).braceBalance := by
  constructor
  · rw [Nesting.foldlM_read?, Nesting.foldl_read]
    exact Nesting.after?_after (s := []) h
  · intro done hdone read nesting
    have hread : read.length < 2 ^ 31 := by
      obtain ⟨later, rfl⟩ := hdone
      rw [List.flatMap_append, List.length_append] at h
      exact Nat.lt_of_le_of_lt (Nat.le_add_right _ _) h
    have hnesting : nesting = Nesting.empty.after read := Nesting.foldl_read .empty done
    have hbraces := Nesting.toInt_counter_after Nesting.braces_after rfl hread
    have hbrackets := Nesting.toInt_counter_after Nesting.brackets_after rfl hread
    have hstarted := Nesting.started_after .empty read
    rw [← hnesting] at hbraces hbrackets hstarted
    exact ⟨hbraces, hbrackets, by simpa [Nesting.empty] using hstarted, fun _ => hbraces⟩

def mixedPortions : List Portion :=
  [.line "items \x7b [a, b]".toList, .char '[', .line "\x7d\x7d".toList, .char ']']

theorem counters_agree_mixed :
    (mixedPortions.flatMap Portion.text).length < 2 ^ 31 ∧
      mixedPortions.foldlM Nesting.read? .empty = some ⟨-1, 0, true⟩ ∧
      mixedPortions.take 2 <+: mixedPortions ∧
      ((mixedPortions.take 2).foldl Nesting.read .empty).brackets.toInt = 1 ∧
      (mixedPortions.foldl Nesting.read .empty).braces.toInt =
        (Census.ofSource "class".toList (mixedPortions.flatMap Portion.text)).braceBalance := by
  have hshort : (mixedPortions.flatMap Portion.text).length < 2 ^ 31 := by decide
  have hpart : mixedPortions.take 2 <+: mixedPortions := List.take_prefix 2 mixedPortions
  obtain ⟨hchecked, hcounts⟩ := counters_agree hshort
  obtain ⟨-, hbrackets, -⟩ := hcounts _ hpart
  obtain ⟨-, -, -, hcensus⟩ := hcounts _ List.prefix_rfl
  exact ⟨hshort, hchecked, hpart, hbrackets, hcensus _⟩

end DartSweep
