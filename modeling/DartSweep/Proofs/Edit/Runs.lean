import DartSweep.Proofs.Edit.Slices
import DartSweep.Proofs.Edit.Squeezing

/-!
# Runs of blank lines, squeezed

Squeezing carries on whether the last line it left is blank. The last line it read tells the same,
so what happens to a line shows on the line directly before it, and lines can be squeezed in parts.
-/
namespace DartSweep

/-- The last line is blank, or without lines what was blank before stays so. -/
def blankAfter (blankBefore : Bool) (lines : List Text) : Bool :=
  lines.foldl (fun _ line => isBlank line) blankBefore

@[simp] theorem blankAfter_cons (blankBefore : Bool) (line : Text) (rest : List Text) :
    blankAfter blankBefore (line :: rest) = blankAfter (isBlank line) rest :=
  rfl

private theorem blankAfter_eq (blankBefore : Bool) (lines : List Text) :
    blankAfter blankBefore lines = (lines.getLast?.map isBlank).getD blankBefore := by
  rcases List.eq_nil_or_concat lines with rfl | ⟨first, last, rfl⟩
  · rfl
  · simp [blankAfter]

/-- The lines left tell as well as the lines read if the last one is blank. -/
private theorem blankAfter_squeezeAfter (blankBefore : Bool) (lines : List Text) :
    blankAfter blankBefore (squeezeAfter blankBefore lines) = blankAfter blankBefore lines := by
  induction lines generalizing blankBefore with
  | nil => rfl
  | cons line rest ih =>
    rw [squeezeAfter, blankAfter_cons]
    split
    · rename_i hb
      obtain ⟨hline, rfl⟩ := Bool.and_eq_true_iff.mp hb
      rw [ih, hline]
    · rw [blankAfter_cons, ih]

private theorem squeezeAfter_append (blankBefore : Bool) (lines more : List Text) :
    squeezeAfter blankBefore (lines ++ more) =
      squeezeAfter blankBefore lines ++ squeezeAfter (blankAfter blankBefore lines) more := by
  induction lines generalizing blankBefore with
  | nil => rfl
  | cons line rest ih =>
    rw [List.cons_append, squeezeAfter, squeezeAfter, blankAfter_cons]
    split
    · rename_i hb
      rw [ih, (Bool.and_eq_true_iff.mp hb).1]
    · rw [ih, List.cons_append]

private theorem squeezeBlanks_append (lines more : List Text) :
    squeezeBlanks (lines ++ more) = squeezeBlanks (squeezeBlanks lines ++ squeezeBlanks more) := by
  have hflag : blankAfter false (squeezeAfter false lines) = blankAfter false lines :=
    blankAfter_squeezeAfter false lines
  rw [squeezeBlanks, squeezeBlanks, squeezeBlanks, squeezeBlanks, squeezeAfter_append,
    squeezeAfter_append, hflag, squeezeAfter_squeezeAfter, squeezeAfter_squeezeAfter,
    Bool.or_false, Bool.or_false]

/-! ### Single runs -/

private theorem squeezeAfter_of_blank {lines : List Text} (h : ∀ line ∈ lines, isBlank line = true)
    (blankBefore : Bool) :
    squeezeAfter blankBefore lines = if blankBefore then [] else lines.take 1 := by
  induction lines generalizing blankBefore with
  | nil => cases blankBefore <;> rfl
  | cons line rest ih =>
    obtain ⟨hline, hrest⟩ := List.forall_mem_cons.mp h
    have hnone : squeezeAfter true rest = [] := ih hrest true
    cases blankBefore <;> simp [squeezeAfter, hline, hnone]

/-- A blank line before the lines is of no account if they begin with another one. -/
private theorem squeezeAfter_of_head {lines : List Text}
    (h : ∀ line ∈ lines.head?, isBlank line = false)
    (blankBefore : Bool) : squeezeAfter blankBefore lines = squeezeBlanks lines := by
  cases lines with
  | nil => rfl
  | cons line rest =>
    have hline : isBlank line = false := h line rfl
    simp [squeezeBlanks, squeezeAfter, hline]

/-- Of blank lines with no blank line on either side the first is left. -/
theorem squeezeBlanks_run {before run after : List Text}
    (hrun : ∀ line ∈ run, isBlank line = true)
    (hbefore : ∀ line ∈ before.getLast?, isBlank line = false)
    (hafter : ∀ line ∈ after.head?, isBlank line = false) :
    squeezeBlanks (before ++ run ++ after) =
      squeezeBlanks before ++ run.take 1 ++ squeezeBlanks after := by
  have hstart : blankAfter false before = false := by
    rw [blankAfter_eq]
    cases hl : before.getLast? with
    | none => rfl
    | some line => exact hbefore line hl
  have hmiddle : squeezeAfter (blankAfter false before) run = run.take 1 := by
    rw [hstart]
    exact squeezeAfter_of_blank hrun false
  rw [squeezeBlanks, squeezeAfter_append, squeezeAfter_append, hmiddle, squeezeAfter_of_head hafter]
  rfl

/-! ### Neighbours -/

def BlankAgain (lines : List Text) (index : Nat) : Prop :=
  0 < index ∧ BlankAt lines index ∧ BlankAt lines (index - 1)

instance (lines : List Text) (index : Nat) : Decidable (BlankAgain lines index) :=
  inferInstanceAs (Decidable (_ ∧ _))

private theorem blankBefore_nil_iff (lines : List Text) (index : Nat) :
    BlankBefore [] lines index ↔ 0 < index ∧ BlankAt lines (index - 1) := by
  cases index with
  | zero => simp [not_blankBefore_zero]
  | succ index => simp [blankBefore_succ_of_not_covered]

/-- Squeezing is what a plan does that deletes nothing. -/
theorem squeezeBlanks_eq_keptFrom (lines : List Text) :
    squeezeBlanks lines = keptFrom (fun index => ¬BlankAgain lines index) 0 lines := by
  have happly := DeletionPlan.apply_eq_keptFrom { spans := [] } lines
  change squeezeBlanks lines = _ at happly
  rw [happly]
  apply keptFrom_congr
  intro index _ _
  rw [DeletionPlan.Keeps, blankBefore_nil_iff, BlankAgain, and_left_comm,
    and_iff_right (not_covered_nil index)]

private theorem isChain_squeezeAfter (blankBefore : Bool) (lines : List Text) :
    (blankBefore = true → ∀ line ∈ (squeezeAfter blankBefore lines).head?, isBlank line = false) ∧
      (squeezeAfter blankBefore lines).IsChain fun line next =>
        ¬(isBlank line = true ∧ isBlank next = true) := by
  induction lines generalizing blankBefore with
  | nil => simp [squeezeAfter]
  | cons line rest ih =>
    rw [squeezeAfter]
    split
    · exact ⟨fun _ => (ih true).1 rfl, (ih true).2⟩
    · rename_i hb
      obtain ⟨hhead, hchain⟩ := ih (isBlank line)
      constructor
      · rintro rfl
        simpa using hb
      · rw [List.isChain_cons]
        refine ⟨fun next hm hblank => ?_, hchain⟩
        have hnext := hhead hblank.1 next hm
        simp [hnext] at hblank

/-- Exactly the blank lines directly behind a blank line are squeezed. So all lines with text stay,
of a longest run of blank lines the first stays, and no two blank lines stand together in the end.
Squeezing again changes nothing, and parts that were squeezed may be put together before. -/
theorem squeezing_is_exact (lines : List Text) :
    squeezeBlanks lines = keptFrom (fun index => ¬BlankAgain lines index) 0 lines ∧
      (squeezeBlanks lines).filter holdsText = lines.filter holdsText ∧
      (∀ before run after, lines = before ++ run ++ after →
        (∀ line ∈ run, isBlank line = true) →
        (∀ line ∈ before.getLast?, isBlank line = false) →
        (∀ line ∈ after.head?, isBlank line = false) →
        squeezeBlanks lines = squeezeBlanks before ++ run.take 1 ++ squeezeBlanks after) ∧
      ((squeezeBlanks lines).IsChain fun line next =>
        ¬(isBlank line = true ∧ isBlank next = true)) ∧
      squeezeBlanks (squeezeBlanks lines) = squeezeBlanks lines ∧
      ∀ more, squeezeBlanks (lines ++ more) =
        squeezeBlanks (squeezeBlanks lines ++ squeezeBlanks more) := by
  refine ⟨squeezeBlanks_eq_keptFrom lines, filter_holdsText_squeezeAfter false lines, ?_,
    (isChain_squeezeAfter false lines).2, squeezeBlanks_squeezeBlanks lines,
    squeezeBlanks_append lines⟩
  rintro before run after rfl hrun hbefore hafter
  exact squeezeBlanks_run hrun hbefore hafter

def raggedLines : List Text :=
  ["a".toList, "  ".toList, [], "\t".toList, "b".toList, []]

theorem squeezing_is_exact_ragged :
    raggedLines = ["a".toList] ++ ["  ".toList, [], "\t".toList] ++ ["b".toList, []] ∧
      (∀ line ∈ ["  ".toList, [], "\t".toList], isBlank line = true) ∧
      (∀ line ∈ ["a".toList].getLast?, isBlank line = false) ∧
      (∀ line ∈ ["b".toList, []].head?, isBlank line = false) ∧
      squeezeBlanks raggedLines =
        squeezeBlanks ["a".toList] ++ ["  ".toList] ++ squeezeBlanks ["b".toList, []] := by
  obtain ⟨-, -, hruns, -⟩ := squeezing_is_exact raggedLines
  have hrun : ∀ line ∈ ["  ".toList, [], "\t".toList], isBlank line = true := by decide
  have hbefore : ∀ line ∈ ["a".toList].getLast?, isBlank line = false := by decide
  have hafter : ∀ line ∈ ["b".toList, []].head?, isBlank line = false := by decide
  exact ⟨rfl, hrun, hbefore, hafter, hruns _ _ _ rfl hrun hbefore hafter⟩

end DartSweep
