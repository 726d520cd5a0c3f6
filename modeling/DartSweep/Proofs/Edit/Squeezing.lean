import DartSweep.Proofs.Edit.Survivors
import DartSweep.Proofs.Text.Spacing

/-!
# Deleting and squeezing

Blank lines may be squeezed before other lines are deleted or afterwards: what is left is the same,
as long as no deletion ends with a blank line.
-/
namespace DartSweep

section
variable {α : Type} {filler : α → Bool} {place line : Nat → Nat} {items wider : List α}
  {first start : Nat} {keep also : Nat → Prop} [DecidablePred keep] [DecidablePred also]
  (hk : ∀ i, keep i ↔ also (line i)) (hline : Leads line place first start)
include hk hline

theorem Spaced.keptFrom (h : Spaced filler place items wider) :
    ∃ left, Spaced filler left (keptFrom keep first items) (keptFrom also start wider) := by
  induction h generalizing first start with
  | nil => exact ⟨id, .nil⟩
  | keep item h ih =>
    have hfirst := hk first
    rw [hline.head] at hfirst
    obtain ⟨left, hleft⟩ := ih hline.keep
    by_cases hkeep : keep first
    · rw [keptFrom_cons_of_pos keep hkeep, keptFrom_cons_of_pos also (hfirst.mp hkeep)]
      exact ⟨_, hleft.keep item⟩
    · rw [keptFrom_cons_of_neg keep hkeep, keptFrom_cons_of_neg also (mt hfirst.mpr hkeep)]
      exact ⟨left, hleft⟩
  | fill hf h ih =>
    obtain ⟨left, hleft⟩ := ih hline.fill
    by_cases halso : also start
    · rw [keptFrom_cons_of_pos also halso]
      exact ⟨_, hleft.fill hf⟩
    · rw [keptFrom_cons_of_neg also halso]
      exact ⟨left, hleft⟩

/-- The two flags tell if a filler stands before the lists and before what is kept of them. They
differ only behind items that are not kept, and these do not end with a filler. -/
theorem Stretched.keptFrom {fillerBefore keptBefore : Bool}
    (h : Stretched filler fillerBefore place items wider)
    (hend : ∀ entry ∈ wider.zipIdx start, filler entry.1 = true → also (entry.2 + 1) →
      also entry.2)
    (hbefore : fillerBefore = true → also start → keptBefore = true) :
    ∃ left, Stretched filler keptBefore left (keptFrom keep first items)
      (keptFrom also start wider) := by
  induction h generalizing first start keptBefore with
  | nil => exact ⟨id, .nil _⟩
  | keep item h ih =>
    obtain ⟨hitem, hrest⟩ := List.forall_mem_cons.mp hend
    have hfirst := hk first
    rw [hline.head] at hfirst
    by_cases hkeep : keep first
    · obtain ⟨left, hleft⟩ := ih hline.keep hrest fun hf _ => hf
      rw [keptFrom_cons_of_pos keep hkeep, keptFrom_cons_of_pos also (hfirst.mp hkeep)]
      exact ⟨_, hleft.keep item⟩
    · have hnot : ¬also start := mt hfirst.mpr hkeep
      obtain ⟨left, hleft⟩ := @ih _ _ hline.keep keptBefore hrest
        fun hf ha => absurd (hitem hf ha) hnot
      rw [keptFrom_cons_of_neg keep hkeep, keptFrom_cons_of_neg also hnot]
      exact ⟨left, hleft⟩
  | fill hf h ih =>
    obtain ⟨hitem, hrest⟩ := List.forall_mem_cons.mp hend
    by_cases halso : also start
    · obtain ⟨left, hleft⟩ := @ih _ _ hline.fill true hrest fun _ _ => rfl
      rw [keptFrom_cons_of_pos also halso, hbefore rfl halso]
      exact ⟨_, hleft.fill hf⟩
    · obtain ⟨left, hleft⟩ := @ih _ _ hline.fill keptBefore hrest
        fun _ ha => absurd (hitem hf ha) halso
      rw [keptFrom_cons_of_neg also halso]
      exact ⟨left, hleft⟩

end

/-- The lines that a plan keeps are those outside its spans without the blank lines behind others.
-/
theorem stretched_keptFrom {α : Type} (text : α → Text) (plan : DeletionPlan) (lines : List Text)
    (items : List α) (index : Nat) (h : lines.drop index = items.map text) :
    ∃ left, Stretched (fun item => isBlank (text item))
      (decide (BlankBefore plan.spans lines index)) left (keptFrom (plan.Keeps lines) index items)
      (keptFrom (fun i => ¬Covered plan.spans i) index items) := by
  induction items generalizing index with
  | nil => exact ⟨id, .nil _⟩
  | cons item rest ih =>
    have hline : lines[index]? = some (text item) := by
      rw [← List.head?_drop, h, List.map_cons, List.head?_cons]
    have hdrop : lines.drop (index + 1) = rest.map text := by
      rw [← List.tail_drop, h, List.map_cons, List.tail_cons]
    obtain ⟨left, hleft⟩ := ih (index + 1) hdrop
    rcases plan.keeps_step hline with ⟨hc, hkeep, hnext⟩ | ⟨hc, hkeep, hnext⟩
    · simp only [hnext] at hleft
      rw [keptFrom_cons_of_neg _ hkeep, keptFrom_cons_of_neg _ (not_not.mpr hc)]
      exact ⟨left, hleft⟩
    · simp only [hnext, Bool.decide_eq_true] at hleft
      by_cases hs : isBlank (text item) = true ∧ BlankBefore plan.spans lines index
      · rw [hs.1] at hleft
        rw [keptFrom_cons_of_neg _ (fun hk => hkeep.mp hk hs), keptFrom_cons_of_pos _ hc,
          decide_eq_true hs.2]
        exact ⟨_, hleft.fill hs.1⟩
      · rw [keptFrom_cons_of_pos _ (hkeep.mpr hs), keptFrom_cons_of_pos _ hc]
        exact ⟨_, hleft.keep item⟩

theorem squeezeAfter_of_stretched {blankBefore : Bool} {place : Nat → Nat} {lines wider : List Text}
    (h : Stretched isBlank blankBefore place lines wider) :
    squeezeAfter blankBefore lines = squeezeAfter blankBefore wider := by
  induction h with
  | nil => rfl
  | @keep blankBefore place lines wider line h ih =>
    rw [squeezeAfter, squeezeAfter]
    cases hb : isBlank line with
    | true =>
      rw [hb] at ih
      rw [ih]
    | false =>
      rw [hb] at ih
      simp only [Bool.false_and, ih]
      rfl
  | fill hf h ih => rw [squeezeAfter, hf, ih, Bool.and_self, if_pos rfl]

/-- Lines squeezed before lose nothing more, unless a blank line now stands before the first. -/
theorem squeezeAfter_squeezeAfter (blankBefore squeezedBefore : Bool) (lines : List Text) :
    squeezeAfter blankBefore (squeezeAfter squeezedBefore lines) =
      squeezeAfter (blankBefore || squeezedBefore) lines := by
  induction lines generalizing blankBefore squeezedBefore with
  | nil => rfl
  | cons line rest ih =>
    cases hb : isBlank line with
    | false => simp [squeezeAfter, hb, ih]
    | true => cases blankBefore <;> cases squeezedBefore <;> simp [squeezeAfter, hb, ih]

theorem squeezeBlanks_squeezeBlanks (lines : List Text) :
    squeezeBlanks (squeezeBlanks lines) = squeezeBlanks lines :=
  squeezeAfter_squeezeAfter false false lines

end DartSweep
