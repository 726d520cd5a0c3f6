import DartSweep.Proofs.Edit.Apart
import Mathlib.Data.List.Basic

/-!
# The lines that a plan leaves

A plan deletes from the back and then squeezes, on lists that get shorter. What it leaves is told
here by the indices of the lines it was given: those in no span, less the blank ones whose last
neighbour before them outside the spans is blank.
-/
namespace DartSweep

section
variable {α β : Type} (keep : Nat → Prop) [DecidablePred keep]

/-- The items whose indices are kept, when the first of them has the given index. -/
def keptFrom (index : Nat) (items : List α) : List α :=
  ((items.zipIdx index).filter fun item => keep item.2).map Prod.fst

@[simp] theorem keptFrom_nil (index : Nat) : keptFrom keep index ([] : List α) = [] :=
  rfl

theorem keptFrom_cons_of_pos {index : Nat} (h : keep index) (item : α) (rest : List α) :
    keptFrom keep index (item :: rest) = item :: keptFrom keep (index + 1) rest := by
  simp [keptFrom, h]

theorem keptFrom_cons_of_neg {index : Nat} (h : ¬keep index) (item : α) (rest : List α) :
    keptFrom keep index (item :: rest) = keptFrom keep (index + 1) rest := by
  simp [keptFrom, h]

theorem keptFrom_concat_of_pos {index : Nat} {items : List α} (h : keep (index + items.length))
    (item : α) : keptFrom keep index (items ++ [item]) = keptFrom keep index items ++ [item] := by
  simp [keptFrom, List.zipIdx_append, h]

theorem keptFrom_sublist (index : Nat) (items : List α) :
    (keptFrom keep index items).Sublist items := by
  have h := (List.filter_sublist (p := fun item => decide (keep item.2))
    (l := items.zipIdx index)).map Prod.fst
  rw [List.zipIdx_map_fst] at h
  exact h

theorem map_keptFrom (f : α → β) (index : Nat) (items : List α) :
    (keptFrom keep index items).map f = keptFrom keep index (items.map f) := by
  induction items generalizing index with
  | nil => rfl
  | cons item rest ih =>
    rw [List.map_cons]
    by_cases h : keep index
    · rw [keptFrom_cons_of_pos keep h, keptFrom_cons_of_pos keep h, List.map_cons, ih]
    · rw [keptFrom_cons_of_neg keep h, keptFrom_cons_of_neg keep h, ih]

private theorem keptFrom_eq_self {index : Nat} (h : ∀ i, index ≤ i → keep i) (items : List α) :
    keptFrom keep index items = items := by
  induction items generalizing index with
  | nil => rfl
  | cons item rest ih =>
    have hrest : ∀ i, index + 1 ≤ i → keep i := fun i hi => h i (by omega)
    rw [keptFrom_cons_of_pos keep (h index (Nat.le_refl _)), ih hrest]

theorem mem_keptFrom_of_getElem? {index i : Nat} {items : List α} {item : α}
    (hi : items[i]? = some item) (hk : keep (index + i)) : item ∈ keptFrom keep index items := by
  apply List.mem_map.mpr
  refine ⟨(item, index + i), ?_, rfl⟩
  rw [List.mem_filter]
  exact ⟨List.mk_add_mem_zipIdx_iff_getElem?.mpr hi, decide_eq_true hk⟩

theorem keep_of_mem_keptFrom {index : Nat} {items : List α} {entry : α × Nat}
    (h : entry ∈ keptFrom keep index (items.zipIdx index)) : keep entry.2 := by
  induction items generalizing index with
  | nil => simp at h
  | cons item rest ih =>
    rw [List.zipIdx_cons] at h
    by_cases hk : keep index
    · rw [keptFrom_cons_of_pos keep hk] at h
      rcases List.mem_cons.mp h with rfl | h
      · exact hk
      · exact ih h
    · rw [keptFrom_cons_of_neg keep hk] at h
      exact ih h

variable {keep} {also : Nat → Prop} [DecidablePred also]

theorem keptFrom_congr {index : Nat} {items : List α}
    (h : ∀ i, index ≤ i → i < index + items.length → (keep i ↔ also i)) :
    keptFrom keep index items = keptFrom also index items := by
  induction items generalizing index with
  | nil => rfl
  | cons item rest ih =>
    rw [List.length_cons] at h
    have hrest := @ih (index + 1) fun i hl hh => h i (by omega) (by omega)
    have hhead := h index (Nat.le_refl _) (by omega)
    by_cases hk : keep index
    · rw [keptFrom_cons_of_pos keep hk, keptFrom_cons_of_pos also (hhead.mp hk), hrest]
    · rw [keptFrom_cons_of_neg keep hk, keptFrom_cons_of_neg also (mt hhead.mpr hk), hrest]

/-- Items that were left out behind all indices that matter later move none of these. -/
private theorem keptFrom_keptFrom {bound : Nat} (hkeep : ∀ i, bound ≤ i → keep i)
    (halso : ∀ i, ¬also i → bound ≤ i) (index : Nat) (items : List α) :
    keptFrom keep index (keptFrom also index items) =
      keptFrom (fun i => keep i ∧ also i) index items := by
  induction items generalizing index with
  | nil => rfl
  | cons item rest ih =>
    by_cases ha : also index
    · rw [keptFrom_cons_of_pos also ha]
      by_cases hk : keep index
      · rw [keptFrom_cons_of_pos keep hk, keptFrom_cons_of_pos _ ⟨hk, ha⟩, ih]
      · rw [keptFrom_cons_of_neg keep hk, keptFrom_cons_of_neg _ (fun h => hk h.1), ih]
    · have hbound := halso index ha
      have hself : ∀ i, index ≤ i → keep i := fun i hi => hkeep i (by omega)
      have hnext : ∀ i, index + 1 ≤ i → keep i := fun i hi => hkeep i (by omega)
      rw [keptFrom_cons_of_neg also ha, keptFrom_cons_of_neg _ (fun h => ha h.2), ← ih,
        keptFrom_eq_self keep hself, keptFrom_eq_self keep hnext]

private theorem take_append_drop_eq_keptFrom {low high : Nat} (h : low ≤ high) (index : Nat)
    (items : List α) :
    items.take (low - index) ++ items.drop (high - index) =
      keptFrom (fun i => ¬(low ≤ i ∧ i < high)) index items := by
  induction items generalizing index with
  | nil => simp
  | cons item rest ih =>
    have hrest := ih (index + 1)
    by_cases hlow : index < low
    · have hk : ¬(low ≤ index ∧ index < high) := by omega
      have htake : low - index = low - (index + 1) + 1 := by omega
      have hdrop : high - index = high - (index + 1) + 1 := by omega
      rw [keptFrom_cons_of_pos _ hk, ← hrest, htake, hdrop]
      rfl
    · have htake : low - index = 0 := by omega
      have htake' : low - (index + 1) = 0 := by omega
      rw [htake'] at hrest
      by_cases hhigh : index < high
      · have hk : ¬¬(low ≤ index ∧ index < high) := by omega
        have hdrop : high - index = high - (index + 1) + 1 := by omega
        rw [keptFrom_cons_of_neg _ hk, ← hrest, htake, hdrop]
        rfl
      · have hdrop : high - index = 0 := by omega
        have hself : ∀ i, index ≤ i → ¬(low ≤ i ∧ i < high) := fun i hi => by omega
        rw [keptFrom_eq_self _ hself, htake, hdrop]
        rfl

end

private theorem deleteSpan_eq_keptFrom (span : Span) (lines : List Text) :
    deleteSpan span lines = keptFrom (fun i => ¬span.Covers i) 0 lines := by
  have hclip := Span.clip_le span lines.length
  have hkept := take_append_drop_eq_keptFrom hclip.1 0 lines
  rw [Nat.sub_zero, Nat.sub_zero] at hkept
  rw [deleteSpan, hkept]
  apply keptFrom_congr
  intro i _ hi
  simp only [Span.clip, Span.Covers]
  omega

/-- Deleting spans that keep apart from the back deletes the lines with the indices they cover. -/
theorem deleteSpans_eq_keptFrom {spans : List Span} (h : spans.Pairwise Span.Apart)
    (lines : List Text) :
    deleteSpans spans lines = keptFrom (fun i => ¬Covered spans i) 0 lines := by
  induction spans with
  | nil =>
    rw [keptFrom_eq_self _ (fun i _ => not_covered_nil i)]
    rfl
  | cons span spans ih =>
    obtain ⟨hspan, hspans⟩ := List.pairwise_cons.mp h
    have hkeep : ∀ i, span.stop ≤ i → ¬span.Covers i := fun i hi hc => absurd hc.2 (by omega)
    have halso : ∀ i, ¬¬Covered spans i → span.stop ≤ i := by
      intro i hi
      obtain ⟨later, hm, hc⟩ := not_not.mp hi
      have hstop : span.stop ≤ later.start := hspan later hm
      exact Nat.le_trans hstop hc.1
    have hdelete : deleteSpans (span :: spans) lines = deleteSpan span (deleteSpans spans lines) :=
      rfl
    rw [hdelete, ih hspans, deleteSpan_eq_keptFrom, keptFrom_keptFrom hkeep halso]
    apply keptFrom_congr
    intro i _ _
    rw [covered_cons_iff, not_or]

section
variable (spans : List Span) (lines : List Text)

def BlankAt (index : Nat) : Prop :=
  lines[index]?.any isBlank = true

instance (index : Nat) : Decidable (BlankAt lines index) :=
  inferInstanceAs (Decidable (lines[index]?.any isBlank = true))

/-- The last line before the index that no span covers is blank. -/
def BlankBefore (index : Nat) : Prop :=
  ∃ before, before < index ∧ (¬Covered spans before ∧ BlankAt lines before) ∧
    ∀ between, between < index → before < between → Covered spans between

instance (index : Nat) : Decidable (BlankBefore spans lines index) :=
  inferInstanceAs (Decidable (∃ before, before < index ∧
    (¬Covered spans before ∧ BlankAt lines before) ∧
      ∀ between, between < index → before < between → Covered spans between))

theorem not_blankBefore_zero : ¬BlankBefore spans lines 0 := by
  intro hb
  obtain ⟨before, hlt, -⟩ := hb
  exact absurd hlt (Nat.not_lt_zero _)

variable {spans} {index : Nat}

private theorem blankBefore_succ_of_covered (hc : Covered spans index) :
    BlankBefore spans lines (index + 1) ↔ BlankBefore spans lines index := by
  constructor
  · intro hb
    obtain ⟨before, hlt, hblank, hbetween⟩ := hb
    have hne : before ≠ index := by
      intro he
      exact hblank.1 (he ▸ hc)
    exact ⟨before, by omega, hblank, fun i hi => hbetween i (by omega)⟩
  · intro hb
    obtain ⟨before, hlt, hblank, hbetween⟩ := hb
    refine ⟨before, by omega, hblank, ?_⟩
    intro i hi hbi
    by_cases he : i = index
    · rw [he]
      exact hc
    · exact hbetween i (by omega) hbi

theorem blankBefore_succ_of_not_covered (hc : ¬Covered spans index) :
    BlankBefore spans lines (index + 1) ↔ BlankAt lines index := by
  constructor
  · intro hb
    obtain ⟨before, hlt, hblank, hbetween⟩ := hb
    by_cases he : before = index
    · rw [← he]
      exact hblank.2
    · exact absurd (hbetween index (by omega) (by omega)) hc
  · intro hb
    refine ⟨index, by omega, ⟨hc, hb⟩, ?_⟩
    intro i hi hbi
    omega

end

/-- The line with the index is in no span of the plan, and not a blank one to squeeze. -/
def DeletionPlan.Keeps (plan : DeletionPlan) (lines : List Text) (index : Nat) : Prop :=
  ¬Covered plan.spans index ∧ ¬(BlankAt lines index ∧ BlankBefore plan.spans lines index)

instance (plan : DeletionPlan) (lines : List Text) (index : Nat) :
    Decidable (plan.Keeps lines index) :=
  inferInstanceAs (Decidable (_ ∧ _))

/-- A line in a span is as if it were not there: what is blank before it stays so behind it. Of the
others those are squeezed that are blank behind a blank line. -/
theorem DeletionPlan.keeps_step (plan : DeletionPlan) {lines : List Text} {index : Nat}
    {line : Text} (h : lines[index]? = some line) :
    (Covered plan.spans index ∧ ¬plan.Keeps lines index ∧
        (BlankBefore plan.spans lines (index + 1) ↔ BlankBefore plan.spans lines index)) ∨
      (¬Covered plan.spans index ∧
        (plan.Keeps lines index ↔
          ¬(isBlank line = true ∧ BlankBefore plan.spans lines index)) ∧
        (BlankBefore plan.spans lines (index + 1) ↔ isBlank line = true)) := by
  have hblank : BlankAt lines index ↔ isBlank line = true := by
    rw [BlankAt, h, Option.any_some]
  by_cases hc : Covered plan.spans index
  · exact Or.inl ⟨hc, fun hk => hk.1 hc, blankBefore_succ_of_covered lines hc⟩
  · right
    rw [blankBefore_succ_of_not_covered lines hc, Keeps, hblank]
    exact ⟨hc, and_iff_right hc, Iff.rfl⟩

/-- What squeezing has to know at an index is whether the last line left before it is blank. -/
theorem squeezeAfter_keptFrom (plan : DeletionPlan) (lines rest : List Text) (index : Nat)
    (h : lines.drop index = rest) :
    squeezeAfter (decide (BlankBefore plan.spans lines index))
        (keptFrom (fun i => ¬Covered plan.spans i) index rest) =
      keptFrom (plan.Keeps lines) index rest := by
  induction rest generalizing index with
  | nil => rfl
  | cons line rest ih =>
    have hline : lines[index]? = some line := by
      rw [← List.head?_drop, h, List.head?_cons]
    have hdrop : lines.drop (index + 1) = rest := by
      rw [← List.tail_drop, h, List.tail_cons]
    have hrest := ih (index + 1) hdrop
    rcases plan.keeps_step hline with ⟨hc, hkeep, hnext⟩ | ⟨hc, hkeep, hnext⟩
    · simp only [hnext] at hrest
      rw [keptFrom_cons_of_neg _ (not_not.mpr hc), keptFrom_cons_of_neg _ hkeep, hrest]
    · simp only [hnext, Bool.decide_eq_true] at hrest
      rw [keptFrom_cons_of_pos _ hc, squeezeAfter]
      by_cases hs : isBlank line = true ∧ BlankBefore plan.spans lines index
      · rw [hs.1] at hrest
        rw [keptFrom_cons_of_neg _ (fun hk => hkeep.mp hk hs), ← hrest]
        simp [hs.1, hs.2]
      · rw [keptFrom_cons_of_pos _ (hkeep.mpr hs), ← hrest]
        simp [hs]

theorem DeletionPlan.delete_eq_keptFrom (plan : DeletionPlan) (lines : List Text) :
    plan.delete lines = keptFrom (fun i => ¬Covered plan.spans i) 0 lines :=
  deleteSpans_eq_keptFrom plan.apart lines

theorem DeletionPlan.apply_eq_keptFrom (plan : DeletionPlan) (lines : List Text) :
    plan.apply lines = keptFrom (plan.Keeps lines) 0 lines := by
  have hfirst : decide (BlankBefore plan.spans lines 0) = false :=
    decide_eq_false (not_blankBefore_zero plan.spans lines)
  have hsqueeze := squeezeAfter_keptFrom plan lines lines 0 (List.drop_zero)
  rw [hfirst] at hsqueeze
  rw [DeletionPlan.apply, squeezeBlanks, plan.delete_eq_keptFrom, hsqueeze]

end DartSweep
