import DartSweep.Text.Lines
import DartSweep.Text.Search
import Mathlib.Algebra.GroupWithZero.Nat
import Mathlib.Algebra.Order.BigOperators.Group.List
import Mathlib.Algebra.Order.Group.Nat

/-!
# Occurrences on lines

A text without a separator has no occurrence across one, so the occurrences in joined fields are
those in the single fields. Counting starts afresh behind every separator, wherever the last
occurrence before it ended.
-/
namespace DartSweep

private theorem isPrefixOf_append_sep {sep : Char} {needle : Text} (hn : sep ∉ needle)
    (field rest : Text) :
    needle.isPrefixOf (field ++ sep :: rest) = needle.isPrefixOf field := by
  induction needle generalizing field with
  | nil => simp
  | cons c needle ih =>
    have hc : (c == sep) = false := by
      apply beq_eq_false_iff_ne.mpr
      intro he
      exact hn (by simp [he])
    have hrest : sep ∉ needle := fun h => hn (List.mem_cons_of_mem _ h)
    cases field with
    | nil => simp [List.isPrefixOf, hc]
    | cons d field => simp [List.isPrefixOf, ih hrest field]

private theorem length_le_of_isPrefixOf {needle t : Text} (h : needle.isPrefixOf t = true) :
    needle.length ≤ t.length :=
  (List.isPrefixOf_iff_prefix.mp h).length_le

private theorem countAfter_append_sep {sep : Char} {needle : Text} (hne : needle ≠ [])
    (hn : sep ∉ needle) {passed : Nat} {field : Text} (hp : passed ≤ field.length) (rest : Text) :
    countAfter needle passed (field ++ sep :: rest) =
      countAfter needle passed field + countAfter needle 0 rest := by
  induction field generalizing passed with
  | nil =>
    have hzero : passed = 0 := Nat.le_zero.mp hp
    have hprefix := isPrefixOf_append_sep hn [] rest
    have hnil : needle.isPrefixOf [] = false := by
      cases needle with
      | nil => exact absurd rfl hne
      | cons c needle => rfl
    rw [hnil, List.nil_append] at hprefix
    have hstep : countAfter needle 0 (sep :: rest) = countAfter needle 0 rest := by
      rw [countAfter, hprefix]
      rfl
    rw [hzero, List.nil_append, hstep, countAfter, Nat.zero_add]
  | cons c field ih =>
    cases passed with
    | succ passed =>
      have hpassed : passed ≤ field.length := Nat.le_of_succ_le_succ hp
      rw [List.cons_append, countAfter, countAfter]
      exact ih hpassed
    | zero =>
      have hprefix := isPrefixOf_append_sep hn (c :: field) rest
      rw [List.cons_append] at hprefix ⊢
      rw [countAfter, countAfter, hprefix]
      by_cases hm : needle.isPrefixOf (c :: field) = true
      · have hlength := length_le_of_isPrefixOf hm
        rw [List.length_cons] at hlength
        have hcount := @ih (needle.length - 1) (by omega)
        rw [if_pos hm, if_pos hm, hcount]
        omega
      · rw [if_neg hm, if_neg hm]
        exact ih (Nat.zero_le _)

private theorem occurrences_join {sep : Char} {needle : Text} (hne : needle ≠ [])
    (hn : sep ∉ needle) (fields : List Text) :
    occurrences needle (join sep fields) = (fields.map (occurrences needle)).sum := by
  have hempty : needle.isEmpty = false := by simpa using hne
  have hcount (t : Text) : occurrences needle t = countAfter needle 0 t := by
    simp [occurrences, hempty]
  induction fields with
  | nil =>
    rw [hcount]
    rfl
  | cons field fields ih =>
    by_cases hf : fields = []
    · rw [hf]
      simp [join]
    · rw [join_cons sep field hf, hcount, countAfter_append_sep hne hn (Nat.zero_le _),
        ← hcount, ← hcount, ih, List.map_cons, List.sum_cons]

theorem occurrences_joinLines {needle : Text} (hne : needle ≠ []) (hn : '\n' ∉ needle)
    (lines : List Text) :
    occurrences needle (joinLines lines) = (lines.map (occurrences needle)).sum :=
  occurrences_join hne hn lines

theorem occurrences_pos_iff {needle : Text} (hne : needle ≠ []) (t : Text) :
    0 < occurrences needle t ↔ occursIn needle t = true := by
  have hempty : needle.isEmpty = false := by simpa using hne
  rw [occurrences, hempty, if_neg Bool.false_ne_true]
  induction t with
  | nil => simp [countAfter, occursIn, hempty]
  | cons c rest ih =>
    rw [countAfter, occursIn]
    by_cases hm : needle.isPrefixOf (c :: rest) = true
    · simp [hm]
    · simp [hm, ih]

/-- Leaving elements out keeps a sum only if nothing that counts is left out. -/
theorem filter_pos_eq_of_sum_eq {α : Type} {f : α → Nat} {part whole : List α}
    (h : part.Sublist whole) (hs : (part.map f).sum = (whole.map f).sum) :
    part.filter (fun x => 0 < f x) = whole.filter (fun x => 0 < f x) := by
  induction h with
  | slnil => rfl
  | @cons part whole x h ih =>
    have hle : (part.map f).sum ≤ (whole.map f).sum := (h.map f).sum_le_sum (by simp)
    rw [List.map_cons, List.sum_cons] at hs
    have hx : f x = 0 := by omega
    rw [ih (by omega), List.filter_cons]
    simp [hx]
  | @cons_cons part whole x h ih =>
    rw [List.map_cons, List.map_cons, List.sum_cons, List.sum_cons] at hs
    rw [List.filter_cons, List.filter_cons, ih (by omega)]

end DartSweep
