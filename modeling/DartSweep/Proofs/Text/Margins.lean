import DartSweep.Text.Blank
import DartSweep.Text.Search
import DartSweep.Text.Word
import Mathlib.Data.List.Infix

/-!
# Margins

The blank characters at the two ends of a text are its margins. What does not change with a single
blank character at either end does not depend on the margins at all, and is the same for a text and
for the trimmed text.
-/
namespace DartSweep

/-- Blank characters at the two ends of a text have no influence. -/
structure IgnoresMargins {β : Type} (f : Text → β) : Prop where
  left : ∀ {c : Char}, isBlankChar c = true → ∀ t, f (c :: t) = f t
  right : ∀ {c : Char}, isBlankChar c = true → ∀ t, f (t ++ [c]) = f t

def Solid (word : Text) : Prop :=
  word ≠ [] ∧ (word.all fun c => !isBlankChar c) = true

instance (word : Text) : Decidable (Solid word) :=
  inferInstanceAs (Decidable (_ ∧ _ = true))

theorem Solid.not_mem {word : Text} (h : Solid word) {c : Char} (hc : isBlankChar c = true) :
    c ∉ word := by
  intro hm
  have hsolid := List.all_eq_true.mp h.2 c hm
  rw [hc] at hsolid
  exact absurd hsolid (by decide)

section
variable {c : Char} (hc : isBlankChar c = true)
include hc

private theorem trimStart_cons_of_blank (t : Text) : trimStart (c :: t) = trimStart t :=
  List.dropWhile_cons_of_pos hc

theorem trimStart_concat_of_blank (t : Text) :
    trimStart (t ++ [c]) = if (trimStart t).isEmpty then [] else trimStart t ++ [c] := by
  rw [trimStart, List.dropWhile_append, List.dropWhile_cons_of_pos hc]
  rfl

theorem trimEnd_concat_of_blank (t : Text) : trimEnd (t ++ [c]) = trimEnd t := by
  rw [trimEnd, List.reverse_append, List.reverse_singleton, List.singleton_append,
    List.dropWhile_cons_of_pos hc, trimEnd]

private theorem trimEnd_cons_of_blank (t : Text) :
    trimEnd (c :: t) = if (trimEnd t).isEmpty then [] else c :: trimEnd t := by
  have hreverse : trimEnd (c :: t) = (trimStart (t.reverse ++ [c])).reverse := by
    rw [← List.reverse_cons]
    rfl
  have hempty : (trimEnd t).isEmpty = (trimStart t.reverse).isEmpty := List.isEmpty_reverse
  rw [hreverse, trimStart_concat_of_blank hc, hempty]
  split
  · rfl
  · rw [List.reverse_append]
    rfl

private theorem Solid.not_prefix_cons {word : Text} (h : Solid word) (t : Text) :
    ¬word <+: c :: t := by
  intro hp
  obtain ⟨first, rest, rfl⟩ := List.exists_cons_of_ne_nil h.1
  obtain ⟨rfl, -⟩ := List.cons_prefix_cons.mp hp
  exact h.not_mem hc List.mem_cons_self

private theorem Solid.not_suffix_concat {word : Text} (h : Solid word) (t : Text) :
    ¬word <:+ t ++ [c] := by
  intro hs
  rcases List.suffix_concat_iff.mp hs with rfl | ⟨rest, rfl, -⟩
  · exact h.1 rfl
  · exact h.not_mem hc (by simp)

end

theorem trimEnd_sublist (t : Text) : (trimEnd t).Sublist t := by
  have hreverse : (t.reverse.dropWhile isBlankChar).reverse.Sublist t.reverse.reverse :=
    (List.dropWhile_sublist _).reverse
  rwa [List.reverse_reverse] at hreverse

theorem trim_sublist (t : Text) : (trim t).Sublist t :=
  (trimEnd_sublist _).trans (List.dropWhile_sublist _)

namespace IgnoresMargins
variable {β : Type} {f : Text → β} (h : IgnoresMargins f)
include h

private theorem apply_trimStart (t : Text) : f (trimStart t) = f t := by
  induction t with
  | nil => rfl
  | cons c rest ih =>
    cases hc : isBlankChar c with
    | true => rw [trimStart_cons_of_blank hc, ih, h.left hc]
    | false => rw [trimStart, List.dropWhile_cons_of_neg (by simp [hc])]

private theorem apply_trimEnd (t : Text) : f (trimEnd t) = f t := by
  induction t using List.reverseRecOn with
  | nil => rfl
  | append_singleton rest c ih =>
    cases hc : isBlankChar c with
    | true => rw [trimEnd_concat_of_blank hc, ih, h.right hc]
    | false =>
      rw [trimEnd, List.reverse_append, List.reverse_singleton, List.singleton_append,
        List.dropWhile_cons_of_neg (by simp [hc]), List.reverse_cons, List.reverse_reverse]

theorem apply_trim (t : Text) : f (trim t) = f t := by
  rw [trim, h.apply_trimEnd, h.apply_trimStart]

end IgnoresMargins

theorem ignoresMargins_trim : IgnoresMargins trim where
  left hc t := by rw [trim, trimStart_cons_of_blank hc, trim]
  right hc t := by
    rw [trim, trimStart_concat_of_blank hc, trim]
    split
    · rename_i he
      rw [List.isEmpty_iff.mp he]
    · exact trimEnd_concat_of_blank hc _

theorem ignoresMargins_occursIn {needle : Text} (h : Solid needle) :
    IgnoresMargins (occursIn needle) where
  left hc t := by
    rw [Bool.eq_iff_iff, occursIn_iff, occursIn_iff, List.infix_cons_iff]
    exact or_iff_right (h.not_prefix_cons hc t)
  right hc t := by
    rw [Bool.eq_iff_iff, occursIn_iff, occursIn_iff, List.infix_concat_iff]
    exact or_iff_right (h.not_suffix_concat hc t)

theorem ignoresMargins_isSuffixOf {word : Text} (h : Solid word) :
    IgnoresMargins fun line => word.isSuffixOf (trimEnd line) where
  left hc t := by
    rw [trimEnd_cons_of_blank hc]
    split
    · rename_i he
      rw [List.isEmpty_iff.mp he]
    · rw [Bool.eq_iff_iff, List.isSuffixOf_iff_suffix, List.isSuffixOf_iff_suffix,
        List.suffix_cons_iff]
      refine or_iff_right ?_
      intro he
      apply h.not_mem hc
      rw [he]
      exact List.mem_cons_self
  right hc t := by rw [trimEnd_concat_of_blank hc]

theorem isBlank_trim (line : Text) : isBlank (trim line) = isBlank line := by
  rw [Bool.eq_iff_iff, ← trim_eq_nil_iff, ← trim_eq_nil_iff, ignoresMargins_trim.apply_trim]

private theorem CharSet.has_eq_false_of_apart {set other : CharSet} (hs : set.ascends 0 = true)
    (ho : other.ascends 0 = true)
    (h : ∀ range ∈ set, ∀ also ∈ other, range.2 < also.1 ∨ also.2 < range.1) {c : Char}
    (hc : set.has c = true) : other.has c = false := by
  obtain ⟨range, hrange, hlow, hhigh⟩ := (has_iff hs c).mp hc
  rw [Bool.eq_false_iff, Ne, has_iff ho c]
  intro hex
  obtain ⟨also, halso, hlow', hhigh'⟩ := hex
  have hapart := h range hrange also halso
  omega

theorem isWordChar_of_isBlankChar {c : Char} (h : isBlankChar c = true) : isWordChar c = false :=
  CharSet.has_eq_false_of_apart blankChars_ascends wordChars_ascends (by decide +kernel) h

end DartSweep
