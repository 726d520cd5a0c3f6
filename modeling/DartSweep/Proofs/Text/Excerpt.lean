import DartSweep.Text.Lines
import Mathlib.Data.List.Basic

/-!
# Excerpts

An excerpt of a source is made of some of its lines, in their order and unaltered. The empty text
is an excerpt of every source, because no lines at all join to it; its only line need not be one
of the source's.
-/
namespace DartSweep

/-- The text joins some of the source's lines, in their order. -/
def Excerpt (content source : Text) : Prop :=
  ∃ lines : List Text, lines.Sublist (splitLines source) ∧ content = joinLines lines

theorem splitLines_joinLines_of_sublist {source : Text} {lines : List Text}
    (h : lines.Sublist (splitLines source)) (hne : lines ≠ []) :
    splitLines (joinLines lines) = lines := by
  apply splitLines_joinLines hne
  intro line hl
  exact not_mem_of_mem_split (h.mem hl)

private theorem join_sublist (sep : Char) {fields others : List Text} (h : fields.Sublist others) :
    (join sep fields).Sublist (join sep others) := by
  induction h with
  | slnil => exact List.Sublist.refl _
  | @cons fields others field h ih =>
    by_cases hne : others = []
    · rw [hne] at h
      rw [List.sublist_nil.mp h]
      exact List.nil_sublist _
    · rw [join_cons sep field hne]
      exact (ih.cons sep).trans (List.sublist_append_right _ _)
  | @cons_cons fields others field h ih =>
    by_cases hne : fields = []
    · rw [hne]
      by_cases hne' : others = []
      · rw [hne']
      · rw [join_cons sep field hne']
        exact List.sublist_append_left _ _
    · have hne' : others ≠ [] := by
        intro he
        rw [he] at h
        exact hne (List.sublist_nil.mp h)
      rw [join_cons sep field hne, join_cons sep field hne']
      exact (List.Sublist.refl _).append (ih.cons_cons sep)

/-- Reading joined lines again can only add an empty line. -/
theorem filter_splitLines_joinLines {p : Text → Bool} (hp : p [] = false) {source : Text}
    {lines : List Text} (h : lines.Sublist (splitLines source)) :
    (splitLines (joinLines lines)).filter p = lines.filter p := by
  by_cases hne : lines = []
  · have hsplit : splitLines (joinLines []) = [[]] := rfl
    rw [hne, hsplit, List.filter_cons, hp]
    rfl
  · rw [splitLines_joinLines_of_sublist h hne]

namespace Excerpt

theorem refl (source : Text) : Excerpt source source :=
  ⟨splitLines source, List.Sublist.refl _, (joinLines_splitLines source).symm⟩

theorem nil (source : Text) : Excerpt [] source :=
  ⟨[], List.nil_sublist _, rfl⟩

/-- The lines of an excerpt are lines of the source, unless the excerpt is empty. -/
theorem eq_nil_or_sublist {content source : Text} (h : Excerpt content source) :
    content = [] ∨ (splitLines content).Sublist (splitLines source) := by
  obtain ⟨lines, hs, rfl⟩ := h
  by_cases hne : lines = []
  · left
    rw [hne]
    rfl
  · right
    rw [splitLines_joinLines_of_sublist hs hne]
    exact hs

theorem sublist {content source : Text} (h : Excerpt content source) :
    content.Sublist source := by
  obtain ⟨lines, hs, rfl⟩ := h
  conv => rhs; rw [← joinLines_splitLines source]
  exact join_sublist '\n' hs

/-- An excerpt with another text than its source has fewer characters. -/
theorem eq_or_length_lt {content source : Text} (h : Excerpt content source) :
    content = source ∨ content.length < source.length := by
  by_cases hl : content.length < source.length
  · exact Or.inr hl
  · exact Or.inl (h.sublist.eq_of_length_le (Nat.le_of_not_lt hl))

theorem eq_nil {content : Text} (h : Excerpt content []) : content = [] := by
  obtain ⟨lines, hl, rfl⟩ := h
  have hs : lines.Sublist [[]] := hl
  rcases List.sublist_singleton.mp hs with rfl | rfl <;> rfl

theorem trans {content middle source : Text} (h : Excerpt content middle)
    (h' : Excerpt middle source) : Excerpt content source := by
  rcases h.eq_nil_or_sublist with rfl | hs
  · exact nil source
  · rcases h'.eq_nil_or_sublist with rfl | hs'
    · rw [h.eq_nil]
      exact nil source
    · exact ⟨splitLines content, hs.trans hs', (joinLines_splitLines content).symm⟩

/-- What all lines of a source have in common, those of its excerpts share. -/
theorem forall_mem {content source : Text} {p : Text → Prop} (h : Excerpt content source)
    (hp : source = [] ∨ ∀ line ∈ splitLines source, p line) :
    content = [] ∨ ∀ line ∈ splitLines content, p line := by
  rcases hp with rfl | hp
  · exact Or.inl h.eq_nil
  · rcases h.eq_nil_or_sublist with he | hs
    · exact Or.inl he
    · right
      intro line hl
      exact hp line (hs.mem hl)

end Excerpt
end DartSweep
