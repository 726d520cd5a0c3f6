import DartSweep.Text.Basic
import Mathlib.Data.List.Basic

/-!
# Numbered lines

Lines that are left of a text keep the numbers they had in it. The numbers ascend, and the one of a
line is its place among the lines left, moved by the lines before it that are missing.
-/
namespace DartSweep

variable {lines : List Text} {entries : List (Text × Nat)}

private theorem pairwise_zipIdx (lines : List Text) (first : Nat) :
    (lines.zipIdx first).Pairwise fun entry later => entry.2 < later.2 := by
  rw [← List.pairwise_map (f := Prod.snd) (R := (· < ·)), List.zipIdx_map_snd]
  exact List.pairwise_lt_range'

theorem getElem?_of_entry (h : entries.Sublist lines.zipIdx) {index number : Nat} {line : Text}
    (hi : entries[index]? = some (line, number)) : lines[number]? = some line :=
  List.mem_zipIdx_iff_getElem?.mp (h.mem (List.mem_of_getElem? hi))

theorem number_lt (h : entries.Sublist lines.zipIdx) {index later : Nat} {entry next : Text × Nat}
    (hi : entries[index]? = some entry) (hn : entries[later]? = some next) (hlt : index < later) :
    entry.2 < next.2 := by
  have hp := (pairwise_zipIdx lines 0).sublist h
  obtain ⟨hb, rfl⟩ := List.getElem?_eq_some_iff.mp hi
  obtain ⟨hb', rfl⟩ := List.getElem?_eq_some_iff.mp hn
  exact List.pairwise_iff_getElem.mp hp index later hb hb' hlt

theorem number_lt_iff (h : entries.Sublist lines.zipIdx) {index later : Nat}
    {entry next : Text × Nat} (hi : entries[index]? = some entry)
    (hn : entries[later]? = some next) : index < later ↔ entry.2 < next.2 := by
  constructor
  · exact number_lt h hi hn
  · intro hlt
    by_contra hle
    rcases Nat.lt_or_eq_of_le (Nat.le_of_not_lt hle) with hgt | rfl
    · have hback := number_lt h hn hi hgt
      omega
    · have he : entry = next := Option.some.inj (hi.symm.trans hn)
      rw [he] at hlt
      omega

private theorem countP_number_lt {index : Nat} {entry : Text × Nat}
    (hp : entries.Pairwise fun entry later => entry.2 < later.2)
    (hi : entries[index]? = some entry) :
    entries.countP (fun other => other.2 < entry.2) = index := by
  induction entries generalizing index with
  | nil => simp at hi
  | cons first rest ih =>
    obtain ⟨hfirst, hrest⟩ := List.pairwise_cons.mp hp
    cases index with
    | zero =>
      have he : first = entry := by simpa using hi
      subst he
      have hnone : ∀ other ∈ rest, ¬other.2 < first.2 := fun other hm => by
        have hlt := hfirst other hm
        omega
      simpa [List.countP_eq_zero] using hnone
    | succ index =>
      have hlt := hfirst entry (List.mem_of_getElem? (by simpa using hi))
      rw [List.countP_cons_of_pos (by simpa using hlt), ih hrest (by simpa using hi)]

/-- A number exceeds the place among the lines left by the missing lines before it. -/
theorem number_eq (h : entries.Sublist lines.zipIdx) {index : Nat} {entry : Text × Nat}
    (hi : entries[index]? = some entry) :
    entry.2 = index + ((lines.zipIdx.filter fun other => other ∉ entries).countP
      fun other => other.2 < entry.2) := by
  have hp := pairwise_zipIdx lines 0
  have hline := List.mem_zipIdx_iff_getElem?.mp (h.mem (List.mem_of_getElem? hi))
  have hwhole : lines.zipIdx[entry.2]? = some entry := by
    rw [List.getElem?_zipIdx, hline, Nat.zero_add]
    rfl
  have hnodup : lines.zipIdx.Nodup := hp.imp fun hlt he => by simp [he] at hlt
  have hleft : (lines.zipIdx.filter fun other => other ∈ entries).Perm entries := by
    apply (List.perm_ext_iff_of_nodup (hnodup.filter _) (hnodup.sublist h)).mpr
    intro other
    rw [List.mem_filter, decide_eq_true_iff]
    exact ⟨fun hm => hm.2, fun hm => ⟨h.mem hm, hm⟩⟩
  have hall := countP_number_lt hp hwhole
  rw [List.countP_eq_countP_filter_add _ _ (fun other => decide (other ∈ entries)),
    hleft.countP_eq, countP_number_lt (hp.sublist h) hi] at hall
  simpa using hall.symm

end DartSweep
