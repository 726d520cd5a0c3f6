import DartSweep.Proofs.Command.Expansion
import DartSweep.Proofs.Files.Distinct
import DartSweep.Proofs.Files.Spelling

/-!
# What arguments contribute

An expansion puts the contributions of its arguments together in their order and keeps the first
spelling of every path. An argument contributes other paths than itself only if they lead to files.
-/
namespace DartSweep

section
variable {α β ε : Type} {f : α → Except ε (List β)} {items : List α} {results : List (List β)}

theorem mem_flatten_iff (h : List.Forall₂ (fun item result => f item = .ok result) items results)
    (x : β) : x ∈ results.flatten ↔
      ∃ item ∈ items, ∃ result, f item = .ok result ∧ x ∈ result := by
  induction h with
  | nil => simp
  | @cons first result rest others hf h ih =>
    rw [List.flatten_cons, List.mem_append, ih]
    simp [hf]

end

section
variable {fs : FileSystem} {argument : Path} {arguments paths : List Path}

theorem expand_eq_ok (h : expand fs arguments = .ok paths) :
    ∃ contributions, List.Forall₂ (fun argument contributed =>
      contribution fs argument = .ok contributed) arguments contributions ∧
        paths = Path.distinct contributions.flatten := by
  rw [expand] at h
  cases hm : arguments.mapM (contribution fs) with
  | error error => simp [hm, Except.map] at h
  | ok contributions =>
    rw [hm] at h
    exact ⟨contributions, forall₂_of_mapM hm, (Except.ok.inj h).symm⟩

theorem contribution_of_plain (hd : fs.isDirectory argument = false)
    (hplain : '*' ∉ argument ∧ '?' ∉ argument ∧ '[' ∉ argument) :
    contribution fs argument = .ok [argument] := by
  have hg : isGlob argument = false := by
    rw [Bool.eq_false_iff, ne_eq, isGlob_iff, not_or, not_or]
    exact hplain
  rw [contribution, hd, hg]
  rfl

theorem isFile_of_contribution (h : contribution fs argument = .ok paths) {path : Path}
    (hp : path ∈ paths) : fs.isFile path = true ∨ path = argument := by
  rw [contribution] at h
  split at h
  · split at h
    · simp at h
    · obtain rfl := Except.ok.inj h
      have hfile := (List.mem_filter.mp hp).2
      exact Or.inl (Bool.and_elim_left hfile)
  · split at h
    · obtain rfl := Except.ok.inj h
      exact Or.inr (List.mem_singleton.mp hp)
    · split at h
      · simp at h
      · obtain rfl := Except.ok.inj h
        exact Or.inl (List.mem_filter.mp hp).2

end
end DartSweep
