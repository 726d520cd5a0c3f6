import DartSweep.Files.Path
import DartSweep.Proofs.Edit.Survivors

/-!
# First spellings

Of the paths with the same components only the first is kept. Every path is represented among those
that are kept, and no two of these have the same components.
-/
namespace DartSweep.Path

/-- No path before the index has the components of the path there. -/
def IsFirst (paths : List Path) (index : Nat) : Prop :=
  ∀ path ∈ paths[index]?, ∀ earlier ∈ paths.take index, earlier.components ≠ path.components

instance (paths : List Path) : DecidablePred (IsFirst paths) := fun index =>
  inferInstanceAs (Decidable (∀ path ∈ paths[index]?, ∀ earlier ∈ paths.take index,
    earlier.components ≠ path.components))

private theorem distinctFrom_eq_keptFrom {seen : List (List Component)} {paths rest : List Path}
    {index : Nat} (hrest : paths.drop index = rest)
    (hseen : ∀ parts, parts ∈ seen ↔ parts ∈ (paths.take index).map components) :
    distinctFrom seen rest = keptFrom (IsFirst paths) index rest := by
  induction rest generalizing seen index with
  | nil => rfl
  | cons path rest ih =>
    have hpath : paths[index]? = some path := by
      rw [← List.head?_drop, hrest, List.head?_cons]
    have hdrop : paths.drop (index + 1) = rest := by
      rw [← List.tail_drop, hrest, List.tail_cons]
    have htake : paths.take (index + 1) = paths.take index ++ [path] := by
      rw [List.take_add_one, hpath, Option.toList_some]
    have hfirst : IsFirst paths index ↔ components path ∉ seen := by
      simp only [IsFirst, hpath, Option.mem_some_iff, forall_eq', hseen, List.mem_map, not_exists,
        not_and]
    rw [distinctFrom]
    by_cases hm : components path ∈ seen
    · rw [if_pos hm, keptFrom_cons_of_neg _ (fun hf => hfirst.mp hf hm)]
      apply ih hdrop
      intro parts
      rw [htake, List.map_append, List.mem_append, ← hseen, List.map_singleton,
        List.mem_singleton]
      exact ⟨Or.inl, fun h => h.elim id fun he => he ▸ hm⟩
    · rw [if_neg hm, keptFrom_cons_of_pos _ (hfirst.mpr hm)]
      congr 1
      apply ih hdrop
      intro parts
      rw [htake, List.map_append, List.mem_append, ← hseen, List.map_singleton,
        List.mem_singleton, List.mem_cons]
      exact or_comm

theorem distinct_eq_keptFrom (paths : List Path) :
    distinct paths = keptFrom (IsFirst paths) 0 paths :=
  distinctFrom_eq_keptFrom List.drop_zero (by simp)

theorem distinct_sublist (paths : List Path) : (distinct paths).Sublist paths := by
  rw [distinct_eq_keptFrom]
  exact keptFrom_sublist _ 0 paths

private theorem exists_mem_distinctFrom {seen : List (List Component)} {paths : List Path}
    {path : Path} (h : path ∈ paths) : components path ∈ seen ∨
      ∃ first ∈ distinctFrom seen paths, first.components = path.components := by
  induction paths generalizing seen with
  | nil => simp at h
  | cons other rest ih =>
    rw [distinctFrom]
    by_cases hm : components other ∈ seen
    · rw [if_pos hm]
      rcases List.mem_cons.mp h with rfl | h
      · exact Or.inl hm
      · exact ih h
    · rw [if_neg hm]
      rcases List.mem_cons.mp h with rfl | h
      · exact Or.inr ⟨path, List.mem_cons_self, rfl⟩
      · rcases @ih (components other :: seen) h with hs | ⟨first, hfirst, hc⟩
        · rcases List.mem_cons.mp hs with he | hs
          · exact Or.inr ⟨other, List.mem_cons_self, he.symm⟩
          · exact Or.inl hs
        · exact Or.inr ⟨first, List.mem_cons_of_mem _ hfirst, hc⟩

theorem exists_mem_distinct {paths : List Path} {path : Path} (h : path ∈ paths) :
    ∃ first ∈ distinct paths, first.components = path.components :=
  (exists_mem_distinctFrom h).resolve_left List.not_mem_nil

private theorem not_seen_of_mem_distinctFrom {seen : List (List Component)} {paths : List Path}
    {path : Path} (h : path ∈ distinctFrom seen paths) : components path ∉ seen := by
  induction paths generalizing seen with
  | nil => simp [distinctFrom] at h
  | cons other rest ih =>
    rw [distinctFrom] at h
    by_cases hm : components other ∈ seen
    · rw [if_pos hm] at h
      exact ih h
    · rw [if_neg hm] at h
      rcases List.mem_cons.mp h with rfl | h
      · exact hm
      · exact fun hs => ih h (List.mem_cons_of_mem _ hs)

private theorem pairwise_distinctFrom (seen : List (List Component)) (paths : List Path) :
    (distinctFrom seen paths).Pairwise fun path other => path.components ≠ other.components := by
  induction paths generalizing seen with
  | nil => exact List.Pairwise.nil
  | cons path rest ih =>
    rw [distinctFrom]
    by_cases hm : components path ∈ seen
    · rw [if_pos hm]
      exact ih seen
    · rw [if_neg hm, List.pairwise_cons]
      refine ⟨fun other ho he => ?_, ih _⟩
      exact not_seen_of_mem_distinctFrom ho (by simp [he])

theorem pairwise_distinct (paths : List Path) :
    (distinct paths).Pairwise fun path other => path.components ≠ other.components :=
  pairwise_distinctFrom [] paths

end DartSweep.Path
