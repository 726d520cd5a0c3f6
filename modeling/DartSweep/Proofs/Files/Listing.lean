import DartSweep.Proofs.Files.Tree
import Mathlib.Data.List.Nodup
import Mathlib.Data.List.Sort

/-!
# Listing a directory

Names are proper and no location is there twice, so a directory that can be listed lists each of its
entries once, in the order of the names.
-/
namespace DartSweep

/-! ### The order of names -/

private theorem lt_of_compare_eq_lt {name other : Name} (h : compare name other = .lt) :
    name < other := by
  induction name generalizing other with
  | nil =>
    cases other with
    | nil => simp at h
    | cons d other => exact List.nil_lt_cons d other
  | cons c name ih =>
    cases other with
    | nil => simp at h
    | cons d other =>
      rw [List.compare_eq_compareLex, List.compareLex_cons_cons, Ordering.then_eq_lt,
        ← List.compare_eq_compareLex] at h
      rw [List.cons_lt_cons_iff]
      rcases h with hc | ⟨hc, hrest⟩
      · exact Or.inl (compareOfLessAndEq_eq_lt.mp hc)
      · exact Or.inr ⟨Std.compare_eq_iff_eq.mp hc, ih hrest⟩

private theorem lt_of_isLE_singleton {name other : Name}
    (hle : (compare [name] [other]).isLE = true) (hne : name ≠ other) : name < other := by
  have hcompare : compare [name] [other] = compare name other := by
    rw [List.compare_eq_compareLex, List.compareLex_cons_cons, List.compareLex_nil_nil,
      Ordering.then_eq]
  rw [hcompare, Ordering.isLE_iff_eq_lt_or_eq_eq, Std.compare_eq_iff_eq] at hle
  exact lt_of_compare_eq_lt (hle.resolve_right hne)

section
variable {α : Type} [Ord α]

private theorem inOrder_perm (items : List α) : (inOrder items).Perm items :=
  List.mergeSort_perm items _

private theorem pairwise_inOrder [Std.TransOrd α] (items : List α) :
    (inOrder items).Pairwise fun item later => (compare item later).isLE = true := by
  apply List.pairwise_mergeSort
  · intro item later last hle hle'
    exact Std.TransOrd.isLE_trans hle hle'
  · intro item later
    rw [Bool.or_eq_true]
    by_cases h : (compare item later).isLE = true
    · exact Or.inl h
    · have hlt : compare later item = .lt := Std.OrientedCmp.lt_of_not_isLE h
      exact Or.inr (by rw [hlt, Ordering.isLE_lt])

end

namespace FileSystem
variable {fs : FileSystem} {location rest : Location} {name : Name}

theorem mem_locations_of_node? {node : Node} (hne : location ≠ [])
    (h : fs.node? location = some node) : location ∈ fs.nodes.map Prod.fst := by
  rw [node?, if_neg hne] at h
  obtain ⟨before, after, hnodes, -⟩ := List.lookup_eq_some_iff.mp h
  simp [hnodes]

theorem isName_of_node? {node : Node} (h : fs.node? (location ++ [name]) = some node) :
    IsName name :=
  fs.proper _ (mem_locations_of_node? (by simp) h) name (by simp)

private theorem mem_descendants_iff :
    rest ∈ fs.descendants location ↔ rest ≠ [] ∧ location ++ rest ∈ fs.nodes.map Prod.fst ∧
      fs.lists location rest = true := by
  rw [descendants_eq_inOrder, (inOrder_perm _).mem_iff, List.mem_filterMap]
  simp only [Option.filter_eq_some_iff, List.isPrefixOf?_eq_some_iff_append_eq, Bool.and_eq_true,
    Bool.not_eq_true', List.isEmpty_eq_false_iff]
  constructor
  · rintro ⟨place, hplace, rfl, hne, hlists⟩
    exact ⟨hne, hplace, hlists⟩
  · rintro ⟨hne, hplace, hlists⟩
    exact ⟨_, hplace, rfl, hne, hlists⟩

private theorem names_eq (fs : FileSystem) (location : Location) :
    fs.names location =
      (fs.descendants location).filterMap fun rest =>
        rest.head?.filter fun name => rest = [name] := by
  rw [names]
  congr 1
  funext rest
  rcases rest with - | ⟨name, - | ⟨next, more⟩⟩ <;> simp [Option.filter]

theorem mem_names_iff : name ∈ fs.names location ↔
    location ++ [name] ∈ fs.nodes.map Prod.fst ∧ fs.refusal? location = none := by
  have hname : name ∈ fs.names location ↔ [name] ∈ fs.descendants location := by
    rw [names_eq, List.mem_filterMap]
    simp only [Option.filter_eq_some_iff, decide_eq_true_eq]
    constructor
    · rintro ⟨rest, hrest, -, rfl⟩
      exact hrest
    · intro h
      exact ⟨[name], h, rfl, rfl⟩
  rw [hname, mem_descendants_iff, and_iff_right (List.cons_ne_nil name [])]
  simp [lists]

variable (fs location)

private theorem nodup_descendants : (fs.descendants location).Nodup := by
  rw [descendants_eq_inOrder, (inOrder_perm _).nodup_iff]
  refine fs.nodup.filterMap fun place other rest hplace hother => ?_
  simp only [Option.mem_def, Option.filter_eq_some_iff,
    List.isPrefixOf?_eq_some_iff_append_eq] at hplace hother
  exact hplace.1.symm.trans hother.1

theorem pairwise_names : (fs.names location).Pairwise (· < ·) := by
  have hsorted : (fs.descendants location).Pairwise fun rest later =>
      (compare rest later).isLE = true := by
    rw [descendants_eq_inOrder]
    exact pairwise_inOrder _
  rw [names_eq, List.pairwise_filterMap]
  refine (hsorted.and (fs.nodup_descendants location)).imp ?_
  simp only [Option.filter_eq_some_iff, decide_eq_true_eq]
  rintro rest later ⟨hle, hne⟩ name ⟨-, rfl⟩ next ⟨-, rfl⟩
  exact lt_of_isLE_singleton hle fun he => hne (by rw [he])

variable {fs location} in
/-- No other ascending list has the names of a directory's entries. -/
theorem names_eq_of_pairwise {names : List Name} (hsorted : names.Pairwise (· < ·))
    (h : ∀ name, name ∈ names ↔
      location ++ [name] ∈ fs.nodes.map Prod.fst ∧ fs.refusal? location = none) :
    fs.names location = names :=
  (fs.pairwise_names location).eq_of_mem_iff hsorted fun name => mem_names_iff.trans (h name).symm

end FileSystem
end DartSweep
