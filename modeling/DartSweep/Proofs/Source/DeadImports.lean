import DartSweep.Proofs.Text.Excerpt
import DartSweep.Source.Imports

/-!
# Sources without dead imports

Dropping the dead imports of a source leaves lines with none of the texts, and a source of such
lines is left as it is.
-/
namespace DartSweep

theorem isDeadImport_eq_false_iff (dead : List Text) (line : Text) :
    isDeadImport dead line = false ↔ ∀ needle ∈ dead, ¬needle <:+: line := by
  rw [isDeadImport, List.any_eq_false]
  simp only [occursIn_iff]

@[simp] theorem isDeadImport_nil (line : Text) : isDeadImport [] line = false :=
  rfl

/-- Dropping imports is filtering lines also when there are no texts to look for. -/
theorem dropImports_eq (dead : List Text) (source : Text) :
    dropImports dead source =
      joinLines ((splitLines source).filter fun line => !isDeadImport dead line) := by
  rw [dropImports]
  cases dead with
  | nil => simp
  | cons needle dead => rfl

theorem excerpt_dropImports (dead : List Text) (source : Text) :
    Excerpt (dropImports dead source) source := by
  rw [dropImports_eq]
  exact ⟨_, List.filter_sublist, rfl⟩

@[simp] theorem dropImports_empty (dead : List Text) : dropImports dead [] = [] :=
  (excerpt_dropImports dead []).eq_nil

theorem dropImports_of_live {dead : List Text} {source : Text}
    (h : ∀ line ∈ splitLines source, isDeadImport dead line = false) :
    dropImports dead source = source := by
  have hall : ((splitLines source).filter fun line => !isDeadImport dead line) =
      splitLines source := by
    apply List.filter_eq_self.mpr
    intro line hl
    rw [h line hl]
    rfl
  rw [dropImports_eq, hall, joinLines_splitLines]

theorem live_dropImports (dead : List Text) (source : Text) :
    dropImports dead source = [] ∨
      ∀ line ∈ splitLines (dropImports dead source), isDeadImport dead line = false := by
  let kept := (splitLines source).filter fun line => !isDeadImport dead line
  have hd : dropImports dead source = joinLines kept := dropImports_eq dead source
  by_cases hne : kept = []
  · left
    rw [hd, hne]
    rfl
  · right
    intro line hl
    rw [hd, splitLines_joinLines_of_sublist List.filter_sublist hne] at hl
    have hlive := (List.mem_filter.mp hl).2
    simpa using hlive

end DartSweep
