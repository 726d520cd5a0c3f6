import DartSweep.Proofs.Getter.Lookahead
import DartSweep.Proofs.Source.Outcome

/-!
# Pruned sources

A pruned source has no dead import left, and no marker in it is followed by its getter. Pruning it
again changes nothing.
-/
namespace DartSweep

private theorem live_sweepSource (settings : Settings) (source : Text) :
    (sweepSource settings source).content = [] ∨
      ∀ line ∈ splitLines (sweepSource settings source).content,
        isDeadImport settings.deadImports line = false :=
  (excerpt_sweep _).forall_mem (live_dropImports settings.deadImports source)

private theorem dropImports_sweepSource (settings : Settings) (source : Text) :
    dropImports settings.deadImports (sweepSource settings source).content =
      (sweepSource settings source).content := by
  rcases live_sweepSource settings source with he | hlive
  · rw [he, dropImports_empty]
  · exact dropImports_of_live hlive

private theorem sweepSource_sweepSource {settings : Settings} {source : Text}
    (h : (sweepSource settings source).fault = none) :
    sweepSource settings (sweepSource settings source).content =
      ⟨[], (sweepSource settings source).content, none⟩ := by
  rw [sweepSource, dropImports_sweepSource]
  exact sweep_of_clean (findGetters_sweep h)

theorem prune_content {settings : Settings} {source : Text} {pruned : Pruned}
    (h : prune settings source = .ok pruned) :
    prune settings pruned.content = .ok ⟨pruned.content, 0⟩ := by
  obtain ⟨hf, rfl, -⟩ := (prune_eq_ok_iff settings source pruned).mp h
  rw [prune_eq_ok_iff, sweepSource_sweepSource hf]
  exact ⟨rfl, rfl, Or.inl rfl⟩

private theorem strayAt_sweepSource {settings : Settings} {source : Text}
    (h : (sweepSource settings source).fault = none) (index : Nat) :
    StrayAt (splitLines (sweepSource settings source).content) index :=
  (findGetters_eq_nil_iff _).mp (findGetters_sweep h) index

/-- Pruning is idempotent. What it leaves is empty or free of dead imports, and the line that a
look-ahead from a marker stops at is not the marker's signature. -/
theorem prune_idempotent {settings : Settings} {source : Text} {pruned : Pruned}
    (h : prune settings source = .ok pruned) :
    prune settings pruned.content = .ok ⟨pruned.content, 0⟩ ∧
      (pruned.content = [] ∨ ∀ line ∈ splitLines pruned.content,
        ∀ needle ∈ settings.deadImports, ¬needle <:+: line) ∧
      ∀ index marker, markerAt? (splitLines pruned.content) index = some marker →
        ∀ line, firstCode? ((splitLines pruned.content).drop (index + 1)) = some line →
          marker.isSignature line = false := by
  obtain ⟨hf, rfl, -⟩ := (prune_eq_ok_iff settings source pruned).mp h
  dsimp only
  refine ⟨?_, ?_, ?_⟩
  · have hagain := sweepSource_sweepSource hf
    rw [prune_eq_ok_iff, hagain]
    exact ⟨rfl, rfl, Or.inl rfl⟩
  · rcases live_sweepSource settings source with he | hlive
    · exact Or.inl he
    · right
      intro line hl
      exact (isDeadImport_eq_false_iff _ line).mp (hlive line hl)
  · intro index
    exact (strayAt_iff _ index).mp (strayAt_sweepSource hf index)

theorem prune_idempotent_stacked :
    prune importless stackedSource = .ok ⟨joinLines stackedLeft, 2⟩ ∧
      prune importless (joinLines stackedLeft) = .ok ⟨joinLines stackedLeft, 0⟩ ∧
      markerAt? (splitLines (joinLines stackedLeft)) 2 = some .displayType ∧
      firstCode? ((splitLines (joinLines stackedLeft)).drop 3) = some "int x;".toList ∧
      Marker.displayType.isSignature "int x;".toList = false := by
  have hmarker : markerAt? (splitLines (joinLines stackedLeft)) 2 = some .displayType := by
    rw [splitLines_stackedLeft]
    rfl
  have hcode : firstCode? ((splitLines (joinLines stackedLeft)).drop 3) =
      some "int x;".toList := by
    rw [splitLines_stackedLeft]
    rfl
  obtain ⟨hagain, -, hstray⟩ := prune_idempotent prune_stacked
  exact ⟨prune_stacked, hagain, hmarker, hcode, hstray 2 _ hmarker _ hcode⟩

end DartSweep
