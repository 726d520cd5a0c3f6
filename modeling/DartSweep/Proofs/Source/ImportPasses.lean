import DartSweep.Proofs.Source.DeadImports

/-!
# Passes over the imports

Dropping imports pass by pass is dropping them at once with the texts of all passes. A pass that
leaves no line makes no exception: the next one reads one empty line, and whether it drops that line
or not, the text stays empty.
-/
namespace DartSweep

section
variable {dead others : List Text} {source line : Text}

private theorem isDeadImport_append (dead others : List Text) (line : Text) :
    isDeadImport (dead ++ others) line = (isDeadImport dead line || isDeadImport others line) :=
  List.any_append

private theorem isDeadImport_eq_of_mem_iff (h : ∀ needle, needle ∈ others ↔ needle ∈ dead)
    (line : Text) : isDeadImport others line = isDeadImport dead line := by
  rw [Bool.eq_iff_iff]
  simp [isDeadImport, h]

/-- A text with a line feed stands on no line. -/
theorem isDeadImport_filter (hl : '\n' ∉ line) (dead : List Text) :
    isDeadImport (dead.filter fun needle => '\n' ∉ needle) line = isDeadImport dead line := by
  have hneedle (needle : Text) (ho : occursIn needle line = true) : '\n' ∉ needle :=
    fun hm => hl (((occursIn_iff needle line).mp ho).subset hm)
  rw [isDeadImport, isDeadImport, List.any_filter]
  congr 1
  funext needle
  cases ho : occursIn needle line with
  | false => simp
  | true => simp [hneedle needle ho]

private theorem dropImports_congr
    (h : ∀ line ∈ splitLines source, isDeadImport others line = isDeadImport dead line) :
    dropImports others source = dropImports dead source := by
  have hfilter : (splitLines source).filter (fun line => !isDeadImport others line) =
      (splitLines source).filter fun line => !isDeadImport dead line :=
    List.filter_congr fun line hl => congrArg (!·) (h line hl)
  rw [dropImports_eq, dropImports_eq, hfilter]

end

private theorem dropImports_dropImports (dead more : List Text) (source : Text) :
    dropImports more (dropImports dead source) = dropImports (dead ++ more) source := by
  let kept := (splitLines source).filter fun line => !isDeadImport dead line
  have hfirst : dropImports dead source = joinLines kept := dropImports_eq dead source
  have hboth : dropImports (dead ++ more) source =
      joinLines (kept.filter fun line => !isDeadImport more line) := by
    simp only [dropImports_eq, kept, List.filter_filter, isDeadImport_append, Bool.not_or,
      Bool.and_comm]
  rw [hfirst, hboth]
  by_cases hne : kept = []
  · rw [hne]
    exact dropImports_empty more
  · rw [dropImports_eq, splitLines_joinLines_of_sublist List.filter_sublist hne]

private theorem foldl_dropImports (groups : List (List Text)) (source : Text) :
    groups.foldl (fun left group => dropImports group left) source =
      dropImports groups.flatten source := by
  induction groups generalizing source with
  | nil => rfl
  | cons group groups ih =>
    rw [List.foldl_cons, ih, dropImports_dropImports, List.flatten_cons]

/-- Two passes over the imports make one with the texts of both. So a second pass changes nothing,
and it does not matter in which order, how often or in which groups the texts are given. Texts with
a line feed can be left out of them, and a source without any of the texts stays as it is. -/
theorem import_passes_compose (dead more : List Text) (source : Text) :
    dropImports more (dropImports dead source) = dropImports (dead ++ more) source ∧
      dropImports dead (dropImports dead source) = dropImports dead source ∧
      (∀ others : List Text, (∀ needle, needle ∈ others ↔ needle ∈ dead) →
        dropImports others source = dropImports dead source) ∧
      (∀ groups : List (List Text), groups.foldl (fun left group => dropImports group left) source =
        dropImports groups.flatten source) ∧
      dropImports (dead.filter fun needle => '\n' ∉ needle) source = dropImports dead source ∧
      ((∀ line ∈ splitLines source, ∀ needle ∈ dead, ¬needle <:+: line) →
        dropImports dead source = source) := by
  have hsame (others : List Text) (h : ∀ needle, needle ∈ others ↔ needle ∈ dead) :
      dropImports others source = dropImports dead source :=
    dropImports_congr fun line _ => isDeadImport_eq_of_mem_iff h line
  refine ⟨dropImports_dropImports dead more source, ?_, hsame, ?_, ?_, ?_⟩
  · rw [dropImports_dropImports]
    exact hsame _ (by simp)
  · intro groups
    exact foldl_dropImports groups source
  · exact dropImports_congr fun line hl => isDeadImport_filter (not_mem_of_mem_split hl) dead
  · intro hlive
    exact dropImports_of_live fun line hl => (isDeadImport_eq_false_iff dead line).mpr (hlive line hl)

def importingSource : Text :=
  joinLines ["import x;".toList, "import y;".toList, []]

/-- The texts come in another order and one of them twice. Without the line feed at its end each of
them would be found. -/
theorem import_passes_compose_reordered :
    (∀ needle, needle ∈ ["y".toList, "x".toList, "y".toList] ↔ needle ∈ ["x".toList, "y".toList]) ∧
      dropImports ["y".toList, "x".toList, "y".toList] importingSource =
        dropImports ["x".toList, "y".toList] importingSource ∧
      (∀ line ∈ splitLines importingSource, ∀ needle ∈ ["x;\n".toList, "y;\n".toList],
        ¬needle <:+: line) ∧
      dropImports ["x;\n".toList, "y;\n".toList] importingSource = importingSource := by
  have hsame : ∀ needle,
      needle ∈ ["y".toList, "x".toList, "y".toList] ↔ needle ∈ ["x".toList, "y".toList] := by
    intro needle
    simp only [List.mem_cons, List.not_mem_nil, or_false]
    tauto
  have hlive : ∀ line ∈ splitLines importingSource,
      ∀ needle ∈ ["x;\n".toList, "y;\n".toList], ¬needle <:+: line := by
    have hfeed : ∀ needle ∈ ["x;\n".toList, "y;\n".toList], '\n' ∈ needle := by decide
    intro line hl needle hn hin
    exact not_mem_of_mem_split hl (hin.subset (hfeed needle hn))
  obtain ⟨-, -, hothers, -⟩ := import_passes_compose ["x".toList, "y".toList] [] importingSource
  obtain ⟨-, -, -, -, -, hunchanged⟩ :=
    import_passes_compose ["x;\n".toList, "y;\n".toList] [] importingSource
  exact ⟨hsame, hothers _ hsame, hlive, hunchanged hlive⟩

end DartSweep
