import DartSweep.Proofs.Getter.Lookahead
import DartSweep.Proofs.Source.Provenance
import DartSweep.Proofs.Text.Numbered

/-!
# The lines that a fault names

A fault counts the lines that the last scan read. A line of the source that was taken away before
is not counted, so the numbers are those of the source only where nothing is missing above.
-/
namespace DartSweep

def Stage.Deletes (stage : Stage) (entry : Text × Nat) : Prop :=
  ∃ index, stage.entries[index]? = some entry ∧ Covered stage.pass.plan.spans index

section
variable (settings : Settings) (source : Text)

/-- The number of lines above the index that the last scan does not read. -/
def missingBefore (index : Nat) : Nat :=
  ((splitLines source).zipIdx.filter fun entry => entry ∉ survivors settings source).countP
    fun entry => entry.2 < index

/-- The line keeps no marker from a signature behind it: it was taken away with an import or a
getter, or it is skippable. -/
def PassedOver (entry : Text × Nat) : Prop :=
  isDeadImport settings.deadImports entry.1 = true ∨
    (∃ stage ∈ history settings source, stage.Deletes entry) ∨ isSkippable entry.1 = true

end

section
variable {settings : Settings} {source : Text}

private theorem number_survivors {index : Nat} {entry : Text × Nat}
    (h : (survivors settings source)[index]? = some entry) :
    entry.2 = index + missingBefore settings source entry.2 :=
  number_eq (survivors_sublist settings source) h

private theorem passedOver_of_not_mem {entry : Text × Nat} (hm : entry ∈ (splitLines source).zipIdx)
    (hn : entry ∉ survivors settings source) : PassedOver settings source entry := by
  rcases dead_or_drops_of_not_mem hm hn with hdead | ⟨stage, hstage, index, hi, hdrop⟩
  · exact Or.inl hdead
  · right
    rcases hdrop with hcovered | ⟨hblank, -⟩
    · exact Or.inl ⟨stage, hstage, index, hi, hcovered⟩
    · exact Or.inr (isSkippable_of_isBlank hblank)

/-- Where the last scan read only skippable lines between two lines, the source has nothing else to
keep the two apart. -/
private theorem passedOver_between {index later upper lower : Nat} {line next : Text}
    (hu : (survivors settings source)[index]? = some (line, upper))
    (hl : (survivors settings source)[later]? = some (next, lower))
    (hb : ∀ i, index < i → i < later → SkippableAt ((survivors settings source).map Prod.fst) i)
    {entry : Text × Nat} (hm : entry ∈ (splitLines source).zipIdx) (hlow : upper < entry.2)
    (hhigh : entry.2 < lower) : PassedOver settings source entry := by
  by_cases hs : entry ∈ survivors settings source
  · obtain ⟨between, hi⟩ := List.mem_iff_getElem?.mp hs
    have hsub := survivors_sublist settings source
    have hskip := hb between ((number_lt_iff hsub hu hi).mpr hlow)
      ((number_lt_iff hsub hi hl).mpr hhigh)
    rw [SkippableAt, List.getElem?_map, hi] at hskip
    exact Or.inr (Or.inr hskip)
  · exact passedOver_of_not_mem hm hs

private theorem unclosedAt_survivors {marker signature : Nat}
    (h : prune settings source = .error (.unterminated marker signature)) :
    ∃ index later, marker = index + 1 ∧ signature = later + 1 ∧
      UnclosedAt ((survivors settings source).map Prod.fst) index later := by
  have hfault : (sweepSource settings source).fault = some (.unterminated marker signature) := by
    rcases (prune_eq_error_iff settings source _).mp h with hf | ⟨-, -, hc⟩
    · exact hf
    · exact absurd hc (Census.check_ne_unterminated marker signature)
  have hf : findGetters (splitLines (sweepSource settings source).content) =
      .error (.unterminated marker signature) := findGetters_sweep_of_fault hfault
  obtain ⟨-, hnumbers⟩ := sweepSource_faithful settings source
  rw [hnumbers.findGetters_eq] at hf
  obtain ⟨index, later, spans, hn, hu, -⟩ := (findGetters_eq_error_iff _ _).mp hf
  obtain ⟨rfl, rfl⟩ := Fault.unterminated.inj hn
  exact ⟨index, later, rfl, rfl, hu⟩

/-- A fault about a getter that never closes names a marker of the source and a signature that
belongs to it, but each by its number less the missing lines above it. -/
theorem unterminated_names_lines_left {marker signature : Nat}
    (h : prune settings source = .error (.unterminated marker signature)) :
    ∃ upper lower,
      upper + 1 = marker + missingBefore settings source upper ∧
      lower + 1 = signature + missingBefore settings source lower ∧
      markerAt? (splitLines source) upper = some .sections ∧
      upper < lower ∧
      (∃ line, (splitLines source)[lower]? = some line ∧
        Marker.sections.isSignature line = true) ∧
      ∀ entry ∈ (splitLines source).zipIdx, upper < entry.2 → entry.2 < lower →
        PassedOver settings source entry := by
  obtain ⟨index, later, rfl, rfl, hu⟩ := unclosedAt_survivors h
  obtain ⟨hm, hs⟩ := hu.signatureAt
  have hsub := survivors_sublist settings source
  obtain ⟨line, hline, hof⟩ := Option.bind_eq_some_iff.mp hm
  obtain ⟨next, hnext, -, hsig⟩ := hs.found
  rw [List.getElem?_map] at hline hnext
  obtain ⟨⟨line, upper⟩, hupper, rfl⟩ := Option.map_eq_some_iff.mp hline
  obtain ⟨⟨next, lower⟩, hlower, rfl⟩ := Option.map_eq_some_iff.mp hnext
  have hunumber : upper = index + missingBefore settings source upper := number_survivors hupper
  have hlnumber : lower = later + missingBefore settings source lower := number_survivors hlower
  refine ⟨upper, lower, by omega, by omega, ?_,
    number_lt hsub hupper hlower hs.behind, ?_, ?_⟩
  · rw [markerAt?, getElem?_of_entry hsub hupper]
    exact hof
  · exact ⟨next, getElem?_of_entry hsub hlower, hsig⟩
  · intro entry hmem hlow hhigh
    exact passedOver_between hupper hlower hs.between hmem hlow hhigh

end

def openLines : List Text :=
  ["import 'result_types.dart';".toList, "class Open \x7b".toList,
    "  /// Structured display sections for generic rendering.".toList, "  @override".toList,
    "  List<ResultSection> get sections \x7b".toList, "    return [];".toList, []]

def openSource : Text :=
  joinLines openLines

private theorem splitLines_openSource : splitLines openSource = openLines :=
  splitLines_joinLines (by simp [openLines]) (by decide +kernel)

private theorem prune_open : prune {} openSource = .error (.unterminated 2 4) := by
  have hdrop : dropImports displayImports openSource = joinLines openLines.tail := by
    rw [dropImports_eq, splitLines_openSource]
    exact congrArg joinLines (by decide +kernel)
  have htail : openLines.tail.Sublist (splitLines openSource) := by
    rw [splitLines_openSource]
    exact List.tail_sublist _
  have hlive := splitLines_joinLines_of_sublist htail (by simp [openLines])
  have hplan : getterPlan (splitLines (dropImports displayImports openSource)) =
      .error (.unterminated 2 4) := by
    rw [hdrop, hlive]
    rfl
  rw [prune_eq_error_iff, sweepSource, sweep_of_error hplan]
  exact Or.inl rfl

/-- The second line holds no marker and the fourth no signature. -/
theorem fault_names_other_lines :
    prune {} openSource = .error (.unterminated 2 4) ∧
      markerAt? (splitLines openSource) 1 = none ∧
      (splitLines openSource)[3]?.any Marker.sections.isSignature = false := by
  rw [splitLines_openSource]
  exact ⟨prune_open, by decide +kernel, by decide +kernel⟩

theorem unterminated_names_lines_left_open :
    prune {} openSource = .error (.unterminated 2 4) ∧
      ∃ upper lower, upper + 1 = 2 + missingBefore {} openSource upper ∧
        lower + 1 = 4 + missingBefore {} openSource lower ∧
        markerAt? (splitLines openSource) upper = some .sections ∧ upper < lower := by
  obtain ⟨upper, lower, hu, hl, hm, hlt, -, -⟩ := unterminated_names_lines_left prune_open
  exact ⟨prune_open, upper, lower, hu, hl, hm, hlt⟩

end DartSweep
