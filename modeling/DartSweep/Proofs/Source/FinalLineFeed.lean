import DartSweep.Proofs.Edit.Runs
import DartSweep.Proofs.Source.LateSqueeze
import Mathlib.Data.List.DropRight

/-!
# The last line feed of a source

A source that ends with a line feed has an empty last line. Neither the imports nor the getters take
this line away. But it counts as blank, and behind other blank lines it is squeezed, so that the
first of them ends the content: with a line feed if it is empty, and otherwise without.
-/
namespace DartSweep

/-! ### Last lines -/

def EndsWithLineFeed (t : Text) : Prop :=
  t.getLast? = some '\n'

instance (t : Text) : Decidable (EndsWithLineFeed t) :=
  inferInstanceAs (Decidable (t.getLast? = some '\n'))

private theorem join_concat (sep : Char) {fields : List Text} (h : fields ≠ []) (last : Text) :
    join sep (fields ++ [last]) = join sep fields ++ sep :: last := by
  induction fields with
  | nil => exact absurd rfl h
  | cons field fields ih =>
    by_cases hf : fields = []
    · rw [hf]
      rfl
    · have hne : fields ++ [last] ≠ [] := by simp
      rw [List.cons_append, join_cons sep field hne, join_cons sep field hf, ih hf]
      simp

/-- Lines of which the last is empty make a text that is empty or ends with a line feed, and other
lines do not. -/
private theorem endsWithLineFeed_joinLines_concat (lines : List Text) {last : Text}
    (hl : '\n' ∉ last) :
    joinLines (lines ++ [last]) = [] ∨ EndsWithLineFeed (joinLines (lines ++ [last])) ↔
      last = [] := by
  have hnot : last.getLast? ≠ some '\n' := fun he => hl (List.mem_of_getLast? he)
  by_cases hne : lines = []
  · have hjoin : joinLines (lines ++ [last]) = last := by
      rw [hne]
      rfl
    rw [hjoin, EndsWithLineFeed, or_iff_left hnot]
  · have hjoin : joinLines (lines ++ [last]) = joinLines lines ++ '\n' :: last :=
      join_concat '\n' hne last
    rw [hjoin, EndsWithLineFeed, List.getLast?_append_cons]
    cases last with
    | nil => simp
    | cons c last => simpa using hnot

private theorem endsWithLineFeed_iff (t : Text) :
    t = [] ∨ EndsWithLineFeed t ↔ (splitLines t).getLast? = some [] := by
  rcases List.eq_nil_or_concat (splitLines t) with he | ⟨lines, last, he⟩
  · exact absurd he (splitLines_ne_nil t)
  · rw [List.concat_eq_append] at he
    have hm : last ∈ splitLines t := by simp [he]
    have hl : '\n' ∉ last := not_mem_of_mem_split hm
    have ht := endsWithLineFeed_joinLines_concat lines hl
    rw [← he, joinLines_splitLines] at ht
    rw [ht, he, List.getLast?_concat, Option.some_inj]

private theorem getLast?_splitLines_joinLines {source last : Text} {lines : List Text}
    (h : lines.Sublist (splitLines source)) (hl : lines.getLast? = some last) :
    (splitLines (joinLines lines)).getLast? = some last := by
  have hne : lines ≠ [] := by
    rintro rfl
    simp at hl
  rw [splitLines_joinLines_of_sublist h hne, hl]

/-! ### Blank lines at the end -/

def endBlanks (lines : List Text) : List Text :=
  lines.rtakeWhile isBlank

private theorem exists_head?_endBlanks {lines : List Text} {last : Text}
    (hl : lines.getLast? = some last) (hb : isBlank last = true) :
    ∃ first, (endBlanks lines).head? = some first := by
  obtain ⟨before, rfl⟩ := List.getLast?_eq_some_iff.mp hl
  rw [endBlanks, List.rtakeWhile_concat_pos _ _ _ hb]
  cases before.rtakeWhile isBlank with
  | nil => exact ⟨last, rfl⟩
  | cons first rest => exact ⟨first, rfl⟩

private theorem mem_of_head?_endBlanks {lines : List Text} {first : Text}
    (h : (endBlanks lines).head? = some first) : first ∈ lines ∧ isBlank first = true := by
  have hm : first ∈ endBlanks lines := List.mem_of_head? h
  exact ⟨(List.rtakeWhile_suffix _ _).mem hm, List.mem_rtakeWhile_imp hm⟩

/-- Of the blank lines at the end only the first is left. -/
theorem getLast?_squeezeBlanks {lines : List Text} {first : Text}
    (h : (endBlanks lines).head? = some first) : (squeezeBlanks lines).getLast? = some first := by
  have hrun : ∀ line ∈ endBlanks lines, isBlank line = true :=
    fun line hm => List.mem_rtakeWhile_imp hm
  have hbefore : ∀ line ∈ (lines.rdropWhile isBlank).getLast?, isBlank line = false := by
    intro line hm
    obtain ⟨hne, rfl⟩ := List.mem_getLast?_eq_getLast hm
    simpa using List.rdropWhile_last_not isBlank lines hne
  have hafter : ∀ line ∈ ([] : List Text).head?, isBlank line = false := by simp
  have hsqueeze := squeezeBlanks_run hrun hbefore hafter
  rw [endBlanks, List.append_nil, List.rdropWhile_append_rtakeWhile, ← endBlanks] at hsqueeze
  obtain ⟨rest, hfirst⟩ := List.head?_eq_some_iff.mp h
  rw [hsqueeze, hfirst]
  simp [squeezeBlanks, squeezeAfter]

/-! ### What loose sweeps leave at the end -/

private theorem getLast?_spares {pass : Pass} {entries : List (Text × Nat)} {entry : Text × Nat}
    (hl : entries.map Prod.fst = pass.lines)
    (hf : findGetters pass.lines = .ok pass.plan.spans) (he : entries.getLast? = some entry)
    (hb : isBlank entry.1 = true) : (pass.spares entries).getLast? = some entry := by
  obtain ⟨before, rfl⟩ := List.getLast?_eq_some_iff.mp he
  have hline : pass.lines[before.length]? = some entry.1 := by
    rw [← hl]
    simp
  have hkept : ¬Covered pass.plan.spans before.length := by
    intro hc
    -- The getter would go on behind the last line.
    obtain ⟨span, hm, hcovers⟩ := covered_succ_of_isBlank hf hc hline hb
    have hstop : span.stop ≤ pass.lines.length := (findGetters_bounds hf span hm).2
    have hlt : before.length + 1 < span.stop := hcovers.2
    rw [← hl] at hstop
    simp at hstop
    omega
  rw [Pass.spares, keptFrom_concat_of_pos, List.getLast?_concat]
  rwa [Nat.zero_add]

private theorem left_sublist (entries : List (Text × Nat)) :
    (looseSweep entries).left.Sublist entries := by
  fun_induction looseSweep entries with
  | case1 => exact List.Sublist.refl _
  | case2 => exact List.Sublist.refl _
  | case3 entries plan hp hne pass hlt ih => exact ih.trans (keptFrom_sublist _ 0 entries)

private theorem getLast?_left {entries : List (Text × Nat)} {entry : Text × Nat}
    (he : entries.getLast? = some entry) (hb : isBlank entry.1 = true) :
    (looseSweep entries).left.getLast? = some entry := by
  fun_induction looseSweep entries with
  | case1 => exact he
  | case2 => exact he
  | case3 entries plan hp hne pass hlt ih =>
    have hf : findGetters (entries.map Prod.fst) = .ok plan.spans := getterPlan_eq_ok_iff.mp hp
    have hspares : (Pass.spares ⟨entries.map Prod.fst, plan⟩ entries).getLast? = some entry :=
      getLast?_spares rfl hf he hb
    exact ih hspares

/-! ### The end of the content -/

/-- The lines of the source outside dead imports and getters, with all their blank lines. -/
def looseLines (settings : Settings) (source : Text) : List Text :=
  (looseSweep (liveEntries settings.deadImports source)).left.map Prod.fst

section
variable {settings : Settings} {source : Text}

private theorem looseLines_sublist : (looseLines settings source).Sublist (splitLines source) := by
  have hlines := ((left_sublist (liveEntries settings.deadImports source)).trans
    List.filter_sublist).map Prod.fst
  rw [List.zipIdx_map_fst] at hlines
  exact hlines

private theorem getLast?_looseLines (hdead : ∀ needle ∈ settings.deadImports, needle ≠ [])
    (hs : EndsWithLineFeed source) : (looseLines settings source).getLast? = some [] := by
  have hlast : (splitLines source).getLast? = some [] := (endsWithLineFeed_iff source).mp (Or.inr hs)
  obtain ⟨before, hbefore⟩ := List.getLast?_eq_some_iff.mp hlast
  have hlive : isDeadImport settings.deadImports [] = false := by
    rw [isDeadImport_eq_false_iff]
    exact fun needle hm hin => hdead needle hm (List.infix_nil.mp hin)
  have hentry : (liveEntries settings.deadImports source).getLast? = some ([], before.length) := by
    rw [liveEntries, hbefore, List.zipIdx_append, List.filter_append]
    simp [hlive]
  rw [looseLines, List.getLast?_map, getLast?_left hentry rfl]
  rfl

private theorem content_sweepSource (settings : Settings) (source : Text) :
    (sweepSource settings source).content =
      joinLines (if (sweepSource settings source).removed = 0 then looseLines settings source
        else squeezeBlanks (looseLines settings source)) := by
  have hstages : (looseSweep (liveEntries settings.deadImports source)).stages = [] ↔
      (sweepSource settings source).removed = 0 :=
    stages_looseSweep_eq_nil_iff.trans (passes_eq_nil_iff _)
  rw [← content_looseSweep, LooseSweep.content]
  simp only [List.isEmpty_iff, hstages, looseLines]

end

/-- The last line of the content is empty if nothing was deleted. Otherwise it is the first of the
blank lines that end the source once getters and dead imports are gone, and the line feed at the end
stays exactly if this one is empty. So it stays in all sources whose blank lines are empty. -/
theorem content_ends_on_first_blank {settings : Settings} {source : Text} {pruned : Pruned}
    (hdead : ∀ needle ∈ settings.deadImports, needle ≠ []) (hs : EndsWithLineFeed source)
    (h : prune settings source = .ok pruned) :
    ∃ first, (endBlanks (looseLines settings source)).head? = some first ∧
      (splitLines pruned.content).getLast? = some (if pruned.removed = 0 then [] else first) ∧
      (pruned.content = [] ∨ EndsWithLineFeed pruned.content ↔
        pruned.removed = 0 ∨ first = []) ∧
      ((∀ line ∈ splitLines source, isBlank line = true → line = []) →
        pruned.content = [] ∨ EndsWithLineFeed pruned.content) := by
  obtain ⟨-, rfl, -⟩ := (prune_eq_ok_iff settings source pruned).mp h
  dsimp only
  have hloose := getLast?_looseLines hdead hs
  obtain ⟨first, hfirst⟩ := exists_head?_endBlanks hloose rfl
  have hlast : (splitLines (sweepSource settings source).content).getLast? =
      some (if (sweepSource settings source).removed = 0 then [] else first) := by
    rw [content_sweepSource]
    split
    · exact getLast?_splitLines_joinLines looseLines_sublist hloose
    · have hsub : (squeezeBlanks (looseLines settings source)).Sublist (splitLines source) :=
        (squeezeBlanks_sublist _).trans looseLines_sublist
      exact getLast?_splitLines_joinLines hsub (getLast?_squeezeBlanks hfirst)
  have hiff : (sweepSource settings source).content = [] ∨
      EndsWithLineFeed (sweepSource settings source).content ↔
        (sweepSource settings source).removed = 0 ∨ first = [] := by
    rw [endsWithLineFeed_iff, hlast]
    split <;> simp [*]
  refine ⟨first, hfirst, hlast, hiff, ?_⟩
  intro hblank
  obtain ⟨hm, hb⟩ := mem_of_head?_endBlanks hfirst
  exact hiff.mpr (Or.inr (hblank first (looseLines_sublist.mem hm) hb))

/-- The only pass over a getter in a source with one blank line before its last line feed. -/
def paddedPass (blank : Text) : Pass where
  lines :=
    ["class A \x7b".toList, "/// UI display type for generic rendering.".toList,
      "ResultDisplayType get displayType => ResultDisplayType.simple;".toList, "\x7d".toList,
      blank, []]
  plan := .single ⟨1, 3⟩

def paddedLeft (blank : Text) : List Text :=
  ["class A \x7b".toList, "\x7d".toList, blank]

private theorem endsWithLineFeed_padded (blank : Text) :
    EndsWithLineFeed (joinLines (paddedPass blank).lines) := by
  have h := endsWithLineFeed_joinLines_concat ((paddedPass blank).lines.take 5) List.not_mem_nil
  exact (h.mpr rfl).resolve_left (by simp [paddedPass, joinLines, join])

private theorem prune_padded :
    prune importless (joinLines (paddedPass "  ".toList).lines) =
      .ok ⟨joinLines (paddedLeft "  ".toList), 1⟩ :=
  prune_of_pass (by rfl) (by rfl) (by rfl) (by simp [paddedPass]) (by rfl) (by rfl)
    (by decide +kernel)

private theorem prune_padded_nil :
    prune importless (joinLines (paddedPass []).lines) = .ok ⟨joinLines (paddedLeft []), 1⟩ :=
  prune_of_pass (by rfl) (by rfl) (by rfl) (by simp [paddedPass]) (by rfl) (by rfl)
    (by decide +kernel)

theorem content_ends_on_first_blank_padded :
    (∀ needle ∈ importless.deadImports, needle ≠ []) ∧
      EndsWithLineFeed (joinLines (paddedPass "  ".toList).lines) ∧
      (endBlanks (looseLines importless (joinLines (paddedPass "  ".toList).lines))).head? =
        some "  ".toList ∧
      EndsWithLineFeed (joinLines (paddedPass []).lines) ∧
      (∀ line ∈ splitLines (joinLines (paddedPass []).lines), isBlank line = true → line = []) ∧
      EndsWithLineFeed (joinLines (paddedLeft [])) := by
  have hdead : ∀ needle ∈ importless.deadImports, needle ≠ [] := by decide
  have hpadded := endsWithLineFeed_padded "  ".toList
  have hnil := endsWithLineFeed_padded []
  have hblank : ∀ line ∈ splitLines (joinLines (paddedPass []).lines),
      isBlank line = true → line = [] := by
    decide +kernel
  obtain ⟨first, hfirst, hlast, -⟩ := content_ends_on_first_blank hdead hpadded prune_padded
  obtain ⟨-, -, -, -, hkept⟩ := content_ends_on_first_blank hdead hnil prune_padded_nil
  have hcontent : (splitLines (joinLines (paddedLeft "  ".toList))).getLast? = some "  ".toList := by
    rfl
  have he : "  ".toList = first := Option.some.inj (hcontent.symm.trans hlast)
  rw [← he] at hfirst
  exact ⟨hdead, hpadded, hfirst, hnil, hblank, (hkept hblank).resolve_left (by decide)⟩

/-- The blank line before the last line feed holds blanks. It becomes the last line, and the source
does not end with a line feed any more. -/
theorem final_line_feed_lost :
    (∀ needle ∈ importless.deadImports, needle ≠ []) ∧
      EndsWithLineFeed (joinLines (paddedPass "  ".toList).lines) ∧
      prune importless (joinLines (paddedPass "  ".toList).lines) =
        .ok ⟨joinLines (paddedLeft "  ".toList), 1⟩ ∧
      ¬(joinLines (paddedLeft "  ".toList) = [] ∨
        EndsWithLineFeed (joinLines (paddedLeft "  ".toList))) :=
  ⟨by decide, endsWithLineFeed_padded _, prune_padded, by decide⟩

end DartSweep
