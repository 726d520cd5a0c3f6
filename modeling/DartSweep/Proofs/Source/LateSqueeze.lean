import DartSweep.Proofs.Edit.Squeezing
import DartSweep.Proofs.Getter.Blanks
import DartSweep.Proofs.Source.Provenance

/-!
# Squeezing late

A sweep squeezes blank lines in each of its passes. A loose sweep only deletes getters, and its
blank lines are squeezed once, behind the last pass. It deletes the same getters, since no scan is
influenced by the blank lines left in between.
-/
namespace DartSweep

def blankEntry (entry : Text × Nat) : Bool :=
  isBlank entry.1

/-- The entries outside the getters of the pass, with all their blank lines. -/
def Pass.spares (pass : Pass) (entries : List (Text × Nat)) : List (Text × Nat) :=
  keptFrom (fun index => ¬Covered pass.plan.spans index) 0 entries

/-- The getters that the stage deletes, each by its entries that are not blank. -/
def Stage.getters (stage : Stage) : List (List (Text × Nat)) :=
  stage.pass.plan.spans.map fun span =>
    (keptFrom span.Covers 0 stage.entries).filter fun entry => !blankEntry entry

/-- A sweep that squeezes nothing. -/
structure LooseSweep where
  stages : List Stage
  /-- The entries that the last scan read. -/
  left : List (Text × Nat)
  fault : Option Fault

/-- What is left of the source when the blank lines are squeezed behind the last pass, if there is
any. -/
def LooseSweep.content (sweep : LooseSweep) : Text :=
  let lines := sweep.left.map Prod.fst
  joinLines (if sweep.stages.isEmpty then lines else squeezeBlanks lines)

private theorem map_fst_spares {pass : Pass} {entries : List (Text × Nat)}
    (hl : entries.map Prod.fst = pass.lines) :
    (pass.spares entries).map Prod.fst = pass.plan.delete pass.lines := by
  rw [Pass.spares, map_keptFrom, hl, pass.plan.delete_eq_keptFrom]

private theorem length_spares_lt {entries : List (Text × Nat)} {plan : DeletionPlan}
    (h : getterPlan (entries.map Prod.fst) = .ok plan) (hne : plan.spans ≠ []) :
    (Pass.spares ⟨entries.map Prod.fst, plan⟩ entries).length < entries.length := by
  have hlines : (Pass.spares ⟨entries.map Prod.fst, plan⟩ entries).map Prod.fst =
      plan.delete (entries.map Prod.fst) :=
    map_fst_spares rfl
  have hlt : (plan.delete (entries.map Prod.fst)).length < (entries.map Prod.fst).length := by
    refine length_deleteSpans_lt hne fun span hs => ?_
    have hb := getterPlan_bounds h span hs
    omega
  rw [← hlines, List.length_map, List.length_map] at hlt
  exact hlt

def looseSweep (entries : List (Text × Nat)) : LooseSweep :=
  match h : getterPlan (entries.map Prod.fst) with
  | .error fault => ⟨[], entries, some fault⟩
  | .ok plan =>
    if hne : plan.spans = [] then ⟨[], entries, none⟩
    else
      let pass : Pass := ⟨entries.map Prod.fst, plan⟩
      have := length_spares_lt h hne
      let later := looseSweep (pass.spares entries)
      ⟨⟨pass, entries⟩ :: later.stages, later.left, later.fault⟩
termination_by entries.length

section
variable {entries : List (Text × Nat)}

private theorem looseSweep_of_error {fault : Fault}
    (h : findGetters (entries.map Prod.fst) = .error fault) :
    looseSweep entries = ⟨[], entries, some fault⟩ := by
  have hp := getterPlan_of_error h
  rw [looseSweep]
  split <;> simp_all

private theorem looseSweep_of_clean (h : findGetters (entries.map Prod.fst) = .ok []) :
    looseSweep entries = ⟨[], entries, none⟩ := by
  obtain ⟨plan, hs, hp⟩ := exists_getterPlan h
  rw [looseSweep]
  split <;> simp_all

private theorem looseSweep_of_plan {plan : DeletionPlan}
    (hp : getterPlan (entries.map Prod.fst) = .ok plan) (hne : plan.spans ≠ []) :
    looseSweep entries =
      let pass : Pass := ⟨entries.map Prod.fst, plan⟩
      let later := looseSweep (pass.spares entries)
      ⟨⟨pass, entries⟩ :: later.stages, later.left, later.fault⟩ := by
  conv => lhs; rw [looseSweep]
  split
  · simp_all
  · rename_i found hf
    have hplan : found = plan := Except.ok.inj (hf.symm.trans hp)
    subst hplan
    rw [dif_neg hne]

end

private theorem left_of_stages_eq_nil {entries : List (Text × Nat)}
    (h : (looseSweep entries).stages = []) : (looseSweep entries).left = entries := by
  cases hf : findGetters (entries.map Prod.fst) with
  | error fault => rw [looseSweep_of_error hf]
  | ok spans =>
    obtain ⟨plan, rfl, hp⟩ := exists_getterPlan hf
    by_cases hne : plan.spans = []
    · rw [hne] at hf
      rw [looseSweep_of_clean hf]
    · rw [looseSweep_of_plan hp hne] at h
      simp at h

section
variable {place : Nat → Nat} {entries loose : List (Text × Nat)}

/-- Where a getter is found again among more blank lines, it has no more text. -/
private theorem getters_spaced (h : Spaced blankEntry place entries loose) {pass other : Pass}
    (hs : other.plan.spans = pass.plan.spans.map (Span.move place (behind place))) :
    Stage.getters ⟨other, loose⟩ = Stage.getters ⟨pass, entries⟩ := by
  rw [Stage.getters, Stage.getters, hs, List.map_map]
  apply List.map_congr_left
  intro span hm
  have hcovers (index : Nat) : span.Covers index ↔
      (span.move place (behind place)).Covers (place index) :=
    (covers_move_iff h.strictMono span index).symm
  obtain ⟨left, hleft⟩ := h.keptFrom hcovers (Leads.refl place)
  exact hleft.filter_eq.symm

private theorem stretched_leaves (pass other : Pass) (hl : entries.map Prod.fst = pass.lines)
    (h : Stretched blankEntry false place entries loose)
    (ho : loose.map Prod.fst = other.lines)
    (hf : findGetters other.lines = .ok other.plan.spans)
    (hs : other.plan.spans = pass.plan.spans.map (Span.move place (behind place))) :
    ∃ left, Stretched blankEntry false left (pass.leaves entries) (other.spares loose) := by
  have hbefore : decide (BlankBefore pass.plan.spans pass.lines 0) = false :=
    decide_eq_false (not_blankBefore_zero _ _)
  obtain ⟨squeezed, hsqueezed⟩ := stretched_keptFrom Prod.fst pass.plan pass.lines entries 0 hl.symm
  rw [hbefore] at hsqueezed
  have hkeep (index : Nat) :
      ¬Covered pass.plan.spans index ↔ ¬Covered other.plan.spans (place index) := by
    rw [hs, covered_move_iff h.spaced.strictMono]
  -- A getter does not end with a blank line, so with a blank line in it goes the line behind.
  have hend : ∀ entry ∈ loose.zipIdx, blankEntry entry.1 = true →
      ¬Covered other.plan.spans (entry.2 + 1) → ¬Covered other.plan.spans entry.2 := by
    intro entry hm hb hnext hc
    have hline : other.lines[entry.2]? = some entry.1.1 := by
      rw [← ho, List.getElem?_map, List.mem_zipIdx_iff_getElem?.mp hm]
      rfl
    exact hnext (covered_succ_of_isBlank hf hc hline hb)
  have hspared : ∃ spared, Stretched blankEntry false spared (pass.spares entries)
      (other.spares loose) :=
    h.keptFrom hkeep (Leads.refl place) hend fun hb _ => hb
  obtain ⟨spared, hspared⟩ := hspared
  exact hsqueezed.trans hspared

end

/-- A scan of the wider lines finds the getters of the content moved. -/
theorem Numbers.findGetters_spaced {entries loose : List (Text × Nat)} {content : Text}
    {place : Nat → Nat} (hn : Numbers entries content)
    (h : Spaced blankEntry place entries loose) :
    findGetters (loose.map Prod.fst) =
      ((findGetters (splitLines content)).map
        (List.map (Span.move place (behind place)))).mapError (Fault.move place) := by
  have hlines : Spaced isBlank place (entries.map Prod.fst) (loose.map Prod.fst) :=
    h.map fun _ hb => hb
  rw [hn.findGetters_eq, DartSweep.findGetters_spaced hlines]

/-- The passes of a sweep and those of the loose sweep of the same lines with more blank lines
behind blank lines. -/
private theorem looseSweep_stretched {content : Text} {entries loose : List (Text × Nat)}
    {place : Nat → Nat} (hn : Numbers entries content)
    (h : Stretched blankEntry false place entries loose) :
    (looseSweep loose).stages.map Stage.getters =
        (stages (sweep content).passes entries).map Stage.getters ∧
      ∃ left, Stretched blankEntry false left (remaining (sweep content).passes entries)
          (looseSweep loose).left ∧
        (looseSweep loose).fault = (sweep content).fault.map (Fault.move left) := by
  induction content using sweep_induction generalizing entries loose place with
  | failed content fault hf =>
    have hfound := hn.findGetters_spaced h.spaced
    rw [hf] at hfound
    rw [looseSweep_of_error hfound]
    exact ⟨rfl, place, h, rfl⟩
  | clean content hf =>
    have hfound := hn.findGetters_spaced h.spaced
    rw [hf] at hfound
    rw [looseSweep_of_clean hfound]
    exact ⟨rfl, place, h, rfl⟩
  | pass content plan later hf hne ih =>
    have hfound := hn.findGetters_spaced h.spaced
    rw [hf] at hfound
    obtain ⟨hstage, hleaves⟩ := hn.pass hf hne
    obtain ⟨wider, hs, hp⟩ := exists_getterPlan hfound
    obtain ⟨left, hleft⟩ := stretched_leaves ⟨splitLines content, plan⟩
      ⟨loose.map Prod.fst, wider⟩ hstage.before h rfl (getterPlan_eq_ok_iff.mp hp) hs
    obtain ⟨hlater, hremaining⟩ := ih hleaves hleft
    have hloose := looseSweep_of_plan hp (by simpa [hs] using hne)
    have hgetters : Stage.getters ⟨⟨loose.map Prod.fst, wider⟩, loose⟩ =
        Stage.getters ⟨⟨splitLines content, plan⟩, entries⟩ :=
      getters_spaced h.spaced hs
    rw [hloose]
    refine ⟨?_, hremaining⟩
    rw [List.map_cons, hlater, hgetters]
    rfl

private theorem squeezed_remaining {passes : List Pass} {entries : List (Text × Nat)}
    (hs : ∀ stage ∈ stages passes entries, stage.Faithful)
    (h : passes = [] → squeezeBlanks (entries.map Prod.fst) = entries.map Prod.fst) :
    squeezeBlanks ((remaining passes entries).map Prod.fst) =
      (remaining passes entries).map Prod.fst := by
  induction passes generalizing entries with
  | nil => exact h rfl
  | cons pass passes ih =>
    rw [stages, List.forall_mem_cons] at hs
    have hafter : (pass.leaves entries).map Prod.fst = pass.result := hs.1.after
    refine ih hs.2 fun _ => ?_
    rw [hafter, Pass.result, DeletionPlan.apply, squeezeBlanks_squeezeBlanks]

section
variable {settings : Settings} {source : Text}

theorem stages_looseSweep_eq_nil_iff :
    (looseSweep (liveEntries settings.deadImports source)).stages = [] ↔
      (sweepSource settings source).passes = [] := by
  have h := Stretched.refl blankEntry false (liveEntries settings.deadImports source)
  obtain ⟨hgetters, -⟩ := looseSweep_stretched (numbers_liveEntries settings.deadImports source) h
  have hlength := congrArg List.length hgetters
  rw [List.length_map, List.length_map] at hlength
  rw [← List.length_eq_zero_iff, hlength, sweepSource]
  cases (sweep (dropImports settings.deadImports source)).passes <;> simp [stages]

theorem content_looseSweep :
    (looseSweep (liveEntries settings.deadImports source)).content =
      (sweepSource settings source).content := by
  have hnumbers := numbers_liveEntries settings.deadImports source
  have h := Stretched.refl blankEntry false (liveEntries settings.deadImports source)
  obtain ⟨-, left, hleft, -⟩ := looseSweep_stretched hnumbers h
  obtain ⟨hfaithful, hsurvivors⟩ := sweepSource_faithful settings source
  have hsame : squeezeBlanks ((survivors settings source).map Prod.fst) =
      squeezeBlanks ((looseSweep (liveEntries settings.deadImports source)).left.map Prod.fst) :=
    squeezeAfter_of_stretched (hleft.map fun _ => rfl)
  rw [LooseSweep.content, hsurvivors.joined]
  by_cases hpasses : (sweepSource settings source).passes = []
  · have hstages := stages_looseSweep_eq_nil_iff.mpr hpasses
    have hremaining : survivors settings source = liveEntries settings.deadImports source := by
      rw [survivors, hpasses]
      rfl
    rw [hstages, left_of_stages_eq_nil hstages, hremaining]
    rfl
  · have hstages := mt stages_looseSweep_eq_nil_iff.mp hpasses
    have hsqueezed := squeezed_remaining hfaithful fun he => absurd he hpasses
    rw [if_neg (mt List.isEmpty_iff.mp hstages), ← hsame]
    exact congrArg joinLines hsqueezed

end

/-- The other span begins where the first line of the span is led to, and of the lines led to it
covers those that the span covers. -/
def Span.Matches (place : Nat → Nat) (span other : Span) : Prop :=
  other.start = place span.start ∧ ∀ index, other.Covers (place index) ↔ span.Covers index

/-- Blank lines have no influence on what is found. With blank lines put in anywhere a scan finds
the same getters, each over the same lines that are not blank, or fails at the same marker and
signature. So a sweep may leave its squeezing to the end: the same getters are deleted, pass by
pass, the same content comes out, and a fault names the same lines. -/
theorem blank_lines_are_inert {place : Nat → Nat} {lines spaced : List Text}
    (h : Spaced isBlank place lines spaced) :
    StrictMono place ∧
      (∀ index, spaced[place index]? = lines[index]?) ∧
      (∀ (later : Nat) (line : Text), spaced[later]? = some line → isBlank line = false →
        ∃ index, place index = later) ∧
      (∀ spans, findGetters lines = .ok spans →
        ∃ others, findGetters spaced = .ok others ∧
          List.Forall₂ (Span.Matches place) spans others) ∧
      (∀ fault, findGetters lines = .error fault →
        ∃ marker signature, fault = .unterminated (marker + 1) (signature + 1) ∧
          findGetters spaced = .error (.unterminated (place marker + 1) (place signature + 1))) ∧
      ∀ settings source,
        (looseSweep (liveEntries settings.deadImports source)).stages.map Stage.getters =
            (history settings source).map Stage.getters ∧
          (looseSweep (liveEntries settings.deadImports source)).content =
            (sweepSource settings source).content ∧
          ∃ left, Spaced blankEntry left (survivors settings source)
              (looseSweep (liveEntries settings.deadImports source)).left ∧
            (looseSweep (liveEntries settings.deadImports source)).fault =
              (sweepSource settings source).fault.map (Fault.move left) := by
  have hfound := findGetters_spaced h
  refine ⟨h.strictMono, h.getElem?_place, fun later line hl hb => h.exists_place hl hb, ?_, ?_, ?_⟩
  · intro spans hf
    rw [hf] at hfound
    refine ⟨_, hfound, ?_⟩
    rw [List.forall₂_map_right_iff, List.forall₂_same]
    exact fun span _ => ⟨rfl, covers_move_iff h.strictMono span⟩
  · intro fault hf
    obtain ⟨marker, signature, -, rfl, -⟩ := (findGetters_eq_error_iff lines fault).mp hf
    rw [hf] at hfound
    exact ⟨marker, signature, rfl, hfound⟩
  · intro settings source
    have hnumbers := numbers_liveEntries settings.deadImports source
    have hself := Stretched.refl blankEntry false (liveEntries settings.deadImports source)
    obtain ⟨hgetters, left, hleft, hfault⟩ := looseSweep_stretched hnumbers hself
    exact ⟨hgetters, content_looseSweep, left, hleft.spaced, hfault⟩

def tightLines : List Text :=
  ["/// Structured display sections for generic rendering.".toList,
    "List<ResultSection> get sections \x7b".toList, "\x7d".toList]

/-- The same lines with a blank line before each of the first two and two before the last. -/
def wideLines : List Text :=
  [[' '], "/// Structured display sections for generic rendering.".toList, [],
    "List<ResultSection> get sections \x7b".toList, ['\t'], [], "\x7d".toList]

private theorem spaced_wideLines : ∃ place, Spaced isBlank place tightLines wideLines :=
  ⟨_, .fill (by decide) (.keep _ (.fill (by decide) (.keep _ (.fill (by decide) (.fill (by decide)
    (.keep _ .nil))))))⟩

private theorem spaced_wideLines_open :
    ∃ place, Spaced isBlank place (tightLines.take 2) (wideLines.take 5) :=
  ⟨_, .fill (by decide) (.keep _ (.fill (by decide) (.keep _ (.fill (by decide) .nil))))⟩

theorem blank_lines_are_inert_wide :
    (∃ place, Spaced isBlank place tightLines wideLines ∧
      findGetters tightLines = .ok [⟨0, 3⟩] ∧
      ∃ others, findGetters wideLines = .ok others ∧
        List.Forall₂ (Span.Matches place) [⟨0, 3⟩] others) ∧
      (∃ place, Spaced isBlank place (tightLines.take 2) (wideLines.take 5) ∧
        findGetters (tightLines.take 2) = .error (.unterminated 1 2) ∧
        ∃ marker signature, Fault.unterminated 1 2 = .unterminated (marker + 1) (signature + 1) ∧
          findGetters (wideLines.take 5) =
            .error (.unterminated (place marker + 1) (place signature + 1))) ∧
      (looseSweep (liveEntries importless.deadImports stackedSource)).content =
        joinLines stackedLeft := by
  obtain ⟨place, h⟩ := spaced_wideLines
  obtain ⟨also, hopen⟩ := spaced_wideLines_open
  have hf : findGetters tightLines = .ok [⟨0, 3⟩] := by rfl
  have hfault : findGetters (tightLines.take 2) = .error (.unterminated 1 2) := by rfl
  obtain ⟨-, -, -, hfound, -, hsweeps⟩ := blank_lines_are_inert h
  obtain ⟨-, -, -, -, hfails, -⟩ := blank_lines_are_inert hopen
  obtain ⟨-, hcontent, -⟩ := hsweeps importless stackedSource
  rw [sweepSource_stacked] at hcontent
  exact ⟨⟨place, h, hf, hfound _ hf⟩, ⟨also, hopen, hfault, hfails _ hfault⟩, hcontent⟩

end DartSweep
