import DartSweep.Proofs.Command.SingleFile
import DartSweep.Proofs.Source.Losses
import Mathlib.Logic.Relation

/-!
# Progress of a sweep

A turn of the sweep deletes the getters that one scan finds and reads what is left again. Each turn
takes lines away, so there is no endless run of turns, and each getter it counts has a marker line
and at least one line more.
-/
namespace DartSweep

/-- One turn: the getters of a scan are deleted, and there are some. -/
def Turn (before after : Text) : Prop :=
  ∃ plan, getterPlan (splitLines before) = .ok plan ∧ plan.spans ≠ [] ∧
    after = joinLines (plan.apply (splitLines before))

def isMarker (line : Text) : Bool :=
  (Marker.ofLine? line).isSome

private theorem length_lt_of_turn {before after : Text} (h : Turn before after) :
    (splitLines after).length < (splitLines before).length := by
  obtain ⟨plan, hp, hne, rfl⟩ := h
  exact length_pass_lt hp hne

theorem turn_wellFounded : WellFounded fun after before => Turn before after :=
  Subrelation.wf (fun h => length_lt_of_turn h) (measure fun content => (splitLines content).length).wf

private theorem turns_sweep (content : Text) :
    Relation.ReflTransGen Turn content (sweep content).content := by
  induction content using sweep_induction with
  | failed content fault hf => exact .refl
  | clean content hf => exact .refl
  | pass content plan later hf hne ih =>
    have hturn : Turn content (joinLines (plan.apply (splitLines content))) :=
      ⟨plan, getterPlan_eq_ok_iff.mpr hf, hne, rfl⟩
    exact .head hturn ih

private theorem not_turn_sweep (content after : Text) : ¬Turn (sweep content).content after := by
  intro h
  obtain ⟨plan, hp, hne, -⟩ := h
  rw [getterPlan_eq_ok_iff] at hp
  cases hf : (sweep content).fault with
  | none =>
    rw [findGetters_sweep hf] at hp
    exact hne (Except.ok.inj hp).symm
  | some fault =>
    rw [findGetters_sweep_of_fault hf] at hp
    simp at hp

private theorem two_mul_length_le_slices {lines : List Text} {plan : DeletionPlan}
    (h : findGetters lines = .ok plan.spans) :
    2 * plan.length ≤ (plan.slices lines).length := by
  rw [← List.countP_true]
  apply DeletionPlan.le_countP_slices
  intro span hm
  have hb := findGetters_bounds h span hm
  rw [List.countP_true, Span.length_slice hb.2]
  omega

private theorem length_le_countP_slices {lines : List Text} {plan : DeletionPlan}
    (h : findGetters lines = .ok plan.spans) :
    plan.length ≤ (plan.slices lines).countP isMarker := by
  rw [← Nat.one_mul plan.length]
  apply DeletionPlan.le_countP_slices
  intro span hm
  have hb := findGetters_bounds h span hm
  obtain ⟨marker, hmarker, -⟩ := ((findGetters_eq_ok_iff _ _).mp h).getters span hm
  obtain ⟨line, hline, hof⟩ := Option.bind_eq_some_iff.mp hmarker
  have hfirst : (span.slice lines)[0]? = some line := by
    rw [Span.getElem?_slice (by omega)]
    exact hline
  exact List.countP_pos_iff.mpr ⟨line, List.mem_of_getElem? hfirst, by simp [isMarker, hof]⟩

private theorem two_mul_removed_le (content : Text) :
    2 * (sweep content).removed ≤ (splitLines content).length := by
  induction content using sweep_induction with
  | failed content fault hf => simp [Sweep.removed]
  | clean content hf => simp [Sweep.removed]
  | pass content plan later hf hne ih =>
    have hslices := two_mul_length_le_slices hf
    have hleft := plan.length_apply_le (splitLines content)
    rw [Sweep.removed_cons]
    dsimp only
    by_cases he : plan.apply (splitLines content) = []
    · -- The one line that is read again from nothing holds no getter.
      have hone : (splitLines (joinLines [])).length = 1 := rfl
      rw [he, hone] at ih
      omega
    · rw [splitLines_joinLines_of_sublist (plan.apply_sublist _) he] at ih
      omega

private theorem removed_le_countP_slices (content : Text) :
    (sweep content).removed ≤ (sweep content).slices.countP isMarker := by
  induction content using sweep_induction with
  | failed content fault hf => simp [Sweep.removed]
  | clean content hf => simp [Sweep.removed]
  | pass content plan later hf hne ih =>
    have hslices := length_le_countP_slices hf
    rw [Sweep.removed_cons, Sweep.slices_cons, List.countP_append]
    exact Nat.add_le_add hslices ih

private theorem countP_isMarker_filter (lines : List Text) :
    (lines.filter holdsText).countP isMarker = lines.countP isMarker := by
  rw [List.countP_filter]
  congr 1
  funext line
  cases hm : Marker.ofLine? line with
  | none => simp [isMarker, hm]
  | some marker => simp [isMarker, hm, holdsText, isBlank_of_ofLine? hm]

private theorem countP_isMarker_sweepSource (settings : Settings) (source : Text) :
    (splitLines (sweepSource settings source).content).countP isMarker +
      (sweepSource settings source).removed ≤ (splitLines source).countP isMarker := by
  have hslices := removed_le_countP_slices (dropImports settings.deadImports source)
  have hcount := (perm_sweepSource settings source).countP_eq isMarker
  rw [List.countP_append, countP_isMarker_filter, countP_isMarker_filter, countP_isMarker_filter,
    lostLines, List.countP_append] at hcount
  rw [sweepSource] at hcount ⊢
  omega

private theorem length_splitLines_le {content source : Text} (h : Excerpt content source) :
    (splitLines content).length ≤ (splitLines source).length := by
  rcases h.eq_nil_or_sublist with rfl | hs
  · exact List.length_pos_iff.mpr (splitLines_ne_nil source)
  · exact hs.length_le

private theorem status_ne_unmodified {settings : Settings} {fs : FileSystem} {path : Path}
    {source : Text} {pruned : Pruned} (hr : readSource fs path = .ok source)
    (hp : prune settings source = .ok pruned) (hc : pruned.content ≠ source) :
    (processFile settings fs path).1.status ≠ .unmodified := by
  intro hs
  obtain ⟨found, other, hread, hother, he⟩ :=
    (processFile_outcome settings fs path).unmodified_iff.mp hs
  have hsource : source = found := Except.ok.inj (hr.symm.trans (readSource_of_readText hread))
  rw [← hsource, hp] at hother
  rw [← Except.ok.inj hother, ← hsource] at he
  exact hc he

/-- A sweep is a run of turns to a text that allows none, and no run of turns is endless, because
each has fewer lines to read than the one before. What is pruned holds at least as many markers as
getters were removed and twice as many lines, and it has become shorter if a getter was removed or
anything else was changed. -/
theorem prune_makes_progress (settings : Settings) (source : Text) :
    (WellFounded fun after before => Turn before after) ∧
      Relation.ReflTransGen Turn (dropImports settings.deadImports source)
        (sweepSource settings source).content ∧
      (∀ after, ¬Turn (sweepSource settings source).content after) ∧
      (∀ before after, Turn before after →
        (splitLines after).length < (splitLines before).length) ∧
      ∀ pruned, prune settings source = .ok pruned →
        pruned.removed ≤ (splitLines source).countP isMarker ∧
          2 * pruned.removed ≤ (splitLines source).length ∧
          (pruned.content = source ∨ pruned.content.length < source.length) ∧
          (0 < pruned.removed → pruned.content.length < source.length ∧
            ∀ fs path, readSource fs path = .ok source →
              (processFile settings fs path).1.status ≠ .unmodified) := by
  refine ⟨turn_wellFounded, turns_sweep _, not_turn_sweep _, fun _ _ => length_lt_of_turn, ?_⟩
  intro pruned h
  obtain ⟨-, rfl, -⟩ := (prune_eq_ok_iff settings source pruned).mp h
  have hmarkers := countP_isMarker_sweepSource settings source
  have hlines := two_mul_removed_le (dropImports settings.deadImports source)
  have hlive := length_splitLines_le (excerpt_dropImports settings.deadImports source)
  have hshort := (excerpt_sweepSource settings source).eq_or_length_lt
  dsimp only
  refine ⟨by omega, ?_, hshort, ?_⟩
  · rw [sweepSource]
    omega
  · intro hpos
    have hne : (sweepSource settings source).content ≠ source := by
      intro he
      rw [he] at hmarkers
      omega
    refine ⟨hshort.resolve_left hne, ?_⟩
    intro fs path hr
    exact status_ne_unmodified hr h hne

private theorem readSource_oneFile (content : Text) :
    readSource (oneFile content) ['a'] = .ok content :=
  readSource_of_readText (readText_oneFile content)

theorem prune_makes_progress_stacked :
    Turn (joinLines unstackingPass.lines) (joinLines joiningPass.lines) ∧
      (splitLines (joinLines joiningPass.lines)).length <
        (splitLines (joinLines unstackingPass.lines)).length ∧
      prune importless stackedSource = .ok ⟨joinLines stackedLeft, 2⟩ ∧
      2 ≤ (splitLines stackedSource).countP isMarker ∧
      2 * 2 ≤ (splitLines stackedSource).length ∧
      (joinLines stackedLeft).length < stackedSource.length ∧
      readSource (oneFile stackedSource) ['a'] = .ok stackedSource ∧
      (processFile importless (oneFile stackedSource) ['a']).1.status ≠ .unmodified := by
  have hturn : Turn (joinLines unstackingPass.lines) (joinLines joiningPass.lines) := by
    refine ⟨unstackingPass.plan, ?_, by simp [unstackingPass], by rw [splitLines_unstacking]; rfl⟩
    rw [getterPlan_eq_ok_iff, splitLines_unstacking]
    rfl
  obtain ⟨-, -, -, hturns, hpruned⟩ := prune_makes_progress importless stackedSource
  obtain ⟨hmarkers, hlines, -, hremoved⟩ := hpruned _ prune_stacked
  obtain ⟨hshorter, hstatus⟩ := hremoved (by decide)
  exact ⟨hturn, hturns _ _ hturn, prune_stacked, hmarkers, hlines, hshorter,
    readSource_oneFile _, hstatus _ _ (readSource_oneFile _)⟩

end DartSweep
