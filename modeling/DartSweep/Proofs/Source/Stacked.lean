import DartSweep.Proofs.Getter.Findings
import DartSweep.Proofs.Source.Provenance
import DartSweep.Proofs.Text.Numbered

/-!
# Stacked markers

A marker that a pass leaves is stray there. It gets its getter in the next scan only if the pass
deleted a getter of the other marker right behind it. So where no marker stands right behind
another, one pass is enough.
-/
namespace DartSweep

private theorem skippableAt_of_blankAt {lines : List Text} {index : Nat} (h : BlankAt lines index) :
    SkippableAt lines index := by
  rw [BlankAt] at h
  rw [SkippableAt]
  cases hl : lines[index]? with
  | none => simp [hl] at h
  | some line =>
    rw [hl] at h
    exact isSkippable_of_isBlank h

namespace Pass

/-- Right behind the line comes a getter of another marker, which the pass deletes. -/
def Blocks (pass : Pass) (marker : Marker) (line : Nat) : Prop :=
  ∃ span ∈ pass.plan.spans, line < span.start ∧
    (∀ i, line < i → i < span.start → SkippableAt pass.lines i) ∧
      ∃ other, markerAt? pass.lines span.start = some other ∧ other ≠ marker

/-- The index that the line with the given index in what the pass leaves had before the pass. -/
def origin? (pass : Pass) (index : Nat) : Option Nat :=
  (pass.leaves pass.lines.zipIdx)[index]?.map Prod.snd

section
variable {pass : Pass} (hf : findGetters pass.lines = .ok pass.plan.spans)
include hf

private theorem map_fst_leaves : (pass.leaves pass.lines.zipIdx).map Prod.fst = pass.result := by
  have hstage : Stage.Faithful ⟨pass, pass.lines.zipIdx⟩ :=
    Stage.faithful (List.zipIdx_map_fst 0 pass.lines) hf
  exact hstage.after

private theorem getElem?_of_origin {index earlier : Nat} (h : pass.origin? index = some earlier) :
    pass.result[index]? = pass.lines[earlier]? := by
  obtain ⟨entry, hentry, rfl⟩ := Option.map_eq_some_iff.mp h
  rw [← map_fst_leaves hf, List.getElem?_map, hentry,
    getElem?_of_entry (leaves_sublist pass _) hentry]
  rfl

private theorem exists_origin {index : Nat} {line : Text} (h : pass.result[index]? = some line) :
    ∃ earlier, pass.origin? index = some earlier ∧ pass.lines[earlier]? = some line ∧
      pass.plan.Keeps pass.lines earlier := by
  have hmap := h
  rw [← map_fst_leaves hf, List.getElem?_map] at hmap
  obtain ⟨entry, hentry, -⟩ := Option.map_eq_some_iff.mp hmap
  have horigin : pass.origin? index = some entry.2 := by
    rw [origin?, hentry]
    rfl
  refine ⟨entry.2, horigin, ?_, keep_of_mem_keptFrom _ (List.mem_of_getElem? hentry)⟩
  rw [← getElem?_of_origin hf horigin, h]

private theorem exists_index_of_keeps {earlier : Nat} {line : Text}
    (h : pass.lines[earlier]? = some line) (hk : pass.plan.Keeps pass.lines earlier) :
    ∃ index, pass.origin? index = some earlier ∧ pass.result[index]? = some line := by
  have hentry : pass.lines.zipIdx[earlier]? = some (line, earlier) := by
    rw [List.getElem?_zipIdx, h, Nat.zero_add]
    rfl
  have hm : (line, earlier) ∈ pass.leaves pass.lines.zipIdx := by
    apply mem_keptFrom_of_getElem? _ hentry
    rwa [Nat.zero_add]
  obtain ⟨index, hi⟩ := List.mem_iff_getElem?.mp hm
  refine ⟨index, by rw [origin?, hi]; rfl, ?_⟩
  rw [← map_fst_leaves hf, List.getElem?_map, hi]
  rfl

omit hf in
private theorem lt_iff_origin_lt {index later earlier next : Nat}
    (hi : pass.origin? index = some earlier)
    (hl : pass.origin? later = some next) : index < later ↔ earlier < next := by
  obtain ⟨entry, hentry, rfl⟩ := Option.map_eq_some_iff.mp hi
  obtain ⟨other, hother, rfl⟩ := Option.map_eq_some_iff.mp hl
  exact number_lt_iff (leaves_sublist pass _) hentry hother

/-- Where a pass brings a stray marker next to its getter, it deletes the line that kept the two
apart. -/
private theorem exists_covered_code {index signature earlier : Nat} {marker : Marker}
    (hs : marker.SignatureAt pass.result index signature)
    (ho : pass.origin? index = some earlier) (hm : markerAt? pass.lines earlier = some marker)
    (hstray : StrayAt pass.lines earlier) :
    ∃ code, earlier < code ∧ (∀ i, earlier < i → i < code → SkippableAt pass.lines i) ∧
      ¬SkippableAt pass.lines code ∧ Covered pass.plan.spans code := by
  obtain ⟨line, hline, hcode, hsig⟩ := hs.found
  obtain ⟨found, hfound, hlfound, -⟩ := exists_origin hf hline
  have hlt : earlier < found := (lt_iff_origin_lt ho hfound).mp hs.behind
  have hnot : ¬SkippableAt pass.lines found := by simp [SkippableAt, hlfound, hcode]
  obtain ⟨code, hbehind, hle, hbetween, hnot⟩ := exists_first_code hlt hnot
  refine ⟨code, hbehind, hbetween, hnot, ?_⟩
  -- If the pass left this line, the look-ahead would end at it in both scans. So it would hold the
  -- signature, and the marker would not have been stray.
  by_contra hc
  obtain ⟨text, htext⟩ : ∃ text, pass.lines[code]? = some text := by
    have hfoundlt := (List.getElem?_eq_some_iff.mp hlfound).1
    exact ⟨_, List.getElem?_eq_getElem (by omega)⟩
  have hkeeps : pass.plan.Keeps pass.lines code :=
    ⟨hc, fun hblank => hnot (skippableAt_of_blankAt hblank.1)⟩
  obtain ⟨kept, hkept, hresult⟩ := exists_index_of_keeps hf htext hkeeps
  have hbehind' : index < kept := (lt_iff_origin_lt ho hkept).mpr hbehind
  have hsame : code = found := by
    by_contra hne
    have hbefore : kept < signature := (lt_iff_origin_lt hkept hfound).mpr (by omega)
    have hskip := hs.between kept hbehind' hbefore
    rw [SkippableAt, hresult] at hskip
    rw [SkippableAt, htext] at hnot
    exact hnot hskip
  rw [hsame] at hbehind hbetween
  have hearlier : marker.SignatureAt pass.lines earlier found :=
    ⟨hbehind, ⟨line, hlfound, hcode, hsig⟩, hbetween⟩
  exact hearlier.not_stray hm hstray

/-- A marker that a pass leaves next to its getter stood, with only skippable lines between, before
a getter of the other marker that the pass deleted. -/
private theorem exists_span_of_signatureAt {index signature : Nat} {marker : Marker}
    (hm : markerAt? pass.result index = some marker)
    (hs : marker.SignatureAt pass.result index signature) :
    ∃ earlier, pass.origin? index = some earlier ∧ markerAt? pass.lines earlier = some marker ∧
      ¬Covered pass.plan.spans earlier ∧
      pass.Blocks marker earlier := by
  have hd := (findGetters_eq_ok_iff _ _).mp hf
  obtain ⟨line, hline, hof⟩ := Option.bind_eq_some_iff.mp hm
  obtain ⟨earlier, horigin, hearlier, hkeeps⟩ := exists_origin hf hline
  have hmarker : markerAt? pass.lines earlier = some marker := by
    rw [markerAt?, hearlier]
    exact hof
  have hstray : StrayAt pass.lines earlier :=
    hd.strays earlier (Nat.zero_le _) (markerAt?_lt hmarker) hkeeps.1
  obtain ⟨code, hbehind, hbetween, hnot, span, hspan, hcovers⟩ :=
    exists_covered_code hf hs horigin hmarker hstray
  obtain ⟨other, hother, otherSignature, hsignature⟩ :=
    (hd.getters span hspan).exists_signatureAt
  have hstart : earlier < span.start := by
    by_contra hle
    exact hkeeps.1 ⟨span, hspan, Nat.not_lt.mp hle, Nat.lt_trans hbehind hcovers.2⟩
  have hcode : span.start < code := by
    refine Nat.lt_of_le_of_ne hcovers.1 fun he => hnot ?_
    rw [← he]
    exact skippableAt_of_markerAt? hother
  have hsame : otherSignature = code :=
    hsignature.eq_of_code hcode (fun i hl hh => hbetween i (by omega) hh) hnot
  refine ⟨earlier, horigin, hmarker, hkeeps.1, span, hspan, hstart,
    fun i hl hh => hbetween i hl (by omega), other, hother, ?_⟩
  -- A getter of the same marker would have been the stray marker's own.
  intro he
  subst he
  have hown : other.SignatureAt pass.lines earlier code :=
    ⟨hbehind, hsame ▸ hsignature.found, hbetween⟩
  exact hown.not_stray hmarker hstray

end
end Pass

/-- The same when the lines are read again from the text that the pass leaves. -/
private theorem Pass.exists_span {pass : Pass} {before : Text} (hl : pass.lines = splitLines before)
    (hf : findGetters pass.lines = .ok pass.plan.spans) {index : Nat} {marker : Marker}
    (hm : markerAt? (splitLines (joinLines pass.result)) index = some marker)
    (he : marker.extentAt (splitLines (joinLines pass.result)) index ≠ .absent) :
    ∃ earlier, pass.origin? index = some earlier ∧
      (splitLines (joinLines pass.result))[index]? = pass.lines[earlier]? ∧
        .stray marker earlier ∈ scan pass.lines ∧ pass.Blocks marker earlier := by
  -- The line that is read again from nothing holds no marker.
  have hne : pass.result ≠ [] := by
    intro hnil
    rw [hnil] at hm
    have hnone : markerAt? (splitLines (joinLines [])) index = none := by
      cases index <;> rfl
    simp [hnone] at hm
  have hs : pass.result.Sublist (splitLines before) := hl ▸ pass.plan.apply_sublist pass.lines
  rw [splitLines_joinLines_of_sublist hs hne] at hm he ⊢
  obtain ⟨signature, hsig⟩ := extentAt_ne_absent_iff.mp he
  obtain ⟨earlier, horigin, hmarker, hc, hspan⟩ := exists_span_of_signatureAt hf hm hsig
  exact ⟨earlier, horigin, getElem?_of_origin hf horigin, stray_mem_scan hf hmarker hc, hspan⟩

/-- The lines that the scans of the sweep read, in order. The last scan deletes nothing. -/
def Sweep.scanned (sweep : Sweep) : List (List Text) :=
  sweep.passes.map Pass.lines ++ [splitLines sweep.content]

/-- Each pass deletes the getters in the lines it read, and the next scan reads what it leaves. -/
theorem sweep_linked (content : Text) :
    (sweep content).scanned.head? = some (splitLines content) ∧
      ∀ k pass next, (sweep content).passes[k]? = some pass →
        (sweep content).scanned[k + 1]? = some next →
          (∃ before, pass.lines = splitLines before) ∧
            findGetters pass.lines = .ok pass.plan.spans ∧
              next = splitLines (joinLines pass.result) := by
  induction content using sweep_induction with
  | failed content fault hf => simp [Sweep.scanned]
  | clean content hf => simp [Sweep.scanned]
  | pass content plan later hf hne ih =>
    obtain ⟨hhead, hlinked⟩ := ih
    refine ⟨rfl, ?_⟩
    intro k pass next hp hn
    cases k with
    | zero =>
      have hpass : ⟨splitLines content, plan⟩ = pass := Option.some.inj hp
      have hnext : later.scanned[0]? = some next := hn
      rw [← List.head?_eq_getElem?, hhead] at hnext
      subst hpass
      exact ⟨⟨content, rfl⟩, hf, (Option.some.inj hnext).symm⟩
    | succ k => exact hlinked k pass next hp hn

/-- Both lines hold markers, and only skippable lines stand between them. -/
def StackedAt (lines : List Text) (upper lower : Nat) : Prop :=
  (markerAt? lines upper).isSome ∧ (markerAt? lines lower).isSome ∧
    ∀ i < lower, upper < i → SkippableAt lines i

instance (lines : List Text) (upper lower : Nat) : Decidable (StackedAt lines upper lower) :=
  inferInstanceAs (Decidable (_ ∧ _ ∧ _))

def Unstacked (lines : List Text) : Prop :=
  ∀ lower, ∀ upper < lower, ¬StackedAt lines upper lower

private theorem unstacked_iff {lines : List Text} :
    Unstacked lines ↔ ∀ lower < lines.length, ∀ upper < lower, ¬StackedAt lines upper lower := by
  constructor
  · exact fun h lower _ => h lower
  · intro h lower upper hlt hs
    obtain ⟨marker, hm⟩ := Option.isSome_iff_exists.mp hs.2.1
    exact h lower (markerAt?_lt hm) upper hlt hs

instance : DecidablePred Unstacked := fun _ => decidable_of_iff' _ unstacked_iff

/-- Pruning with a single scan and at most one pass. -/
def pruneOnce (settings : Settings) (source : Text) : Except Fault Pruned := do
  let live := dropImports settings.deadImports source
  let plan ← getterPlan (splitLines live)
  let content := if plan.isEmpty then live else joinLines (plan.apply (splitLines live))
  let _ ← Census.check settings.classKeyword source content
  return ⟨content, plan.length⟩

private theorem strayAt_of_unstacked {pass : Pass} {before : Text}
    (hl : pass.lines = splitLines before)
    (hf : findGetters pass.lines = .ok pass.plan.spans) (hu : Unstacked pass.lines) (index : Nat) :
    StrayAt (splitLines (joinLines pass.result)) index := by
  intro marker hm
  by_contra he
  obtain ⟨earlier, -, -, hstray, span, -, hlt, hbetween, other, hother, -⟩ :=
    pass.exists_span hl hf hm he
  have hmarker : markerAt? pass.lines earlier = some marker := (holds_of_mem_scan hstray).marker
  refine hu span.start earlier hlt ⟨by rw [hmarker]; rfl, by rw [hother]; rfl, ?_⟩
  exact fun i hh hl => hbetween i hl hh

private theorem pruneOnce_of_plan {settings : Settings} {source : Text} {plan : DeletionPlan}
    (hp : getterPlan (splitLines (dropImports settings.deadImports source)) = .ok plan) :
    pruneOnce settings source =
      let content := if plan.isEmpty then dropImports settings.deadImports source
        else joinLines (plan.apply (splitLines (dropImports settings.deadImports source)))
      (Census.check settings.classKeyword source content).map fun _ => ⟨content, plan.length⟩ := by
  simp only [pruneOnce, hp, bind, Except.bind, pure, Except.pure]
  rfl

private theorem prune_eq_pruneOnce {settings : Settings} {source : Text}
    (hu : Unstacked (splitLines (dropImports settings.deadImports source))) :
    prune settings source = pruneOnce settings source := by
  cases hf : findGetters (splitLines (dropImports settings.deadImports source)) with
  | error fault =>
    have hp := getterPlan_of_error hf
    rw [prune, sweepSource, sweep_of_error hp, pruneOnce, hp]
    rfl
  | ok spans =>
    obtain ⟨plan, rfl, hp⟩ := exists_getterPlan hf
    rw [pruneOnce_of_plan hp]
    by_cases hne : plan.spans = []
    · have hsweep : sweepSource settings source = _ := sweep_of_empty hp hne
      rw [prune_eq_check (by rw [hsweep]), hsweep, DeletionPlan.isEmpty, DeletionPlan.length, hne]
      rfl
    · have hstray := strayAt_of_unstacked
        (show Pass.lines ⟨splitLines (dropImports settings.deadImports source), plan⟩ = _ from rfl)
        hf hu
      have hclean := (findGetters_eq_nil_iff _).mpr hstray
      have hsweep : sweepSource settings source = _ :=
        sweep_of_single hf hne hclean
      have hplan : plan.isEmpty = false := by
        simpa [DeletionPlan.isEmpty] using hne
      rw [prune_eq_check (by rw [hsweep]), hsweep, hplan]
      rfl

/-- A marker that any scan but the first finds with a getter was stray in the scan before. Right
behind it came a getter of the other marker, which the pass in between deleted. So pruning ends
after one pass where no marker stands right behind another. -/
theorem later_getters_were_blocked (settings : Settings) (source : Text) :
    (∀ k pass next, (sweepSource settings source).passes[k]? = some pass →
      (sweepSource settings source).scanned[k + 1]? = some next →
        ∀ finding ∈ scan next, finding.extent ≠ .absent →
          ∃ earlier, pass.origin? finding.line = some earlier ∧
            next[finding.line]? = pass.lines[earlier]? ∧
              .stray finding.marker earlier ∈ scan pass.lines ∧
                pass.Blocks finding.marker earlier) ∧
      (Unstacked (splitLines (dropImports settings.deadImports source)) →
        prune settings source = pruneOnce settings source) := by
  refine ⟨?_, prune_eq_pruneOnce⟩
  intro k pass next hp hn finding hm he
  obtain ⟨-, hlinked⟩ := sweep_linked (dropImports settings.deadImports source)
  obtain ⟨⟨before, hlines⟩, hf, rfl⟩ := hlinked k pass next hp hn
  obtain ⟨hmarker, hextent⟩ := holds_of_mem_scan hm
  rw [← hextent] at he
  exact pass.exists_span hlines hf hmarker he

theorem later_getters_were_blocked_stacked :
    .oneLine .displayType ⟨2, 4⟩ ∈ scan joiningPass.lines ∧
      (∃ earlier, unstackingPass.origin? 2 = some earlier ∧
        joiningPass.lines[2]? = unstackingPass.lines[earlier]? ∧
          .stray .displayType earlier ∈ scan unstackingPass.lines ∧
            unstackingPass.Blocks .displayType earlier) ∧
      ¬Unstacked unstackingPass.lines ∧
      Unstacked joiningPass.lines ∧
      prune importless (joinLines joiningPass.lines) =
        pruneOnce importless (joinLines joiningPass.lines) := by
  have hdrop : dropImports importless.deadImports (joinLines joiningPass.lines) =
      joinLines joiningPass.lines := by
    rw [dropImports_eq, splitLines_joining]
    rfl
  have hfound : .oneLine .displayType ⟨2, 4⟩ ∈ scan joiningPass.lines := by decide +kernel
  have hunstacked : Unstacked joiningPass.lines := by decide +kernel
  refine ⟨hfound, ?_, by decide +kernel, hunstacked, ?_⟩
  · obtain ⟨hblocked, -⟩ := later_getters_were_blocked importless stackedSource
    rw [sweepSource_stacked] at hblocked
    exact hblocked 0 unstackingPass joiningPass.lines rfl rfl _ hfound (by simp [Finding.extent])
  · apply (later_getters_were_blocked importless _).2
    rw [hdrop, splitLines_joining]
    exact hunstacked

end DartSweep
