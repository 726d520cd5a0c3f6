import DartSweep.Proofs.Edit.Apart
import DartSweep.Getter.Scan
import Mathlib.Data.Set.Subsingleton

/-!
# Decomposition of lines into getters

A scan cuts the lines into getters and what stands between them, from the first line to the last.
The cut is described here by what a reader can check at each line, and the scan is shown to find
the only such cut or to stop at the first getter that never closes.
-/
namespace DartSweep

def markerAt? (lines : List Text) (index : Nat) : Option Marker :=
  lines[index]?.bind Marker.ofLine?

def findingsFrom (lines : List Text) (index : Nat) : List Finding :=
  scanFrom index 0 (lines.drop index)

def gettersFrom (lines : List Text) (index : Nat) : Except Fault (List Span) :=
  getterSpans (scanFrom index 0 (lines.drop index))

/-- A getter begins with a marker on the line with the index and ends before the line `stop`. -/
def GetterAt (lines : List Text) (index stop : Nat) : Prop :=
  ∃ marker, markerAt? lines index = some marker ∧
    (marker.extentAt lines index).stop? = some stop

/-- A getter begins with a marker on the line with the index and never closes. -/
def UnclosedAt (lines : List Text) (index signature : Nat) : Prop :=
  ∃ marker, markerAt? lines index = some marker ∧
    marker.extentAt lines index = .unclosed signature

/-- If there is a marker on the line with the index, its getter does not follow. -/
def StrayAt (lines : List Text) (index : Nat) : Prop :=
  ∀ marker, markerAt? lines index = some marker → marker.extentAt lines index = .absent

/-- The spans are those of getters between two indices, in ascending order, and the markers there
that stand in none of them are stray. -/
structure Decomposition (lines : List Text) (low high : Nat) (spans : List Span) : Prop where
  ordered : low ≤ high
  inside : ∀ span ∈ spans, low ≤ span.start ∧ span.start + 2 ≤ span.stop ∧ span.stop ≤ high
  apart : spans.IsChain Span.Apart
  getters : ∀ span ∈ spans, GetterAt lines span.start span.stop
  strays : ∀ index, low ≤ index → index < high → ¬Covered spans index → StrayAt lines index

private theorem scanFrom_passed (index passed : Nat) (lines : List Text) :
    scanFrom index passed lines = scanFrom (index + passed) 0 (lines.drop passed) := by
  induction lines generalizing index passed with
  | nil => cases passed <;> rfl
  | cons line rest ih =>
    cases passed with
    | zero => rfl
    | succ passed =>
      rw [scanFrom, ih, List.drop_succ_cons]
      congr 1
      omega

theorem markerAt?_lt {lines : List Text} {index : Nat} {marker : Marker}
    (h : markerAt? lines index = some marker) : index < lines.length := by
  by_contra hlt
  have hnone : lines[index]? = none := List.getElem?_eq_none (Nat.not_lt.mp hlt)
  simp [markerAt?, hnone] at h

theorem GetterAt.bounds {lines : List Text} {index stop : Nat} (h : GetterAt lines index stop) :
    index + 2 ≤ stop ∧ stop ≤ lines.length := by
  obtain ⟨marker, -, hs⟩ := h
  rw [Marker.extentAt, Extent.stop?_shift] at hs
  obtain ⟨length, hl, rfl⟩ := Option.map_eq_some_iff.mp hs
  have hb := Marker.extent_bounds hl
  rw [List.length_drop] at hb
  omega

theorem GetterAt.unique {lines : List Text} {index stop other : Nat}
    (h : GetterAt lines index stop) (h' : GetterAt lines index other) : stop = other := by
  obtain ⟨marker, hm, hs⟩ := h
  obtain ⟨marker', hm', hs'⟩ := h'
  have he : marker = marker' := Option.some.inj (hm.symm.trans hm')
  subst he
  exact Option.some.inj (hs.symm.trans hs')

theorem GetterAt.not_stray {lines : List Text} {index stop : Nat}
    (h : GetterAt lines index stop) : ¬StrayAt lines index := by
  obtain ⟨marker, hm, hs⟩ := h
  intro hstray
  rw [hstray marker hm] at hs
  simp [Extent.stop?] at hs

theorem UnclosedAt.not_stray {lines : List Text} {index signature : Nat}
    (h : UnclosedAt lines index signature) : ¬StrayAt lines index := by
  obtain ⟨marker, hm, hu⟩ := h
  intro hstray
  simp [hstray marker hm] at hu

private theorem UnclosedAt.not_getter {lines : List Text} {index signature stop : Nat}
    (h : UnclosedAt lines index signature) : ¬GetterAt lines index stop := by
  obtain ⟨marker, hm, hu⟩ := h
  intro hex
  obtain ⟨marker', hm', hs⟩ := hex
  have he : marker = marker' := Option.some.inj (hm.symm.trans hm')
  subst he
  simp [hu, Extent.stop?] at hs

theorem UnclosedAt.unique {lines : List Text} {index signature other : Nat}
    (h : UnclosedAt lines index signature) (h' : UnclosedAt lines index other) :
    signature = other := by
  obtain ⟨marker, hm, hu⟩ := h
  obtain ⟨marker', hm', hu'⟩ := h'
  have he : marker = marker' := Option.some.inj (hm.symm.trans hm')
  subst he
  exact Extent.unclosed.inj (hu.symm.trans hu')

/-- A line begins nothing, a getter, or a getter that never closes. -/
theorem stray_or_getter_or_unclosed (lines : List Text) (index : Nat) :
    StrayAt lines index ∨ (∃ stop, GetterAt lines index stop) ∨
      ∃ signature, UnclosedAt lines index signature := by
  cases hm : markerAt? lines index with
  | none =>
    left
    intro marker h
    simp [hm] at h
  | some marker =>
    cases he : marker.extentAt lines index with
    | absent =>
      left
      intro marker' h
      have hmarker : marker = marker' := Option.some.inj (hm.symm.trans h)
      rw [← hmarker, he]
    | oneLine stop =>
      right; left
      exact ⟨stop, marker, hm, by rw [he]; rfl⟩
    | body stop form =>
      right; left
      exact ⟨stop, marker, hm, by rw [he]; rfl⟩
    | unclosed signature =>
      right; right
      exact ⟨signature, marker, hm, he⟩

theorem gettersFrom_of_length_le {lines : List Text} {index : Nat}
    (h : lines.length ≤ index) : gettersFrom lines index = .ok [] := by
  rw [gettersFrom, List.drop_eq_nil_of_le h]
  rfl

theorem findingsFrom_step {lines : List Text} {index : Nat} (h : index < lines.length) :
    findingsFrom lines index =
      match markerAt? lines index with
      | none => findingsFrom lines (index + 1)
      | some marker =>
        match marker.extentAt lines index with
        | .absent => .stray marker index :: findingsFrom lines (index + 1)
        | .oneLine stop => .oneLine marker ⟨index, stop⟩ :: findingsFrom lines stop
        | .body stop form => .body marker ⟨index, stop⟩ form :: findingsFrom lines stop
        | .unclosed signature => [.unclosed marker index signature] := by
  have hm : markerAt? lines index = Marker.ofLine? lines[index] := by
    rw [markerAt?, List.getElem?_eq_getElem h]
    rfl
  rw [findingsFrom, List.drop_eq_getElem_cons h, scanFrom, hm]
  cases Marker.ofLine? lines[index] with
  | none => rfl
  | some marker =>
    dsimp only
    rw [Marker.extentAt]
    cases marker.extent (lines.drop (index + 1)) with
    | absent => rfl
    | oneLine length =>
      dsimp only [Extent.shift]
      rw [scanFrom_passed, List.drop_drop, findingsFrom, Nat.add_comm length]
    | body length form =>
      dsimp only [Extent.shift]
      rw [scanFrom_passed, List.drop_drop, findingsFrom, Nat.add_comm length]
    | unclosed signature =>
      dsimp only [Extent.shift]
      rw [Nat.add_comm signature]

private theorem gettersFrom_step {lines : List Text} {index : Nat} (h : index < lines.length) :
    gettersFrom lines index =
      match markerAt? lines index with
      | none => gettersFrom lines (index + 1)
      | some marker =>
        match marker.extentAt lines index with
        | .absent => gettersFrom lines (index + 1)
        | .oneLine stop => (gettersFrom lines stop).map (⟨index, stop⟩ :: ·)
        | .body stop _ => (gettersFrom lines stop).map (⟨index, stop⟩ :: ·)
        | .unclosed signature => .error (.unterminated (index + 1) (signature + 1)) := by
  have hstep := congrArg getterSpans (findingsFrom_step h)
  rw [gettersFrom, ← findingsFrom, hstep]
  cases markerAt? lines index with
  | none => rfl
  | some marker =>
    dsimp only
    cases marker.extentAt lines index <;> rfl

theorem gettersFrom_of_stray {lines : List Text} {index : Nat} (h : index < lines.length)
    (hs : StrayAt lines index) : gettersFrom lines index = gettersFrom lines (index + 1) := by
  rw [gettersFrom_step h]
  cases hm : markerAt? lines index with
  | none => rfl
  | some marker =>
    dsimp only
    rw [hs marker hm]

theorem gettersFrom_of_getter {lines : List Text} {index stop : Nat}
    (h : GetterAt lines index stop) :
    gettersFrom lines index = (gettersFrom lines stop).map (⟨index, stop⟩ :: ·) := by
  have hb := h.bounds
  obtain ⟨marker, hm, hs⟩ := h
  rw [gettersFrom_step (by omega), hm]
  dsimp only
  cases he : marker.extentAt lines index with
  | absent => simp [he, Extent.stop?] at hs
  | unclosed signature => simp [he, Extent.stop?] at hs
  | oneLine stop' | body stop' _ =>
    rw [he] at hs
    have hstop : stop' = stop := Option.some.inj hs
    rw [hstop]

theorem gettersFrom_of_unclosed {lines : List Text} {index signature : Nat}
    (h : UnclosedAt lines index signature) :
    gettersFrom lines index = .error (.unterminated (index + 1) (signature + 1)) := by
  obtain ⟨marker, hm, hu⟩ := h
  rw [gettersFrom_step (markerAt?_lt hm), hm]
  dsimp only
  rw [hu]

/-- A scan ends behind the lines or at a getter that never closes; otherwise it goes on with the
next line or behind a getter. -/
theorem scan_induction (lines : List Text) {motive : Nat → Prop}
    (past : ∀ index, lines.length ≤ index → motive index)
    (stray : ∀ index, index < lines.length → StrayAt lines index → motive (index + 1) →
      motive index)
    (getter : ∀ index stop, GetterAt lines index stop → motive stop → motive index)
    (unclosed : ∀ index signature, UnclosedAt lines index signature → motive index)
    (index : Nat) : motive index := by
  induction hn : lines.length - index using Nat.strong_induction_on generalizing index with
  | _ left ih =>
    by_cases hlen : lines.length ≤ index
    · exact past index hlen
    · rcases stray_or_getter_or_unclosed lines index with hs | ⟨stop, hg⟩ | ⟨signature, hu⟩
      · apply stray index (by omega) hs
        exact ih _ (by omega) (index + 1) rfl
      · have hb := hg.bounds
        apply getter index stop hg
        exact ih _ (by omega) stop rfl
      · exact unclosed index signature hu

theorem Decomposition.start_le_stop {lines : List Text} {low high : Nat} {spans : List Span}
    (h : Decomposition lines low high spans) : ∀ span ∈ spans, span.start ≤ span.stop := by
  intro span hm
  have hb := h.inside span hm
  omega

def Decomposition.plan {lines : List Text} {low high : Nat} {spans : List Span}
    (h : Decomposition lines low high spans) : DeletionPlan where
  spans := spans
  ascending := ascending_of_isChain h.start_le_stop h.apart
  apart := (ascending_of_isChain h.start_le_stop h.apart).pairwise_apart
    ((firstOverlap?_eq_none_iff spans).mpr h.apart)

private theorem Decomposition.exists_start {lines : List Text} {low high : Nat} {spans : List Span}
    (h : Decomposition lines low high spans) (hlt : low < high) (hs : ¬StrayAt lines low) :
    ∃ span ∈ spans, span.start = low := by
  by_contra hn
  apply hs
  apply h.strays low (Nat.le_refl _) hlt
  intro hcov
  obtain ⟨span, hm, hc⟩ := hcov
  apply hn
  have hb := h.inside span hm
  have hstart : span.start ≤ low := hc.1
  exact ⟨span, hm, by omega⟩

private theorem decomposition_self_iff {lines : List Text} {low : Nat} {spans : List Span} :
    Decomposition lines low low spans ↔ spans = [] := by
  constructor
  · intro h
    apply List.eq_nil_iff_forall_not_mem.mpr
    intro span hm
    have hb := h.inside span hm
    omega
  · intro he
    subst he
    refine ⟨Nat.le_refl _, by simp, by simp, by simp, ?_⟩
    intro index hl hh
    omega

private theorem decomposition_stray_iff {lines : List Text} {low high : Nat} {spans : List Span}
    (hs : StrayAt lines low) (hlt : low < high) :
    Decomposition lines low high spans ↔ Decomposition lines (low + 1) high spans := by
  constructor
  · intro h
    refine ⟨hlt, ?_, h.apart, h.getters, ?_⟩
    · intro span hm
      have hb := h.inside span hm
      have hne : span.start ≠ low := by
        intro he
        exact (h.getters span hm).not_stray (he ▸ hs)
      omega
    · intro index hl hh hc
      exact h.strays index (by omega) hh hc
  · intro h
    refine ⟨by omega, ?_, h.apart, h.getters, ?_⟩
    · intro span hm
      have hb := h.inside span hm
      omega
    · intro index hl hh hc
      by_cases he : index = low
      · rw [he]
        exact hs
      · exact h.strays index (by omega) hh hc

private theorem Decomposition.head_eq {lines : List Text} {low high stop : Nat} {spans : List Span}
    (h : Decomposition lines low high spans) (hlt : low < high) (hg : GetterAt lines low stop) :
    ∃ rest, spans = ⟨low, stop⟩ :: rest := by
  obtain ⟨span, hm, hstart⟩ := h.exists_start hlt hg.not_stray
  cases spans with
  | nil => simp at hm
  | cons first rest =>
    have hself : first.start = low := by
      rcases List.mem_cons.mp hm with rfl | hm
      · exact hstart
      · have hstop : first.stop ≤ span.start := (List.pairwise_cons.mp h.plan.apart).1 span hm
        have hb := h.inside first (by simp)
        omega
    have hfirst := h.getters first (by simp)
    rw [hself] at hfirst
    have hstop : first.stop = stop := hfirst.unique hg
    exact ⟨rest, by rw [← hself, ← hstop]⟩

private theorem decomposition_getter_iff {lines : List Text} {low high stop : Nat}
    {spans : List Span} (hg : GetterAt lines low stop) (hlt : low < high) :
    Decomposition lines low high spans ↔
      ∃ rest, spans = ⟨low, stop⟩ :: rest ∧ Decomposition lines stop high rest := by
  have hb := hg.bounds
  constructor
  · intro h
    obtain ⟨rest, rfl⟩ := h.head_eq hlt hg
    have hfirst := h.inside ⟨low, stop⟩ (by simp)
    refine ⟨rest, rfl, hfirst.2.2, ?_, h.apart.tail, ?_, ?_⟩
    · intro span hm
      have hspan := h.inside span (List.mem_cons_of_mem _ hm)
      have hstop : stop ≤ span.start := (List.pairwise_cons.mp h.plan.apart).1 span hm
      exact ⟨hstop, hspan.2⟩
    · intro span hm
      exact h.getters span (List.mem_cons_of_mem _ hm)
    · intro index hl hh hc
      apply h.strays index (by omega) hh
      intro hcov
      obtain ⟨span, hm, hcovers⟩ := hcov
      rcases List.mem_cons.mp hm with rfl | hm
      · exact absurd hcovers.2 (Nat.not_lt.mpr hl)
      · exact hc ⟨span, hm, hcovers⟩
  · intro hex
    obtain ⟨rest, rfl, h⟩ := hex
    have hordered := h.ordered
    refine ⟨by omega, ?_, ?_, ?_, ?_⟩
    · intro span hm
      rcases List.mem_cons.mp hm with rfl | hm
      · exact ⟨Nat.le_refl _, hb.1, hordered⟩
      · have hspan := h.inside span hm
        omega
    · cases rest with
      | nil => simp
      | cons second rest =>
        have hsecond := h.inside second (by simp)
        exact List.isChain_cons_cons.mpr ⟨hsecond.1, h.apart⟩
    · intro span hm
      rcases List.mem_cons.mp hm with rfl | hm
      · exact hg
      · exact h.getters span hm
    · intro index hl hh hc
      have hstop : stop ≤ index := by
        by_contra hn
        exact hc ⟨⟨low, stop⟩, by simp, hl, Nat.not_le.mp hn⟩
      apply h.strays index hstop hh
      intro hcov
      obtain ⟨span, hm, hcovers⟩ := hcov
      exact hc ⟨span, List.mem_cons_of_mem _ hm, hcovers⟩

private theorem not_decomposition_of_unclosed {lines : List Text} {low high signature : Nat}
    {spans : List Span} (hu : UnclosedAt lines low signature) (hlt : low < high) :
    ¬Decomposition lines low high spans := by
  intro h
  obtain ⟨span, hm, hstart⟩ := h.exists_start hlt hu.not_stray
  have hg := h.getters span hm
  rw [hstart] at hg
  exact hu.not_getter hg

private theorem gettersFrom_eq_ok_iff {lines : List Text} {index : Nat} (h : index ≤ lines.length)
    (spans : List Span) :
    gettersFrom lines index = .ok spans ↔ Decomposition lines index lines.length spans := by
  induction index using scan_induction lines generalizing spans with
  | past index hp =>
    have he : index = lines.length := Nat.le_antisymm h hp
    rw [gettersFrom_of_length_le hp, he, decomposition_self_iff]
    simp [eq_comm]
  | stray index hlt hs ih =>
    rw [gettersFrom_of_stray hlt hs, decomposition_stray_iff hs hlt]
    exact ih hlt spans
  | getter index stop hg ih =>
    have hb := hg.bounds
    rw [gettersFrom_of_getter hg, decomposition_getter_iff hg (by omega)]
    cases hrest : gettersFrom lines stop with
    | error fault =>
      simp only [Except.map, reduceCtorEq, false_iff, not_exists, not_and]
      intro rest _ hd
      have hok := (ih hb.2 rest).mpr hd
      simp [hrest] at hok
    | ok found =>
      have hd := (ih hb.2 found).mp hrest
      simp only [Except.map, Except.ok.injEq]
      constructor
      · intro he
        subst he
        exact ⟨found, rfl, hd⟩
      · intro hex
        obtain ⟨rest, rfl, hr⟩ := hex
        have hok := (ih hb.2 rest).mpr hr
        rw [hrest, Except.ok.injEq] at hok
        rw [hok]
  | unclosed index signature hu =>
    have hlt : index < lines.length := by
      obtain ⟨marker, hm, -⟩ := hu
      exact markerAt?_lt hm
    rw [gettersFrom_of_unclosed hu]
    simp [not_decomposition_of_unclosed hu hlt]

private theorem gettersFrom_eq_error_iff {lines : List Text} {index : Nat} {fault : Fault} :
    gettersFrom lines index = .error fault ↔
      ∃ marker signature spans, fault = .unterminated (marker + 1) (signature + 1) ∧
        UnclosedAt lines marker signature ∧ Decomposition lines index marker spans := by
  induction index using scan_induction lines with
  | past index hp =>
    rw [gettersFrom_of_length_le hp]
    simp only [reduceCtorEq, false_iff]
    intro hex
    obtain ⟨marker, signature, spans, -, ⟨_, hm, -⟩, hd⟩ := hex
    have hlt := markerAt?_lt hm
    have ho := hd.ordered
    omega
  | stray index hlt hs ih =>
    rw [gettersFrom_of_stray hlt hs, ih]
    constructor
    · intro hex
      obtain ⟨marker, signature, spans, rfl, hu, hd⟩ := hex
      exact ⟨marker, signature, spans, rfl, hu,
        (decomposition_stray_iff hs hd.ordered).mpr hd⟩
    · intro hex
      obtain ⟨marker, signature, spans, rfl, hu, hd⟩ := hex
      have hne : index ≠ marker := by
        intro he
        subst he
        exact hu.not_stray hs
      have ho := hd.ordered
      exact ⟨marker, signature, spans, rfl, hu,
        (decomposition_stray_iff hs (by omega)).mp hd⟩
  | getter index stop hg ih =>
    have hb := hg.bounds
    have hmap : gettersFrom lines index = .error fault ↔ gettersFrom lines stop = .error fault := by
      rw [gettersFrom_of_getter hg]
      cases gettersFrom lines stop <;> simp [Except.map]
    rw [hmap, ih]
    constructor
    · intro hex
      obtain ⟨marker, signature, spans, rfl, hu, hd⟩ := hex
      have ho := hd.ordered
      exact ⟨marker, signature, ⟨index, stop⟩ :: spans, rfl, hu,
        (decomposition_getter_iff hg (by omega)).mpr ⟨spans, rfl, hd⟩⟩
    · intro hex
      obtain ⟨marker, signature, spans, rfl, hu, hd⟩ := hex
      have hne : index ≠ marker := by
        intro he
        subst he
        exact hu.not_getter hg
      have ho := hd.ordered
      obtain ⟨rest, -, hr⟩ := (decomposition_getter_iff hg (by omega)).mp hd
      exact ⟨marker, signature, rest, rfl, hu, hr⟩
  | unclosed index signature hu =>
    rw [gettersFrom_of_unclosed hu, Except.error.injEq]
    constructor
    · intro he
      subst he
      exact ⟨index, signature, [], rfl, hu, decomposition_self_iff.mpr rfl⟩
    · intro hex
      obtain ⟨marker, other, spans, rfl, hu', hd⟩ := hex
      have he : index = marker := by
        by_contra hne
        have ho := hd.ordered
        exact not_decomposition_of_unclosed hu (by omega) hd
      subst he
      rw [hu.unique hu']

theorem findGetters_eq_ok_iff (lines : List Text) (spans : List Span) :
    findGetters lines = .ok spans ↔ Decomposition lines 0 lines.length spans :=
  gettersFrom_eq_ok_iff (Nat.zero_le _) spans

theorem findGetters_eq_nil_iff (lines : List Text) :
    findGetters lines = .ok [] ↔ ∀ index, StrayAt lines index := by
  rw [findGetters_eq_ok_iff]
  constructor
  · intro h index
    by_cases hlt : index < lines.length
    · exact h.strays index (Nat.zero_le _) hlt (not_covered_nil index)
    · intro marker hm
      exact absurd (markerAt?_lt hm) hlt
  · intro h
    exact ⟨Nat.zero_le _, by simp, by simp, by simp, fun index _ _ _ => h index⟩

theorem findGetters_eq_error_iff (lines : List Text) (fault : Fault) :
    findGetters lines = .error fault ↔
      ∃ marker signature spans, fault = .unterminated (marker + 1) (signature + 1) ∧
        UnclosedAt lines marker signature ∧ Decomposition lines 0 marker spans :=
  gettersFrom_eq_error_iff

/-- The getters found are the only decomposition of all the lines. A fault names, counting from
one, the first marker in no getter found before it whose getter never closes. -/
theorem findGetters_greedy (lines : List Text) :
    (∀ spans, findGetters lines = .ok spans ↔ Decomposition lines 0 lines.length spans) ∧
      {spans | Decomposition lines 0 lines.length spans}.Subsingleton ∧
      ∀ fault, findGetters lines = .error fault ↔
        ∃ marker signature spans, fault = .unterminated (marker + 1) (signature + 1) ∧
          Decomposition lines 0 marker spans ∧ UnclosedAt lines marker signature ∧
          ∀ earlier < marker, ¬Covered spans earlier → ∀ other, ¬UnclosedAt lines earlier other := by
  refine ⟨findGetters_eq_ok_iff lines, ?_, ?_⟩
  · intro spans hs others ho
    have hfound := (findGetters_eq_ok_iff lines spans).mpr hs
    have hothers := (findGetters_eq_ok_iff lines others).mpr ho
    exact Except.ok.inj (hfound.symm.trans hothers)
  · intro fault
    rw [findGetters_eq_error_iff]
    constructor
    · intro hex
      obtain ⟨marker, signature, spans, hf, hu, hd⟩ := hex
      refine ⟨marker, signature, spans, hf, hd, hu, ?_⟩
      intro earlier hlt hc other hother
      exact hother.not_stray (hd.strays earlier (Nat.zero_le _) hlt hc)
    · intro hex
      obtain ⟨marker, signature, spans, hf, hd, hu, -⟩ := hex
      exact ⟨marker, signature, spans, hf, hu, hd⟩

end DartSweep
