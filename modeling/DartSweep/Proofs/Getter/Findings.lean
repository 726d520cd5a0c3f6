import DartSweep.Proofs.Getter.Lookahead

/-!
# Findings of a scan

What a scan says about a marker line holds of that line. Where the scan runs to the end, it says
of each marker in no getter that it is stray.
-/
namespace DartSweep

namespace Finding

def marker : Finding → Marker
  | stray marker _ | oneLine marker _ | body marker _ _ | unclosed marker _ _ => marker

def line : Finding → Nat
  | stray _ line | unclosed _ line _ => line
  | oneLine _ span | body _ span _ => span.start

def extent : Finding → Extent
  | stray _ _ => .absent
  | oneLine _ span => .oneLine span.stop
  | body _ span form => .body span.stop form
  | unclosed _ _ signature => .unclosed signature

/-- The marker is on the line, and what follows it has the extent. -/
structure Holds (lines : List Text) (finding : Finding) : Prop where
  marker : markerAt? lines finding.line = some finding.marker
  extent : finding.marker.extentAt lines finding.line = finding.extent

end Finding

private theorem findingsFrom_of_length_le {lines : List Text} {index : Nat}
    (h : lines.length ≤ index) : findingsFrom lines index = [] := by
  rw [findingsFrom, List.drop_eq_nil_of_le h]
  rfl

private theorem findingsFrom_of_stray {lines : List Text} {index : Nat} (h : index < lines.length)
    (hs : StrayAt lines index) :
    findingsFrom lines index =
      (markerAt? lines index).toList.map (Finding.stray · index) ++
        findingsFrom lines (index + 1) := by
  rw [findingsFrom_step h]
  cases hm : markerAt? lines index with
  | none => rfl
  | some marker => simp [hs marker hm]

private theorem findingsFrom_of_getter {lines : List Text} {index stop : Nat}
    (h : GetterAt lines index stop) :
    ∃ finding, finding.Holds lines ∧
      findingsFrom lines index = finding :: findingsFrom lines stop := by
  obtain ⟨marker, hm, hs⟩ := h
  rw [findingsFrom_step (markerAt?_lt hm), hm]
  dsimp only
  cases he : marker.extentAt lines index with
  | absent => simp [he, Extent.stop?] at hs
  | unclosed signature => simp [he, Extent.stop?] at hs
  | oneLine stop' =>
    rw [he] at hs
    have hstop : stop' = stop := Option.some.inj hs
    subst hstop
    exact ⟨.oneLine marker ⟨index, stop'⟩, ⟨hm, he⟩, rfl⟩
  | body stop' form =>
    rw [he] at hs
    have hstop : stop' = stop := Option.some.inj hs
    subst hstop
    exact ⟨.body marker ⟨index, stop'⟩ form, ⟨hm, he⟩, rfl⟩

private theorem findingsFrom_of_unclosed {lines : List Text} {index signature : Nat}
    (h : UnclosedAt lines index signature) :
    ∃ finding, finding.Holds lines ∧ findingsFrom lines index = [finding] := by
  obtain ⟨marker, hm, hu⟩ := h
  rw [findingsFrom_step (markerAt?_lt hm), hm]
  dsimp only
  rw [hu]
  exact ⟨.unclosed marker index signature, ⟨hm, hu⟩, rfl⟩

private theorem holds_of_mem_findingsFrom {lines : List Text} {index : Nat} {finding : Finding}
    (h : finding ∈ findingsFrom lines index) : finding.Holds lines := by
  induction index using scan_induction lines with
  | past index hp => simp [findingsFrom_of_length_le hp] at h
  | stray index hlt hs ih =>
    rw [findingsFrom_of_stray hlt hs] at h
    rcases List.mem_append.mp h with h | h
    · obtain ⟨marker, hm, rfl⟩ := List.mem_map.mp h
      have hmarker := Option.mem_toList.mp hm
      exact ⟨hmarker, hs marker hmarker⟩
    · exact ih h
  | getter index stop hg ih =>
    obtain ⟨found, hf, hfindings⟩ := findingsFrom_of_getter hg
    rw [hfindings] at h
    rcases List.mem_cons.mp h with rfl | h
    · exact hf
    · exact ih h
  | unclosed index signature hu =>
    obtain ⟨found, hf, hfindings⟩ := findingsFrom_of_unclosed hu
    rw [hfindings, List.mem_singleton] at h
    rw [h]
    exact hf

private theorem stray_mem_findingsFrom {lines : List Text} {index line : Nat} {marker : Marker}
    {spans : List Span} (h : gettersFrom lines index = .ok spans) (hl : index ≤ line)
    (hm : markerAt? lines line = some marker) (hc : ¬Covered spans line) :
    .stray marker line ∈ findingsFrom lines index := by
  induction index using scan_induction lines generalizing spans with
  | past index hp =>
    have hlt := markerAt?_lt hm
    omega
  | stray index hlt hs ih =>
    rw [gettersFrom_of_stray hlt hs] at h
    rw [findingsFrom_of_stray hlt hs, List.mem_append]
    by_cases he : line = index
    · left
      rw [← he, hm]
      simp
    · right
      exact ih h (by omega) hc
  | getter index stop hg ih =>
    obtain ⟨found, -, hfindings⟩ := findingsFrom_of_getter hg
    rw [gettersFrom_of_getter hg] at h
    cases hrest : gettersFrom lines stop with
    | error fault => simp [hrest, Except.map] at h
    | ok rest =>
      rw [hrest] at h
      have hspans := Except.ok.inj h
      rw [← hspans, covered_cons_iff, not_or] at hc
      have hstop : stop ≤ line := by
        by_contra hlt
        exact hc.1 ⟨hl, Nat.not_le.mp hlt⟩
      rw [hfindings]
      exact List.mem_cons_of_mem _ (ih hrest hstop hc.2)
  | unclosed index signature hu => simp [gettersFrom_of_unclosed hu] at h

private theorem findingsFrom_zero (lines : List Text) : findingsFrom lines 0 = scan lines :=
  rfl

theorem holds_of_mem_scan {lines : List Text} {finding : Finding} (h : finding ∈ scan lines) :
    finding.Holds lines := by
  rw [← findingsFrom_zero] at h
  exact holds_of_mem_findingsFrom h

theorem stray_mem_scan {lines : List Text} {line : Nat} {marker : Marker} {spans : List Span}
    (h : findGetters lines = .ok spans) (hm : markerAt? lines line = some marker)
    (hc : ¬Covered spans line) : .stray marker line ∈ scan lines := by
  rw [← findingsFrom_zero]
  exact stray_mem_findingsFrom h (Nat.zero_le _) hm hc

/-! ### Moved findings

The same findings in lines that stand elsewhere. The end of a getter is moved on its own, because
the line behind the getter need not move like the getter's last line. -/

def Span.move (line stop : Nat → Nat) (span : Span) : Span :=
  ⟨line span.start, stop span.stop⟩

def Finding.move (line stop : Nat → Nat) : Finding → Finding
  | stray marker index => stray marker (line index)
  | oneLine marker span => oneLine marker (span.move line stop)
  | body marker span form => body marker (span.move line stop) form
  | unclosed marker index signature => unclosed marker (line index) (line signature)

/-- The fault with its lines moved, which count from one. -/
def Fault.move (line : Nat → Nat) : Fault → Fault
  | unterminated marker signature => unterminated (line (marker - 1) + 1) (line (signature - 1) + 1)
  | fault => fault

theorem getterSpans_move (line stop : Nat → Nat) (found : List Finding) :
    getterSpans (found.map (Finding.move line stop)) =
      ((getterSpans found).map (List.map (Span.move line stop))).mapError (Fault.move line) := by
  induction found with
  | nil => rfl
  | cons finding found ih =>
    cases finding with
    | stray marker index => exact ih
    | oneLine marker span | body marker span form =>
      rw [List.map_cons, Finding.move, getterSpans, getterSpans, ih]
      cases getterSpans found <;> rfl
    | unclosed marker index signature => rfl

end DartSweep
