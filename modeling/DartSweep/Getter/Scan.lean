import DartSweep.Fault
import DartSweep.Getter.Extent

/-!
# Scanning for getters

The lines are read from the first to the last. Each marker gives one finding. After a getter the
scan goes on behind it, so markers inside a getter give none; after a marker with no getter it goes
on with the next line; a getter that never closes ends the scan.
-/
namespace DartSweep

/-- What a scan says about one marker line. Line indices count from zero. -/
inductive Finding
  | stray (marker : Marker) (line : Nat)
  | oneLine (marker : Marker) (span : Span)
  | body (marker : Marker) (span : Span) (form : BodyForm)
  | unclosed (marker : Marker) (line signature : Nat)
deriving DecidableEq, Repr

/-- The findings in lines of which the first has the given index, without those on the lines that
are still to be passed over. -/
def scanFrom (index : Nat) : (passed : Nat) → List Text → List Finding
  | _, [] => []
  | passed + 1, _ :: rest => scanFrom (index + 1) passed rest
  | 0, line :: rest =>
    match Marker.ofLine? line with
    | none => scanFrom (index + 1) 0 rest
    | some marker =>
      match marker.extent rest with
      | .absent => .stray marker index :: scanFrom (index + 1) 0 rest
      | .oneLine length =>
        .oneLine marker ⟨index, index + 1 + length⟩ :: scanFrom (index + 1) length rest
      | .body length form =>
        .body marker ⟨index, index + 1 + length⟩ form :: scanFrom (index + 1) length rest
      | .unclosed signature => [.unclosed marker index (index + 1 + signature)]

def scan (lines : List Text) : List Finding :=
  scanFrom 0 0 lines

/-- The spans of the getters found, or the fault of the one that never closes. -/
def getterSpans : List Finding → Except Fault (List Span)
  | [] => .ok []
  | .stray _ _ :: rest => getterSpans rest
  | .oneLine _ span :: rest => (getterSpans rest).map (span :: ·)
  | .body _ span _ :: rest => (getterSpans rest).map (span :: ·)
  | .unclosed _ line signature :: _ => .error (.unterminated (line + 1) (signature + 1))

/-- The spans of all getters in the lines, in ascending order. -/
def findGetters (lines : List Text) : Except Fault (List Span) :=
  getterSpans (scan lines)

private theorem getterSpans_cons {span : Span} {found : List Finding} {spans : List Span}
    (h : (getterSpans found).map (span :: ·) = .ok spans) :
    ∃ rest, getterSpans found = .ok rest ∧ spans = span :: rest := by
  cases hf : getterSpans found with
  | error fault => simp [hf, Except.map] at h
  | ok rest =>
    rw [hf] at h
    exact ⟨rest, rfl, (Except.ok.inj h).symm⟩

private theorem scanFrom_bounds {index passed : Nat} {lines : List Text} {spans : List Span}
    (h : getterSpans (scanFrom index passed lines) = .ok spans) :
    ∀ span ∈ spans, index ≤ span.start ∧ span.start + 2 ≤ span.stop ∧
      span.stop ≤ index + lines.length := by
  induction lines generalizing index passed spans with
  | nil =>
    simp only [scanFrom, getterSpans, Except.ok.injEq] at h
    simp [← h]
  | cons line rest ih =>
    have step {passed : Nat} {spans : List Span}
        (hr : getterSpans (scanFrom (index + 1) passed rest) = .ok spans) :
        ∀ span ∈ spans, index ≤ span.start ∧ span.start + 2 ≤ span.stop ∧
          span.stop ≤ index + (line :: rest).length := by
      intro span hs
      have hb := ih hr span hs
      simp only [List.length_cons]
      omega
    have getter {marker : Marker} {length : Nat} {spans : List Span}
        (hl : (marker.extent rest).stop? = some length)
        (hr : (getterSpans (scanFrom (index + 1) length rest)).map
          ((⟨index, index + 1 + length⟩ : Span) :: ·) = .ok spans) :
        ∀ span ∈ spans, index ≤ span.start ∧ span.start + 2 ≤ span.stop ∧
          span.stop ≤ index + (line :: rest).length := by
      obtain ⟨tail, ht, rfl⟩ := getterSpans_cons hr
      intro span hs
      rcases List.mem_cons.mp hs with rfl | hs
      · have hb := Marker.extent_bounds hl
        simp only [List.length_cons]
        omega
      · exact step ht span hs
    cases passed with
    | succ passed => exact step h
    | zero =>
      rw [scanFrom] at h
      split at h
      · exact step h
      · split at h
        · exact step h
        · rename_i hm
          exact getter (by rw [hm]; rfl) h
        · rename_i hm
          exact getter (by rw [hm]; rfl) h
        · simp [getterSpans] at h

theorem findGetters_bounds {lines : List Text} {spans : List Span}
    (h : findGetters lines = .ok spans) :
    ∀ span ∈ spans, span.start + 2 ≤ span.stop ∧ span.stop ≤ lines.length := by
  intro span hs
  have hb := scanFrom_bounds h span hs
  omega

end DartSweep
