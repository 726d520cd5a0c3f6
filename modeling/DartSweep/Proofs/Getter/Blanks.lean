import DartSweep.Proofs.Getter.Findings
import DartSweep.Proofs.Text.Spacing

/-!
# Blank lines in a scan

A blank line is no marker and no signature, opens no delimiter and closes no body. So a scan finds
the same with blank lines put in anywhere; only the indices move.
-/
namespace DartSweep

private theorem trimEnd_of_isBlank {line : Text} (h : isBlank line = true) : trimEnd line = [] := by
  have hreverse : isBlank line.reverse = true := by
    rw [isBlank, List.all_reverse]
    exact h
  exact List.reverse_eq_nil_iff.mpr ((trimStart_eq_nil_iff _).mpr hreverse)

private theorem ofLine?_of_isBlank {line : Text} (h : isBlank line = true) :
    Marker.ofLine? line = none := by
  cases hm : Marker.ofLine? line with
  | none => rfl
  | some marker =>
    rw [isBlank_of_ofLine? hm] at h
    exact absurd h (by decide)

theorem Nesting.afterChar_of_isBlankChar {c : Char} (h : isBlankChar c = true) (nesting : Nesting) :
    nesting.afterChar c = nesting := by
  unfold afterChar
  split
  case h_5 => rfl
  all_goals exact absurd h (by decide)

private theorem Nesting.after_of_isBlank {line : Text} (h : isBlank line = true)
    (nesting : Nesting) : nesting.after line = nesting := by
  induction line with
  | nil => rfl
  | cons c rest ih =>
    obtain ⟨hc, hrest⟩ := Bool.and_eq_true_iff.mp h
    have hstep : nesting.after (c :: rest) = (nesting.afterChar c).after rest := rfl
    rw [hstep, afterChar_of_isBlankChar hc, ih hrest]

private theorem BodyForm.closes_of_isBlank {line : Text} (h : isBlank line = true) (form : BodyForm)
    (nesting : Nesting) : form.closes line nesting = false := by
  cases form with
  | expression => simp [closes, trimEnd_of_isBlank h]
  | block => simp [closes, (trim_eq_nil_iff line).mpr h]

def Extent.move (line stop : Nat → Nat) : Extent → Extent
  | absent => absent
  | oneLine length => oneLine (stop length)
  | body length form => body (stop length) form
  | unclosed signature => unclosed (line signature)

private theorem Extent.shift_move (place : Nat → Nat) (extent : Extent) :
    (extent.move place (behind place)).shift 1 =
      (extent.shift 1).move (behind place) (behind (behind place)) := by
  cases extent <;> rfl

section
variable {place : Nat → Nat} {lines wider : List Text}

private theorem BodyForm.length?_spaced (h : Spaced isBlank place lines wider) (form : BodyForm)
    (nesting : Nesting) :
    form.length? nesting wider = (form.length? nesting lines).map (behind place) := by
  induction h generalizing nesting with
  | nil => rfl
  | keep line h ih =>
    rw [length?, length?, ih]
    split
    · rfl
    · rw [Option.map_map, Option.map_map]
      rfl
  | @fill place lines wider line hf h ih =>
    rw [length?, Nesting.after_of_isBlank hf, closes_of_isBlank hf, Bool.and_false,
      if_neg Bool.false_ne_true, ih]
    cases hl : form.length? nesting lines with
    | none => rfl
    | some length =>
      -- No length is zero, so the end of the lines moves like the last of them.
      obtain ⟨last, rfl⟩ := Nat.exists_eq_add_of_le' (length?_bounds hl).1
      rfl

private theorem bodyExtent_spaced (h : Spaced isBlank place lines wider) (signature : Text) :
    bodyExtent signature wider =
      (bodyExtent signature lines).move (behind place) (behind (behind place)) := by
  rw [bodyExtent, bodyExtent, BodyForm.length?_spaced (h.keep signature)]
  cases (BodyForm.ofSignature signature).length? .empty (signature :: lines) <;> rfl

private theorem Marker.extent_spaced (h : Spaced isBlank place lines wider) (marker : Marker) :
    marker.extent wider = (marker.extent lines).move place (behind place) := by
  induction h with
  | nil => rfl
  | keep line h ih =>
    rw [extent, extent, ih, Extent.shift_move, bodyExtent_spaced h]
    split
    · rfl
    · split
      · split <;> rfl
      · rfl
  | @fill place lines wider line hf h ih =>
    rw [extent, if_pos (isSkippable_of_isBlank hf), ih]
    have hb := @Marker.extent_bounds marker lines
    cases he : marker.extent lines with
    | absent => rfl
    | unclosed signature => rfl
    | oneLine length | body length form =>
      rw [he] at hb
      obtain ⟨last, rfl⟩ := Nat.exists_eq_add_of_le' (hb rfl).1
      rfl

/-- A scan that has still to pass over some of the lines passes over those put in between them,
too. -/
theorem scanFrom_spaced (h : Spaced isBlank place lines wider) {first start : Nat}
    {line : Nat → Nat} (hline : Leads line place first start) (passed : Nat) :
    scanFrom start (behind place passed) wider =
      (scanFrom first passed lines).map (Finding.move line (behind line)) := by
  induction h generalizing first start passed with
  | nil =>
    rw [scanFrom, scanFrom]
    rfl
  | @keep place lines wider text h ih =>
    have hfirst := hline.head
    have hrest := hline.keep
    have hstop (length : Nat) :
        behind line (first + 1 + length) = start + 1 + behind place length := by
      cases length with
      | zero => exact congrArg Nat.succ hfirst
      | succ last => exact congrArg Nat.succ (hrest last)
    cases passed with
    | succ passed =>
      have hstep : behind (behind place) (passed + 1) = behind place passed + 1 := rfl
      rw [hstep, scanFrom, scanFrom]
      exact ih hrest passed
    | zero =>
      have hstep : behind (behind place) 0 = 0 := rfl
      rw [hstep, scanFrom, scanFrom]
      cases Marker.ofLine? text with
      | none => exact ih hrest 0
      | some marker =>
        dsimp only
        rw [marker.extent_spaced h]
        cases marker.extent lines with
        | absent =>
          have hlater := ih hrest 0
          dsimp only [Extent.move]
          rw [List.map_cons, Finding.move, hfirst, ← hlater]
          rfl
        | oneLine length | body length form =>
          have hlater := ih hrest length
          dsimp only [Extent.move]
          rw [List.map_cons, Finding.move, Span.move, hfirst, hstop, ← hlater]
        | unclosed signature =>
          dsimp only [Extent.move]
          rw [List.map_cons, Finding.move, hfirst, hrest]
          rfl
  | @fill place lines wider text hf h ih =>
    have hlater := ih hline.fill passed
    cases passed with
    | zero =>
      have hstep : behind (fun index => place index + 1) 0 = 0 := rfl
      rw [hstep, scanFrom, ofLine?_of_isBlank hf]
      exact hlater
    | succ passed =>
      have hstep : behind (fun index => place index + 1) (passed + 1) = place passed + 1 + 1 := rfl
      rw [hstep, scanFrom]
      exact hlater

private theorem scan_spaced (h : Spaced isBlank place lines wider) :
    scan wider = (scan lines).map (Finding.move place (behind place)) :=
  scanFrom_spaced h (Leads.refl place) 0

theorem findGetters_spaced (h : Spaced isBlank place lines wider) :
    findGetters wider =
      ((findGetters lines).map (List.map (Span.move place (behind place)))).mapError
        (Fault.move place) := by
  rw [findGetters, scan_spaced h, getterSpans_move]
  rfl

theorem covers_move_iff (h : StrictMono place) (span : Span) (index : Nat) :
    (span.move place (behind place)).Covers (place index) ↔ span.Covers index := by
  have hstart : place span.start ≤ place index ↔ span.start ≤ index := h.le_iff_le
  have hstop : place index < behind place span.stop ↔ index < span.stop := by
    cases span.stop with
    | zero => simp [behind]
    | succ last => rw [behind, Nat.lt_succ_iff, Nat.lt_succ_iff, h.le_iff_le]
  exact and_congr hstart hstop

theorem covered_move_iff (h : StrictMono place) (spans : List Span) (index : Nat) :
    Covered (spans.map (Span.move place (behind place))) (place index) ↔ Covered spans index := by
  constructor
  · intro hc
    obtain ⟨moved, hm, hcovers⟩ := hc
    obtain ⟨span, hspan, rfl⟩ := List.mem_map.mp hm
    exact ⟨span, hspan, (covers_move_iff h span index).mp hcovers⟩
  · intro hc
    obtain ⟨span, hspan, hcovers⟩ := hc
    exact ⟨_, List.mem_map_of_mem hspan, (covers_move_iff h span index).mpr hcovers⟩

end

/-- The last line of a getter is not blank, since the getter would be found without it as well. -/
theorem covered_succ_of_isBlank {lines : List Text} {spans : List Span} {index : Nat} {line : Text}
    (hf : findGetters lines = .ok spans) (hc : Covered spans index)
    (hline : lines[index]? = some line) (hb : isBlank line = true) : Covered spans (index + 1) := by
  obtain ⟨place, h⟩ := Spaced.of_filter isBlank lines
  obtain ⟨span, hm, hstart, hstop⟩ := hc
  refine ⟨span, hm, by omega, ?_⟩
  rw [findGetters_spaced h] at hf
  cases hfound : findGetters (lines.filter fun line => !isBlank line) with
  | error fault => simp [hfound, Except.map, Except.mapError] at hf
  | ok found =>
    rw [hfound] at hf
    have hspans : found.map (Span.move place (behind place)) = spans := Except.ok.inj hf
    rw [← hspans] at hm
    obtain ⟨other, hother, rfl⟩ := List.mem_map.mp hm
    have hbounds := findGetters_bounds hfound other hother
    obtain ⟨last, hlast⟩ : ∃ last, other.stop = last + 1 := ⟨other.stop - 1, by omega⟩
    have hbehind : (other.move place (behind place)).stop = place last + 1 := by
      rw [Span.move, hlast]
      rfl
    have hne : index ≠ place last := by
      intro he
      rw [he, h.getElem?_place] at hline
      have hkept := (List.mem_filter.mp (List.mem_of_getElem? hline)).2
      simp [hb] at hkept
    omega

end DartSweep
