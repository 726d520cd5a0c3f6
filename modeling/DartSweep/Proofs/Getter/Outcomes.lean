import DartSweep.Proofs.Getter.Closing
import DartSweep.Proofs.Getter.Heads

/-!
# Outcomes of the look-ahead

What stands after a marker is told here by line indices alone: the first line that is not skippable
holds the signature or it does not, and the body of a delimited getter closes on a first line or on
none. The look-ahead answers what these indices tell and nothing else.
-/
namespace DartSweep

/-- What the lines behind the index hold for a marker, by the indices of its signature and of the
line that closes the body. -/
inductive Marker.HasExtent (lines : List Text) (index : Nat) : Marker → Extent → Prop
  | absent {marker : Marker} (h : ∀ signature, ¬marker.SignatureAt lines index signature) :
      HasExtent lines index marker .absent
  | oneLine {signature : Nat} (h : Marker.displayType.SignatureAt lines index signature) :
      HasExtent lines index .displayType (.oneLine (signature + 1))
  | body {signature last : Nat} {line : Text}
      (h : Marker.sections.SignatureAt lines index signature) (hl : lines[signature]? = some line)
      (hlast : IsLeast {i | (BodyForm.ofSignature line).ClosesAt lines signature i} last) :
      HasExtent lines index .sections (.body (last + 1) (BodyForm.ofSignature line))
  | unclosed {signature : Nat} {line : Text}
      (h : Marker.sections.SignatureAt lines index signature) (hl : lines[signature]? = some line)
      (hnone : ∀ last, ¬(BodyForm.ofSignature line).ClosesAt lines signature last) :
      HasExtent lines index .sections (.unclosed signature)

section
variable {marker : Marker} {lines : List Text} {index : Nat}

theorem Marker.HasExtent.extentAt_eq {extent : Extent}
    (h : marker.HasExtent lines index extent) : marker.extentAt lines index = extent := by
  cases h with
  | absent h =>
    by_contra hne
    obtain ⟨signature, hs⟩ := extentAt_ne_absent_iff.mp hne
    exact h signature hs
  | oneLine h => exact h.extentAt_eq_oneLine
  | @body signature last line h hl hlast =>
    exact (h.extentAt_eq_body_iff hl).mpr ⟨rfl, last, rfl, hlast⟩
  | unclosed h hl hnone => exact (h.extentAt_eq_unclosed_iff hl).mpr hnone

variable (marker lines index)

theorem Marker.hasExtent_extentAt :
    marker.HasExtent lines index (marker.extentAt lines index) := by
  by_cases habsent : marker.extentAt lines index = .absent
  · rw [habsent]
    refine .absent fun signature hs => ?_
    exact extentAt_ne_absent_iff.mpr ⟨signature, hs⟩ habsent
  · obtain ⟨signature, hs⟩ := extentAt_ne_absent_iff.mp habsent
    cases marker with
    | displayType =>
      rw [hs.extentAt_eq_oneLine]
      exact .oneLine hs
    | sections =>
      obtain ⟨line, hl, -⟩ := hs.found
      rcases hs.body_or_unclosed with ⟨stop, form, hbody⟩ | hunclosed
      · obtain ⟨hform, last, hstop, hlast⟩ := (hs.extentAt_eq_body_iff hl).mp hbody
        rw [hbody, hstop, hform]
        exact .body hs hl (hform ▸ hlast)
      · rw [hunclosed]
        exact .unclosed hs hl ((hs.extentAt_eq_unclosed_iff hl).mp hunclosed)

private theorem Marker.hasExtent_iff (extent : Extent) :
    marker.HasExtent lines index extent ↔ marker.extentAt lines index = extent := by
  constructor
  · exact HasExtent.extentAt_eq
  · intro h
    rw [← h]
    exact marker.hasExtent_extentAt lines index

end

structure CodeAt (lines : List Text) (index code : Nat) (line : Text) : Prop where
  behind : index < code
  found : lines[code]? = some line
  notSkipped : isSkippable line = false
  between : ∀ i, index < i → i < code → SkippableAt lines i

section
variable {marker : Marker} {lines : List Text} {index code : Nat} {line : Text}

private theorem CodeAt.not_skippableAt (h : CodeAt lines index code line) :
    ¬SkippableAt lines code := by
  rw [SkippableAt, h.found, Option.any_some, h.notSkipped]
  exact Bool.false_ne_true

/-- The lines up to the first one that is not skippable are skippable, or all of them are. -/
private theorem skippable_or_codeAt (lines : List Text) (index : Nat) :
    (∀ i, index < i → i < lines.length → SkippableAt lines i) ∨
      ∃ code line, CodeAt lines index code line := by
  by_cases hall : ∀ i, index < i → i < lines.length → SkippableAt lines i
  · exact Or.inl hall
  · push Not at hall
    obtain ⟨i, hbehind, hlt, hi⟩ := hall
    obtain ⟨code, hcode, hle, hbetween, hskip⟩ := exists_first_code hbehind hi
    have hget : lines[code]? = some lines[code] := List.getElem?_eq_getElem (by omega)
    rw [SkippableAt, hget, Option.any_some, Bool.not_eq_true] at hskip
    exact Or.inr ⟨code, _, hcode, hget, hskip, hbetween⟩

theorem CodeAt.signatureAt (h : CodeAt lines index code line)
    (hs : marker.isSignature line = true) : marker.SignatureAt lines index code :=
  ⟨h.behind, ⟨line, h.found, h.notSkipped, hs⟩, h.between⟩

private theorem Marker.SignatureAt.exists_codeAt (h : marker.SignatureAt lines index code) :
    ∃ line, CodeAt lines index code line ∧ marker.isSignature line = true := by
  obtain ⟨line, hl, hcode, hs⟩ := h.found
  exact ⟨line, ⟨h.behind, hl, hcode, h.between⟩, hs⟩

theorem Marker.SignatureAt.unique {signature other : Nat}
    (h : marker.SignatureAt lines index signature) (h' : marker.SignatureAt lines index other) :
    signature = other := by
  obtain ⟨line, hcode, -⟩ := h'.exists_codeAt
  exact h.eq_of_code hcode.behind hcode.between hcode.not_skippableAt

/-- There is no other place for the signature than the first line that is not skippable. -/
theorem CodeAt.isSignature_of_signatureAt {signature : Nat} (h : CodeAt lines index code line)
    (hs : marker.SignatureAt lines index signature) : marker.isSignature line = true := by
  obtain rfl : signature = code := hs.eq_of_code h.behind h.between h.not_skippableAt
  obtain ⟨found, hf, -, hsig⟩ := hs.found
  obtain rfl : found = line := Option.some.inj (hf.symm.trans h.found)
  exact hsig

/-- A doc comment that quotes a signature is passed over like any other. -/
theorem CodeAt.not_isPrefix (h : CodeAt lines index code line) : ¬"///".toList <+: trim line := by
  intro hdoc
  have hskip : isSkippable line = true := by
    rw [isSkippable, List.isPrefixOf_iff_prefix.mpr hdoc, Bool.or_true]
  rw [h.notSkipped] at hskip
  exact absurd hskip (by decide)

private theorem forall_not_signatureAt_iff :
    (∀ signature, ¬marker.SignatureAt lines index signature) ↔
      (∀ i, index < i → i < lines.length → SkippableAt lines i) ∨
        ∃ code line, CodeAt lines index code line ∧ marker.isSignature line = false := by
  constructor
  · intro hnone
    rcases skippable_or_codeAt lines index with hall | ⟨code, line, hcode⟩
    · exact Or.inl hall
    · refine Or.inr ⟨code, line, hcode, ?_⟩
      rw [← Bool.not_eq_true]
      intro hsig
      exact hnone code (hcode.signatureAt hsig)
  · intro h signature hs
    rcases h with hall | ⟨code, line, hcode, hsig⟩
    -- The line of a signature is not skippable, and it is the first such line.
    · obtain ⟨line, hcode, -⟩ := hs.exists_codeAt
      have hlt := (List.getElem?_eq_some_iff.mp hcode.found).1
      exact hcode.not_skippableAt (hall signature hs.behind hlt)
    · rw [hcode.isSignature_of_signatureAt hs] at hsig
      exact absurd hsig (by decide)

/-- A body ends behind its signature and inside the lines. -/
theorem Marker.SignatureAt.body_bounds {signature stop : Nat} {form : BodyForm}
    (h : Marker.sections.SignatureAt lines index signature)
    (hb : Marker.sections.extentAt lines index = .body stop form) :
    signature < stop ∧ stop ≤ lines.length := by
  obtain ⟨line, hl, -⟩ := h.found
  obtain ⟨-, last, rfl, hlast⟩ := (h.extentAt_eq_body_iff hl).mp hb
  exact ⟨Nat.lt_succ_of_le hlast.1.behind, hlast.1.lt_length⟩

end

/-- The look-ahead accepts its grammar exactly, from any line index on. There is no getter if and
only if all lines behind the index are skippable or the first that is not has another text than the
signature. A one line getter is one of a display type marker and ends with that first line. For a
sections marker and a signature there, the getter goes on from the line and ends inside the lines,
or is left open. Any getter is read from that line on, which is no doc comment. -/
theorem lookahead_accepts_grammar (marker : Marker) (lines : List Text) (index : Nat) :
    (marker.extentAt lines index = .absent ↔
      (∀ i, index < i → i < lines.length → SkippableAt lines i) ∨
        ∃ code line, CodeAt lines index code line ∧ marker.isSignature line = false) ∧
    (∀ stop, marker.extentAt lines index = .oneLine stop ↔
      marker = .displayType ∧ ∃ code line, CodeAt lines index code line ∧
        marker.isSignature line = true ∧ stop = code + 1) ∧
    (marker = .sections → ∀ code line, CodeAt lines index code line →
      marker.isSignature line = true →
        (∃ stop form, marker.extentAt lines index = .body stop form ∧ code < stop ∧
          stop ≤ lines.length) ∨ marker.extentAt lines index = .unclosed code) ∧
    (marker.extentAt lines index ≠ .absent → ∃ code line, CodeAt lines index code line ∧
      marker.isSignature line = true ∧ ¬"///".toList <+: trim line ∧
        marker.extentAt lines index =
          (marker.extentFrom line (lines.drop (code + 1))).shift code) := by
  refine ⟨?_, ?_, ?_, ?_⟩
  · rw [← forall_not_signatureAt_iff, ← not_exists, ← extentAt_ne_absent_iff, not_not]
  · intro stop
    rw [← marker.hasExtent_iff]
    constructor
    · intro h
      cases h with
      | oneLine hs =>
        obtain ⟨line, hcode, hsig⟩ := hs.exists_codeAt
        exact ⟨rfl, _, line, hcode, hsig, rfl⟩
    · rintro ⟨rfl, code, line, hcode, hsig, rfl⟩
      exact .oneLine (hcode.signatureAt hsig)
  · rintro rfl code line hcode hsig
    have hs := hcode.signatureAt hsig
    rcases hs.body_or_unclosed with ⟨stop, form, hbody⟩ | hunclosed
    · exact Or.inl ⟨stop, form, hbody, hs.body_bounds hbody⟩
    · exact Or.inr hunclosed
  · intro hne
    obtain ⟨code, hs⟩ := extentAt_ne_absent_iff.mp hne
    obtain ⟨line, hcode, hsig⟩ := hs.exists_codeAt
    exact ⟨code, line, hcode, hsig, hcode.not_isPrefix, hs.extentAt hcode.found⟩

/-- Doc comments that quote the signatures, each in front of the getter that it is about. -/
def quotedDisplayType : List Text :=
  ["/// UI display type for generic rendering.".toList,
    "/// ResultDisplayType get displayType => ResultDisplayType.legacy;".toList,
    "@override".toList, "ResultDisplayType get displayType => ResultDisplayType.simple;".toList]

def quotedSections : List Text :=
  ["/// Structured display sections for generic rendering.".toList,
    "/// List<ResultSection> get sections => [];".toList, [],
    "List<ResultSection> get sections \x7b".toList]

theorem lookahead_accepts_grammar_quoted :
    Marker.displayType.extentAt quotedDisplayType 0 = .oneLine 4 ∧
      Marker.sections.extentAt quotedDisplayType 0 = .absent ∧
      Marker.displayType.extentAt quotedDisplayType 9 = .absent ∧
      ((∃ stop form, Marker.sections.extentAt quotedSections 0 = .body stop form ∧ 3 < stop ∧
        stop ≤ quotedSections.length) ∨ Marker.sections.extentAt quotedSections 0 = .unclosed 3) ∧
      ∃ code line, CodeAt quotedDisplayType 0 code line ∧
        Marker.displayType.isSignature line = true ∧ ¬"///".toList <+: trim line ∧
        Marker.displayType.extentAt quotedDisplayType 0 =
          (Marker.displayType.extentFrom line (quotedDisplayType.drop (code + 1))).shift code := by
  have hskipped : ∀ i < 3, 0 < i →
      SkippableAt quotedDisplayType i ∧ SkippableAt quotedSections i := by
    decide +kernel
  have hdisplay : CodeAt quotedDisplayType 0 3
      "ResultDisplayType get displayType => ResultDisplayType.simple;".toList :=
    ⟨by decide, rfl, by decide +kernel, fun i hi hlt => (hskipped i hlt hi).1⟩
  have hsections : CodeAt quotedSections 0 3 "List<ResultSection> get sections \x7b".toList :=
    ⟨by decide, rfl, by decide +kernel, fun i hi hlt => (hskipped i hlt hi).2⟩
  obtain ⟨-, hone, -, hread⟩ := lookahead_accepts_grammar .displayType quotedDisplayType 0
  have hextent : Marker.displayType.extentAt quotedDisplayType 0 = .oneLine 4 :=
    (hone 4).mpr ⟨rfl, 3, _, hdisplay, by decide +kernel, rfl⟩
  have hother : Marker.sections.extentAt quotedDisplayType 0 = .absent :=
    (lookahead_accepts_grammar .sections quotedDisplayType 0).1.mpr
      (Or.inr ⟨3, _, hdisplay, by decide +kernel⟩)
  have hpast : Marker.displayType.extentAt quotedDisplayType 9 = .absent := by
    refine (lookahead_accepts_grammar .displayType quotedDisplayType 9).1.mpr (Or.inl ?_)
    intro i hi hlt
    change i < 4 at hlt
    omega
  have hgoes := (lookahead_accepts_grammar .sections quotedSections 0).2.2.1 rfl 3 _ hsections
    (by decide +kernel)
  exact ⟨hextent, hother, hpast, hgoes, hread (by rw [hextent]; simp)⟩

end DartSweep
