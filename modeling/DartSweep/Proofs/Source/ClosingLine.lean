import DartSweep.Proofs.Getter.Outcomes
import DartSweep.Proofs.Source.Braces
import Mathlib.Data.List.Flatten

/-!
# The closing line of a body

Where the counters cannot wrap, a body closes on the first line that levels the delimiters of its
form, counted from the signature on, and that ends as the form wants it. A block body is then level
in its braces, so deleting the getter shifts the braces of the source by those in front of the
signature.
-/
namespace DartSweep

/-- A delimiter is opened on the lines from the first through the last, the delimiters of the form
are opened as often as they are closed, and the last line ends like a last line of the form. -/
structure BodyForm.LevelsAt (form : BodyForm) (lines : List Text) (first last : Nat) : Prop where
  behind : first ≤ last
  opened : '{' ∈ charsThrough lines first last ∨ '[' ∈ charsThrough lines first last
  level : (charsThrough lines first last).count form.opener =
    (charsThrough lines first last).count form.closer
  ends : form.EndsAt lines last

private theorem length_charsThrough_le (lines : List Text) (first last : Nat) :
    (charsThrough lines first last).length ≤ lines.flatten.length := by
  have hslice : ((⟨first, last + 1⟩ : Span).slice lines).Sublist lines :=
    (List.drop_sublist _ _).trans (List.take_sublist _ _)
  exact hslice.flatten.length_le

private theorem BodyForm.ofSignature_eq_expression_iff (line : Text) :
    BodyForm.ofSignature line = .expression ↔ "=>".toList <:+: line := by
  rw [← occursIn_iff, ofSignature]
  cases occursIn "=>".toList line <;> simp

section
variable {lines : List Text}

/-- A text within the range of the counters levels a depth if it levels the counter. -/
private theorem BodyForm.depth_eq_zero_of_dvd {form : BodyForm} {first last : Nat}
    (hlength : lines.flatten.length < 2 ^ 31) (hd : (2 ^ 32 : Int) ∣ form.depth lines first last) :
    form.depth lines first last = 0 := by
  have hle := length_charsThrough_le lines first last
  rw [depth_eq] at hd ⊢
  exact excess_eq_zero_of_dvd hd (by omega)

private theorem BodyForm.closesAt_iff_levelsAt (form : BodyForm)
    (hlength : lines.flatten.length < 2 ^ 31)
    (first last : Nat) : form.ClosesAt lines first last ↔ form.LevelsAt lines first last := by
  have hdepth : form.depth lines first last = 0 ↔
      (charsThrough lines first last).count form.opener =
        (charsThrough lines first last).count form.closer := by
    rw [depth_eq, excess]
    omega
  constructor
  · intro h
    exact ⟨h.behind, h.opened, hdepth.mp (depth_eq_zero_of_dvd hlength h.level), h.ends⟩
  · intro h
    exact closesAt_of_depth_eq_zero h.behind (hdepth.mpr h.level) h.ends

variable {index signature stop : Nat}

/-- The braces of a getter with a block body are those in front of its signature. -/
theorem braceExcess_slice_of_block (hlength : lines.flatten.length < 2 ^ 31)
    (hs : Marker.sections.SignatureAt lines index signature)
    (hb : Marker.sections.extentAt lines index = .body stop .block) :
    braceExcess ((⟨index, stop⟩ : Span).slice lines) =
      braceExcess ((⟨index, signature⟩ : Span).slice lines) := by
  obtain ⟨line, hl, -⟩ := hs.found
  obtain ⟨-, last, rfl, hlast⟩ := (hs.extentAt_eq_body_iff hl).mp hb
  have hbehind := hlast.1.behind
  have hlevel : braceExcess ((⟨signature, last + 1⟩ : Span).slice lines) = 0 :=
    BodyForm.depth_eq_zero_of_dvd hlength hlast.1.level
  rw [← Span.slice_append_slice hs.behind.le (by omega : signature ≤ last + 1),
    braceExcess_append, hlevel, Int.add_zero]

end

/-- In lines with fewer than `2 ^ 31` characters, a sections getter ends with the least line that
levels its body. The body is an expression if an arrow is on the line of the signature, and else a
block. The getter is left open if and only if no line levels the body. Deleting a getter with a
block body changes the balance of the braces by that of the lines in front of its signature. -/
theorem body_ends_on_least_closing_line {lines : List Text} {index signature : Nat} {line : Text}
    (hlength : lines.flatten.length < 2 ^ 31)
    (hs : Marker.sections.SignatureAt lines index signature) (hl : lines[signature]? = some line) :
    (BodyForm.ofSignature line = .expression ↔ "=>".toList <:+: line) ∧
    (∀ stop form, Marker.sections.extentAt lines index = .body stop form ↔
      form = BodyForm.ofSignature line ∧
        ∃ last, stop = last + 1 ∧ IsLeast {i | form.LevelsAt lines signature i} last) ∧
    (Marker.sections.extentAt lines index = .unclosed signature ↔
      ∀ last, ¬(BodyForm.ofSignature line).LevelsAt lines signature last) ∧
    ∀ stop, Marker.sections.extentAt lines index = .body stop .block → ∀ keyword,
      (Census.ofSource keyword
          (joinLines (DeletionPlan.apply (.single ⟨index, stop⟩) lines))).braceBalance =
        (Census.ofSource keyword (joinLines lines)).braceBalance -
          braceExcess ((⟨index, signature⟩ : Span).slice lines) := by
  refine ⟨BodyForm.ofSignature_eq_expression_iff line, ?_, ?_, ?_⟩
  · intro stop form
    simp only [hs.extentAt_eq_body_iff hl, form.closesAt_iff_levelsAt hlength]
  · simp only [hs.extentAt_eq_unclosed_iff hl, BodyForm.closesAt_iff_levelsAt _ hlength]
  · intro stop hb keyword
    have hbehind := hs.behind
    rw [braceBalance_joinLines, braceBalance_joinLines, DeletionPlan.braceExcess_apply,
      DeletionPlan.slices_single, braceExcess_slice_of_block hlength hs hb]

/-- A getter with a block body and an opening brace in the comment above it. -/
def commentedBrace : List Text :=
  ["class A \x7b".toList, "/// Structured display sections for generic rendering.".toList,
    "/// Opens with \x7b as usual.".toList, "List<ResultSection> get sections \x7b".toList,
    "return [];".toList, "\x7d".toList, "\x7d".toList]

theorem body_ends_on_least_closing_line_commented :
    commentedBrace.flatten.length < 2 ^ 31 ∧ Marker.sections.SignatureAt commentedBrace 1 3 ∧
      (∃ last, 6 = last + 1 ∧
        IsLeast {i | BodyForm.block.LevelsAt commentedBrace 3 i} last) ∧
      (∀ last, ¬BodyForm.block.LevelsAt (commentedBrace.take 5) 3 last) ∧
      ∀ keyword, (Census.ofSource keyword (joinLines
          (DeletionPlan.apply (.single ⟨1, 6⟩) commentedBrace))).braceBalance =
        (Census.ofSource keyword (joinLines commentedBrace)).braceBalance - 1 := by
  have hskipped : SkippableAt commentedBrace 2 ∧ SkippableAt (commentedBrace.take 5) 2 := by
    decide +kernel
  have hbetween (i : Nat) (hi : 1 < i) (hlt : i < 3) : i = 2 := by omega
  have hsignature : Marker.sections.SignatureAt commentedBrace 1 3 :=
    ⟨by decide, ⟨_, rfl, by decide +kernel, by decide +kernel⟩,
      fun i hi hlt => hbetween i hi hlt ▸ hskipped.1⟩
  have hopen : Marker.sections.SignatureAt (commentedBrace.take 5) 1 3 :=
    ⟨by decide, ⟨_, rfl, by decide +kernel, by decide +kernel⟩,
      fun i hi hlt => hbetween i hi hlt ▸ hskipped.2⟩
  have hbody : Marker.sections.extentAt commentedBrace 1 = .body 6 .block := by decide +kernel
  have hunclosed : Marker.sections.extentAt (commentedBrace.take 5) 1 = .unclosed 3 := by
    decide +kernel
  have hexcess : braceExcess ((⟨1, 3⟩ : Span).slice commentedBrace) = 1 := by decide +kernel
  have hlength : commentedBrace.flatten.length < 2 ^ 31 := by decide +kernel
  obtain ⟨-, hleast, -, hbraces⟩ := body_ends_on_least_closing_line hlength hsignature rfl
  obtain ⟨-, -, hnone, -⟩ := body_ends_on_least_closing_line (by decide +kernel) hopen rfl
  rw [hexcess] at hbraces
  exact ⟨hlength, hsignature, ((hleast 6 .block).mp hbody).2, hnone.mp hunclosed, hbraces 6 hbody⟩

end DartSweep
