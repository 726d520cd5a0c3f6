import DartSweep.Proofs.Getter.Outcomes

/-!
# Locality of the look-ahead

A look-ahead that finds a getter reads the lines behind the marker up to the getter's last line and
no other. So lines in front and behind do not matter, a body that is cut short is left open, and a
body that is left open can only be closed by lines further down.
-/
namespace DartSweep

/-- The two lists hold the same lines from the first index up to the second. -/
def SameLines (lines others : List Text) (low high : Nat) : Prop :=
  ∀ i, low ≤ i → i < high → others[i]? = lines[i]?

section
variable {lines others : List Text} {low high : Nat}

theorem SameLines.symm (h : SameLines lines others low high) : SameLines others lines low high :=
  fun i hl hh => (h i hl hh).symm

theorem SameLines.mono {inner outer : Nat} (h : SameLines lines others low high)
    (hl : low ≤ inner) (hh : outer ≤ high) : SameLines lines others inner outer :=
  fun i hi ho => h i (by omega) (by omega)

theorem sameLines_append (others : List Text) (low : Nat) :
    SameLines lines (lines ++ others) low lines.length :=
  fun _ _ hh => List.getElem?_append_left hh

private theorem sameLines_take (low count : Nat) : SameLines lines (lines.take count) low count :=
  fun _ _ hh => List.getElem?_take_of_lt hh

private theorem SameLines.slice_eq (h : SameLines lines others low high) :
    (⟨low, high⟩ : Span).slice others = (⟨low, high⟩ : Span).slice lines := by
  apply List.ext_getElem?
  intro i
  by_cases hi : low + i < high
  · rw [Span.getElem?_slice hi, Span.getElem?_slice hi]
    exact h (low + i) (by omega) hi
  · rw [Span.getElem?_slice_eq_none hi, Span.getElem?_slice_eq_none hi]

end

section
variable {marker : Marker} {form : BodyForm} {lines others : List Text} {index signature : Nat}
  {first last : Nat}

theorem Marker.SignatureAt.congr (h : marker.SignatureAt lines index signature)
    (hsame : SameLines lines others (index + 1) (signature + 1)) :
    marker.SignatureAt others index signature := by
  have hbehind := h.behind
  refine ⟨hbehind, ?_, ?_⟩
  · rw [hsame signature hbehind (Nat.lt_succ_self _)]
    exact h.found
  · intro i hi hlt
    rw [SkippableAt, hsame i hi (by omega)]
    exact h.between i hi hlt

theorem BodyForm.ClosesAt.congr (h : form.ClosesAt lines first last)
    (hsame : SameLines lines others first (last + 1)) : form.ClosesAt others first last := by
  have hchars : charsThrough others first last = charsThrough lines first last :=
    congrArg List.flatten hsame.slice_eq
  refine ⟨h.behind, ?_, ?_, ?_⟩
  · rw [hchars]
    exact h.opened
  · rw [depth_eq, hchars, ← depth_eq]
    exact h.level
  · rw [EndsAt, hsame last h.behind (Nat.lt_succ_self _)]
    exact h.ends

/-- Whether a line closes a body shows on the lines up to it, so the least such line is the same. -/
private theorem BodyForm.isLeast_closesAt_congr (h : IsLeast {i | form.ClosesAt lines first i} last)
    (hsame : SameLines lines others first (last + 1)) :
    IsLeast {i | form.ClosesAt others first i} last := by
  refine ⟨h.1.congr hsame, ?_⟩
  intro i hi
  by_contra hlt
  -- A closing line in front of the last one would close the body in the first list as well.
  have hcloses : form.ClosesAt lines first i :=
    hi.congr (hsame.symm.mono (Nat.le_refl _) (by omega))
  have hle := h.2 hcloses
  omega

/-- A getter is found alike in all lists with its lines. -/
theorem Marker.HasExtent.congr {extent : Extent} {stop : Nat}
    (h : marker.HasExtent lines index extent) (hstop : extent.stop? = some stop)
    (hsame : SameLines lines others (index + 1) stop) : marker.HasExtent others index extent := by
  cases h with
  | absent h => simp [Extent.stop?] at hstop
  | oneLine h =>
    obtain rfl := Option.some.inj hstop
    exact .oneLine (h.congr hsame)
  | @body signature last line h hl hlast =>
    obtain rfl : last + 1 = stop := Option.some.inj hstop
    have hbehind := h.behind
    have hclose := hlast.1.behind
    refine .body (h.congr (hsame.mono (Nat.le_refl _) (by omega))) ?_
      (BodyForm.isLeast_closesAt_congr hlast (hsame.mono (by omega) (Nat.le_refl _)))
    rw [hsame signature hbehind (by omega)]
    exact hl
  | unclosed h hl hnone => simp [Extent.stop?] at hstop

variable (marker lines index) in
theorem Marker.extentAt_prepend (before : List Text) :
    marker.extentAt (before ++ lines) (index + before.length) =
      (marker.extentAt lines index).shift before.length := by
  have hdrop : (before ++ lines).drop (index + before.length + 1) = lines.drop (index + 1) := by
    rw [show index + before.length + 1 = before.length + (index + 1) by omega,
      List.drop_length_add_append]
  rw [extentAt, extentAt, hdrop, Extent.shift_shift, Nat.add_right_comm]

/-- A body without its last line, or without more of its lines, is left open. -/
theorem Marker.extentAt_take {stop count : Nat}
    (hb : marker.extentAt lines index = .body stop form)
    (hs : marker.SignatureAt lines index signature) (hc : signature < count) (hlt : count < stop) :
    marker.extentAt (lines.take count) index = .unclosed signature := by
  have hextent := marker.hasExtent_extentAt lines index
  rw [hb] at hextent
  cases hextent with
  | @body found last line h hl hlast =>
    obtain rfl : found = signature := h.unique hs
    have hsame : SameLines lines (lines.take count) (index + 1) count := sameLines_take _ _
    have hbehind := h.behind
    have hline : (lines.take count)[found]? = some line := by
      rw [hsame found hbehind hc]
      exact hl
    have hnone : ∀ i, ¬(BodyForm.ofSignature line).ClosesAt (lines.take count) found i := by
      intro i hi
      have hlength := hi.lt_length
      rw [List.length_take] at hlength
      -- What closes the shorter body closes the whole one, in front of its last line.
      have hcloses : (BodyForm.ofSignature line).ClosesAt lines found i :=
        hi.congr (hsame.symm.mono (by omega) (by omega))
      have hle := hlast.2 hcloses
      omega
    exact (Marker.HasExtent.unclosed (h.congr (hsame.mono (Nat.le_refl _) hc)) hline
      hnone).extentAt_eq

/-- Lines behind an open body leave it open or close it. -/
theorem Marker.extentAt_append_of_unclosed
    (hu : marker.extentAt lines index = .unclosed signature) (others : List Text) :
    marker.extentAt (lines ++ others) index = .unclosed signature ∨
      ∃ stop form, marker.extentAt (lines ++ others) index = .body stop form ∧
        lines.length < stop := by
  have hextent := marker.hasExtent_extentAt lines index
  rw [hu] at hextent
  cases hextent with
  | @unclosed _ line h hl hnone =>
    have hsame : SameLines lines (lines ++ others) (index + 1) lines.length :=
      sameLines_append others _
    have hbehind := h.behind
    have hlt := (List.getElem?_eq_some_iff.mp hl).1
    have hs : Marker.sections.SignatureAt (lines ++ others) index signature :=
      h.congr (hsame.mono (Nat.le_refl _) hlt)
    have hline : (lines ++ others)[signature]? = some line := by
      rw [hsame signature hbehind hlt]
      exact hl
    rcases hs.body_or_unclosed with ⟨stop, form, hbody⟩ | hunclosed
    · obtain ⟨rfl, last, rfl, hlast⟩ := (hs.extentAt_eq_body_iff hline).mp hbody
      refine Or.inr ⟨_, _, hbody, ?_⟩
      by_contra hle
      -- One of the old lines would have closed the body without the new ones.
      exact hnone last (hlast.1.congr (hsame.symm.mono (by omega) (by omega)))
    · exact Or.inl hunclosed

end

/-- The look-ahead is local. If it finds a getter, it finds the same in any list with the same lines
from behind the marker through the getter's last line. Lines in front shift what it finds. A list
that breaks off between the signature and the last line of a body leaves the body open. An open body
to which lines are added stays open or closes on one of these. -/
theorem lookahead_is_local (marker : Marker) (lines : List Text) (index : Nat) :
    (∀ stop, (marker.extentAt lines index).stop? = some stop →
      ∀ others, SameLines lines others (index + 1) stop →
        marker.extentAt others index = marker.extentAt lines index) ∧
    (∀ before, marker.extentAt (before ++ lines) (index + before.length) =
      (marker.extentAt lines index).shift before.length) ∧
    (∀ stop form signature, marker.extentAt lines index = .body stop form →
      marker.SignatureAt lines index signature → ∀ count, signature < count → count < stop →
        marker.extentAt (lines.take count) index = .unclosed signature) ∧
    ∀ signature, marker.extentAt lines index = .unclosed signature → ∀ others,
      marker.extentAt (lines ++ others) index = .unclosed signature ∨
        ∃ stop form, marker.extentAt (lines ++ others) index = .body stop form ∧
          lines.length < stop := by
  refine ⟨?_, marker.extentAt_prepend lines index, ?_, ?_⟩
  · intro stop hstop others hsame
    exact ((marker.hasExtent_extentAt lines index).congr hstop hsame).extentAt_eq
  · intro stop form signature hb hs count hc hlt
    exact Marker.extentAt_take hb hs hc hlt
  · intro signature hu others
    exact Marker.extentAt_append_of_unclosed hu others

def loneGetter : List Text :=
  ["/// Structured display sections for generic rendering.".toList,
    "List<ResultSection> get sections \x7b".toList, "return [];".toList, "\x7d".toList]

/-- The getter's lines without the marker, between other lines. -/
def embeddedGetter : List Text :=
  "class A \x7b".toList :: (loneGetter.drop 1 ++ ["\x7d".toList])

theorem lookahead_is_local_lone :
    SameLines loneGetter embeddedGetter 1 4 ∧ Marker.sections.SignatureAt loneGetter 0 1 ∧
      Marker.sections.extentAt embeddedGetter 0 = .body 4 .block ∧
      Marker.sections.extentAt (embeddedGetter ++ loneGetter) (0 + 5) = .body 9 .block ∧
      Marker.sections.extentAt (loneGetter.take 3) 0 = .unclosed 1 ∧
      (Marker.sections.extentAt (loneGetter.take 3 ++ embeddedGetter) 0 = .unclosed 1 ∨
        ∃ stop form, Marker.sections.extentAt (loneGetter.take 3 ++ embeddedGetter) 0 =
          .body stop form ∧ 3 < stop) := by
  have hbody : Marker.sections.extentAt loneGetter 0 = .body 4 .block := by decide +kernel
  have hlines : ∀ i < 4, 1 ≤ i → embeddedGetter[i]? = loneGetter[i]? := by decide +kernel
  have hsame : SameLines loneGetter embeddedGetter 1 4 := fun i hl hh => hlines i hh hl
  have hsignature : Marker.sections.SignatureAt loneGetter 0 1 :=
    ⟨by decide, ⟨_, rfl, by decide +kernel, by decide +kernel⟩, fun i hi hlt => by omega⟩
  obtain ⟨hlocal, hshift, hcut, -⟩ := lookahead_is_local .sections loneGetter 0
  have hembedded := hlocal 4 (by rw [hbody]; rfl) embeddedGetter hsame
  have hshifted := hshift embeddedGetter
  have hunclosed := hcut 4 .block 1 hbody hsignature 3 (by decide) (by decide)
  obtain ⟨-, -, -, hgrow⟩ := lookahead_is_local .sections (loneGetter.take 3) 0
  rw [hbody] at hembedded hshifted
  exact ⟨hsame, hsignature, hembedded, hshifted, hunclosed, hgrow 1 hunclosed embeddedGetter⟩

end DartSweep
