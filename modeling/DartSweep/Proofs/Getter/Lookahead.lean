import DartSweep.Proofs.Getter.Decomposition

/-!
# Looking ahead from a marker

What follows a marker is decided by the first line that may not stand between a marker and its
signature. There is no getter exactly when that line is missing or holds another text.
-/
namespace DartSweep

def firstCode? (lines : List Text) : Option Text :=
  lines.find? fun line => !isSkippable line

@[simp] theorem Extent.shift_eq_absent_iff (count : Nat) (extent : Extent) :
    extent.shift count = .absent ↔ extent = .absent := by
  cases extent <;> simp [Extent.shift]

private theorem bodyExtent_ne_absent (signature : Text) (rest : List Text) :
    bodyExtent signature rest ≠ .absent := by
  rw [bodyExtent]
  split <;> simp

private theorem Marker.extent_eq_absent_iff (marker : Marker) (lines : List Text) :
    marker.extent lines = .absent ↔
      ∀ line, firstCode? lines = some line → marker.isSignature line = false := by
  induction lines with
  | nil => simp [Marker.extent, firstCode?]
  | cons line rest ih =>
    rw [Marker.extent, firstCode?, List.find?_cons]
    cases hskip : isSkippable line with
    | true =>
      rw [firstCode?] at ih
      simpa using ih
    | false =>
      cases hsig : marker.isSignature line with
      | false => simp [hsig]
      | true => cases marker <;> simp [Marker.shape, hsig, bodyExtent_ne_absent]

@[simp] theorem Extent.shift_zero (extent : Extent) : extent.shift 0 = extent := by
  cases extent <;> rfl

theorem Extent.shift_shift (count more : Nat) (extent : Extent) :
    (extent.shift count).shift more = extent.shift (count + more) := by
  cases extent <;> simp [Extent.shift, Nat.add_assoc]

/-- The extent of the marker's getter in lines of which the first holds the signature. -/
def Marker.extentFrom (marker : Marker) (signature : Text) (rest : List Text) : Extent :=
  match marker.shape with
  | .oneLine => .oneLine 1
  | .delimited => bodyExtent signature rest

private theorem Marker.extent_append_signature (marker : Marker) {skipped : List Text}
    (hs : ∀ line ∈ skipped, isSkippable line = true) {signature : Text}
    (hc : isSkippable signature = false) (hm : marker.isSignature signature = true)
    (rest : List Text) :
    marker.extent (skipped ++ signature :: rest) =
      (marker.extentFrom signature rest).shift skipped.length := by
  induction skipped with
  | nil =>
    rw [List.nil_append, Marker.extent, List.length_nil, Extent.shift_zero]
    simp only [hc, hm, if_true, Bool.false_eq_true, if_false]
    rfl
  | cons line skipped ih =>
    have hrest := ih fun l hl => hs l (List.mem_cons_of_mem _ hl)
    rw [List.cons_append, Marker.extent, if_pos (hs line (by simp)), hrest, Extent.shift_shift,
      List.length_cons]

section
variable (marker : Marker) (lines : List Text) (index : Nat)

def SkippableAt : Prop :=
  lines[index]?.any isSkippable = true

instance : Decidable (SkippableAt lines index) :=
  inferInstanceAs (Decidable (lines[index]?.any isSkippable = true))

/-- The lines behind the index are skippable up to one with the marker's signature. -/
structure Marker.SignatureAt (signature : Nat) : Prop where
  behind : index < signature
  found : ∃ line, lines[signature]? = some line ∧ isSkippable line = false ∧
    marker.isSignature line = true
  between : ∀ i, index < i → i < signature → SkippableAt lines i

variable {marker lines index}

theorem Marker.SignatureAt.extentAt {signature : Nat} {line : Text}
    (h : marker.SignatureAt lines index signature) (hl : lines[signature]? = some line) :
    marker.extentAt lines index =
      (marker.extentFrom line (lines.drop (signature + 1))).shift signature := by
  have hbehind := h.behind
  obtain ⟨found, hf, hcode, hsig⟩ := h.found
  have he : found = line := Option.some.inj (hf.symm.trans hl)
  subst he
  obtain ⟨hlt, hget⟩ := List.getElem?_eq_some_iff.mp hl
  have hsplit : lines.drop (index + 1) =
      (lines.drop (index + 1)).take (signature - (index + 1)) ++
        found :: lines.drop (signature + 1) := by
    conv => lhs; rw [← List.take_append_drop (signature - (index + 1)) (lines.drop (index + 1))]
    rw [List.drop_drop, Nat.add_sub_cancel' hbehind, List.drop_eq_getElem_cons hlt, hget]
  have hskipped : ∀ l ∈ (lines.drop (index + 1)).take (signature - (index + 1)),
      isSkippable l = true := by
    intro l hm
    obtain ⟨i, hi⟩ := List.mem_iff_getElem?.mp hm
    have hlt : i < signature - (index + 1) := by
      have hlen := (List.getElem?_eq_some_iff.mp hi).1
      rw [List.length_take] at hlen
      omega
    rw [List.getElem?_take_of_lt hlt, List.getElem?_drop] at hi
    have hbetween := h.between (index + 1 + i) (by omega) (by omega)
    rw [SkippableAt, hi] at hbetween
    exact hbetween
  have hlength : ((lines.drop (index + 1)).take (signature - (index + 1))).length =
      signature - (index + 1) := by
    rw [List.length_take, List.length_drop]
    omega
  rw [Marker.extentAt, hsplit, marker.extent_append_signature hskipped hcode hsig, hlength,
    Extent.shift_shift, Nat.sub_add_cancel hbehind]

theorem extentAt_ne_absent_iff :
    marker.extentAt lines index ≠ .absent ↔ ∃ signature, marker.SignatureAt lines index signature := by
  constructor
  · intro h
    rw [Marker.extentAt, Ne, Extent.shift_eq_absent_iff, Marker.extent_eq_absent_iff] at h
    push Not at h
    obtain ⟨line, hfirst, hsig⟩ := h
    obtain ⟨hcode, i, hi, hline, hbefore⟩ := List.find?_eq_some_iff_getElem.mp hfirst
    refine ⟨index + 1 + i, by omega, ⟨line, ?_, by simpa using hcode, by simpa using hsig⟩, ?_⟩
    · rw [← List.getElem?_drop, List.getElem?_eq_getElem hi, hline]
    · intro between hl hh
      have hb := hbefore (between - (index + 1)) (by omega)
      have hget : (lines.drop (index + 1))[between - (index + 1)]? = lines[between]? := by
        rw [List.getElem?_drop, Nat.add_sub_cancel' hl]
      rw [SkippableAt, ← hget, List.getElem?_eq_getElem (by omega)]
      simpa using hb
  · intro hex
    obtain ⟨signature, h⟩ := hex
    obtain ⟨line, hl, -⟩ := h.found
    rw [h.extentAt hl, Ne, Extent.shift_eq_absent_iff, Marker.extentFrom]
    cases marker with
    | displayType => simp [Marker.shape]
    | sections => exact bodyExtent_ne_absent line _

end

theorem Marker.SignatureAt.not_stray {marker : Marker} {lines : List Text} {index signature : Nat}
    (h : marker.SignatureAt lines index signature) (hm : markerAt? lines index = some marker) :
    ¬StrayAt lines index := by
  intro hs
  exact extentAt_ne_absent_iff.mpr ⟨signature, h⟩ (hs marker hm)

theorem GetterAt.exists_signatureAt {lines : List Text} {index stop : Nat}
    (h : GetterAt lines index stop) :
    ∃ marker, markerAt? lines index = some marker ∧
      ∃ signature, marker.SignatureAt lines index signature := by
  obtain ⟨marker, hm, hs⟩ := h
  refine ⟨marker, hm, extentAt_ne_absent_iff.mp ?_⟩
  intro he
  simp [he, Extent.stop?] at hs

theorem Marker.SignatureAt.body_or_unclosed {lines : List Text} {index signature : Nat}
    (h : Marker.sections.SignatureAt lines index signature) :
    (∃ stop form, Marker.sections.extentAt lines index = .body stop form) ∨
      Marker.sections.extentAt lines index = .unclosed signature := by
  obtain ⟨line, hl, -⟩ := h.found
  have hextent : Marker.sections.extentAt lines index =
      (bodyExtent line (lines.drop (signature + 1))).shift signature := h.extentAt hl
  rw [hextent, bodyExtent]
  cases (BodyForm.ofSignature line).length? .empty (line :: lines.drop (signature + 1)) with
  | none => simp [Extent.shift]
  | some length => exact Or.inl ⟨_, _, rfl⟩

theorem Marker.SignatureAt.extentAt_eq_oneLine {lines : List Text} {index signature : Nat}
    (h : Marker.displayType.SignatureAt lines index signature) :
    Marker.displayType.extentAt lines index = .oneLine (signature + 1) := by
  obtain ⟨line, hl, -⟩ := h.found
  rw [h.extentAt hl, Nat.add_comm]
  rfl

/-- Only the body of a sections getter can be left open. -/
theorem UnclosedAt.signatureAt {lines : List Text} {index signature : Nat}
    (h : UnclosedAt lines index signature) :
    markerAt? lines index = some .sections ∧
      Marker.sections.SignatureAt lines index signature := by
  obtain ⟨marker, hm, hu⟩ := h
  obtain ⟨found, hs⟩ := extentAt_ne_absent_iff.mp (by rw [hu]; simp)
  cases marker with
  | displayType => simp [hs.extentAt_eq_oneLine] at hu
  | sections =>
    rcases hs.body_or_unclosed with ⟨stop, form, hbody⟩ | hunclosed
    · simp [hbody] at hu
    · have he : found = signature := Extent.unclosed.inj (hunclosed.symm.trans hu)
      rw [← he]
      exact ⟨hm, hs⟩

/-- Both the signature and the first line that is not skippable end the look-ahead. -/
theorem Marker.SignatureAt.eq_of_code {marker : Marker} {lines : List Text}
    {index signature code : Nat} (h : marker.SignatureAt lines index signature)
    (hi : index < code) (hb : ∀ i, index < i → i < code → SkippableAt lines i)
    (hc : ¬SkippableAt lines code) : signature = code := by
  obtain ⟨line, hl, hcode, -⟩ := h.found
  have hskip : ¬SkippableAt lines signature := by
    rw [SkippableAt, hl]
    simp [hcode]
  by_contra hne
  rcases Nat.lt_or_gt_of_ne hne with hlt | hgt
  · exact hskip (hb signature h.behind hlt)
  · exact hc (h.between code hi hgt)

theorem exists_first_code {lines : List Text} {index code : Nat} (hi : index < code)
    (hc : ¬SkippableAt lines code) :
    ∃ first, index < first ∧ first ≤ code ∧
      (∀ i, index < i → i < first → SkippableAt lines i) ∧ ¬SkippableAt lines first := by
  induction code using Nat.strong_induction_on with
  | _ code ih =>
    by_cases hex : ∃ i, index < i ∧ i < code ∧ ¬SkippableAt lines i
    · obtain ⟨i, hl, hh, hn⟩ := hex
      obtain ⟨first, hbehind, hle, hfirst⟩ := ih i hh hl hn
      exact ⟨first, hbehind, by omega, hfirst⟩
    · push Not at hex
      exact ⟨code, hi, Nat.le_refl _, hex, hc⟩

theorem skippableAt_of_markerAt? {lines : List Text} {index : Nat} {marker : Marker}
    (h : markerAt? lines index = some marker) : SkippableAt lines index := by
  obtain ⟨line, hl, ho⟩ := Option.bind_eq_some_iff.mp h
  rw [SkippableAt, hl]
  exact isSkippable_of_ofLine? ho

theorem strayAt_iff (lines : List Text) (index : Nat) :
    StrayAt lines index ↔
      ∀ marker, markerAt? lines index = some marker →
        ∀ line, firstCode? (lines.drop (index + 1)) = some line →
          marker.isSignature line = false := by
  simp only [StrayAt, Marker.extentAt, Extent.shift_eq_absent_iff, Marker.extent_eq_absent_iff]

end DartSweep
