import DartSweep.Proofs.Edit.Survivors
import DartSweep.Proofs.Getter.Blanks
import DartSweep.Proofs.Text.Margins

/-!
# Margins of lines in a scan

A scan reads nothing from the margins of lines: neither the indentation nor what stands behind the
text of a line, such as a carriage return, decides anything. The same holds of deleting.
-/
namespace DartSweep

namespace Signature

/-- What follows a run of blanks and the word behind it. -/
def nextWord? (word t : Text) : Option Text :=
  (afterBlanks? t).bind word.isPrefixOf?

theorem rest?_eq (signature : Signature) (t : Text) :
    signature.rest? t =
      ((signature.type.isPrefixOf? t).bind (nextWord? "get".toList)).bind
        (nextWord? signature.name) := by
  rw [Option.bind_assoc]
  simp only [nextWord?, Option.bind_assoc]
  rfl

end Signature

private theorem isPrefixOf?_concat {c : Char} {word : Text} (h : c ∉ word) (t : Text) :
    word.isPrefixOf? (t ++ [c]) = (word.isPrefixOf? t).map (· ++ [c]) := by
  induction word generalizing t with
  | nil => rfl
  | cons first rest ih =>
    have hne : first ≠ c := fun he => h (he ▸ List.mem_cons_self)
    have hrest := ih (fun hm => h (List.mem_cons_of_mem _ hm))
    cases t with
    | nil => simp [List.isPrefixOf?, hne]
    | cons d t =>
      rw [List.cons_append, List.isPrefixOf?, List.isPrefixOf?, hrest]
      split <;> rfl

private theorem bind_concat {c : Char} {f : Text → Option Text}
    (hf : ∀ t, f (t ++ [c]) = (f t).map (· ++ [c])) (found : Option Text) :
    (found.map (· ++ [c])).bind f = (found.bind f).map (· ++ [c]) := by
  cases found with
  | none => rfl
  | some t => exact hf t

section
variable {c : Char} (hc : isBlankChar c = true)
include hc

private theorem nextWord?_concat {word : Text} (h : Solid word) (t : Text) :
    Signature.nextWord? word (t ++ [c]) = (Signature.nextWord? word t).map (· ++ [c]) := by
  have hnil : word.isPrefixOf? [] = none := by
    obtain ⟨first, rest, rfl⟩ := List.exists_cons_of_ne_nil h.1
    rfl
  cases t with
  | nil =>
    have hblank : afterBlanks? [c] = some [] := by
      rw [afterBlanks?, if_pos hc]
      rfl
    rw [List.nil_append, Signature.nextWord?, hblank]
    exact hnil
  | cons d t =>
    rw [List.cons_append, Signature.nextWord?, Signature.nextWord?, afterBlanks?, afterBlanks?]
    split
    · rw [trimStart_concat_of_blank hc, Option.bind_some, Option.bind_some]
      split
      · rename_i he
        rw [List.isEmpty_iff.mp he, hnil]
        rfl
      · exact isPrefixOf?_concat (h.not_mem hc) _
    · rfl

private theorem endsWord_concat (rest : Text) : endsWord (rest ++ [c]) = endsWord rest := by
  cases rest with
  | nil => simp [endsWord, isWordChar_of_isBlankChar hc]
  | cons d rest => rfl

end

structure Signature.Wordy (signature : Signature) : Prop where
  type : Solid signature.type
  name : Solid signature.name

theorem Marker.wordy_signature (marker : Marker) : marker.signature.Wordy := by
  cases marker <;> exact ⟨by decide +kernel, by decide +kernel⟩

namespace Signature.Wordy
variable {signature : Signature} (h : signature.Wordy)
include h

private theorem opens_nil : signature.opens [] = false := by
  obtain ⟨first, rest, he⟩ := List.exists_cons_of_ne_nil h.type.1
  rw [opens, rest?_eq, he]
  rfl

variable {c : Char} (hc : isBlankChar c = true)
include hc

private theorem opens_cons (t : Text) : signature.opens (c :: t) = false := by
  obtain ⟨first, rest, he⟩ := List.exists_cons_of_ne_nil h.type.1
  have hne : first ≠ c := by
    intro hfirst
    apply h.type.not_mem hc
    rw [he, hfirst]
    exact List.mem_cons_self
  simp [opens, rest?_eq, he, List.isPrefixOf?, hne]

private theorem rest?_concat (t : Text) :
    signature.rest? (t ++ [c]) = (signature.rest? t).map (· ++ [c]) := by
  have hget := nextWord?_concat hc (show Solid "get".toList by decide +kernel)
  rw [rest?_eq, rest?_eq, isPrefixOf?_concat (h.type.not_mem hc), bind_concat hget,
    bind_concat (nextWord?_concat hc h.name)]

private theorem opens_concat (t : Text) : signature.opens (t ++ [c]) = signature.opens t := by
  rw [opens, h.rest?_concat hc, opens, Option.any_map]
  congr 1
  funext rest
  exact endsWord_concat hc rest

private theorem occursAfter_concat (inWord : Bool) (t : Text) :
    signature.occursAfter inWord (t ++ [c]) = signature.occursAfter inWord t := by
  induction t generalizing inWord with
  | nil =>
    simp [occursAfter, h.opens_cons hc, h.opens_nil]
  | cons d t ih =>
    rw [List.cons_append, occursAfter, ← List.cons_append, h.opens_concat hc, ih, occursAfter]

end Signature.Wordy

private theorem Signature.Wordy.ignoresMargins {signature : Signature} (h : signature.Wordy) :
    IgnoresMargins signature.occurs where
  left hc t := by
    rw [occurs, occursAfter, h.opens_cons hc, isWordChar_of_isBlankChar hc]
    rfl
  right hc t := h.occursAfter_concat hc false t

private theorem ignoresMargins_isSignature (marker : Marker) : IgnoresMargins marker.isSignature :=
  marker.wordy_signature.ignoresMargins

private theorem Nesting.ignoresMargins_after (nesting : Nesting) :
    IgnoresMargins nesting.after where
  left hc t := by
    have hstep := afterChar_of_isBlankChar hc nesting
    exact congrArg (fun next => Nesting.after next t) hstep
  right hc t := by
    rw [after_append]
    exact afterChar_of_isBlankChar hc _

section
variable (line : Text)

private theorem Marker.ofLine?_trim : Marker.ofLine? (trim line) = Marker.ofLine? line := by
  rw [Marker.ofLine?, Marker.ofLine?, ignoresMargins_trim.apply_trim]

private theorem isSkippable_trim : isSkippable (trim line) = isSkippable line := by
  rw [isSkippable, isSkippable, ignoresMargins_trim.apply_trim]

private theorem BodyForm.ofSignature_trim :
    BodyForm.ofSignature (trim line) = BodyForm.ofSignature line := by
  rw [ofSignature, ofSignature, (ignoresMargins_occursIn (by decide +kernel)).apply_trim]

private theorem BodyForm.closes_trim (form : BodyForm) (nesting : Nesting) :
    form.closes (trim line) nesting = form.closes line nesting := by
  cases form with
  | expression =>
    have hsolid : Solid "];".toList := by decide +kernel
    have hsuffix := (ignoresMargins_isSuffixOf hsolid).apply_trim line
    exact congrArg (nesting.brackets == 0 && ·) hsuffix
  | block => rw [closes, closes, ignoresMargins_trim.apply_trim]

end

section
variable (lines : List Text)

private theorem BodyForm.length?_trim (form : BodyForm) (nesting : Nesting) :
    form.length? nesting (lines.map trim) = form.length? nesting lines := by
  induction lines generalizing nesting with
  | nil => rfl
  | cons line rest ih =>
    rw [List.map_cons, length?, length?, nesting.ignoresMargins_after.apply_trim, closes_trim, ih]

private theorem bodyExtent_trim (signature : Text) :
    bodyExtent (trim signature) (lines.map trim) = bodyExtent signature lines := by
  rw [bodyExtent, bodyExtent, BodyForm.ofSignature_trim, ← List.map_cons, BodyForm.length?_trim]

private theorem Marker.extent_trim (marker : Marker) :
    marker.extent (lines.map trim) = marker.extent lines := by
  induction lines with
  | nil => rfl
  | cons line rest ih =>
    rw [List.map_cons, extent, extent, isSkippable_trim,
      (ignoresMargins_isSignature marker).apply_trim, bodyExtent_trim, ih]

private theorem scanFrom_trim (index passed : Nat) :
    scanFrom index passed (lines.map trim) = scanFrom index passed lines := by
  induction lines generalizing index passed with
  | nil => cases passed <;> rfl
  | cons line rest ih =>
    rw [List.map_cons]
    cases passed with
    | succ passed =>
      rw [scanFrom, scanFrom]
      exact ih _ passed
    | zero =>
      rw [scanFrom, scanFrom, Marker.ofLine?_trim]
      simp only [Marker.extent_trim, ih]

theorem findGetters_trim : findGetters (lines.map trim) = findGetters lines := by
  rw [findGetters, scan, scanFrom_trim]
  rfl

private theorem blankAt_trim_iff (index : Nat) :
    BlankAt (lines.map trim) index ↔ BlankAt lines index := by
  rw [BlankAt, BlankAt, List.getElem?_map, Option.any_map]
  simp only [isBlank_trim]

private theorem blankBefore_trim_iff (spans : List Span) (index : Nat) :
    BlankBefore spans (lines.map trim) index ↔ BlankBefore spans lines index := by
  simp only [BlankBefore, blankAt_trim_iff]

private theorem DeletionPlan.keeps_trim_iff (plan : DeletionPlan) (index : Nat) :
    plan.Keeps (lines.map trim) index ↔ plan.Keeps lines index := by
  rw [Keeps, Keeps, blankAt_trim_iff, blankBefore_trim_iff]

end

/-- Indentation and line ends have no influence. In lines with the same trimmed texts a scan finds
the same, be it getters or a fault, and the plan that deletes the getters keeps the lines with the
same indices. -/
theorem margins_are_inert {lines others : List Text} (h : lines.map trim = others.map trim) :
    findGetters others = findGetters lines ∧
      ∀ spans, findGetters lines = .ok spans →
        ∃ plan, DeletionPlan.ofSpans spans = .ok plan ∧ plan.spans = spans ∧
          plan.apply lines = keptFrom (plan.Keeps lines) 0 lines ∧
          plan.apply others = keptFrom (plan.Keeps lines) 0 others := by
  have hfound : findGetters others = findGetters lines := by
    rw [← findGetters_trim lines, h, findGetters_trim]
  refine ⟨hfound, ?_⟩
  intro spans hf
  have hd := (findGetters_eq_ok_iff lines spans).mp hf
  refine ⟨hd.plan, hd.plan.ofSpans_spans, rfl, hd.plan.apply_eq_keptFrom lines, ?_⟩
  rw [hd.plan.apply_eq_keptFrom others]
  apply keptFrom_congr
  intro index _ _
  rw [← DeletionPlan.keeps_trim_iff others, ← h, DeletionPlan.keeps_trim_iff]

def flushLines : List Text :=
  [[], "/// UI display type for generic rendering.".toList,
    "ResultDisplayType get displayType;".toList, []]

/-- The same lines, indented and with carriage returns. -/
def indentedLines : List Text :=
  [['\r'], "  /// UI display type for generic rendering.\r".toList,
    "\tResultDisplayType get displayType; \r".toList, [' ', '\r']]

theorem margins_are_inert_indented :
    flushLines.map trim = indentedLines.map trim ∧
      findGetters flushLines = .ok [⟨1, 3⟩] ∧
      findGetters indentedLines = .ok [⟨1, 3⟩] ∧
      ∃ plan, DeletionPlan.ofSpans [⟨1, 3⟩] = .ok plan ∧
        plan.apply flushLines = keptFrom (plan.Keeps flushLines) 0 flushLines ∧
        plan.apply indentedLines = keptFrom (plan.Keeps flushLines) 0 indentedLines := by
  have htrim : flushLines.map trim = indentedLines.map trim := by decide +kernel
  have hf : findGetters flushLines = .ok [⟨1, 3⟩] := by rfl
  obtain ⟨hfound, hplan⟩ := margins_are_inert htrim
  obtain ⟨plan, hp, -, hflush, hindented⟩ := hplan _ hf
  exact ⟨htrim, hf, hfound.trans hf, plan, hp, hflush, hindented⟩

end DartSweep
