import DartSweep.Proofs.Getter.Margins

/-!
# Heads of getters

The head of a getter is its signature as the line spells it, with gaps between the words. A line
holds a signature when a head stands on it with no word going on at either side; what stands behind
the head is of no account, neither for the signature nor for whether the line is skippable.
-/
namespace DartSweep

/-- At least one character, and blank ones only. -/
def Gap (t : Text) : Prop :=
  t ≠ [] ∧ isBlank t = true

section
variable {word : Text} (h : Solid word)
include h

private theorem Solid.trimStart_append (t : Text) : trimStart (word ++ t) = word ++ t := by
  obtain ⟨first, rest, rfl⟩ := List.exists_cons_of_ne_nil h.1
  have hfirst : isBlankChar first = false := by
    apply Bool.eq_false_iff.mpr
    intro hb
    exact h.not_mem hb List.mem_cons_self
  simp [trimStart, hfirst]

private theorem Solid.isPrefixOf_trimEnd (t : Text) :
    word.isPrefixOf (trimEnd t) = word.isPrefixOf t := by
  induction t using List.reverseRecOn with
  | nil => rfl
  | append_singleton rest c ih =>
    cases hc : isBlankChar c with
    | true =>
      rw [trimEnd_concat_of_blank hc, ih, Bool.eq_iff_iff, List.isPrefixOf_iff_prefix,
        List.isPrefixOf_iff_prefix, List.prefix_concat_iff]
      refine (or_iff_right ?_).symm
      intro he
      apply h.not_mem hc
      simp [he]
    | false => simp [trimEnd, hc]

namespace Signature

private theorem nextWord?_eq_some_iff {t rest : Text} :
    nextWord? word t = some rest ↔ ∃ gap, Gap gap ∧ t = gap ++ (word ++ rest) := by
  constructor
  · intro hn
    obtain ⟨left, hleft, hword⟩ := Option.bind_eq_some_iff.mp hn
    rw [List.isPrefixOf?_eq_some_iff_append_eq] at hword
    cases t with
    | nil => simp [afterBlanks?] at hleft
    | cons c t =>
      rw [afterBlanks?] at hleft
      split at hleft
      · rename_i hc
        refine ⟨c :: t.takeWhile isBlankChar, ⟨by simp, ?_⟩, ?_⟩
        · simp [isBlank, hc]
        · rw [hword, ← Option.some.inj hleft, List.cons_append, trimStart,
            List.takeWhile_append_dropWhile]
      · simp at hleft
  · intro hex
    obtain ⟨gap, ⟨hne, hblank⟩, rfl⟩ := hex
    obtain ⟨c, more, rfl⟩ := List.exists_cons_of_ne_nil hne
    simp only [isBlank, List.all_cons, Bool.and_eq_true, List.all_eq_true] at hblank
    have htrim : trimStart (more ++ (word ++ rest)) = word ++ rest := by
      rw [trimStart, List.dropWhile_append_of_pos hblank.2]
      exact h.trimStart_append rest
    rw [nextWord?, List.cons_append, afterBlanks?, if_pos hblank.1, htrim, Option.bind_some,
      List.isPrefixOf?_eq_some_iff_append_eq]

end Signature

end

namespace Signature

/-- The text is the three words of the signature with gaps between them. -/
def Spells (signature : Signature) (head : Text) : Prop :=
  ∃ gap more, Gap gap ∧ Gap more ∧
    head = signature.type ++ (gap ++ ("get".toList ++ (more ++ signature.name)))

/-- The head stands between the two texts, and no word goes on from one of them into the other. -/
structure HeadBetween (signature : Signature) (before head after : Text) : Prop where
  spells : signature.Spells head
  begins : before.getLast?.any isWordChar = false
  ends : endsWord after = true

private theorem occursAfter_iff (signature : Signature) (inWord : Bool) (t : Text) :
    signature.occursAfter inWord t = true ↔
      ∃ before rest, t = before ++ rest ∧
        (before.getLast?.map isWordChar).getD inWord = false ∧ signature.opens rest = true := by
  induction t generalizing inWord with
  | nil => simp [occursAfter]
  | cons c t ih =>
    -- Only the last character in front of the signature counts, be it `c` or a later one.
    have hstep (before : Text) : ((c :: before).getLast?.map isWordChar).getD inWord =
        (before.getLast?.map isWordChar).getD (isWordChar c) := by
      rw [List.getLast?_cons]
      cases before.getLast? <;> rfl
    rw [occursAfter, Bool.or_eq_true, ih, Bool.and_eq_true]
    constructor
    · rintro (⟨hword, hopens⟩ | ⟨before, rest, rfl, hword, hopens⟩)
      · exact ⟨[], c :: t, rfl, by simpa using hword, hopens⟩
      · exact ⟨c :: before, rest, rfl, (hstep before).trans hword, hopens⟩
    · rintro ⟨before, rest, he, hword, hopens⟩
      cases before with
      | nil =>
        rw [List.nil_append] at he
        exact Or.inl ⟨by simpa using hword, he ▸ hopens⟩
      | cons d before =>
        obtain ⟨rfl, rfl⟩ := List.cons.inj he
        exact Or.inr ⟨before, rest, rfl, (hstep before).symm.trans hword, hopens⟩

end Signature

namespace Signature.Wordy
variable {signature : Signature} (h : signature.Wordy)
include h

private theorem rest?_eq_some_iff {t rest : Text} :
    signature.rest? t = some rest ↔ ∃ head, signature.Spells head ∧ t = head ++ rest := by
  have hget : Solid "get".toList := by decide +kernel
  simp only [rest?_eq, Option.bind_eq_some_iff, List.isPrefixOf?_eq_some_iff_append_eq,
    nextWord?_eq_some_iff hget, nextWord?_eq_some_iff h.name]
  constructor
  · rintro ⟨afterGet, ⟨afterType, htype, gap, hgap, hafterType⟩, more, hmore, hafterGet⟩
    refine ⟨_, ⟨gap, more, hgap, hmore, rfl⟩, ?_⟩
    rw [← htype, hafterType, hafterGet]
    simp only [List.append_assoc]
  · rintro ⟨head, ⟨gap, more, hgap, hmore, rfl⟩, rfl⟩
    refine ⟨_, ⟨_, ?_, gap, hgap, rfl⟩, more, hmore, rfl⟩
    simp only [List.append_assoc]

private theorem opens_iff {t : Text} :
    signature.opens t = true ↔
      ∃ head after, t = head ++ after ∧ signature.Spells head ∧ endsWord after = true := by
  simp only [opens, Option.any_eq_true, h.rest?_eq_some_iff]
  constructor
  · rintro ⟨after, ⟨head, hspells, he⟩, hends⟩
    exact ⟨head, after, he, hspells, hends⟩
  · rintro ⟨head, after, he, hspells, hends⟩
    exact ⟨after, ⟨head, hspells, he⟩, hends⟩

/-- The search for a signature is complete: it holds of every line with a head between two texts,
however often the search began to match before. -/
theorem occurs_iff {line : Text} :
    signature.occurs line = true ↔
      ∃ before head after, line = before ++ (head ++ after) ∧
        signature.HeadBetween before head after := by
  have hlast (before : Text) : (before.getLast?.map isWordChar).getD false =
      before.getLast?.any isWordChar := by
    cases before.getLast? <;> rfl
  simp only [occurs, occursAfter_iff, h.opens_iff, hlast]
  constructor
  · rintro ⟨before, rest, rfl, hbegins, head, after, rfl, hspells, hends⟩
    exact ⟨before, head, after, rfl, hspells, hbegins, hends⟩
  · rintro ⟨before, head, after, rfl, hhead⟩
    exact ⟨before, head ++ after, rfl, hhead.begins, head, after, rfl, hhead.spells, hhead.ends⟩

end Signature.Wordy

/-! ### Lines with a head -/

private theorem ignoresMargins_mem {c : Char} (h : isBlankChar c = false) :
    IgnoresMargins fun t => decide (c ∈ t) := by
  have hne {d : Char} (hd : isBlankChar d = true) : c ≠ d := by
    intro he
    rw [he, hd] at h
    exact absurd h (by decide)
  refine ⟨?_, ?_⟩
  · intro d hd t
    simp [hne hd]
  · intro d hd t
    simp [hne hd]

/-- A line with a character that is not one of the override annotation is skippable as a doc
comment only. -/
theorem isSkippable_eq_isPrefixOf {line : Text} {c : Char} (hc : c ∈ line)
    (hb : isBlankChar c = false) (ho : c ∉ "@override".toList) :
    isSkippable line = "///".toList.isPrefixOf (trimStart line) := by
  have hslashes : Solid "///".toList := by decide +kernel
  have hmem : c ∈ trim line := by
    have htrim := (ignoresMargins_mem hb).apply_trim line
    simpa [hc] using htrim
  have hempty : (trim line).isEmpty = false := by
    rw [List.isEmpty_eq_false_iff]
    exact List.ne_nil_of_mem hmem
  have hoverride : trim line ≠ "@override".toList := fun he => ho (he ▸ hmem)
  have hprefix : "///".toList.isPrefixOf (trim line) = "///".toList.isPrefixOf (trimStart line) :=
    hslashes.isPrefixOf_trimEnd _
  rw [isSkippable]
  simp only [hempty, hoverride, hprefix, decide_false, Bool.false_or]

namespace Signature.Wordy
variable {signature : Signature} (h : signature.Wordy) {head : Text}
  (hs : signature.Spells head) (before after : Text)
include h hs

private theorem trimStart_append :
    trimStart (before ++ (head ++ after)) = trimStart before ++ (head ++ after) := by
  have hhead : trimStart (head ++ after) = head ++ after := by
    obtain ⟨gap, more, -, -, rfl⟩ := hs
    rw [List.append_assoc]
    exact h.type.trimStart_append _
  rw [trimStart, List.dropWhile_append]
  split
  · rename_i he
    rw [trimStart, List.isEmpty_iff.mp he]
    exact hhead
  · rfl

/-- Whether a line with a head is skippable shows in front of the end of the head. -/
theorem isSkippable_append :
    isSkippable (before ++ (head ++ after)) =
      "///".toList.isPrefixOf (trimStart before ++ head) := by
  have hget : ∀ c ∈ "get".toList, c ∈ head := by
    obtain ⟨gap, more, -, -, rfl⟩ := hs
    intro c hc
    simp only [List.mem_append, hc, true_or, or_true]
  have hlength : "///".toList.length ≤ (trimStart before ++ head).length := by
    obtain ⟨gap, more, -, -, rfl⟩ := hs
    simp only [List.length_append]
    change 3 ≤ _ + (_ + (_ + (3 + _)))
    omega
  have hg : 'g' ∈ before ++ (head ++ after) := by simp [hget 'g' (by simp)]
  rw [isSkippable_eq_isPrefixOf hg (by decide) (by decide), h.trimStart_append hs,
    ← List.append_assoc, Bool.eq_iff_iff, List.isPrefixOf_iff_prefix, List.isPrefixOf_iff_prefix]
  constructor
  · intro hp
    exact List.prefix_of_prefix_length_le hp (List.prefix_append _ _) hlength
  · intro hp
    exact hp.trans (List.prefix_append _ _)

end Signature.Wordy

section
variable {marker : Marker} {lines : List Text} {index stop : Nat}

/-- The getter of a display type marker ends on the line of its signature. -/
theorem extentAt_eq_oneLine_iff :
    Marker.displayType.extentAt lines index = .oneLine stop ↔
      ∃ signature, stop = signature + 1 ∧ Marker.displayType.SignatureAt lines index signature := by
  constructor
  · intro he
    obtain ⟨signature, hs⟩ := extentAt_ne_absent_iff.mp (by rw [he]; simp)
    rw [hs.extentAt_eq_oneLine] at he
    exact ⟨signature, (Extent.oneLine.inj he).symm, hs⟩
  · rintro ⟨signature, rfl, hs⟩
    exact hs.extentAt_eq_oneLine

theorem Marker.SignatureAt.exists_head {signature : Nat}
    (h : marker.SignatureAt lines index signature) :
    ∃ before head after, lines[signature]? = some (before ++ (head ++ after)) ∧
      marker.signature.HeadBetween before head after := by
  obtain ⟨line, hl, -, hsig⟩ := h.found
  obtain ⟨before, head, after, rfl, hhead⟩ := marker.wordy_signature.occurs_iff.mp hsig
  exact ⟨before, head, after, hl, hhead⟩

/-- Another text behind the head, and other lines below it, leave the signature where it is. -/
theorem Marker.SignatureAt.replace {signature : Nat} {before head after other : Text}
    (h : marker.SignatureAt lines index signature)
    (hl : lines[signature]? = some (before ++ (head ++ after)))
    (hh : marker.signature.HeadBetween before head after) (ho : endsWord other = true)
    (below : List Text) :
    marker.SignatureAt (lines.take signature ++ (before ++ (head ++ other)) :: below) index
      signature := by
  have hlength : (lines.take signature).length = signature := by
    have hlt := (List.getElem?_eq_some_iff.mp hl).1
    rw [List.length_take]
    omega
  have hcode : isSkippable (before ++ (head ++ other)) = false := by
    obtain ⟨line, hline, hcode, -⟩ := h.found
    obtain rfl : line = before ++ (head ++ after) := Option.some.inj (hline.symm.trans hl)
    rw [marker.wordy_signature.isSkippable_append hh.spells] at hcode ⊢
    exact hcode
  have hsig : marker.isSignature (before ++ (head ++ other)) = true :=
    marker.wordy_signature.occurs_iff.mpr
      ⟨before, head, other, rfl, hh.spells, hh.begins, ho⟩
  refine ⟨h.behind, ⟨_, ?_, hcode, hsig⟩, ?_⟩
  · rw [List.getElem?_append_right (by omega), hlength]
    simp
  · intro i hi hlt
    have hbetween := h.between i hi hlt
    rw [SkippableAt, List.getElem?_append_left (by omega), List.getElem?_take_of_lt hlt]
    exact hbetween

end

end DartSweep
