import DartSweep.Proofs.Getter.Blanks
import DartSweep.Proofs.Getter.Locality

/-!
# Scanning lists one behind the other

A scan passes the border between two lists of lines without a trace where the first list ends with
a line that is not skippable: no look-ahead gets across it, and a body that is closed does not
either. So the getters are those of the first list and then those of the second.
-/
namespace DartSweep

section
variable {lines : List Text} {index : Nat} (others : List Text)

private theorem markerAt?_append (h : index < lines.length) :
    markerAt? (lines ++ others) index = markerAt? lines index := by
  rw [markerAt?, List.getElem?_append_left h, markerAt?]

theorem GetterAt.append {stop : Nat} (h : GetterAt lines index stop) :
    GetterAt (lines ++ others) index stop := by
  have hbounds := h.bounds
  obtain ⟨marker, hm, hs⟩ := h
  have hsame : SameLines lines (lines ++ others) (index + 1) stop :=
    (sameLines_append others _).mono (Nat.le_refl _) hbounds.2
  have hextent : marker.extentAt (lines ++ others) index = marker.extentAt lines index :=
    ((marker.hasExtent_extentAt lines index).congr hs hsame).extentAt_eq
  exact ⟨marker, (markerAt?_append others (markerAt?_lt hm)).trans hm, hextent ▸ hs⟩

variable {last : Text} (hlast : lines.getLast? = some last) (hcode : isSkippable last = false)
include hlast hcode

/-- The last line ends every look-ahead. -/
private theorem firstCode?_drop_append (hi : index < lines.length) :
    firstCode? (lines.drop index ++ others) = firstCode? (lines.drop index) := by
  have hmem : last ∈ lines.drop index := by
    apply List.mem_of_getLast?
    rw [List.getLast?_drop, if_neg (by omega), hlast]
  obtain ⟨line, hline⟩ : ∃ line, firstCode? (lines.drop index) = some line := by
    rw [← Option.isSome_iff_exists, firstCode?, List.find?_isSome]
    exact ⟨last, hmem, by simp [hcode]⟩
  rw [firstCode?, List.find?_append, ← firstCode?, hline]
  rfl

theorem StrayAt.append (hi : index < lines.length) (h : StrayAt lines index) :
    StrayAt (lines ++ others) index := by
  rw [strayAt_iff] at h ⊢
  intro marker hm
  rw [markerAt?_append others hi] at hm
  -- A marker's line is skippable, so it is not the last one.
  have hnext : index + 1 < lines.length := by
    have hskip := skippableAt_of_markerAt? hm
    by_contra hle
    have hend : lines[index]? = some last := by
      rw [← hlast, List.getLast?_eq_getElem?]
      congr 1
      omega
    rw [SkippableAt, hend, Option.any_some, hcode] at hskip
    exact absurd hskip (by decide)
  rw [List.drop_append_of_le_length hi, firstCode?_drop_append others hlast hcode hnext]
  exact h marker hm

private theorem gettersFrom_append {spans : List Span} (hi : index ≤ lines.length)
    (h : gettersFrom lines index = .ok spans) :
    gettersFrom (lines ++ others) index =
      (gettersFrom (lines ++ others) lines.length).map (spans ++ ·) := by
  induction index using scan_induction lines generalizing spans with
  | past index hp =>
    rw [gettersFrom_of_length_le hp] at h
    rw [Nat.le_antisymm hi hp, ← Except.ok.inj h]
    cases gettersFrom (lines ++ others) lines.length <;> rfl
  | stray index hlt hs ih =>
    have hlonger : index < (lines ++ others).length := by
      rw [List.length_append]
      omega
    rw [gettersFrom_of_stray hlt hs] at h
    rw [gettersFrom_of_stray hlonger (hs.append others hlast hcode hlt)]
    exact ih hlt h
  | getter index stop hg ih =>
    rw [gettersFrom_of_getter hg] at h
    cases hrest : gettersFrom lines stop with
    | error fault => simp [hrest, Except.map] at h
    | ok rest =>
      rw [hrest] at h
      rw [gettersFrom_of_getter (hg.append others), ih hg.bounds.2 hrest, ← Except.ok.inj h]
      cases gettersFrom (lines ++ others) lines.length <;> rfl
  | unclosed index signature hu => simp [gettersFrom_of_unclosed hu] at h

end

/-- In the longer list the lines of the second stand further down. -/
private theorem gettersFrom_length_append (lines others : List Text) :
    gettersFrom (lines ++ others) lines.length =
      ((findGetters others).map (List.map (Span.shift · lines.length))).mapError
        (Fault.move (· + lines.length)) := by
  have hleads : Leads (· + lines.length) id 0 lines.length := by
    intro index
    dsimp only [id]
    omega
  have hscan : scanFrom lines.length 0 others =
      (scan others).map (Finding.move (· + lines.length) (behind (· + lines.length))) :=
    scanFrom_spaced (Stretched.refl isBlank false others).spaced hleads 0
  rw [gettersFrom, List.drop_left, hscan, getterSpans_move, ← findGetters]
  cases hf : findGetters others with
  | error fault => rfl
  | ok spans =>
    refine congrArg Except.ok (List.map_congr_left fun span hm => ?_)
    have hb := findGetters_bounds hf span hm
    obtain ⟨last, hlast⟩ : ∃ last, span.stop = last + 1 := ⟨span.stop - 1, by omega⟩
    rw [Span.move, Span.shift, hlast, behind, Nat.add_right_comm]

/-- Scanning is compositional. Where the first of two lists does not end with a skippable line and
its getters are found, those of the second list follow them, moved down by the length of the first.
If a getter of the second list never closes, the fault names its lines moved down in the same way.
-/
theorem findGetters_append {lines others : List Text} {spans : List Span} (hne : lines ≠ [])
    (hcode : isSkippable (lines.getLast hne) = false) (hf : findGetters lines = .ok spans) :
    (∀ more, findGetters others = .ok more →
      findGetters (lines ++ others) = .ok (spans ++ more.map (Span.shift · lines.length))) ∧
      ∀ fault, findGetters others = .error fault →
        ∃ marker signature, fault = .unterminated marker signature ∧
          findGetters (lines ++ others) =
            .error (.unterminated (marker + lines.length) (signature + lines.length)) := by
  have hlast : lines.getLast? = some (lines.getLast hne) := List.getLast?_eq_some_getLast hne
  have happend : findGetters (lines ++ others) =
      (gettersFrom (lines ++ others) lines.length).map (spans ++ ·) :=
    gettersFrom_append others hlast hcode (Nat.zero_le _) hf
  rw [gettersFrom_length_append] at happend
  refine ⟨?_, ?_⟩
  · intro more hm
    rw [hm] at happend
    exact happend
  · intro fault hfault
    obtain ⟨marker, signature, -, rfl, -⟩ := (findGetters_eq_error_iff others fault).mp hfault
    rw [hfault] at happend
    refine ⟨marker + 1, signature + 1, rfl, happend.trans ?_⟩
    rw [Nat.add_right_comm marker, Nat.add_right_comm signature]
    rfl

def endingGetter : List Text :=
  ["/// UI display type for generic rendering.".toList,
    "ResultDisplayType get displayType;".toList]

def openGetter : List Text :=
  [[], "/// Structured display sections for generic rendering.".toList,
    "List<ResultSection> get sections \x7b".toList]

theorem findGetters_append_ending :
    ∃ hne : endingGetter ≠ [], isSkippable (endingGetter.getLast hne) = false ∧
      findGetters endingGetter = .ok [⟨0, 2⟩] ∧
      findGetters (endingGetter ++ endingGetter) = .ok [⟨0, 2⟩, ⟨2, 4⟩] ∧
      findGetters openGetter = .error (.unterminated 2 3) ∧
      findGetters (endingGetter ++ openGetter) = .error (.unterminated 4 5) := by
  have hne : endingGetter ≠ [] := by simp [endingGetter]
  have hcode : isSkippable (endingGetter.getLast hne) = false := by decide +kernel +revert
  have hf : findGetters endingGetter = .ok [⟨0, 2⟩] := by rfl
  have hopen : findGetters openGetter = .error (.unterminated 2 3) := by rfl
  obtain ⟨hmore, -⟩ := @findGetters_append endingGetter endingGetter _ hne hcode hf
  obtain ⟨-, hfault⟩ := @findGetters_append endingGetter openGetter _ hne hcode hf
  obtain ⟨marker, signature, he, happend⟩ := hfault _ hopen
  obtain ⟨rfl, rfl⟩ := Fault.unterminated.inj he
  exact ⟨hne, hcode, hf, hmore _ hf, hopen, happend⟩

end DartSweep
