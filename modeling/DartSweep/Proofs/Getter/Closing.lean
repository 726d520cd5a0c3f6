import DartSweep.Proofs.Getter.Depth
import DartSweep.Proofs.Getter.Lookahead
import DartSweep.Proofs.Text.Margins
import Mathlib.Order.Bounds.Basic
import Mathlib.Order.Nat

/-!
# Where a body closes

A delimited getter ends with the first line, from its signature on, that closes the body: up to
there a delimiter has been opened, the depth that matters for the form is zero, and the line ends
as the form wants it.
-/
namespace DartSweep

private theorem isLeast_succ_iff {p : Nat → Prop} {index : Nat} :
    IsLeast {i | p i} (index + 1) ↔ ¬p 0 ∧ IsLeast {i | p (i + 1)} index := by
  constructor
  · intro h
    refine ⟨fun h0 => absurd (h.2 h0) (Nat.not_succ_le_zero _), h.1, ?_⟩
    intro i hi
    exact Nat.le_of_succ_le_succ (h.2 hi)
  · intro h
    refine ⟨h.2.1, ?_⟩
    intro i hi
    cases i with
    | zero => exact absurd hi h.1
    | succ i => exact Nat.succ_le_succ (h.2.2 hi)

theorem exists_isLeast_le {p : Nat → Prop} {index : Nat} (h : p index) :
    ∃ first, IsLeast {i | p i} first ∧ first ≤ index := by
  classical
  exact ⟨Nat.find ⟨index, h⟩, Nat.isLeast_find ⟨index, h⟩, Nat.find_min' ⟨index, h⟩ h⟩

/-- The characters of the lines from the first index through the last. -/
def charsThrough (lines : List Text) (first last : Nat) : Text :=
  ((⟨first, last + 1⟩ : Span).slice lines).flatten

def braceDepth (lines : List Text) (first last : Nat) : Int :=
  excess '{' '}' (charsThrough lines first last)

def bracketDepth (lines : List Text) (first last : Nat) : Int :=
  excess '[' ']' (charsThrough lines first last)

private theorem mem_charsThrough {lines : List Text} {first last : Nat} {line : Text} {c : Char}
    (hb : first ≤ last) (hl : lines[last]? = some line) (hc : c ∈ line) :
    c ∈ charsThrough lines first last := by
  refine List.mem_flatten.mpr ⟨line, List.mem_iff_getElem?.mpr ⟨last - first, ?_⟩, hc⟩
  rw [Span.getElem?_slice (by dsimp only; omega)]
  dsimp only
  rw [Nat.add_sub_cancel' hb, hl]

namespace BodyForm

/-- The delimiter that is to be closed again where a body of the form ends. -/
def opener : BodyForm → Char
  | expression => '['
  | block => '{'

def closer : BodyForm → Char
  | expression => ']'
  | block => '}'

/-- The depth that is zero where a body of the form closes. -/
def depth : BodyForm → List Text → Nat → Nat → Int
  | expression => bracketDepth
  | block => braceDepth

theorem depth_eq (form : BodyForm) (lines : List Text) (first last : Nat) :
    form.depth lines first last =
      excess form.opener form.closer (charsThrough lines first last) := by
  cases form <;> rfl

def counter : BodyForm → Nesting → Int32
  | expression, nesting => nesting.brackets
  | block, nesting => nesting.braces

def endsOn : BodyForm → Text → Bool
  | expression, line => "];".toList.isSuffixOf (trimEnd line)
  | block, line => trim line == ['}']

def EndsAt (form : BodyForm) (lines : List Text) (index : Nat) : Prop :=
  lines[index]?.any form.endsOn = true

/-- The line `last` closes a body of the form that begins on the line `first`. -/
structure ClosesAt (form : BodyForm) (lines : List Text) (first last : Nat) : Prop where
  behind : first ≤ last
  opened : '{' ∈ charsThrough lines first last ∨ '[' ∈ charsThrough lines first last
  level : (2 ^ 32 : Int) ∣ form.depth lines first last
  ends : form.EndsAt lines last

private theorem closer_mem_of_endsOn {form : BodyForm} {line : Text} (h : form.endsOn line = true) :
    form.closer ∈ line := by
  cases form with
  | expression =>
    have hsuffix : "];".toList <:+ trimEnd line := List.isSuffixOf_iff_suffix.mp h
    exact (trimEnd_sublist line).subset (hsuffix.subset (by simp [closer]))
  | block =>
    have htrim : trim line = ['}'] := beq_iff_eq.mp h
    apply (trim_sublist line).subset
    rw [htrim]
    exact List.mem_singleton_self _

section
variable {form : BodyForm} {lines : List Text} {first last : Nat}

theorem ClosesAt.lt_length (h : form.ClosesAt lines first last) : last < lines.length := by
  obtain ⟨line, hl, -⟩ := (Option.any_eq_true _ _).mp h.ends
  exact (List.getElem?_eq_some_iff.mp hl).1

/-- Where the depth is zero, the closer of a line that ends like a last line has had its opener. -/
theorem opener_mem_of_depth_eq_zero (hb : first ≤ last) (hd : form.depth lines first last = 0)
    (he : form.EndsAt lines last) : form.opener ∈ charsThrough lines first last := by
  obtain ⟨line, hl, hends⟩ := (Option.any_eq_true _ _).mp he
  have hcloser := mem_charsThrough hb hl (closer_mem_of_endsOn hends)
  rw [depth_eq] at hd
  exact mem_of_excess_eq_zero hd hcloser

theorem closesAt_of_depth_eq_zero (hb : first ≤ last) (hd : form.depth lines first last = 0)
    (he : form.EndsAt lines last) : form.ClosesAt lines first last := by
  have hopener := opener_mem_of_depth_eq_zero hb hd he
  refine ⟨hb, ?_, ?_, he⟩
  · cases form with
    | expression => exact Or.inr hopener
    | block => exact Or.inl hopener
  · rw [hd]
    exact Int.dvd_zero _

/-- A line with the depth zero in front of the last one ends otherwise than a last line. -/
theorem not_endsAt_of_isLeast {earlier : Nat}
    (h : IsLeast {i | form.ClosesAt lines first i} last) (hb : first ≤ earlier)
    (hlt : earlier < last) (hd : form.depth lines first earlier = 0) :
    ¬form.EndsAt lines earlier := by
  intro he
  have hle : last ≤ earlier := h.2 (closesAt_of_depth_eq_zero hb hd he)
  omega

end

/-- The nesting that has read the lines up to the index closes a body of the form there. -/
def StopsAt (form : BodyForm) (nesting : Nesting) (lines : List Text) (index : Nat) : Prop :=
  ∃ line, lines[index]? = some line ∧
    (nesting.after (lines.take (index + 1)).flatten).started = true ∧
    form.closes line (nesting.after (lines.take (index + 1)).flatten) = true

private theorem stopsAt_cons_zero (form : BodyForm) (nesting : Nesting) (line : Text)
    (rest : List Text) :
    form.StopsAt nesting (line :: rest) 0 ↔
      ((nesting.after line).started && form.closes line (nesting.after line)) = true := by
  simp [StopsAt]

private theorem stopsAt_cons_succ (form : BodyForm) (nesting : Nesting) (line : Text)
    (rest : List Text) (index : Nat) :
    form.StopsAt nesting (line :: rest) (index + 1) ↔
      form.StopsAt (nesting.after line) rest index := by
  simp [StopsAt]

/-- A body reaches up to the first line at which the nesting stops. -/
theorem length?_eq_some_iff {form : BodyForm} {nesting : Nesting} {lines : List Text}
    {length : Nat} :
    form.length? nesting lines = some length ↔
      ∃ last, length = last + 1 ∧ IsLeast {i | form.StopsAt nesting lines i} last := by
  -- For any nesting, as the lines below the first are read with what the first one has opened.
  induction lines generalizing nesting length with
  | nil => simp [length?, StopsAt, IsLeast]
  | cons line rest ih =>
    have hzero := form.stopsAt_cons_zero nesting line rest
    rw [length?]
    split
    · rename_i hc
      have hfirst : IsLeast {i | form.StopsAt nesting (line :: rest) i} 0 :=
        ⟨hzero.mpr hc, fun _ _ => Nat.zero_le _⟩
      constructor
      · intro h
        exact ⟨0, (Option.some.inj h).symm, hfirst⟩
      · intro hex
        obtain ⟨last, rfl, hlast⟩ := hex
        rw [hlast.unique hfirst]
    · rename_i hc
      have hstep (last : Nat) :
          IsLeast {i | form.StopsAt nesting (line :: rest) i} (last + 1) ↔
            form.length? (nesting.after line) rest = some (last + 1) := by
        rw [isLeast_succ_iff, ih]
        simp only [stopsAt_cons_succ, hzero, hc]
        simp
      constructor
      · intro h
        obtain ⟨tail, ht, rfl⟩ := Option.map_eq_some_iff.mp h
        obtain ⟨last, rfl, -⟩ := ih.mp ht
        exact ⟨last + 1, rfl, (hstep last).mpr ht⟩
      · intro hex
        obtain ⟨last, rfl, hlast⟩ := hex
        cases last with
        | zero => exact absurd (hzero.mp hlast.1) hc
        | succ last => rw [(hstep last).mp hlast, Option.map_some]

private theorem closes_eq (form : BodyForm) (line : Text) (nesting : Nesting) :
    form.closes line nesting = (form.counter nesting == 0 && form.endsOn line) := by
  cases form <;> rfl

private theorem counter_eq_zero_iff (form : BodyForm) (lines : List Text) (first last : Nat) :
    form.counter (Nesting.empty.after (charsThrough lines first last)) = 0 ↔
      (2 ^ 32 : Int) ∣ form.depth lines first last := by
  cases form with
  | expression =>
    rw [counter, Nesting.brackets_after, depth, bracketDepth, ← ofInt_eq_zero_iff]
    exact Eq.congr_left (Int32.zero_add _)
  | block =>
    rw [counter, Nesting.braces_after, depth, braceDepth, ← ofInt_eq_zero_iff]
    exact Eq.congr_left (Int32.zero_add _)

private theorem stopsAt_drop_iff (form : BodyForm) (lines : List Text) (first index : Nat) :
    form.StopsAt .empty (lines.drop first) index ↔ form.ClosesAt lines first (first + index) := by
  have hchars : ((lines.drop first).take (index + 1)).flatten =
      charsThrough lines first (first + index) := by
    rw [charsThrough, Span.slice, List.drop_take]
    congr 2
    dsimp only
    omega
  rw [StopsAt, hchars]
  simp only [closes_eq, Bool.and_eq_true, beq_iff_eq, counter_eq_zero_iff,
    Nesting.started_after, List.getElem?_drop]
  constructor
  · intro hex
    obtain ⟨line, hl, hopened, hlevel, hends⟩ := hex
    refine ⟨Nat.le_add_right _ _, ?_, hlevel, ?_⟩
    · exact hopened.resolve_left Bool.false_ne_true
    · rw [EndsAt, hl]
      exact hends
  · intro h
    obtain ⟨line, hl, hends⟩ := (Option.any_eq_true _ _).mp h.ends
    exact ⟨line, hl, Or.inr h.opened, h.level, hends⟩

private theorem isLeast_stopsAt_iff (form : BodyForm) (lines : List Text) (first last : Nat) :
    (∃ index, last = first + index ∧ IsLeast {i | form.StopsAt .empty (lines.drop first) i} index) ↔
      IsLeast {i | form.ClosesAt lines first i} last := by
  simp only [stopsAt_drop_iff]
  constructor
  · intro hex
    obtain ⟨index, rfl, h⟩ := hex
    refine ⟨h.1, ?_⟩
    intro i hi
    have hbehind := hi.behind
    have hself : form.ClosesAt lines first (first + (i - first)) := by
      rw [Nat.add_sub_cancel' hbehind]
      exact hi
    have hle := h.2 hself
    omega
  · intro h
    have hbehind := h.1.behind
    refine ⟨last - first, by omega, ?_, ?_⟩
    · change form.ClosesAt lines first (first + (last - first))
      rw [Nat.add_sub_cancel' hbehind]
      exact h.1
    · intro i hi
      have hle := h.2 hi
      omega

end BodyForm

/-- A delimited getter goes on to the first line that closes its body. -/
theorem Marker.SignatureAt.extentAt_eq_body_iff {lines : List Text} {index signature stop : Nat}
    {line : Text} {form : BodyForm} (h : Marker.sections.SignatureAt lines index signature)
    (hl : lines[signature]? = some line) :
    Marker.sections.extentAt lines index = .body stop form ↔
      form = BodyForm.ofSignature line ∧
        ∃ last, stop = last + 1 ∧ IsLeast {i | form.ClosesAt lines signature i} last := by
  obtain ⟨hlt, hget⟩ := List.getElem?_eq_some_iff.mp hl
  have hdrop : line :: lines.drop (signature + 1) = lines.drop signature := by
    rw [List.drop_eq_getElem_cons hlt, hget]
  have hextent : Marker.sections.extentAt lines index =
      (bodyExtent line (lines.drop (signature + 1))).shift signature := h.extentAt hl
  rw [hextent, bodyExtent, hdrop]
  cases hlength : (BodyForm.ofSignature line).length? .empty (lines.drop signature) with
  | none =>
    simp only [Extent.shift, reduceCtorEq, false_iff, not_and, not_exists]
    intro hform last _ hleast
    rw [hform, ← BodyForm.isLeast_stopsAt_iff] at hleast
    obtain ⟨i, -, hi⟩ := hleast
    have hsome := BodyForm.length?_eq_some_iff.mpr ⟨i, rfl, hi⟩
    rw [hlength] at hsome
    exact absurd hsome (by simp)
  | some length =>
    obtain ⟨i, rfl, hi⟩ := BodyForm.length?_eq_some_iff.mp hlength
    have hleast := (BodyForm.isLeast_stopsAt_iff _ lines signature _).mp ⟨i, rfl, hi⟩
    simp only [Extent.shift, Extent.body.injEq]
    constructor
    · intro he
      obtain ⟨rfl, rfl⟩ := he
      exact ⟨rfl, signature + i, by omega, hleast⟩
    · intro hex
      obtain ⟨rfl, last, rfl, hlast⟩ := hex
      rw [hlast.unique hleast]
      exact ⟨by omega, rfl⟩

theorem Marker.SignatureAt.extentAt_eq_unclosed_iff {lines : List Text} {index signature : Nat}
    {line : Text} (h : Marker.sections.SignatureAt lines index signature)
    (hl : lines[signature]? = some line) :
    Marker.sections.extentAt lines index = .unclosed signature ↔
      ∀ last, ¬(BodyForm.ofSignature line).ClosesAt lines signature last := by
  constructor
  · intro he last hc
    obtain ⟨first, hfirst, -⟩ := exists_isLeast_le
      (p := fun i => (BodyForm.ofSignature line).ClosesAt lines signature i) hc
    have hbody := (h.extentAt_eq_body_iff hl).mpr ⟨rfl, first, rfl, hfirst⟩
    simp [he] at hbody
  · intro hnone
    rcases h.body_or_unclosed with ⟨stop, form, hbody⟩ | hunclosed
    · obtain ⟨rfl, last, -, hleast⟩ := (h.extentAt_eq_body_iff hl).mp hbody
      exact absurd hleast.1 (hnone last)
    · exact hunclosed

theorem Marker.exists_isLeast_closesAt {lines : List Text} {index stop : Nat} {form : BodyForm}
    (h : Marker.sections.extentAt lines index = .body stop form) :
    ∃ signature line last, Marker.sections.SignatureAt lines index signature ∧
      lines[signature]? = some line ∧ form = BodyForm.ofSignature line ∧ stop = last + 1 ∧
      IsLeast {i | form.ClosesAt lines signature i} last := by
  obtain ⟨signature, hs⟩ := extentAt_ne_absent_iff.mp (by rw [h]; simp)
  obtain ⟨line, hl, -⟩ := hs.found
  obtain ⟨hform, last, hstop, hleast⟩ := (hs.extentAt_eq_body_iff hl).mp h
  exact ⟨signature, line, last, hs, hl, hform, hstop, hleast⟩

end DartSweep
