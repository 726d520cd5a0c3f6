import DartSweep.Proofs.Getter.Heads

/-!
# Signatures as expressions

A signature is an expression of a few atoms: the place where a word begins or ends, a word as it is
spelt, and a gap. What such an expression matches is said here without the search. The search finds
a signature on exactly those lines that hold a match of its expression, wherever it stands and
however often an earlier part of the line began like one.
-/
namespace DartSweep

/-- A word begins or ends between the two texts: a word character stands on one side only. -/
def Boundary (before after : Text) : Prop :=
  before.getLast?.any isWordChar ≠ after.head?.any isWordChar

section
variable {word : Text}

private theorem boundary_append_left (h : word.head?.any isWordChar = true) (before after : Text) :
    Boundary before (word ++ after) ↔ before.getLast?.any isWordChar = false := by
  cases word with
  | nil => simp at h
  | cons first rest =>
    have hfirst : isWordChar first = true := by simpa using h
    simp [Boundary, hfirst]

private theorem boundary_append_right (h : word.getLast?.any isWordChar = true)
    (before after : Text) : Boundary (before ++ word) after ↔ endsWord after = true := by
  have hlast : (before ++ word).getLast?.any isWordChar = true := by
    rw [List.getLast?_append]
    cases hw : word.getLast? with
    | none => simp [hw] at h
    | some last => simpa [hw] using h
  rw [Boundary, hlast, endsWord, Bool.not_eq_true', ne_comm, Ne, Bool.not_eq_true]

end

inductive Atom
  | boundary
  | word (spelling : Text)
  | gap
deriving DecidableEq, Repr

def Atom.Matches (before t after : Text) : Atom → Prop
  | boundary => t = [] ∧ Boundary before after
  | word spelling => t = spelling
  | gap => Gap t

/-- The atoms match the text between the two others, each of them the next piece of it. -/
def Matches (after : Text) : List Atom → Text → Text → Prop
  | [], _, t => t = []
  | atom :: atoms, before, t =>
    ∃ piece rest, t = piece ++ rest ∧ atom.Matches before piece (rest ++ after) ∧
      Matches after atoms (before ++ piece) rest

section
variable {before t after : Text} {atoms : List Atom}

private theorem matches_nil : Matches after [] before t ↔ t = [] :=
  Iff.rfl

private theorem matches_boundary_cons :
    Matches after (.boundary :: atoms) before t ↔
      Boundary before (t ++ after) ∧ Matches after atoms before t := by
  constructor
  · rintro ⟨_, rest, rfl, ⟨rfl, hboundary⟩, hrest⟩
    rw [List.append_nil] at hrest
    exact ⟨hboundary, hrest⟩
  · rintro ⟨hboundary, hrest⟩
    exact ⟨[], t, rfl, ⟨rfl, hboundary⟩, by rwa [List.append_nil]⟩

private theorem matches_word_cons {spelling : Text} :
    Matches after (.word spelling :: atoms) before t ↔
      ∃ rest, t = spelling ++ rest ∧ Matches after atoms (before ++ spelling) rest := by
  constructor
  · rintro ⟨_, rest, rfl, rfl, hrest⟩
    exact ⟨rest, rfl, hrest⟩
  · rintro ⟨rest, rfl, hrest⟩
    exact ⟨spelling, rest, rfl, rfl, hrest⟩

private theorem matches_gap_cons :
    Matches after (.gap :: atoms) before t ↔
      ∃ gap rest, t = gap ++ rest ∧ Gap gap ∧ Matches after atoms (before ++ gap) rest :=
  Iff.rfl

end

def Holds (atoms : List Atom) (line : Text) : Prop :=
  ∃ before t after, line = before ++ (t ++ after) ∧ Matches after atoms before t

namespace Signature

/-- The expression that is searched for: the three words with gaps between them, the first of them
from its beginning and the last to its end. -/
def atoms (signature : Signature) : List Atom :=
  [.boundary, .word signature.type, .gap, .word "get".toList, .gap, .word signature.name, .boundary]

private theorem matches_atoms_iff {signature : Signature} {before t after : Text} :
    Matches after signature.atoms before t ↔
      signature.Spells t ∧ Boundary before (t ++ after) ∧ Boundary (before ++ t) after := by
  -- With the atoms gone, both sides name the same pieces and differ in how these are bracketed.
  simp only [atoms, matches_boundary_cons, matches_word_cons, matches_gap_cons, matches_nil]
  constructor
  · rintro ⟨hbegins, _, rfl, gap, _, rfl, hgap, _, rfl, more, _, rfl, hmore, _, rfl, hends, rfl⟩
    refine ⟨⟨gap, more, hgap, hmore, by rw [List.append_nil]⟩, hbegins, ?_⟩
    simpa only [List.append_assoc, List.append_nil, List.nil_append] using hends
  · rintro ⟨⟨gap, more, hgap, hmore, rfl⟩, hbegins, hends⟩
    refine ⟨hbegins, _, rfl, gap, _, rfl, hgap, _, rfl, more, _, rfl, hmore, [], ?_, ?_, rfl⟩
    · rw [List.append_nil]
    · simpa only [List.append_assoc, List.nil_append] using hends

end Signature

structure Signature.WordAtEnds (signature : Signature) : Prop where
  first : signature.type.head?.any isWordChar = true
  last : signature.name.getLast?.any isWordChar = true

private theorem Marker.wordAtEnds_signature (marker : Marker) : marker.signature.WordAtEnds := by
  cases marker <;> exact ⟨by decide +kernel, by decide +kernel⟩

namespace Signature.WordAtEnds
variable {signature : Signature} (h : signature.WordAtEnds)
include h

section
variable {head : Text} (hs : signature.Spells head) (before after : Text)
include hs

private theorem boundary_head_iff :
    Boundary before (head ++ after) ↔ before.getLast?.any isWordChar = false := by
  obtain ⟨gap, more, -, -, rfl⟩ := hs
  rw [List.append_assoc]
  exact boundary_append_left h.first _ _

private theorem head_boundary_iff : Boundary (before ++ head) after ↔ endsWord after = true := by
  obtain ⟨gap, more, -, -, rfl⟩ := hs
  simp only [← List.append_assoc]
  exact boundary_append_right h.last _ _

end

/-- A head decides one side of the boundaries at its ends, and the texts around it the other. -/
private theorem matches_iff_headBetween {before head after : Text} :
    Matches after signature.atoms before head ↔ signature.HeadBetween before head after := by
  rw [matches_atoms_iff]
  constructor
  · rintro ⟨hs, hbegins, hends⟩
    exact ⟨hs, (h.boundary_head_iff hs before after).mp hbegins,
      (h.head_boundary_iff hs before after).mp hends⟩
  · intro hhead
    exact ⟨hhead.spells, (h.boundary_head_iff hhead.spells before after).mpr hhead.begins,
      (h.head_boundary_iff hhead.spells before after).mpr hhead.ends⟩

end Signature.WordAtEnds

/-- The search for a signature is the search for a match of its expression. -/
theorem Marker.isSignature_iff_holds (marker : Marker) (line : Text) :
    marker.isSignature line = true ↔ Holds marker.signature.atoms line := by
  rw [isSignature, marker.wordy_signature.occurs_iff, Holds]
  simp only [marker.wordAtEnds_signature.matches_iff_headBetween]

/-! ### Lines taken apart -/

/-- The line is the type, `get` and the name with gaps between them, behind a text that ends outside
of words and in front of a text that begins outside of words. -/
structure Declares (type name line before gap more after : Text) : Prop where
  line_eq : line = before ++ type ++ gap ++ "get".toList ++ more ++ name ++ after
  afterType : Gap gap
  afterGet : Gap more
  begins : before = [] ∨ ∃ rest c, before = rest ++ [c] ∧ isWordChar c = false
  ends : after = [] ∨ ∃ c rest, after = c :: rest ∧ isWordChar c = false

private theorem getLast?_any_isWordChar_eq_false_iff (before : Text) :
    before.getLast?.any isWordChar = false ↔
      before = [] ∨ ∃ rest c, before = rest ++ [c] ∧ isWordChar c = false := by
  induction before using List.reverseRecOn with
  | nil => simp
  | append_singleton rest c => simp

private theorem endsWord_iff (after : Text) :
    endsWord after = true ↔ after = [] ∨ ∃ c rest, after = c :: rest ∧ isWordChar c = false := by
  cases after <;> simp [endsWord]

private theorem Signature.WordAtEnds.holds_atoms_iff {signature : Signature}
    (h : signature.WordAtEnds) (line : Text) :
    Holds signature.atoms line ↔
      ∃ before gap more after,
        Declares signature.type signature.name line before gap more after := by
  simp only [Holds, h.matches_iff_headBetween]
  constructor
  · rintro ⟨before, head, after, rfl, ⟨gap, more, hgap, hmore, rfl⟩, hbegins, hends⟩
    exact ⟨before, gap, more, after, by simp only [List.append_assoc], hgap, hmore,
      (getLast?_any_isWordChar_eq_false_iff before).mp hbegins, (endsWord_iff after).mp hends⟩
  · rintro ⟨before, gap, more, after, rfl, hgap, hmore, hbegins, hends⟩
    refine ⟨before, _, after, ?_, ⟨gap, more, hgap, hmore, rfl⟩,
      (getLast?_any_isWordChar_eq_false_iff before).mpr hbegins, (endsWord_iff after).mpr hends⟩
    simp only [List.append_assoc]

/-- The search for signatures is exact. A line holds the signature of a display type getter, or of a
sections getter, if and only if somewhere on it the type, a gap, `get`, a gap and the name follow
one another, with no word character directly in front of the type or directly behind the name. -/
theorem signature_search_is_exact (line : Text) :
    (Marker.displayType.isSignature line = true ↔
      ∃ before gap more after,
        Declares "ResultDisplayType".toList "displayType".toList line before gap more after) ∧
    (Marker.sections.isSignature line = true ↔
      ∃ before gap more after,
        Declares "List<ResultSection>".toList "sections".toList line before gap more after) := by
  have hmarker (marker : Marker) :
      marker.isSignature line = true ↔ ∃ before gap more after,
        Declares marker.signature.type marker.signature.name line before gap more after :=
    (marker.isSignature_iff_holds line).trans (marker.wordAtEnds_signature.holds_atoms_iff line)
  exact ⟨hmarker .displayType, hmarker .sections⟩

/-- The search goes on after beginnings of a signature that come to nothing. -/
example : Marker.displayType.isSignature
    ("ResultDisplayType get ResultDisplayType get displayTypes, " ++
      "ResultDisplayType get displayType;").toList = true := by
  decide +kernel

end DartSweep
