import DartSweep.Text.Blank
import DartSweep.Text.Search
import DartSweep.Text.Word

/-!
# Markers and signatures

A marker is a doc comment line that announces a display getter. Between it and the getter's
signature only skippable lines may stand. A signature is three words in a row, a type, `get` and a
name, anywhere on a line; the first and the last of them are whole words.
-/
namespace DartSweep

/-- The doc comments that announce a display getter. -/
inductive Marker
  | displayType
  | sections
deriving DecidableEq, Repr, Inhabited

/-- Where a getter ends: on the line of its signature, or where its delimiters close. -/
inductive Shape
  | oneLine
  | delimited
deriving DecidableEq, Repr

/-- The words of a getter's declaration around `get`. -/
structure Signature where
  type : Text
  name : Text
deriving DecidableEq, Repr

def afterBlanks? : Text → Option Text
  | [] => none
  | c :: rest => if isBlankChar c then some (trimStart rest) else none

namespace Signature

def rest? (signature : Signature) (t : Text) : Option Text := do
  let t ← signature.type.isPrefixOf? t
  let t ← afterBlanks? t
  let t ← "get".toList.isPrefixOf? t
  let t ← afterBlanks? t
  signature.name.isPrefixOf? t

/-- The text begins with the signature, and the signature's last word ends there. -/
def opens (signature : Signature) (t : Text) : Bool :=
  (signature.rest? t).any endsWord

/-- The signature begins at this character or a later one, where no word is going on. -/
def occursAfter (signature : Signature) (inWord : Bool) : Text → Bool
  | [] => !inWord && signature.opens []
  | c :: rest =>
    (!inWord && signature.opens (c :: rest)) || signature.occursAfter (isWordChar c) rest

def occurs (signature : Signature) (line : Text) : Bool :=
  signature.occursAfter false line

end Signature

namespace Marker

def text : Marker → Text
  | displayType => "/// UI display type for generic rendering.".toList
  | sections => "/// Structured display sections for generic rendering.".toList

def ofLine? (line : Text) : Option Marker :=
  let trimmed := trim line
  if trimmed = displayType.text then some displayType
  else if trimmed = sections.text then some sections
  else none

def shape : Marker → Shape
  | displayType => .oneLine
  | sections => .delimited

def signature : Marker → Signature
  | displayType => ⟨"ResultDisplayType".toList, "displayType".toList⟩
  | sections => ⟨"List<ResultSection>".toList, "sections".toList⟩

def isSignature (marker : Marker) (line : Text) : Bool :=
  marker.signature.occurs line

end Marker

/-- A line that may stand between a marker and its signature: a blank one, the override annotation
or a doc comment. -/
def isSkippable (line : Text) : Bool :=
  let trimmed := trim line
  trimmed.isEmpty || trimmed = "@override".toList || "///".toList.isPrefixOf trimmed

private theorem Marker.trim_eq_text {line : Text} {marker : Marker}
    (h : ofLine? line = some marker) : trim line = marker.text := by
  rw [ofLine?] at h
  grind

private theorem Marker.isPrefixOf_text (marker : Marker) :
    "///".toList.isPrefixOf marker.text = true := by
  cases marker <;> decide +kernel

theorem isSkippable_of_isBlank {line : Text} (h : isBlank line = true) :
    isSkippable line = true := by
  simp [isSkippable, (trim_eq_nil_iff line).mpr h]

/-- Another marker may stand between a marker and its signature. -/
theorem isSkippable_of_ofLine? {line : Text} {marker : Marker}
    (h : Marker.ofLine? line = some marker) : isSkippable line = true := by
  rw [isSkippable, Marker.trim_eq_text h]
  simp only [marker.isPrefixOf_text, Bool.or_true]

theorem isBlank_of_ofLine? {line : Text} {marker : Marker}
    (h : Marker.ofLine? line = some marker) : isBlank line = false := by
  rw [Bool.eq_false_iff, Ne, ← trim_eq_nil_iff, Marker.trim_eq_text h]
  intro he
  have hp := marker.isPrefixOf_text
  rw [he] at hp
  exact absurd hp (by decide +kernel)

end DartSweep
