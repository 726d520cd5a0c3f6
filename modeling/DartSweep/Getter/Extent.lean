import DartSweep.Getter.Marker
import DartSweep.Getter.Nesting

/-!
# The extent of a getter

From a marker the lines are read forward: skippable lines are passed over, and the first line that
is not must hold the marker's signature. A one line getter ends there. A delimited getter goes on
to the first line that closes its body, once an opening delimiter has been seen.
-/
namespace DartSweep

inductive BodyForm
  | expression
  | block
deriving DecidableEq, Repr, Inhabited

namespace BodyForm

/-- An arrow on the signature's line makes the body an expression. -/
def ofSignature (line : Text) : BodyForm :=
  if occursIn "=>".toList line then expression else block

/-- The line, which the nesting already counts, closes a body of this form. -/
def closes (form : BodyForm) (line : Text) (nesting : Nesting) : Bool :=
  match form with
  | expression => nesting.brackets == 0 && "];".toList.isSuffixOf (trimEnd line)
  | block => nesting.braces == 0 && trim line == ['}']

/-- The number of lines up to and with the first that closes the body. -/
def length? (form : BodyForm) (nesting : Nesting) : List Text → Option Nat
  | [] => none
  | line :: rest =>
    let nesting := nesting.after line
    if nesting.started && form.closes line nesting then some 1
    else (form.length? nesting rest).map (· + 1)

end BodyForm

/-- What stands after a marker. Line indices count from zero, and `stop` is the index after the
getter's last line. -/
inductive Extent
  /-- Something else than the marker's getter, or nothing. -/
  | absent
  | oneLine (stop : Nat)
  | body (stop : Nat) (form : BodyForm)
  /-- The signature is there, but no line closes the body. -/
  | unclosed (signature : Nat)
deriving DecidableEq, Repr, Inhabited

def Extent.shift (count : Nat) : Extent → Extent
  | absent => absent
  | oneLine stop => oneLine (stop + count)
  | body stop form => body (stop + count) form
  | unclosed signature => unclosed (signature + count)

def bodyExtent (signature : Text) (rest : List Text) : Extent :=
  let form := BodyForm.ofSignature signature
  match form.length? .empty (signature :: rest) with
  | some length => .body length form
  | none => .unclosed 0

namespace Marker

def extent (marker : Marker) : List Text → Extent
  | [] => .absent
  | line :: rest =>
    if isSkippable line then (marker.extent rest).shift 1
    else if marker.isSignature line then
      match marker.shape with
      | .oneLine => .oneLine 1
      | .delimited => bodyExtent line rest
    else .absent

def extentAt (marker : Marker) (lines : List Text) (index : Nat) : Extent :=
  (marker.extent (lines.drop (index + 1))).shift (index + 1)

end Marker

theorem BodyForm.length?_bounds {form : BodyForm} {nesting : Nesting} {lines : List Text}
    {length : Nat} (h : form.length? nesting lines = some length) :
    1 ≤ length ∧ length ≤ lines.length := by
  induction lines generalizing nesting length with
  | nil => simp [BodyForm.length?] at h
  | cons line rest ih =>
    rw [BodyForm.length?] at h
    split at h
    · simp only [Option.some.injEq] at h
      simp [← h]
    · obtain ⟨tail, ht, rfl⟩ := Option.map_eq_some_iff.mp h
      have hb := ih ht
      simp only [List.length_cons]
      omega

def Extent.stop? : Extent → Option Nat
  | absent | unclosed _ => none
  | oneLine stop | body stop _ => some stop

@[simp] theorem Extent.stop?_shift (count : Nat) (extent : Extent) :
    (extent.shift count).stop? = extent.stop?.map (· + count) := by
  cases extent <;> rfl

/-- A getter after a marker has at least one line, and its lines exist. -/
theorem Marker.extent_bounds {marker : Marker} {lines : List Text} {length : Nat}
    (h : (marker.extent lines).stop? = some length) : 1 ≤ length ∧ length ≤ lines.length := by
  induction lines generalizing length with
  | nil => simp [Marker.extent, Extent.stop?] at h
  | cons line rest ih =>
    rw [Marker.extent] at h
    split at h
    · rw [Extent.stop?_shift] at h
      obtain ⟨tail, ht, rfl⟩ := Option.map_eq_some_iff.mp h
      have hb := ih ht
      simp only [List.length_cons]
      omega
    · split at h
      · split at h
        · simp only [Extent.stop?, Option.some.injEq] at h
          simp [← h]
        · rw [bodyExtent] at h
          split at h
          · rename_i found
            simp only [Extent.stop?, Option.some.injEq] at h
            subst h
            exact BodyForm.length?_bounds found
          · simp [Extent.stop?] at h
      · simp [Extent.stop?] at h

end DartSweep
