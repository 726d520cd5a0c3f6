/-!
# Spans of lines

A span names the lines from `start` up to, and without, `stop`. Indices count from zero.
-/
namespace DartSweep

/-- The lines with index at least `start` and below `stop`. -/
structure Span where
  start : Nat
  stop : Nat
deriving DecidableEq, Repr, Inhabited

namespace Span

def Covers (span : Span) (index : Nat) : Prop :=
  span.start ≤ index ∧ index < span.stop

instance (span : Span) (index : Nat) : Decidable (span.Covers index) := by
  unfold Covers
  infer_instance

def Apart (first second : Span) : Prop :=
  first.stop ≤ second.start

instance (first second : Span) : Decidable (first.Apart second) := by
  unfold Apart
  infer_instance

def shift (span : Span) (count : Nat) : Span :=
  ⟨span.start + count, span.stop + count⟩

/-- The part of the span inside a list of the given length; an inverted span becomes empty. -/
def clip (span : Span) (length : Nat) : Span :=
  let stop := min span.stop length
  ⟨min span.start stop, stop⟩

def text (span : Span) : String :=
  toString span.start ++ ".." ++ toString span.stop

theorem clip_le (span : Span) (length : Nat) :
    (span.clip length).start ≤ (span.clip length).stop ∧ (span.clip length).stop ≤ length := by
  simp only [clip]
  omega

theorem clip_eq_self {span : Span} {length : Nat} (hs : span.start ≤ span.stop)
    (hl : span.stop ≤ length) : span.clip length = span := by
  simp only [clip, Nat.min_eq_left hl, Nat.min_eq_left hs]

end Span
end DartSweep
