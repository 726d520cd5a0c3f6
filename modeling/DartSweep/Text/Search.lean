import DartSweep.Text.Basic

/-!
# Occurrences of a text in another

A text occurs in another when it is one of its infixes. Occurrences are counted from the left
without overlap; the empty text occurs once before each character and once at the end.
-/
namespace DartSweep

def occursIn (needle : Text) : Text → Bool
  | [] => needle.isEmpty
  | c :: rest => needle.isPrefixOf (c :: rest) || occursIn needle rest

/-- Counts from the left after passing over the given number of characters, and passes over each
occurrence that it counts. -/
def countAfter (needle : Text) : Nat → Text → Nat
  | _, [] => 0
  | passed + 1, _ :: rest => countAfter needle passed rest
  | 0, c :: rest =>
    if needle.isPrefixOf (c :: rest) then countAfter needle (needle.length - 1) rest + 1
    else countAfter needle 0 rest

/-- The number of occurrences that do not overlap. -/
def occurrences (needle t : Text) : Nat :=
  if needle.isEmpty then t.length + 1 else countAfter needle 0 t

theorem occursIn_iff (needle t : Text) : occursIn needle t = true ↔ needle <:+: t := by
  induction t with
  | nil => simp [occursIn]
  | cons c rest ih => simp [occursIn, ih, List.infix_cons_iff]

end DartSweep
