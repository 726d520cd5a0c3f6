import DartSweep.Text.Basic

/-!
# Blanks

The characters of the Unicode property `White_Space`, the trimming of texts by them, and the lines
that hold nothing else. A line is blank exactly when trimming leaves nothing of it.
-/
namespace DartSweep

/-- The characters of the property `White_Space`. -/
def blankChars : CharSet :=
  [(0x09, 0x0d), (0x20, 0x20), (0x85, 0x85), (0xa0, 0xa0), (0x1680, 0x1680), (0x2000, 0x200a),
   (0x2028, 0x2029), (0x202f, 0x202f), (0x205f, 0x205f), (0x3000, 0x3000)]

def isBlankChar (c : Char) : Bool :=
  blankChars.has c

theorem blankChars_ascends : blankChars.ascends 0 = true := by
  decide

def trimStart (t : Text) : Text :=
  t.dropWhile isBlankChar

def trimEnd (t : Text) : Text :=
  (t.reverse.dropWhile isBlankChar).reverse

def trim (t : Text) : Text :=
  trimEnd (trimStart t)

def isBlank (line : Text) : Bool :=
  line.all isBlankChar

theorem trimStart_eq_nil_iff (t : Text) : trimStart t = [] ↔ isBlank t = true := by
  induction t with
  | nil => simp [trimStart, isBlank]
  | cons c rest ih =>
    cases hc : isBlankChar c with
    | true =>
      rw [trimStart, List.dropWhile_cons_of_pos hc, isBlank, List.all_cons, hc, Bool.true_and]
      exact ih
    | false => simp [trimStart, isBlank, hc]

private theorem trimEnd_cons (c : Char) (rest : Text) (hc : isBlankChar c = false) :
    trimEnd (c :: rest) ≠ [] := by
  intro h
  have hr : trimStart (c :: rest).reverse = [] := List.reverse_eq_nil_iff.mp h
  have hb := (trimStart_eq_nil_iff _).mp hr
  simp [isBlank, hc] at hb

theorem trim_eq_nil_iff (t : Text) : trim t = [] ↔ isBlank t = true := by
  induction t with
  | nil => decide
  | cons c rest ih =>
    cases hc : isBlankChar c with
    | true => simpa [trim, trimStart, isBlank, hc] using ih
    | false =>
      have ht : trim (c :: rest) = trimEnd (c :: rest) := by simp [trim, trimStart, hc]
      simp [ht, trimEnd_cons c rest hc, isBlank, hc]

end DartSweep
