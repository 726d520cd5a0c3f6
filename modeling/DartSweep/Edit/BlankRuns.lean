import DartSweep.Text.Blank

/-!
# Runs of blank lines

Squeezing leaves the first line of every run of blank lines and all lines that are not blank.
-/
namespace DartSweep

/-- The lines squeezed, when the line before them was blank or not. -/
def squeezeAfter (blankBefore : Bool) : List Text → List Text
  | [] => []
  | line :: rest =>
    if isBlank line && blankBefore then squeezeAfter true rest
    else line :: squeezeAfter (isBlank line) rest

/-- The lines without the blank lines that follow a blank line. -/
def squeezeBlanks (lines : List Text) : List Text :=
  squeezeAfter false lines

private theorem squeezeAfter_sublist (blankBefore : Bool) (lines : List Text) :
    (squeezeAfter blankBefore lines).Sublist lines := by
  induction lines generalizing blankBefore with
  | nil => exact .slnil
  | cons line rest ih =>
    rw [squeezeAfter]
    split
    · exact (ih true).cons line
    · exact (ih _).cons_cons line

theorem squeezeBlanks_sublist (lines : List Text) : (squeezeBlanks lines).Sublist lines :=
  squeezeAfter_sublist false lines

end DartSweep
