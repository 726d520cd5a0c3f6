import DartSweep.Fault
import DartSweep.Text.Search

/-!
# The census of a source

Two counts that pruning must keep: the occurrences of the class keyword, and the opening braces
less the closing ones.
-/
namespace DartSweep

structure Census where
  classKeywords : Nat
  braceBalance : Int
deriving DecidableEq, Repr, Inhabited

namespace Census

def ofSource (keyword source : Text) : Census where
  classKeywords := occurrences keyword source
  braceBalance := (source.count '{' : Int) - source.count '}'

/-- The counts of the second source, if they are those of the first. A change in the class keywords
is reported before one in the braces. -/
def check (keyword before after : Text) : Except Fault Census :=
  let old := ofSource keyword before
  let new := ofSource keyword after
  if old.classKeywords ≠ new.classKeywords then
    .error (.classCount old.classKeywords new.classKeywords)
  else if old.braceBalance ≠ new.braceBalance then
    .error (.braceBalance old.braceBalance new.braceBalance)
  else .ok new

end Census
end DartSweep
