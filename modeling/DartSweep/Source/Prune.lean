import DartSweep.Source.Census
import DartSweep.Source.Imports
import DartSweep.Source.Sweep

/-!
# Pruning a source

Dead imports are dropped, the getters are swept away, and a result that differs from the source is
accepted only if the census is kept.
-/
namespace DartSweep

/-- What to prune, and whether to write it back. -/
structure Settings where
  /-- The texts that make an import line dead. -/
  deadImports : List Text := displayImports
  classKeyword : Text := "class ".toList
  /-- Files are not written. -/
  dryRun : Bool := false
deriving DecidableEq, Repr, Inhabited

structure Pruned where
  content : Text
  removed : Nat
deriving DecidableEq, Repr, Inhabited

def sweepSource (settings : Settings) (source : Text) : Sweep :=
  sweep (dropImports settings.deadImports source)

/-- The pruned source, or why it is refused. -/
def prune (settings : Settings) (source : Text) : Except Fault Pruned :=
  let swept := sweepSource settings source
  match swept.fault with
  | some fault => .error fault
  | none =>
    let pruned : Pruned := ⟨swept.content, swept.removed⟩
    if swept.content = source then .ok pruned
    else (Census.check settings.classKeyword source swept.content).map fun _ => pruned

end DartSweep
