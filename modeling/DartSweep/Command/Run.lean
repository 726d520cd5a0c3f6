import DartSweep.Command.Expand
import DartSweep.Command.Options
import DartSweep.Command.Process

/-!
# Whole runs

A run expands its path arguments, processes the files and sums up. An argument that cannot be
expanded ends it before any file is read.
-/
namespace DartSweep

structure Outcome where
  exitCode : Nat
  stdout : String
  stderr : String
  files : FileSystem

/-- The threshold of the log: the one that is named in the environment, or else the one that the
options choose. -/
def threshold (named : Option String) (options : Options) : Option Level :=
  (named.bind thresholdNamed?).getD (some (if options.verbose then .debug else .warn))

def asLines (texts : List String) : String :=
  String.join (texts.map (· ++ "\n"))

def errorLines (error : ExpansionError) : List String :=
  ["Error: " ++ error.message, "", "Caused by:", "    " ++ error.cause.message]

/-- Carries a command line out on a file system. -/
def run (options : Options) (log : Option Level) (fs : FileSystem) : Outcome :=
  let expandLog := (expandEvents fs options.paths).filterMap (Event.line? log)
  match expand fs options.paths with
  | .error error => ⟨1, "", asLines (expandLog ++ errorLines error), fs⟩
  | .ok paths =>
    let processed := processFiles options.settings fs paths
    let lines := processed.reports.filterMap (Report.line? options.dryRun)
    ⟨0, asLines (lines ++ [summary processed.reports]),
      asLines (expandLog ++ processed.events.filterMap (Event.line? log)), processed.files⟩

end DartSweep
