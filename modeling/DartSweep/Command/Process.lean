import DartSweep.Command.Event
import DartSweep.Command.Report
import DartSweep.Files.System
import DartSweep.Source.Prune

/-!
# Processing files

A file is read, pruned, and written back if that changed it. Files are processed one after the
other, and the outcome for one does not stop those that follow.
-/
namespace DartSweep

structure Processed where
  reports : List Report
  events : List Event
  files : FileSystem

def readSource (fs : FileSystem) (path : Path) : Except Fault Text :=
  match fs.readText path with
  | .ok source => .ok source
  | .error .notFound => .error (.notFound path)
  | .error cause => .error (.unreadable path cause.message)

def writeSource (fs : FileSystem) (path : Path) (content : Text) : Except Fault FileSystem :=
  match fs.writeText path content with
  | .ok fs => .ok fs
  | .error cause => .error (.unwritable path cause.message)

/-- Reads, prunes and writes a file: its status and the file system afterwards. -/
def pruneFile (settings : Settings) (fs : FileSystem) (path : Path) :
    Except Fault (Status × FileSystem) := do
  let source ← readSource fs path
  let pruned ← prune settings source
  if pruned.content = source then return (.unmodified, fs)
  if settings.dryRun then return (.modified pruned.removed, fs)
  return (.modified pruned.removed, ← writeSource fs path pruned.content)

def pruneEvents (settings : Settings) (fs : FileSystem) (path : Path) : List Event :=
  match readSource fs path with
  | .error _ => []
  | .ok source =>
    let swept := sweepSource settings source
    scanEvents (swept.passes.map Pass.lines ++ [splitLines swept.content])

def statusEvents (settings : Settings) (path : Path) : Status → List Event
  | .skipped => [.missing path]
  | .unmodified => [.unchanged path]
  | .modified removed => if settings.dryRun then [] else [.written path removed]
  | .rejected fault => [.rejected path fault.message]
  | .failed fault => [.failed path fault.message]

def processFile (settings : Settings) (fs : FileSystem) (path : Path) : Report × FileSystem :=
  match pruneFile settings fs path with
  | .ok (status, fs) => (⟨path, status⟩, fs)
  | .error fault => (⟨path, .ofFault fault⟩, fs)

def processFiles (settings : Settings) (fs : FileSystem) : List Path → Processed
  | [] => ⟨[], [], fs⟩
  | path :: paths =>
    let result := processFile settings fs path
    let later := processFiles settings result.2 paths
    ⟨result.1 :: later.reports,
      pruneEvents settings fs path ++ statusEvents settings path result.1.status ++ later.events,
      later.files⟩

end DartSweep
