import DartSweep.Command.Run

/-!
# The command line program

The entries that the arguments can reach are read, the run is computed, and the files that it
changes are written back before its report is printed.
-/
namespace DartSweep

private def helpText : String :=
  "Remove display getters and their dead imports from Dart sources\n\n" ++
  "Usage: dart-sweep [OPTIONS] <PATHS>...\n\n" ++
  "  -n, --dry-run             Report what would change without writing files\n" ++
  "  -x, --drop-import <TEXT>  Extra import line text to drop (repeatable)\n" ++
  "      --no-imports          Skip the dead import pass\n" ++
  "  -v, --verbose             Debug logging\n" ++
  "  -h, --help                Print help\n"

private def usageText : UsageError → String
  | .missingPaths => "error: no paths were given\n"
  | .unknownOption => "error: unknown option\n"
  | .repeatedOption => "error: an option was given twice\n"
  | .missingValue => "error: an option needs a value\n"
  | .unexpectedValue => "error: an option takes no value\n"
  | .help => helpText

/-- The location of an absolute path without dots. -/
private def locationOf (path : String) : Location :=
  (split '/' path.toList).filter (· ≠ [])

private def pathOf (location : Location) : String :=
  "/" ++ String.ofList (join '/' location)

/-- Where to look for what an argument can reach, and how many levels deep; a glob with two stars
has no limit. Segments that begin with a dot may lead upward. -/
private def reach (argument : Path) : Path × Option Nat :=
  let parts := split '/' argument
  let plain := parts.takeWhile fun segment => !isGlob segment
  let chosen := parts.drop plain.length
  let upward := chosen.filter fun segment => segment.head? = some '.'
  let base := join '/' (plain ++ upward.map fun _ => ['.', '.'])
  let start := if base = [] ∧ chosen ≠ [] then (if plain = [] then ['.'] else ['/']) else base
  let unlimited := chosen.contains ['*', '*']
  (start, if unlimited then none else some (max 1 (chosen.length + upward.length)))

private def reasonOf : IO.Error → String
  | .permissionDenied _ code details | .interrupted _ code details
  | .resourceExhausted _ code details | .resourceBusy code details
  | .hardwareFault code details | .otherError code details =>
    details ++ " (os error " ++ toString code ++ ")"
  | error => error.toString

/-- Adds the entry at a location and those below it, the files without their bytes. What cannot be
reached is not there; a directory that cannot be listed is refused. -/
private partial def loadTree (fs : FileSystem) (location : Location) (depth : Option Nat) :
    IO FileSystem := do
  let path ←
    match ← (IO.FS.realPath (pathOf location)).toBaseIO with
    | .error _ => return fs
    | .ok path => pure path
  if !(← path.pathExists) then return fs
  if !(← path.isDir) then return fs.addFile location .empty
  let fs := fs.makeDirectory location
  if depth = some 0 then return fs
  match ← path.readDir.toBaseIO with
  | .error error => return fs.refuse location (reasonOf error)
  | .ok entries =>
    entries.foldlM
      (fun fs entry => loadTree fs (location ++ [entry.fileName.toList]) (depth.map (· - 1))) fs

private def loadArgument (fs : FileSystem) (argument : Path) : IO FileSystem := do
  let (base, depth) := reach argument
  match ← (IO.FS.realPath (String.ofList base)).toBaseIO with
  | .error _ => return fs
  | .ok path => loadTree fs (locationOf path.toString) depth

/-- Adds the bytes of the file that a path leads to; a file that cannot be opened is refused. -/
private def loadBytes (fs : FileSystem) (path : Path) : IO FileSystem := do
  match fs.isFile path, fs.resolve path with
  | true, .ok location =>
    match ← (IO.FS.readBinFile (pathOf location)).toBaseIO with
    | .error error => return fs.refuse location (reasonOf error)
    | .ok bytes => return fs.addFile location bytes
  | _, _ => return fs

private def store (before after : FileSystem) : IO Unit :=
  for (location, node) in after.nodes do
    if let .file bytes := node then
      if before.node? location ≠ some node then
        IO.FS.writeBinFile (pathOf location) bytes

def carryOut (options : Options) : IO UInt32 := do
  let here := locationOf (← IO.currentDir).toString
  let tree ← options.paths.foldlM loadArgument (.emptyAt here)
  let files := (expand tree options.paths).toOption.getD []
  let before ← files.foldlM loadBytes tree
  let log := threshold (← IO.getEnv "DART_SWEEP_LOG") options
  let outcome := run options log before
  store before outcome.files
  (← IO.getStderr).putStr outcome.stderr
  (← IO.getStdout).putStr outcome.stdout
  return outcome.exitCode.toUInt32

end DartSweep

def main (arguments : List String) : IO UInt32 := do
  match DartSweep.Options.ofArguments (arguments.map String.toList) with
  | .ok options => DartSweep.carryOut options
  | .error error =>
    let stream ← if error = .help then IO.getStdout else IO.getStderr
    stream.putStr (DartSweep.usageText error)
    return error.exitCode.toUInt32
