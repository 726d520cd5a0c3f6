import DartSweep.Command.Event
import DartSweep.Files.Glob

/-!
# Expanding path arguments

A directory stands for the Dart files right in it, a glob for the files that match it, and any other
argument for itself. A file that is named twice is kept where it is named first. The first argument
that cannot be expanded ends it: a directory that cannot be listed or a glob that cannot be read.
-/
namespace DartSweep

inductive ExpansionCause
  | listing (error : AccessError)
  | pattern (error : PatternError)
deriving DecidableEq, Repr

def ExpansionCause.message : ExpansionCause → String
  | listing error => error.message
  | pattern error => error.message

structure ExpansionError where
  argument : Path
  cause : ExpansionCause
deriving DecidableEq, Repr

def ExpansionError.message (error : ExpansionError) : String :=
  match error.cause with
  | .listing _ => "failed to read directory: " ++ String.ofList error.argument
  | .pattern _ => "invalid glob pattern: " ++ String.ofList error.argument

def isGlob (argument : Path) : Bool :=
  argument.any fun c => c = '*' || c = '?' || c = '['

def dartFiles (fs : FileSystem) (directory : Path) (names : List Name) : List Path :=
  (names.map directory.below).filter fun path =>
    fs.isFile path && path.extension? = some "dart".toList

def contribution (fs : FileSystem) (argument : Path) : Except ExpansionError (List Path) :=
  if fs.isDirectory argument then
    match fs.list argument with
    | .error error => .error ⟨argument, .listing error⟩
    | .ok names => .ok (dartFiles fs argument names)
  else if !isGlob argument then .ok [argument]
  else match Glob.ofText argument with
    | .error error => .error ⟨argument, .pattern error⟩
    | .ok glob => .ok ((glob.paths fs).filter fs.isFile)

/-- The paths that the arguments stand for, each once. -/
def expand (fs : FileSystem) (arguments : List Path) : Except ExpansionError (List Path) :=
  (arguments.mapM (contribution fs)).map fun contributions => Path.distinct contributions.flatten

/-- The globs without a matching file, up to an argument that cannot be expanded. -/
def expandEvents (fs : FileSystem) : List Path → List Event
  | [] => []
  | argument :: rest =>
    match contribution fs argument with
    | .error _ => []
    | .ok paths =>
      let unmatched := !fs.isDirectory argument && paths.isEmpty
      (if unmatched then [.unmatched argument] else []) ++ expandEvents fs rest

end DartSweep
