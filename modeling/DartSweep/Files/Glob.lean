import DartSweep.Files.Pattern
import DartSweep.Files.System

/-!
# Globs

A glob is a path whose segments are patterns. It is followed through a file system from the root or
from the current directory. Segments without special characters are followed as they are written;
patterns choose among the entries of a directory, in order; a segment of two stars chooses all
entries below a directory, each directory before its entries. Where a directory cannot be listed
nothing is chosen.
-/
namespace DartSweep

inductive Step
  | literal (segment : Text)
  | pattern (tokens : List Token)
  /-- Any number of directories. -/
  | descend
deriving DecidableEq, Repr

structure Glob where
  isAbsolute : Bool
  steps : List Step
  /-- It ends in a slash, so that only directories match. -/
  directoriesOnly : Bool
deriving DecidableEq, Repr

def plainText? : List Token → Option Text
  | [] => some []
  | .char c :: rest => (plainText? rest).map (c :: ·)
  | _ => none

namespace Step

def ofTokens (tokens : List Token) : Step :=
  match plainText? tokens with
  | some segment => literal segment
  | none => if tokens = [.anyDirectories] then descend else pattern tokens

def accepts (step : Step) (name : Name) : Bool :=
  match step with
  | literal segment => segment = name
  | pattern tokens => Pattern.accepts tokens name
  | descend => false

end Step

/-- The segments between slashes, without an empty one at the end. -/
def segments (t : Text) : List Text :=
  let fields := split '/' t
  if fields.getLast? = some [] then fields.dropLast else fields

/-- The path with an entry's name after it; in the current directory it is the name alone. -/
def entryPath (path : Path) (name : Name) : Path :=
  if path.isCurrent then name else path.below name

namespace Glob

/-- Reads a glob. The whole pattern is checked before its segments are. -/
def ofText (pattern : Text) : Except PatternError Glob := do
  let _ ← Pattern.tokens pattern
  let isAbsolute := Path.isAbsolute pattern
  let rest := if isAbsolute then pattern.drop 1 else pattern
  let tokens ← (segments rest).mapM Pattern.tokens
  return ⟨isAbsolute, tokens.map .ofTokens, pattern.getLast? = some '/'⟩

/-- The special names that a pattern chooses, which it does only if it begins with a dot. -/
def dots (tokens : List Token) : List Name :=
  if tokens.head? = some (.char '.') then
    [['.', '.'], ['.']].filter (Pattern.accepts tokens)
  else []

/-- The paths that the steps lead to from a path, in order. After the last step a path counts, when
only directories match, if it leads to one. -/
def follow (fs : FileSystem) (directoriesOnly : Bool) : List Step → Path → List Path
  | [], path => if !directoriesOnly || fs.isDirectory path then [path] else []
  | .literal segment :: steps, path =>
    let next := entryPath path segment
    let found :=
      if segment = ['.'] ∨ segment = ['.', '.'] then fs.isDirectory path else fs.exists? next
    if found then follow fs directoriesOnly steps next else []
  | .pattern tokens :: steps, path =>
    match fs.list path with
    | .error _ => []
    | .ok names =>
      (dots tokens).flatMap (fun dot => follow fs directoriesOnly steps (path.below dot)) ++
        (names.filter (Pattern.accepts tokens)).flatMap fun name =>
          follow fs directoriesOnly steps (entryPath path name)
  | .descend :: .descend :: steps, path => follow fs directoriesOnly (.descend :: steps) path
  | [.descend], path =>
    if fs.isDirectory path then
      ((fs.descendantsAt path).map (·.foldl entryPath path)).filter fs.isDirectory
    else []
  | .descend :: step :: steps, path =>
    if fs.isDirectory path then
      ((fs.descendantsAt path).filter fun names => names.getLast?.any step.accepts).flatMap
        fun names => follow fs directoriesOnly steps (names.foldl entryPath path)
    else []

def paths (glob : Glob) (fs : FileSystem) : List Path :=
  follow fs glob.directoriesOnly glob.steps (if glob.isAbsolute then ['/'] else ['.'])

end Glob
end DartSweep
