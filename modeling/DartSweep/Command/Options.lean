import DartSweep.Source.Prune

/-!
# Command line options

Arguments are read from left to right. Long options begin with two dashes, short ones stand in
clusters after one dash, and after two dashes alone every argument is a path. An option that still
waits for its value takes the next argument that is not an option.
-/
namespace DartSweep

structure Options where
  paths : List Text := []
  dryRun : Bool := false
  dropped : List Text := []
  keepImports : Bool := false
  verbose : Bool := false
deriving DecidableEq, Repr, Inhabited

inductive UsageError
  | missingPaths
  | unknownOption
  /-- An option that may stand once is given again. -/
  | repeatedOption
  | missingValue
  | unexpectedValue
  /-- Not an error: the help text is asked for. -/
  | help
deriving DecidableEq, Repr

/-- The exit code: asking for help is a success. -/
def UsageError.exitCode : UsageError → Nat
  | help => 0
  | _ => 2

inductive Flag
  | dryRun
  | keepImports
  | verbose
  | help
  /-- The only one that takes a value. -/
  | drop
deriving DecidableEq, Repr

namespace Flag

def ofLong? (name : Text) : Option Flag :=
  if name = "dry-run".toList then some dryRun
  else if name = "no-imports".toList then some keepImports
  else if name = "verbose".toList then some verbose
  else if name = "help".toList then some help
  else if name = "drop-import".toList then some drop
  else none

def ofShort? : Char → Option Flag
  | 'n' => some dryRun
  | 'v' => some verbose
  | 'h' => some help
  | 'x' => some drop
  | _ => none

end Flag

structure Reading where
  options : Options := {}
  /-- An option waits for its value. -/
  awaiting : Bool := false
  /-- Two dashes have been read. -/
  onlyPaths : Bool := false
deriving DecidableEq, Repr, Inhabited

namespace Reading

/-- No option waits for its value any more. -/
def settled (reading : Reading) : Except UsageError Reading :=
  if reading.awaiting then .error .missingValue else .ok reading

def path (reading : Reading) (argument : Text) : Except UsageError Reading := do
  let reading ← reading.settled
  let options := reading.options
  return { reading with options := { options with paths := options.paths ++ [argument] } }

def value (reading : Reading) (argument : Text) : Reading :=
  let options := reading.options
  { reading with
    awaiting := false
    options := { options with dropped := options.dropped ++ [argument] } }

/-- Reads an option without the value that it may have. -/
def flag (reading : Reading) (flag : Flag) : Except UsageError Reading := do
  let reading ← reading.settled
  let options := reading.options
  match flag with
  | .help => .error .help
  | .drop => return { reading with awaiting := true }
  | .dryRun =>
    if options.dryRun then .error .repeatedOption
    else return { reading with options := { options with dryRun := true } }
  | .keepImports =>
    if options.keepImports then .error .repeatedOption
    else return { reading with options := { options with keepImports := true } }
  | .verbose =>
    if options.verbose then .error .repeatedOption
    else return { reading with options := { options with verbose := true } }

def long (reading : Reading) (argument : Text) : Except UsageError Reading :=
  match Flag.ofLong? (argument.takeWhile (· ≠ '=')), argument.dropWhile (· ≠ '=') with
  | none, _ => .error .unknownOption
  | some flag, [] => reading.flag flag
  | some .drop, _ :: value => return (← reading.settled).value value
  | some _, _ :: _ => .error .unexpectedValue

/-- Reads a cluster of short options, given without its dash. -/
def cluster (reading : Reading) : Text → Except UsageError Reading
  | [] => .ok reading
  | c :: rest =>
    match Flag.ofShort? c, rest with
    | none, _ => .error .unknownOption
    | some .drop, [] => reading.flag .drop
    | some .drop, '=' :: value => return (← reading.settled).value value
    | some .drop, value => return (← reading.settled).value value
    | some flag, rest => do cluster (← reading.flag flag) rest

def argument (reading : Reading) (argument : Text) : Except UsageError Reading :=
  if reading.onlyPaths then reading.path argument
  else match argument with
    | ['-', '-'] => .ok { reading with onlyPaths := true }
    | '-' :: '-' :: name => reading.long name
    | '-' :: c :: rest => reading.cluster (c :: rest)
    | _ => if reading.awaiting then .ok (reading.value argument) else reading.path argument

end Reading

namespace Options

def ofArguments (arguments : List Text) : Except UsageError Options := do
  let reading ← arguments.foldlM Reading.argument {}
  let reading ← reading.settled
  if reading.options.paths = [] then .error .missingPaths else .ok reading.options

def settings (options : Options) : Settings where
  deadImports := if options.keepImports then [] else displayImports ++ options.dropped
  dryRun := options.dryRun

end Options
end DartSweep
