import DartSweep.Fault
import DartSweep.Files.Path

/-!
# Reports

The outcome for one file and the line that tells it. A file that stays as it is for no fault gets
no line.
-/
namespace DartSweep

inductive Status
  | skipped
  | unmodified
  | modified (removed : Nat)
  /-- The change was refused. -/
  | rejected (fault : Fault)
  | failed (fault : Fault)
deriving DecidableEq, Repr, Inhabited

def Status.ofFault : Fault → Status
  | .notFound _ => skipped
  | fault@(.unreadable _ _) | fault@(.unwritable _ _) => failed fault
  | fault => rejected fault

structure Report where
  path : Path
  status : Status
deriving DecidableEq, Repr, Inhabited

namespace Report

def isError (report : Report) : Bool :=
  match report.status with
  | .rejected _ | .failed _ => true
  | _ => false

/-- The file was changed, or would have been. -/
def isModified (report : Report) : Bool :=
  match report.status with
  | .modified _ => true
  | _ => false

/-- The file's name, or the whole path if it does not end in a name. -/
def shownName (report : Report) : String :=
  String.ofList (report.path.fileName?.getD report.path)

def line? (dryRun : Bool) (report : Report) : Option String :=
  match report.status with
  | .skipped => some ("SKIP: " ++ String.ofList report.path ++ " (not found)")
  | .unmodified => none
  | .modified removed =>
    let verb := if dryRun then "Would remove " else "Removed "
    some ("OK: " ++ report.shownName ++ ": " ++ verb ++ toString removed ++ " getter(s)")
  | .rejected fault | .failed fault =>
    some ("ERROR: " ++ report.shownName ++ ": " ++ fault.message)

end Report

def summary (reports : List Report) : String :=
  "\nModified: " ++ toString (reports.countP Report.isModified) ++
    ", Errors: " ++ toString (reports.countP Report.isError)

end DartSweep
