import DartSweep.Edit.Span
import DartSweep.Text.Basic

/-!
# Faults

Why a single file is left as it is. A fault ends the work on its file only.
-/
namespace DartSweep

/-- What keeps a file as it is. -/
inductive Fault
  | notFound (path : Text)
  | unreadable (path : Text) (cause : String)
  | unwritable (path : Text) (cause : String)
  /-- No line closes the getter's body. Lines count from one. -/
  | unterminated (marker signature : Nat)
  | overlapping (first second : Span)
  | classCount (before after : Nat)
  | braceBalance (before after : Int)
deriving DecidableEq, Repr, Inhabited

def Fault.message : Fault → String
  | notFound path => "file not found: " ++ String.ofList path
  | unreadable path cause => "failed to read " ++ String.ofList path ++ ": " ++ cause
  | unwritable path cause => "failed to write " ++ String.ofList path ++ ": " ++ cause
  | unterminated marker signature =>
    "getter at line " ++ toString signature ++ " (marker at line " ++ toString marker ++
      ") never closes before end of file"
  | overlapping first second =>
    "removal ranges overlap: " ++ first.text ++ " and " ++ second.text
  | classCount before after =>
    "Class count mismatch (" ++ toString before ++ " -> " ++ toString after ++ ")"
  | braceBalance before after =>
    "Brace balance mismatch (" ++ toString before ++ " -> " ++ toString after ++ ")"

end DartSweep
