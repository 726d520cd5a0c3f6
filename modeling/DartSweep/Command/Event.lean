import DartSweep.Files.Path
import DartSweep.Getter.Scan

/-!
# Events

What a run tells on its log. Each event has a level, and a log shows the events whose level is at
least as grave as its threshold.
-/
namespace DartSweep

/-- How grave an event is, the gravest first. -/
inductive Level
  | error
  | warn
  | info
  | debug
  | trace
deriving DecidableEq, Repr, Inhabited

namespace Level

def rank : Level → Nat
  | error => 0
  | warn => 1
  | info => 2
  | debug => 3
  | trace => 4

def word : Level → String
  | error => "ERROR"
  | warn => "WARN"
  | info => "INFO"
  | debug => "DEBUG"
  | trace => "TRACE"

end Level

/-- The threshold that a name stands for; the name `off` stands for a log that shows nothing. -/
def thresholdNamed? (name : String) : Option (Option Level) :=
  if name = "off" then some none
  else if name = "error" then some (some .error)
  else if name = "warn" then some (some .warn)
  else if name = "info" then some (some .info)
  else if name = "debug" then some (some .debug)
  else if name = "trace" then some (some .trace)
  else none

/-- What a run can tell. Line indices count from zero. -/
inductive Event
  | stray (marker : Marker) (line : Nat)
  | foundOneLine (marker : Marker) (span : Span)
  | foundBody (marker : Marker) (span : Span) (form : BodyForm)
  | written (path : Path) (removed : Nat)
  | unchanged (path : Path)
  | missing (path : Path)
  | rejected (path : Path) (message : String)
  | failed (path : Path) (message : String)
  | unmatched (pattern : Text)
deriving DecidableEq, Repr

def Marker.field (marker : Marker) : String :=
  " marker=\"" ++ String.ofList marker.text ++ "\""

def BodyForm.name : BodyForm → String
  | expression => "Expression"
  | block => "Block"

/-- The fields for a span: the marker's line, which counts from one, and the index after the last
line, which counts from zero. -/
def Span.fields (span : Span) : String :=
  " start=" ++ toString (span.start + 1) ++ " end=" ++ toString span.stop

namespace Event

/-- The event for a finding. A getter that never closes is told only when its file is rejected. -/
def ofFinding? : Finding → Option Event
  | .stray marker line => some (stray marker line)
  | .oneLine marker span => some (foundOneLine marker span)
  | .body marker span form => some (foundBody marker span form)
  | .unclosed _ _ _ => none

def level : Event → Level
  | stray _ _ | foundOneLine _ _ | foundBody _ _ _ | unchanged _ | missing _ => .debug
  | written _ _ => .info
  | rejected _ _ | failed _ _ | unmatched _ => .warn

def text : Event → String
  | stray marker line =>
    "marker not followed by a getter" ++ marker.field ++ " line=" ++ toString (line + 1)
  | foundOneLine marker span => "found single-line getter" ++ marker.field ++ span.fields
  | foundBody marker span form =>
    "found getter body" ++ marker.field ++ " form=" ++ form.name ++ span.fields
  | written path removed =>
    "rewrote file path=" ++ String.ofList path ++ " removed=" ++ toString removed
  | unchanged path => "no changes needed path=" ++ String.ofList path
  | missing path => "not found path=" ++ String.ofList path
  | rejected path message => "rejected path=" ++ String.ofList path ++ " error=" ++ message
  | failed path message => "I/O failure path=" ++ String.ofList path ++ " error=" ++ message
  | unmatched pattern => "no files matched pattern=" ++ String.ofList pattern

/-- The log line of the event, if a log with the threshold shows it. A log without a threshold
shows nothing. -/
def line? (threshold : Option Level) (event : Event) : Option String :=
  if threshold.any fun threshold => event.level.rank ≤ threshold.rank then
    some (event.level.word ++ " " ++ event.text)
  else none

end Event

def scanEvents (scanned : List (List Text)) : List Event :=
  scanned.flatMap fun lines => (scan lines).filterMap Event.ofFinding?

end DartSweep
