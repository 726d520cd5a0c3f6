import DartSweep.Text.Lines

/-!
# Paths

A path is a text of segments between slashes. Opening a file reads the text as it is; comparing two
paths reads their components, in which doubled slashes, trailing slashes and inner dots are gone.
-/
namespace DartSweep

abbrev Path := Text

abbrev Name := Text

namespace Path

/-- The parts of a path that tell two paths apart. -/
inductive Component
  | root
  /-- A leading dot. -/
  | current
  | parent
  | name (name : Name)
deriving DecidableEq, Repr

def isAbsolute (path : Path) : Bool :=
  path.head? == some '/'

/-- The component of a segment; empty segments and dots have none. -/
def innerComponent? (segment : Text) : Option Component :=
  if segment = [] ∨ segment = ['.'] then none
  else if segment = ['.', '.'] then some .parent
  else some (.name segment)

/-- The components of a path that has the given first segment. A dot counts only at the start. -/
def leading (path : Path) (first : Text) : List Component :=
  if isAbsolute path then [.root]
  else if first = ['.'] then [.current]
  else (innerComponent? first).toList

def components (path : Path) : List Component :=
  match split '/' path with
  | [] => []
  | first :: rest => leading path first ++ rest.filterMap innerComponent?

/-- The path is the current directory, however its dots and slashes are written. -/
def isCurrent (path : Path) : Bool :=
  components path = [.current]

def fileName? (path : Path) : Option Name :=
  match (components path).getLast? with
  | some (.name name) => some name
  | _ => none

/-- What follows the last dot of the path's name, if the name does not begin with that dot. -/
def extension? (path : Path) : Option Text := do
  match (split '.' (← fileName? path)).reverse with
  | extension :: stem :: more => if stem = [] ∧ more = [] then none else some extension
  | _ => none

/-- The path of an entry below a path. An absolute entry replaces the path. -/
def below (path : Path) (entry : Path) : Path :=
  if isAbsolute entry then entry
  else if path = [] ∨ path.getLast? = some '/' then path ++ entry
  else path ++ '/' :: entry

def distinctFrom (seen : List (List Component)) : List Path → List Path
  | [] => []
  | path :: rest =>
    if components path ∈ seen then distinctFrom seen rest
    else path :: distinctFrom (components path :: seen) rest

/-- The paths without those that have the components of an earlier one. -/
def distinct (paths : List Path) : List Path :=
  distinctFrom [] paths

end Path
end DartSweep
