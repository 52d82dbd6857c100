import TurtleMarkup.Files.Fault
import TurtleMarkup.Text.Split

/-!
# Paths

A path is a text with slashes between names.  Empty names count for nothing, and neither does the
name `.` except at the very beginning.  A path that begins with a slash sets out at the top of all
files, every other one at the directory in which the program runs.
-/

namespace TurtleMarkup.Files

/-- A place among all files, by the names that lead there from the top. -/
abbrev Location := List Text

namespace Path

/-- The name of the directory in which it stands. -/
def here : Text := ".".toList

/-- The name of the directory above. -/
def above : Text := "..".toList

/-- The names of a path, from first to last. -/
def names (path : Text) : List Text := (Text.split '/' path).filter (!·.isEmpty)

/-- Whether the path ends in a slash, and so can only mean a directory. -/
def endsInSlash (path : Text) : Bool := path.getLast? == some '/'

/-- The paths that end at the names of a path, from the last to the first, where the stretches
between its slashes are given in reverse. -/
def ancestorsOf : List Text → List Text
  | [] => []
  | s :: rest =>
    if s.isEmpty || (s == here && !rest.isEmpty) then ancestorsOf rest
    else Text.join '/' (s :: rest).reverse :: ancestorsOf rest

/-- A path without trailing slashes, the path of the directory that holds it, the directory that
holds that, and so on. -/
def ancestors (path : Text) : List Text := ancestorsOf (Text.split '/' path).reverse

/-- The directories that have to exist for the path to be made, from the nearest on. -/
def parents (path : Text) : List Text := (ancestors path).drop 1

/-- The number of bytes from which on a path is too long. -/
def sizeLimit : Nat := 4096

/-- The number of bytes that a name may have. -/
def nameLimit : Nat := 255

/-- Where a path sets out for a program that runs in the directory at `cwd`, and the names that it
follows from there. -/
def route (cwd : Location) (path : Text) : Except Fault (Location × List Text) :=
  if path.contains '\x00' then .error .nulInName
  else if path.isEmpty then .error .noEntry
  else if sizeLimit ≤ path.byteSize then .error .nameTooLong
  else .ok (if path.head? = some '/' then [] else cwd, names path)

end Path

end TurtleMarkup.Files
