import TurtleMarkup.Text.Basic

/-!
# Faults

Why a file cannot be reached, read or written.
-/

namespace TurtleMarkup.Files

/-- What can go wrong with a file. -/
inductive Fault where
  /-- There is nothing of that name, or a directory on the way is missing. -/
  | noEntry
  /-- There is something of that name already. -/
  | alreadyExists
  /-- Something on the way is no directory. -/
  | notDirectory
  /-- It is a directory. -/
  | isDirectory
  /-- A name, or the whole path, is too long. -/
  | nameTooLong
  /-- The bytes are not the UTF-8 form of a text. -/
  | notText
  /-- The path holds the character with code point zero. -/
  | nulInName
  /-- Anything else that a machine reports, in its own words. -/
  | other (report : Text)
deriving DecidableEq, Repr

/-- The wording of a fault. -/
def Fault.message : Fault → Text
  | .noEntry => "No such file or directory (os error 2)".toList
  | .alreadyExists => "File exists (os error 17)".toList
  | .notDirectory => "Not a directory (os error 20)".toList
  | .isDirectory => "Is a directory (os error 21)".toList
  | .nameTooLong => "File name too long (os error 36)".toList
  | .notText => "stream did not contain valid UTF-8".toList
  | .nulInName => "file name contained an unexpected NUL byte".toList
  | .other report => report

end TurtleMarkup.Files
