import TurtleMarkup.Text.Control

/-!
# Log records

What the program does is noted in records, each of a level.  How many of them are shown is a
matter of verbosity.
-/

namespace TurtleMarkup.Log

/-- The level of a record, from the gravest to the most detailed. -/
inductive Level where
  | error
  | warn
  | info
  | debug
  | trace
deriving DecidableEq, Repr

/-- The name of a level. -/
def Level.name : Level → Text
  | .error => "ERROR".toList
  | .warn => "WARN".toList
  | .info => "INFO".toList
  | .debug => "DEBUG".toList
  | .trace => "TRACE".toList

/-- How detailed a level is. -/
def Level.detail : Level → Nat
  | .error => 1
  | .warn => 2
  | .info => 3
  | .debug => 4
  | .trace => 5

/-- The most detailed level that is shown, if any is. -/
abbrev Verbosity := Option Level

/-- Whether records of a level are shown. -/
def Verbosity.shows (v : Verbosity) (l : Level) : Bool := v.any (l.detail ≤ ·.detail)

/-- A note on what was done. -/
structure Record where
  /-- The level of the record. -/
  level : Level
  /-- What it says. -/
  message : Text
deriving DecidableEq, Repr

/-- The level and the message of a record. -/
def Record.text (r : Record) : Text := r.level.name ++ ' ' :: r.message

/-- What follows a line feed within a message when it is shown. -/
def indentation : Text := "    ".toList

/-- A record on lines of its own: further lines of its message are indented. -/
def Record.lines (r : Record) : Text :=
  r.level.name ++ ' ' :: r.message.flatMap (fun c => if c = '\n' then c :: indentation else [c])
    ++ ['\n']

/-- A record as it is shown.  What a terminal would take for orders is left out, so a sequence that
does not end may take the end of the line with it. -/
def Record.shown (r : Record) : Text := Text.withoutControls r.lines

/-- The records of a log that are shown, one after another. -/
def display (v : Verbosity) (log : List Record) : Text :=
  (log.filter (v.shows ·.level)).flatMap Record.shown

end TurtleMarkup.Log
