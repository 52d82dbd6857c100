import TurtleMarkup.Text.Digits

/-!
# Writing quoted strings

A string is written in the plainest form that can hold it: a basic string if nothing has to be
escaped, else a literal one, else one of the two over several lines.  A string with control
characters is always basic, and spans several lines if it holds a line feed.
-/

namespace TurtleMarkup.Toml.Quoted

/-- The forms of a string. -/
inductive Style where
  | basic
  | literal
  | multilineBasic
  | multilineLiteral
deriving DecidableEq, Repr

/-- Control characters other than tab and line feed, which only an escape can write. -/
def isControl (c : Char) : Bool :=
  (c.toNat < 0x20 && c != '\t' && c != '\n') || c.toNat == 0x7F

/-- The length of the longest row of a character in a text, where `row` of them stand before it. -/
def longestRow (q : Char) (row : Nat) : Text → Nat
  | [] => row
  | c :: t => if c = q then longestRow q (row + 1) t else max row (longestRow q 0 t)

/-- The form in which a text is written. -/
def style (t : Text) : Style :=
  let control := t.any isControl
  let backslash := t.contains '\\'
  let lineFeed := t.contains '\n'
  let doubles := longestRow '"' 0 t
  let singles := longestRow '\x27' 0 t
  if !control && !backslash && !lineFeed && doubles == 0 then .basic
  else if !control && !lineFeed && singles == 0 then .literal
  else if !control && !backslash && doubles ≤ 2 then .multilineBasic
  else if !control && singles ≤ 2 then .multilineLiteral
  else if lineFeed then .multilineBasic
  else .basic

/-- A character in a basic string. -/
def escapeChar (c : Char) : Text :=
  match c with
  | '\x08' => "\\b".toList
  | '\t' => "\\t".toList
  | '\n' => "\\n".toList
  | '\x0c' => "\\f".toList
  | '\r' => "\\r".toList
  | '"' => "\\\"".toList
  | '\\' => "\\\\".toList
  | c => if isControl c then "\\u".toList ++ Text.hexDigits 4 c.toNat else [c]

/-- The inside of a basic string over several lines.  Line feeds stand as they are, and so do
quotes as long as `row`, the number of those right before, stays below two. -/
def multilineBody (row : Nat) : Text → Text
  | [] => []
  | c :: t =>
    if c = '"' then
      if row < 2 then '"' :: multilineBody (row + 1) t else '\\' :: '"' :: multilineBody 0 t
    else if c = '\n' then '\n' :: multilineBody 0 t
    else escapeChar c ++ multilineBody 0 t

/-- The line feed behind opening triple quotes, which a text with line feeds of its own needs. -/
def openingLine (t : Text) : Text := if t.contains '\n' then ['\n'] else []

/-- A text as a quoted string of a given form. -/
def writeAs (t : Text) : Style → Text
  | .basic => "\"".toList ++ t.flatMap escapeChar ++ "\"".toList
  | .literal => "\x27".toList ++ t ++ "\x27".toList
  | .multilineBasic => "\"\"\"".toList ++ openingLine t ++ multilineBody 0 t ++ "\"\"\"".toList
  | .multilineLiteral =>
    "\x27\x27\x27".toList ++ openingLine t ++ t ++ "\x27\x27\x27".toList

/-- A text as a quoted string. -/
def write (t : Text) : Text := writeAs t (style t)

end TurtleMarkup.Toml.Quoted
