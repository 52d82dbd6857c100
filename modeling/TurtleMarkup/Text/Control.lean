import TurtleMarkup.Text.Basic

/-!
# Control sequences

A terminal takes some characters for orders: control characters, and the sequences that begin with
the escape character.  `withoutControls` leaves out both and keeps what would be seen.

Inside a sequence a line feed and its like are seen all the same, and so is the text behind them;
the sequence goes on at the next control character.
-/

namespace TurtleMarkup.Text

/-- The place of a character among control sequences. -/
inductive Place where
  /-- Outside of all sequences. -/
  | outside
  /-- Behind the escape character. -/
  | escape
  /-- Behind the escape character and characters that qualify what it does. -/
  | qualified
  /-- In a control sequence, which sets colours, moves the cursor and so on. -/
  | sequence
  /-- In a command to the operating system, such as the title of a window. -/
  | command
  /-- At the beginning of a control string for the device. -/
  | device
  /-- In the numbers at the beginning of a control string. -/
  | deviceNumbers
  /-- Behind characters that qualify a control string. -/
  | deviceQualified
  /-- In a string that only its end concludes. -/
  | string
deriving DecidableEq, Repr

/-- Whether a code point is in a range with both ends included. -/
def isBetween (low high : Nat) (c : Char) : Bool := low ≤ c.toNat && c.toNat ≤ high

/-- The characters that qualify a sequence. -/
def isQualifier (c : Char) : Bool := isBetween 0x20 0x2F c

/-- The characters that may end a control sequence. -/
def isFinal (c : Char) : Bool := isBetween 0x40 0x7E c

/-- Whether the UTF-8 form of a character holds the byte that ends a string. -/
def holdsTerminator (c : Char) : Bool := (String.utf8EncodeChar c).contains 0x9C

/-- What the escape character begins together with the character behind it. -/
def Place.afterEscape (c : Char) : Place :=
  if c = '[' then .sequence
  else if c = ']' then .command
  else if c = 'P' then .device
  else if c = 'X' ∨ c = '^' ∨ c = '_' then .string
  else if isQualifier c then .qualified
  else if isBetween 0x30 0x7E c then .outside
  else .escape

/-- The place behind a character.  The cancel and substitute characters end every sequence, and the
escape character begins one. -/
def Place.next (p : Place) (c : Char) : Place :=
  if c = '\x1b' then .escape
  else if c = '\x18' ∨ c = '\x1a' then .outside
  else
    match p with
    | .outside => .outside
    | .escape => afterEscape c
    | .qualified => if isBetween 0x30 0x7E c then .outside else .qualified
    | .sequence => if isFinal c then .outside else .sequence
    | .command => if c = '\x07' then .outside else .command
    | .device =>
      if isQualifier c then .deviceQualified
      else if isBetween 0x30 0x3F c then .deviceNumbers
      else if isFinal c then .string
      else .device
    | .deviceNumbers =>
      if isQualifier c then .deviceQualified
      else if isBetween 0x3C 0x7E c then .string
      else .deviceNumbers
    | .deviceQualified => if isBetween 0x30 0x7E c then .string else .deviceQualified
    | .string => if holdsTerminator c then .outside else .string

/-- The control characters that lay out text. -/
def isLayout (c : Char) : Bool := c == '\t' || c == '\n' || c == '\x0c' || c == '\r'

/-- Whether a character can be seen outside of sequences. -/
def isVisible (c : Char) : Bool := isLayout c || (0x20 ≤ c.toNat && c.toNat != 0x7F)

/-- Whether a character is seen at a place. -/
def Place.shows (p : Place) (c : Char) : Bool :=
  match p with
  | .outside => isVisible c
  | .escape => isLayout c
  | .qualified => isLayout c
  | .sequence => isLayout c
  | _ => false

/-- What is seen of a text.  While `seeing`, the text is read as though it stood outside of
sequences, and `p` is where a control character takes up again; a character beyond ASCII ends the
sequence. -/
def seenFrom (seeing : Bool) (p : Place) : Text → Text
  | [] => []
  | c :: t =>
    if (if seeing then .outside else p).shows c then
      c :: seenFrom true (if c.toNat < 0x80 then p else .outside) t
    else seenFrom false (p.next c) t

/-- A text without control characters and control sequences. -/
def withoutControls (t : Text) : Text := seenFrom false .outside t

end TurtleMarkup.Text
