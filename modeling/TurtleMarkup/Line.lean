import TurtleMarkup.Pass
import TurtleMarkup.Text.Blank
import TurtleMarkup.Text.Split

/-!
# Lines

A source is cut into lines at every line feed.  A carriage return is an ordinary character, a line
feed at the end leaves an empty last line, and the empty source has no lines at all.

A line whose first character that is not blank is `#` is one comment.  Every other line goes
through all passes.
-/

namespace TurtleMarkup

/-- A line of a source. -/
structure SourceLine where
  /-- Where the line stands in the source, without its line feed. -/
  span : Span
  /-- The text of the line. -/
  text : Text
  /-- Whether a line feed ends the line. -/
  terminated : Bool
deriving DecidableEq, Repr

/-- A line with its tokens. -/
structure Line where
  /-- Where the line stands in the source, without its line feed. -/
  span : Span
  /-- The tokens of the line, from left to right. -/
  tokens : List Token
  /-- Whether a line feed ends the line. -/
  terminated : Bool
deriving DecidableEq, Repr

namespace SourceLine

/-- Lines with the given texts, the first of which starts at `start`.  All but the last end in a
line feed. -/
def layOut (start : Nat) : List Text → List SourceLine
  | [] => []
  | [t] => [⟨⟨start, start + t.byteSize⟩, t, false⟩]
  | t :: ts => ⟨⟨start, start + t.byteSize⟩, t, true⟩ :: layOut (start + t.byteSize + 1) ts

/-- The lines of a source. -/
def ofSource (source : Text) : List SourceLine :=
  if source.isEmpty then [] else layOut 0 (Text.split '\n' source)

end SourceLine

namespace Line

/-- The character that starts a comment. -/
def commentMarker : Char := '#'

/-- Whether the first character that is not blank starts a comment. -/
def isCommentText (t : Text) : Bool := (t.dropWhile Text.isBlank).head? == some commentMarker

/-- The tokens of a line with text `t` that starts at `base`. -/
def classify (base : Nat) (t : Text) : List Token :=
  if t.isEmpty then []
  else if isCommentText t then [.covering .comment base t.byteSize]
  else Pass.uri.classify base t

/-- The tokens of a line, provided that all their offsets fit a word. -/
def classify? (base : Nat) (t : Text) : Except OffsetError (List Token) :=
  Token.checked (classify base t)

/-- A source line with its tokens. -/
def ofSourceLine (l : SourceLine) : Line :=
  ⟨l.span, classify l.span.start l.text, l.terminated⟩

/-- Whether the line is a single comment. -/
def isComment (l : Line) : Bool :=
  match l.tokens with
  | [t] => t.kind == .comment
  | _ => false

end Line

end TurtleMarkup
