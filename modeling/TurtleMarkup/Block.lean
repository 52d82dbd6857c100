import TurtleMarkup.Line
import TurtleMarkup.Log

/-!
# Highlighted blocks

A block is a source with its lines and their tokens.  `Block.highlight` makes it from a source.
A block may also be put together by hand from any lines, so what is read from it takes every span
as it comes.
-/

namespace TurtleMarkup

/-- A source with its classified lines. -/
structure Block where
  /-- The text that all spans refer to. -/
  source : Text
  /-- The lines, from first to last. -/
  lines : List Line
deriving DecidableEq, Repr

namespace Block

/-- The block of a source. -/
def highlight (source : Text) : Block :=
  ⟨source, (SourceLine.ofSource source).map Line.ofSourceLine⟩

/-- The text that a span covers. -/
def text (b : Block) (s : Span) : Text := s.slice b.source

/-- The tokens of all lines. -/
def tokens (b : Block) : List Token := b.lines.flatMap Line.tokens

/-- The tokens of a line as categories with the texts they cover. -/
def parts (b : Block) (l : Line) : List (Kind × Text) :=
  l.tokens.map fun t => (t.kind, b.text t.span)

/-- The parts of the line with the given index; there are none behind the last line. -/
def partsAt (b : Block) (index : Nat) : List (Kind × Text) :=
  (b.lines[index]?.map b.parts).getD []

/-- The text of the tokens of a line, and its line feed. -/
def lineText (b : Block) (l : Line) : Text :=
  l.tokens.flatMap (fun t => b.text t.span) ++ if l.terminated then ['\n'] else []

/-- The source, put together again from tokens and line feeds. -/
def reconstruct (b : Block) : Text := b.lines.flatMap b.lineText

/-- The record of a highlighted block: how large it is and how many lines are comments. -/
def record (b : Block) : Log.Record where
  level := .trace
  message :=
    "highlighted ".toList ++ Text.decimal b.source.byteSize ++ " bytes into ".toList
      ++ Text.decimal b.lines.length ++ " lines (".toList
      ++ Text.decimal (b.lines.countP Line.isComment) ++ " comment)".toList

end Block

end TurtleMarkup
