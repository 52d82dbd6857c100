import TurtleMarkup.Text.Basic

/-!
# Spans

A span names a stretch of a text by the byte offsets of its two ends.  It is plain data: the ends
may be out of order, outside the text or inside a character, and then the span covers nothing.

Offsets are natural numbers.  Where an offset has to fit a 64-bit word, `Span.shift?` moves a span
and reports the offsets that do not.
-/

namespace TurtleMarkup

/-- A stretch of a text, by the byte offsets of its ends. -/
structure Span where
  /-- Where the stretch starts. -/
  start : Nat
  /-- Where the stretch stops, the offset behind its last byte. -/
  stop : Nat
deriving DecidableEq, Repr

/-- What can go wrong with an offset. -/
inductive OffsetError where
  /-- A sum is larger than a word holds. -/
  | overflow
deriving DecidableEq, Repr

/-- The wording of an offset error. -/
def OffsetError.message : OffsetError → Text
  | .overflow => "attempt to add with overflow".toList

/-- The largest offset of a 64-bit word. -/
def maxOffset : Nat := UInt64.size - 1

namespace Span

/-- The number of bytes between the ends, none if they are out of order. -/
def size (s : Span) : Nat := s.stop - s.start

/-- Whether no byte lies between the ends. -/
def isEmpty (s : Span) : Bool := s.size == 0

/-- Spans are ordered by where they start, then by where they stop. -/
instance : Ord Span where
  compare a b := (compare a.start b.start).then (compare a.stop b.stop)

/-- The span moved `base` bytes further on. -/
def shift (base : Nat) (s : Span) : Span := ⟨s.start + base, s.stop + base⟩

/-- Whether both ends fit a word. -/
def fits (s : Span) : Bool := s.start ≤ maxOffset && s.stop ≤ maxOffset

/-- The span moved `base` bytes further on, if both ends still fit a word. -/
def shift? (base : Nat) (s : Span) : Except OffsetError Span :=
  if (s.shift base).fits then .ok (s.shift base) else .error .overflow

/-- The text that a span covers; nothing if its ends are out of order, outside the text or inside
a character. -/
def slice (s : Span) (source : Text) : Text :=
  if s.start ≤ s.stop then
    ((Text.dropBytes? s.start source).bind (Text.takeBytes? s.size)).getD []
  else []

end Span

end TurtleMarkup
