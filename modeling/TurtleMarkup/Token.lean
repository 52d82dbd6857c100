import TurtleMarkup.Span

/-!
# Tokens

A token is a span with the lexical category of what it covers.
-/

namespace TurtleMarkup

/-- Lexical categories of Turtle text. -/
inductive Kind where
  /-- A whole line whose first character that is not blank is `#`. -/
  | comment
  /-- An IRI reference `<...>` with both brackets. -/
  | uri
  /-- A quoted string `"..."` with both quotes. -/
  | string
  /-- The part of a prefixed name before the colon. -/
  | namespacePart
  /-- The part of a prefixed name after the colon. -/
  | localPart
  /-- A language tag with its `@`. -/
  | languageTag
  /-- One of the reserved words. -/
  | keyword
  /-- Everything else, the colon of a prefixed name included. -/
  | plain
deriving DecidableEq, Repr

namespace Kind

/-- All categories. -/
def all : List Kind :=
  [.comment, .uri, .string, .namespacePart, .localPart, .languageTag, .keyword, .plain]

/-- The label of a category in a style sheet; plain text has none. -/
def label : Kind → Option Text
  | .comment => some "comment".toList
  | .uri => some "uri".toList
  | .string => some "string".toList
  | .namespacePart => some "prefix-namespace".toList
  | .localPart => some "prefix-localname".toList
  | .languageTag => some "language-tag".toList
  | .keyword => some "keyword".toList
  | .plain => none

/-- The label of a category in older style sheets. -/
def legacyLabel : Kind → Option Text
  | .namespacePart => some "prefix-name".toList
  | .localPart => some "local-name".toList
  | .languageTag => some "lang".toList
  | k => k.label

end Kind

/-- A stretch of text with its category. -/
structure Token where
  /-- The category. -/
  kind : Kind
  /-- What the token covers. -/
  span : Span
deriving DecidableEq, Repr

namespace Token

/-- A token of category `kind` that covers the `size` bytes from `start` on. -/
def covering (kind : Kind) (start size : Nat) : Token := ⟨kind, ⟨start, start + size⟩⟩

/-- The token moved `base` bytes further on. -/
def shift (base : Nat) (t : Token) : Token := { t with span := t.span.shift base }

/-- A list of tokens, provided that all its offsets fit a word. -/
def checked (tokens : List Token) : Except OffsetError (List Token) :=
  if tokens.all (·.span.fits) then .ok tokens else .error .overflow

end Token

end TurtleMarkup
