import TurtleMarkup.Lexeme

/-!
# Passes

A line is classified by a fixed sequence of passes, each of which recognises one sort of lexeme.
What a pass finds is final.  The gaps between its lexemes go to the next pass, and what the last
pass leaves over is plain text.  Every gap is a text of its own: a recogniser sees nothing of what
stands around it.

`Pass.pieces` cuts a text into lexemes and gaps from left to right; joined together again the
pieces are the text (`Pass.join_pieces`).
-/

namespace TurtleMarkup

/-- One stage of the classification of a line. -/
inductive Pass where
  | uri
  | string
  | prefixedName
  | languageTag
  | keyword
deriving DecidableEq, Repr

/-- A stretch of text as one pass leaves it. -/
inductive Piece where
  /-- Text in which the pass found nothing. -/
  | gap (text : Text)
  /-- A lexeme that the pass found. -/
  | found (lexeme : Lexeme)
deriving DecidableEq, Repr

namespace Piece

/-- The text of a piece. -/
def text : Piece → Text
  | .gap t => t
  | .found l => l.text

/-- One more character in front: it widens the gap there, or starts one. -/
def pushGap (c : Char) : List Piece → List Piece
  | .gap t :: ps => .gap (c :: t) :: ps
  | ps => .gap [c] :: ps

/-- The text of a list of pieces. -/
def join (ps : List Piece) : Text := ps.flatMap text

theorem join_pushGap (c : Char) (ps : List Piece) : join (pushGap c ps) = c :: join ps := by
  cases ps with
  | nil => rfl
  | cons p ps => cases p <;> simp [pushGap, join, text]

/-- The groups of the lexemes among the pieces of a text that starts at `pos`. -/
def groupsFrom (pos : Nat) : List Piece → List (List Span)
  | [] => []
  | .gap t :: ps => groupsFrom (pos + t.byteSize) ps
  | .found l :: ps => l.groups.map (Span.shift pos) :: groupsFrom (pos + l.text.byteSize) ps

/-- The tokens of the pieces of a text that starts at `pos`, where `onGap` gives the tokens of a
gap from its position and its text. -/
def tokensFrom (onGap : Nat → Text → List Token) (pos : Nat) : List Piece → List Token
  | [] => []
  | .gap t :: ps => onGap pos t ++ tokensFrom onGap (pos + t.byteSize) ps
  | .found l :: ps => l.tokens pos ++ tokensFrom onGap (pos + l.text.byteSize) ps

end Piece

namespace Pass

/-- The passes in the order in which they run. -/
def order : List Pass := [.uri, .string, .prefixedName, .languageTag, .keyword]

/-- The pass that receives the gaps of a pass. -/
def next : Pass → Option Pass
  | .uri => some .string
  | .string => some .prefixedName
  | .prefixedName => some .languageTag
  | .languageTag => some .keyword
  | .keyword => none

/-- A pass and those after it. -/
def onward (p : Pass) : List Pass := order.dropWhile (· != p)

/-- The lexeme of a pass at the beginning of a text, and the rest of the text; `before` is the
character in front. -/
def lexeme? (p : Pass) (before : Option Char) (t : Text) : Option (Lexeme × Text) :=
  match p with
  | .uri => Lexeme.uri? t
  | .string => Lexeme.string? t
  | .prefixedName => Lexeme.prefixedName? before t
  | .languageTag => Lexeme.languageTag? t
  | .keyword => Lexeme.keyword? before t

/-- A lexeme and its rest make up the text, and a lexeme is never empty. -/
theorem lexeme?_eq_some {p : Pass} {before : Option Char} {t rest : Text} {l : Lexeme}
    (h : p.lexeme? before t = some (l, rest)) : t = l.text ++ rest ∧ l.text ≠ [] := by
  cases p with
  | uri => exact Lexeme.uri?_eq_some h
  | string => exact Lexeme.string?_eq_some h
  | prefixedName => exact Lexeme.prefixedName?_eq_some h
  | languageTag => exact Lexeme.languageTag?_eq_some h
  | keyword => exact Lexeme.keyword?_eq_some h

theorem length_lt_of_lexeme? {p : Pass} {before : Option Char} {t rest : Text} {l : Lexeme}
    (h : p.lexeme? before t = some (l, rest)) : rest.length < t.length := by
  obtain ⟨rfl, hne⟩ := lexeme?_eq_some h
  have := List.length_pos_iff.2 hne
  simp only [List.length_append]
  omega

/-- The pieces of a text behind the character `before`: the leftmost lexeme, the leftmost one
behind it, and so on, with the gaps between them. -/
def piecesAfter (p : Pass) (before : Option Char) (t : Text) : List Piece :=
  match t with
  | [] => []
  | c :: cs =>
    match _h : p.lexeme? before (c :: cs) with
    | some (l, rest) => .found l :: p.piecesAfter l.text.getLast? rest
    | none => Piece.pushGap c (p.piecesAfter (some c) cs)
termination_by t.length
decreasing_by
  · exact length_lt_of_lexeme? _h
  · simp

/-- The pieces of a text that stands alone. -/
def pieces (p : Pass) (t : Text) : List Piece := p.piecesAfter none t

theorem join_piecesAfter (p : Pass) (before : Option Char) (t : Text) :
    Piece.join (p.piecesAfter before t) = t := by
  fun_induction piecesAfter p before t with
  | case1 => rfl
  | case2 before c cs l rest h ih =>
    rw [(lexeme?_eq_some h).1]
    simpa [Piece.join, Piece.text] using ih
  | case3 before c cs h ih => rw [Piece.join_pushGap, ih]

/-- The pieces of a text make up the text. -/
theorem join_pieces (p : Pass) (t : Text) : Piece.join (p.pieces t) = t :=
  p.join_piecesAfter none t

/-- The groups of all lexemes of a pass in a text. -/
def find (p : Pass) (t : Text) : List (List Span) := Piece.groupsFrom 0 (p.pieces t)

/-- The tokens of a text that starts at `base` and runs through the given passes. -/
def tokensThrough : List Pass → Nat → Text → List Token
  | [], base, t => [.covering .plain base t.byteSize]
  | p :: ps, base, t => Piece.tokensFrom (tokensThrough ps) base (p.pieces t)

/-- The tokens of a text that starts at `base` and enters the sequence of passes at `p`. -/
def classify (p : Pass) (base : Nat) (t : Text) : List Token := tokensThrough p.onward base t

/-- The tokens of a text, provided that all their offsets fit a word. -/
def classify? (p : Pass) (base : Nat) (t : Text) : Except OffsetError (List Token) :=
  Token.checked (p.classify base t)

end Pass

end TurtleMarkup
