import TurtleMarkup.Block
import TurtleMarkup.Proofs.Slice

/-!
# Parts: classification without positions

How a text is classified does not depend on where it stands.  A part is a
stretch of text with its category, and the tokens of a text are its parts laid
out one after another from the position where the text begins.  Whatever is
said about categories and texts is therefore said about parts, and positions
enter only through `Token.layOut`.

* `Pass.classify_eq_layOut`, `Line.classify_eq_layOut`: the tokens of a text
  are its parts, laid out.
* `Pass.spell_parts`, `Line.spell_parts`: the parts of a text spell the text.
* `Token.parts_layOut`: slicing the source with the laid out tokens gives the
  parts back, wherever the text stands in the source.
-/

namespace TurtleMarkup

/-- A stretch of text with its category. -/
abbrev Part := Kind × Text

/-- The text that is spelled by parts one after another. -/
def Part.spell (ps : List Part) : Text := ps.flatMap Prod.snd

namespace Part

@[simp] theorem spell_nil : spell [] = [] := rfl

@[simp] theorem spell_cons (p : Part) (ps : List Part) : spell (p :: ps) = p.2 ++ spell ps := rfl

@[simp] theorem spell_append (a b : List Part) : spell (a ++ b) = spell a ++ spell b := by
  simp [spell]

end Part

/-! ## Laying out -/

namespace Token

/-- The tokens of parts that stand one after another from `pos` on. -/
def layOut (pos : Nat) : List Part → List Token
  | [] => []
  | (kind, t) :: ps => .covering kind pos t.byteSize :: layOut (pos + t.byteSize) ps

@[simp] theorem layOut_nil (pos : Nat) : layOut pos [] = [] := rfl

@[simp] theorem layOut_cons (pos : Nat) (p : Part) (ps : List Part) :
    layOut pos (p :: ps) = .covering p.1 pos p.2.byteSize :: layOut (pos + p.2.byteSize) ps := rfl

theorem layOut_append (pos : Nat) (a b : List Part) :
    layOut pos (a ++ b) = layOut pos a ++ layOut (pos + (Part.spell a).byteSize) b := by
  induction a generalizing pos with
  | nil => simp
  | cons p a ih =>
    rw [List.cons_append, layOut_cons, layOut_cons, ih, Part.spell_cons, Text.byteSize_append,
      Nat.add_assoc, List.cons_append]

theorem map_kind_layOut (pos : Nat) (ps : List Part) :
    (layOut pos ps).map Token.kind = ps.map Prod.fst := by
  induction ps generalizing pos with
  | nil => rfl
  | cons p ps ih => rw [layOut_cons, List.map_cons, List.map_cons, ih, covering]

end Token

/-! ## Parts of lexemes and pieces -/

namespace Lexeme

/-- The parts of a lexeme.  A prefixed name has three, with its colon plain; every other lexeme
has one. -/
def parts : Lexeme → List Part
  | .uri body => [(.uri, text (.uri body))]
  | .string body => [(.string, text (.string body))]
  | .prefixedName space name => [(.namespacePart, space), (.plain, [':']), (.localPart, name)]
  | .languageTag body => [(.languageTag, text (.languageTag body))]
  | .keyword word => [(.keyword, word)]

theorem tokens_eq_layOut (start : Nat) (l : Lexeme) :
    l.tokens start = Token.layOut start l.parts := by
  have hcolon : Text.byteSize [':'] = 1 := by decide
  cases l with
  | prefixedName space name => simp only [tokens, parts, Token.layOut_cons, hcolon, Token.layOut_nil]
  | uri | string | languageTag | keyword => rfl

theorem spell_parts (l : Lexeme) : Part.spell l.parts = l.text := by
  cases l <;> simp [parts, text]

end Lexeme

namespace Piece

/-- The parts of a piece, where `onGap` gives the parts of a gap. -/
def parts (onGap : Text → List Part) : Piece → List Part
  | .gap t => onGap t
  | .found l => l.parts

variable {onGap : Text → List Part}

theorem spell_parts (h : ∀ t, Part.spell (onGap t) = t) (p : Piece) :
    Part.spell (p.parts onGap) = p.text := by
  cases p with
  | gap t => exact h t
  | found l => exact l.spell_parts

theorem spell_flatMap_parts (h : ∀ t, Part.spell (onGap t) = t) (ps : List Piece) :
    Part.spell (ps.flatMap (parts onGap)) = join ps := by
  induction ps with
  | nil => rfl
  | cons p ps ih =>
    rw [List.flatMap_cons, Part.spell_append, spell_parts h, ih]
    rfl

theorem tokensFrom_eq_layOut {tokensOnGap : Nat → Text → List Token}
    (hgap : ∀ pos t, tokensOnGap pos t = Token.layOut pos (onGap t))
    (hspell : ∀ t, Part.spell (onGap t) = t) (pos : Nat) (ps : List Piece) :
    tokensFrom tokensOnGap pos ps = Token.layOut pos (ps.flatMap (parts onGap)) := by
  induction ps generalizing pos with
  | nil => rfl
  | cons p ps ih =>
    rw [List.flatMap_cons, Token.layOut_append, spell_parts hspell]
    cases p with
    | gap t => rw [tokensFrom, hgap, ih, parts, text]
    | found l => rw [tokensFrom, l.tokens_eq_layOut, ih, parts, text]

end Piece

/-! ## Parts of passes and lines -/

namespace Pass

/-- The parts of a text that runs through the given passes. -/
def partsThrough : List Pass → Text → List Part
  | [], t => [(.plain, t)]
  | p :: ps, t => (p.pieces t).flatMap (Piece.parts (partsThrough ps))

/-- The parts of a text that enters the sequence of passes at `p`. -/
def parts (p : Pass) (t : Text) : List Part := partsThrough p.onward t

theorem spell_partsThrough (ps : List Pass) (t : Text) : Part.spell (partsThrough ps t) = t := by
  induction ps generalizing t with
  | nil => simp [partsThrough]
  | cons p ps ih => rw [partsThrough, Piece.spell_flatMap_parts ih, join_pieces]

/-- The parts of a text spell the text. -/
theorem spell_parts (p : Pass) (t : Text) : Part.spell (p.parts t) = t :=
  spell_partsThrough p.onward t

theorem tokensThrough_eq_layOut (ps : List Pass) (base : Nat) (t : Text) :
    tokensThrough ps base t = Token.layOut base (partsThrough ps t) := by
  induction ps generalizing base t with
  | nil => rfl
  | cons p ps ih =>
    rw [tokensThrough, partsThrough,
      Piece.tokensFrom_eq_layOut ih (spell_partsThrough ps) base (p.pieces t)]

/-- The tokens of a text are its parts, laid out from where the text begins. -/
theorem classify_eq_layOut (p : Pass) (base : Nat) (t : Text) :
    p.classify base t = Token.layOut base (p.parts t) :=
  tokensThrough_eq_layOut p.onward base t

end Pass

namespace Line

/-- The parts of a line. -/
def parts (t : Text) : List Part :=
  if t.isEmpty then [] else if isCommentText t then [(.comment, t)] else Pass.uri.parts t

/-- The parts of a line spell the line. -/
theorem spell_parts (t : Text) : Part.spell (parts t) = t := by
  unfold parts
  split
  · rename_i h
    simpa using h.symm
  · split
    · simp
    · exact Pass.uri.spell_parts t

/-- The tokens of a line are its parts, laid out from where the line begins. -/
theorem classify_eq_layOut (base : Nat) (t : Text) :
    classify base t = Token.layOut base (parts t) := by
  unfold classify parts
  split
  · rfl
  · split
    · rfl
    · exact Pass.uri.classify_eq_layOut base t

end Line

/-! ## Slicing the laid out tokens -/

namespace Token

variable {s : Span} {source : Text} {ps : List Part}

/-- Every laid out token covers the text of a part with its category. -/
theorem covers_of_mem_layOut (h : s.Covers source (Part.spell ps)) {t : Token}
    (ht : t ∈ layOut s.start ps) : ∃ u, (t.kind, u) ∈ ps ∧ t.span.Covers source u := by
  induction ps generalizing s with
  | nil => simp at ht
  | cons p ps ih =>
    rw [Part.spell_cons] at h
    rcases List.mem_cons.1 ht with rfl | ht
    · exact ⟨p.2, by simp [covering], h.left⟩
    · obtain ⟨u, hu, hcovers⟩ := ih h.right ht
      exact ⟨u, List.mem_cons_of_mem p hu, hcovers⟩

/-- Slicing a source with laid out tokens gives the parts back, wherever they stand in it. -/
theorem parts_layOut (h : s.Covers source (Part.spell ps)) :
    (layOut s.start ps).map (fun t => (t.kind, t.span.slice source)) = ps := by
  induction ps generalizing s with
  | nil => rfl
  | cons p ps ih =>
    rw [Part.spell_cons] at h
    have hfirst : Span.slice ⟨s.start, s.start + p.2.byteSize⟩ source = p.2 := h.left.slice_eq
    have hrest := ih h.right
    rw [layOut_cons, List.map_cons, covering, hfirst, hrest]

end Token

end TurtleMarkup
