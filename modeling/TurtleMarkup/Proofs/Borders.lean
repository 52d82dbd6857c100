import TurtleMarkup.Proofs.Recognition

/-!
# Borders between lexemes and gaps

A gap is a text of its own for the passes behind, which therefore judge word
boundaries at its ends as if nothing stood there.  No harm is done, because a
word never runs across the border of a lexeme (`Lexeme.Fits.apart_left`,
`Lexeme.Fits.apart_right`) and so never across the end of a gap
(`Pass.apart_of_pieces`).  A lexeme that fits inside a gap hence fits in the
whole text as well (`Lexeme.Fits.extend`).

`Pass.Cuts` says what the pieces of a pass are: no lexeme begins inside a gap,
and what is found is what the recogniser finds there.
-/

namespace TurtleMarkup

/-! ## Words and neighbours -/

namespace Text

variable {before after : Option Char}

/-- No word runs across the border between two neighbours. -/
def Apart (before after : Option Char) : Prop :=
  ¬ (before.any isWordChar = true ∧ after.any isWordChar = true)

theorem apart_none_left : Apart none after := by simp [Apart]

theorem apart_none_right : Apart before none := by simp [Apart]

theorem apart_of_isBoundary (h : isBoundary before after = true) : Apart before after := by
  rintro ⟨hbefore, hafter⟩
  simp [isBoundary, hbefore, hafter] at h

/-- A word that begins behind nothing begins behind a neighbour that belongs to no word. -/
theorem isBoundary_of_apart_left (h : Apart before after) (hnone : isBoundary none after = true) :
    isBoundary before after = true := by
  have hafter : after.any isWordChar = true := by simpa [isBoundary] using hnone
  have hbefore : before.any isWordChar = false := by
    rw [← Bool.not_eq_true]
    exact fun hbefore => h ⟨hbefore, hafter⟩
  simp [isBoundary, hbefore, hafter]

/-- A word that ends before nothing ends before a neighbour that belongs to no word. -/
theorem isBoundary_of_apart_right (h : Apart before after) (hnone : isBoundary before none = true) :
    isBoundary before after = true := by
  have hbefore : before.any isWordChar = true := by simpa [isBoundary] using hnone
  have hafter : after.any isWordChar = false := by
    rw [← Bool.not_eq_true]
    exact fun hafter => h ⟨hbefore, hafter⟩
  simp [isBoundary, hbefore, hafter]

/-- The last character of a text that stands behind the character `before`. -/
theorem getLast?_cons_or (c : Char) (t : Text) :
    (c :: t).getLast?.or before = t.getLast?.or (some c) := by
  cases t <;> simp [List.getLast?_cons_cons, Option.or_of_isSome]

end Text

/-! ## Lexemes and their neighbours -/

namespace Lexeme

theorem ne_nil_of_mem_keywords {w : Text} (h : w ∈ keywords) : w ≠ [] := by
  simp only [keywords, List.mem_cons, List.not_mem_nil, or_false] at h
  rcases h with rfl | rfl | rfl <;> simp

namespace Fits

variable {before after before' after' : Option Char} {l : Lexeme}

theorem text_ne_nil (h : l.Fits before after) : l.text ≠ [] := by
  cases l with
  | keyword w => exact ne_nil_of_mem_keywords h.1
  | uri | string | prefixedName | languageTag => simp [text]

theorem head?_prefixedName {space name : Text} (h : Fits before (.prefixedName space name) after) :
    (text (.prefixedName space name)).head? = space.head? :=
  List.head?_append_of_ne_nil _ h.2.1.ne_nil

theorem getLast?_prefixedName {space name : Text}
    (h : Fits before (.prefixedName space name) after) :
    (text (.prefixedName space name)).getLast? = name.getLast? := by
  rw [text, List.getLast?_append_of_ne_nil _ (List.cons_ne_nil _ _),
    List.getLast?_cons_of_ne_nil h.2.2.1.ne_nil]

theorem getLast?_languageTag {body : Text} (h : Fits before (.languageTag body) after) :
    (text (.languageTag body)).getLast? = body.getLast? := by
  rw [text, List.getLast?_cons_of_ne_nil h.1.ne_nil]

/-- No word runs into a lexeme from the left. -/
theorem apart_left (h : l.Fits before after) : Text.Apart before l.text.head? := by
  cases l with
  | uri | string | languageTag =>
    rintro ⟨-, hhead⟩
    simp [text] at hhead
    revert hhead
    decide
  | prefixedName space name =>
    rw [h.head?_prefixedName]
    exact Text.apart_of_isBoundary h.1
  | keyword w => exact Text.apart_of_isBoundary h.2.1

/-- No word runs out of a lexeme to the right. -/
theorem apart_right (h : l.Fits before after) : Text.Apart l.text.getLast? after := by
  cases l with
  | uri | string =>
    rintro ⟨hlast, -⟩
    rw [text, List.getLast?_concat] at hlast
    revert hlast
    decide
  | prefixedName space name =>
    rw [h.getLast?_prefixedName]
    exact Text.apart_of_isBoundary h.2.2.2
  | languageTag body =>
    rw [h.getLast?_languageTag]
    exact Text.apart_of_isBoundary h.2
  | keyword w => exact Text.apart_of_isBoundary h.2.2

/-- Other neighbours are as good as long as they leave the word boundaries in place. -/
theorem imp (h : l.Fits before after)
    (hleft : Text.isBoundary before l.text.head? = true →
      Text.isBoundary before' l.text.head? = true)
    (hright : Text.isBoundary l.text.getLast? after = true →
      Text.isBoundary l.text.getLast? after' = true) :
    l.Fits before' after' := by
  cases l with
  | uri | string => exact h
  | prefixedName space name =>
    rw [h.head?_prefixedName] at hleft
    rw [h.getLast?_prefixedName] at hright
    exact ⟨hleft h.1, h.2.1, h.2.2.1, hright h.2.2.2⟩
  | languageTag body =>
    rw [h.getLast?_languageTag] at hright
    exact ⟨h.1, hright h.2⟩
  | keyword w => exact ⟨h.1, hleft h.2.1, hright h.2.2⟩

/-- A lexeme that fits in a text of its own fits where that text stands in a larger one, if no word
runs across the ends of the text. -/
theorem extend {u r rest : Text} (h : l.Fits u.getLast? r.head?)
    (hleft : Text.Apart before (u ++ l.text ++ r).head?)
    (hright : Text.Apart (u ++ l.text ++ r).getLast? rest.head?) :
    l.Fits (u.getLast?.or before) (r ++ rest).head? := by
  have hne := h.text_ne_nil
  refine h.imp ?_ ?_
  · intro hboundary
    cases u with
    | nil =>
      rw [List.nil_append, List.head?_append_of_ne_nil _ hne] at hleft
      exact Text.isBoundary_of_apart_left hleft hboundary
    | cons c u => rwa [Option.or_of_isSome (by simp)]
  · intro hboundary
    cases r with
    | nil =>
      rw [List.append_nil, List.getLast?_append_of_ne_nil _ hne] at hright
      exact Text.isBoundary_of_apart_right hright hboundary
    | cons c r => simpa using hboundary

end Fits

end Lexeme

/-! ## What the pieces of a pass are -/

namespace Piece

@[simp] theorem join_nil : join [] = [] := rfl

@[simp] theorem join_cons (p : Piece) (ps : List Piece) : join (p :: ps) = p.text ++ join ps := rfl

@[simp] theorem join_append (a b : List Piece) : join (a ++ b) = join a ++ join b := by simp [join]

@[simp] theorem text_gap (t : Text) : (gap t).text = t := rfl

@[simp] theorem text_found (l : Lexeme) : (found l).text = l.text := rfl

end Piece

namespace Pass

/-- No lexeme of the pass begins in `t` when `t` stands between the character `before` and the text
`rest`. -/
def Free (p : Pass) (before : Option Char) (t rest : Text) : Prop :=
  ∀ a b, t = a ++ b → b ≠ [] → p.lexeme? (a.getLast?.or before) (b ++ rest) = none

/-- The pieces are what the pass makes of their text behind the character `before`: no lexeme
begins inside a gap, and the recogniser finds the lexemes where they stand. -/
def Cuts (p : Pass) : Option Char → List Piece → Prop
  | _, [] => True
  | before, .gap g :: ps => p.Free before g (Piece.join ps) ∧ p.Cuts (g.getLast?.or before) ps
  | before, .found l :: ps =>
    p.lexeme? before (l.text ++ Piece.join ps) = some (l, Piece.join ps) ∧
      p.Cuts (l.text.getLast?.or before) ps

variable {p q : Pass} {before : Option Char} {t g rest : Text}

theorem free_cons {c : Char} (h : p.lexeme? before (c :: t ++ rest) = none)
    (ht : p.Free (some c) t rest) : p.Free before (c :: t) rest := by
  intro a b hab hb
  cases a with
  | nil =>
    rw [List.nil_append] at hab
    rw [← hab]
    exact h
  | cons d a =>
    obtain ⟨rfl, rfl⟩ := List.cons.inj hab
    rw [Text.getLast?_cons_or]
    exact ht a b rfl hb

theorem free_nil : p.Free before [] rest := by
  intro a b hab hb
  exact absurd (List.append_eq_nil_iff.1 hab.symm).2 hb

theorem cuts_pushGap {c : Char} {ps : List Piece} (h : p.lexeme? before (c :: Piece.join ps) = none)
    (hps : p.Cuts (some c) ps) : p.Cuts before (Piece.pushGap c ps) := by
  cases ps with
  | nil => exact ⟨free_cons h free_nil, trivial⟩
  | cons piece ps =>
    cases piece with
    | gap t =>
      refine ⟨free_cons h hps.1, ?_⟩
      rw [Text.getLast?_cons_or]
      exact hps.2
    | found l => exact ⟨free_cons h free_nil, hps⟩

theorem piecesAfter_of_some {c : Char} {l : Lexeme}
    (h : p.lexeme? before (c :: t) = some (l, rest)) :
    p.piecesAfter before (c :: t) = .found l :: p.piecesAfter l.text.getLast? rest := by
  rw [piecesAfter]
  split
  · rename_i l' rest' h'
    obtain ⟨rfl, rfl⟩ : l = l' ∧ rest = rest' := by simpa [h] using h'
    rfl
  · rename_i h'
    rw [h] at h'
    cases h'

theorem piecesAfter_of_none {c : Char} (h : p.lexeme? before (c :: t) = none) :
    p.piecesAfter before (c :: t) = Piece.pushGap c (p.piecesAfter (some c) t) := by
  rw [piecesAfter]
  split
  · rename_i h'
    rw [h] at h'
    cases h'
  · rfl

theorem cuts_piecesAfter (p : Pass) (before : Option Char) (t : Text) :
    p.Cuts before (p.piecesAfter before t) := by
  fun_induction piecesAfter p before t with
  | case1 => trivial
  | case2 before c cs l rest h ih =>
    obtain ⟨htext, hne⟩ := lexeme?_eq_some h
    have hlast : l.text.getLast?.or before = l.text.getLast? :=
      Option.or_of_isSome (by simpa using hne)
    refine ⟨?_, ?_⟩
    · rw [join_piecesAfter, ← htext]
      exact h
    · rw [hlast]
      exact ih
  | case3 before c cs h ih =>
    refine cuts_pushGap ?_ ih
    rw [join_piecesAfter]
    exact h

theorem Cuts.right {a b : List Piece} (h : p.Cuts before (a ++ b)) :
    p.Cuts ((Piece.join a).getLast?.or before) b := by
  induction a generalizing before with
  | nil => exact h
  | cons piece a ih =>
    have hrest : p.Cuts (piece.text.getLast?.or before) (a ++ b) := by
      cases piece <;> exact h.2
    have hlast : (Piece.join (piece :: a)).getLast?.or before
        = (Piece.join a).getLast?.or (piece.text.getLast?.or before) := by
      rw [Piece.join_cons, List.getLast?_append, Option.or_assoc]
    rw [hlast]
    exact ih hrest

/-! ## The ends of a gap -/

variable {a b : List Piece} {l : Lexeme}

theorem free_of_pieces (h : p.pieces t = a ++ .gap g :: b) :
    p.Free (Piece.join a).getLast? g (Piece.join b) := by
  have hcuts := p.cuts_piecesAfter none t
  rw [← pieces, h] at hcuts
  simpa using hcuts.right.1

theorem fits_of_pieces (h : p.pieces t = a ++ .found l :: b) :
    l.pass = p ∧ l.Fits (Piece.join a).getLast? (Piece.join b).head? := by
  have hcuts := p.cuts_piecesAfter none t
  rw [← pieces, h] at hcuts
  have hfound := hcuts.right.1
  rw [Option.or_none] at hfound
  exact ⟨pass_of_lexeme? hfound, fits_of_lexeme? hfound⟩

theorem gap_ne_nil_of_pieces (h : p.pieces t = a ++ .gap g :: b) : g ≠ [] :=
  gap_ne_nil_of_mem_pieces (p := p) (t := t) (by simp [h])

/-- Two gaps never stand side by side, so a lexeme ends where a gap begins. -/
theorem apart_left_of_pieces (h : p.pieces t = a ++ .gap g :: b) :
    Text.Apart (Piece.join a).getLast? g.head? := by
  rcases List.eq_nil_or_concat a with rfl | ⟨a', piece, rfl⟩
  · exact Text.apart_none_left
  · rw [List.concat_eq_append] at h ⊢
    cases piece with
    | gap g' =>
      have hsep := p.separated_pieces t
      rw [h, Piece.Separated, List.isChain_append] at hsep
      exact absurd ⟨rfl, rfl⟩ (hsep.2.2 (.gap g') (by simp) (.gap g) (by simp))
    | found l =>
      have hg := gap_ne_nil_of_pieces h
      rw [List.append_assoc] at h
      have hfits := (fits_of_pieces (a := a') (b := .gap g :: b) h).2
      have happart := hfits.apart_right
      rw [Piece.join_cons, Piece.text_gap, List.head?_append_of_ne_nil _ hg] at happart
      rw [Piece.join_append, List.getLast?_append_of_ne_nil _ (by simpa using hfits.text_ne_nil)]
      simpa using happart

/-- A lexeme begins where a gap ends. -/
theorem apart_right_of_pieces (h : p.pieces t = a ++ .gap g :: b) :
    Text.Apart g.getLast? (Piece.join b).head? := by
  cases b with
  | nil => exact Text.apart_none_right
  | cons piece b =>
    cases piece with
    | gap g' =>
      have hsep := p.separated_pieces t
      rw [h, Piece.Separated, List.isChain_append] at hsep
      exact absurd ⟨rfl, rfl⟩ (List.isChain_cons_cons.1 hsep.2.1).1
    | found l =>
      have hg := gap_ne_nil_of_pieces h
      have hfits := (fits_of_pieces (a := a ++ [.gap g]) (b := b) (by simpa using h)).2
      have happart := hfits.apart_left
      rw [Piece.join_append, List.getLast?_append_of_ne_nil _ (by simpa using hg)] at happart
      rw [Piece.join_cons, Piece.text_found, List.head?_append_of_ne_nil _ hfits.text_ne_nil]
      simpa using happart

/-- No word runs across the ends of a gap. -/
theorem apart_of_pieces (h : p.pieces t = a ++ .gap g :: b) :
    Text.Apart (Piece.join a).getLast? g.head? ∧ Text.Apart g.getLast? (Piece.join b).head? :=
  ⟨apart_left_of_pieces h, apart_right_of_pieces h⟩

end Pass

end TurtleMarkup
