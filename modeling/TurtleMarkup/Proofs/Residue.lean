import TurtleMarkup.Proofs.Borders
import TurtleMarkup.Proofs.Tiling

/-!
# Nothing is left over that a pass would take

A plain token is what all passes left over.  Its ends are cuts made by later
passes, so its words have lost their neighbours, and a pass that saw nothing in
the larger text might see something in the remainder.  It does not: a plain
token, taken as a text of its own and put through the same passes again, comes
out as one plain token (`Pass.plain_is_settled`).

A text is clear of a pass if the pass finds nothing in it.  A gap is clear of
the pass that left it (`Pass.clear_of_pieces`), and it stays clear of every
earlier pass however it is cut by later ones (`Pass.Clear.of_pieces`).
-/

namespace TurtleMarkup

/-- A token of a text that stands alone is a part of it. -/
theorem Token.mem_parts_of_mem_layOut {ps : List Part} {t : Text} (hps : Part.spell ps = t)
    {token : Token} (h : token ∈ layOut 0 ps) : (token.kind, token.span.slice t) ∈ ps := by
  have hcovers : Span.Covers ⟨0, t.byteSize⟩ t (Part.spell ps) := by
    rw [hps]
    exact Span.covers_self t
  obtain ⟨u, hu, hspan⟩ := covers_of_mem_layOut hcovers h
  rwa [hspan.slice_eq]

namespace Pass

variable {p q : Pass} {before : Option Char} {t g u rest : Text} {a b : List Piece}

/-- The pass finds nothing in the text when it stands alone. -/
def Clear (p : Pass) (t : Text) : Prop := p.Free none t []

/-- What is free of lexemes where it stands is clear as a text of its own, if no word runs across
its ends. -/
theorem Free.clear (h : p.Free before g rest) (hleft : Text.Apart before g.head?)
    (hright : Text.Apart g.getLast? rest.head?) : p.Clear g := by
  intro u v huv hv
  rw [Option.or_none, List.append_nil]
  by_contra hne
  obtain ⟨⟨l, r⟩, hfound⟩ := Option.ne_none_iff_exists'.1 hne
  obtain ⟨rfl, -⟩ := lexeme?_eq_some hfound
  obtain rfl : l.pass = p := pass_of_lexeme? hfound
  rw [← List.append_assoc] at huv
  rw [huv] at hleft hright
  -- the lexeme would fit in the larger text, too, where none begins
  have hfits := (fits_of_lexeme? hfound).extend hleft hright
  have hnone := h u (l.text ++ r) (by rw [huv, List.append_assoc]) hv
  rw [List.append_assoc] at hnone
  exact not_fits_of_lexeme?_eq_none hnone hfits

/-- No lexeme begins in a stretch of a clear text. -/
theorem Clear.free {x y : Text} (h : q.Clear (x ++ g ++ y)) : q.Free x.getLast? g y := by
  rintro u v rfl hv
  have hnone := h (x ++ u) (v ++ y) (by simp) (by simp [hv])
  rwa [List.getLast?_append, Option.or_none, List.append_nil] at hnone

/-- No lexeme of the pass fits anywhere in a clear text. -/
theorem Clear.not_fits {l : Lexeme} {x y : Text} (h : l.pass.Clear (x ++ l.text ++ y)) :
    ¬ l.Fits x.getLast? y.head? := by
  intro hfits
  have hnone := h x (l.text ++ y) (by simp) (by simp [hfits.text_ne_nil])
  rw [Option.or_none, List.append_nil] at hnone
  exact not_fits_of_lexeme?_eq_none hnone hfits

/-- A pass leaves gaps that are clear of it. -/
theorem clear_of_pieces (h : p.pieces t = a ++ .gap g :: b) : p.Clear g := by
  obtain ⟨hleft, hright⟩ := apart_of_pieces h
  exact (free_of_pieces h).clear hleft hright

/-- What is clear of one pass stays clear of it when it is cut by another. -/
theorem Clear.of_pieces (hq : q.Clear t) (h : p.pieces t = a ++ .gap g :: b) : q.Clear g := by
  obtain ⟨hleft, hright⟩ := apart_of_pieces h
  have htext : t = Piece.join a ++ g ++ Piece.join b := by
    rw [← p.join_pieces t, h]
    simp
  rw [htext] at hq
  exact hq.free.clear hleft hright

theorem clear_colon (p : Pass) : p.Clear [':'] := by
  intro u v huv hv
  obtain ⟨rfl, rfl⟩ : u = [] ∧ v = [':'] := by
    cases u with
    | nil => exact ⟨rfl, huv.symm⟩
    | cons c u => simp_all
  cases p <;> decide

theorem eq_colon_of_mem_parts {l : Lexeme} (h : (Kind.plain, u) ∈ l.parts) : u = [':'] := by
  cases l <;> simp_all [Lexeme.parts]

theorem Clear.of_mem_partsThrough {ps : List Pass} (hq : q.Clear t)
    (hu : (Kind.plain, u) ∈ partsThrough ps t) : q.Clear u := by
  induction ps generalizing t with
  | nil =>
    obtain ⟨-, rfl⟩ := by simpa [partsThrough] using hu
    exact hq
  | cons p ps ih =>
    obtain ⟨piece, hpiece, hu⟩ := List.mem_flatMap.1 hu
    cases piece with
    | gap g =>
      obtain ⟨a, b, hab⟩ := List.append_of_mem hpiece
      exact ih (hq.of_pieces hab) hu
    | found l =>
      rw [eq_colon_of_mem_parts hu]
      exact q.clear_colon

/-- What is plain in the end is clear of all passes that were run. -/
theorem clear_of_mem_partsThrough {ps : List Pass} (hu : (Kind.plain, u) ∈ partsThrough ps t) :
    ∀ p ∈ ps, p.Clear u := by
  induction ps generalizing t with
  | nil => simp
  | cons p ps ih =>
    obtain ⟨piece, hpiece, hpart⟩ := List.mem_flatMap.1 hu
    cases piece with
    | gap g =>
      obtain ⟨a, b, hab⟩ := List.append_of_mem hpiece
      intro q hq
      rcases List.mem_cons.1 hq with rfl | hq
      · exact (clear_of_pieces hab).of_mem_partsThrough hpart
      · exact ih hpart q hq
    | found l =>
      rw [eq_colon_of_mem_parts hpart]
      intro q _
      exact q.clear_colon

/-! ## A clear text is one gap -/

theorem piecesAfter_of_free (ht : t ≠ []) (h : p.Free before t []) :
    p.piecesAfter before t = [.gap t] := by
  induction t generalizing before with
  | nil => exact absurd rfl ht
  | cons c t ih =>
    have hnone : p.lexeme? before (c :: t) = none := by simpa using h [] (c :: t) rfl (by simp)
    rw [piecesAfter_of_none hnone]
    cases t with
    | nil => rw [piecesAfter]; rfl
    | cons d t =>
      have hfree : p.Free (some c) (d :: t) [] := by
        intro u v huv hv
        have := h (c :: u) v (by rw [huv, List.cons_append]) hv
        rwa [Text.getLast?_cons_or] at this
      rw [ih (by simp) hfree]
      rfl

theorem partsThrough_of_clear {ps : List Pass} (hu : u ≠ []) (h : ∀ p ∈ ps, p.Clear u) :
    partsThrough ps u = [(.plain, u)] := by
  induction ps with
  | nil => rfl
  | cons p ps ih =>
    have hpieces : p.pieces u = [.gap u] := piecesAfter_of_free hu (h p List.mem_cons_self)
    rw [partsThrough, hpieces, List.flatMap_singleton, Piece.parts]
    exact ih fun q hq => h q (List.mem_cons_of_mem p hq)

theorem parts_of_mem_plain (hu : (Kind.plain, u) ∈ p.parts t) : p.parts u = [(.plain, u)] :=
  partsThrough_of_clear (ne_nil_of_mem_parts hu) (clear_of_mem_partsThrough hu)

theorem classify_of_mem_plain (base : Nat) (hu : (Kind.plain, u) ∈ p.parts t) :
    p.classify base u = [.covering .plain base u.byteSize] := by
  rw [classify_eq_layOut, parts_of_mem_plain hu]
  rfl

/-- **Nothing is left over that a pass would take.**  Whatever pass a text enters at, the text of
each plain token that comes out is one plain token when it enters at the same pass.  In a line the
text of each plain token is one plain token for all passes from the first on. -/
theorem plain_is_settled :
    (∀ (p : Pass) (t : Text), ∀ token ∈ p.classify 0 t, token.kind = .plain →
      ∀ base, p.classify base (token.span.slice t)
        = [.covering .plain base (token.span.slice t).byteSize]) ∧
      ∀ line : Text, ∀ token ∈ Line.classify 0 line, token.kind = .plain →
        ∀ base, Pass.uri.classify base (token.span.slice line)
          = [.covering .plain base (token.span.slice line).byteSize] := by
  constructor
  · intro p t token htoken hplain base
    rw [classify_eq_layOut] at htoken
    have hu := Token.mem_parts_of_mem_layOut (p.spell_parts t) htoken
    rw [hplain] at hu
    exact classify_of_mem_plain base hu
  · intro line token htoken hplain base
    rw [Line.classify_eq_layOut] at htoken
    have hu := Token.mem_parts_of_mem_layOut (Line.spell_parts line) htoken
    rw [hplain] at hu
    -- neither an empty line nor a comment has plain parts
    unfold Line.parts at hu
    split at hu
    · simp at hu
    · split at hu
      · simp at hu
      · exact classify_of_mem_plain base hu

/-- Behind a language tag that ends in a hyphen the word `_a` begins, of which `a` is not taken for
a reserved word, neither there nor when the word stands alone. -/
theorem plain_is_settled_behind_hyphen :
    ⟨.plain, ⟨4, 6⟩⟩ ∈ Pass.languageTag.classify 0 ['@', 'e', 'n', '-', '_', 'a'] ∧
      Pass.languageTag.classify 0 ['_', 'a'] = [⟨.plain, ⟨0, 2⟩⟩] := by
  have hmem : (⟨.plain, ⟨4, 6⟩⟩ : Token)
      ∈ Pass.languageTag.classify 0 ['@', 'e', 'n', '-', '_', 'a'] := by decide +kernel
  exact ⟨hmem, plain_is_settled.1 .languageTag _ _ hmem rfl 0⟩

end Pass

end TurtleMarkup
