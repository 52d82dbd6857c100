import TurtleMarkup.Proofs.Residue

/-!
# Reserved words are whole words of the line

Every part of a line that is not plain belongs to a lexeme that fits where it
stands in the whole line, not only in the gap it was found in
(`Pass.exists_fits_of_partsThrough`).  For a reserved word this means that it is
a maximal run of word characters of the line.

Conversely a maximal run of word characters that spells a reserved word and
touches nothing that was taken before is found (`Line.mem_keyword_iff`).  The
argument looks at the part in which the run begins: a plain part is clear of
reserved words, and any other part touches the run.
-/

namespace TurtleMarkup

/-! ## Places in a list of parts -/

theorem exists_of_flatMap_eq_append {α β : Type} {f : α → List β} {xs : List α} {y : β}
    {ys zs : List β} (h : xs.flatMap f = ys ++ y :: zs) :
    ∃ a x b l r, xs = a ++ x :: b ∧ f x = l ++ y :: r ∧ ys = a.flatMap f ++ l ∧
      zs = r ++ b.flatMap f := by
  induction xs generalizing ys with
  | nil => simp at h
  | cons x xs ih =>
    have hlater : ∀ ys', xs.flatMap f = ys' ++ y :: zs → ys = f x ++ ys' →
        ∃ a x' b l r, x :: xs = a ++ x' :: b ∧ f x' = l ++ y :: r ∧ ys = a.flatMap f ++ l ∧
          zs = r ++ b.flatMap f := by
      rintro ys' h' rfl
      obtain ⟨a, x', b, l, r, rfl, hx', rfl, rfl⟩ := ih h'
      exact ⟨x :: a, x', b, l, r, rfl, hx', by simp, rfl⟩
    rw [List.flatMap_cons] at h
    rcases List.append_eq_append_iff.1 h with ⟨c, rfl, hc⟩ | ⟨c, hx, hc⟩
    · exact hlater c hc rfl
    · cases c with
      | nil => exact hlater [] hc.symm (by simpa using hx.symm)
      | cons d c =>
        obtain ⟨rfl, rfl⟩ := List.cons.inj hc
        exact ⟨[], x, xs, ys, c, rfl, hx, rfl, rfl⟩

namespace Part

/-- Where a text that is spelled by parts goes on, a part goes on or begins. -/
theorem exists_of_spell_eq_append {ps : List Part} {a v : Text} (h : spell ps = a ++ v)
    (hv : v ≠ []) : ∃ (P : List Part) (k : Kind) (x y : Text) (Q : List Part),
      ps = P ++ (k, x ++ y) :: Q ∧ a = spell P ++ x ∧ y ≠ [] ∧ v = y ++ spell Q := by
  induction ps generalizing a with
  | nil => simp_all
  | cons p ps ih =>
    have hlater : ∀ a', spell ps = a' ++ v → a = p.2 ++ a' →
        ∃ (P : List Part) (k : Kind) (x y : Text) (Q : List Part),
          p :: ps = P ++ (k, x ++ y) :: Q ∧ a = spell P ++ x ∧ y ≠ [] ∧ v = y ++ spell Q := by
      rintro a' h' rfl
      obtain ⟨P, k, x, y, Q, rfl, rfl, hy, rfl⟩ := ih h'
      exact ⟨p :: P, k, x, y, Q, rfl, by simp, hy, rfl⟩
    rw [spell_cons] at h
    rcases List.append_eq_append_iff.1 h with ⟨c, rfl, hc⟩ | ⟨c, hp, rfl⟩
    · exact hlater c hc rfl
    · cases c with
      | nil => exact hlater [] rfl (by simpa using hp.symm)
      | cons d c => exact ⟨[], p.1, a, d :: c, ps, by rw [← hp]; rfl, rfl, by simp, rfl⟩

theorem byteSize_spell_concat (ps : List Part) (k : Kind) (u : Text) :
    (spell (ps ++ [(k, u)])).byteSize = (spell ps).byteSize + u.byteSize := by
  simp

end Part

namespace Token

/-- Where a laid out token comes from. -/
theorem mem_layOut_iff {pos : Nat} {ps : List Part} {token : Token} : token ∈ layOut pos ps ↔
    ∃ P u Q, ps = P ++ (token.kind, u) :: Q ∧
      token = covering token.kind (pos + (Part.spell P).byteSize) u.byteSize := by
  constructor
  · intro h
    induction ps generalizing pos with
    | nil => simp at h
    | cons p ps ih =>
      rw [layOut_cons] at h
      rcases List.mem_cons.1 h with rfl | h
      · exact ⟨[], p.2, ps, rfl, rfl⟩
      · obtain ⟨P, u, Q, hps, htoken⟩ := ih h
        refine ⟨p :: P, u, Q, by rw [hps]; rfl, ?_⟩
        rwa [Part.spell_cons, Text.byteSize_append, ← Nat.add_assoc]
  · rintro ⟨P, u, Q, rfl, htoken⟩
    rw [layOut_append, layOut_cons, htoken]
    simp [covering]

end Token

/-! ## Lexemes in the whole text -/

namespace Pass

/-- A part that is not plain belongs to a lexeme that fits where it stands in the whole text. -/
theorem exists_fits_of_partsThrough {ps : List Pass} {t w : Text} {k : Kind} {P Q : List Part}
    (h : partsThrough ps t = P ++ (k, w) :: Q) (hk : k ≠ .plain) :
    ∃ (l : Lexeme) (P' L R Q' : List Part), l.pass ∈ ps ∧ l.parts = L ++ (k, w) :: R ∧
      P = P' ++ L ∧ Q = R ++ Q' ∧
      l.Fits (Part.spell P').getLast? (Part.spell Q').head? := by
  induction ps generalizing t P Q with
  | nil =>
    rcases P with _ | ⟨p, P⟩
    · obtain ⟨⟨rfl, -⟩, -⟩ := by simpa [partsThrough] using h
      exact absurd rfl hk
    · simp [partsThrough] at h
  | cons p ps ih =>
    obtain ⟨a, piece, b, L, R, hpieces, hpiece, rfl, rfl⟩ := exists_of_flatMap_eq_append h
    have hspell := Piece.spell_flatMap_parts (spell_partsThrough ps)
    cases piece with
    | found l =>
      obtain ⟨hpass, hfits⟩ := fits_of_pieces hpieces
      refine ⟨l, _, L, R, _, by simp [hpass], hpiece, rfl, rfl, ?_⟩
      rwa [hspell, hspell]
    | gap g =>
      obtain ⟨l, P', L', R', Q', hpass, hparts, rfl, rfl, hfits⟩ := ih hpiece
      refine ⟨l, _, L', R', _, List.mem_cons_of_mem p hpass, hparts,
        (List.append_assoc _ P' L').symm, List.append_assoc R' Q' _, ?_⟩
      -- the lexeme fits in the gap, and no word runs across the ends of the gap
      have hg : g = Part.spell P' ++ l.text ++ Part.spell Q' := by
        have hspell_gap := spell_partsThrough ps g
        rw [show partsThrough ps g = _ from hpiece] at hspell_gap
        rw [← hspell_gap, ← l.spell_parts, hparts]
        simp
      obtain ⟨hleft, hright⟩ := apart_of_pieces hpieces
      rw [hg] at hleft hright
      rw [Part.spell_append, Part.spell_append, hspell, hspell, List.getLast?_append]
      exact hfits.extend hleft hright

end Pass

/-! ## Runs of word characters -/

namespace Text

/-- The text `w` stands at `s` as a maximal run of word characters. -/
def WordRun (t : Text) (s : Span) (w : Text) : Prop :=
  ∃ before after, t = before ++ w ++ after ∧
    s = ⟨before.byteSize, before.byteSize + w.byteSize⟩ ∧
    w ≠ [] ∧ (∀ c ∈ w, isWordChar c = true) ∧
    before.getLast?.any isWordChar = false ∧ after.head?.any isWordChar = false

theorem any_head?_of_forall {w : Text} (hne : w ≠ []) (h : ∀ c ∈ w, isWordChar c = true) :
    w.head?.any isWordChar = true := by
  cases w with
  | nil => exact absurd rfl hne
  | cons c w => simpa using h c List.mem_cons_self

theorem any_getLast?_of_forall {w : Text} (hne : w ≠ []) (h : ∀ c ∈ w, isWordChar c = true) :
    w.getLast?.any isWordChar = true := by
  rw [List.getLast?_eq_some_getLast hne]
  exact h _ (List.getLast_mem hne)

theorem any_of_or {a b : Option Char} (h : (a.or b).any isWordChar = false) :
    a.any isWordChar = false := by
  cases a with
  | none => rfl
  | some c => exact h

/-- Two runs of word characters at the beginning of a text that are not followed by one are the
same. -/
theorem wordRun_unique {w a w' a' : Text} (h : w ++ a = w' ++ a')
    (hw : ∀ c ∈ w, isWordChar c = true) (ha : a.head?.any isWordChar = false)
    (hw' : ∀ c ∈ w', isWordChar c = true) (ha' : a'.head?.any isWordChar = false) : w = w' := by
  have hrun : ∀ {w a : Text}, (∀ c ∈ w, isWordChar c = true) → a.head?.any isWordChar = false →
      (w ++ a).takeWhile isWordChar = w := by
    intro w a hw ha
    cases a with
    | nil => rw [List.append_nil, List.takeWhile_eq_self_iff.2 hw]
    | cons c a => exact takeWhile_run hw (by simpa using ha) a
  rw [← hrun hw ha, h, hrun hw' ha']

end Text

namespace Lexeme

theorem isWordChar_of_mem_keywords {w : Text} (h : w ∈ keywords) :
    ∀ c ∈ w, Text.isWordChar c = true := by
  have hall : keywords.all (fun w => w.all Text.isWordChar) = true := by decide
  intro c hc
  exact List.all_eq_true.1 (List.all_eq_true.1 hall w h) c hc

/-- A reserved word fits between neighbours that belong to no word. -/
theorem fits_keyword_iff {before after : Option Char} {w : Text} :
    Fits before (.keyword w) after ↔
      w ∈ keywords ∧ before.any Text.isWordChar = false ∧ after.any Text.isWordChar = false := by
  refine and_congr_right ?_
  intro hw
  have hne := ne_nil_of_mem_keywords hw
  have hhead := Text.any_head?_of_forall hne (isWordChar_of_mem_keywords hw)
  have hlast := Text.any_getLast?_of_forall hne (isWordChar_of_mem_keywords hw)
  simp [Text.isBoundary, hhead, hlast]

end Lexeme

namespace Pass

/-- A part that is neither plain nor half of a name is a whole lexeme, which fits where it stands. -/
theorem fits_of_part {ps : List Pass} {t w : Text} {k : Kind} {P Q : List Part}
    (h : partsThrough ps t = P ++ (k, w) :: Q)
    (hk : k ≠ .plain ∧ k ≠ .namespacePart ∧ k ≠ .localPart) :
    ∃ l : Lexeme, l.parts = [(k, w)] ∧ l.Fits (Part.spell P).getLast? (Part.spell Q).head? := by
  obtain ⟨l, P', L, R, Q', -, hparts, rfl, rfl, hfits⟩ := exists_fits_of_partsThrough h hk.1
  cases l with
  | prefixedName space name =>
    have hmem : (k, w) ∈ Lexeme.parts (.prefixedName space name) := by simp [hparts]
    simp only [Lexeme.parts, List.mem_cons, Prod.mk.injEq, List.not_mem_nil, or_false] at hmem
    rcases hmem with ⟨rfl, -⟩ | ⟨rfl, -⟩ | ⟨rfl, -⟩ <;> simp at hk
  | uri | string | languageTag | keyword =>
    rcases L with _ | ⟨x, L⟩
    · obtain ⟨-, rfl⟩ := List.cons.inj hparts
      exact ⟨_, hparts, by simpa using hfits⟩
    · simp [Lexeme.parts] at hparts

theorem fits_of_keyword_part {ps : List Pass} {t w : Text} {P Q : List Part}
    (h : partsThrough ps t = P ++ (.keyword, w) :: Q) :
    Lexeme.Fits (Part.spell P).getLast? (.keyword w) (Part.spell Q).head? := by
  obtain ⟨l, hparts, hfits⟩ := fits_of_part h (by decide)
  cases l with
  | keyword word =>
    obtain rfl : word = w := by simpa [Lexeme.parts] using hparts
    exact hfits
  | uri | string | prefixedName | languageTag => simp [Lexeme.parts] at hparts

end Pass

/-! ## Reserved words of a line -/

/-- Whether two spans have a byte in common. -/
def Span.Overlaps (a b : Span) : Prop := a.start < b.stop ∧ b.start < a.stop

instance (a b : Span) : Decidable (a.Overlaps b) := inferInstanceAs (Decidable (_ ∧ _))

/-- Two tokens of which one is laid out behind the other do not overlap. -/
theorem Token.not_overlaps_of_split {P Q P' Q' : List Part} {k k' : Kind} {u u' : Text}
    (h : P ++ (k, u) :: Q = P' ++ (k', u') :: Q') (hk : k ≠ k') :
    ¬ (covering k (Part.spell P).byteSize u.byteSize).span.Overlaps
      (covering k' (Part.spell P').byteSize u'.byteSize).span := by
  rintro ⟨hlt, hlt'⟩
  simp only [covering] at hlt hlt'
  rcases List.append_eq_append_iff.1 h with ⟨c, rfl, hc⟩ | ⟨c, rfl, hc⟩
  · cases c with
    | nil => exact hk (by simpa using congrArg (fun ps => ps.head?.map Prod.fst) hc)
    | cons d c =>
      obtain ⟨rfl, -⟩ := List.cons.inj hc
      simp only [Part.spell_append, Part.spell_cons, Text.byteSize_append] at hlt'
      omega
  · cases c with
    | nil => exact hk (by simpa using congrArg (fun ps => ps.head?.map Prod.fst) hc.symm)
    | cons d c =>
      obtain ⟨rfl, -⟩ := List.cons.inj hc
      simp only [Part.spell_append, Part.spell_cons, Text.byteSize_append] at hlt
      omega

namespace Line

/-- The categories whose text later passes do not see: all but plain text, reserved words and
comments. -/
def taken : List Kind := [.uri, .string, .namespacePart, .localPart, .languageTag]

variable {line w : Text} {P Q : List Part}

theorem wordRun_of_keyword_part (h : Pass.uri.parts line = P ++ (.keyword, w) :: Q) :
    w ∈ Lexeme.keywords ∧ line.WordRun ⟨(Part.spell P).byteSize,
      (Part.spell P).byteSize + w.byteSize⟩ w := by
  obtain ⟨hw, hbefore, hafter⟩ := Lexeme.fits_keyword_iff.1 (Pass.fits_of_keyword_part h)
  refine ⟨hw, Part.spell P, Part.spell Q, ?_, rfl, Lexeme.ne_nil_of_mem_keywords hw,
    Lexeme.isWordChar_of_mem_keywords hw, hbefore, hafter⟩
  rw [← Pass.uri.spell_parts line, h]
  simp

theorem kind_of_not_mem_taken {k : Kind} {u : Text} (h : (k, u) ∈ Pass.uri.parts line)
    (hk : k ∉ taken) : k = .plain ∨ k = .keyword := by
  have hcomment : k ≠ .comment := Pass.kind_ne_comment_of_mem_partsThrough h
  cases k <;> simp_all [taken]

/-- The texts `a` and `b` enclose a run of word characters that spells a reserved word and touches
nothing taken by the other passes. -/
structure Untouched (line a w b : Text) : Prop where
  /-- The three texts make up the line. -/
  text : line = a ++ w ++ b
  /-- The run spells a reserved word. -/
  mem : w ∈ Lexeme.keywords
  /-- No word character stands before the run. -/
  left : a.getLast?.any Text.isWordChar = false
  /-- No word character stands behind the run. -/
  right : b.head?.any Text.isWordChar = false
  /-- A part that was taken and begins before the end of the run ends before the run. -/
  free : ∀ P k u Q, Pass.uri.parts line = P ++ (k, u) :: Q → k ∈ taken →
    (Part.spell P).byteSize < (a ++ w).byteSize → (Part.spell (P ++ [(k, u)])).byteSize ≤ a.byteSize

namespace Untouched

variable {a b x y : Text} {k : Kind}

theorem kind_of_part (h : Untouched line a w b) {u : Text}
    (hparts : Pass.uri.parts line = P ++ (k, u) :: Q)
    (hbegin : (Part.spell P).byteSize < (a ++ w).byteSize)
    (hend : a.byteSize < (Part.spell (P ++ [(k, u)])).byteSize) : k = .plain ∨ k = .keyword := by
  have hmem : (k, u) ∈ Pass.uri.parts line := by simp [hparts]
  refine kind_of_not_mem_taken hmem ?_
  intro hk
  have := h.free P k u Q hparts hk hbegin
  omega

/-- The run does not lie in a plain part, because a plain part is clear of reserved words. -/
theorem not_inside_plain {c : Text} (h : Untouched line (Part.spell P ++ x) w (c ++ Part.spell Q))
    (hparts : Pass.uri.parts line = P ++ (.plain, x ++ (w ++ c)) :: Q) : False := by
  have hmem : (Kind.plain, x ++ (w ++ c)) ∈ Pass.uri.parts line := by simp [hparts]
  have hclear : Pass.keyword.Clear (x ++ (w ++ c)) :=
    Pass.clear_of_mem_partsThrough hmem .keyword (by decide)
  rw [← List.append_assoc] at hclear
  refine hclear.not_fits (l := .keyword w) (Lexeme.fits_keyword_iff.2 ⟨h.mem, ?_, ?_⟩)
  · have hleft := h.left
    rw [List.getLast?_append] at hleft
    exact Text.any_of_or hleft
  · have hright := h.right
    rw [List.head?_append] at hright
    exact Text.any_of_or hright

/-- The run does not begin in a plain part and go on behind it: what stands there is not plain, not
taken, and no reserved word, because a word character stands before it. -/
theorem not_across_plain {c : Text} (h : Untouched line (Part.spell P ++ x) (y ++ c) b)
    (hparts : Pass.uri.parts line = P ++ (.plain, x ++ y) :: Q) (hy : y ≠ []) (hc : c ≠ [])
    (hQ : Part.spell Q = c ++ b) : False := by
  have hysize := Text.byteSize_pos hy
  have hcsize := Text.byteSize_pos hc
  rcases Q with _ | ⟨⟨k, u⟩, Q⟩
  · simp_all
  have hsplit : Pass.uri.parts line = (P ++ [(.plain, x ++ y)]) ++ (k, u) :: Q := by simp [hparts]
  have hkind : k = .plain ∨ k = .keyword := by
    refine h.kind_of_part hsplit ?_ ?_
    · simp only [Part.byteSize_spell_concat, Text.byteSize_append]
      omega
    · simp only [Part.byteSize_spell_concat, Text.byteSize_append]
      omega
  rcases hkind with rfl | rfl
  · have hsep := Pass.separated_partsThrough Pass.uri.onward line
    rw [show Pass.partsThrough Pass.uri.onward line = _ from hparts, Part.Separated,
      List.isChain_append] at hsep
    exact (List.isChain_cons_cons.1 hsep.2.1).1 ⟨rfl, rfl⟩
  · obtain ⟨-, hbefore, -⟩ := Lexeme.fits_keyword_iff.1 (Pass.fits_of_keyword_part hsplit)
    have hlast : (Part.spell (P ++ [(.plain, x ++ y)])).getLast? = y.getLast? := by
      rw [Part.spell_append, Part.spell_cons, Part.spell_nil, List.append_nil,
        ← List.append_assoc, List.getLast?_append_of_ne_nil _ hy]
    rw [hlast, Text.any_getLast?_of_forall hy] at hbefore
    · cases hbefore
    · intro d hd
      exact Lexeme.isWordChar_of_mem_keywords h.mem d (List.mem_append_left c hd)

/-- A run that touches nothing taken is a part of the line, and a reserved word. -/
theorem exists_keyword_part (h : Untouched line a w b) :
    ∃ P Q, Pass.uri.parts line = P ++ (.keyword, w) :: Q ∧ a = Part.spell P := by
  have hwne := Lexeme.ne_nil_of_mem_keywords h.mem
  have hwsize := Text.byteSize_pos hwne
  have hspell : Part.spell (Pass.uri.parts line) = a ++ (w ++ b) := by
    rw [Pass.spell_parts, h.text, List.append_assoc]
  -- the part in which the first character of the run stands
  obtain ⟨P, k, x, y, Q, hparts, rfl, hy, hwb⟩ :=
    Part.exists_of_spell_eq_append hspell (by simp [hwne])
  have hysize := Text.byteSize_pos hy
  have hkind : k = .plain ∨ k = .keyword := by
    refine h.kind_of_part hparts ?_ ?_
    · simp only [Text.byteSize_append]
      omega
    · simp only [Part.byteSize_spell_concat, Text.byteSize_append]
      omega
  rcases hkind with rfl | rfl
  · rcases List.append_eq_append_iff.1 hwb with ⟨c, rfl, rfl⟩ | ⟨c, rfl, hQ⟩
    · exact absurd hparts h.not_inside_plain
    · cases c with
      | nil =>
        rw [List.append_nil] at h
        rw [List.nil_append] at hQ
        subst hQ
        exact absurd hparts (by simpa using h.not_inside_plain (c := []))
      | cons d c => exact (h.not_across_plain hparts hy (List.cons_ne_nil d c) hQ).elim
  · obtain ⟨hmem, hbefore, hafter⟩ := Lexeme.fits_keyword_iff.1 (Pass.fits_of_keyword_part hparts)
    have hchars := Lexeme.isWordChar_of_mem_keywords hmem
    cases hx : x with
    | nil =>
      obtain rfl := hx
      have hyw : y = w := Text.wordRun_unique hwb.symm (by simpa using hchars) hafter
        (Lexeme.isWordChar_of_mem_keywords h.mem) h.right
      subst hyw
      exact ⟨P, Q, by simpa using hparts, by simp⟩
    | cons d x' =>
      -- a word character of the reserved word would stand before the run
      have hleft := h.left
      rw [List.getLast?_append_of_ne_nil _ (by simp [hx]),
        Text.any_getLast?_of_forall (by simp [hx])] at hleft
      · cases hleft
      · intro e he
        exact hchars e (List.mem_append_left y he)

end Untouched

theorem parts_of_comment (h : isCommentText line = true) : parts line = [(.comment, line)] := by
  have hne : line ≠ [] := by
    rintro rfl
    cases h
  rw [parts, if_neg (by simpa using hne), if_pos h]

theorem parts_of_not_comment (h : isCommentText line = false) : parts line = Pass.uri.parts line := by
  unfold parts
  split
  · rename_i hempty
    obtain rfl : line = [] := by simpa using hempty
    simp [Pass.parts, Pass.onward, Pass.order, Pass.partsThrough, Pass.pieces, Pass.piecesAfter]
  · simp [h]

theorem mem_classify_iff (h : isCommentText line = false) {token : Token} :
    token ∈ classify 0 line ↔ ∃ P u Q, Pass.uri.parts line = P ++ (token.kind, u) :: Q ∧
      token = .covering token.kind (Part.spell P).byteSize u.byteSize := by
  rw [classify_eq_layOut, parts_of_not_comment h, Token.mem_layOut_iff]
  simp only [Nat.zero_add]

/-- The reserved words of a line are its maximal runs of word characters that spell one and overlap
nothing taken by the other passes. -/
theorem mem_keyword_iff (h : isCommentText line = false) (s : Span) :
    ⟨.keyword, s⟩ ∈ classify 0 line ↔ (∃ w ∈ Lexeme.keywords, line.WordRun s w) ∧
      ∀ token ∈ classify 0 line, token.kind ∈ taken → ¬ token.span.Overlaps s := by
  constructor
  · intro hmem
    obtain ⟨P, w, Q, hparts, htoken⟩ := (mem_classify_iff h).1 hmem
    obtain rfl : s = ⟨(Part.spell P).byteSize, (Part.spell P).byteSize + w.byteSize⟩ :=
      congrArg Token.span htoken
    obtain ⟨hw, hrun⟩ := wordRun_of_keyword_part hparts
    refine ⟨⟨w, hw, hrun⟩, ?_⟩
    intro token hother hkind
    obtain ⟨P', u, Q', hparts', htoken'⟩ := (mem_classify_iff h).1 hother
    have hne : token.kind ≠ .keyword := by
      intro heq
      rw [heq] at hkind
      exact absurd hkind (by decide)
    have hsep := Token.not_overlaps_of_split (hparts'.symm.trans hparts) hne
    rwa [← htoken'] at hsep
  · rintro ⟨⟨w, hw, a, b, hline, rfl, -, -, ha, hb⟩, hfree⟩
    have huntouched : Untouched line a w b := by
      refine ⟨hline, hw, ha, hb, ?_⟩
      intro P k u Q hparts hk hbegin
      have hmem : Token.covering k (Part.spell P).byteSize u.byteSize ∈ classify 0 line :=
        (mem_classify_iff h).2 ⟨P, u, Q, hparts, rfl⟩
      have hnot := hfree _ hmem hk
      rw [Text.byteSize_append] at hbegin
      rw [Part.byteSize_spell_concat]
      by_contra hlt
      exact hnot ⟨hbegin, Nat.lt_of_not_le hlt⟩
    obtain ⟨P, Q, hparts, rfl⟩ := huntouched.exists_keyword_part
    exact (mem_classify_iff h).2 ⟨P, w, Q, hparts, rfl⟩

end Line

end TurtleMarkup
