import TurtleMarkup.Proofs.Independence
import TurtleMarkup.Proofs.Pattern

/-!
# A pass finds the leftmost greedy matches of its pattern

The matches of a pass in a text are the one result of the leftmost greedy search
for its pattern (`Pass.find_is_search`).  The induction is on the pieces of the
text, with what stands before them as `pre`: a gap moves the search on without
a match (`Pattern.Search.weaken`), a lexeme is the next match.

The same matches decide the classification.  `Pass.sweep` goes through a list of
matches, hands what lies between them to the next pass and turns each match into
tokens; over the matches of the search it gives the tokens of the pass
(`Pass.classify_eq_sweep`).  What one pass makes of its matches leads to what the
whole chain makes of a text by `Pass.onward_induction`.
-/

namespace TurtleMarkup

/-! ## Matches and lexemes -/

/-- A lexeme is determined by its pass and its text. -/
theorem Lexeme.Fits.eq_of_text_eq {l l' : Lexeme} {before after before' after' : Option Char}
    (h : l.Fits before after) (h' : l'.Fits before' after') (hpass : l.pass = l'.pass)
    (htext : l.text = l'.text) : l = l' := by
  cases l with
  | prefixedName x y =>
    cases l' <;> cases hpass
    rename_i x' y'
    -- the part before the colon is the run of letters and digits
    have hrun : ∀ {x y : Text} {before after : Option Char},
        Fits before (.prefixedName x y) after →
          (Lexeme.text (.prefixedName x y)).takeWhile Char.isAlphanum = x := by
      intro x y before after h
      have hcolon : Char.isAlphanum ':' = false := by decide
      have hall : ∀ c ∈ x, c.isAlphanum = true :=
        fun c hc => h.2.1.of_mem (fun _ => Text.isAlphanum_of_isAlpha) hc
      rw [Lexeme.text, Text.takeWhile_run hall hcolon]
    obtain rfl : x = x' := by rw [← hrun h, ← hrun h', htext]
    simpa [text] using htext
  | uri | string | languageTag | keyword =>
    cases l' <;> cases hpass
    simpa [text] using htext

namespace Pass

variable {p : Pass} {t : Text} {s e : Nat} {gs : List Span}

theorem matchesAt_pattern_iff : p.pattern.MatchesAt t s e gs ↔
    ∃ (before : Text) (l : Lexeme) (after : Text), l.pass = p ∧ t = before ++ l.text ++ after ∧
      s = before.byteSize ∧ e = before.byteSize + l.text.byteSize ∧
      gs = l.captures before.byteSize ∧ l.Fits before.getLast? after.head? := by
  constructor
  · rintro ⟨before, body, after, rfl, rfl, rfl, h⟩
    obtain ⟨l, hpass, rfl, rfl, hfits⟩ := reads_pattern_iff.1 h
    exact ⟨before, l, after, hpass, rfl, rfl, rfl, rfl, hfits⟩
  · rintro ⟨before, l, after, hpass, rfl, rfl, rfl, rfl, hfits⟩
    exact ⟨before, l.text, after, rfl, rfl, rfl, reads_pattern_iff.2 ⟨l, hpass, rfl, rfl, hfits⟩⟩

theorem lt_of_matchesAt (h : p.pattern.MatchesAt t s e gs) : s < e := by
  obtain ⟨before, l, after, -, -, rfl, rfl, -, hfits⟩ := matchesAt_pattern_iff.1 h
  exact Nat.lt_add_of_pos_right (Text.byteSize_pos hfits.text_ne_nil)

/-- The ends of a match determine its groups. -/
theorem groups_unique (s e : Nat) (gs gs' : List Span) (h : p.pattern.MatchesAt t s e gs)
    (h' : p.pattern.MatchesAt t s e gs') : gs = gs' := by
  obtain ⟨before, l, after, rfl, htext, rfl, rfl, rfl, hfits⟩ := matchesAt_pattern_iff.1 h
  obtain ⟨before', l', after', hpass, htext', hs, he, rfl, hfits'⟩ := matchesAt_pattern_iff.1 h'
  rw [htext, List.append_assoc, List.append_assoc] at htext'
  obtain ⟨rfl, hrest⟩ := Text.append_inj_of_byteSize_eq htext' hs
  obtain ⟨hl, -⟩ := Text.append_inj_of_byteSize_eq hrest (by omega)
  rw [hfits.eq_of_text_eq hfits' hpass.symm hl]

/-- Where a stretch is free of lexemes, no match begins. -/
theorem Free.le_of_matchesAt {pre g rest : Text} (h : p.Free pre.getLast? g rest)
    (hle : pre.byteSize ≤ s) (hmatch : p.pattern.MatchesAt (pre ++ g ++ rest) s e gs) :
    (pre ++ g).byteSize ≤ s := by
  obtain ⟨before, l, after, rfl, htext, rfl, -, -, hfits⟩ := matchesAt_pattern_iff.1 hmatch
  by_contra hlt
  rw [List.append_assoc before] at htext
  obtain ⟨v, hv, hrest⟩ := Text.exists_append_of_byteSize_le htext.symm (by omega)
  obtain ⟨u, rfl, rfl⟩ := Text.exists_append_of_byteSize_le hv hle
  -- the match begins behind `pre ++ u`, with `v` still in the stretch
  have hvne : v ≠ [] := by
    rintro rfl
    simp at hlt
  have hnone := h u v rfl hvne
  rw [← List.getLast?_append, ← hrest] at hnone
  exact not_fits_of_lexeme?_eq_none hnone hfits

/-- What the recogniser finds is the longest match from there. -/
theorem le_of_matchesAt {pre rest : Text} {l : Lexeme}
    (h : p.lexeme? pre.getLast? (l.text ++ rest) = some (l, rest))
    (hmatch : p.pattern.MatchesAt (pre ++ (l.text ++ rest)) pre.byteSize e gs) :
    e ≤ pre.byteSize + l.text.byteSize := by
  obtain ⟨before, l', after, rfl, htext, hs, rfl, -, hfits⟩ := matchesAt_pattern_iff.1 hmatch
  rw [List.append_assoc before] at htext
  obtain ⟨rfl, hrest⟩ := Text.append_inj_of_byteSize_eq htext hs
  obtain ⟨l'', rest'', hfound, hlen⟩ := lexeme?_complete hfits
  rw [← hrest, h] at hfound
  obtain ⟨rfl, rfl⟩ : l = l'' ∧ rest = rest'' := by simpa using hfound
  -- the shorter of two beginnings takes fewer bytes
  rcases List.append_eq_append_iff.1 hrest with ⟨c, hc, -⟩ | ⟨c, hc, -⟩
  · rw [hc, List.length_append] at hlen
    obtain rfl : c = [] := List.length_eq_zero_iff.1 (by omega)
    simp [hc]
  · rw [hc, Text.byteSize_append]
    omega

/-! ## The search -/

theorem Cuts.search {ps : List Piece} (pre : Text) (h : p.Cuts pre.getLast? ps) :
    p.pattern.Search (pre ++ Piece.join ps) pre.byteSize (Piece.groupsFrom pre.byteSize ps) := by
  induction ps generalizing pre with
  | nil =>
    refine .done ?_
    intro s e gs hs hmatch
    obtain ⟨before, l, after, -, htext, rfl, -, -, hfits⟩ := matchesAt_pattern_iff.1 hmatch
    have hpos := Text.byteSize_pos hfits.text_ne_nil
    have hsize := congrArg Text.byteSize htext
    simp only [Piece.join_nil, List.append_nil, Text.byteSize_append] at hsize
    omega
  | cons piece ps ih =>
    cases piece with
    | gap g =>
      obtain ⟨hfree, hps⟩ := h
      rw [← List.getLast?_append] at hps
      have hsearch := ih (pre ++ g) hps
      rw [List.append_assoc, Text.byteSize_append] at hsearch
      refine hsearch.weaken (Nat.le_add_right _ _) ?_
      intro s e gs hs hmatch
      rw [← List.append_assoc] at hmatch
      rw [← Text.byteSize_append]
      exact hfree.le_of_matchesAt hs hmatch
    | found l =>
      obtain ⟨hfound, hps⟩ := h
      rw [← List.getLast?_append] at hps
      have hsearch := ih (pre ++ l.text) hps
      rw [List.append_assoc, Text.byteSize_append] at hsearch
      rw [Piece.groupsFrom, Lexeme.map_shift_groups]
      refine .next ?_ (le_refl _) (fun s' _ _ hs' _ => hs') ?_ hsearch
      · exact matchesAt_pattern_iff.2 ⟨pre, l, Piece.join ps, pass_of_lexeme? hfound,
          by simp, rfl, rfl, rfl, fits_of_lexeme? hfound⟩
      · intro e' gs' hmatch
        exact le_of_matchesAt hfound hmatch

theorem search_find (p : Pass) (t : Text) : p.pattern.Search t 0 (p.find t) := by
  have h := (p.cuts_piecesAfter none t).search []
  rwa [join_piecesAfter] at h

theorem find_is_unique (p : Pass) (t : Text) (ms : List (List Span)) :
    p.pattern.Search t 0 ms ↔ ms = p.find t := by
  constructor
  · intro h
    exact h.unique groups_unique (p.search_find t)
  · rintro rfl
    exact p.search_find t

end Pass

/-- Every match of a search has the places of its own and its groups between characters. -/
theorem Pattern.Search.isCharBoundary {r : Pattern} {t : Text} {pos : Nat} {ms : List (List Span)}
    (h : r.Search t pos ms) : ∀ m ∈ ms, ∀ g ∈ m,
      t.IsCharBoundary g.start ∧ t.IsCharBoundary g.stop := by
  induction h with
  | done => simp
  | next hfound _ _ _ _ ih =>
    intro m hm g hg
    rcases List.mem_cons.1 hm with rfl | hm
    · obtain ⟨before, body, after, rfl, rfl, rfl, hreads⟩ := hfound
      rcases List.mem_cons.1 hg with rfl | hg
      · exact ⟨⟨before, body ++ after, by simp, rfl⟩, ⟨before ++ body, after, rfl, by simp⟩⟩
      · exact isCharBoundary_of_reads hreads g hg
    · exact ih m hm g hg

/-! ## Classification by matches -/

namespace Pass

/-- The tokens of a match, from its place and those of its groups. -/
def emit : Pass → List Span → List Token
  | .uri, whole :: _ => [⟨.uri, whole⟩]
  | .string, whole :: _ => [⟨.string, whole⟩]
  | .prefixedName, _ :: space :: name :: _ =>
    [⟨.namespacePart, space⟩, ⟨.plain, ⟨space.stop, name.start⟩⟩, ⟨.localPart, name⟩]
  | .languageTag, whole :: _ => [⟨.languageTag, whole⟩]
  | .keyword, whole :: _ => [⟨.keyword, whole⟩]
  | _, _ => []

/-- The tokens of a gap that a pass hands on. -/
def forward (p : Pass) (base : Nat) (gap : Text) : List Token :=
  match p.next with
  | some q => q.classify base gap
  | none => [.covering .plain base gap.byteSize]

/-- The tokens of the text `t` at `base` from the byte `last` on, where the pass has the given
matches: each match becomes tokens, and what lies before, between and behind them is handed on,
unless it is empty. -/
def sweep (p : Pass) (base : Nat) (t : Text) (last : Nat) : List (List Span) → List Token
  | [] =>
    if last < t.byteSize then p.forward (base + last) (Span.slice ⟨last, t.byteSize⟩ t) else []
  | [] :: ms => p.sweep base t last ms
  | (whole :: groups) :: ms =>
    (if last < whole.start then p.forward (base + last) (Span.slice ⟨last, whole.start⟩ t) else [])
      ++ (p.emit (whole :: groups)).map (Token.shift base) ++ p.sweep base t whole.stop ms

theorem emit_groups (l : Lexeme) (pos : Nat) :
    l.pass.emit (l.groups.map (Span.shift pos)) = l.tokens pos := by
  rw [Lexeme.map_shift_groups]
  cases l with
  | prefixedName space name =>
    simp [Lexeme.pass, Lexeme.captures_prefixedName, emit, Lexeme.tokens, Token.covering]
  | uri | string | languageTag | keyword => rfl

/-- The tokens of a match that begins at `pos`, in a text at `base`. -/
theorem map_shift_emit_groups (l : Lexeme) (base pos : Nat) :
    (l.pass.emit (l.groups.map (Span.shift pos))).map (Token.shift base)
      = l.tokens (base + pos) := by
  rw [emit_groups, l.tokens_eq_layOut, l.tokens_eq_layOut, Nat.add_comm, Token.layOut_add]

/-- A pass and those behind it: the chain of passes that hand gaps on to each other. -/
theorem onward_eq_cons (p : Pass) : p.onward = p :: p.next.elim [] onward := by
  cases p <;> rfl

/-- What holds of no passes, and of a pass and those behind it if it holds of those behind it, holds
of every chain of passes. -/
theorem onward_induction {motive : List Pass → (Nat → Text → List Token) → Prop}
    (nil : motive [] fun base t => [.covering .plain base t.byteSize])
    (cons : ∀ (p : Pass) (ps : List Pass), motive ps p.forward → motive (p :: ps) p.classify)
    (p : Pass) : motive p.onward p.classify := by
  -- by induction on the passes that are still to run
  induction h : p.onward generalizing p with
  | nil => simp [onward_eq_cons] at h
  | cons q ps ih =>
    rw [onward_eq_cons, List.cons.injEq] at h
    obtain ⟨rfl, hps⟩ := h
    apply cons
    unfold forward
    cases hnext : p.next with
    | none =>
      obtain rfl : [] = ps := by simpa [hnext] using hps
      exact nil
    | some q => exact ih q (by simpa [hnext] using hps)

theorem tokensThrough_tail_onward (p : Pass) : tokensThrough p.onward.tail = p.forward := by
  cases p <;> rfl

theorem classify_eq_tokensFrom (p : Pass) (base : Nat) (t : Text) :
    p.classify base t = Piece.tokensFrom p.forward base (p.pieces t) := by
  have honward : p.onward = p :: p.onward.tail := by cases p <;> rfl
  rw [classify, honward, tokensThrough, tokensThrough_tail_onward]

/-- A gap up to the next match, or to the end of the text, is handed on first. -/
theorem sweep_gap {p : Pass} {base last pos : Nat} {t : Text} {ms : List (List Span)}
    (hlt : last < pos)
    (hms : ms = [] ∧ pos = t.byteSize ∨ ∃ e gs ms', ms = (⟨pos, e⟩ :: gs) :: ms') :
    p.sweep base t last ms
      = p.forward (base + last) (Span.slice ⟨last, pos⟩ t) ++ p.sweep base t pos ms := by
  rcases hms with ⟨rfl, rfl⟩ | ⟨e, gs, ms', rfl⟩
  · simp [sweep, hlt]
  · simp [sweep, hlt]

/-- A gap ends where the text ends or the next lexeme begins. -/
theorem groupsFrom_behind_gap {t pre g : Text} {ps : List Piece}
    (htext : t = pre ++ Piece.join (.gap g :: ps)) (hsep : Piece.Separated (.gap g :: ps)) :
    Piece.groupsFrom (pre.byteSize + g.byteSize) ps = [] ∧
        pre.byteSize + g.byteSize = t.byteSize ∨
      ∃ e gs ms, Piece.groupsFrom (pre.byteSize + g.byteSize) ps
        = (⟨pre.byteSize + g.byteSize, e⟩ :: gs) :: ms := by
  cases ps with
  | nil => exact Or.inl ⟨rfl, by rw [htext]; simp⟩
  | cons next ps =>
    cases next with
    | gap g' => exact absurd ⟨rfl, rfl⟩ ((List.isChain_cons.1 hsep).1 (.gap g') (by simp))
    | found l => exact Or.inr ⟨_, _, _, by rw [Piece.groupsFrom, Lexeme.map_shift_groups]⟩

theorem tokensFrom_eq_sweep {p : Pass} {base : Nat} {t : Text} {ps : List Piece} (pre : Text)
    (htext : t = pre ++ Piece.join ps) (hsep : Piece.Separated ps)
    (hgap : ∀ g, .gap g ∈ ps → g ≠ []) (hpass : ∀ l, .found l ∈ ps → l.pass = p) :
    Piece.tokensFrom p.forward (base + pre.byteSize) ps
      = p.sweep base t pre.byteSize (Piece.groupsFrom pre.byteSize ps) := by
  induction ps generalizing pre with
  | nil =>
    obtain rfl : t = pre := by simpa using htext
    simp [Piece.tokensFrom, Piece.groupsFrom, sweep]
  | cons piece ps ih =>
    have hrest := ih (pre ++ piece.text) (by rw [htext]; simp) hsep.tail
      (fun g hg => hgap g (List.mem_cons_of_mem _ hg))
      (fun l hl => hpass l (List.mem_cons_of_mem _ hl))
    rw [Text.byteSize_append, ← Nat.add_assoc] at hrest
    cases piece with
    | found l =>
      obtain rfl : l.pass = p := hpass l List.mem_cons_self
      rw [Piece.text_found] at hrest
      rw [Piece.tokensFrom, Piece.groupsFrom, hrest, Lexeme.map_shift_groups, sweep,
        if_neg (Nat.lt_irrefl _), ← Lexeme.map_shift_groups, map_shift_emit_groups,
        List.nil_append]
    | gap g =>
      have hpos := Text.byteSize_pos (hgap g List.mem_cons_self)
      have hslice : Span.slice ⟨pre.byteSize, pre.byteSize + g.byteSize⟩ t = g :=
        Span.Covers.slice_eq ⟨pre, Piece.join ps, by rw [htext]; simp, rfl, rfl⟩
      rw [Piece.text_gap] at hrest
      rw [Piece.tokensFrom, Piece.groupsFrom, hrest,
        sweep_gap (Nat.lt_add_of_pos_right hpos) (groupsFrom_behind_gap htext hsep), hslice]

theorem classify_eq_sweep (p : Pass) (base : Nat) (t : Text) :
    p.classify base t = p.sweep base t 0 (p.find t) := by
  rw [classify_eq_tokensFrom]
  refine tokensFrom_eq_sweep [] (p.join_pieces t).symm (p.separated_pieces t) ?_ ?_
  · intro g hg
    exact gap_ne_nil_of_mem_pieces hg
  · intro l hl
    obtain ⟨before, u, rest, hfound⟩ := exists_lexeme?_of_mem_pieces hl
    exact pass_of_lexeme? hfound

theorem exists_place_of_mem_find {p : Pass} {t : Text} {m : List Span} (hm : m ∈ p.find t) :
    ∃ s e gs, m = ⟨s, e⟩ :: gs ∧ p.pattern.MatchesAt t s e gs := by
  suffices ∀ pos ms, p.pattern.Search t pos ms → m ∈ ms →
      ∃ s e gs, m = ⟨s, e⟩ :: gs ∧ p.pattern.MatchesAt t s e gs from
    this 0 _ (p.search_find t) hm
  intro pos ms h hm
  induction h with
  | done => simp at hm
  | next hfound _ _ _ _ ih =>
    rcases List.mem_cons.1 hm with rfl | hm
    · exact ⟨_, _, _, rfl, hfound⟩
    · exact ih hm

/-- **A pass finds the leftmost greedy matches of its pattern.**  The matches of a pass in a text
are the only list that a leftmost greedy search for its pattern gives; no match is empty, and all
places lie between characters.  The tokens of the text are those of these matches and of the gaps
around them, which go to the next pass. -/
theorem find_is_search (p : Pass) (t : Text) :
    (∀ ms, p.pattern.Search t 0 ms ↔ ms = p.find t) ∧
      (∀ m ∈ p.find t, ∃ s e gs, m = ⟨s, e⟩ :: gs ∧ s < e ∧ p.pattern.MatchesAt t s e gs ∧
        ∀ g ∈ m, t.IsCharBoundary g.start ∧ t.IsCharBoundary g.stop) ∧
      ∀ base, p.classify base t = p.sweep base t 0 (p.find t) := by
  refine ⟨p.find_is_unique t, ?_, fun base => p.classify_eq_sweep base t⟩
  intro m hm
  obtain ⟨s, e, gs, heq, hmatch⟩ := exists_place_of_mem_find hm
  exact ⟨s, e, gs, heq, lt_of_matchesAt hmatch, hmatch, (p.search_find t).isCharBoundary m hm⟩

end Pass

end TurtleMarkup
