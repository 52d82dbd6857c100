import TurtleMarkup.Proofs.Delimiters
import TurtleMarkup.Proofs.Search
import TurtleMarkup.Proofs.Words

/-!
# Names and reserved words, judged by the whole line

A pass sees one gap at a time, but the outcome is the same as if it had seen the
line.  The names that a line shows are the prefixed names that a search through
the whole line finds, less those inside IRI references and quoted strings; its
reserved words are whole words of the line
(`Line.classify_agrees_with_whole_line`).

`Token.Shown` relates the tokens of a stretch of the line to the prefixed names
found in that stretch.  It is closed under putting stretches side by side, so it
is shown for gaps and lexemes and then holds of all pieces of a pass together.
-/

namespace TurtleMarkup

/-! ## Names among tokens -/

/-- Whether a span lies inside another. -/
def Span.within (a b : Span) : Bool := b.start ≤ a.start && a.stop ≤ b.stop

namespace Token

/-- The three tokens of a prefixed name at the beginning of a list of tokens. -/
def triple? : List Token → Option (List Token)
  | a :: b :: c :: _ =>
    if a.kind = .namespacePart ∧ b.kind = .plain ∧ c.kind = .localPart then some [a, b, c] else none
  | _ => none

/-- All runs of three tokens that show a prefixed name. -/
def triples : List Token → List (List Token)
  | [] => []
  | t :: ts => (triple? (t :: ts)).toList ++ triples ts

/-- Whether a match lies inside an IRI reference or a quoted string. -/
def hides (tokens : List Token) (m : List Span) : Bool :=
  tokens.any fun t => (t.kind == .uri || t.kind == .string) && m.head?.any (·.within t.span)

/-- Both halves of each name stand in a run of three, and no run goes on behind the tokens. -/
structure Balanced (tokens : List Token) : Prop where
  /-- No run of three goes on in what follows. -/
  append : ∀ rest, triples (tokens ++ rest) = triples tokens ++ triples rest
  /-- Each namespace stands in a run of three. -/
  namespaces : tokens.countP (·.kind == .namespacePart) = (triples tokens).length
  /-- Each local name stands in a run of three. -/
  locals : tokens.countP (·.kind == .localPart) = (triples tokens).length

theorem triples_cons_of_ne {t : Token} (h : t.kind ≠ .namespacePart) (ts : List Token) :
    triples (t :: ts) = triples ts := by
  have hnone : triple? (t :: ts) = none := by
    unfold triple?
    split
    · rename_i heq
      obtain ⟨rfl, -⟩ := List.cons.inj heq
      simp [h]
    · rfl
  rw [triples, hnone]
  rfl

theorem triples_append_of_ne {tokens : List Token} (h : ∀ t ∈ tokens, t.kind ≠ .namespacePart)
    (rest : List Token) : triples (tokens ++ rest) = triples rest := by
  induction tokens with
  | nil => rfl
  | cons t ts ih =>
    rw [List.cons_append, triples_cons_of_ne (h t List.mem_cons_self)]
    exact ih fun u hu => h u (List.mem_cons_of_mem t hu)

theorem triples_eq_nil_of_ne {tokens : List Token}
    (h : ∀ t ∈ tokens, t.kind ≠ .namespacePart) : triples tokens = [] := by
  have happend := triples_append_of_ne h []
  rwa [List.append_nil] at happend

/-- Tokens without names are balanced. -/
theorem balanced_of_ne {tokens : List Token}
    (h : ∀ t ∈ tokens, t.kind ≠ .namespacePart ∧ t.kind ≠ .localPart) : Balanced tokens := by
  have hspace : ∀ t ∈ tokens, t.kind ≠ .namespacePart := fun t ht => (h t ht).1
  have hnil := triples_eq_nil_of_ne hspace
  refine ⟨fun rest => by rw [triples_append_of_ne hspace, hnil, List.nil_append], ?_, ?_⟩
  · rw [hnil, List.length_nil, List.countP_eq_zero]
    intro t ht
    simpa using (h t ht).1
  · rw [hnil, List.length_nil, List.countP_eq_zero]
    intro t ht
    simpa using (h t ht).2

theorem Balanced.concat {a b : List Token} (ha : Balanced a) (hb : Balanced b) :
    Balanced (a ++ b) where
  append rest := by rw [List.append_assoc, ha.append, hb.append, ha.append, List.append_assoc]
  namespaces := by
    rw [List.countP_append, ha.append, List.length_append, ha.namespaces, hb.namespaces]
  locals := by rw [List.countP_append, ha.append, List.length_append, ha.locals, hb.locals]

/-- The tokens of a prefixed name are one run of three. -/
theorem triples_tokens_prefixedName (pos : Nat) (space name : Text) (rest : List Token) :
    triples (Lexeme.tokens pos (.prefixedName space name) ++ rest)
      = Lexeme.tokens pos (.prefixedName space name) :: triples rest := by
  simp only [Lexeme.tokens, List.cons_append, List.nil_append]
  rw [triples, triples_cons_of_ne (by simp [covering]), triples_cons_of_ne (by simp [covering])]
  rfl

theorem balanced_tokens_prefixedName (pos : Nat) (space name : Text) :
    Balanced (Lexeme.tokens pos (.prefixedName space name)) := by
  have hself := triples_tokens_prefixedName pos space name []
  rw [List.append_nil] at hself
  refine ⟨fun rest => ?_, ?_, ?_⟩
  · rw [triples_tokens_prefixedName, hself]
    rfl
  · rw [hself]
    rfl
  · rw [hself]
    rfl

/-! ## Names shown by a stretch of the line -/

/-- The tokens of the text `t` at `pos` show those of the matches `ms` that they do not hide. -/
structure Shown (pos : Nat) (t : Text) (tokens : List Token) (ms : List (List Span)) : Prop where
  /-- The tokens lie in the stretch. -/
  tokens_in : ∀ token ∈ tokens, pos ≤ token.span.start ∧ token.span.stop ≤ pos + t.byteSize
  /-- The matches lie in the stretch and are not empty. -/
  matches_in : ∀ m ∈ ms, ∃ s gs, m = s :: gs ∧ pos ≤ s.start ∧ s.start < s.stop ∧
    s.stop ≤ pos + t.byteSize
  /-- No name goes on behind the stretch. -/
  balanced : Balanced tokens
  /-- The names shown are the matches that are not hidden. -/
  triples_eq : triples tokens = (ms.filter fun m => !hides tokens m).map Pass.prefixedName.emit

theorem hides_append (a b : List Token) (m : List Span) :
    hides (a ++ b) m = (hides a m || hides b m) := by
  simp [hides]

/-- A match is hidden only by tokens that it overlaps. -/
theorem hides_eq_false {tokens : List Token} {s : Span} {gs : List Span} (hs : s.start < s.stop)
    (h : ∀ t ∈ tokens, s.stop ≤ t.span.start ∨ t.span.stop ≤ s.start) :
    hides tokens (s :: gs) = false := by
  rw [hides, List.any_eq_false]
  intro t ht
  have := h t ht
  simp only [List.head?_cons, Option.any_some, Span.within, Bool.and_eq_true, decide_eq_true_eq]
  omega

theorem Shown.nil (pos : Nat) : Shown pos [] [] [] :=
  ⟨by simp, by simp, balanced_of_ne (by simp), rfl⟩

/-- Stretches side by side show the names of both. -/
theorem Shown.concat {pos : Nat} {t u : Text} {a b : List Token} {ms ns : List (List Span)}
    (ha : Shown pos t a ms) (hb : Shown (pos + t.byteSize) u b ns) :
    Shown pos (t ++ u) (a ++ b) (ms ++ ns) where
  tokens_in := by
    intro token htoken
    rw [Text.byteSize_append]
    rcases List.mem_append.1 htoken with htoken | htoken
    · have := ha.tokens_in token htoken
      omega
    · have := hb.tokens_in token htoken
      omega
  matches_in := by
    intro m hm
    rw [Text.byteSize_append]
    rcases List.mem_append.1 hm with hm | hm
    · obtain ⟨s, gs, rfl, hs⟩ := ha.matches_in m hm
      exact ⟨s, gs, rfl, by omega⟩
    · obtain ⟨s, gs, rfl, hs⟩ := hb.matches_in m hm
      exact ⟨s, gs, rfl, by omega⟩
  balanced := ha.balanced.concat hb.balanced
  triples_eq := by
    -- no token of one stretch hides a match of the other
    have hleft : ∀ m ∈ ms, (!hides (a ++ b) m) = !hides a m := by
      intro m hm
      obtain ⟨s, gs, rfl, hs⟩ := ha.matches_in m hm
      have hfalse : hides b (s :: gs) = false := by
        refine hides_eq_false hs.2.1 ?_
        intro token htoken
        have := hb.tokens_in token htoken
        omega
      rw [hides_append, hfalse, Bool.or_false]
    have hright : ∀ m ∈ ns, (!hides (a ++ b) m) = !hides b m := by
      intro m hm
      obtain ⟨s, gs, rfl, hs⟩ := hb.matches_in m hm
      have hfalse : hides a (s :: gs) = false := by
        refine hides_eq_false hs.2.1 ?_
        intro token htoken
        have := ha.tokens_in token htoken
        omega
      rw [hides_append, hfalse, Bool.false_or]
    rw [ha.balanced.append, ha.triples_eq, hb.triples_eq, List.filter_append, List.map_append,
      List.filter_congr hleft, List.filter_congr hright]

/-- A stretch without names in which nothing is matched. -/
theorem shown_nothing {pos : Nat} {t : Text} {tokens : List Token}
    (hin : ∀ token ∈ tokens, pos ≤ token.span.start ∧ token.span.stop ≤ pos + t.byteSize)
    (hkind : ∀ token ∈ tokens, token.kind ≠ .namespacePart ∧ token.kind ≠ .localPart) :
    Shown pos t tokens [] := by
  refine ⟨hin, by simp, balanced_of_ne hkind, ?_⟩
  exact triples_eq_nil_of_ne fun token htoken => (hkind token htoken).1

theorem in_of_mem_layOut {ps : List Part} {pos : Nat} {token : Token} (h : token ∈ layOut pos ps) :
    pos ≤ token.span.start ∧ token.span.stop ≤ pos + (Part.spell ps).byteSize := by
  obtain ⟨P, u, Q, rfl, htoken⟩ := mem_layOut_iff.1 h
  rw [htoken]
  simp only [covering, Part.spell_append, Part.spell_cons, Text.byteSize_append]
  omega

theorem in_of_mem_tokensThrough {ps : List Pass} {pos : Nat} {t : Text} {token : Token}
    (h : token ∈ Pass.tokensThrough ps pos t) :
    pos ≤ token.span.start ∧ token.span.stop ≤ pos + t.byteSize := by
  rw [Pass.tokensThrough_eq_layOut] at h
  rw [← Pass.spell_partsThrough ps t]
  exact in_of_mem_layOut h

/-- The tokens of a prefixed name show its match. -/
theorem shown_prefixedName {pos : Nat} {space name : Text} {before after : Option Char}
    (h : Lexeme.Fits before (.prefixedName space name) after) :
    Shown pos (Lexeme.text (.prefixedName space name)) (Lexeme.tokens pos (.prefixedName space name))
      [(Lexeme.groups (.prefixedName space name)).map (Span.shift pos)] := by
  have hpos := Text.byteSize_pos h.text_ne_nil
  have hsize : (Lexeme.text (.prefixedName space name)).byteSize
      = space.byteSize + (1 + name.byteSize) := Text.byteSize_append _ _
  refine ⟨?_, ?_, balanced_tokens_prefixedName pos space name, ?_⟩
  · intro token htoken
    simp only [Lexeme.tokens, List.mem_cons, List.not_mem_nil, or_false] at htoken
    rcases htoken with rfl | rfl | rfl <;> simp only [covering, hsize] <;> omega
  · intro m hm
    rw [List.mem_singleton.1 hm, Lexeme.map_shift_groups]
    exact ⟨_, _, rfl, le_refl _, by simp only; omega, le_refl _⟩
  · have hself := triples_tokens_prefixedName pos space name []
    have hhides : hides (Lexeme.tokens pos (.prefixedName space name))
        ((Lexeme.groups (.prefixedName space name)).map (Span.shift pos)) = false := by
      simp [hides, Lexeme.tokens, covering]
    have hemit := Pass.emit_groups (.prefixedName space name) pos
    rw [List.append_nil] at hself
    rw [hself, List.filter_cons_of_pos (by simp [hhides]), List.filter_nil, List.map_singleton,
      show Pass.prefixedName.emit _ = _ from hemit]
    rfl

/-- An IRI reference or a quoted string hides all that is found in it. -/
theorem shown_enclosed {pos : Nat} {l : Lexeme} (hl : l.pass = .uri ∨ l.pass = .string)
    {ms : List (List Span)}
    (hms : ∀ m ∈ ms, ∃ s gs, m = s :: gs ∧ pos ≤ s.start ∧ s.start < s.stop ∧
      s.stop ≤ pos + l.text.byteSize) :
    Shown pos l.text (l.tokens pos) ms := by
  obtain ⟨k, hk, htokens⟩ : ∃ k, (k = .uri ∨ k = .string) ∧
      l.tokens pos = [covering k pos l.text.byteSize] := by
    cases l with
    | uri body => exact ⟨.uri, Or.inl rfl, rfl⟩
    | string body => exact ⟨.string, Or.inr rfl, rfl⟩
    | prefixedName | languageTag | keyword => simp [Lexeme.pass] at hl
  have hkind : ∀ token ∈ l.tokens pos, token.kind ≠ .namespacePart ∧ token.kind ≠ .localPart := by
    intro token htoken
    rw [htokens, List.mem_singleton] at htoken
    rcases hk with rfl | rfl <;> simp [htoken, covering]
  refine ⟨?_, hms, balanced_of_ne hkind, ?_⟩
  · intro token htoken
    rw [htokens, List.mem_singleton] at htoken
    simp [htoken, covering]
  · have hfilter : (ms.filter fun m => !hides (l.tokens pos) m) = [] := by
      rw [List.filter_eq_nil_iff]
      intro m hm
      obtain ⟨s, gs, rfl, hs⟩ := hms m hm
      have hwithin : s.within (covering k pos l.text.byteSize).span = true := by
        simp [Span.within, covering, hs]
      have hhides : hides (l.tokens pos) (s :: gs) = true := by
        rw [htokens, hides, List.any_cons, List.head?_cons, Option.any_some, hwithin, Bool.and_true]
        rcases hk with rfl | rfl <;> rfl
      simp [hhides]
    rw [hfilter]
    exact triples_eq_nil_of_ne fun token htoken => (hkind token htoken).1

end Token

/-! ## Names shown by a pass and those behind it -/

theorem Piece.place_of_mem_groupsFrom {ps : List Piece} (h : ∀ l, .found l ∈ ps → l.text ≠ [])
    {pos : Nat} {m : List Span} (hm : m ∈ groupsFrom pos ps) :
    ∃ s gs, m = s :: gs ∧ pos ≤ s.start ∧ s.start < s.stop ∧
      s.stop ≤ pos + (join ps).byteSize := by
  induction ps generalizing pos with
  | nil => simp [groupsFrom] at hm
  | cons piece ps ih =>
    have hlater : m ∈ groupsFrom (pos + piece.text.byteSize) ps → ∃ s gs, m = s :: gs ∧
        pos ≤ s.start ∧ s.start < s.stop ∧ s.stop ≤ pos + (join (piece :: ps)).byteSize := by
      intro hm
      obtain ⟨s, gs, rfl, hs⟩ := ih (fun l hl => h l (List.mem_cons_of_mem piece hl)) hm
      refine ⟨s, gs, rfl, ?_⟩
      rw [join_cons, Text.byteSize_append]
      omega
    cases piece with
    | gap g => exact hlater hm
    | found l =>
      rw [groupsFrom] at hm
      rcases List.mem_cons.1 hm with rfl | hm
      · have hpos := Text.byteSize_pos (h l List.mem_cons_self)
        refine ⟨_, _, l.map_shift_groups pos, le_refl _, ?_, ?_⟩
        · simp only
          omega
        · simp only [join_cons, text_found, Text.byteSize_append]
          omega
      · exact hlater hm

namespace Pass

theorem fits_of_mem_pieces {p : Pass} {t : Text} {l : Lexeme} (h : .found l ∈ p.pieces t) :
    l.pass = p ∧ ∃ before after, l.Fits before after := by
  obtain ⟨a, b, hab⟩ := List.append_of_mem h
  obtain ⟨hpass, hfits⟩ := fits_of_pieces hab
  exact ⟨hpass, _, _, hfits⟩

theorem place_of_mem_namesFrom {pos : Nat} {t : Text} {m : List Span} (hm : m ∈ namesFrom pos t) :
    ∃ s gs, m = s :: gs ∧ pos ≤ s.start ∧ s.start < s.stop ∧ s.stop ≤ pos + t.byteSize := by
  have htext : ∀ l, .found l ∈ Pass.prefixedName.pieces t → l.text ≠ [] := by
    intro l hl
    obtain ⟨-, before, after, hfits⟩ := fits_of_mem_pieces hl
    exact hfits.text_ne_nil
  have hplace := Piece.place_of_mem_groupsFrom htext hm
  rwa [join_pieces] at hplace

/-- From the pass for prefixed names on, all matches are shown. -/
theorem shown_names (pos : Nat) (t : Text) :
    Token.Shown pos t (tokensThrough [.prefixedName, .languageTag, .keyword] pos t)
      (namesFrom pos t) := by
  suffices ∀ ps : List Piece,
      (∀ l, .found l ∈ ps → l.pass = .prefixedName ∧ ∃ before after, l.Fits before after) →
      ∀ pos, Token.Shown pos (Piece.join ps)
        (Piece.tokensFrom (tokensThrough [.languageTag, .keyword]) pos ps)
        (Piece.groupsFrom pos ps) by
    have h := this (Pass.prefixedName.pieces t) (fun l hl => fits_of_mem_pieces hl) pos
    rwa [join_pieces] at h
  intro ps hps
  induction ps with
  | nil => exact Token.Shown.nil
  | cons piece ps ih =>
    have hrest := ih fun l hl => hps l (List.mem_cons_of_mem piece hl)
    intro pos
    cases piece with
    | gap g =>
      refine Token.Shown.concat (Token.shown_nothing ?_ ?_) (hrest (pos + g.byteSize))
      · exact fun token htoken => Token.in_of_mem_tokensThrough htoken
      · intro token htoken
        rw [tokensThrough_eq_layOut] at htoken
        obtain ⟨part, hpart, hkind⟩ := Token.exists_part_of_mem_layOut htoken
        rw [← hkind]
        rcases kind_of_mem_partsThrough hpart with hplain | ⟨p, hp, hmem⟩
        · simp [hplain]
        · simp only [List.mem_cons, List.not_mem_nil, or_false] at hp
          rcases hp with rfl | rfl <;> simp_all [kinds]
    | found l =>
      obtain ⟨hpass, before, after, hfits⟩ := hps l List.mem_cons_self
      cases l with
      | prefixedName space name =>
        exact (Token.shown_prefixedName hfits).concat (hrest _)
      | uri | string | languageTag | keyword => cases hpass

/-- What a pass for enclosed lexemes finds hides the matches in it, and the gaps show what the
passes behind make of them. -/
theorem shown_enclosing {p : Pass} (hp : p = .uri ∨ p = .string)
    {onGap : Nat → Text → List Token}
    (hgap : ∀ pos g, Token.Shown pos g (onGap pos g) (namesFrom pos g)) (pos : Nat) (t : Text) :
    Token.Shown pos t (Piece.tokensFrom onGap pos (p.pieces t)) (namesFrom pos t) := by
  suffices ∀ ps : List Piece, Piece.Separated ps →
      (∀ l, .found l ∈ ps → l.pass = .uri ∨ l.pass = .string) →
      ∀ pos, Token.Shown pos (Piece.join ps) (Piece.tokensFrom onGap pos ps)
        (namesFrom pos (Piece.join ps)) by
    have h := this (p.pieces t) (p.separated_pieces t) ?_ pos
    · rwa [join_pieces] at h
    · intro l hl
      rw [(fits_of_mem_pieces hl).1]
      exact hp
  intro ps hsep hps
  induction ps with
  | nil =>
    intro pos
    rw [Piece.join_nil, namesFrom_nil]
    exact Token.Shown.nil pos
  | cons piece ps ih =>
    obtain ⟨hhead, hsep⟩ := List.isChain_cons.1 hsep
    have hrest := ih hsep fun l hl => hps l (List.mem_cons_of_mem piece hl)
    intro pos
    cases piece with
    | found l =>
      have hl := hps l List.mem_cons_self
      rw [Piece.join_cons, Piece.text_found, namesFrom_text_append hl]
      exact (Token.shown_enclosed hl fun m hm => place_of_mem_namesFrom hm).concat (hrest _)
    | gap g =>
      have hnames : namesFrom pos (g ++ Piece.join ps)
          = namesFrom pos g ++ namesFrom (pos + g.byteSize) (Piece.join ps) := by
        -- a gap is followed by an enclosed lexeme or by nothing
        cases ps with
        | nil => simp
        | cons next ps =>
          cases next with
          | gap g' => exact absurd ⟨rfl, rfl⟩ (hhead (.gap g') (by simp))
          | found l => exact namesFrom_append_text (hps l (by simp)) pos g _
      rw [Piece.join_cons, Piece.text_gap, hnames]
      exact (hgap pos g).concat (hrest _)

/-- The tokens of a line show the prefixed names of the whole line that are not hidden. -/
theorem shown_classify (t : Text) :
    Token.Shown 0 t (Pass.uri.classify 0 t) (Pass.prefixedName.find t) :=
  shown_enclosing (Or.inl rfl) (shown_enclosing (Or.inr rfl) shown_names) 0 t

end Pass

/-! ## Names are made of whole words -/

/-- A word of the text begins or ends at an offset. -/
def Text.IsWordBoundary (t : Text) (n : Nat) : Prop :=
  ∃ a b, t = a ++ b ∧ a.byteSize = n ∧ isBoundary a.getLast? b.head? = true

/-- A prefixed name begins and ends where a word does, and has a colon between its halves. -/
theorem Pass.place_of_mem_find {t : Text} {m : List Span} (hm : m ∈ Pass.prefixedName.find t) :
    ∃ s c e, m = [⟨s, e⟩, ⟨s, c⟩, ⟨c + 1, e⟩] ∧ Span.slice ⟨c, c + 1⟩ t = [':'] ∧
      t.IsWordBoundary s ∧ t.IsWordBoundary e := by
  obtain ⟨s, e, gs, rfl, hmatch⟩ := exists_place_of_mem_find hm
  obtain ⟨before, l, after, hpass, rfl, rfl, rfl, rfl, hfits⟩ := matchesAt_pattern_iff.1 hmatch
  cases l with
  | prefixedName space name =>
    have hsize : before.byteSize + (Lexeme.text (.prefixedName space name)).byteSize
        = before.byteSize + space.byteSize + 1 + name.byteSize := by
      have htext : (Lexeme.text (.prefixedName space name)).byteSize
          = space.byteSize + (1 + name.byteSize) := Text.byteSize_append _ _
      omega
    refine ⟨before.byteSize, before.byteSize + space.byteSize, _, ?_, ?_,
      ⟨before, _, List.append_assoc _ _ _, rfl, ?_⟩, ⟨_, after, rfl, Text.byteSize_append _ _, ?_⟩⟩
    · rw [Lexeme.captures_prefixedName, hsize]
    · refine Span.Covers.slice_eq ⟨before ++ space, name ++ after, by simp [Lexeme.text], ?_, ?_⟩
      · simp
      · rw [Text.byteSize_append]
        rfl
    · rw [List.head?_append_of_ne_nil _ hfits.text_ne_nil, hfits.head?_prefixedName]
      exact hfits.1
    · rw [List.getLast?_append_of_ne_nil _ hfits.text_ne_nil, hfits.getLast?_prefixedName]
      exact hfits.2.2.2
  | uri | string | languageTag | keyword => cases hpass

namespace Line

theorem classify_of_not_comment {line : Text} (h : isCommentText line = false) (base : Nat) :
    classify base line = Pass.uri.classify base line := by
  rw [classify_eq_layOut, parts_of_not_comment h, Pass.classify_eq_layOut]

/-- **Names and reserved words are those of the whole line.**  In a line that is no comment the
runs of three tokens that show a prefixed name are the matches of a search through the whole line
that lie in no IRI reference and no quoted string, each with its groups and its colon; both halves
of every name stand in such a run, and every match begins and ends where a word of the line does.
The reserved words are the maximal runs of word characters of the line that spell one and overlap
no IRI reference, quoted string, name or language tag. -/
theorem classify_agrees_with_whole_line {line : Text} (h : isCommentText line = false) :
    Token.triples (classify 0 line)
        = ((Pass.prefixedName.find line).filter fun m => !Token.hides (classify 0 line) m).map
            Pass.prefixedName.emit ∧
      (classify 0 line).countP (·.kind == .namespacePart)
        = (Token.triples (classify 0 line)).length ∧
      (classify 0 line).countP (·.kind == .localPart)
        = (Token.triples (classify 0 line)).length ∧
      (∀ m ∈ Pass.prefixedName.find line, ∃ s c e, m = [⟨s, e⟩, ⟨s, c⟩, ⟨c + 1, e⟩] ∧
        Span.slice ⟨c, c + 1⟩ line = [':'] ∧ line.IsWordBoundary s ∧ line.IsWordBoundary e) ∧
      ∀ s : Span, ⟨.keyword, s⟩ ∈ classify 0 line ↔
        (∃ w ∈ Lexeme.keywords, line.WordRun s w) ∧
          ∀ token ∈ classify 0 line, token.kind ∈ taken → ¬ token.span.Overlaps s := by
  have hshown := Pass.shown_classify line
  rw [← classify_of_not_comment h] at hshown
  exact ⟨hshown.triples_eq, hshown.balanced.namespaces, hshown.balanced.locals,
    fun m hm => Pass.place_of_mem_find hm, mem_keyword_iff h⟩

/-- In `<x:y> e:b a` the name inside the brackets is not shown, the one behind them is, and the
reserved word is found at the end. -/
theorem classify_agrees_with_whole_line_mixed :
    isCommentText "<x:y> e:b a".toList = false ∧
      Token.triples (classify 0 "<x:y> e:b a".toList)
        = [[⟨.namespacePart, ⟨6, 7⟩⟩, ⟨.plain, ⟨7, 8⟩⟩, ⟨.localPart, ⟨8, 9⟩⟩]] ∧
      ⟨.keyword, ⟨10, 11⟩⟩ ∈ classify 0 "<x:y> e:b a".toList := by
  have hline : isCommentText "<x:y> e:b a".toList = false := by decide
  obtain ⟨htriples, -, -, -, hkeyword⟩ := classify_agrees_with_whole_line hline
  have hword : ['a'] ∈ Lexeme.keywords := by decide
  have hrun : Text.WordRun "<x:y> e:b a".toList ⟨10, 11⟩ ['a'] :=
    ⟨"<x:y> e:b ".toList, [], by decide, by decide, by decide,
      Lexeme.isWordChar_of_mem_keywords hword, by decide, by decide⟩
  refine ⟨hline, ?_, (hkeyword _).2 ⟨⟨['a'], hword, hrun⟩, ?_⟩⟩
  · rw [htriples]
    decide +kernel
  · decide +kernel

end Line

end TurtleMarkup
