import TurtleMarkup.Proofs.Borders

/-!
# Patterns and their leftmost greedy search

The five sorts of lexemes are described here a second time, as patterns: fixed
texts, character classes, repetition, word boundaries, groups.  What a pattern
matches is said by `Pattern.Reads` for every stretch of a text at once, with no
order of trial and no search.

`Pattern.Search` is the list of matches that a leftmost greedy search gives:
each match begins as early as a match can behind the one before it, ends as late
as a match from there can, and behind the last one no match begins.

`Pass.reads_pattern_iff` ties the two descriptions together: the pattern of a
pass matches exactly the lexemes of the pass that fit, with their groups.
-/

namespace TurtleMarkup

/-- A pattern for a stretch of text. -/
inductive Pattern where
  /-- The given text. -/
  | literal (w : Text)
  /-- One character of a class. -/
  | one (cls : Char → Bool)
  /-- Any number of characters of a class. -/
  | many (cls : Char → Bool)
  /-- A word boundary, which takes no character. -/
  | boundary
  /-- The first pattern and behind it the second. -/
  | seq (r s : Pattern)
  /-- One of two patterns. -/
  | alt (r s : Pattern)
  /-- A pattern whose place is noted. -/
  | group (r : Pattern)

namespace Pattern

/-- The pattern matches `body` between the texts `before` and `after`; the last argument lists the
places of the groups. -/
def Reads : Pattern → (before body after : Text) → List Span → Prop
  | .literal w, _, body, _, gs => body = w ∧ gs = []
  | .one cls, _, body, _, gs => (∃ c, body = [c] ∧ cls c = true) ∧ gs = []
  | .many cls, _, body, _, gs => (∀ c ∈ body, cls c = true) ∧ gs = []
  | .boundary, before, body, after, gs =>
    body = [] ∧ gs = [] ∧ Text.isBoundary before.getLast? after.head? = true
  | .seq r s, before, body, after, gs =>
    ∃ x y gx gy, body = x ++ y ∧ gs = gx ++ gy ∧
      r.Reads before x (y ++ after) gx ∧ s.Reads (before ++ x) y after gy
  | .alt r s, before, body, after, gs =>
    r.Reads before body after gs ∨ s.Reads before body after gs
  | .group r, before, body, after, gs =>
    ∃ inner, gs = ⟨before.byteSize, before.byteSize + body.byteSize⟩ :: inner ∧
      r.Reads before body after inner

/-- The pattern matches the bytes of a text from `s` to `e`, with groups at the given places. -/
def MatchesAt (r : Pattern) (t : Text) (s e : Nat) (gs : List Span) : Prop :=
  ∃ before body after, t = before ++ body ++ after ∧ s = before.byteSize ∧
    e = before.byteSize + body.byteSize ∧ r.Reads before body after gs

/-- The matches of a leftmost greedy search from `pos` on, each given by its own place and those of
its groups. -/
inductive Search (r : Pattern) (t : Text) : Nat → List (List Span) → Prop where
  /-- No match begins at `pos` or behind it. -/
  | done {pos : Nat} (nothing : ∀ s e gs, pos ≤ s → ¬ r.MatchesAt t s e gs) : Search r t pos []
  /-- A match that begins as early and then ends as late as can be, and the search behind it. -/
  | next {pos s e : Nat} {gs : List Span} {ms : List (List Span)}
      (found : r.MatchesAt t s e gs) (behind : pos ≤ s)
      (leftmost : ∀ s' e' gs', pos ≤ s' → r.MatchesAt t s' e' gs' → s ≤ s')
      (greedy : ∀ e' gs', r.MatchesAt t s e' gs' → e' ≤ e)
      (rest : Search r t e ms) : Search r t pos ((⟨s, e⟩ :: gs) :: ms)

/-- A search may begin earlier where no match begins in between. -/
theorem Search.weaken {r : Pattern} {t : Text} {pos pos' : Nat} {ms : List (List Span)}
    (h : r.Search t pos' ms) (hle : pos ≤ pos')
    (hfree : ∀ s e gs, pos ≤ s → r.MatchesAt t s e gs → pos' ≤ s) : r.Search t pos ms := by
  cases h with
  | done hnone =>
    refine .done ?_
    intro s e gs hs hmatch
    exact hnone s e gs (hfree s e gs hs hmatch) hmatch
  | next hfound hbehind hleftmost hgreedy hrest =>
    refine .next hfound (Nat.le_trans hle hbehind) ?_ hgreedy hrest
    intro s' e' gs' hs' hmatch
    exact hleftmost s' e' gs' (hfree s' e' gs' hs' hmatch) hmatch

/-- A search has one result, if the ends of a match determine its groups. -/
theorem Search.unique {r : Pattern} {t : Text}
    (hgroups : ∀ s e gs gs', r.MatchesAt t s e gs → r.MatchesAt t s e gs' → gs = gs')
    {pos : Nat} {ms ms' : List (List Span)} (h : r.Search t pos ms) (h' : r.Search t pos ms') :
    ms = ms' := by
  induction h generalizing ms' with
  | done hnone =>
    cases h' with
    | done => rfl
    | next hfound hbehind => exact absurd hfound (hnone _ _ _ hbehind)
  | next hfound hbehind hleftmost hgreedy hrest ih =>
    cases h' with
    | done hnone => exact absurd hfound (hnone _ _ _ hbehind)
    | next hfound' hbehind' hleftmost' hgreedy' hrest' =>
      obtain rfl := Nat.le_antisymm (hleftmost _ _ _ hbehind' hfound')
        (hleftmost' _ _ _ hbehind hfound)
      obtain rfl := Nat.le_antisymm (hgreedy' _ _ hfound) (hgreedy _ _ hfound')
      rw [hgroups _ _ _ _ hfound hfound', ih hrest']

theorem isCharBoundary_of_reads {r : Pattern} {before body after : Text} {gs : List Span}
    (h : r.Reads before body after gs) : ∀ g ∈ gs,
      (before ++ body ++ after).IsCharBoundary g.start ∧
        (before ++ body ++ after).IsCharBoundary g.stop := by
  induction r generalizing before body after gs with
  | literal | one | many =>
    obtain ⟨-, rfl⟩ := h
    simp
  | boundary =>
    obtain ⟨-, rfl, -⟩ := h
    simp
  | seq r s ihr ihs =>
    obtain ⟨x, y, gx, gy, rfl, rfl, hr, hs⟩ := h
    intro g hg
    rcases List.mem_append.1 hg with hg | hg
    · simpa using ihr hr g hg
    · simpa using ihs hs g hg
  | alt r s ihr ihs =>
    rcases h with hr | hs
    · exact ihr hr
    · exact ihs hs
  | group r ih =>
    obtain ⟨inner, rfl, hr⟩ := h
    intro g hg
    rcases List.mem_cons.1 hg with rfl | hg
    · exact ⟨⟨before, body ++ after, by simp, rfl⟩, ⟨before ++ body, after, rfl, by simp⟩⟩
    · exact ih hr g hg

variable {r s : Pattern} {w before body after : Text} {gs : List Span}

theorem reads_literal_seq : (seq (literal w) r).Reads before body after gs ↔
    ∃ y, body = w ++ y ∧ r.Reads (before ++ w) y after gs := by
  constructor
  · rintro ⟨x, y, gx, gy, rfl, rfl, ⟨rfl, rfl⟩, hr⟩
    exact ⟨y, rfl, hr⟩
  · rintro ⟨y, rfl, hr⟩
    exact ⟨w, y, [], gs, rfl, rfl, ⟨rfl, rfl⟩, hr⟩

theorem reads_seq_literal : (seq r (literal w)).Reads before body after gs ↔
    ∃ x, body = x ++ w ∧ r.Reads before x (w ++ after) gs := by
  constructor
  · rintro ⟨x, y, gx, gy, rfl, rfl, hr, ⟨rfl, rfl⟩⟩
    exact ⟨x, rfl, by simpa using hr⟩
  · rintro ⟨x, rfl, hr⟩
    exact ⟨x, w, gs, [], rfl, (List.append_nil gs).symm, hr, ⟨rfl, rfl⟩⟩

theorem reads_boundary_seq : (seq boundary r).Reads before body after gs ↔
    Text.isBoundary before.getLast? (body ++ after).head? = true ∧
      r.Reads before body after gs := by
  constructor
  · rintro ⟨x, y, gx, gy, rfl, rfl, ⟨rfl, rfl, hboundary⟩, hr⟩
    exact ⟨hboundary, by simpa using hr⟩
  · rintro ⟨hboundary, hr⟩
    exact ⟨[], body, [], gs, rfl, rfl, ⟨rfl, rfl, hboundary⟩, by simpa using hr⟩

theorem reads_seq_boundary : (seq r boundary).Reads before body after gs ↔
    r.Reads before body after gs ∧
      Text.isBoundary (before ++ body).getLast? after.head? = true := by
  constructor
  · rintro ⟨x, y, gx, gy, rfl, rfl, hr, ⟨rfl, rfl, hboundary⟩⟩
    exact ⟨by simpa using hr, by simpa using hboundary⟩
  · rintro ⟨hr, hboundary⟩
    exact ⟨body, [], gs, [], (List.append_nil body).symm, (List.append_nil gs).symm, hr,
      ⟨rfl, rfl, hboundary⟩⟩

/-- A letter and characters of a class. -/
def name (cls : Char → Bool) : Pattern := .seq (.one Char.isAlpha) (.many cls)

theorem reads_group_name {cls : Char → Bool} :
    (group (name cls)).Reads before body after gs ↔
      Text.IsName cls body ∧ gs = [⟨before.byteSize, before.byteSize + body.byteSize⟩] := by
  constructor
  · rintro ⟨inner, rfl, x, y, gx, gy, rfl, rfl, ⟨⟨c, rfl, hc⟩, rfl⟩, ⟨hy, rfl⟩⟩
    exact ⟨⟨c, y, rfl, hc, hy⟩, rfl⟩
  · rintro ⟨⟨c, cs, rfl, hc, hcs⟩, rfl⟩
    exact ⟨[], rfl, [c], cs, [], [], rfl, rfl, ⟨⟨c, rfl, hc⟩, rfl⟩, ⟨hcs, rfl⟩⟩

end Pattern

/-! ## The patterns of the passes -/

namespace Pass

open Pattern in
/-- The pattern of a pass. -/
def pattern : Pass → Pattern
  | .uri =>
    seq (literal ['<']) (seq (group (seq (one (· != '>')) (many (· != '>')))) (literal ['>']))
  | .string => seq (literal ['"']) (seq (group (many (· != '"'))) (literal ['"']))
  | .prefixedName =>
    seq boundary (seq (group (name Char.isAlphanum)) (seq (literal [':'])
      (seq (group (name Lexeme.isNameChar)) boundary)))
  | .languageTag => seq (literal ['@']) (seq (group (name Lexeme.isTagChar)) boundary)
  | .keyword =>
    seq boundary (seq (group (alt (literal "a".toList)
      (alt (literal "true".toList) (literal "false".toList)))) boundary)

end Pass

namespace Lexeme

/-- The places of the named parts of a lexeme that begins at `pos`. -/
def captures (pos : Nat) (l : Lexeme) : List Span := (l.groups.map (Span.shift pos)).tail

theorem map_shift_groups (pos : Nat) (l : Lexeme) :
    l.groups.map (Span.shift pos) = ⟨pos, pos + l.text.byteSize⟩ :: l.captures pos := by
  cases l <;> simp [captures, groups, Span.shift, Nat.add_comm]

theorem captures_uri (body : Text) (pos : Nat) :
    (uri body).captures pos = [⟨pos + 1, pos + 1 + body.byteSize⟩] := by
  simp only [captures, groups, Span.shift, List.map_cons, List.tail_cons, List.map_nil]
  rw [Nat.add_comm pos 1, Nat.add_right_comm]

theorem captures_string (body : Text) (pos : Nat) :
    (string body).captures pos = [⟨pos + 1, pos + 1 + body.byteSize⟩] := captures_uri body pos

theorem captures_languageTag (body : Text) (pos : Nat) :
    (languageTag body).captures pos = [⟨pos + 1, pos + 1 + body.byteSize⟩] := captures_uri body pos

theorem captures_prefixedName (space name : Text) (pos : Nat) :
    (prefixedName space name).captures pos
      = [⟨pos, pos + space.byteSize⟩,
        ⟨pos + space.byteSize + 1, pos + space.byteSize + 1 + name.byteSize⟩] := by
  have hcolon : space.byteSize + 1 + pos = pos + space.byteSize + 1 := by omega
  simp only [captures, groups, Span.shift, List.map_cons, List.tail_cons, List.map_nil,
    Nat.zero_add, Nat.add_right_comm _ name.byteSize, hcolon, Nat.add_comm space.byteSize pos]

theorem captures_keyword (word : Text) (pos : Nat) :
    (keyword word).captures pos = [⟨pos, pos + word.byteSize⟩] := by
  simp [captures, groups, Span.shift, Nat.add_comm]

end Lexeme

namespace Pass

variable {before body after : Text} {gs : List Span}

open Pattern

theorem reads_uri_iff : Pass.uri.pattern.Reads before body after gs ↔
    ∃ b, body = Lexeme.text (.uri b) ∧ gs = Lexeme.captures before.byteSize (.uri b) ∧
      Lexeme.Fits before.getLast? (.uri b) after.head? := by
  have hopen : Text.byteSize ['<'] = 1 := by decide
  simp only [pattern, reads_literal_seq, reads_seq_literal, Lexeme.captures_uri]
  constructor
  · rintro ⟨-, rfl, -, rfl, -, rfl, -, cs, -, -, rfl, rfl, ⟨⟨c, rfl, hc⟩, rfl⟩, hcs, rfl⟩
    refine ⟨c :: cs, by simp [Lexeme.text], by simp [hopen], List.cons_ne_nil c cs, ?_⟩
    intro x hx
    rcases List.mem_cons.1 hx with rfl | hx
    · simpa using hc
    · simpa using hcs x hx
  · rintro ⟨b, rfl, rfl, hne, hb⟩
    obtain ⟨c, cs, rfl⟩ := List.exists_cons_of_ne_nil hne
    have hc : (c != '>') = true := by simpa using hb c List.mem_cons_self
    have hcs : ∀ x ∈ cs, (x != '>') = true := by
      intro x hx
      simpa using hb x (List.mem_cons_of_mem c hx)
    exact ⟨c :: cs ++ ['>'], by simp [Lexeme.text], c :: cs, rfl, [], by simp [hopen],
      [c], cs, [], [], rfl, rfl, ⟨⟨c, rfl, hc⟩, rfl⟩, hcs, rfl⟩

theorem reads_string_iff : Pass.string.pattern.Reads before body after gs ↔
    ∃ b, body = Lexeme.text (.string b) ∧ gs = Lexeme.captures before.byteSize (.string b) ∧
      Lexeme.Fits before.getLast? (.string b) after.head? := by
  have hopen : Text.byteSize ['"'] = 1 := by decide
  simp only [pattern, reads_literal_seq, reads_seq_literal, Lexeme.captures_string]
  constructor
  · rintro ⟨-, rfl, b, rfl, -, rfl, hb, rfl⟩
    refine ⟨b, by simp [Lexeme.text], by simp [hopen], ?_⟩
    intro x hx
    simpa using hb x hx
  · rintro ⟨b, rfl, rfl, hb⟩
    have hall : ∀ x ∈ b, (x != '"') = true := by
      intro x hx
      simpa using hb x hx
    exact ⟨b ++ ['"'], by simp [Lexeme.text], b, rfl, [], by simp [hopen], hall, rfl⟩

theorem reads_prefixedName_iff : Pass.prefixedName.pattern.Reads before body after gs ↔
    ∃ x y, body = Lexeme.text (.prefixedName x y) ∧
      gs = Lexeme.captures before.byteSize (.prefixedName x y) ∧
      Lexeme.Fits before.getLast? (.prefixedName x y) after.head? := by
  have hcolon : Text.byteSize [':'] = 1 := by decide
  simp only [pattern, reads_boundary_seq, Lexeme.captures_prefixedName]
  constructor
  · rintro ⟨hstart, x, z, gx, gy, rfl, rfl, hx, hz⟩
    obtain ⟨y, rfl, hy⟩ := reads_literal_seq.1 hz
    obtain ⟨hy, hend⟩ := reads_seq_boundary.1 hy
    obtain ⟨hspace, rfl⟩ := reads_group_name.1 hx
    obtain ⟨hname, rfl⟩ := reads_group_name.1 hy
    refine ⟨x, y, by simp [Lexeme.text], by simp [hcolon, Nat.add_assoc], ?_, hspace, hname, ?_⟩
    · rwa [List.append_assoc, List.head?_append_of_ne_nil _ hspace.ne_nil] at hstart
    · rwa [List.getLast?_append_of_ne_nil _ hname.ne_nil] at hend
  · rintro ⟨x, y, rfl, rfl, hstart, hspace, hname, hend⟩
    refine ⟨?_, x, [':'] ++ y, _, _, by simp [Lexeme.text], ?_, reads_group_name.2 ⟨hspace, rfl⟩,
      reads_literal_seq.2 ⟨y, rfl, reads_seq_boundary.2 ⟨reads_group_name.2 ⟨hname, rfl⟩, ?_⟩⟩⟩
    · rwa [Lexeme.text, List.append_assoc, List.head?_append_of_ne_nil _ hspace.ne_nil]
    · simp [hcolon, Nat.add_assoc]
    · rwa [List.getLast?_append_of_ne_nil _ hname.ne_nil]

theorem reads_languageTag_iff : Pass.languageTag.pattern.Reads before body after gs ↔
    ∃ b, body = Lexeme.text (.languageTag b) ∧
      gs = Lexeme.captures before.byteSize (.languageTag b) ∧
      Lexeme.Fits before.getLast? (.languageTag b) after.head? := by
  have hopen : Text.byteSize ['@'] = 1 := by decide
  simp only [pattern, reads_literal_seq, reads_seq_boundary, reads_group_name,
    Lexeme.captures_languageTag]
  constructor
  · rintro ⟨b, rfl, ⟨hb, rfl⟩, hend⟩
    refine ⟨b, rfl, by simp [hopen], hb, ?_⟩
    rwa [List.getLast?_append_of_ne_nil _ hb.ne_nil] at hend
  · rintro ⟨b, rfl, rfl, hb, hend⟩
    refine ⟨b, rfl, ⟨hb, by simp [hopen]⟩, ?_⟩
    rwa [List.getLast?_append_of_ne_nil _ hb.ne_nil]

theorem reads_keyword_iff : Pass.keyword.pattern.Reads before body after gs ↔
    ∃ w, body = Lexeme.text (.keyword w) ∧ gs = Lexeme.captures before.byteSize (.keyword w) ∧
      Lexeme.Fits before.getLast? (.keyword w) after.head? := by
  have hwords : ∀ inner, (alt (literal "a".toList) (alt (literal "true".toList)
      (literal "false".toList))).Reads before body after inner
        ↔ body ∈ Lexeme.keywords ∧ inner = [] := by
    intro inner
    simp only [Reads, Lexeme.keywords, List.mem_cons, List.not_mem_nil, or_false]
    tauto
  have hends : ∀ w ∈ Lexeme.keywords,
      (w ++ after).head? = w.head? ∧ (before ++ w).getLast? = w.getLast? := fun w hw =>
    ⟨List.head?_append_of_ne_nil _ (Lexeme.ne_nil_of_mem_keywords hw),
      List.getLast?_append_of_ne_nil _ (Lexeme.ne_nil_of_mem_keywords hw)⟩
  simp only [pattern, reads_boundary_seq, reads_seq_boundary, Lexeme.captures_keyword]
  constructor
  · rintro ⟨hstart, ⟨inner, rfl, hbody⟩, hend⟩
    obtain ⟨hmem, rfl⟩ := (hwords inner).1 hbody
    obtain ⟨hhead, hlast⟩ := hends body hmem
    exact ⟨body, rfl, rfl, hmem, hhead ▸ hstart, hlast ▸ hend⟩
  · rintro ⟨w, rfl, rfl, hmem, hstart, hend⟩
    obtain ⟨hhead, hlast⟩ := hends body hmem
    exact ⟨hhead.symm ▸ hstart, ⟨[], rfl, (hwords []).2 ⟨hmem, rfl⟩⟩, hlast.symm ▸ hend⟩

/-- The pattern of a pass matches the lexemes of the pass that fit, with their groups. -/
theorem reads_pattern_iff {p : Pass} : p.pattern.Reads before body after gs ↔
    ∃ l : Lexeme, l.pass = p ∧ body = l.text ∧ gs = l.captures before.byteSize ∧
      l.Fits before.getLast? after.head? := by
  constructor
  · intro h
    cases p with
    | uri => obtain ⟨b, hb⟩ := reads_uri_iff.1 h; exact ⟨_, rfl, hb⟩
    | string => obtain ⟨b, hb⟩ := reads_string_iff.1 h; exact ⟨_, rfl, hb⟩
    | prefixedName => obtain ⟨x, y, hxy⟩ := reads_prefixedName_iff.1 h; exact ⟨_, rfl, hxy⟩
    | languageTag => obtain ⟨b, hb⟩ := reads_languageTag_iff.1 h; exact ⟨_, rfl, hb⟩
    | keyword => obtain ⟨w, hw⟩ := reads_keyword_iff.1 h; exact ⟨_, rfl, hw⟩
  · rintro ⟨l, rfl, h⟩
    cases l with
    | uri b => exact reads_uri_iff.2 ⟨b, h⟩
    | string b => exact reads_string_iff.2 ⟨b, h⟩
    | prefixedName x y => exact reads_prefixedName_iff.2 ⟨x, y, h⟩
    | languageTag b => exact reads_languageTag_iff.2 ⟨b, h⟩
    | keyword w => exact reads_keyword_iff.2 ⟨w, h⟩

end Pass

end TurtleMarkup
