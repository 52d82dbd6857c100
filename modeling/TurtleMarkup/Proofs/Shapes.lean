import TurtleMarkup.Proofs.Runs
import TurtleMarkup.Proofs.Words

/-!
# The shapes of tokens

Each category says what the text of its tokens looks like (`Kind.Shape`).  A lexeme
has the right shape where it is recognised (`Pass.shape_of_lexeme?`), and no later
pass touches it, so the parts of a line keep their shapes
(`Pass.shape_of_mem_partsThrough`).

Three things need more than one lexeme.  A string has no IRI reference inside,
because it was found in a gap that is clear of them.  The two halves of a name stand
on either side of a plain colon, because they come from one lexeme.  And no token
has a line feed, because no line has one.
-/

namespace TurtleMarkup

/-! ## Shapes -/

/-- An IRI reference: `<`, one or more characters other than `>`, and `>`. -/
def Text.IsUri (t : Text) : Prop := ∃ body, t = '<' :: (body ++ ['>']) ∧ body ≠ [] ∧ '>' ∉ body

/-- The first character that is not blank is `#`. -/
def Text.StartsComment (t : Text) : Prop :=
  ∃ blanks rest, t = blanks ++ '#' :: rest ∧ ∀ c ∈ blanks, isBlank c = true

/-- What the text of a token of a category looks like. -/
def Kind.Shape : Kind → Text → Prop
  | .comment, t => t.StartsComment
  | .uri, t => t.IsUri
  | .string, t => ∃ body, t = '"' :: (body ++ ['"']) ∧ '"' ∉ body
  | .namespacePart, t => Text.IsName Char.isAlphanum t
  | .localPart, t => Text.IsName Lexeme.isNameChar t ∧ t.getLast? ≠ some '-'
  | .languageTag, t => ∃ body, t = '@' :: body ∧ Text.IsName Lexeme.isTagChar body
  | .keyword, t => t ∈ Lexeme.keywords
  | .plain, _ => True

namespace Lexeme

theorem exists_boundedRun?_of_prefixedName? {before : Option Char} {t rest space name : Text}
    (h : prefixedName? before t = some (.prefixedName space name, rest)) :
    ∃ u, boundedRun? isNameChar u = some (name, rest) := by
  unfold prefixedName? at h
  split at h
  · split at h
    · rename_i u _
      obtain ⟨⟨name', rest'⟩, hrun, heq⟩ := Option.map_eq_some_iff.1 h
      simp only [Prod.mk.injEq, prefixedName.injEq] at heq
      obtain ⟨⟨-, rfl⟩, rfl⟩ := heq
      exact ⟨u, hrun⟩
    · cases h
  · cases h

theorem Fits.isUri {before after : Option Char} {body : Text} (h : Fits before (.uri body) after) :
    (text (.uri body)).IsUri :=
  ⟨body, rfl, h.1, fun hmem => h.2 '>' hmem rfl⟩

end Lexeme

namespace Pass

variable {p : Pass} {ps : List Pass} {t u : Text} {part : Part}

/-- The parts of a lexeme have the shapes of their categories. -/
theorem shape_of_lexeme? {before : Option Char} {rest : Text} {l : Lexeme}
    (h : p.lexeme? before t = some (l, rest)) (hpart : part ∈ l.parts) : part.1.Shape part.2 := by
  obtain rfl := pass_of_lexeme? h
  have hfits := fits_of_lexeme? h
  cases l with
  | uri body =>
    obtain rfl := List.mem_singleton.1 hpart
    exact hfits.isUri
  | string body =>
    obtain rfl := List.mem_singleton.1 hpart
    exact ⟨body, rfl, fun hmem => hfits '"' hmem rfl⟩
  | prefixedName space name =>
    obtain ⟨-, hspace, hname, -⟩ := hfits
    simp only [Lexeme.parts, List.mem_cons, List.not_mem_nil, or_false] at hpart
    rcases hpart with rfl | rfl | rfl
    · exact hspace
    · trivial
    · obtain ⟨v, hrun⟩ := Lexeme.exists_boundedRun?_of_prefixedName? h
      exact ⟨hname, (Lexeme.ends_of_boundedRun?_isNameChar hrun).1⟩
  | languageTag body =>
    obtain rfl := List.mem_singleton.1 hpart
    exact ⟨body, rfl, hfits.1⟩
  | keyword word =>
    obtain rfl := List.mem_singleton.1 hpart
    exact hfits.1

theorem shape_of_mem_partsThrough (h : part ∈ partsThrough ps t) : part.1.Shape part.2 := by
  induction ps generalizing t with
  | nil =>
    obtain rfl := List.mem_singleton.1 h
    trivial
  | cons p ps ih =>
    obtain ⟨piece, hpiece, hpart⟩ := List.mem_flatMap.1 h
    cases piece with
    | gap g => exact ih hpart
    | found l =>
      obtain ⟨before, v, rest, hl⟩ := exists_lexeme?_of_mem_pieces hpiece
      exact shape_of_lexeme? hl hpart

end Pass

/-- A part is a stretch of the text that the parts spell. -/
theorem Part.isInfix_spell {ps : List Part} {part : Part} (h : part ∈ ps) :
    part.2 <:+: spell ps := by
  obtain ⟨P, Q, rfl⟩ := List.append_of_mem h
  exact ⟨spell P, spell Q, by simp⟩

/-! ## What stands inside a string -/

namespace Pass

variable {ps : List Pass} {t u : Text}

/-- There is no IRI reference in a text that is clear of them. -/
theorem Clear.not_isInfix (h : Pass.uri.Clear t) (hu : u.IsUri) : ¬ u <:+: t := by
  rintro ⟨x, y, rfl⟩
  obtain ⟨body, rfl, hne, hbody⟩ := hu
  refine Clear.not_fits (l := .uri body) h ⟨hne, ?_⟩
  rintro c hc rfl
  exact hbody hc

/-- A string contains no IRI reference. -/
theorem not_isInfix_of_string {w : Text} (h : (Kind.string, w) ∈ partsThrough (.uri :: ps) t)
    (hu : u.IsUri) : ¬ u <:+: w := by
  intro hstretch
  obtain ⟨piece, hpiece, hpart⟩ := List.mem_flatMap.1 h
  obtain ⟨a, b, hab⟩ := List.append_of_mem hpiece
  cases piece with
  | gap g =>
    have hgap : w <:+: g := by
      rw [← spell_partsThrough ps g]
      exact Part.isInfix_spell hpart
    exact (clear_of_pieces hab).not_isInfix hu (hstretch.trans hgap)
  | found l =>
    have hkind := Lexeme.kind_of_mem_parts hpart
    rw [(fits_of_pieces hab).1] at hkind
    simp [kinds] at hkind

/-! ## The two halves of a name -/

variable {P Q : List Part} {w : Text}

/-- Behind the first half of a name stand a plain colon and the second half. -/
theorem exists_local_of_namespace (h : partsThrough ps t = P ++ (.namespacePart, w) :: Q) :
    ∃ name Q', Q = (.plain, [':']) :: (.localPart, name) :: Q' := by
  obtain ⟨l, P', L, R, Q', -, hparts, rfl, rfl, -⟩ := exists_fits_of_partsThrough h (by decide)
  have hmem : (Kind.namespacePart, w) ∈ l.parts := by simp [hparts]
  cases l with
  | prefixedName space name =>
    rcases L with _ | ⟨x, _ | ⟨y, _ | ⟨z, L⟩⟩⟩
    · obtain ⟨-, rfl⟩ := List.cons.inj hparts
      exact ⟨name, Q', rfl⟩
    · simp [Lexeme.parts] at hparts
    · simp [Lexeme.parts] at hparts
    · simp [Lexeme.parts] at hparts
  | uri | string | languageTag | keyword => simp [Lexeme.parts] at hmem

/-- Before the second half of a name stand the first half and a plain colon. -/
theorem exists_namespace_of_local (h : partsThrough ps t = P ++ (.localPart, w) :: Q) :
    ∃ space P', P = P' ++ [(.namespacePart, space), (.plain, [':'])] := by
  obtain ⟨l, P', L, R, Q', -, hparts, rfl, rfl, -⟩ := exists_fits_of_partsThrough h (by decide)
  have hmem : (Kind.localPart, w) ∈ l.parts := by simp [hparts]
  cases l with
  | prefixedName space name =>
    rcases L with _ | ⟨x, _ | ⟨y, _ | ⟨z, L⟩⟩⟩
    · simp [Lexeme.parts] at hparts
    · simp [Lexeme.parts] at hparts
    · obtain ⟨rfl, hrest⟩ := List.cons.inj hparts
      obtain ⟨rfl, -⟩ := List.cons.inj hrest
      exact ⟨space, P', rfl⟩
    · simp [Lexeme.parts] at hparts
  | uri | string | languageTag | keyword => simp [Lexeme.parts] at hmem

end Pass

/-! ## Lines -/

theorem SourceLine.map_text_layOut (start : Nat) (ts : List Text) :
    (layOut start ts).map SourceLine.text = ts := by
  induction ts generalizing start with
  | nil => rfl
  | cons t ts ih =>
    cases ts with
    | nil => rfl
    | cons u us => rw [layOut_cons_cons, List.map_cons, ih]

/-- No line has a line feed. -/
theorem SourceLine.feed_not_mem {source : Text} {l : SourceLine} (hl : l ∈ ofSource source) :
    '\n' ∉ l.text := by
  unfold ofSource at hl
  split at hl
  · cases hl
  · have hmem := List.mem_map_of_mem (f := SourceLine.text) hl
    rw [map_text_layOut] at hmem
    exact Text.not_mem_of_mem_split hmem

namespace Line

variable {t : Text}

theorem isCommentText_iff : isCommentText t = true ↔ t.StartsComment := by
  rw [isCommentText, beq_iff_eq]
  constructor
  · intro h
    obtain ⟨rest, hrest⟩ := List.head?_eq_some_iff.1 h
    refine ⟨t.takeWhile Text.isBlank, rest, ?_, fun c hc => List.mem_takeWhile_imp hc⟩
    have hsplit := List.takeWhile_append_dropWhile (p := Text.isBlank) (l := t)
    rw [hrest] at hsplit
    exact hsplit.symm
  · rintro ⟨blanks, rest, rfl, hblanks⟩
    rw [Text.dropWhile_run hblanks (by decide)]
    rfl

/-- A part of a line is a comment exactly if the line is one. -/
theorem comment_mem_parts_iff : (∃ u, (Kind.comment, u) ∈ parts t) ↔ isCommentText t = true := by
  constructor
  · rintro ⟨u, hu⟩
    by_contra hline
    rw [parts_of_not_comment (by simpa using hline)] at hu
    exact Pass.kind_ne_comment_of_mem_partsThrough hu rfl
  · intro h
    exact ⟨t, by rw [parts_of_comment h]; exact List.mem_cons_self⟩

/-- The parts of a line are the one part of a comment, or what the passes give. -/
theorem parts_cases (t : Text) :
    (isCommentText t = true ∧ parts t = [(.comment, t)]) ∨
      parts t = Pass.partsThrough Pass.order t := by
  cases h : isCommentText t with
  | true => exact Or.inl ⟨rfl, parts_of_comment h⟩
  | false => exact Or.inr (parts_of_not_comment h)

theorem shape_of_mem_parts {part : Part} (h : part ∈ parts t) : part.1.Shape part.2 := by
  rcases parts_cases t with ⟨hline, hparts⟩ | hparts
  · rw [hparts] at h
    obtain rfl := List.mem_singleton.1 h
    exact isCommentText_iff.1 hline
  · rw [hparts] at h
    exact Pass.shape_of_mem_partsThrough h

theorem not_isInfix_of_string {u w : Text} (h : (Kind.string, w) ∈ parts t) (hu : u.IsUri) :
    ¬ u <:+: w := by
  rcases parts_cases t with ⟨-, hparts⟩ | hparts
  · simp [hparts] at h
  · rw [hparts] at h
    exact Pass.not_isInfix_of_string h hu

theorem exists_local_of_namespace {P Q : List Part} {w : Text}
    (h : parts t = P ++ (.namespacePart, w) :: Q) :
    ∃ name Q', Q = (.plain, [':']) :: (.localPart, name) :: Q' := by
  rcases parts_cases t with ⟨-, hparts⟩ | hparts
  · have hmem : (Kind.namespacePart, w) ∈ parts t := by simp [h]
    simp [hparts] at hmem
  · exact Pass.exists_local_of_namespace (hparts.symm.trans h)

theorem exists_namespace_of_local {P Q : List Part} {w : Text}
    (h : parts t = P ++ (.localPart, w) :: Q) :
    ∃ space P', P = P' ++ [(.namespacePart, space), (.plain, [':'])] := by
  rcases parts_cases t with ⟨-, hparts⟩ | hparts
  · have hmem : (Kind.localPart, w) ∈ parts t := by simp [h]
    simp [hparts] at hmem
  · exact Pass.exists_namespace_of_local (hparts.symm.trans h)

end Line

namespace Block

variable {source : Text} {l : SourceLine}

/-- A line of a highlighted block that is a comment has one token, which covers the line. -/
theorem tokens_of_comment (hl : l ∈ SourceLine.ofSource source)
    (h : Line.isCommentText l.text = true) :
    (Line.ofSourceLine l).tokens = [⟨.comment, l.span⟩] := by
  have hspan : Span.mk l.span.start (l.span.start + l.text.byteSize) = l.span := by
    rw [← (SourceLine.covers_of_mem_ofSource hl).stop_eq]
  rw [Line.ofSourceLine, Line.classify_eq_layOut, Line.parts_of_comment h, Token.layOut_cons,
    Token.layOut_nil, Token.covering, hspan]

/-- A line of a highlighted block has a comment token exactly if its text starts a comment. -/
theorem exists_comment_iff (l : SourceLine) :
    (∃ t ∈ (Line.ofSourceLine l).tokens, t.kind = .comment) ↔
      Line.isCommentText l.text = true := by
  have hkinds : (Line.ofSourceLine l).tokens.map Token.kind = (Line.parts l.text).map Prod.fst := by
    rw [Line.ofSourceLine, Line.classify_eq_layOut, Token.map_kind_layOut]
  rw [← Line.comment_mem_parts_iff, ← List.mem_map, hkinds, List.mem_map]
  constructor
  · rintro ⟨⟨k, u⟩, hu, rfl⟩
    exact ⟨u, hu⟩
  · rintro ⟨u, hu⟩
    exact ⟨_, hu, rfl⟩

theorem isComment_iff (hl : l ∈ SourceLine.ofSource source) :
    (Line.ofSourceLine l).isComment = true ↔ Line.isCommentText l.text = true := by
  constructor
  · intro h
    rw [← exists_comment_iff]
    unfold Line.isComment at h
    split at h
    · rename_i t htokens
      exact ⟨t, by simp [htokens], beq_iff_eq.1 h⟩
    · cases h
  · intro h
    rw [Line.isComment, tokens_of_comment hl h]
    rfl

/-- **Tokens have the shapes of their categories.**  A line of a highlighted block has a comment
token exactly if its first character that is not blank is `#`, and then that token is the only one
and covers the line.  The text of every token has the shape of its category and no line feed, no
string contains an IRI reference, and the two halves of a name stand on either side of a plain
colon, neither without the other. -/
theorem highlight_tokens_have_shape (source : Text) :
    ∀ l ∈ (highlight source).lines,
      ((∃ t ∈ l.tokens, t.kind = .comment) ↔ ((highlight source).text l.span).StartsComment) ∧
        (l.isComment = true ↔ ((highlight source).text l.span).StartsComment) ∧
        (((highlight source).text l.span).StartsComment → l.tokens = [⟨.comment, l.span⟩]) ∧
        (∀ part ∈ (highlight source).parts l, part.1.Shape part.2 ∧ '\n' ∉ part.2) ∧
        (∀ u v : Text, (Kind.string, u) ∈ (highlight source).parts l → v.IsUri → ¬ v <:+: u) ∧
        (∀ P w Q, (highlight source).parts l = P ++ (.namespacePart, w) :: Q →
          ∃ name Q', Q = (.plain, [':']) :: (.localPart, name) :: Q') ∧
        ∀ P w Q, (highlight source).parts l = P ++ (.localPart, w) :: Q →
          ∃ space P', P = P' ++ [(.namespacePart, space), (.plain, [':'])] := by
  intro l hl
  obtain ⟨s, hs, rfl⟩ := List.mem_map.1 hl
  have htext : (highlight source).text (Line.ofSourceLine s).span = s.text :=
    (SourceLine.covers_of_mem_ofSource hs).slice_eq
  rw [htext, parts_highlight hs, ← Line.isCommentText_iff]
  refine ⟨exists_comment_iff s, isComment_iff hs, tokens_of_comment hs, ?_, ?_, ?_, ?_⟩
  · intro part hpart
    refine ⟨Line.shape_of_mem_parts hpart, ?_⟩
    intro hfeed
    have hstretch := Part.isInfix_spell hpart
    rw [Line.spell_parts] at hstretch
    exact SourceLine.feed_not_mem hs (hstretch.subset hfeed)
  · intro u v hu hv
    exact Line.not_isInfix_of_string hu hv
  · intro P w Q h
    exact Line.exists_local_of_namespace h
  · intro P w Q h
    exact Line.exists_namespace_of_local h

/-- An indented comment and a line with a name whose hyphen is left out. -/
def twoLines : Text := " # <x>\ne:b- \"<\"@en".toList

/-- The first line is a comment in spite of its brackets; in the second the local name ends before
the hyphen. -/
theorem highlight_tokens_have_shape_twoLines :
    (⟨⟨0, 6⟩, [⟨.comment, ⟨0, 6⟩⟩], true⟩ : Line) ∈ (highlight twoLines).lines ∧
      ((highlight twoLines).text ⟨0, 6⟩).StartsComment ∧
      Kind.Shape .localPart ['b'] ∧ Kind.Shape .languageTag "@en".toList := by
  have hfirst : (⟨⟨0, 6⟩, [⟨.comment, ⟨0, 6⟩⟩], true⟩ : Line) ∈ (highlight twoLines).lines := by
    decide +kernel
  obtain ⟨l, hl, hlocal, htag⟩ : ∃ l ∈ (highlight twoLines).lines,
      (Kind.localPart, ['b']) ∈ (highlight twoLines).parts l ∧
        (Kind.languageTag, "@en".toList) ∈ (highlight twoLines).parts l := by
    decide +kernel
  obtain ⟨hcomment, -⟩ := highlight_tokens_have_shape twoLines _ hfirst
  obtain ⟨-, -, -, hshape, -⟩ := highlight_tokens_have_shape twoLines l hl
  exact ⟨hfirst, hcomment.1 ⟨_, List.mem_cons_self, rfl⟩, (hshape _ hlocal).1, (hshape _ htag).1⟩

end Block

end TurtleMarkup
