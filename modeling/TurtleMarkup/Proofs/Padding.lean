import TurtleMarkup.Proofs.Tiling
import TurtleMarkup.Proofs.WholeLine

/-!
# Blanks around a line

Blank characters at the ends of a line change nothing but where its tokens stand.
No lexeme begins with a blank, and no lexeme that ends at the end of a text can be
made longer by a blank behind it, although IRI references and quoted strings may
contain blanks (`Pass.lexeme?_concat_blank`).  So a blank widens the first or the
last gap of a pass (`Pass.pieces_cons_blank`, `Pass.piecesAfter_concat_blank`),
and it stays in a gap through all passes.

A carriage return is such a blank, so sources whose lines end in a carriage return
and a line feed are highlighted like those with line feeds alone.
-/

namespace TurtleMarkup

/-! ## Blanks belong to no lexeme -/

namespace Text

variable {c : Char}

theorem toNat_of_isBlank (h : isBlank c = true) : c.toNat ≤ 32 ∨ 133 ≤ c.toNat := by
  simp only [isBlank, blankRanges, List.any_cons, List.any_nil, Bool.or_false, Bool.or_eq_true,
    Bool.and_eq_true, decide_eq_true_eq] at h
  omega

theorem toNat_of_isWordChar (h : isWordChar c = true) : 48 ≤ c.toNat ∧ c.toNat ≤ 122 := by
  change (decide (c.val ≥ 'A'.val ∧ c.val ≤ 'Z'.val) || (c.val ≥ 'a'.val && c.val ≤ 'z'.val)
    || (c.val ≥ '0'.val && c.val ≤ '9'.val) || c == '_') = true at h
  simp only [Bool.or_eq_true, decide_eq_true_eq, Bool.and_eq_true, beq_iff_eq, ge_iff_le,
    UInt32.le_iff_toNat_le] at h
  have hbounds : 'A'.val.toNat = 65 ∧ 'Z'.val.toNat = 90 ∧ 'a'.val.toNat = 97 ∧
      'z'.val.toNat = 122 ∧ '0'.val.toNat = 48 ∧ '9'.val.toNat = 57 := by decide
  rcases h with h | rfl
  · rw [Char.toNat]
    omega
  · decide

/-- No blank is an ASCII character that can be seen. -/
theorem ne_of_isBlank (h : isBlank c = true) {d : Char} (hd : 32 < d.toNat ∧ d.toNat < 133) :
    c ≠ d := by
  rintro rfl
  have hc := toNat_of_isBlank h
  omega

theorem stops_of_isBlank (h : isBlank c = true) : Lexeme.Stops c where
  word := by
    rw [← Bool.not_eq_true]
    intro hword
    have hblank := toNat_of_isBlank h
    have hrange := toNat_of_isWordChar hword
    omega
  hyphen := ne_of_isBlank h (by decide)
  colon := ne_of_isBlank h (by decide)

end Text

namespace Lexeme

variable {d : Char}

theorem languageTag?_append_stop (hd : Stops d) (hat : d ≠ '@') (t rest : Text) :
    languageTag? (t ++ d :: rest) = (languageTag? t).map (Prod.map id (· ++ d :: rest)) := by
  cases t with
  | nil => simp [languageTag?, hat]
  | cons c t =>
    by_cases hc : c = '@'
    · subst hc
      rw [List.cons_append, languageTag?, languageTag?, boundedRun?_append_stop hd hd.isTagChar,
        Option.map_map, Option.map_map]
      rfl
    · simp [languageTag?, hc]

theorem isPrefixOf_append_stop {w : Text} (hd : d ∉ w) (t rest : Text) :
    w.isPrefixOf (t ++ d :: rest) = w.isPrefixOf t := by
  rw [Bool.eq_iff_iff, List.isPrefixOf_iff_prefix, List.isPrefixOf_iff_prefix]
  constructor
  · intro h
    have hfront : t ++ [d] <+: t ++ d :: rest := ⟨rest, by simp⟩
    rcases List.prefix_or_prefix_of_prefix h hfront with hshort | hlong
    · rcases List.prefix_concat_iff.1 hshort with rfl | hprefix
      · simp at hd
      · exact hprefix
    · exact absurd (hlong.subset (by simp)) hd
  · intro h
    exact h.trans (List.prefix_append t _)

theorem word?_append_stop (hd : Text.isWordChar d = false) {w : Text} (hw : w ∈ keywords)
    (t rest : Text) :
    word? (t ++ d :: rest) w = (word? t w).map (Prod.map id (· ++ d :: rest)) := by
  have hmem : d ∉ w := by
    intro hdw
    rw [isWordChar_of_mem_keywords hw d hdw] at hd
    cases hd
  rw [word?, word?, isPrefixOf_append_stop hmem]
  cases hprefix : w.isPrefixOf t with
  | false => rfl
  | true =>
    obtain ⟨u, rfl⟩ := List.isPrefixOf_iff_prefix.1 hprefix
    rw [List.append_assoc, List.drop_left, List.drop_left, Text.isBoundary_head?_append_stop hd]
    split <;> rfl

theorem keyword?_append_stop (hd : Text.isWordChar d = false) (before : Option Char)
    (t rest : Text) :
    keyword? before (t ++ d :: rest)
      = (keyword? before t).map (Prod.map id (· ++ d :: rest)) := by
  have hwords : ∀ ws ⊆ keywords, ws.findSome? (word? (t ++ d :: rest))
      = (ws.findSome? (word? t)).map (Prod.map id (· ++ d :: rest)) := by
    intro ws hws
    induction ws with
    | nil => rfl
    | cons w ws ih =>
      rw [List.findSome?_cons, List.findSome?_cons, word?_append_stop hd (hws List.mem_cons_self)]
      cases word? t w with
      | none => exact ih fun v hv => hws (List.mem_cons_of_mem w hv)
      | some found => rfl
  rw [keyword?, keyword?, Text.isBoundary_head?_append_stop hd]
  split
  · exact hwords keywords (List.Subset.refl keywords)
  · rfl

theorem uri?_concat (hopen : d ≠ '<') (hclose : d ≠ '>') (t : Text) :
    uri? (t ++ [d]) = (uri? t).map (Prod.map id (· ++ [d])) := by
  cases t with
  | nil => simp [uri?, hopen]
  | cons c t =>
    by_cases hc : c = '<'
    · subst hc
      by_cases hmem : '>' ∈ t
      · -- the bracket closes where it did before
        obtain ⟨body, rest, rfl, hbody⟩ := List.eq_append_cons_of_mem hmem
        cases body with
        | nil => rfl
        | cons e body =>
          have hfits : ∀ after, Fits none (.uri (e :: body)) after := by
            intro after
            refine ⟨List.cons_ne_nil e body, ?_⟩
            rintro x hx rfl
            exact hbody hx
          have hshort := uri?_complete (hfits rest.head?)
          have hlong := uri?_complete (hfits (rest ++ [d]).head?)
          simp only [text, List.cons_append, List.append_assoc, List.nil_append] at hshort hlong ⊢
          rw [hshort, hlong]
          rfl
      · have hmem' : '>' ∉ t ++ [d] := by simp [hmem, hclose.symm]
        rw [List.cons_append, uri?_unclosed hmem, uri?_unclosed hmem']
        rfl
    · simp [uri?, hc]

theorem string?_concat (hquote : d ≠ '"') (t : Text) :
    string? (t ++ [d]) = (string? t).map (Prod.map id (· ++ [d])) := by
  cases t with
  | nil => simp [string?, hquote]
  | cons c t =>
    by_cases hc : c = '"'
    · subst hc
      by_cases hmem : '"' ∈ t
      · -- the quote closes where it did before
        obtain ⟨body, rest, rfl, hbody⟩ := List.eq_append_cons_of_mem hmem
        have hfits : ∀ after, Fits none (.string body) after := by
          rintro after x hx rfl
          exact hbody hx
        have hshort := string?_complete (hfits rest.head?)
        have hlong := string?_complete (hfits (rest ++ [d]).head?)
        simp only [text, List.cons_append, List.append_assoc, List.nil_append] at hshort hlong ⊢
        rw [hshort, hlong]
        rfl
      · have hmem' : '"' ∉ t ++ [d] := by simp [hmem, hquote.symm]
        rw [List.cons_append, string?_unclosed hmem, string?_unclosed hmem']
        rfl
    · simp [string?, hc]

end Lexeme

namespace Pass

variable {c : Char}

/-- A blank at the end of a text is left to the rest. -/
theorem lexeme?_concat_blank (p : Pass) (hc : Text.isBlank c = true) (before : Option Char)
    (t : Text) : p.lexeme? before (t ++ [c]) = (p.lexeme? before t).map (Prod.map id (· ++ [c])) := by
  have hstops := Text.stops_of_isBlank hc
  cases p with
  | uri =>
    exact Lexeme.uri?_concat (Text.ne_of_isBlank hc (by decide)) (Text.ne_of_isBlank hc (by decide)) t
  | string => exact Lexeme.string?_concat (Text.ne_of_isBlank hc (by decide)) t
  | prefixedName => exact Lexeme.prefixedName?_append_stop hstops before t []
  | languageTag =>
    exact Lexeme.languageTag?_append_stop hstops (Text.ne_of_isBlank hc (by decide)) t []
  | keyword => exact Lexeme.keyword?_append_stop hstops.word before t []

/-- No lexeme begins with a blank. -/
theorem lexeme?_cons_blank (p : Pass) (hc : Text.isBlank c = true) (t : Text) :
    p.lexeme? none (c :: t) = none := by
  have hstops := Text.stops_of_isBlank hc
  cases p with
  | uri => simp [lexeme?, Lexeme.uri?, Text.ne_of_isBlank hc (d := '<') (by decide)]
  | string => simp [lexeme?, Lexeme.string?, Text.ne_of_isBlank hc (d := '"') (by decide)]
  | prefixedName => simp [lexeme?, Lexeme.prefixedName?, hstops.isAlpha]
  | languageTag => simp [lexeme?, Lexeme.languageTag?, Text.ne_of_isBlank hc (d := '@') (by decide)]
  | keyword => simp [lexeme?, Lexeme.keyword?, Text.isBoundary, hstops.word]

end Pass

/-! ## Blanks stay in the gaps -/

namespace Piece

/-- One more character behind: it widens the gap there, or starts one. -/
def concatGap (c : Char) : List Piece → List Piece
  | [] => [.gap [c]]
  | [.gap t] => [.gap (t ++ [c])]
  | p :: ps => p :: concatGap c ps

theorem pushGap_concatGap (a c : Char) (ps : List Piece) :
    pushGap a (concatGap c ps) = concatGap c (pushGap a ps) := by
  rcases ps with _ | ⟨_ | _, _ | ⟨q, ps⟩⟩ <;> rfl

end Piece

namespace Pass

variable {c : Char}

theorem pieces_cons_blank (p : Pass) (hc : Text.isBlank c = true) (t : Text) :
    p.pieces (c :: t) = Piece.pushGap c (p.pieces t) := by
  rw [pieces, piecesAfter_of_none (p.lexeme?_cons_blank hc t),
    p.piecesAfter_of_not_word (Text.stops_of_isBlank hc).word]

theorem piecesAfter_concat_blank (p : Pass) (hc : Text.isBlank c = true) (before : Option Char)
    (t : Text) : p.piecesAfter before (t ++ [c]) = Piece.concatGap c (p.piecesAfter before t) := by
  fun_induction piecesAfter p before t with
  | case1 before =>
    have hnone : p.lexeme? before [c] = none := by
      simpa [lexeme?_nil] using p.lexeme?_concat_blank hc before []
    rw [List.nil_append, piecesAfter_of_none hnone, piecesAfter]
    rfl
  | case2 before a t l rest h ih =>
    have hfound : p.lexeme? before (a :: (t ++ [c])) = some (l, rest ++ [c]) := by
      simpa [h] using p.lexeme?_concat_blank hc before (a :: t)
    rw [List.cons_append, piecesAfter_of_some hfound, ih]
    rfl
  | case3 before a t h ih =>
    have hnone : p.lexeme? before (a :: (t ++ [c])) = none := by
      simpa [h] using p.lexeme?_concat_blank hc before (a :: t)
    rw [List.cons_append, piecesAfter_of_none hnone, ih, Piece.pushGap_concatGap]

end Pass

/-! ## Labelled tokens -/

namespace Token

/-- The tokens that are not plain. -/
def labelled (tokens : List Token) : List Token := tokens.filter (·.kind != .plain)

theorem labelled_append (a b : List Token) : labelled (a ++ b) = labelled a ++ labelled b :=
  List.filter_append a b

end Token

namespace Piece

variable {onGap : Nat → Text → List Token} {c : Char}

theorem labelled_tokensFrom_concatGap (hnil : ∀ pos, Token.labelled (onGap pos []) = [])
    (hconcat : ∀ pos t, Token.labelled (onGap pos (t ++ [c])) = Token.labelled (onGap pos t))
    (pos : Nat) (ps : List Piece) :
    Token.labelled (tokensFrom onGap pos (concatGap c ps))
      = Token.labelled (tokensFrom onGap pos ps) := by
  induction ps generalizing pos with
  | nil =>
    have hblank : Token.labelled (onGap pos [c]) = [] := by
      rw [← hnil pos]
      exact hconcat pos []
    show Token.labelled (onGap pos [c] ++ []) = []
    rw [List.append_nil, hblank]
  | cons p ps ih =>
    rcases p with t | l
    · cases ps with
      | nil =>
        show Token.labelled (onGap pos (t ++ [c]) ++ []) = Token.labelled (onGap pos t ++ [])
        rw [List.append_nil, List.append_nil, hconcat]
      | cons q ps =>
        rw [concatGap, tokensFrom, tokensFrom, Token.labelled_append, Token.labelled_append, ih]
        simp
    · rw [concatGap, tokensFrom, tokensFrom, Token.labelled_append, Token.labelled_append, ih]
      simp

end Piece

namespace Pass

variable {c : Char}

theorem labelled_tokensThrough_nil (ps : List Pass) (pos : Nat) :
    Token.labelled (tokensThrough ps pos []) = [] := by
  cases ps with
  | nil => rfl
  | cons p ps => rw [tokensThrough, pieces, piecesAfter]; rfl

theorem labelled_tokensThrough_cons_blank (hc : Text.isBlank c = true) (ps : List Pass) (pos : Nat)
    (t : Text) :
    Token.labelled (tokensThrough ps pos (c :: t))
      = Token.labelled (tokensThrough ps (pos + c.utf8Size) t) := by
  induction ps generalizing pos t with
  | nil => rfl
  | cons p ps ih =>
    rw [tokensThrough, tokensThrough, p.pieces_cons_blank hc]
    exact Piece.filter_tokensFrom_pushGap (labelled_tokensThrough_nil ps) ih pos (p.pieces t)

theorem labelled_tokensThrough_concat_blank (hc : Text.isBlank c = true) (ps : List Pass)
    (pos : Nat) (t : Text) :
    Token.labelled (tokensThrough ps pos (t ++ [c])) = Token.labelled (tokensThrough ps pos t) := by
  induction ps generalizing pos t with
  | nil => rfl
  | cons p ps ih =>
    rw [tokensThrough, tokensThrough, pieces, p.piecesAfter_concat_blank hc]
    exact Piece.labelled_tokensFrom_concatGap (labelled_tokensThrough_nil ps) ih pos (p.pieces t)

theorem labelled_classify_append_blanks (p : Pass) {w : Text}
    (hw : ∀ c ∈ w, Text.isBlank c = true) (pos : Nat) (t : Text) :
    Token.labelled (p.classify pos (t ++ w)) = Token.labelled (p.classify pos t) := by
  induction w generalizing t with
  | nil => rw [List.append_nil]
  | cons c w ih =>
    rw [List.append_cons, ih (fun d hd => hw d (List.mem_cons_of_mem c hd))]
    exact labelled_tokensThrough_concat_blank (hw c List.mem_cons_self) p.onward pos t

theorem labelled_classify_blanks_append (p : Pass) {w : Text}
    (hw : ∀ c ∈ w, Text.isBlank c = true) (pos : Nat) (t : Text) :
    Token.labelled (p.classify pos (w ++ t)) = Token.labelled (p.classify (pos + w.byteSize) t) := by
  induction w generalizing pos with
  | nil => rfl
  | cons c w ih =>
    rw [List.cons_append, classify,
      labelled_tokensThrough_cons_blank (hw c List.mem_cons_self), Text.byteSize_cons,
      ← Nat.add_assoc]
    exact ih (fun d hd => hw d (List.mem_cons_of_mem c hd)) (pos + c.utf8Size)

end Pass

/-! ## Lines -/

namespace Line

variable {w₁ w₂ : Text}

/-- Blanks do not decide whether a line is a comment. -/
theorem isCommentText_padded (h₁ : ∀ c ∈ w₁, Text.isBlank c = true)
    (h₂ : ∀ c ∈ w₂, Text.isBlank c = true) (t : Text) :
    isCommentText (w₁ ++ t ++ w₂) = isCommentText t := by
  have hnil : w₂.dropWhile Text.isBlank = [] := List.dropWhile_eq_nil_iff.2 h₂
  rw [isCommentText, isCommentText, List.append_assoc, List.dropWhile_append_of_pos h₁,
    List.dropWhile_append, hnil]
  cases t.dropWhile Text.isBlank with
  | nil => rfl
  | cons c t => rfl

theorem labelled_classify_padded (h₁ : ∀ c ∈ w₁, Text.isBlank c = true)
    (h₂ : ∀ c ∈ w₂, Text.isBlank c = true) {t : Text} (ht : isCommentText t = false) :
    Token.labelled (classify 0 (w₁ ++ t ++ w₂))
      = (Token.labelled (classify 0 t)).map (Token.shift w₁.byteSize) := by
  have hpadded : isCommentText (w₁ ++ t ++ w₂) = false := by
    rw [isCommentText_padded h₁ h₂, ht]
  rw [classify_of_not_comment hpadded, Pass.uri.labelled_classify_append_blanks h₂,
    Pass.uri.labelled_classify_blanks_append h₁, ← classify_of_not_comment ht, classify_add]
  exact List.filter_map

end Line

/-! ## Carriage returns -/

namespace Text

/-- The text with a carriage return before every line feed. -/
def withReturns (t : Text) : Text := t.flatMap fun c => if c = '\n' then ['\r', '\n'] else [c]

/-- The texts with a carriage return at the end of each but the last. -/
def returnsBetween : List Text → List Text
  | [] => []
  | [t] => [t]
  | t :: ts => (t ++ ['\r']) :: returnsBetween ts

theorem split_withReturns (t : Text) :
    split '\n' (withReturns t) = returnsBetween (split '\n' t) := by
  induction t with
  | nil => rfl
  | cons c t ih =>
    obtain ⟨u, us, hsplit⟩ := List.exists_cons_of_ne_nil (split_ne_nil '\n' t)
    by_cases hc : c = '\n'
    · subst hc
      show split '\n' ('\r' :: '\n' :: withReturns t) = returnsBetween (split '\n' ('\n' :: t))
      rw [split, if_neg (by decide), split, if_pos rfl, split, if_pos rfl, ih, hsplit]
      rfl
    · have hcons : withReturns (c :: t) = c :: withReturns t := by simp [withReturns, hc]
      rw [hcons, split, if_neg hc, split, if_neg hc, ih, hsplit]
      cases us <;> rfl

end Text

namespace SourceLine

/-- Carriage returns change the texts of the lines that end in a line feed. -/
theorem map_layOut_returnsBetween {α : Type} (f : Bool → Text → α) (start start' : Nat)
    (ts : List Text) :
    (layOut start' (Text.returnsBetween ts)).map (fun l => f l.terminated l.text)
      = (layOut start ts).map fun l =>
          f l.terminated (if l.terminated then l.text ++ ['\r'] else l.text) := by
  induction ts generalizing start start' with
  | nil => rfl
  | cons t ts ih =>
    cases ts with
    | nil => rfl
    | cons u us =>
      obtain ⟨v, vs, hrest⟩ : ∃ v vs, Text.returnsBetween (u :: us) = v :: vs := by
        cases us <;> exact ⟨_, _, rfl⟩
      have htail := ih (start + t.byteSize + 1) (start' + (t ++ ['\r']).byteSize + 1)
      rw [hrest] at htail
      rw [Text.returnsBetween, hrest, layOut_cons_cons, layOut_cons_cons, List.map_cons,
        List.map_cons, htail]
      · rfl
      · simp

end SourceLine

namespace Part

/-- The parts that are not plain. -/
def labelled (ps : List Part) : List Part := ps.filter (·.1 != .plain)

/-- A comment with a carriage return behind it; every other part stays as it is. -/
def addReturn (p : Part) : Part := if p.1 = .comment then (p.1, p.2 ++ ['\r']) else p

theorem map_labelled_layOut {s : Span} {source : Text} {ps : List Part}
    (h : s.Covers source (spell ps)) :
    (Token.labelled (Token.layOut s.start ps)).map (fun t => (t.kind, t.span.slice source))
      = labelled ps := by
  have hparts := Token.parts_layOut h
  calc (Token.labelled (Token.layOut s.start ps)).map (fun t => (t.kind, t.span.slice source))
      = labelled ((Token.layOut s.start ps).map fun t => (t.kind, t.span.slice source)) := by
        rw [labelled, List.filter_map]
        rfl
    _ = labelled ps := by rw [hparts]

end Part

namespace Line

theorem isBlank_return : ∀ c ∈ ['\r'], Text.isBlank c = true :=
  List.forall_mem_singleton.2 (by decide)

theorem isCommentText_concat_return (t : Text) :
    isCommentText (t ++ ['\r']) = isCommentText t := by
  have hnil : ∀ c ∈ ([] : Text), Text.isBlank c = true := by simp
  exact isCommentText_padded hnil isBlank_return t

theorem labelled_parts_of_not_comment {t : Text} (h : isCommentText t = false) :
    Part.labelled (parts (t ++ ['\r'])) = Part.labelled (parts t) := by
  have htokens : Token.labelled (classify 0 (t ++ ['\r'])) = Token.labelled (classify 0 t) := by
    rw [classify_of_not_comment h,
      classify_of_not_comment ((isCommentText_concat_return t).trans h)]
    exact Pass.uri.labelled_classify_append_blanks isBlank_return 0 t
  have hlong : Span.Covers ⟨0, (t ++ ['\r']).byteSize⟩ (t ++ ['\r'])
      (Part.spell (parts (t ++ ['\r']))) := by
    rw [spell_parts]
    exact Span.covers_self _
  have hshort : Span.Covers ⟨0, t.byteSize⟩ (t ++ ['\r']) (Part.spell (parts t)) := by
    rw [spell_parts]
    exact ⟨[], ['\r'], rfl, rfl, by simp⟩
  -- both are the slices of the same tokens
  rw [← Part.map_labelled_layOut hlong, ← Part.map_labelled_layOut hshort, ← classify_eq_layOut,
    ← classify_eq_layOut, htokens]

/-- A carriage return behind a line joins it if it is a comment, and changes no labelled part
otherwise. -/
theorem labelled_parts_concat_return (t : Text) :
    Part.labelled (parts (t ++ ['\r'])) = (Part.labelled (parts t)).map Part.addReturn := by
  cases ht : isCommentText t with
  | true =>
    rw [parts_of_comment ht, parts_of_comment ((isCommentText_concat_return t).trans ht)]
    rfl
  | false =>
    have hnone : ∀ part ∈ Part.labelled (parts t), part.addReturn = part := by
      intro part hpart
      have hmem : part ∈ parts t := List.mem_of_mem_filter hpart
      rw [parts_of_not_comment ht] at hmem
      exact if_neg (Pass.kind_ne_comment_of_mem_partsThrough hmem)
    rw [labelled_parts_of_not_comment ht, List.map_congr_left hnone, List.map_id']

end Line

namespace Block

/-- The lines of a highlighted block, read as their texts. -/
theorem map_lines_highlight {α : Type} (f : Bool → List Part → α) (source : Text) :
    (highlight source).lines.map (fun l => f l.terminated ((highlight source).parts l))
      = (SourceLine.ofSource source).map fun l => f l.terminated (Line.parts l.text) := by
  rw [highlight, List.map_map]
  refine List.map_congr_left ?_
  intro l hl
  show f l.terminated ((highlight source).parts (Line.ofSourceLine l)) = _
  rw [parts_highlight hl]

theorem ofSource_withReturns {α : Type} (f : Bool → Text → α) (source : Text) :
    (SourceLine.ofSource (Text.withReturns source)).map (fun l => f l.terminated l.text)
      = (SourceLine.ofSource source).map fun l =>
          f l.terminated (if l.terminated then l.text ++ ['\r'] else l.text) := by
  by_cases hempty : source = []
  · subst hempty
    rfl
  · have hne : Text.withReturns source ≠ [] := by
      obtain ⟨c, t, rfl⟩ := List.exists_cons_of_ne_nil hempty
      by_cases hc : c = '\n' <;> simp [Text.withReturns, hc]
    rw [SourceLine.ofSource, SourceLine.ofSource, if_neg (by simpa using hne),
      if_neg (by simpa using hempty), Text.split_withReturns]
    exact SourceLine.map_layOut_returnsBetween f 0 0 _

/-- Carriage returns before the line feeds of a source join its comments and change no other
labelled part of a line. -/
theorem labelled_parts_withReturns (source : Text) :
    (highlight (Text.withReturns source)).lines.map
        (fun l => (l.terminated, Part.labelled ((highlight (Text.withReturns source)).parts l)))
      = (highlight source).lines.map fun l =>
          (l.terminated,
            if l.terminated then (Part.labelled ((highlight source).parts l)).map Part.addReturn
            else Part.labelled ((highlight source).parts l)) := by
  rw [map_lines_highlight fun terminated ps => (terminated, Part.labelled ps),
    map_lines_highlight fun terminated ps =>
      (terminated, if terminated then (Part.labelled ps).map Part.addReturn else Part.labelled ps),
    ofSource_withReturns fun terminated t => (terminated, Part.labelled (Line.parts t))]
  refine List.map_congr_left ?_
  intro l _
  cases l.terminated with
  | true => simp only [if_true, Line.labelled_parts_concat_return]
  | false => rfl

end Block

/-- **Blanks around a line do not affect its classification.**  Blanks before and behind a line do
not make a comment of it or take one away.  If it is no comment, its labelled tokens keep their
categories and their order and move by the blanks before the line.  Hence carriage returns before
the line feeds of a source join its comments and leave all other labelled parts as they are. -/
theorem Line.classify_ignores_padding :
    (∀ w₁ line w₂ : Text, (∀ c ∈ w₁, Text.isBlank c = true) → (∀ c ∈ w₂, Text.isBlank c = true) →
      isCommentText (w₁ ++ line ++ w₂) = isCommentText line ∧
        (isCommentText line = false →
          Token.labelled (classify 0 (w₁ ++ line ++ w₂))
            = (Token.labelled (classify 0 line)).map (Token.shift w₁.byteSize))) ∧
      ∀ source : Text,
        (Block.highlight (Text.withReturns source)).lines.map (fun l =>
            (l.terminated,
              Part.labelled ((Block.highlight (Text.withReturns source)).parts l)))
          = (Block.highlight source).lines.map fun l =>
              (l.terminated,
                if l.terminated then
                  (Part.labelled ((Block.highlight source).parts l)).map Part.addReturn
                else Part.labelled ((Block.highlight source).parts l)) := by
  refine ⟨?_, Block.labelled_parts_withReturns⟩
  intro w₁ line w₂ h₁ h₂
  exact ⟨isCommentText_padded h₁ h₂ line, labelled_classify_padded h₁ h₂⟩

/-- An ideographic space takes three bytes, so behind it the reserved word stands at the third. -/
theorem Line.classify_ignores_padding_ideographic :
    (∀ c ∈ ['\u3000'], Text.isBlank c = true) ∧ (∀ c ∈ ['\r'], Text.isBlank c = true) ∧
      isCommentText ['a', ' ', '"'] = false ∧
      Token.labelled (classify 0 (['\u3000'] ++ ['a', ' ', '"'] ++ ['\r']))
        = [⟨.keyword, ⟨3, 4⟩⟩] := by
  have hspace : ∀ c ∈ ['\u3000'], Text.isBlank c = true :=
    List.forall_mem_singleton.2 (by decide)
  refine ⟨hspace, isBlank_return, by decide, ?_⟩
  rw [(Line.classify_ignores_padding.1 _ _ _ hspace isBlank_return).2 (by decide)]
  decide +kernel

end TurtleMarkup
