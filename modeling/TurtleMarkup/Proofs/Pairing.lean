import TurtleMarkup.Proofs.Tiling
import TurtleMarkup.Proofs.WholeLine

/-!
# Brackets and quotes that stay alone

A `<` outside all IRI references is one that nothing could close: it stands right
before a `>`, or there is no `>` behind it (`Line.unclosed_of_unclaimed`).

Quoted strings are looked for only between the IRI references.  In each stretch of
a line between two of them the quotes pair up in order, the first with the second,
the third with the fourth and so on, and at most the last one stays alone
(`Pass.spans_classify_string`, `Span.not_holds_pairUp_iff`).

`Line.stretches` reads the stretches off the tokens.  Each is what stands in one gap
of the first pass, or empty (`Piece.exists_of_mem_stretchesFrom`), and it is
classified as if it stood alone (`Line.exists_classify_eq_of_mem_stretches`).
-/

namespace TurtleMarkup

/-! ## Offsets in pairs -/

namespace Span

/-- Whether the byte at an offset lies in the span. -/
def holds (s : Span) (i : Nat) : Bool := s.start ≤ i && i < s.stop

theorem holds_iff {s : Span} {i : Nat} : s.holds i = true ↔ s.start ≤ i ∧ i < s.stop := by
  rw [holds, Bool.and_eq_true, decide_eq_true_iff, decide_eq_true_iff]

theorem within_iff {a b : Span} : a.within b = true ↔ b.start ≤ a.start ∧ a.stop ≤ b.stop := by
  rw [within, Bool.and_eq_true, decide_eq_true_iff, decide_eq_true_iff]

/-- The spans from the first offset to behind the second, from the third to behind the fourth, and
so on; a last offset without a partner is left out. -/
def pairUp : List Nat → List Span
  | i :: j :: rest => ⟨i, j + 1⟩ :: pairUp rest
  | _ => []

/-- Of offsets in ascending order only the last can be outside all pairs, and it is if their number
is odd. -/
theorem not_holds_pairUp_iff {offsets : List Nat} (h : offsets.Pairwise (· < ·)) {i : Nat}
    (hi : i ∈ offsets) :
    (∀ s ∈ pairUp offsets, s.holds i = false) ↔
      offsets.length % 2 = 1 ∧ offsets.getLast? = some i := by
  fun_induction pairUp offsets with
  | case1 a b rest ih =>
    obtain ⟨ha, hrest⟩ := List.pairwise_cons.1 h
    obtain ⟨hb, hrest⟩ := List.pairwise_cons.1 hrest
    have hab := ha b List.mem_cons_self
    have hlast : rest ≠ [] → (a :: b :: rest).getLast? = rest.getLast? := by
      intro hne
      rw [List.getLast?_cons_of_ne_nil (List.cons_ne_nil b rest), List.getLast?_cons_of_ne_nil hne]
    by_cases hmem : i ∈ rest
    · -- the first pair ends before `i`
      have hfirst : holds ⟨a, b + 1⟩ i = false := by
        rw [← Bool.not_eq_true, holds_iff]
        show ¬ (a ≤ i ∧ i < b + 1)
        have hbi := hb i hmem
        omega
      have hparity : (a :: b :: rest).length % 2 = rest.length % 2 := by
        rw [List.length_cons, List.length_cons]
        omega
      rw [List.forall_mem_cons, ih hrest hmem, hlast (List.ne_nil_of_mem hmem), hparity]
      exact and_iff_right hfirst
    · -- the first pair holds `i`, and the last offset is another one
      have hfirst : holds ⟨a, b + 1⟩ i = true := by
        rw [holds_iff]
        show a ≤ i ∧ i < b + 1
        simp only [List.mem_cons, hmem, or_false] at hi
        omega
      constructor
      · intro hnone
        rw [hnone _ List.mem_cons_self] at hfirst
        cases hfirst
      · rintro ⟨hodd, hlast'⟩
        have hne : rest ≠ [] := by
          rintro rfl
          exact absurd hodd (by simp)
        rw [hlast hne] at hlast'
        exact absurd (List.mem_of_getLast? hlast') hmem
  | case2 offsets hshort =>
    rcases offsets with _ | ⟨a, _ | ⟨b, rest⟩⟩
    · cases hi
    · obtain rfl := List.mem_singleton.1 hi
      simp
    · exact absurd rfl (hshort a b rest)

end Span

namespace Text

/-- Where a character occurs in a text that begins at `pos`. -/
def offsetsFrom (d : Char) (pos : Nat) : Text → List Nat
  | [] => []
  | c :: t =>
    if c = d then pos :: offsetsFrom d (pos + c.utf8Size) t
    else offsetsFrom d (pos + c.utf8Size) t

variable {d : Char} {pos : Nat} {t : Text}

theorem offsetsFrom_cons_self (d : Char) (pos : Nat) (t : Text) :
    offsetsFrom d pos (d :: t) = pos :: offsetsFrom d (pos + d.utf8Size) t :=
  if_pos rfl

theorem offsetsFrom_cons_of_ne {c : Char} (h : c ≠ d) (pos : Nat) (t : Text) :
    offsetsFrom d pos (c :: t) = offsetsFrom d (pos + c.utf8Size) t :=
  if_neg h

theorem offsetsFrom_append (d : Char) (pos : Nat) (a b : Text) :
    offsetsFrom d pos (a ++ b) = offsetsFrom d pos a ++ offsetsFrom d (pos + a.byteSize) b := by
  induction a generalizing pos with
  | nil => rfl
  | cons c a ih =>
    rw [List.cons_append, byteSize_cons, ← Nat.add_assoc]
    by_cases hc : c = d
    · subst hc
      rw [offsetsFrom_cons_self, offsetsFrom_cons_self, ih, List.cons_append]
    · rw [offsetsFrom_cons_of_ne hc, offsetsFrom_cons_of_ne hc, ih]

theorem offsetsFrom_of_not_mem (h : d ∉ t) (pos : Nat) : offsetsFrom d pos t = [] := by
  induction t generalizing pos with
  | nil => rfl
  | cons c t ih =>
    rw [List.mem_cons, not_or] at h
    rw [offsetsFrom_cons_of_ne (Ne.symm h.1), ih h.2]

theorem bounds_of_mem_offsetsFrom {i : Nat} (h : i ∈ offsetsFrom d pos t) :
    pos ≤ i ∧ i < pos + t.byteSize := by
  induction t generalizing pos with
  | nil => simp [offsetsFrom] at h
  | cons c t ih =>
    have hpos := c.utf8Size_pos
    rw [byteSize_cons]
    by_cases hc : c = d
    · subst hc
      rw [offsetsFrom_cons_self] at h
      rcases List.mem_cons.1 h with rfl | h
      · omega
      · have hbounds := ih h
        omega
    · rw [offsetsFrom_cons_of_ne hc] at h
      have hbounds := ih h
      omega

theorem pairwise_offsetsFrom (d : Char) (pos : Nat) (t : Text) :
    (offsetsFrom d pos t).Pairwise (· < ·) := by
  induction t generalizing pos with
  | nil => exact List.Pairwise.nil
  | cons c t ih =>
    by_cases hc : c = d
    · subst hc
      rw [offsetsFrom_cons_self, List.pairwise_cons]
      refine ⟨?_, ih _⟩
      intro i hi
      have hbounds := bounds_of_mem_offsetsFrom hi
      have hpos := c.utf8Size_pos
      omega
    · rw [offsetsFrom_cons_of_ne hc]
      exact ih _

/-- The occurrences in a covered stretch are those in its text. -/
theorem filter_holds_offsetsFrom {s : Span} {source u : Text} (h : s.Covers source u) (d : Char) :
    (offsetsFrom d 0 source).filter s.holds = offsetsFrom d s.start u := by
  obtain ⟨before, after, rfl, hstart, hstop⟩ := h
  have hbefore : (offsetsFrom d 0 before).filter s.holds = [] := by
    rw [List.filter_eq_nil_iff]
    intro i hi hholds
    have hbounds := bounds_of_mem_offsetsFrom hi
    have hin := Span.holds_iff.1 hholds
    omega
  have hinside : (offsetsFrom d before.byteSize u).filter s.holds = offsetsFrom d before.byteSize u := by
    rw [List.filter_eq_self]
    intro i hi
    have hbounds := bounds_of_mem_offsetsFrom hi
    rw [Span.holds_iff]
    omega
  have hafter : (offsetsFrom d (before ++ u).byteSize after).filter s.holds = [] := by
    rw [List.filter_eq_nil_iff]
    intro i hi hholds
    have hbounds := bounds_of_mem_offsetsFrom hi
    have hin := Span.holds_iff.1 hholds
    rw [byteSize_append] at hbounds
    omega
  rw [offsetsFrom_append, offsetsFrom_append, List.filter_append, List.filter_append, Nat.zero_add,
    Nat.zero_add, hbefore, hinside, hafter, List.nil_append, List.append_nil, hstart]

end Text

/-! ## Quoted strings of a text -/

namespace Pass

/-- A text has no tokens of a category that no pass from there on gives. -/
theorem kind_ne_of_mem_classify {p : Pass} {kind : Kind} (hplain : kind ≠ .plain)
    (hkinds : ∀ q ∈ p.onward, kind ∉ q.kinds) (pos : Nat) (t : Text) :
    ∀ token ∈ p.classify pos t, token.kind ≠ kind := by
  rintro token htoken rfl
  rcases kind_of_mem_classify htoken with h | ⟨q, hq, hmem⟩
  · exact hplain h
  · exact hkinds q hq hmem

theorem filter_string_forward (pos : Nat) (t : Text) :
    (Pass.string.forward pos t).filter (·.kind == .string) = [] := by
  rw [List.filter_eq_nil_iff]
  intro token htoken hkind
  have hne : token.kind ≠ .string :=
    kind_ne_of_mem_classify (p := .prefixedName) (by decide) (by decide) pos t token htoken
  exact hne (beq_iff_eq.1 hkind)

theorem spans_tokensFrom_string (before : Option Char) (pos : Nat) (t : Text) :
    ((Piece.tokensFrom Pass.string.forward pos (Pass.string.piecesAfter before t)).filter
        (·.kind == .string)).map Token.span
      = Span.pairUp (Text.offsetsFrom '"' pos t) := by
  have hcons : ∀ (c : Char) (pos : Nat) (u : Text),
      (Pass.string.forward pos (c :: u)).filter (·.kind == .string)
        = (Pass.string.forward (pos + c.utf8Size) u).filter (·.kind == .string) := by
    intro c pos u
    rw [filter_string_forward, filter_string_forward]
  have hquote : Char.utf8Size '"' = 1 := by decide
  fun_induction piecesAfter .string before t generalizing pos with
  | case1 => rfl
  | case2 before c cs l rest h ih =>
    have hpass := pass_of_lexeme? h
    have hfits := fits_of_lexeme? h
    cases l with
    | string body =>
      have hbody : '"' ∉ body := fun hmem => hfits '"' hmem rfl
      have htext : c :: cs = '"' :: (body ++ '"' :: rest) := by
        rw [(lexeme?_eq_some h).1]
        simp [Lexeme.text]
      have hend : pos + 1 + body.byteSize + 1
          = pos + Text.byteSize (Lexeme.text (.string body)) := by
        rw [Lexeme.text, Text.byteSize_append, Text.byteSize_cons, Text.byteSize_cons, hquote,
          Text.byteSize_nil]
        omega
      rw [Piece.tokensFrom, List.filter_append, List.map_append, ih, htext,
        Text.offsetsFrom_cons_self, Text.offsetsFrom_append, Text.offsetsFrom_of_not_mem hbody,
        List.nil_append, Text.offsetsFrom_cons_self, hquote, hend, Span.pairUp, hend]
      rfl
    | uri | prefixedName | languageTag | keyword => cases hpass
  | case3 before c cs h ih =>
    rw [Piece.filter_tokensFrom_pushGap (fun pos => filter_string_forward pos []) (hcons c), ih]
    by_cases hc : c = '"'
    · subst hc
      have hmem : '"' ∉ cs := Lexeme.string?_eq_none_iff.1 h
      rw [Text.offsetsFrom_cons_self, Text.offsetsFrom_of_not_mem hmem]
      rfl
    · rw [Text.offsetsFrom_cons_of_ne hc]

theorem within_of_mem_classify {p : Pass} {s : Span} {source u : Text} (h : s.Covers source u)
    {token : Token} (htoken : token ∈ p.classify s.start u) : token.span.within s = true := by
  have hstop := h.stop_eq
  have hin := Token.in_of_mem_tokensThrough htoken
  rw [Span.within_iff]
  omega

/-- The strings of a text run from each odd quote of the text to the next one. -/
theorem spans_classify_string (pos : Nat) (t : Text) :
    ((Pass.string.classify pos t).filter (·.kind == .string)).map Token.span
      = Span.pairUp (Text.offsetsFrom '"' pos t) := by
  rw [classify_eq_tokensFrom]
  exact spans_tokensFrom_string none pos t

end Pass

/-! ## Stretches between IRI references -/

namespace Token

/-- The stretches from `start` to `stop` between the tokens of IRI references. -/
def stretchesFrom (start stop : Nat) : List Token → List Span
  | [] => [⟨start, stop⟩]
  | t :: ts =>
    if t.kind = .uri then ⟨start, t.span.start⟩ :: stretchesFrom t.span.stop stop ts
    else stretchesFrom start stop ts

theorem stretchesFrom_append_of_ne {ts : List Token} (h : ∀ t ∈ ts, t.kind ≠ .uri)
    (start stop : Nat) (us : List Token) :
    stretchesFrom start stop (ts ++ us) = stretchesFrom start stop us := by
  induction ts with
  | nil => rfl
  | cons t ts ih =>
    rw [List.cons_append, stretchesFrom, if_neg (h t List.mem_cons_self)]
    exact ih fun u hu => h u (List.mem_cons_of_mem t hu)

end Token

namespace Piece

/-- At most a gap. -/
def IsStretch (ps : List Piece) : Prop := ps = [] ∨ ∃ g, ps = [.gap g]

theorem tokensFrom_append (onGap : Nat → Text → List Token) (pos : Nat) (a b : List Piece) :
    tokensFrom onGap pos (a ++ b)
      = tokensFrom onGap pos a ++ tokensFrom onGap (pos + (join a).byteSize) b := by
  induction a generalizing pos with
  | nil => rfl
  | cons p a ih =>
    cases p with
    | gap t => simp [tokensFrom, ih, Nat.add_assoc]
    | found l => simp [tokensFrom, ih, Nat.add_assoc]

/-- Every stretch is what stands between two lexemes of the first pass. -/
theorem exists_of_mem_stretchesFrom {onGap : Nat → Text → List Token}
    (honGap : ∀ pos t, ∀ token ∈ onGap pos t, token.kind ≠ .uri) {ps : List Piece}
    (hfound : ∀ l, .found l ∈ ps → l.pass = .uri) {now : List Piece} (hnow : IsStretch now)
    (hsep : Separated (now ++ ps)) {start : Nat} {s : Span}
    (hs : s ∈ Token.stretchesFrom start (start + (join (now ++ ps)).byteSize)
      (tokensFrom onGap (start + (join now).byteSize) ps)) :
    ∃ before inside after, now ++ ps = before ++ inside ++ after ∧ IsStretch inside ∧
      s = ⟨start + (join before).byteSize,
        start + (join before).byteSize + (join inside).byteSize⟩ := by
  induction ps generalizing now start with
  | nil =>
    obtain rfl := List.mem_singleton.1 hs
    exact ⟨[], now, [], by simp, hnow, by simp⟩
  | cons p ps ih =>
    have hfound' : ∀ l, .found l ∈ ps → l.pass = .uri :=
      fun l hl => hfound l (List.mem_cons_of_mem p hl)
    cases p with
    | gap g =>
      -- two gaps never stand side by side, so a stretch begins here
      have hnil : now = [] := by
        rcases hnow with rfl | ⟨g', rfl⟩
        · rfl
        · exact absurd ⟨rfl, rfl⟩ (List.isChain_cons_cons.1 hsep).1
      subst hnil
      rw [tokensFrom, Token.stretchesFrom_append_of_ne (honGap _ g)] at hs
      exact ih hfound' (Or.inr ⟨g, rfl⟩) hsep (by simpa using hs)
    | found l =>
      have hpass := hfound l List.mem_cons_self
      cases l with
      | uri body =>
        rcases List.mem_cons.1 hs with rfl | hs
        · refine ⟨[], now, .found (.uri body) :: ps, by simp, hnow, ?_⟩
          simp [Token.covering]
        · obtain ⟨next, hnext⟩ : ∃ next,
              next = start + (join now).byteSize + (Lexeme.text (.uri body)).byteSize := ⟨_, rfl⟩
          have hstop : start + (join (now ++ .found (.uri body) :: ps)).byteSize
              = next + (join ([] ++ ps)).byteSize := by
            rw [hnext, join_append, join_cons, Text.byteSize_append, Text.byteSize_append]
            simp only [text_found, List.nil_append]
            omega
          have hrest : s ∈ Token.stretchesFrom next (next + (join ([] ++ ps)).byteSize)
              (tokensFrom onGap (next + (join []).byteSize) ps) := by
            rw [← hstop, hnext]
            exact hs
          obtain ⟨before, inside, after, hps, hinside, rfl⟩ :=
            ih hfound' (Or.inl rfl) (List.isChain_append.1 hsep).2.1.tail hrest
          refine ⟨now ++ .found (.uri body) :: before, inside, after, ?_, hinside, ?_⟩
          · rw [List.nil_append] at hps
            rw [hps]
            simp
          · simp [hnext, Nat.add_assoc]
      | string | prefixedName | languageTag | keyword => cases hpass

theorem tokensFrom_of_isStretch {ps : List Piece} (h : IsStretch ps) (pos : Nat) :
    tokensFrom Pass.string.classify pos ps = Pass.string.classify pos (join ps) := by
  rcases h with rfl | ⟨g, rfl⟩
  · have hnil : Pass.string.classify pos [] = [] :=
      (Pass.string.tiling_classify pos []).eq_nil_iff.2 rfl
    exact hnil.symm
  · simp [tokensFrom]

theorem in_of_mem_tokensFrom {p : Pass} {pos : Nat} {ps : List Piece} {token : Token}
    (h : token ∈ tokensFrom p.classify pos ps) :
    pos ≤ token.span.start ∧ token.span.stop ≤ pos + (join ps).byteSize := by
  rw [tokensFrom_eq_layOut p.classify_eq_layOut p.spell_parts] at h
  rw [← spell_flatMap_parts p.spell_parts ps]
  exact Token.in_of_mem_layOut h

end Piece

namespace Line

/-- The stretches of a line between its IRI references and its ends. -/
def stretches (line : Text) : List Span :=
  Token.stretchesFrom 0 line.byteSize (classify 0 line)

/-- Where the quotes of a stretch of a line stand. -/
def quotes (line : Text) (s : Span) : List Nat := (Text.offsetsFrom '"' 0 line).filter s.holds

variable {line : Text}

theorem classify_eq_tokensFrom (h : isCommentText line = false) :
    classify 0 line = Piece.tokensFrom Pass.string.classify 0 (Pass.uri.pieces line) := by
  rw [classify_of_not_comment h, Pass.classify_eq_tokensFrom]
  rfl

theorem pass_of_found {l : Lexeme} (h : .found l ∈ Pass.uri.pieces line) : l.pass = .uri :=
  (Pass.fits_of_mem_pieces h).1

/-- A stretch of a line is classified as a text of its own, from the search for strings on. -/
theorem exists_classify_eq_of_mem_stretches (h : isCommentText line = false) {s : Span}
    (hs : s ∈ stretches line) :
    ∃ u before after, s.Covers line u ∧
      classify 0 line = before ++ Pass.string.classify s.start u ++ after ∧
      (∀ t ∈ before, t.span.stop ≤ s.start) ∧ ∀ t ∈ after, s.stop ≤ t.span.start := by
  have hkind : ∀ pos t, ∀ token ∈ Pass.string.classify pos t, token.kind ≠ .uri :=
    Pass.kind_ne_of_mem_classify (by decide) (by decide)
  have hpieces : s ∈ Token.stretchesFrom 0 (0 + (Piece.join ([] ++ Pass.uri.pieces line)).byteSize)
      (Piece.tokensFrom Pass.string.classify (0 + (Piece.join []).byteSize)
        (Pass.uri.pieces line)) := by
    rw [List.nil_append, Pass.join_pieces, Nat.zero_add, Nat.zero_add]
    rw [stretches, classify_eq_tokensFrom h] at hs
    exact hs
  obtain ⟨before, inside, after, hsplit, hinside, rfl⟩ :=
    Piece.exists_of_mem_stretchesFrom hkind (fun l hl => pass_of_found hl) (Or.inl rfl)
      (Pass.uri.separated_pieces line) hpieces
  rw [List.nil_append] at hsplit
  refine ⟨Piece.join inside, Piece.tokensFrom Pass.string.classify 0 before,
    Piece.tokensFrom Pass.string.classify
      (0 + (Piece.join (before ++ inside)).byteSize) after, ?_, ?_, ?_, ?_⟩
  · refine ⟨Piece.join before, Piece.join after, ?_, Nat.zero_add _, by simp⟩
    rw [← Piece.join_append, ← Piece.join_append, ← hsplit, Pass.join_pieces]
  · rw [classify_eq_tokensFrom h, hsplit, Piece.tokensFrom_append, Piece.tokensFrom_append,
      Piece.tokensFrom_of_isStretch hinside]
  · intro t ht
    exact (Piece.in_of_mem_tokensFrom ht).2
  · intro t ht
    have hstart := (Piece.in_of_mem_tokensFrom ht).1
    rw [Piece.join_append, Text.byteSize_append, ← Nat.add_assoc] at hstart
    exact hstart

/-- A bracket outside all IRI references is one that nothing closes. -/
theorem unclosed_of_unclaimed (h : isCommentText line = false) {a b : Text}
    (hline : line = a ++ '<' :: b)
    (hunclaimed : ∀ t ∈ classify 0 line, t.kind = .uri → t.span.holds a.byteSize = false) :
    b.head? = some '>' ∨ '>' ∉ b := by
  have hjoin : (Pass.uri.pieces line).flatMap Piece.text = a ++ '<' :: b := by
    rw [← hline]
    exact Pass.uri.join_pieces line
  obtain ⟨P, piece, Q, u, v, hpieces, hpiece, rfl, rfl⟩ := exists_of_flatMap_eq_append hjoin
  cases piece with
  | gap g =>
    obtain rfl : g = u ++ '<' :: v := hpiece
    have hfree := Pass.free_of_pieces hpieces u ('<' :: v) rfl (List.cons_ne_nil _ _)
    exact Lexeme.uri?_eq_none_iff.1 hfree
  | found l =>
    -- the token of the lexeme would hold the bracket
    have hmem : .found l ∈ Pass.uri.pieces line := by simp [hpieces]
    have hpass := pass_of_found hmem
    cases l with
    | uri body =>
      have htoken : Token.covering .uri (Piece.join P).byteSize
          (Lexeme.text (.uri body)).byteSize ∈ classify 0 line := by
        rw [classify_eq_tokensFrom h, hpieces, Piece.tokensFrom_append, Piece.tokensFrom,
          Nat.zero_add]
        exact List.mem_append_right _ (List.mem_append_left _ List.mem_cons_self)
      have hholds := hunclaimed _ htoken rfl
      rw [← Bool.not_eq_true, Span.holds_iff] at hholds
      refine absurd ⟨?_, ?_⟩ hholds
      · show (Piece.join P).byteSize ≤ (Piece.join P ++ u).byteSize
        rw [Text.byteSize_append]
        omega
      · show (Piece.join P ++ u).byteSize
          < (Piece.join P).byteSize + (Piece.found (.uri body)).text.byteSize
        have hpos := Char.utf8Size_pos '<'
        rw [hpiece, Text.byteSize_append, Text.byteSize_append, Text.byteSize_cons]
        omega
    | string | prefixedName | languageTag | keyword => cases hpass

/-- The strings of a stretch run from each odd quote of the stretch to the next one. -/
theorem spans_of_stretch (h : isCommentText line = false) {s : Span} (hs : s ∈ stretches line) :
    ((classify 0 line).filter fun t => t.kind == .string && t.span.within s).map Token.span
      = Span.pairUp (quotes line s) := by
  obtain ⟨u, before, after, hcovers, hsplit, hbefore, hafter⟩ :=
    exists_classify_eq_of_mem_stretches h hs
  have hnonempty : ∀ t ∈ classify 0 line, t.span.start < t.span.stop := by
    rw [classify_of_not_comment h]
    exact (Pass.uri.tiling_classify 0 line).nonempty
  rw [hsplit] at hnonempty
  have hnone : ∀ {ts : List Token}, (∀ t ∈ ts, t.span.within s = false) →
      (ts.filter fun t => t.kind == .string && t.span.within s) = [] := by
    intro ts hts
    rw [List.filter_eq_nil_iff]
    intro t ht hkeep
    rw [hts t ht, Bool.and_false] at hkeep
    cases hkeep
  have hleft : ∀ t ∈ before, t.span.within s = false := by
    intro t ht
    have hpos := hnonempty t (by simp [ht])
    have hstop := hbefore t ht
    rw [← Bool.not_eq_true, Span.within_iff]
    omega
  have hright : ∀ t ∈ after, t.span.within s = false := by
    intro t ht
    have hpos := hnonempty t (by simp [ht])
    have hstart := hafter t ht
    rw [← Bool.not_eq_true, Span.within_iff]
    omega
  have hinside : ((Pass.string.classify s.start u).filter fun t =>
        t.kind == .string && t.span.within s)
      = (Pass.string.classify s.start u).filter (·.kind == .string) := by
    refine List.filter_congr ?_
    intro t ht
    rw [Pass.within_of_mem_classify hcovers ht, Bool.and_true]
  rw [hsplit, List.filter_append, List.filter_append, hnone hleft, hnone hright, hinside,
    List.nil_append, List.append_nil, Pass.spans_classify_string, quotes,
    Text.filter_holds_offsetsFrom hcovers]

/-- A token that holds a byte of a stretch lies in the stretch. -/
theorem within_of_holds (h : isCommentText line = false) {s : Span} (hs : s ∈ stretches line)
    {i : Nat} (hi : s.holds i = true) {t : Token} (ht : t ∈ classify 0 line)
    (hholds : t.span.holds i = true) : t.span.within s = true := by
  obtain ⟨u, before, after, hcovers, hsplit, hbefore, hafter⟩ :=
    exists_classify_eq_of_mem_stretches h hs
  rw [Span.holds_iff] at hi hholds
  rw [hsplit, List.mem_append, List.mem_append] at ht
  rcases ht with (ht | ht) | ht
  · have hstop := hbefore t ht
    omega
  · exact Pass.within_of_mem_classify hcovers ht
  · have hstart := hafter t ht
    omega

/-- In a stretch only the last quote can be outside all strings, and it is if their number is
odd. -/
theorem unclaimed_quote_iff (h : isCommentText line = false) {s : Span} (hs : s ∈ stretches line)
    {i : Nat} (hi : i ∈ quotes line s) :
    (∀ t ∈ classify 0 line, t.kind = .string → t.span.holds i = false) ↔
      (quotes line s).length % 2 = 1 ∧ (quotes line s).getLast? = some i := by
  have horder : (quotes line s).Pairwise (· < ·) := (Text.pairwise_offsetsFrom '"' 0 line).filter _
  have hin : s.holds i = true := (List.mem_filter.1 hi).2
  rw [← Span.not_holds_pairUp_iff horder hi, ← spans_of_stretch h hs]
  constructor
  · intro hnone place hplace
    obtain ⟨t, ht, rfl⟩ := List.mem_map.1 hplace
    obtain ⟨hmem, hkeep⟩ := List.mem_filter.1 ht
    rw [Bool.and_eq_true, beq_iff_eq] at hkeep
    exact hnone t hmem hkeep.1
  · intro hnone t ht hkind
    by_contra hholds
    rw [Bool.not_eq_false] at hholds
    have hwithin := within_of_holds h hs hin ht hholds
    have hplace : t.span ∈ ((classify 0 line).filter fun t =>
        t.kind == .string && t.span.within s).map Token.span :=
      List.mem_map_of_mem (List.mem_filter.2 ⟨ht, by rw [hkind, hwithin]; rfl⟩)
    rw [hnone t.span hplace] at hholds
    cases hholds

/-- **Only delimiters that cannot be matched stay alone.**  In a line that is no comment every `<`
outside all IRI references stands right before a `>` or has no `>` behind it.  In each stretch of
the line between IRI references the quotes pair up in order: the strings of the stretch run from
its first quote to its second, from its third to its fourth and so on, and a quote is outside all
strings exactly if it is the last of an odd number. -/
theorem unmatched_delimiters (h : isCommentText line = false) :
    (∀ a b : Text, line = a ++ '<' :: b →
      (∀ t ∈ classify 0 line, t.kind = .uri → t.span.holds a.byteSize = false) →
        b.head? = some '>' ∨ '>' ∉ b) ∧
      ∀ s ∈ stretches line,
        ((classify 0 line).filter fun t => t.kind == .string && t.span.within s).map Token.span
            = Span.pairUp (quotes line s) ∧
          ∀ i ∈ quotes line s,
            (∀ t ∈ classify 0 line, t.kind = .string → t.span.holds i = false) ↔
              (quotes line s).length % 2 = 1 ∧ (quotes line s).getLast? = some i := by
  refine ⟨fun a b => unclosed_of_unclaimed h, ?_⟩
  intro s hs
  exact ⟨spans_of_stretch h hs, fun i => unclaimed_quote_iff h hs⟩

/-- A line in which an IRI reference has a quote, another quote has no partner and a pair of brackets
is empty. -/
def oddLine : Text := "\"x\" <a\"> \"y <>".toList

/-- The quote in the IRI reference does not count, so the first two quotes make a string and the
last one stays alone; so does the bracket at the end. -/
theorem unmatched_delimiters_oddLine :
    isCommentText oddLine = false ∧ stretches oddLine = [⟨0, 4⟩, ⟨8, 14⟩] ∧
      ((classify 0 oddLine).filter fun t => t.kind == .string && t.span.within ⟨0, 4⟩).map
        Token.span = [⟨0, 3⟩] ∧
      (∀ t ∈ classify 0 oddLine, t.kind = .string → t.span.holds 9 = false) ∧
      (∀ t ∈ classify 0 oddLine, t.kind = .uri → t.span.holds 12 = false) ∧
      (['>'].head? = some '>' ∨ '>' ∉ ['>']) := by
  have hline : isCommentText oddLine = false := by decide +kernel
  have hstretches : stretches oddLine = [⟨0, 4⟩, ⟨8, 14⟩] := by decide +kernel
  have hunclaimed : ∀ t ∈ classify 0 oddLine, t.kind = .uri → t.span.holds 12 = false := by
    decide +kernel
  have hfirst := (unmatched_delimiters hline).2 ⟨0, 4⟩ (by rw [hstretches]; simp)
  have hsecond := (unmatched_delimiters hline).2 ⟨8, 14⟩ (by rw [hstretches]; simp)
  refine ⟨hline, hstretches, ?_, ?_, hunclaimed, ?_⟩
  · rw [hfirst.1]
    decide +kernel
  · exact (hsecond.2 9 (by decide +kernel)).2 (by decide +kernel)
  · exact (unmatched_delimiters hline).1 (oddLine.take 12) ['>'] (by decide +kernel) hunclaimed

end Line

end TurtleMarkup
