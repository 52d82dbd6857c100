import TurtleMarkup.Proofs.Lossless
import TurtleMarkup.Proofs.Pieces

/-!
# Tokens tile their text

The tokens of a text are not empty, follow one another without gap or overlap
and reach from one end of the text to the other (`Token.Tiling`), and no two
neighbours are both plain.  The lines of a source follow one another in the
same way with one line feed between neighbours (`Line.Tiling`).

Where tokens stand follows from the parts alone (`Token.tiling_layOut`), and
where lines stand from their texts (`Line.tiling_layOut`).
-/

namespace TurtleMarkup

/-! ## Tokens -/

namespace Token

/-- Tokens that fill a span from left to right: none is empty, the first begins where the span
does, each begins where the one before it ends, and the last ends where the span does. -/
structure Tiling (tokens : List Token) (s : Span) : Prop where
  /-- No token is empty. -/
  nonempty : ∀ t ∈ tokens, t.span.start < t.span.stop
  /-- The first token begins with the span. -/
  first : ∀ t ∈ tokens.head?, t.span.start = s.start
  /-- Every other token begins where the one before it ends. -/
  contiguous : tokens.IsChain fun a b => b.span.start = a.span.stop
  /-- The last token ends with the span. -/
  last : ∀ t ∈ tokens.getLast?, t.span.stop = s.stop
  /-- Only an empty span has no tokens. -/
  eq_nil_iff : tokens = [] ↔ s.start = s.stop

/-- No two neighbours are plain. -/
def Separated (tokens : List Token) : Prop :=
  tokens.IsChain fun a b => ¬ (a.kind = .plain ∧ b.kind = .plain)

theorem start_of_mem_head?_layOut {pos : Nat} {ps : List Part} {t : Token}
    (h : t ∈ (layOut pos ps).head?) : t.span.start = pos := by
  cases ps with
  | nil => simp at h
  | cons p ps =>
    obtain rfl : covering p.1 pos p.2.byteSize = t := by simpa using h
    rfl

theorem isChain_layOut (pos : Nat) (ps : List Part) :
    (layOut pos ps).IsChain fun a b => b.span.start = a.span.stop := by
  induction ps generalizing pos with
  | nil => exact List.isChain_nil
  | cons p ps ih =>
    rw [layOut_cons, List.isChain_cons]
    exact ⟨fun b hb => start_of_mem_head?_layOut hb, ih _⟩

theorem stop_of_mem_getLast?_layOut {pos : Nat} {ps : List Part} {t : Token}
    (h : t ∈ (layOut pos ps).getLast?) : t.span.stop = pos + (Part.spell ps).byteSize := by
  induction ps generalizing pos with
  | nil => simp at h
  | cons p ps ih =>
    cases ps with
    | nil =>
      obtain rfl : covering p.1 pos p.2.byteSize = t := by simpa using h
      simp [covering]
    | cons q ps =>
      rw [layOut_cons, layOut_cons, List.getLast?_cons_cons, ← layOut_cons] at h
      rw [ih h, Part.spell_cons p, Text.byteSize_append, Nat.add_assoc]

/-- Parts of which none is empty are laid out to tokens that tile. -/
theorem tiling_layOut (pos : Nat) {ps : List Part} (h : ∀ part ∈ ps, part.2 ≠ []) :
    Tiling (layOut pos ps) ⟨pos, pos + (Part.spell ps).byteSize⟩ where
  nonempty := by
    induction ps generalizing pos with
    | nil => simp
    | cons p ps ih =>
      intro t ht
      rw [layOut_cons] at ht
      rcases List.mem_cons.1 ht with rfl | ht
      · have hp : p.2.byteSize ≠ 0 := mt Text.byteSize_eq_zero.1 (h p List.mem_cons_self)
        simp only [covering]
        omega
      · exact ih _ (fun part hpart => h part (List.mem_cons_of_mem p hpart)) t ht
  first := fun _ ht => start_of_mem_head?_layOut ht
  contiguous := isChain_layOut pos ps
  last := fun _ ht => stop_of_mem_getLast?_layOut ht
  eq_nil_iff := by
    cases ps with
    | nil => simp
    | cons p ps =>
      have hp : p.2.byteSize ≠ 0 := mt Text.byteSize_eq_zero.1 (h p List.mem_cons_self)
      simp only [layOut_cons, reduceCtorEq, Part.spell_cons, Text.byteSize_append, false_iff]
      omega

theorem separated_layOut (pos : Nat) {ps : List Part} (h : Part.Separated ps) :
    Separated (layOut pos ps) := by
  have hkinds : ((layOut pos ps).map Token.kind).IsChain fun a b => ¬ (a = .plain ∧ b = .plain) := by
    rw [map_kind_layOut]
    exact (List.isChain_map Prod.fst).2 h
  exact (List.isChain_map Token.kind).1 hkinds

theorem exists_part_of_mem_layOut {pos : Nat} {ps : List Part} {t : Token}
    (h : t ∈ layOut pos ps) : ∃ part ∈ ps, part.1 = t.kind := by
  have hkind : t.kind ∈ (layOut pos ps).map Token.kind := List.mem_map_of_mem h
  rw [map_kind_layOut] at hkind
  exact List.mem_map.1 hkind

end Token

namespace Pass

theorem ne_nil_of_mem_parts {p : Pass} {t : Text} {part : Part} (h : part ∈ p.parts t) :
    part.2 ≠ [] := by
  cases t with
  | nil => cases p <;> simp [parts, onward, order, partsThrough, pieces, piecesAfter] at h
  | cons c cs => exact ne_nil_of_mem_partsThrough (List.cons_ne_nil c cs) h

theorem tiling_classify (p : Pass) (base : Nat) (t : Text) :
    Token.Tiling (p.classify base t) ⟨base, base + t.byteSize⟩ := by
  have h := Token.tiling_layOut base fun part hpart => p.ne_nil_of_mem_parts (t := t) hpart
  rwa [spell_parts, ← classify_eq_layOut] at h

theorem separated_classify (p : Pass) (base : Nat) (t : Text) :
    Token.Separated (p.classify base t) := by
  rw [classify_eq_layOut]
  exact Token.separated_layOut base (separated_partsThrough _ t)

theorem kind_of_mem_classify {p : Pass} {base : Nat} {t : Text} {token : Token}
    (h : token ∈ p.classify base t) :
    token.kind = .plain ∨ ∃ q ∈ p.onward, token.kind ∈ q.kinds := by
  rw [classify_eq_layOut] at h
  obtain ⟨part, hpart, hkind⟩ := Token.exists_part_of_mem_layOut h
  rw [← hkind]
  exact kind_of_mem_partsThrough hpart

theorem comment_not_mem_kinds (p : Pass) : Kind.comment ∉ p.kinds := by
  cases p <;> simp [kinds]

/-- No pass gives a comment. -/
theorem kind_ne_comment_of_mem_partsThrough {ps : List Pass} {t : Text} {part : Part}
    (h : part ∈ partsThrough ps t) : part.1 ≠ .comment := by
  intro hcomment
  rcases kind_of_mem_partsThrough h with hplain | ⟨p, -, hkind⟩
  · rw [hcomment] at hplain
    cases hplain
  · rw [hcomment] at hkind
    exact p.comment_not_mem_kinds hkind

end Pass

/-! ## Lines -/

namespace Line

/-- Lines that fill a source of `size` bytes from left to right, with the one byte of a line feed
between neighbours. -/
structure Tiling (lines : List Line) (size : Nat) : Prop where
  /-- The first line begins with the source. -/
  first : ∀ l ∈ lines.head?, l.span.start = 0
  /-- Every other line begins one byte behind the line before it. -/
  contiguous : lines.IsChain fun a b => b.span.start = a.span.stop + 1
  /-- The last line ends with the source. -/
  last : ∀ l ∈ lines.getLast?, l.span.stop = size
  /-- A line feed ends every line but the last. -/
  terminated_iff : ∀ i l, lines[i]? = some l → (l.terminated = true ↔ i + 1 < lines.length)

end Line

namespace SourceLine

theorem start_of_mem_head?_layOut {start : Nat} {ts : List Text} {l : SourceLine}
    (h : l ∈ (layOut start ts).head?) : l.span.start = start := by
  cases ts with
  | nil => simp [layOut] at h
  | cons t ts =>
    cases ts with
    | nil =>
      obtain rfl : (⟨⟨start, start + t.byteSize⟩, t, false⟩ : SourceLine) = l := by
        simpa [layOut] using h
      rfl
    | cons u us =>
      obtain rfl : (⟨⟨start, start + t.byteSize⟩, t, true⟩ : SourceLine) = l := by
        simpa [layOut_cons_cons] using h
      rfl

theorem isChain_layOut (start : Nat) (ts : List Text) :
    (layOut start ts).IsChain fun a b => b.span.start = a.span.stop + 1 := by
  induction ts generalizing start with
  | nil => exact List.isChain_nil
  | cons t ts ih =>
    cases ts with
    | nil => exact List.isChain_singleton _
    | cons u us =>
      rw [layOut_cons_cons, List.isChain_cons]
      exact ⟨fun b hb => start_of_mem_head?_layOut hb, ih _⟩

/-- Where the line with an index starts: behind the lines before it and their line feeds, of one
byte each. -/
def startOf (ts : List Text) (i : Nat) : Nat :=
  (ts.take i).foldr (fun t n => t.byteSize + 1 + n) 0

@[simp] theorem startOf_zero (ts : List Text) : startOf ts 0 = 0 := rfl

theorem startOf_cons_succ (t : Text) (ts : List Text) (i : Nat) :
    startOf (t :: ts) (i + 1) = t.byteSize + 1 + startOf ts i := rfl

/-- Each line by itself: where it starts, its text, and whether it is not the last. -/
theorem layOut_eq_mapIdx (start : Nat) (ts : List Text) :
    layOut start ts = ts.mapIdx fun i t =>
      ⟨⟨start + startOf ts i, start + startOf ts i + t.byteSize⟩, t, i + 1 < ts.length⟩ := by
  induction ts generalizing start with
  | nil => rfl
  | cons t ts ih =>
    cases ts with
    | nil => rfl
    | cons u us =>
      rw [layOut_cons_cons, List.mapIdx_cons, ih]
      simp [startOf_cons_succ, Nat.add_assoc]

theorem length_layOut (start : Nat) (ts : List Text) : (layOut start ts).length = ts.length := by
  rw [layOut_eq_mapIdx, List.length_mapIdx]

theorem stop_of_mem_getLast?_layOut {start : Nat} {ts : List Text} {l : SourceLine}
    (h : l ∈ (layOut start ts).getLast?) :
    l.span.stop = start + (Text.join '\n' ts).byteSize := by
  induction ts generalizing start with
  | nil => simp [layOut] at h
  | cons t ts ih =>
    cases ts with
    | nil =>
      obtain rfl : (⟨⟨start, start + t.byteSize⟩, t, false⟩ : SourceLine) = l := by
        simpa [layOut] using h
      rfl
    | cons u us =>
      have hne : layOut (start + t.byteSize + 1) (u :: us) ≠ [] := by
        rw [← List.length_pos_iff, length_layOut]
        simp
      rw [layOut_cons_cons, List.getLast?_cons_of_ne_nil hne] at h
      rw [ih h, Text.byteSize_join_cons_cons]
      omega

theorem terminated_iff_of_getElem?_layOut {start : Nat} {ts : List Text} {i : Nat}
    {l : SourceLine} (h : (layOut start ts)[i]? = some l) :
    l.terminated = true ↔ i + 1 < ts.length := by
  rw [layOut_eq_mapIdx, List.getElem?_mapIdx] at h
  obtain ⟨t, -, rfl⟩ := Option.map_eq_some_iff.1 h
  exact decide_eq_true_iff

end SourceLine

namespace Line

theorem tiling_layOut (ts : List Text) :
    Tiling ((SourceLine.layOut 0 ts).map ofSourceLine) (Text.join '\n' ts).byteSize where
  first := by
    intro l hl
    rw [List.head?_map] at hl
    obtain ⟨s, hs, rfl⟩ := Option.map_eq_some_iff.1 hl
    exact SourceLine.start_of_mem_head?_layOut hs
  contiguous := (List.isChain_map ofSourceLine).2 (SourceLine.isChain_layOut 0 ts)
  last := by
    intro l hl
    rw [List.getLast?_map] at hl
    obtain ⟨s, hs, rfl⟩ := Option.map_eq_some_iff.1 hl
    rw [ofSourceLine, SourceLine.stop_of_mem_getLast?_layOut hs, Nat.zero_add]
  terminated_iff := by
    intro i l hl
    rw [List.getElem?_map] at hl
    obtain ⟨s, hs, rfl⟩ := Option.map_eq_some_iff.1 hl
    rw [List.length_map, SourceLine.length_layOut]
    exact SourceLine.terminated_iff_of_getElem?_layOut hs

theorem tiling_tokens_ofSourceLine {source : Text} {l : SourceLine}
    (hl : l ∈ SourceLine.ofSource source) :
    Token.Tiling (ofSourceLine l).tokens (ofSourceLine l).span := by
  have hspan : l.span = ⟨l.span.start, l.span.start + l.text.byteSize⟩ := by
    rw [← (SourceLine.covers_of_mem_ofSource hl).stop_eq]
  have h := Token.tiling_layOut l.span.start fun part hpart => ne_nil_of_mem_parts (t := l.text) hpart
  rw [spell_parts, ← hspan, ← classify_eq_layOut] at h
  exact h

end Line

namespace Block

theorem tiling_lines_highlight (source : Text) :
    Line.Tiling (highlight source).lines source.byteSize := by
  rw [highlight, SourceLine.ofSource]
  split
  · exact ⟨by simp, List.isChain_nil, by simp, by simp⟩
  · have h := Line.tiling_layOut (Text.split '\n' source)
    rwa [Text.join_split] at h

theorem lines_highlight_eq_nil_iff (source : Text) :
    (highlight source).lines = [] ↔ source = [] := by
  rw [highlight, List.map_eq_nil_iff, SourceLine.ofSource]
  constructor
  · intro h
    by_contra hne
    rw [if_neg (by simpa using hne), ← List.length_eq_zero_iff, SourceLine.length_layOut,
      List.length_eq_zero_iff] at h
    exact Text.split_ne_nil '\n' source h
  · rintro rfl
    rfl

/-- **Lines and tokens tile.**  The lines of a highlighted block fill the source with one line feed
between neighbours, every line but the last is terminated, and only the empty source has no lines.
The tokens of every line fill the line, none is empty, and no two neighbours are plain.  The same
holds of the tokens of any text at any position from any pass on, whose categories are those of
that pass and of later ones, or plain, and never that of a comment. -/
theorem highlight_tiles (source : Text) :
    Line.Tiling (highlight source).lines source.byteSize ∧
      ((highlight source).lines = [] ↔ source = []) ∧
      (∀ l ∈ (highlight source).lines,
        Token.Tiling l.tokens l.span ∧ Token.Separated l.tokens) ∧
      ∀ (p : Pass) (base : Nat) (t : Text),
        Token.Tiling (p.classify base t) ⟨base, base + t.byteSize⟩ ∧
          Token.Separated (p.classify base t) ∧
          ∀ token ∈ p.classify base t, token.kind ≠ .comment ∧
            (token.kind = .plain ∨ ∃ q ∈ p.onward, token.kind ∈ q.kinds) := by
  refine ⟨tiling_lines_highlight source, lines_highlight_eq_nil_iff source, ?_, ?_⟩
  · intro l hl
    obtain ⟨s, hs, rfl⟩ := List.mem_map.1 hl
    refine ⟨Line.tiling_tokens_ofSourceLine hs, ?_⟩
    rw [Line.ofSourceLine, Line.classify_eq_layOut]
    exact Token.separated_layOut _ (Line.separated_parts s.text)
  · intro p base t
    refine ⟨p.tiling_classify base t, p.separated_classify base t, ?_⟩
    intro token htoken
    have hkind := Pass.kind_of_mem_classify htoken
    refine ⟨?_, hkind⟩
    intro hcomment
    rw [hcomment] at hkind
    rcases hkind with hplain | ⟨q, -, hq⟩
    · exact Kind.noConfusion hplain
    · exact q.comment_not_mem_kinds hq

end Block

end TurtleMarkup
