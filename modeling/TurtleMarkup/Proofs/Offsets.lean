import TurtleMarkup.Proofs.Search
import TurtleMarkup.Proofs.Tiling

/-!
# Offsets that fit a word

The offsets of tokens are sums, made one after another while a text goes through
the passes.  `Pass.tokens?`, `Line.tokens?` and `Block.highlight?` make every sum
by itself and stop at the first one that is larger than a word holds.

Making the sums one by one is the same as looking at all offsets in the end
(`Pass.tokens?_eq_classify?`): the sweep over the matches of a pass is the same
(`Pass.sweep?_eq_checked`), since the tokens of a gap begin with the sum for the
gap, and those of a match end where the match does.  The largest offset is that of the
end of the text, which some token always has, so a text that is not empty has
tokens exactly if its end fits a word (`Token.checked_layOut`).
-/

namespace TurtleMarkup

/-- The sum of two offsets, if it fits a word. -/
def addOffsets? (a b : Nat) : Except OffsetError Nat :=
  if a + b ≤ maxOffset then .ok (a + b) else .error .overflow

/-- The largest size of a text in memory. -/
def maxTextSize : Nat := UInt64.size / 2 - 1

theorem addOffsets?_of_le {a b : Nat} (h : a + b ≤ maxOffset) : addOffsets? a b = .ok (a + b) :=
  if_pos h

theorem addOffsets?_of_lt {a b : Nat} (h : maxOffset < a + b) :
    addOffsets? a b = .error .overflow :=
  if_neg (Nat.not_le.2 h)

namespace Span

variable {s : Span}

theorem fits_iff (h : s.start ≤ s.stop) : s.fits = true ↔ s.stop ≤ maxOffset := by
  rw [fits, Bool.and_eq_true, decide_eq_true_iff, decide_eq_true_iff]
  omega

theorem shift?_of_le {base : Nat} (h : s.start ≤ s.stop) (hle : s.stop + base ≤ maxOffset) :
    s.shift? base = .ok (s.shift base) :=
  if_pos ((fits_iff (Nat.add_le_add_right h base)).2 hle)

theorem shift?_of_lt {base : Nat} (h : s.start ≤ s.stop) (hlt : maxOffset < s.stop + base) :
    s.shift? base = .error .overflow :=
  if_neg fun hfits => Nat.not_le.2 hlt ((fits_iff (Nat.add_le_add_right h base)).1 hfits)

end Span

/-! ## All offsets at the end -/

namespace Token

theorem checked_append (a b : List Token) :
    checked (a ++ b) = do
      let x ← checked a
      let y ← checked b
      return x ++ y := by
  unfold checked
  rw [List.all_append]
  cases a.all (·.span.fits) with
  | false => rfl
  | true => cases b.all (·.span.fits) <;> rfl

theorem fits_covering (kind : Kind) (base size : Nat) :
    (covering kind base size).span.fits = true ↔ base + size ≤ maxOffset :=
  Span.fits_iff (Nat.le_add_right base size)

/-- One token fits a word if the sum for its end does. -/
theorem checked_covering (kind : Kind) (base size : Nat) :
    checked [covering kind base size] = do
      let stop ← addOffsets? base size
      return [⟨kind, ⟨base, stop⟩⟩] := by
  rw [checked, List.all_cons, List.all_nil, Bool.and_true]
  by_cases hle : base + size ≤ maxOffset
  · rw [if_pos ((fits_covering kind base size).2 hle), addOffsets?_of_le hle]
    rfl
  · rw [if_neg (mt (fits_covering kind base size).1 hle), addOffsets?_of_lt (Nat.not_le.1 hle)]
    rfl

theorem all_fits_layOut (base : Nat) {ps : List Part} (h : ps ≠ []) :
    (layOut base ps).all (·.span.fits) = true ↔ base + (Part.spell ps).byteSize ≤ maxOffset := by
  induction ps generalizing base with
  | nil => exact absurd rfl h
  | cons p ps ih =>
    rw [layOut_cons, List.all_cons, Bool.and_eq_true, fits_covering, Part.spell_cons,
      Text.byteSize_append]
    cases ps with
    | nil => simp
    | cons q ps =>
      rw [and_congr_right' (ih (base + p.2.byteSize) (List.cons_ne_nil q ps))]
      omega

/-- The offsets of parts fit a word if the place where the last part ends does. -/
theorem checked_layOut (base : Nat) {ps : List Part} (h : ps ≠ []) :
    checked (layOut base ps) =
      if base + (Part.spell ps).byteSize ≤ maxOffset then .ok (layOut base ps)
      else .error .overflow := by
  rw [checked]
  simp only [all_fits_layOut base h]

end Token

/-- Parts at `base` are the parts from the beginning, moved by `base`, unless the end of their text
does not fit a word. -/
theorem Token.checked_layOut_eq_shift (base : Nat) {ps : List Part} {t : Text}
    (hspell : Part.spell ps = t) (hfull : ∀ part ∈ ps, part.2 ≠ []) :
    checked (layOut base ps) =
      if t ≠ [] ∧ maxOffset < base + t.byteSize then .error .overflow
      else .ok ((layOut 0 ps).map (shift base)) := by
  rw [← layOut_add, Nat.zero_add]
  by_cases ht : t = []
  · have hnil : ps = [] := by
      rw [List.eq_nil_iff_forall_not_mem]
      intro part hpart
      exact hfull part hpart (List.flatMap_eq_nil_iff.1 (hspell.trans ht) part hpart)
    rw [hnil, if_neg fun h => h.1 ht]
    rfl
  · have hne : ps ≠ [] := by
      rintro rfl
      exact ht hspell.symm
    rw [checked_layOut base hne, hspell]
    simp only [ne_eq, ht, not_false_eq_true, true_and, ← Nat.not_le, ite_not]

theorem Pass.checked_tokensThrough (ps : List Pass) (base : Nat) {t : Text} (ht : t ≠ []) :
    Token.checked (tokensThrough ps base t) =
      if base + t.byteSize ≤ maxOffset then .ok (tokensThrough ps base t)
      else .error .overflow := by
  rw [tokensThrough_eq_layOut, Token.checked_layOut base (partsThrough_ne_nil ht),
    spell_partsThrough]

/-! ## One sum after another -/

/-- Steps of which none fails give all their results. -/
theorem mapM_eq_ok {α β : Type} {f : α → Except OffsetError β} {g : α → β} {l : List α}
    (h : ∀ a ∈ l, f a = .ok (g a)) : l.mapM f = .ok (l.map g) := by
  induction l with
  | nil => rfl
  | cons a l ih =>
    rw [List.mapM_cons, h a List.mem_cons_self, ih fun b hb => h b (List.mem_cons_of_mem a hb)]
    rfl

namespace Pass

/-- How many places of a match a pass reads: that of the match, and those of both names of a
prefixed name. -/
def placesRead : Pass → Nat
  | .prefixedName => 3
  | _ => 1

/-- The tokens of a match in a text at `base`. -/
def emit? (p : Pass) (base : Nat) (m : List Span) : Except OffsetError (List Token) := do
  let places ← (m.take p.placesRead).mapM (Span.shift? base)
  return p.emit places

/-- The tokens of a gap in the text `t` at `base`, where `onGap` gives the tokens of a text from
its position; there are none if the gap is empty. -/
def gap? (onGap : Nat → Text → Except OffsetError (List Token)) (base : Nat) (t : Text)
    (s : Span) : Except OffsetError (List Token) := do
  if s.start < s.stop then
    let start ← addOffsets? base s.start
    onGap start (s.slice t)
  else
    return []

/-- The tokens of the text `t` at `base` from the byte `last` on, where the pass has the given
matches. -/
def sweep? (p : Pass) (onGap : Nat → Text → Except OffsetError (List Token)) (base : Nat)
    (t : Text) (last : Nat) : List (List Span) → Except OffsetError (List Token)
  | [] => gap? onGap base t ⟨last, t.byteSize⟩
  | [] :: ms => p.sweep? onGap base t last ms
  | (whole :: groups) :: ms => do
    let gap ← gap? onGap base t ⟨last, whole.start⟩
    let found ← p.emit? base (whole :: groups)
    let rest ← p.sweep? onGap base t whole.stop ms
    return gap ++ (found ++ rest)

/-- The tokens of a text that starts at `base` and runs through the given passes. -/
def tokensThrough? : List Pass → Nat → Text → Except OffsetError (List Token)
  | [], base, t => do
    let stop ← addOffsets? base t.byteSize
    return [⟨.plain, ⟨base, stop⟩⟩]
  | p :: ps, base, t => p.sweep? (tokensThrough? ps) base t 0 (p.find t)

/-- The tokens of a text that starts at `base` and enters the sequence of passes at `p`. -/
def tokens? (p : Pass) (base : Nat) (t : Text) : Except OffsetError (List Token) :=
  tokensThrough? p.onward base t

theorem emit_take_map_shift (p : Pass) (base : Nat) (m : List Span) :
    p.emit ((m.take p.placesRead).map (Span.shift base)) = (p.emit m).map (Token.shift base) := by
  cases p with
  | prefixedName => rcases m with _ | ⟨whole, _ | ⟨space, _ | ⟨name, m⟩⟩⟩ <;> rfl
  | uri | string | languageTag | keyword => cases m <;> rfl

/-- The places of a lexeme are in order and end where the lexeme does at the latest. -/
theorem le_of_mem_take_groups {l : Lexeme} {pos : Nat} {s : Span}
    (hs : s ∈ (l.groups.map (Span.shift pos)).take l.pass.placesRead) :
    s.start ≤ s.stop ∧ s.stop ≤ pos + l.text.byteSize := by
  rw [Lexeme.map_shift_groups] at hs
  cases l with
  | prefixedName space name =>
    have hcolon : Char.utf8Size ':' = 1 := by decide
    simp only [Lexeme.captures_prefixedName, Lexeme.pass, placesRead, List.take_succ_cons,
      List.take_zero, List.mem_cons, List.not_mem_nil, or_false, Lexeme.text,
      Text.byteSize_append, Text.byteSize_cons, hcolon] at hs ⊢
    rcases hs with rfl | rfl | rfl <;> simp only <;> omega
  | uri | string | languageTag | keyword =>
    obtain rfl := List.mem_singleton.1 hs
    exact ⟨Nat.le_add_right _ _, Nat.le_refl _⟩

theorem emit?_groups (l : Lexeme) (base pos : Nat) :
    l.pass.emit? base (l.groups.map (Span.shift pos)) = Token.checked (l.tokens (base + pos)) := by
  have hparts : l.parts ≠ [] := by cases l <;> simp [Lexeme.parts]
  rw [l.tokens_eq_layOut, Token.checked_layOut _ hparts, l.spell_parts, ← l.tokens_eq_layOut,
    ← map_shift_emit_groups, ← emit_take_map_shift, emit?]
  by_cases hle : base + pos + l.text.byteSize ≤ maxOffset
  · rw [if_pos hle, mapM_eq_ok]
    · rfl
    · intro s hs
      obtain ⟨horder, hstop⟩ := le_of_mem_take_groups hs
      exact Span.shift?_of_le horder (by omega)
  · rw [if_neg hle, Lexeme.map_shift_groups]
    have hwhole : Span.shift? base ⟨pos, pos + l.text.byteSize⟩ = .error .overflow :=
      Span.shift?_of_lt (Nat.le_add_right _ _) (by simp only; omega)
    have hread : l.pass.placesRead = l.pass.placesRead - 1 + 1 := by cases l <;> rfl
    rw [hread, List.take_succ_cons, List.mapM_cons, hwhole]
    rfl

section Sweep

variable {p : Pass} {onGap? : Nat → Text → Except OffsetError (List Token)} {base : Nat} {t : Text}

/-- The sum for where a gap begins is too large only if the offsets of its tokens are. -/
theorem gap?_eq_checked (honGap : ∀ b g, onGap? b g = Token.checked (p.forward b g)) {s : Span}
    (hstart : t.IsCharBoundary s.start) (hstop : t.IsCharBoundary s.stop) :
    gap? onGap? base t s = Token.checked
      (if s.start < s.stop then p.forward (base + s.start) (s.slice t) else []) := by
  by_cases hlt : s.start < s.stop
  · obtain ⟨g, hcovers⟩ := Span.exists_covers_iff.2 ⟨Nat.le_of_lt hlt, hstart, hstop⟩
    have hne : g ≠ [] := by
      rintro rfl
      have hsame := hcovers.stop_eq
      rw [Text.byteSize_nil] at hsame
      omega
    rw [gap?, if_pos hlt, if_pos hlt, hcovers.slice_eq]
    by_cases hle : base + s.start ≤ maxOffset
    · rw [addOffsets?_of_le hle]
      exact honGap _ g
    · rw [addOffsets?_of_lt (Nat.not_le.1 hle), ← tokensThrough_tail_onward,
        checked_tokensThrough _ _ hne, if_neg (by omega)]
      rfl
  · rw [gap?, if_neg hlt, if_neg hlt]
    rfl

/-- Sweeping over the matches of a search with one sum after another is sweeping over them and
looking at all offsets in the end. -/
theorem sweep?_eq_checked (honGap : ∀ b g, onGap? b g = Token.checked (p.forward b g)) {last : Nat}
    {ms : List (List Span)} (h : p.pattern.Search t last ms) (hlast : t.IsCharBoundary last) :
    p.sweep? onGap? base t last ms = Token.checked (p.sweep base t last ms) := by
  induction h with
  | done =>
    rw [sweep?, sweep]
    exact gap?_eq_checked honGap hlast ⟨t, [], by simp, rfl⟩
  | next hfound _ _ _ _ ih =>
    obtain ⟨before, l, after, rfl, htext, rfl, rfl, rfl, -⟩ := matchesAt_pattern_iff.1 hfound
    have hstart : t.IsCharBoundary before.byteSize :=
      ⟨before, l.text ++ after, by simp [htext], rfl⟩
    have hrest := ih ⟨before ++ l.text, after, htext, by simp⟩
    rw [sweep?, sweep, gap?_eq_checked honGap hlast hstart, hrest, ← Lexeme.map_shift_groups,
      map_shift_emit_groups, emit?_groups, List.append_assoc, Token.checked_append,
      Token.checked_append]
    simp only [bind_assoc, pure_bind]

end Sweep

/-- Making the offsets one sum after another is the same as looking at all of them in the end. -/
theorem tokens?_eq_classify? (p : Pass) (base : Nat) (t : Text) :
    p.tokens? base t = p.classify? base t := by
  rw [tokens?, classify?]
  refine onward_induction (motive := fun ps onText => ∀ base t,
    tokensThrough? ps base t = Token.checked (onText base t)) ?_ ?_ p base t
  · intro base t
    rw [tokensThrough?, Token.checked_covering]
  · intro p ps ih base t
    rw [tokensThrough?, classify_eq_sweep]
    exact sweep?_eq_checked ih (p.search_find t) ⟨[], t, rfl, rfl⟩

theorem classify?_eq (p : Pass) (base : Nat) (t : Text) :
    p.classify? base t =
      if t ≠ [] ∧ maxOffset < base + t.byteSize then .error .overflow
      else .ok ((p.classify 0 t).map (Token.shift base)) := by
  rw [classify?, classify_eq_layOut, classify_eq_layOut]
  exact Token.checked_layOut_eq_shift base (p.spell_parts t) fun _ => p.ne_nil_of_mem_parts

end Pass

/-! ## Lines -/

namespace Line

/-- The tokens of a line with text `t` that starts at `base`, one sum after another. -/
def tokens? (base : Nat) (t : Text) : Except OffsetError (List Token) := do
  if t.isEmpty then
    return []
  else if isCommentText t then
    let stop ← addOffsets? base t.byteSize
    return [⟨.comment, ⟨base, stop⟩⟩]
  else
    Pass.uri.tokens? base t

theorem classify?_eq (base : Nat) (t : Text) :
    classify? base t =
      if t ≠ [] ∧ maxOffset < base + t.byteSize then .error .overflow
      else .ok ((classify 0 t).map (Token.shift base)) := by
  rw [classify?, classify_eq_layOut, classify_eq_layOut]
  exact Token.checked_layOut_eq_shift base (spell_parts t) fun _ => ne_nil_of_mem_parts

theorem tokens?_eq_classify? (base : Nat) (t : Text) : tokens? base t = classify? base t := by
  rw [tokens?, classify?, classify]
  by_cases hempty : t.isEmpty = true
  · rw [if_pos hempty, if_pos hempty]
    rfl
  rw [if_neg hempty, if_neg hempty]
  by_cases hcomment : isCommentText t = true
  · rw [if_pos hcomment, if_pos hcomment, Token.checked_covering]
  · rw [if_neg hcomment, if_neg hcomment]
    exact Pass.tokens?_eq_classify? .uri base t

theorem tokens?_of_le {base : Nat} {t : Text} (h : base + t.byteSize ≤ maxOffset) :
    tokens? base t = .ok (classify base t) := by
  rw [tokens?_eq_classify?, classify?_eq, if_neg (by omega), ← classify_add, Nat.zero_add]

/-- A source line with its tokens, one sum after another. -/
def ofSourceLine? (l : SourceLine) : Except OffsetError Line := do
  let tokens ← tokens? l.span.start l.text
  return ⟨l.span, tokens, l.terminated⟩

end Line

/-! ## Sources -/

namespace Text

theorem length_le_byteSize (t : Text) : t.length ≤ t.byteSize := by
  induction t with
  | nil => exact Nat.le_refl 0
  | cons c t ih =>
    have hpos := c.utf8Size_pos
    rw [List.length_cons, byteSize_cons]
    omega

/-- There is one stretch more than there are separators. -/
theorem length_split (separator : Char) (t : Text) :
    (split separator t).length = t.count separator + 1 := by
  induction t with
  | nil => rfl
  | cons c t ih =>
    rw [split]
    by_cases hc : c = separator
    · rw [if_pos hc, List.length_cons, ih, hc, List.count_cons_self]
    · rw [if_neg hc, List.count_cons_of_ne hc, ← ih]
      cases hs : split separator t with
      | nil => exact absurd hs (split_ne_nil separator t)
      | cons u us => rfl

end Text

namespace SourceLine

/-- The lines with the given texts, of which the first has the given index and starts at `start`,
one sum after another.  There are `count` lines in all, and the place behind a line feed is worked
out even behind the last of them. -/
def layOut? (count : Nat) : Nat → Nat → List Text → Except OffsetError (List SourceLine)
  | _, _, [] => return []
  | index, start, t :: ts => do
    let width ← addOffsets? t.byteSize 1
    let next ← addOffsets? start width
    let stop ← addOffsets? start t.byteSize
    let number ← addOffsets? index 1
    let rest ← layOut? count number next ts
    return ⟨⟨start, stop⟩, t, number < count⟩ :: rest

/-- The lines of a source, one sum after another. -/
def ofSource? (source : Text) : Except OffsetError (List SourceLine) := do
  let count ← if source.isEmpty then pure 0 else addOffsets? (source.count '\n') 1
  layOut? count 0 0 ((Text.split '\n' source).take count)

theorem layOut?_cons {count index start : Nat} {t : Text} (ts : List Text)
    (hsize : start + t.byteSize + 1 ≤ maxOffset) (hindex : index + 1 ≤ maxOffset) :
    layOut? count index start (t :: ts) = do
      let rest ← layOut? count (index + 1) (start + t.byteSize + 1) ts
      return ⟨⟨start, start + t.byteSize⟩, t, index + 1 < count⟩ :: rest := by
  have hwidth : addOffsets? t.byteSize 1 = .ok (t.byteSize + 1) := addOffsets?_of_le (by omega)
  have hnext : addOffsets? start (t.byteSize + 1) = .ok (start + t.byteSize + 1) :=
    addOffsets?_of_le hsize
  have hstop : addOffsets? start t.byteSize = .ok (start + t.byteSize) :=
    addOffsets?_of_le (by omega)
  rw [layOut?, hwidth, hstop, addOffsets?_of_le hindex]
  show (addOffsets? start (t.byteSize + 1) >>= _) = _
  rw [hnext]
  rfl

theorem layOut?_of_le {count index start : Nat} {ts : List Text} (hts : ts ≠ [])
    (hcount : index + ts.length = count) (hle : count ≤ maxOffset)
    (hsize : start + (Text.join '\n' ts).byteSize + 1 ≤ maxOffset) :
    layOut? count index start ts = .ok (layOut start ts) := by
  induction ts generalizing index start with
  | nil => exact absurd rfl hts
  | cons t ts ih =>
    rw [List.length_cons] at hcount
    cases ts with
    | nil =>
      have hlast : decide (index + 1 < count) = false := by
        rw [decide_eq_false_iff_not, ← hcount]
        exact Nat.lt_irrefl _
      rw [Text.join] at hsize
      rw [layOut?_cons [] hsize (by omega), hlast]
      rfl
    | cons u us =>
      have hmore : decide (index + 1 < count) = true := by
        rw [decide_eq_true_iff, ← hcount, List.length_cons]
        omega
      rw [Text.byteSize_join_cons_cons] at hsize
      rw [layOut?_cons (u :: us) (by omega) (by omega), hmore,
        ih (List.cons_ne_nil u us) (by omega) (by omega)]
      rfl

theorem ofSource?_of_lt {source : Text} (h : source.byteSize < maxOffset) :
    ofSource? source = .ok (ofSource source) := by
  by_cases hempty : source = []
  · subst hempty
    rfl
  · have hfeeds : source.count '\n' + 1 ≤ maxOffset := by
      have hcount := List.count_le_length (a := '\n') (l := source)
      have hlength := Text.length_le_byteSize source
      omega
    have htake : (Text.split '\n' source).take (source.count '\n' + 1) = Text.split '\n' source := by
      rw [← Text.length_split, List.take_length]
    rw [ofSource?, ofSource, if_neg (by simpa using hempty), if_neg (by simpa using hempty),
      addOffsets?_of_le hfeeds]
    show layOut? (source.count '\n' + 1) 0 0 ((Text.split '\n' source).take _) = _
    rw [htake]
    refine layOut?_of_le (Text.split_ne_nil '\n' source) ?_ hfeeds ?_
    · rw [Nat.zero_add, Text.length_split]
    · rw [Text.join_split]
      omega

end SourceLine

namespace Block

/-- The block of a source, one sum after another. -/
def highlight? (source : Text) : Except OffsetError Block := do
  let sourceLines ← SourceLine.ofSource? source
  let lines ← sourceLines.mapM Line.ofSourceLine?
  return ⟨source, lines⟩

theorem highlight?_of_lt {source : Text} (h : source.byteSize < maxOffset) :
    highlight? source = .ok (highlight source) := by
  have hlines : (SourceLine.ofSource source).mapM Line.ofSourceLine?
      = .ok ((SourceLine.ofSource source).map Line.ofSourceLine) := by
    apply mapM_eq_ok
    intro l hl
    have hcovers := SourceLine.covers_of_mem_ofSource hl
    have hsize : l.span.start + l.text.byteSize ≤ maxOffset := by
      have hstop := hcovers.stop_le_byteSize
      rw [hcovers.stop_eq] at hstop
      omega
    rw [Line.ofSourceLine?, Line.tokens?_of_le hsize]
    rfl
  rw [highlight?, SourceLine.ofSource?_of_lt h]
  show (do
    let lines ← (SourceLine.ofSource source).mapM Line.ofSourceLine?
    return (⟨source, lines⟩ : Block)) = _
  rw [hlines]
  rfl

end Block

/-- **Moving a text moves its tokens, as long as its end fits a word.**  A line at `base` fails
exactly if it is not empty and ends behind the last offset of a word; otherwise its tokens are
those of the line at the beginning, moved by `base`.  The same holds of every pass and every text.
It makes no difference whether each sum is looked at when it is made or all offsets in the end.  No
sum is too large while a source that fits in memory is highlighted. -/
theorem Line.classify?_moves_or_overflows (base : Nat) (t : Text) :
    (classify? base t =
      if t ≠ [] ∧ maxOffset < base + t.byteSize then .error .overflow
      else .ok ((classify 0 t).map (Token.shift base))) ∧
    (∀ p : Pass, p.classify? base t =
      if t ≠ [] ∧ maxOffset < base + t.byteSize then .error .overflow
      else .ok ((p.classify 0 t).map (Token.shift base))) ∧
    tokens? base t = classify? base t ∧
    (∀ p : Pass, p.tokens? base t = p.classify? base t) ∧
    (t.byteSize ≤ maxTextSize → Block.highlight? t = .ok (Block.highlight t)) := by
  refine ⟨classify?_eq base t, fun p => p.classify?_eq base t, tokens?_eq_classify? base t,
    fun p => p.tokens?_eq_classify? base t, ?_⟩
  intro hsize
  have hlimit : maxTextSize < maxOffset := by decide
  exact Block.highlight?_of_lt (Nat.lt_of_le_of_lt hsize hlimit)

/-- The word `a` fits in front of the last offset and does not fit behind it. -/
theorem Line.classify?_moves_or_overflows_last_word :
    classify? (maxOffset - 1) ['a'] = .ok [⟨.keyword, ⟨maxOffset - 1, maxOffset⟩⟩] ∧
      classify? maxOffset ['a'] = .error .overflow ∧
      Text.byteSize ['a', '\n'] ≤ maxTextSize ∧
      Block.highlight? ['a', '\n'] = .ok (Block.highlight ['a', '\n']) := by
  refine ⟨?_, ?_, by decide, (Line.classify?_moves_or_overflows 0 ['a', '\n']).2.2.2.2 (by decide)⟩
  · rw [(Line.classify?_moves_or_overflows _ _).1]
    decide +kernel
  · rw [(Line.classify?_moves_or_overflows _ _).1, if_pos (by decide)]

end TurtleMarkup
