import Mathlib.Data.List.Basic
import TurtleMarkup.Proofs.Parts

/-!
# Highlighting loses nothing

The tokens of a highlighted block, read in order with a line feed behind every
line that ends in one, are the source again (`Block.highlight_lossless`).

The argument has three levels.  Lines stand in the source where their spans say
(`SourceLine.covers_of_mem_ofSource`); the tokens of a line are its parts laid
out from where the line begins, so slicing the source gives the parts back
(`Block.parts_highlight`); and the parts spell the line.
-/

namespace TurtleMarkup

/-- A line feed takes one byte. -/
theorem Text.byteSize_join_cons_cons (t u : Text) (us : List Text) :
    (join '\n' (t :: u :: us)).byteSize = t.byteSize + 1 + (join '\n' (u :: us)).byteSize := by
  have hfeed : byteSize ['\n'] = 1 := by decide
  rw [join_cons_cons, byteSize_append, byteSize_append, hfeed, Nat.add_assoc]

namespace SourceLine

theorem layOut_cons_cons (start : Nat) (t u : Text) (us : List Text) :
    layOut start (t :: u :: us)
      = ⟨⟨start, start + t.byteSize⟩, t, true⟩ :: layOut (start + t.byteSize + 1) (u :: us) := rfl

/-- The text of a line with its line feed. -/
def whole (l : SourceLine) : Text := l.text ++ if l.terminated then ['\n'] else []

/-- What lines become one by one is joined by the line feeds between them. -/
theorem flatMap_layOut (f : Text → Text) (start : Nat) (ts : List Text) :
    (layOut start ts).flatMap (fun l => f l.text ++ if l.terminated then ['\n'] else [])
      = Text.join '\n' (ts.map f) := by
  induction ts generalizing start with
  | nil => rfl
  | cons t ts ih =>
    cases ts with
    | nil => simp [layOut, Text.join]
    | cons u us =>
      rw [layOut_cons_cons, List.flatMap_cons, ih]
      simp [Text.join_cons_cons]

/-- The lines of a text are put together to the text. -/
theorem flatMap_whole_layOut (start : Nat) (ts : List Text) :
    (layOut start ts).flatMap whole = Text.join '\n' ts := by
  have h := flatMap_layOut id start ts
  rwa [List.map_id] at h

theorem flatMap_whole_ofSource (source : Text) : (ofSource source).flatMap whole = source := by
  unfold ofSource
  split
  · rename_i h
    simpa using h.symm
  · rw [flatMap_whole_layOut, Text.join_split]

theorem covers_of_mem_layOut {s : Span} {source : Text} {ts : List Text}
    (h : s.Covers source (Text.join '\n' ts)) {l : SourceLine} (hl : l ∈ layOut s.start ts) :
    l.span.Covers source l.text := by
  induction ts generalizing s with
  | nil => simp [layOut] at hl
  | cons t ts ih =>
    cases ts with
    | nil =>
      rw [layOut, List.mem_singleton] at hl
      subst hl
      rw [← List.append_nil (Text.join '\n' [t])] at h
      exact h.left
    | cons u us =>
      rw [Text.join_cons_cons] at h
      rw [layOut_cons_cons] at hl
      rcases List.mem_cons.1 hl with rfl | hl
      · exact h.left
      · -- the other lines begin behind the line feed, which takes one byte
        exact ih h.right.right hl

/-- Every line stands in the source where its span says. -/
theorem covers_of_mem_ofSource {source : Text} {l : SourceLine} (hl : l ∈ ofSource source) :
    l.span.Covers source l.text := by
  unfold ofSource at hl
  split at hl
  · simp at hl
  · have h : Span.Covers ⟨0, source.byteSize⟩ source (Text.join '\n' (Text.split '\n' source)) := by
      rw [Text.join_split]
      exact Span.covers_self source
    exact covers_of_mem_layOut h hl

theorem covers_spell_parts {source : Text} {l : SourceLine} (hl : l ∈ ofSource source) :
    l.span.Covers source (Part.spell (Line.parts l.text)) := by
  rw [Line.spell_parts]
  exact covers_of_mem_ofSource hl

end SourceLine

namespace Block

variable {source : Text}

/-- The parts of a line of a highlighted block are the parts of the text of that line. -/
theorem parts_highlight {l : SourceLine} (hl : l ∈ SourceLine.ofSource source) :
    (highlight source).parts (Line.ofSourceLine l) = Line.parts l.text := by
  rw [parts, Line.ofSourceLine, Line.classify_eq_layOut]
  exact Token.parts_layOut (SourceLine.covers_spell_parts hl)

theorem lineText_eq_spell (b : Block) (l : Line) :
    b.lineText l = Part.spell (b.parts l) ++ if l.terminated then ['\n'] else [] := by
  rw [lineText, Part.spell, parts, List.flatMap_map]

theorem lineText_highlight {l : SourceLine} (hl : l ∈ SourceLine.ofSource source) :
    (highlight source).lineText (Line.ofSourceLine l) = l.whole := by
  rw [lineText_eq_spell, parts_highlight hl, Line.spell_parts]
  rfl

theorem reconstruct_eq_source (source : Text) : (highlight source).reconstruct = source := by
  have h : (SourceLine.ofSource source).flatMap
        (fun l => (highlight source).lineText (Line.ofSourceLine l))
      = (SourceLine.ofSource source).flatMap SourceLine.whole :=
    List.flatMap_congr fun l hl => lineText_highlight hl
  calc (highlight source).reconstruct
      = (SourceLine.ofSource source).flatMap
          (fun l => (highlight source).lineText (Line.ofSourceLine l)) := by
        rw [reconstruct, highlight, List.flatMap_map]
    _ = (SourceLine.ofSource source).flatMap SourceLine.whole := h
    _ = source := SourceLine.flatMap_whole_ofSource source

/-- Every token of a highlighted block covers a text of the source. -/
theorem covers_of_mem_tokens {t : Token} (ht : t ∈ (highlight source).tokens) :
    ∃ u, t.span.Covers source u := by
  rw [tokens, highlight, List.flatMap_map, List.mem_flatMap] at ht
  obtain ⟨l, hl, ht⟩ := ht
  rw [Line.ofSourceLine, Line.classify_eq_layOut] at ht
  obtain ⟨u, -, hu⟩ := Token.covers_of_mem_layOut (SourceLine.covers_spell_parts hl) ht
  exact ⟨u, hu⟩

/-- **Highlighting is lossless.**  The slices of all tokens, with a line feed behind every line
that ends in one, are the source.  No token is out of order, out of range or off a character
boundary, so no slice is empty by mistake. -/
theorem highlight_lossless (source : Text) :
    (highlight source).reconstruct = source ∧
      ∀ t ∈ (highlight source).tokens,
        t.span.start ≤ t.span.stop ∧ t.span.stop ≤ source.byteSize ∧
          source.IsCharBoundary t.span.start ∧ source.IsCharBoundary t.span.stop := by
  refine ⟨reconstruct_eq_source source, ?_⟩
  intro t ht
  obtain ⟨u, hu⟩ := covers_of_mem_tokens ht
  exact ⟨hu.start_le_stop, hu.stop_le_byteSize, hu.isCharBoundary_start, hu.isCharBoundary_stop⟩

end Block

end TurtleMarkup
