import TurtleMarkup.Proofs.Lossless

/-!
# Lines are classified independently

What a line becomes depends on its own text and nothing else.  Two sources with
a line feed between them are highlighted to the lines of the first, the last of
which now ends in a line feed, followed by the lines of the second, moved behind
the first (`Block.lines_highlight_append`).

Three facts carry this: splitting at line feeds turns the one in the middle into
a border between lists of texts (`Text.split_append`), lines are laid out one
list after the other (`Line.map_layOut_append`), and moving a text moves its
tokens along and changes nothing else (`Line.map_layOut_add`).
-/

namespace TurtleMarkup

/-! ## Moving a text -/

namespace Token

theorem covering_add (kind : Kind) (pos d size : Nat) :
    covering kind (pos + d) size = (covering kind pos size).shift d := by
  simp [covering, shift, Span.shift, Nat.add_right_comm]

/-- Parts that stand `d` bytes further on are laid out to tokens moved by `d` bytes. -/
theorem layOut_add (pos d : Nat) (ps : List Part) :
    layOut (pos + d) ps = (layOut pos ps).map (shift d) := by
  induction ps generalizing pos with
  | nil => rfl
  | cons p ps ih =>
    rw [layOut_cons, layOut_cons, List.map_cons, covering_add, Nat.add_right_comm, ih]

end Token

namespace Line

theorem classify_add (base d : Nat) (t : Text) :
    classify (base + d) t = (classify base t).map (Token.shift d) := by
  rw [classify_eq_layOut, classify_eq_layOut, Token.layOut_add]

/-- The line moved `d` bytes further on, with its tokens. -/
def shift (d : Nat) (l : Line) : Line :=
  ⟨l.span.shift d, l.tokens.map (Token.shift d), l.terminated⟩

/-- Lines whose last one ends in a line feed, too. -/
def terminateLast : List Line → List Line
  | [] => []
  | [l] => [{ l with terminated := true }]
  | l :: ls => l :: terminateLast ls

theorem terminateLast_cons {ls : List Line} (l : Line) (h : ls ≠ []) :
    terminateLast (l :: ls) = l :: terminateLast ls := by
  cases ls with
  | nil => exact absurd rfl h
  | cons m ms => rfl

/-- Texts that stand `d` bytes further on give the same lines, moved by `d` bytes. -/
theorem map_layOut_add (start d : Nat) (ts : List Text) :
    (SourceLine.layOut (start + d) ts).map ofSourceLine
      = ((SourceLine.layOut start ts).map ofSourceLine).map (shift d) := by
  have hline : ∀ (start : Nat) (t : Text) (terminated : Bool),
      ofSourceLine ⟨⟨start + d, start + d + t.byteSize⟩, t, terminated⟩
        = shift d (ofSourceLine ⟨⟨start, start + t.byteSize⟩, t, terminated⟩) := by
    intro start t terminated
    simp only [ofSourceLine, shift, Span.shift, classify_add, Nat.add_right_comm start d]
  induction ts generalizing start with
  | nil => rfl
  | cons t ts ih =>
    cases ts with
    | nil => rw [SourceLine.layOut, SourceLine.layOut, List.map_singleton, hline]; rfl
    | cons u us =>
      have hnext : start + d + t.byteSize + 1 = start + t.byteSize + 1 + d := by omega
      rw [SourceLine.layOut_cons_cons, SourceLine.layOut_cons_cons, List.map_cons, List.map_cons,
        List.map_cons, hline, hnext, ih]

/-- Two lists of texts are laid out one after the other, with one byte for the line feed between
them. -/
theorem map_layOut_append (start : Nat) {ts us : List Text} (hts : ts ≠ []) (hus : us ≠ []) :
    (SourceLine.layOut start (ts ++ us)).map ofSourceLine
      = terminateLast ((SourceLine.layOut start ts).map ofSourceLine)
        ++ (SourceLine.layOut (start + (Text.join '\n' ts).byteSize + 1) us).map ofSourceLine := by
  induction ts generalizing start with
  | nil => exact absurd rfl hts
  | cons t ts ih =>
    cases ts with
    | nil =>
      cases us with
      | nil => exact absurd rfl hus
      | cons u us => rfl
    | cons v vs =>
      have hne : (SourceLine.layOut (start + t.byteSize + 1) (v :: vs)).map ofSourceLine ≠ [] := by
        cases vs <;> simp [SourceLine.layOut]
      have hstart : start + (Text.join '\n' (t :: v :: vs)).byteSize + 1
          = start + t.byteSize + 1 + (Text.join '\n' (v :: vs)).byteSize + 1 := by
        rw [Text.byteSize_join_cons_cons]
        omega
      rw [List.cons_append, List.cons_append, SourceLine.layOut_cons_cons, List.map_cons,
        ← List.cons_append, ih _ (List.cons_ne_nil v vs), SourceLine.layOut_cons_cons,
        List.map_cons, terminateLast_cons _ hne, hstart, List.cons_append]

end Line

namespace Block

theorem lines_highlight {source : Text} (h : source ≠ []) :
    (highlight source).lines
      = (SourceLine.layOut 0 (Text.split '\n' source)).map Line.ofSourceLine := by
  rw [highlight, SourceLine.ofSource, if_neg (by simpa using h)]

/-- The tokens of a line, counted from where the line begins, are those of its text alone. -/
theorem tokens_eq_map_shift {source : Text} {l : Line} (hl : l ∈ (highlight source).lines) :
    l.tokens = (Line.classify 0 (l.span.slice source)).map (Token.shift l.span.start) := by
  obtain ⟨s, hs, rfl⟩ := List.mem_map.1 hl
  rw [Line.ofSourceLine, (SourceLine.covers_of_mem_ofSource hs).slice_eq, ← Line.classify_add,
    Nat.zero_add]

/-- **Lines are classified independently.**  Two sources that are not empty, with a line feed
between them, have the lines of the first, whose last one now ends in a line feed, and the lines of
the second, moved behind the first.  So in every source the tokens of a line, counted from where
the line begins, are those of its text alone. -/
theorem lines_highlight_append :
    (∀ s₁ s₂ : Text, s₁ ≠ [] → s₂ ≠ [] →
      (highlight (s₁ ++ '\n' :: s₂)).lines
        = Line.terminateLast (highlight s₁).lines
          ++ (highlight s₂).lines.map (Line.shift (s₁.byteSize + 1))) ∧
      ∀ source : Text, ∀ l ∈ (highlight source).lines,
        l.tokens = (Line.classify 0 (l.span.slice source)).map (Token.shift l.span.start) := by
  refine ⟨?_, fun source l hl => tokens_eq_map_shift hl⟩
  intro s₁ s₂ h₁ h₂
  have hne : s₁ ++ '\n' :: s₂ ≠ [] := by simp
  rw [lines_highlight hne, lines_highlight h₁, lines_highlight h₂, Text.split_append,
    Line.map_layOut_append 0 (Text.split_ne_nil '\n' s₁) (Text.split_ne_nil '\n' s₂),
    Text.join_split, Nat.add_assoc, Line.map_layOut_add]

/-- The first source may end in a line feed and the second begin with one: between `a` and `<x>`
stand two empty lines. -/
theorem lines_highlight_append_empty_lines :
    ['a', '\n'] ≠ [] ∧ ['\n', '<', 'x', '>'] ≠ [] ∧
      (highlight (['a', '\n'] ++ '\n' :: ['\n', '<', 'x', '>'])).lines
        = [⟨⟨0, 1⟩, [⟨.keyword, ⟨0, 1⟩⟩], true⟩, ⟨⟨2, 2⟩, [], true⟩, ⟨⟨3, 3⟩, [], true⟩,
          ⟨⟨4, 7⟩, [⟨.uri, ⟨4, 7⟩⟩], false⟩] := by
  refine ⟨by decide, by decide, ?_⟩
  rw [lines_highlight_append.1 _ _ (by decide) (by decide)]
  decide +kernel

end Block

end TurtleMarkup
