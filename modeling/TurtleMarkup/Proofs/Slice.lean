import TurtleMarkup.Span

/-!
# What a span covers

A span is two numbers, and slicing with a span that is out of order, out of
range or off a character boundary quietly gives nothing.  `Span.Covers` says
that none of this happens: the source falls into what stands before the span,
the covered text and what stands after it.  A covering span slices to the text
it covers (`Span.Covers.slice_eq`), and it may be cut in two wherever the
covered text may (`Span.Covers.left`, `Span.Covers.right`).
-/

namespace TurtleMarkup

namespace Text

/-- Whether a character of the text ends, or its first one begins, at an offset. -/
def IsCharBoundary (t : Text) (n : Nat) : Prop := ∃ a b, t = a ++ b ∧ a.byteSize = n

theorem byteSize_pos {t : Text} (h : t ≠ []) : 0 < t.byteSize :=
  Nat.pos_of_ne_zero (mt byteSize_eq_zero.1 h)

/-- Of two beginnings of a text, the one that takes fewer bytes is a beginning of the other. -/
theorem exists_append_of_byteSize_le {a b a' b' : Text} (h : a ++ b = a' ++ b')
    (hle : a.byteSize ≤ a'.byteSize) : ∃ c, a' = a ++ c ∧ b = c ++ b' := by
  rcases List.append_eq_append_iff.1 h with ⟨c, ha, hb⟩ | ⟨c, ha, hb⟩
  · exact ⟨c, ha, hb⟩
  · rw [ha, byteSize_append] at hle
    obtain rfl : c = [] := byteSize_eq_zero.1 (by omega)
    exact ⟨[], by simp [ha], by simp [hb]⟩

/-- A beginning of a text is determined by the bytes it takes. -/
theorem append_inj_of_byteSize_eq {a b a' b' : Text} (h : a ++ b = a' ++ b')
    (heq : a.byteSize = a'.byteSize) : a = a' ∧ b = b' := by
  obtain ⟨c, rfl, rfl⟩ := exists_append_of_byteSize_le h (Nat.le_of_eq heq)
  rw [byteSize_append] at heq
  obtain rfl : c = [] := byteSize_eq_zero.1 (by omega)
  simp

end Text

namespace Span

/-- The span covers the text `t` of a source: its ends are those of an occurrence of `t`. -/
def Covers (s : Span) (source t : Text) : Prop :=
  ∃ before after, source = before ++ t ++ after ∧
    s.start = before.byteSize ∧ s.stop = before.byteSize + t.byteSize

/-- A source is covered from its first byte to its last. -/
theorem covers_self (source : Text) : Covers ⟨0, source.byteSize⟩ source source :=
  ⟨[], [], by simp, rfl, by simp⟩

namespace Covers

variable {s : Span} {source t u : Text}

/-- A covering span slices to the text it covers. -/
theorem slice_eq (h : s.Covers source t) : s.slice source = t := by
  obtain ⟨before, after, rfl, hstart, hstop⟩ := h
  have hsize : s.size = t.byteSize := by rw [size]; omega
  rw [slice, if_pos (by omega), hsize, hstart, List.append_assoc,
    Text.dropBytes?_byteSize_append, Option.bind_some, Text.takeBytes?_byteSize_append,
    Option.getD_some]

/-- A covering span is as long as the text it covers. -/
theorem stop_eq (h : s.Covers source t) : s.stop = s.start + t.byteSize := by
  obtain ⟨before, after, -, hstart, hstop⟩ := h
  rw [hstop, hstart]

theorem start_le_stop (h : s.Covers source t) : s.start ≤ s.stop := by
  rw [h.stop_eq]
  exact Nat.le_add_right s.start t.byteSize

theorem stop_le_byteSize (h : s.Covers source t) : s.stop ≤ source.byteSize := by
  obtain ⟨before, after, rfl, -, hstop⟩ := h
  simp only [Text.byteSize_append]
  omega

theorem isCharBoundary_start (h : s.Covers source t) : source.IsCharBoundary s.start := by
  obtain ⟨before, after, rfl, hstart, -⟩ := h
  exact ⟨before, t ++ after, by simp, hstart.symm⟩

theorem isCharBoundary_stop (h : s.Covers source t) : source.IsCharBoundary s.stop := by
  obtain ⟨before, after, rfl, -, hstop⟩ := h
  exact ⟨before ++ t, after, rfl, by rw [hstop, Text.byteSize_append]⟩

/-- The first part of a covered text is covered by the first part of the span. -/
theorem left (h : s.Covers source (t ++ u)) :
    Covers ⟨s.start, s.start + t.byteSize⟩ source t := by
  obtain ⟨before, after, rfl, hstart, -⟩ := h
  exact ⟨before, u ++ after, by simp, hstart, by simp only [hstart]⟩

/-- The second part of a covered text is covered by the second part of the span. -/
theorem right (h : s.Covers source (t ++ u)) :
    Covers ⟨s.start + t.byteSize, s.stop⟩ source u := by
  obtain ⟨before, after, rfl, hstart, hstop⟩ := h
  refine ⟨before ++ t, after, by simp, ?_, ?_⟩
  · simp only [hstart, Text.byteSize_append]
  · simp only [hstop, Text.byteSize_append, Nat.add_assoc]

end Covers

/-- A span covers some text of a source if its ends are in order and between characters. -/
theorem exists_covers_iff {s : Span} {source : Text} :
    (∃ t, s.Covers source t) ↔
      s.start ≤ s.stop ∧ source.IsCharBoundary s.start ∧ source.IsCharBoundary s.stop := by
  constructor
  · rintro ⟨t, h⟩
    exact ⟨h.start_le_stop, h.isCharBoundary_start, h.isCharBoundary_stop⟩
  · rintro ⟨hle, ⟨a, b, rfl, hstart⟩, c, d, hcd, hstop⟩
    obtain ⟨t, rfl, rfl⟩ := Text.exists_append_of_byteSize_le hcd (by omega)
    rw [Text.byteSize_append] at hstop
    exact ⟨t, a, d, by simp, hstart.symm, hstop.symm⟩

end Span

end TurtleMarkup
