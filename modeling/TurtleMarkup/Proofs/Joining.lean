import TurtleMarkup.Proofs.Offsets
import TurtleMarkup.Proofs.Shapes

/-!
# Cutting a source into lines undoes joining them

Joining the lines of a source with line feeds gives the source, and cutting joined
texts gives the texts, each at the place where it stands
(`SourceLine.ofSource_inverts_join`).  One list of texts does not come back: an empty
text alone is joined to the empty source, which has no lines.
-/

namespace TurtleMarkup.SourceLine

theorem join_text_ofSource (source : Text) :
    Text.join '\n' ((ofSource source).map text) = source := by
  unfold ofSource
  split
  · rename_i h
    exact (List.isEmpty_iff.1 h).symm
  · rw [map_text_layOut, Text.join_split]

/-- Texts without line feeds are the lines of what they are joined to, unless there is only an
empty one. -/
theorem ofSource_join {ts : List Text} (h : ∀ t ∈ ts, '\n' ∉ t) (hne : ts ≠ [[]]) :
    ofSource (Text.join '\n' ts) = layOut 0 ts := by
  by_cases hts : ts = []
  · subst hts
    rfl
  · have hsource : Text.join '\n' ts ≠ [] := by
      rw [ne_eq, Text.join_eq_nil_iff, not_or]
      exact ⟨hts, hne⟩
    rw [ofSource, if_neg (by simpa using hsource), Text.split_join hts h]

theorem map_text_ofSource_join_iff {ts : List Text} (h : ∀ t ∈ ts, '\n' ∉ t) :
    (ofSource (Text.join '\n' ts)).map text = ts ↔ ts ≠ [[]] := by
  constructor
  · rintro htexts rfl
    exact absurd htexts (by decide)
  · intro hne
    rw [ofSource_join h hne, map_text_layOut]

/-- **Cutting into lines and joining are inverse.**  The texts of the lines of a source are joined
to the source, none of them has a line feed, and every span slices the source to the text of its
line.  In turn, texts without line feeds are the lines of what they are joined to, except for an
empty text alone.  The span of each starts behind the texts before it, with one byte for every line
feed between them, and all but the last are terminated.  It makes no difference to a source that
fits in memory whether its lines are laid out like this or the line feeds are counted, as many
stretches taken and the offsets added up one by one. -/
theorem ofSource_inverts_join :
    (∀ source : Text,
      Text.join '\n' ((ofSource source).map text) = source ∧
      (∀ l ∈ ofSource source, '\n' ∉ l.text ∧ l.span.slice source = l.text) ∧
      (source.byteSize ≤ maxTextSize → ofSource? source = .ok (ofSource source))) ∧
    ∀ ts : List Text, (∀ t ∈ ts, '\n' ∉ t) →
      ((ofSource (Text.join '\n' ts)).map text = ts ↔ ts ≠ [[]]) ∧
      (ts ≠ [[]] → ofSource (Text.join '\n' ts) = ts.mapIdx fun i t =>
        ⟨⟨startOf ts i, startOf ts i + t.byteSize⟩, t, i + 1 < ts.length⟩) := by
  constructor
  · intro source
    refine ⟨join_text_ofSource source, ?_, ?_⟩
    · intro l hl
      exact ⟨feed_not_mem hl, (covers_of_mem_ofSource hl).slice_eq⟩
    · intro hsize
      have hlimit : maxTextSize < maxOffset := by decide
      exact ofSource?_of_lt (Nat.lt_of_le_of_lt hsize hlimit)
  · intro ts h
    refine ⟨map_text_ofSource_join_iff h, ?_⟩
    intro hne
    rw [ofSource_join h hne, layOut_eq_mapIdx]
    simp only [Nat.zero_add]

/-- An empty line has a place of its own, between other lines and at the end, and the first line
feed stands behind the two bytes of `é`. -/
theorem ofSource_inverts_join_empty_lines :
    (∀ t ∈ [['é'], [], ['b'], []], '\n' ∉ t) ∧ [['é'], [], ['b'], []] ≠ [[]] ∧
      Text.join '\n' [['é'], [], ['b'], []] = ['é', '\n', '\n', 'b', '\n'] ∧
      ofSource ['é', '\n', '\n', 'b', '\n']
        = [⟨⟨0, 2⟩, ['é'], true⟩, ⟨⟨3, 3⟩, [], true⟩, ⟨⟨4, 5⟩, ['b'], true⟩, ⟨⟨6, 6⟩, [], false⟩] ∧
      ofSource? ['é', '\n', '\n', 'b', '\n'] = .ok (ofSource ['é', '\n', '\n', 'b', '\n']) := by
  have hfeeds : ∀ t ∈ [['é'], [], ['b'], []], '\n' ∉ t := by simp
  have hne : [['é'], [], ['b'], []] ≠ [[]] := by simp
  have hlines := (ofSource_inverts_join.2 [['é'], [], ['b'], []] hfeeds).2 hne
  exact ⟨hfeeds, hne, rfl, hlines, (ofSource_inverts_join.1 _).2.2 (by decide)⟩

end TurtleMarkup.SourceLine
