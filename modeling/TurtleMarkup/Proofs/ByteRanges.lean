import TurtleMarkup.Proofs.Offsets
import TurtleMarkup.Text.Utf8

/-!
# Slices are byte ranges

A slice is found by walking over characters and counting the bytes they take.
Seen from the bytes it is simpler: it is the text that the bytes between the two
offsets are the UTF-8 form of, and nothing if they are not the form of any text
(`Span.slice_eq_decode?`).  Here UTF-8 itself comes in, since a range of bytes
that is not empty has a text only if it starts and stops between two characters
(`Text.ends_of_decode?_extract`).

The bytes of a line are a range of the bytes of its source, so a span of the line
and the same span moved into the source have the same bytes between their ends
and slice to the same text (`Span.slice_agrees_in_source`).
-/

namespace TurtleMarkup

namespace Text

variable {t : Text}

theorem dropBytes?_eq_some {n : Nat} {rest : Text} (h : dropBytes? n t = some rest) :
    ∃ a, t = a ++ rest ∧ a.byteSize = n := by
  fun_induction dropBytes? n t with
  | case1 => exact ⟨[], by simpa using h, rfl⟩
  | case2 => simp at h
  | case3 c t => exact ⟨[], by simpa using h, rfl⟩
  | case4 n c t _ hle ih =>
    obtain ⟨a, rfl, ha⟩ := ih h
    refine ⟨c :: a, rfl, ?_⟩
    rw [byteSize_cons, ha]
    omega
  | case5 => simp at h

theorem takeBytes?_eq_some {n : Nat} {a : Text} (h : takeBytes? n t = some a) :
    ∃ rest, t = a ++ rest ∧ a.byteSize = n := by
  fun_induction takeBytes? n t generalizing a with
  | case1 =>
    obtain rfl := Option.some.inj h
    exact ⟨[], rfl, rfl⟩
  | case2 => simp at h
  | case3 c t =>
    obtain rfl := Option.some.inj h
    exact ⟨c :: t, rfl, rfl⟩
  | case4 n c t _ hle ih =>
    obtain ⟨a, ha, rfl⟩ := Option.map_eq_some_iff.1 h
    obtain ⟨rest, rfl, hsize⟩ := ih ha
    refine ⟨rest, rfl, ?_⟩
    rw [byteSize_cons, hsize]
    omega
  | case5 => simp at h

/-- The boundaries of a text are the valid positions of the string with its characters. -/
theorem isCharBoundary_iff_isValid {n : Nat} :
    t.IsCharBoundary n ↔ String.Pos.Raw.IsValid (String.ofList t) ⟨n⟩ := by
  rw [String.Pos.Raw.isValid_iff_exists_append]
  constructor
  · rintro ⟨a, b, rfl, rfl⟩
    exact ⟨String.ofList a, String.ofList b, String.ofList_append,
      congrArg String.Pos.Raw.mk (size_encode a).symm⟩
  · rintro ⟨a, b, ht, hn⟩
    have hsize := size_encode a.toList
    rw [encode, String.ofList_toList] at hsize
    refine ⟨a.toList, b.toList, ?_, ?_⟩
    · rw [← String.toList_append, ← ht, String.toList_ofList]
    · exact hsize.symm.trans (congrArg String.Pos.Raw.byteIdx hn).symm

/-- A range of bytes that has a text is empty or lies between two boundaries. -/
theorem ends_of_decode?_extract {i j : Nat} {u : Text} (hij : i ≤ j) (hj : j ≤ t.byteSize)
    (h : decode? ((encode t).extract i j) = some u) :
    i = j ∨ t.IsCharBoundary i ∧ t.IsCharBoundary j := by
  have hvalid : ((encode t).extract i j).IsValidUTF8 := by
    rw [decode?_eq_some_iff.1 h]
    exact (String.ofList u).isValidUTF8
  have hstop : j ≤ (encode t).size := by rwa [size_encode]
  rcases (String.Pos.Raw.isValidUTF8_extract_iff (s := String.ofList t) ⟨i⟩ ⟨j⟩ hij hstop).1 hvalid
    with heq | hends
  · exact .inl (congrArg String.Pos.Raw.byteIdx heq)
  · rw [isCharBoundary_iff_isValid, isCharBoundary_iff_isValid]
    exact .inr hends

end Text

namespace Span

variable {s : Span} {source t u : Text}

/-! ## What a span slices to -/

theorem covers_of_slice_ne_nil (h : s.slice t ≠ []) : s.Covers t (s.slice t) := by
  rw [slice] at h ⊢
  split at h
  · rename_i hle
    rw [if_pos hle]
    cases hpart : (Text.dropBytes? s.start t).bind (Text.takeBytes? s.size) with
    | none =>
      rw [hpart] at h
      exact absurd rfl h
    | some u =>
      obtain ⟨rest, hrest, hu⟩ := Option.bind_eq_some_iff.1 hpart
      obtain ⟨before, rfl, hstart⟩ := Text.dropBytes?_eq_some hrest
      obtain ⟨after, rfl, hsize⟩ := Text.takeBytes?_eq_some hu
      refine ⟨before, after, by simp, hstart.symm, ?_⟩
      rw [Option.getD_some, hstart, hsize, size]
      omega
  · exact absurd rfl h

/-- A span slices a text to what it covers there, and to nothing if it covers nothing. -/
theorem slice_cases (s : Span) (t : Text) :
    s.Covers t (s.slice t) ∨ s.slice t = [] ∧ ¬ ∃ u, s.Covers t u := by
  by_cases h : ∃ u, s.Covers t u
  · obtain ⟨u, hu⟩ := h
    left
    rwa [hu.slice_eq]
  · refine .inr ⟨?_, h⟩
    by_contra hne
    exact h ⟨_, covers_of_slice_ne_nil hne⟩

/-- A span that is in order slices to nothing exactly if it is empty or off a boundary. -/
theorem slice_eq_nil_iff (h : s.start ≤ s.stop) :
    s.slice t = [] ↔
      s.start = s.stop ∨ ¬ t.IsCharBoundary s.start ∨ ¬ t.IsCharBoundary s.stop := by
  rcases slice_cases s t with hcovers | ⟨hnil, hnone⟩
  · have hstart := hcovers.isCharBoundary_start
    have hstop := hcovers.isCharBoundary_stop
    have hsize := hcovers.stop_eq
    rw [← Text.byteSize_eq_zero]
    simp only [hstart, hstop, not_true_eq_false, or_self, or_false]
    omega
  · rw [exists_covers_iff, not_and, not_and_or] at hnone
    exact ⟨fun _ => .inr (hnone h), fun _ => hnil⟩

/-- The bytes of a covered text stand in the source from the start of the span on. -/
theorem Covers.extract_encode_shift {place : Span} (h : place.Covers source t)
    (hle : s.start ≤ s.stop) (hsize : s.stop ≤ t.byteSize) :
    (Text.encode source).extract (s.shift place.start).start (s.shift place.start).stop
      = (Text.encode t).extract s.start s.stop := by
  obtain ⟨before, after, rfl, hstart, -⟩ := h
  have hbefore : place.start = (Text.encode before).size := by rw [hstart, Text.size_encode]
  have hstop : s.stop ≤ (Text.encode t).size := by rwa [Text.size_encode]
  rw [shift, Nat.add_comm s.start, Nat.add_comm s.stop, List.append_assoc, Text.encode_append,
    ByteArray.extract_append_size_add' hbefore, Text.encode_append, ByteArray.extract_append,
    Nat.sub_eq_zero_of_le hstop, Nat.sub_eq_zero_of_le (hle.trans hstop), ByteArray.extract_same,
    ByteArray.append_empty]

theorem Covers.extract_encode (h : s.Covers source t) :
    (Text.encode source).extract s.start s.stop = Text.encode t := by
  have hwhole : s = shift s.start ⟨0, t.byteSize⟩ := by
    rw [shift, Nat.zero_add, Nat.add_comm, ← h.stop_eq]
  have hbytes := h.extract_encode_shift (s := ⟨0, t.byteSize⟩) (Nat.zero_le _) (Nat.le_refl _)
  rwa [← hwhole, ← Text.size_encode, ByteArray.extract_zero_size] at hbytes

/-- A span inside a text slices to the text that the bytes between its ends are the form of. -/
theorem slice_eq_decode? (h : s.start ≤ s.stop) (hsize : s.stop ≤ t.byteSize) :
    s.slice t = (Text.decode? ((Text.encode t).extract s.start s.stop)).getD [] := by
  rcases slice_cases s t with hcovers | ⟨hnil, hnone⟩
  · rw [hcovers.extract_encode, Text.decode?_encode, Option.getD_some]
  · rw [hnil]
    cases hdecode : Text.decode? ((Text.encode t).extract s.start s.stop) with
    | none => rfl
    | some u =>
      -- some text has these bytes, although the span is off a boundary: then there are no bytes
      rcases Text.ends_of_decode?_extract h hsize hdecode with heq | hends
      · have hbytes := Text.decode?_eq_some_iff.1 hdecode
        have hu := Text.size_encode u
        rw [← hbytes, heq, ByteArray.extract_same] at hu
        exact (Text.byteSize_eq_zero.1 hu.symm).symm
      · exact absurd (exists_covers_iff.2 ⟨h, hends⟩) hnone

/-! ## Spans of a line and of its source -/

namespace Covers

variable {place : Span} {line : Text}

theorem slice_shift (h : place.Covers source line) (hle : s.start ≤ s.stop)
    (hsize : s.stop ≤ line.byteSize) : (s.shift place.start).slice source = s.slice line := by
  have hsource : (s.shift place.start).stop ≤ source.byteSize := by
    have hplace := h.stop_le_byteSize
    rw [h.stop_eq] at hplace
    show s.stop + place.start ≤ source.byteSize
    omega
  have hshift : (s.shift place.start).start ≤ (s.shift place.start).stop :=
    Nat.add_le_add_right hle place.start
  rw [slice_eq_decode? hshift hsource, h.extract_encode_shift hle hsize, slice_eq_decode? hle hsize]

/-- The boundaries of a line are those of the source, counted from the start of the line. -/
theorem isCharBoundary_add_iff (h : place.Covers source line) {n : Nat} (hn : n ≤ line.byteSize) :
    source.IsCharBoundary (n + place.start) ↔ line.IsCharBoundary n := by
  obtain ⟨before, after, rfl, hstart, -⟩ := h
  rw [List.append_assoc]
  constructor
  · rintro ⟨a, b, hab, ha⟩
    obtain ⟨c, rfl, hc⟩ := Text.exists_append_of_byteSize_le hab (by omega)
    rw [Text.byteSize_append] at ha
    obtain ⟨d, rfl, -⟩ := Text.exists_append_of_byteSize_le hc.symm (by omega)
    exact ⟨c, d, rfl, by omega⟩
  · rintro ⟨c, d, rfl, hc⟩
    refine ⟨before ++ c, d ++ after, by simp, ?_⟩
    rw [Text.byteSize_append]
    omega

/-- What two neighbouring spans cover is covered by the span that they make up. -/
theorem append {i j k : Nat} (h : Covers ⟨i, j⟩ source t) (h' : Covers ⟨j, k⟩ source u) :
    Covers ⟨i, k⟩ source (t ++ u) := by
  obtain ⟨before, rest, hsource, hi, hj⟩ := h
  obtain ⟨before', after, hsource', hj', hk⟩ := h'
  simp only at hi hj hj' hk
  rw [hsource, List.append_assoc before' u] at hsource'
  have hbefore : (before ++ t).byteSize = before'.byteSize := by
    rw [Text.byteSize_append]
    omega
  obtain ⟨rfl, rfl⟩ := Text.append_inj_of_byteSize_eq hsource' hbefore
  refine ⟨before, after, by simp [hsource], hi, ?_⟩
  simp only [Text.byteSize_append] at hk ⊢
  omega

end Covers

theorem slice_append_slice {i j k : Nat} (hij : i ≤ j) (hjk : j ≤ k) (hi : t.IsCharBoundary i)
    (hj : t.IsCharBoundary j) (hk : t.IsCharBoundary k) :
    slice ⟨i, j⟩ t ++ slice ⟨j, k⟩ t = slice ⟨i, k⟩ t := by
  have hleft : ∃ u, Covers ⟨i, j⟩ t u := exists_covers_iff.2 ⟨hij, hi, hj⟩
  have hright : ∃ u, Covers ⟨j, k⟩ t u := exists_covers_iff.2 ⟨hjk, hj, hk⟩
  obtain ⟨u, hu⟩ := hleft
  obtain ⟨v, hv⟩ := hright
  rw [hu.slice_eq, hv.slice_eq, (hu.append hv).slice_eq]

/-- **Slicing a line is slicing its source further on.**  Let a line stand in a source from `base`
on.  Then a span inside the line slices the line to what the moved span slices the source to: the
text that the bytes between its ends are the UTF-8 form of.  This is nothing exactly if the span is
empty or off a character boundary of the line, and these boundaries are those of the source.  No
offset is too large to be moved in a source that fits in memory.  Between boundaries, slices next to
each other make up the slice of both. -/
theorem slice_agrees_in_source :
    (∀ (source line : Text) (base : Nat), Covers ⟨base, base + line.byteSize⟩ source line →
      (∀ i j : Nat, i ≤ j → j ≤ line.byteSize →
        (shift base ⟨i, j⟩).slice source = slice ⟨i, j⟩ line ∧
        slice ⟨i, j⟩ line = (Text.decode? ((Text.encode line).extract i j)).getD [] ∧
        (slice ⟨i, j⟩ line = [] ↔ i = j ∨ ¬ line.IsCharBoundary i ∨ ¬ line.IsCharBoundary j) ∧
        (source.byteSize ≤ maxTextSize → shift? base ⟨i, j⟩ = .ok (shift base ⟨i, j⟩))) ∧
      ∀ i ≤ line.byteSize, source.IsCharBoundary (i + base) ↔ line.IsCharBoundary i) ∧
    ∀ (t : Text) (i j k : Nat), i ≤ j → j ≤ k →
      t.IsCharBoundary i → t.IsCharBoundary j → t.IsCharBoundary k →
        slice ⟨i, j⟩ t ++ slice ⟨j, k⟩ t = slice ⟨i, k⟩ t := by
  refine ⟨?_, fun t i j k hij hjk hi hj hk => slice_append_slice hij hjk hi hj hk⟩
  intro source line base hline
  refine ⟨?_, fun i hi => hline.isCharBoundary_add_iff hi⟩
  intro i j hij hj
  refine ⟨hline.slice_shift hij hj, slice_eq_decode? hij hj, slice_eq_nil_iff hij, ?_⟩
  intro hsource
  have hstop : base + line.byteSize ≤ source.byteSize := hline.stop_le_byteSize
  have hlimit : maxTextSize < maxOffset := by decide
  have hle : j + base ≤ maxOffset := by omega
  exact shift?_of_le hij hle

/-- In the line `é€` the character `€` begins behind two bytes, in a source with `a` in front of the
line behind three.  From the second byte of `é` on both slices are empty. -/
theorem slice_agrees_in_source_euro :
    Covers ⟨1, 6⟩ ['a', 'é', '€', 'b'] ['é', '€'] ∧
      (shift 1 ⟨2, 5⟩).slice ['a', 'é', '€', 'b'] = ['€'] ∧
      (shift 1 ⟨1, 5⟩).slice ['a', 'é', '€', 'b'] = [] ∧
      ¬ Text.IsCharBoundary ['é', '€'] 1 ∧
      shift? 1 ⟨2, 5⟩ = .ok ⟨3, 6⟩ ∧
      slice ⟨0, 2⟩ ['é', '€'] ++ slice ⟨2, 5⟩ ['é', '€'] = ['é', '€'] := by
  have hline : Covers ⟨1, 6⟩ ['a', 'é', '€', 'b'] ['é', '€'] :=
    ⟨['a'], ['b'], rfl, by decide, by decide⟩
  have hmiddle : Text.IsCharBoundary ['é', '€'] 2 := ⟨['é'], ['€'], rfl, by decide⟩
  have hend : Text.IsCharBoundary ['é', '€'] 5 := ⟨['é', '€'], [], rfl, by decide⟩
  have hagree := (slice_agrees_in_source.1 _ ['é', '€'] 1 hline).1
  have heuro := hagree 2 5 (by decide) (by decide)
  have hinside := hagree 1 5 (by decide) (by decide)
  refine ⟨hline, heuro.1, hinside.1, ?_, heuro.2.2.2 (by decide), ?_⟩
  · rcases hinside.2.2.1.1 rfl with heq | hstart | hstop
    · exact absurd heq (by decide)
    · exact hstart
    · exact absurd hend hstop
  · exact slice_agrees_in_source.2 _ 0 2 5 (by decide) (by decide) ⟨[], _, rfl, rfl⟩ hmiddle hend

end Span

end TurtleMarkup
