import TurtleMarkup.Proofs.Runs
import TurtleMarkup.Proofs.WholeLine

/-!
# Language tags in closed form

Whether an `@` begins a language tag, and where the tag ends, can be read off the
longest run of tag characters behind the `@` and the one character behind the run
(`Lexeme.tagBody?`).  Only an underscore there makes a difference: it belongs to a
word but to no tag, so the tag has to end behind a hyphen.

No tag contains a second `@`, so every `@` can be judged on its own and no tag is
lost to one before it (`Pass.groupsFrom_languageTag`).  In a line a tag ends where
a word of the whole line begins or ends, although the pass only saw a gap
(`Line.isWordBoundary_of_languageTag`).
-/

namespace TurtleMarkup

/-! ## The tag behind one `@` -/

/-- An `@` stands at the offset `s`; `r` is the longest run of tag characters behind it and `c` the
character behind the run, if there is one. -/
def Text.TagRun (t : Text) (s : Nat) (r : Text) (c : Option Char) : Prop :=
  ∃ before rest, t = before ++ '@' :: (r ++ rest) ∧ s = before.byteSize ∧
    IsRun Lexeme.isTagChar r rest ∧ c = rest.head?

namespace Lexeme

/-- The body of the language tag whose `@` is followed by the run `r` of tag characters and then by
`c`.  A run that begins with a letter loses the hyphens at its end, unless an underscore follows:
then it is taken whole if it ends in a hyphen, and else up to its last hyphen. -/
def tagBody? (r : Text) (c : Option Char) : Option Text :=
  if r.head?.any Char.isAlpha then
    if c ≠ some '_' then some (r.rdropWhile (· == '-'))
    else if r.getLast? = some '-' then some r
    else if '-' ∈ r then some (r.rdropWhile (· != '-'))
    else none
  else none

/-- The places of a language tag that begins at `s`, with its `@` and without. -/
def tagPlace (s : Nat) (body : Text) : List Span :=
  [⟨s, s + 1 + body.byteSize⟩, ⟨s + 1, s + 1 + body.byteSize⟩]

theorem exists_tagBody?_iff {r : Text} {c : Option Char} :
    (∃ body, tagBody? r c = some body) ↔
      r.head?.any Char.isAlpha = true ∧ (c ≠ some '_' ∨ r.getLast? = some '-' ∨ '-' ∈ r) := by
  unfold tagBody?
  by_cases hletter : r.head?.any Char.isAlpha = true
  · by_cases hc : c = some '_'
    · by_cases hlast : r.getLast? = some '-'
      · simp [hletter, hc, hlast]
      · by_cases hmem : '-' ∈ r <;> simp [hletter, hc, hlast, hmem]
    · simp [hletter, hc]
  · simp [hletter]

theorem map_shift_groups_languageTag (pos : Nat) (body : Text) :
    (groups (.languageTag body)).map (Span.shift pos) = tagPlace pos body := by
  have hopen : Char.utf8Size '@' = 1 := by decide
  rw [map_shift_groups, captures_languageTag, text, Text.byteSize_cons, hopen, ← Nat.add_assoc]
  rfl

theorem isWordChar_of_not_isTagChar {d : Char} (h : isTagChar d = false) :
    Text.isWordChar d = (d == '_') := by
  rw [isTagChar, Bool.or_eq_false_iff] at h
  rw [Text.isWordChar, h.1, Bool.false_or]

/-- Of the characters that can follow a run of tag characters, only the underscore belongs to a
word. -/
theorem any_isWordChar_behind_tag {r rest : Text} (h : Text.IsRun isTagChar r rest) :
    rest.head?.any Text.isWordChar = decide (rest.head? = some '_') := by
  cases rest with
  | nil => rfl
  | cons d rest =>
    have hd : isTagChar d = false := by simpa using h.stop
    rw [List.head?_cons, Option.any_some, isWordChar_of_not_isTagChar hd]
    by_cases hline : d = '_' <;> simp [hline]

theorem map_fst_longestBounded_tag {r rest : Text} (h : Text.IsRun isTagChar r rest)
    (hletter : r.head?.any Char.isAlpha = true) :
    (Text.longestBounded r rest).map Prod.fst = tagBody? r rest.head? := by
  have hhyphens : Text.Hyphenated r :=
    hyphenated_of_isNameChar fun c hc => isNameChar_of_isTagChar (h.all c hc)
  have hword := any_isWordChar_behind_tag h
  rw [tagBody?, if_pos hletter]
  by_cases hc : rest.head? = some '_'
  · rw [decide_eq_true hc] at hword
    rw [Text.longestBounded_of_word hhyphens hword, if_neg (not_not.2 hc)]
    by_cases hlast : r.getLast? = some '-'
    · -- a run that ends in a hyphen is not shortened
      have hwhole : r.rdropWhile (· != '-') = r := by
        rw [List.rdropWhile_eq_self_iff]
        intro hne
        rw [List.getLast?_eq_some_getLast hne] at hlast
        simp [Option.some.inj hlast]
      rw [if_pos hlast, if_pos (List.mem_of_getLast? hlast), hwhole]
      rfl
    · rw [if_neg hlast]
      split <;> rfl
  · rw [decide_eq_false hc] at hword
    rw [Text.longestBounded_of_not_word hhyphens hletter hword, if_pos hc]
    rfl

/-- What is recognised at an `@` is read off the run behind it. -/
theorem map_fst_languageTag? {r rest : Text} (h : Text.IsRun isTagChar r rest) :
    (languageTag? ('@' :: (r ++ rest))).map Prod.fst
      = (tagBody? r rest.head?).map Lexeme.languageTag := by
  rw [languageTag?, boundedRun?, h.any_isAlpha_head? isTagChar_of_isAlpha, h.takeWhile_eq,
    h.dropWhile_eq]
  by_cases hletter : r.head?.any Char.isAlpha = true
  · rw [if_pos hletter, ← map_fst_longestBounded_tag h hletter]
    cases Text.longestBounded r rest <;> rfl
  · rw [if_neg hletter, tagBody?, if_neg hletter]
    rfl

theorem exists_languageTag?_iff {r rest body : Text} (h : Text.IsRun isTagChar r rest) :
    (∃ rest', languageTag? ('@' :: (r ++ rest)) = some (.languageTag body, rest')) ↔
      tagBody? r rest.head? = some body := by
  have hfirst := map_fst_languageTag? h
  constructor
  · rintro ⟨rest', hfound⟩
    rw [hfound] at hfirst
    cases hbody : tagBody? r rest.head? with
    | none => rw [hbody] at hfirst; cases hfirst
    | some body' =>
      rw [hbody] at hfirst
      obtain rfl : body = body' := by simpa using hfirst
      rfl
  · intro hbody
    rw [hbody] at hfirst
    obtain ⟨⟨l, rest'⟩, hfound, rfl⟩ := Option.map_eq_some_iff.1 hfirst
    exact ⟨rest', hfound⟩

end Lexeme

/-! ## The tags of a text -/

namespace Text

/-- The places of the language tags of a text that begins at `pos`, each `@` judged on its own. -/
def tagsFrom (pos : Nat) : Text → List (List Span)
  | [] => []
  | c :: t =>
    (if c = '@' then
      ((Lexeme.tagBody? (t.takeWhile Lexeme.isTagChar) (t.dropWhile Lexeme.isTagChar).head?).map
        (Lexeme.tagPlace pos)).toList
    else []) ++ tagsFrom (pos + c.utf8Size) t

theorem tagsFrom_at {r rest : Text} (h : IsRun Lexeme.isTagChar r rest) (pos : Nat) :
    tagsFrom pos ('@' :: (r ++ rest))
      = ((Lexeme.tagBody? r rest.head?).map (Lexeme.tagPlace pos)).toList
        ++ tagsFrom (pos + 1) (r ++ rest) := by
  have hopen : Char.utf8Size '@' = 1 := by decide
  rw [tagsFrom, if_pos rfl, h.takeWhile_eq, h.dropWhile_eq, hopen]

theorem tagsFrom_cons_of_ne {c : Char} (h : c ≠ '@') (pos : Nat) (t : Text) :
    tagsFrom pos (c :: t) = tagsFrom (pos + c.utf8Size) t := by
  rw [tagsFrom, if_neg h, List.nil_append]

theorem tagsFrom_append_of_not_mem {a : Text} (h : '@' ∉ a) (pos : Nat) (t : Text) :
    tagsFrom pos (a ++ t) = tagsFrom (pos + a.byteSize) t := by
  induction a generalizing pos with
  | nil => rfl
  | cons c a ih =>
    rw [List.mem_cons, not_or] at h
    rw [List.cons_append, tagsFrom_cons_of_ne (Ne.symm h.1), ih h.2, byteSize_cons, Nat.add_assoc]

theorem mem_tagsFrom_iff {pos : Nat} {t : Text} {m : List Span} :
    m ∈ tagsFrom pos t ↔ ∃ s r c body, t.TagRun s r c ∧ Lexeme.tagBody? r c = some body ∧
      m = Lexeme.tagPlace (pos + s) body := by
  induction t generalizing pos with
  | nil => simp [tagsFrom, TagRun]
  | cons d t ih =>
    rw [tagsFrom, List.mem_append, ih]
    constructor
    · rintro (hm | ⟨s, r, c, body, ⟨before, rest, rfl, rfl, hrun, rfl⟩, hbody, rfl⟩)
      · split at hm
        · rename_i hd
          obtain ⟨body, hbody, rfl⟩ := Option.map_eq_some_iff.1 (Option.mem_toList.1 hm)
          refine ⟨0, _, _, body, ⟨[], _, ?_, rfl, isRun_takeWhile _ t, rfl⟩, hbody, rfl⟩
          rw [List.takeWhile_append_dropWhile, hd, List.nil_append]
        · cases hm
      · refine ⟨byteSize (d :: before), r, _, body, ⟨d :: before, rest, rfl, rfl, hrun, rfl⟩,
          hbody, ?_⟩
        rw [byteSize_cons, Nat.add_assoc]
    · rintro ⟨s, r, c, body, ⟨before, rest, htext, rfl, hrun, rfl⟩, hbody, rfl⟩
      cases before with
      | nil =>
        obtain ⟨rfl, rfl⟩ := List.cons.inj htext
        rw [if_pos rfl, hrun.takeWhile_eq, hrun.dropWhile_eq, hbody]
        exact Or.inl List.mem_cons_self
      | cons b before =>
        obtain ⟨rfl, rfl⟩ := List.cons.inj htext
        refine Or.inr ⟨byteSize before, r, _, body, ⟨before, rest, rfl, rfl, hrun, rfl⟩, hbody, ?_⟩
        rw [byteSize_cons, Nat.add_assoc]

end Text

namespace Pass

/-- The pass for language tags finds, at each `@`, what the run behind it says. -/
theorem groupsFrom_languageTag (before : Option Char) (pos : Nat) (t : Text) :
    Piece.groupsFrom pos (Pass.languageTag.piecesAfter before t) = Text.tagsFrom pos t := by
  fun_induction piecesAfter .languageTag before t generalizing pos with
  | case1 => rfl
  | case2 before c cs l rest h ih =>
    have hpass := pass_of_lexeme? h
    have hfits := fits_of_lexeme? h
    cases l with
    | languageTag body =>
      obtain ⟨rfl, rfl⟩ : c = '@' ∧ cs = body ++ rest := List.cons.inj (lexeme?_eq_some h).1
      have hopen : Char.utf8Size '@' = 1 := by decide
      obtain ⟨r, after, hsplit, hrun⟩ := Text.exists_isRun Lexeme.isTagChar (body ++ rest)
      have hbody := (Lexeme.exists_languageTag?_iff hrun).1 ⟨rest, by rw [← hsplit]; exact h⟩
      -- the search goes on behind the body, in which there is no `@`
      have hat : '@' ∉ body := by
        intro hmem
        have htag := hfits.1.of_mem Lexeme.isTagChar_of_isAlpha hmem
        exact absurd htag (by decide)
      rw [Piece.groupsFrom, ih, Lexeme.map_shift_groups_languageTag, hsplit,
        Text.tagsFrom_at hrun, hbody, ← hsplit, Text.tagsFrom_append_of_not_mem hat, Lexeme.text,
        Text.byteSize_cons, hopen, ← Nat.add_assoc]
      rfl
    | uri | string | prefixedName | keyword => cases hpass
  | case3 before c cs h ih =>
    rw [Piece.groupsFrom_pushGap, ih]
    by_cases hc : c = '@'
    · subst hc
      obtain ⟨r, after, rfl, hrun⟩ := Text.exists_isRun Lexeme.isTagChar cs
      have hfirst := Lexeme.map_fst_languageTag? hrun
      rw [show Lexeme.languageTag? ('@' :: (r ++ after)) = none from h] at hfirst
      rw [Text.tagsFrom_at hrun, Option.map_eq_none_iff.1 hfirst.symm]
      rfl
    · rw [Text.tagsFrom_cons_of_ne hc]

theorem find_languageTag (t : Text) : Pass.languageTag.find t = Text.tagsFrom 0 t :=
  groupsFrom_languageTag none 0 t

theorem mem_find_languageTag_iff {t : Text} {m : List Span} :
    m ∈ Pass.languageTag.find t ↔ ∃ s r c body, t.TagRun s r c ∧
      Lexeme.tagBody? r c = some body ∧ m = Lexeme.tagPlace s body := by
  rw [find_languageTag, Text.mem_tagsFrom_iff]
  simp only [Nat.zero_add]

/-- A match of the pattern begins at an `@` if and only if the run behind it gives a tag. -/
theorem exists_matchesAt_languageTag_iff {t : Text} {s : Nat} :
    (∃ e gs, Pass.languageTag.pattern.MatchesAt t s e gs) ↔
      ∃ r c body, t.TagRun s r c ∧ Lexeme.tagBody? r c = some body := by
  constructor
  · rintro ⟨e, gs, hmatch⟩
    obtain ⟨before, l, after, hpass, rfl, rfl, -, -, hfits⟩ := matchesAt_pattern_iff.1 hmatch
    cases l with
    | languageTag body =>
      obtain ⟨body', rest', hfound, -⟩ := Lexeme.languageTag?_complete hfits
      obtain ⟨r, rest, hsplit, hrun⟩ := Text.exists_isRun Lexeme.isTagChar (body ++ after)
      refine ⟨_, _, body', ⟨before, _, ?_, rfl, hrun, rfl⟩, ?_⟩
      · rw [← hsplit, List.append_assoc]
        rfl
      · exact (Lexeme.exists_languageTag?_iff hrun).1 ⟨rest', by rw [← hsplit]; exact hfound⟩
    | uri | string | prefixedName | keyword => cases hpass
  · rintro ⟨r, c, body, ⟨before, rest, rfl, rfl, hrun, rfl⟩, hbody⟩
    obtain ⟨rest', hfound⟩ := (Lexeme.exists_languageTag?_iff hrun).2 hbody
    have htext := (Lexeme.languageTag?_eq_some hfound).1
    refine ⟨_, _, matchesAt_pattern_iff.2 ⟨before, .languageTag body, rest', rfl, ?_, rfl, rfl, rfl,
      Lexeme.fits_of_languageTag? hfound⟩⟩
    rw [htext, List.append_assoc]

end Pass

/-- The matches of a pass stand one behind the other. -/
theorem Piece.pairwise_groupsFrom {ps : List Piece} (h : ∀ l, .found l ∈ ps → l.text ≠ [])
    (pos : Nat) : (groupsFrom pos ps).Pairwise fun m m' =>
      ∀ a ∈ m.head?, ∀ b ∈ m'.head?, a.stop ≤ b.start := by
  induction ps generalizing pos with
  | nil => exact List.Pairwise.nil
  | cons piece ps ih =>
    have hrest : ∀ l, .found l ∈ ps → l.text ≠ [] := fun l hl => h l (List.mem_cons_of_mem piece hl)
    cases piece with
    | gap g => exact ih hrest _
    | found l =>
      rw [groupsFrom, List.pairwise_cons]
      refine ⟨?_, ih hrest _⟩
      intro m' hm' a ha b hb
      obtain ⟨s, gs, rfl, hstart, -⟩ := place_of_mem_groupsFrom hrest hm'
      rw [Lexeme.map_shift_groups] at ha
      obtain rfl : Span.mk pos (pos + l.text.byteSize) = a := by simpa using ha
      obtain rfl : s = b := by simpa using hb
      exact hstart

theorem Pass.pairwise_find (p : Pass) (t : Text) : (p.find t).Pairwise fun m m' =>
    ∀ a ∈ m.head?, ∀ b ∈ m'.head?, a.stop ≤ b.start := by
  refine Piece.pairwise_groupsFrom ?_ 0
  intro l hl
  obtain ⟨-, before, after, hfits⟩ := fits_of_mem_pieces hl
  exact hfits.text_ne_nil

/-! ## The tags of a line -/

/-- A language tag of a line ends where a word of the line begins or ends. -/
theorem Line.isWordBoundary_of_languageTag {line : Text} (h : isCommentText line = false)
    {token : Token} (htoken : token ∈ classify 0 line) (hkind : token.kind = .languageTag) :
    line.IsWordBoundary token.span.stop := by
  obtain ⟨P, u, Q, hparts, heq⟩ := (mem_classify_iff h).1 htoken
  rw [hkind] at hparts
  obtain ⟨l, hl, hfits⟩ := Pass.fits_of_part hparts (by decide)
  have hu : u = l.text := by rw [← l.spell_parts, hl]; simp
  cases l with
  | languageTag body =>
    have hne := hfits.text_ne_nil
    refine ⟨Part.spell P ++ u, Part.spell Q, ?_, ?_, ?_⟩
    · rw [← Pass.uri.spell_parts line, hparts]
      simp
    · rw [heq, Text.byteSize_append]
      rfl
    · rw [hu, List.getLast?_append_of_ne_nil _ hne, hfits.getLast?_languageTag]
      exact hfits.2
  | uri | string | prefixedName | keyword => simp [Lexeme.parts] at hl

namespace Pass

/-- **Language tags in closed form.**  A match of the pattern begins at an offset exactly if an `@`
stands there, a letter follows, and the longest run of tag characters behind the `@` is not followed
by an underscore, or ends in a hyphen, or contains one.  The matches found are all of these, each
with the body that the run and the character behind it give, and they do not overlap.  In a line
that is no comment every language tag ends at a word boundary of the whole line. -/
theorem find_languageTag_closed_form (t : Text) :
    (∀ s, (∃ e gs, Pass.languageTag.pattern.MatchesAt t s e gs) ↔
      ∃ r c, t.TagRun s r c ∧ r.head?.any Char.isAlpha = true ∧
        (c ≠ some '_' ∨ r.getLast? = some '-' ∨ '-' ∈ r)) ∧
      (∀ m, m ∈ Pass.languageTag.find t ↔ ∃ s r c body, t.TagRun s r c ∧
        Lexeme.tagBody? r c = some body ∧ m = Lexeme.tagPlace s body) ∧
      ((Pass.languageTag.find t).Pairwise fun m m' =>
        ∀ a ∈ m.head?, ∀ b ∈ m'.head?, a.stop ≤ b.start) ∧
      (Line.isCommentText t = false → ∀ token ∈ Line.classify 0 t, token.kind = .languageTag →
        t.IsWordBoundary token.span.stop) := by
  refine ⟨?_, fun m => mem_find_languageTag_iff, Pass.languageTag.pairwise_find t, ?_⟩
  · intro s
    rw [exists_matchesAt_languageTag_iff]
    constructor
    · rintro ⟨r, c, body, hrun, hbody⟩
      exact ⟨r, c, hrun, Lexeme.exists_tagBody?_iff.1 ⟨body, hbody⟩⟩
    · rintro ⟨r, c, hrun, hcondition⟩
      obtain ⟨body, hbody⟩ := Lexeme.exists_tagBody?_iff.2 hcondition
      exact ⟨r, c, body, hrun, hbody⟩
  · intro hline token htoken hkind
    exact Line.isWordBoundary_of_languageTag hline htoken hkind

/-- In front of an underscore `@en-GB` is cut behind its hyphen, and `@fr` is no tag at all. -/
theorem find_languageTag_closed_form_underscores :
    Lexeme.tagPlace 0 "en-".toList ∈ Pass.languageTag.find "@en-GB_x @fr_".toList ∧
      (¬ ∃ e gs, Pass.languageTag.pattern.MatchesAt "@en-GB_x @fr_".toList 9 e gs) ∧
      Text.IsWordBoundary "@en-GB_x @fr_".toList 4 := by
  have hline : Line.isCommentText "@en-GB_x @fr_".toList = false := by decide +kernel
  have htoken : ⟨.languageTag, ⟨0, 4⟩⟩ ∈ Line.classify 0 "@en-GB_x @fr_".toList := by
    decide +kernel
  have hfirst : Text.TagRun "@en-GB_x @fr_".toList 0 "en-GB".toList (some '_') :=
    ⟨[], "_x @fr_".toList, by decide, rfl, ⟨List.all_eq_true.1 (by decide), by decide⟩, rfl⟩
  obtain ⟨hmatches, hfind, -, hends⟩ := find_languageTag_closed_form "@en-GB_x @fr_".toList
  refine ⟨(hfind _).2 ⟨0, _, _, _, hfirst, by decide +kernel, rfl⟩, ?_, hends hline _ htoken rfl⟩
  rw [hmatches]
  rintro ⟨r, c, ⟨before, rest, htext, hsize, hrun, rfl⟩, -, hcondition⟩
  have hsplit : "@en-GB_x ".toList ++ '@' :: ("fr".toList ++ ['_'])
      = before ++ '@' :: (r ++ rest) := htext
  obtain ⟨-, hbehind⟩ := Text.append_inj_of_byteSize_eq hsplit (by rw [← hsize]; decide)
  have hr : r = "fr".toList := by
    rw [← hrun.takeWhile_eq, ← (List.cons.inj hbehind).2]
    decide
  subst hr
  obtain rfl : ['_'] = rest := List.append_cancel_left (List.cons.inj hbehind).2
  exact absurd hcondition (by decide)

end Pass

end TurtleMarkup
