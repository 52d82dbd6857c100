import TurtleMarkup.Proofs.Runs
import TurtleMarkup.Proofs.Search

/-!
# Prefixed names in closed form

Where a prefixed name may begin is decided by a look at the text around that place
(`Text.NameStart`), with no trial and no cutting back: a letter with no word
character before it, and a run of letters and digits up to a colon with a letter
behind it.  Every such place gives a match, which ends where the run of name
characters behind the colon ends, less the hyphens at its end (`Text.NameEnd`).

Names overlap, as in `a:b:c`, so not every such place is reached.  `Text.NameScan`
takes the first one, goes on behind the name and takes the first one there, and
so on.  It gives what the pass finds and nothing else
(`Pass.find_prefixedName_closed_form`), because its steps are those of the leftmost
greedy search for the pattern (`Pass.nameScan_iff_search`).
-/

namespace TurtleMarkup

/-! ## Where names begin and end -/

namespace Text

/-- A prefixed name may begin at the offset `s`: a letter stands there, with no word character
before it, and the longest run of letters and digits from there on is followed by a colon at the
offset `c` and then by a letter. -/
def NameStart (t : Text) (s c : Nat) : Prop :=
  ∃ before space rest : Text, t = before ++ (space ++ ':' :: rest) ∧ s = before.byteSize ∧
    c = before.byteSize + space.byteSize ∧ before.getLast?.any isWordChar = false ∧
    space.head?.any Char.isAlpha = true ∧ IsRun Char.isAlphanum space (':' :: rest) ∧
    rest.head?.any Char.isAlpha = true

/-- The longest run of name characters from the offset `b` on, less the hyphens at its end, ends at
the offset `e`. -/
def NameEnd (t : Text) (b e : Nat) : Prop :=
  ∃ before run rest, t = before ++ (run ++ rest) ∧ b = before.byteSize ∧
    IsRun Lexeme.isNameChar run rest ∧ e = before.byteSize + byteSize (run.rdropWhile (· == '-'))

/-- The places of the names that are met from `pos` on by taking the first place where a name may
begin and going on behind that name: the whole, the part before the colon and the part behind
it. -/
inductive NameScan (t : Text) : Nat → List (List Span) → Prop where
  /-- No name may begin at `pos` or behind it. -/
  | done {pos : Nat} (nothing : ∀ s c, pos ≤ s → ¬ t.NameStart s c) : NameScan t pos []
  /-- The first place where a name may begin, and the scan behind that name. -/
  | next {pos s c e : Nat} {ms : List (List Span)} (start : t.NameStart s c) (behind : pos ≤ s)
      (first : ∀ s' c', pos ≤ s' → t.NameStart s' c' → s ≤ s') (stop : t.NameEnd (c + 1) e)
      (rest : NameScan t e ms) : NameScan t pos ([⟨s, e⟩, ⟨s, c⟩, ⟨c + 1, e⟩] :: ms)

theorem byteSize_concat_colon (a b : Text) :
    byteSize (a ++ b ++ [':']) = a.byteSize + b.byteSize + 1 := by
  have hcolon : byteSize [':'] = 1 := by decide
  rw [byteSize_append, byteSize_append, hcolon]

theorem isWordChar_of_isAlpha {c : Char} (h : c.isAlpha = true) : isWordChar c = true := by
  rw [isWordChar, isAlphanum_of_isAlpha h, Bool.true_or]

/-- In front of a letter there is a word boundary exactly if no word character stands before it. -/
theorem isBoundary_of_isAlpha {before after : Option Char} (h : after.any Char.isAlpha = true) :
    isBoundary before after = true ↔ before.any isWordChar = false := by
  cases after with
  | none => cases h
  | some c =>
    have hword : isWordChar c = true := isWordChar_of_isAlpha h
    simp [isBoundary, hword]

variable {t : Text} {s c e : Nat}

theorem NameStart.exists_nameEnd (h : t.NameStart s c) : ∃ e, t.NameEnd (c + 1) e := by
  obtain ⟨before, space, rest, rfl, -, rfl, -⟩ := h
  obtain ⟨run, after, rfl, hrun⟩ := exists_isRun Lexeme.isNameChar rest
  refine ⟨_, before ++ space ++ [':'], run, after, ?_, ?_, hrun, rfl⟩
  · simp
  · rw [byteSize_concat_colon]

end Text

/-! ## Every such place gives a match -/

namespace Pass

variable {t : Text} {s c e : Nat} {gs : List Span}

/-- Where a name may begin, the recogniser finds the name up to where it may end. -/
theorem exists_prefixedName?_of_nameStart (hs : t.NameStart s c) (he : t.NameEnd (c + 1) e) :
    ∃ before space name rest, t = before ++ (Lexeme.text (.prefixedName space name) ++ rest) ∧
      s = before.byteSize ∧ c = before.byteSize + space.byteSize ∧
      e = before.byteSize + space.byteSize + 1 + name.byteSize ∧
      name.getLast? ≠ some '-' ∧ rest.head?.any Text.isWordChar = false ∧
      Pass.prefixedName.lexeme? before.getLast? (Lexeme.text (.prefixedName space name) ++ rest)
        = some (.prefixedName space name, rest) := by
  obtain ⟨before, space, rest, rfl, rfl, rfl, hbefore, hletter, hspace, hrest⟩ := hs
  obtain ⟨front, run, after, htext, hsize, hrun, rfl⟩ := he
  -- the name begins behind the colon
  have hsplit : (before ++ space ++ [':']) ++ rest = front ++ (run ++ after) := by
    rw [← htext]
    simp
  have hfront : (before ++ space ++ [':']).byteSize = front.byteSize := by
    rw [← hsize, Text.byteSize_concat_colon]
  obtain ⟨rfl, rfl⟩ := Text.append_inj_of_byteSize_eq hsplit hfront
  rw [hrun.any_isAlpha_head? Lexeme.isNameChar_of_isAlpha] at hrest
  have hname := Lexeme.boundedRun?_isNameChar hrun hrest
  obtain ⟨hlast, hword⟩ := Lexeme.ends_of_boundedRun?_isNameChar hname
  have hrejoin := (Lexeme.boundedRun?_eq_some hname).1
  have hwhole : Lexeme.text (.prefixedName space (run.rdropWhile (· == '-')))
        ++ (run.rtakeWhile (Text.isWordChar · == false) ++ after)
      = space ++ ':' :: (run ++ after) := by
    rw [hrejoin]
    simp [Lexeme.text]
  have hne : space ≠ [] := by
    rintro rfl
    cases hletter
  have hhead : (space ++ ':' :: (run ++ after)).head? = space.head? :=
    List.head?_append_of_ne_nil _ hne
  refine ⟨before, space, _, _, by rw [hwhole], rfl, rfl, by rw [← hsize], hlast, hword, ?_⟩
  rw [hwhole, lexeme?, Lexeme.prefixedName?, hhead, (Text.isBoundary_of_isAlpha hletter).2 hbefore,
    hletter, hspace.takeWhile_eq, hspace.dropWhile_eq]
  simp only [Bool.and_self, if_true, hname, Option.map_some]

theorem matchesAt_of_nameStart (hs : t.NameStart s c) (he : t.NameEnd (c + 1) e) :
    Pass.prefixedName.pattern.MatchesAt t s e [⟨s, c⟩, ⟨c + 1, e⟩] ∧
      ∀ e' gs', Pass.prefixedName.pattern.MatchesAt t s e' gs' → e' ≤ e := by
  obtain ⟨before, space, name, rest, rfl, rfl, rfl, rfl, -, -, hfound⟩ :=
    exists_prefixedName?_of_nameStart hs he
  have hcolon : Char.utf8Size ':' = 1 := by decide
  have hsize : before.byteSize + space.byteSize + 1 + name.byteSize
      = before.byteSize + (Lexeme.text (.prefixedName space name)).byteSize := by
    rw [Lexeme.text, Text.byteSize_append, Text.byteSize_cons, hcolon]
    omega
  constructor
  · refine matchesAt_pattern_iff.2 ⟨before, .prefixedName space name, rest, rfl, ?_, rfl, hsize, ?_,
      fits_of_lexeme? hfound⟩
    · rw [List.append_assoc]
    · rw [Lexeme.captures_prefixedName]
  · intro e' gs' hmatch
    rw [hsize]
    exact le_of_matchesAt hfound hmatch

/-- A match begins only where a name may begin. -/
theorem exists_nameStart_of_matchesAt (h : Pass.prefixedName.pattern.MatchesAt t s e gs) :
    ∃ c, t.NameStart s c := by
  obtain ⟨before, l, after, hpass, rfl, rfl, -, -, hfits⟩ := matchesAt_pattern_iff.1 h
  cases l with
  | prefixedName space name =>
    obtain ⟨hstart, hspace, hname, -⟩ := hfits
    have hletter := hspace.any_isAlpha_head?
    refine ⟨_, before, space, name ++ after, by simp [Lexeme.text], rfl, rfl,
      (Text.isBoundary_of_isAlpha hletter).1 hstart, hletter, ⟨?_, rfl⟩, ?_⟩
    · intro x hx
      exact hspace.of_mem (fun _ => Text.isAlphanum_of_isAlpha) hx
    · rw [List.head?_append_of_ne_nil _ hname.ne_nil]
      exact hname.any_isAlpha_head?
  | uri | string | languageTag | keyword => cases hpass

/-! ## The scan is the search -/

variable {pos : Nat} {ms : List (List Span)}

theorem nameScan_of_search (h : Pass.prefixedName.pattern.Search t pos ms) : t.NameScan pos ms := by
  induction h with
  | done hnone =>
    refine .done ?_
    intro s c hle hs
    obtain ⟨e, he⟩ := hs.exists_nameEnd
    exact hnone s e _ hle (matchesAt_of_nameStart hs he).1
  | next hfound hbehind hleftmost hgreedy _ ih =>
    obtain ⟨c, hs⟩ := exists_nameStart_of_matchesAt hfound
    obtain ⟨e, he⟩ := hs.exists_nameEnd
    obtain ⟨hmatch, hlongest⟩ := matchesAt_of_nameStart hs he
    -- both are the longest match from there
    obtain rfl := Nat.le_antisymm (hlongest _ _ hfound) (hgreedy _ _ hmatch)
    rw [groups_unique _ _ _ _ hfound hmatch]
    refine .next hs hbehind ?_ he ih
    intro s' c' hle hs'
    obtain ⟨e', he'⟩ := hs'.exists_nameEnd
    exact hleftmost s' e' _ hle (matchesAt_of_nameStart hs' he').1

theorem search_of_nameScan (h : t.NameScan pos ms) : Pass.prefixedName.pattern.Search t pos ms := by
  induction h with
  | done hnone =>
    refine .done ?_
    intro s e gs hle hmatch
    obtain ⟨c, hs⟩ := exists_nameStart_of_matchesAt hmatch
    exact hnone s c hle hs
  | next hs hbehind hfirst he _ ih =>
    obtain ⟨hmatch, hlongest⟩ := matchesAt_of_nameStart hs he
    refine .next hmatch hbehind ?_ hlongest ih
    intro s' e' gs' hle hmatch'
    obtain ⟨c', hs'⟩ := exists_nameStart_of_matchesAt hmatch'
    exact hfirst s' c' hle hs'

/-- Taking the first place where a name may begin again and again is the leftmost greedy search for
the pattern. -/
theorem nameScan_iff_search :
    t.NameScan pos ms ↔ Pass.prefixedName.pattern.Search t pos ms :=
  ⟨search_of_nameScan, nameScan_of_search⟩

end Pass

/-- Every name that the scan meets begins and ends as a name may. -/
theorem Text.NameScan.exists_of_mem {t : Text} {pos : Nat} {ms : List (List Span)}
    (h : t.NameScan pos ms) {m : List Span} (hm : m ∈ ms) :
    ∃ s c e, m = [⟨s, e⟩, ⟨s, c⟩, ⟨c + 1, e⟩] ∧ t.NameStart s c ∧ t.NameEnd (c + 1) e := by
  induction h with
  | done => cases hm
  | next hs _ _ he _ ih =>
    rcases List.mem_cons.1 hm with rfl | hm
    · exact ⟨_, _, _, rfl, hs, he⟩
    · exact ih hm

namespace Pass

/-- **Prefixed names in closed form.**  The matches found in a text are the only list that comes of
taking the first place where a name may begin, going on behind that name, and so on; each has the
run before the colon and the run behind it, less the hyphens at its end, as its groups.  No local
name ends in a hyphen or is followed by a word character. -/
theorem find_prefixedName_closed_form (t : Text) :
    (∀ ms, t.NameScan 0 ms ↔ ms = Pass.prefixedName.find t) ∧
      ∀ m ∈ Pass.prefixedName.find t, ∃ s c e, m = [⟨s, e⟩, ⟨s, c⟩, ⟨c + 1, e⟩] ∧
        t.NameStart s c ∧ t.NameEnd (c + 1) e ∧
        ∃ before name rest, t = before ++ (name ++ rest) ∧ before.byteSize = c + 1 ∧
          before.byteSize + name.byteSize = e ∧ name.getLast? ≠ some '-' ∧
          rest.head?.any Text.isWordChar = false := by
  have hscan : ∀ ms, t.NameScan 0 ms ↔ ms = Pass.prefixedName.find t := by
    intro ms
    rw [nameScan_iff_search, find_is_unique]
  refine ⟨hscan, ?_⟩
  intro m hm
  obtain ⟨s, c, e, rfl, hs, he⟩ := ((hscan _).2 rfl).exists_of_mem hm
  refine ⟨s, c, e, rfl, hs, he, ?_⟩
  obtain ⟨before, space, name, rest, rfl, -, rfl, rfl, hlast, hword, -⟩ :=
    exists_prefixedName?_of_nameStart hs he
  refine ⟨before ++ space ++ [':'], name, rest, by simp [Lexeme.text], ?_, ?_, hlast, hword⟩
  · rw [Text.byteSize_concat_colon]
  · rw [Text.byteSize_concat_colon]

/-- In `a:b-c:d- 9x:y` a name may begin at the `c`, which is not reached, and none may begin at the
`x`, which stands behind a digit. -/
theorem find_prefixedName_closed_form_overlapping :
    Text.NameScan "a:b-c:d- 9x:y".toList 0 [[⟨0, 5⟩, ⟨0, 1⟩, ⟨2, 5⟩]] ∧
      Text.NameStart "a:b-c:d- 9x:y".toList 4 5 := by
  have hfind : Pass.prefixedName.find "a:b-c:d- 9x:y".toList = [[⟨0, 5⟩, ⟨0, 1⟩, ⟨2, 5⟩]] := by
    decide +kernel
  refine ⟨((find_prefixedName_closed_form _).1 _).2 hfind.symm, ?_⟩
  exact ⟨"a:b-".toList, ['c'], "d- 9x:y".toList, by decide, by decide, by decide, by decide,
    by decide, ⟨List.all_eq_true.1 (by decide), by decide⟩, by decide⟩

end Pass

end TurtleMarkup
