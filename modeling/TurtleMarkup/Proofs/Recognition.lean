import TurtleMarkup.Proofs.LongestRun
import TurtleMarkup.Proofs.Pieces

/-!
# What the recognisers recognise

`Lexeme.Fits` says which lexemes may stand between two given neighbours, with
no mention of how they are looked for.  The recogniser of a pass is exact about
it:

* what it finds makes up the beginning of the text and fits there
  (`Pass.fits_of_lexeme?`);
* if any lexeme of the pass fits at the beginning of the text, it finds one that
  is at least as long (`Pass.lexeme?_complete`), so it finds nothing only where
  nothing fits.

The two bounded runs, the local name and the body of a language tag, need care:
the run of admitted characters may have to be cut back to a word boundary
(`Text.longestBounded_complete`).
-/

namespace TurtleMarkup

/-! ## Bounded runs -/

namespace Text

/-- A letter followed by characters of a class. -/
def IsName (cls : Char → Bool) (t : Text) : Prop :=
  ∃ c cs, t = c :: cs ∧ c.isAlpha = true ∧ ∀ d ∈ cs, cls d = true

theorem dropWhile_ne_eq_nil {d : Char} {t : Text} (h : d ∉ t) : t.dropWhile (· != d) = [] := by
  rw [List.dropWhile_eq_nil_iff]
  intro c hc
  rw [bne_iff_ne]
  rintro rfl
  exact h hc

theorem isAlphanum_of_isAlpha {c : Char} (h : c.isAlpha = true) : c.isAlphanum = true := by
  simp [Char.isAlphanum, h]

namespace IsName

variable {cls : Char → Bool} {t : Text}

theorem ne_nil (h : IsName cls t) : t ≠ [] := by
  obtain ⟨c, cs, rfl, -, -⟩ := h
  exact List.cons_ne_nil c cs

theorem any_isAlpha_head? (h : IsName cls t) : t.head?.any Char.isAlpha = true := by
  obtain ⟨c, cs, rfl, hc, -⟩ := h
  simpa using hc

theorem of_mem (h : IsName cls t) (hcls : ∀ c : Char, c.isAlpha = true → cls c = true) {c : Char}
    (hc : c ∈ t) : cls c = true := by
  obtain ⟨d, ds, rfl, hd, hds⟩ := h
  rcases List.mem_cons.1 hc with rfl | hc
  · exact hcls c hd
  · exact hds c hc

end IsName

theorem cutAtBoundary_isBoundary {run rest kept after : Text}
    (h : cutAtBoundary run rest = some (kept, after)) :
    isBoundary kept.getLast? after.head? = true ∧ kept <+: run.reverse := by
  induction run generalizing rest with
  | nil => simp [cutAtBoundary] at h
  | cons c run ih =>
    rw [cutAtBoundary] at h
    split at h
    · rename_i hboundary
      simp only [Option.some.injEq, Prod.mk.injEq] at h
      obtain ⟨rfl, rfl⟩ := h
      exact ⟨by simpa using hboundary, List.prefix_rfl⟩
    · obtain ⟨hboundary, hprefix⟩ := ih h
      refine ⟨hboundary, ?_⟩
      rw [List.reverse_cons]
      exact hprefix.trans (List.prefix_append _ _)

/-- What is kept ends at a boundary and is a beginning of the run. -/
theorem longestBounded_isBoundary {run rest kept after : Text}
    (h : longestBounded run rest = some (kept, after)) :
    isBoundary kept.getLast? after.head? = true ∧ kept <+: run := by
  simpa using cutAtBoundary_isBoundary h

theorem cutAtBoundary_complete {kept : Text} (hne : kept ≠ []) (cut rest : Text)
    (h : isBoundary kept.getLast? (cut.reverse ++ rest).head? = true) :
    ∃ kept' after, cutAtBoundary (cut ++ kept.reverse) rest = some (kept', after) ∧
      kept.length ≤ kept'.length := by
  induction cut generalizing rest with
  | nil =>
    -- the run is `kept` itself, and it ends at a boundary
    cases hr : kept.reverse with
    | nil => simp [hne] at hr
    | cons c cs =>
      have hkept : kept = cs.reverse ++ [c] := by
        rw [← List.reverse_reverse kept, hr, List.reverse_cons]
      have hc : isBoundary (some c) rest.head? = true := by simpa [hkept] using h
      exact ⟨kept, rest, by simp [cutAtBoundary, hc, hkept], le_refl _⟩
  | cons d cut ih =>
    rw [List.cons_append, cutAtBoundary]
    split
    · refine ⟨_, _, rfl, ?_⟩
      simp only [List.length_reverse, List.length_cons, List.length_append]
      omega
    · refine ih (d :: rest) ?_
      simpa using h

/-- Nothing longer ends at a boundary than what is kept. -/
theorem longestBounded_complete {kept : Text} (hne : kept ≠ []) (cut rest : Text)
    (h : isBoundary kept.getLast? (cut ++ rest).head? = true) :
    ∃ kept' after, longestBounded (kept ++ cut) rest = some (kept', after) ∧
      kept.length ≤ kept'.length := by
  rw [longestBounded, List.reverse_append]
  exact cutAtBoundary_complete hne cut.reverse rest (by simpa using h)

end Text

namespace Lexeme

variable {cls : Char → Bool} {t run rest : Text}

theorem isName_of_boundedRun? (h : boundedRun? cls t = some (run, rest)) :
    Text.IsName cls run ∧ Text.isBoundary run.getLast? rest.head? = true := by
  have hsplit := boundedRun?_eq_some h
  unfold boundedRun? at h
  split at h
  · rename_i hhead
    obtain ⟨hboundary, hprefix⟩ := Text.longestBounded_isBoundary h
    refine ⟨?_, hboundary⟩
    cases run with
    | nil => exact absurd rfl hsplit.2
    | cons c cs =>
      rw [hsplit.1] at hhead
      refine ⟨c, cs, rfl, by simpa using hhead, ?_⟩
      intro d hd
      have hmem : d ∈ t.takeWhile cls := hprefix.subset (List.mem_cons_of_mem c hd)
      exact List.mem_takeWhile_imp hmem
  · simp at h

theorem boundedRun?_complete (hcls : ∀ c : Char, c.isAlpha = true → cls c = true)
    (hrun : Text.IsName cls run) (hboundary : Text.isBoundary run.getLast? rest.head? = true) :
    ∃ run' rest', boundedRun? cls (run ++ rest) = some (run', rest') ∧
      run.length ≤ run'.length := by
  have hhead : (run ++ rest).head?.any Char.isAlpha = true := by
    rw [List.head?_append_of_ne_nil _ hrun.ne_nil]
    exact hrun.any_isAlpha_head?
  have hall : ∀ c ∈ run, cls c = true := fun c hc => hrun.of_mem hcls hc
  rw [boundedRun?, if_pos hhead, List.takeWhile_append_of_pos hall,
    List.dropWhile_append_of_pos hall]
  refine Text.longestBounded_complete hrun.ne_nil _ _ ?_
  rwa [List.takeWhile_append_dropWhile]

theorem isNameChar_of_isAlpha (c : Char) (h : c.isAlpha = true) : isNameChar c = true := by
  simp [isNameChar, Text.isAlphanum_of_isAlpha h]

theorem isTagChar_of_isAlpha (c : Char) (h : c.isAlpha = true) : isTagChar c = true := by
  simp [isTagChar, Text.isAlphanum_of_isAlpha h]

/-! ## Lexemes between neighbours -/

/-- Whether a lexeme is well formed and may stand between the two characters next to it, either of
which may be missing. -/
def Fits (before : Option Char) (l : Lexeme) (after : Option Char) : Prop :=
  match l with
  | .uri body => body ≠ [] ∧ ∀ c ∈ body, c ≠ '>'
  | .string body => ∀ c ∈ body, c ≠ '"'
  | .prefixedName space name =>
    Text.isBoundary before space.head? = true ∧ Text.IsName Char.isAlphanum space ∧
      Text.IsName isNameChar name ∧ Text.isBoundary name.getLast? after = true
  | .languageTag body => Text.IsName isTagChar body ∧ Text.isBoundary body.getLast? after = true
  | .keyword word =>
    word ∈ keywords ∧ Text.isBoundary before word.head? = true ∧
      Text.isBoundary word.getLast? after = true

variable {before : Option Char} {l : Lexeme}

theorem fits_of_uri? (h : uri? t = some (l, rest)) : l.Fits before rest.head? := by
  unfold uri? at h
  split at h
  · rename_i t
    split at h
    · rename_i c cs d rest' htake hdrop
      obtain ⟨rfl, rfl⟩ := by simpa using h
      refine ⟨List.cons_ne_nil c cs, ?_⟩
      intro x hx
      rw [← htake] at hx
      simpa using List.mem_takeWhile_imp hx
    · simp at h
  · simp at h

theorem uri?_complete {body : Text} (h : Fits before (.uri body) rest.head?) :
    uri? (text (.uri body) ++ rest) = some (.uri body, rest) := by
  obtain ⟨hne, hbody⟩ := h
  obtain ⟨c, cs, rfl⟩ := List.exists_cons_of_ne_nil hne
  have hall : ∀ x ∈ c :: cs, (x != '>') = true := by simpa using hbody
  have hstop : ('>' != '>') = false := by decide
  have htext : text (.uri (c :: cs)) ++ rest = '<' :: ((c :: cs) ++ '>' :: rest) := by simp [text]
  rw [htext, uri?, Text.takeWhile_run hall hstop, Text.dropWhile_run hall hstop]

theorem uri?_empty (rest : Text) : uri? ('<' :: '>' :: rest) = none := rfl

theorem uri?_unclosed (h : '>' ∉ t) : uri? ('<' :: t) = none := by
  rw [uri?, Text.dropWhile_ne_eq_nil h]
  split
  · simp_all
  · rfl

/-- A bracket opens nothing if it stands right before a closing one or none is behind it. -/
theorem uri?_eq_none_iff : uri? ('<' :: t) = none ↔ t.head? = some '>' ∨ '>' ∉ t := by
  constructor
  · intro h
    by_contra hclosed
    rw [not_or, not_not] at hclosed
    obtain ⟨body, rest, rfl, hbody⟩ := List.eq_append_cons_of_mem hclosed.2
    have hfits : Fits none (.uri body) rest.head? := by
      refine ⟨?_, ?_⟩
      · rintro rfl
        exact hclosed.1 rfl
      · rintro x hx rfl
        exact hbody hx
    have hfound := uri?_complete hfits
    simp only [text, List.cons_append, List.append_assoc, List.nil_append] at hfound
    rw [h] at hfound
    cases hfound
  · rintro (hhead | hmem)
    · obtain ⟨rest, rfl⟩ := List.head?_eq_some_iff.1 hhead
      exact uri?_empty rest
    · exact uri?_unclosed hmem

theorem fits_of_string? (h : string? t = some (l, rest)) : l.Fits before rest.head? := by
  unfold string? at h
  split at h
  · rename_i t
    split at h
    · obtain ⟨rfl, rfl⟩ := by simpa using h
      intro x hx
      simpa using List.mem_takeWhile_imp hx
    · simp at h
  · simp at h

theorem string?_complete {body : Text} (h : Fits before (.string body) rest.head?) :
    string? (text (.string body) ++ rest) = some (.string body, rest) := by
  have hall : ∀ x ∈ body, (x != '"') = true := fun x hx => by simpa using h x hx
  have hstop : ('"' != '"') = false := by decide
  have htext : text (.string body) ++ rest = '"' :: (body ++ '"' :: rest) := by simp [text]
  rw [htext, string?, Text.dropWhile_run hall hstop, Text.takeWhile_run hall hstop]

theorem string?_unclosed (h : '"' ∉ t) : string? ('"' :: t) = none := by
  rw [string?, Text.dropWhile_ne_eq_nil h]

/-- A quote opens nothing if none is behind it. -/
theorem string?_eq_none_iff : string? ('"' :: t) = none ↔ '"' ∉ t := by
  constructor
  · intro h hmem
    obtain ⟨body, rest, rfl, hbody⟩ := List.eq_append_cons_of_mem hmem
    have hfits : Fits none (.string body) rest.head? := by
      rintro x hx rfl
      exact hbody hx
    have hfound := string?_complete hfits
    simp only [text, List.cons_append, List.append_assoc, List.nil_append] at hfound
    rw [h] at hfound
    cases hfound
  · exact string?_unclosed

theorem fits_of_prefixedName? (h : prefixedName? before t = some (l, rest)) :
    l.Fits before rest.head? := by
  unfold prefixedName? at h
  split at h
  · rename_i hstart
    split at h
    · rename_i rest' hdrop
      obtain ⟨⟨name, rest''⟩, hrun, heq⟩ := Option.map_eq_some_iff.1 h
      obtain ⟨rfl, rfl⟩ := by simpa using heq
      obtain ⟨hname, hend⟩ := isName_of_boundedRun? hrun
      obtain ⟨hboundary, hletter⟩ := Bool.and_eq_true_iff.1 hstart
      cases t with
      | nil => simp at hletter
      | cons c cs =>
        have hc : c.isAlpha = true := by simpa using hletter
        have hspace : (c :: cs).takeWhile Char.isAlphanum = c :: cs.takeWhile Char.isAlphanum := by
          simp [Text.isAlphanum_of_isAlpha hc]
        refine ⟨?_, ⟨c, cs.takeWhile Char.isAlphanum, hspace, hc, ?_⟩, hname, hend⟩
        · rw [hspace]
          exact hboundary
        · intro d hd
          exact List.mem_takeWhile_imp hd
    · simp at h
  · simp at h

theorem prefixedName?_complete {space name : Text}
    (h : Fits before (.prefixedName space name) rest.head?) :
    ∃ name' rest', prefixedName? before (text (.prefixedName space name) ++ rest)
        = some (.prefixedName space name', rest') ∧ name.length ≤ name'.length := by
  obtain ⟨hstart, hspace, hname, hend⟩ := h
  obtain ⟨name', rest', hrun, hle⟩ := boundedRun?_complete isNameChar_of_isAlpha hname hend
  have hall : ∀ c ∈ space, c.isAlphanum = true :=
    fun c hc => hspace.of_mem (fun _ => Text.isAlphanum_of_isAlpha) hc
  have hcolon : Char.isAlphanum ':' = false := by decide
  have htext : text (.prefixedName space name) ++ rest = space ++ ':' :: (name ++ rest) := by
    simp [text]
  have hhead : (space ++ ':' :: (name ++ rest)).head? = space.head? :=
    List.head?_append_of_ne_nil _ hspace.ne_nil
  refine ⟨name', rest', ?_, hle⟩
  rw [htext, prefixedName?, hhead, if_pos (by rw [hstart, hspace.any_isAlpha_head?]; rfl),
    Text.dropWhile_run hall hcolon, Text.takeWhile_run hall hcolon]
  simp only [hrun, Option.map_some]

theorem fits_of_languageTag? (h : languageTag? t = some (l, rest)) :
    l.Fits before rest.head? := by
  unfold languageTag? at h
  split at h
  · obtain ⟨⟨body, rest'⟩, hrun, heq⟩ := Option.map_eq_some_iff.1 h
    obtain ⟨rfl, rfl⟩ := by simpa using heq
    exact isName_of_boundedRun? hrun
  · simp at h

theorem languageTag?_complete {body : Text} (h : Fits before (.languageTag body) rest.head?) :
    ∃ body' rest', languageTag? (text (.languageTag body) ++ rest)
        = some (.languageTag body', rest') ∧ body.length ≤ body'.length := by
  obtain ⟨body', rest', hrun, hle⟩ := boundedRun?_complete isTagChar_of_isAlpha h.1 h.2
  refine ⟨body', rest', ?_, hle⟩
  have htext : text (.languageTag body) ++ rest = '@' :: (body ++ rest) := rfl
  rw [htext, languageTag?, hrun, Option.map_some]

theorem fits_of_keyword? (h : keyword? before t = some (l, rest)) : l.Fits before rest.head? := by
  have hsplit := keyword?_eq_some h
  unfold keyword? at h
  split at h
  · rename_i hstart
    obtain ⟨w, hw, hword⟩ := List.exists_of_findSome?_eq_some h
    unfold word? at hword
    split at hword
    · rename_i hp
      obtain ⟨rfl, rfl⟩ := by simpa using hword
      refine ⟨hw, ?_, (Bool.and_eq_true_iff.1 hp).2⟩
      rwa [hsplit.1, List.head?_append_of_ne_nil _ hsplit.2] at hstart
    · simp at hword
  · simp at h

theorem word?_append {w : Text} (h : Text.isBoundary w.getLast? rest.head? = true) :
    word? (w ++ rest) w = some (.keyword w, rest) := by
  simp [word?, h, List.isPrefixOf_iff_prefix]

theorem word?_eq_none {w : Text} (hw : w ≠ []) (h : t.head? ≠ w.head?) : word? t w = none := by
  rw [word?, if_neg]
  intro hfound
  obtain ⟨tail, rfl⟩ := List.isPrefixOf_iff_prefix.1 (Bool.and_eq_true_iff.1 hfound).1
  exact h (List.head?_append_of_ne_nil _ hw)

theorem keyword?_complete {w : Text} (h : Fits before (.keyword w) rest.head?) :
    keyword? before (text (.keyword w) ++ rest) = some (.keyword w, rest) := by
  obtain ⟨hw, hstart, hend⟩ := h
  have hfound := word?_append hend
  simp only [keywords, List.mem_cons, List.not_mem_nil, or_false] at hw
  -- the reserved words begin with different letters, so no other one is found first
  rcases hw with rfl | rfl | rfl
  · rw [text, keyword?, if_pos (by simpa using hstart), keywords, List.findSome?_cons, hfound]
  · rw [text, keyword?, if_pos (by simpa using hstart), keywords,
      List.findSome?_cons, word?_eq_none (by simp) (by simp),
      List.findSome?_cons, hfound]
  · rw [text, keyword?, if_pos (by simpa using hstart), keywords,
      List.findSome?_cons, word?_eq_none (by simp) (by simp),
      List.findSome?_cons, word?_eq_none (by simp) (by simp),
      List.findSome?_cons, hfound]

end Lexeme

/-! ## The recogniser of a pass -/

namespace Pass

variable {p : Pass} {before : Option Char} {t rest : Text} {l : Lexeme}

/-- What is found fits where it is found. -/
theorem fits_of_lexeme? (h : p.lexeme? before t = some (l, rest)) : l.Fits before rest.head? := by
  cases p with
  | uri => exact Lexeme.fits_of_uri? h
  | string => exact Lexeme.fits_of_string? h
  | prefixedName => exact Lexeme.fits_of_prefixedName? h
  | languageTag => exact Lexeme.fits_of_languageTag? h
  | keyword => exact Lexeme.fits_of_keyword? h

/-- Where a lexeme fits, the recogniser of its pass finds one that is at least as long. -/
theorem lexeme?_complete (h : l.Fits before rest.head?) :
    ∃ l' rest', l.pass.lexeme? before (l.text ++ rest) = some (l', rest') ∧
      l.text.length ≤ l'.text.length := by
  cases l with
  | uri body => exact ⟨_, _, Lexeme.uri?_complete h, le_refl _⟩
  | string body => exact ⟨_, _, Lexeme.string?_complete h, le_refl _⟩
  | prefixedName space name =>
    obtain ⟨name', rest', hfound, hle⟩ := Lexeme.prefixedName?_complete h
    refine ⟨_, _, hfound, ?_⟩
    simp only [Lexeme.text, List.length_append, List.length_cons]
    omega
  | languageTag body =>
    obtain ⟨body', rest', hfound, hle⟩ := Lexeme.languageTag?_complete h
    refine ⟨_, _, hfound, ?_⟩
    simp only [Lexeme.text, List.length_cons]
    omega
  | keyword word => exact ⟨_, _, Lexeme.keyword?_complete h, le_refl _⟩

/-- Where nothing is found, nothing fits. -/
theorem not_fits_of_lexeme?_eq_none (h : l.pass.lexeme? before (l.text ++ rest) = none) :
    ¬ l.Fits before rest.head? := by
  intro hfits
  obtain ⟨l', rest', hfound, -⟩ := lexeme?_complete hfits
  rw [h] at hfound
  cases hfound

end Pass

end TurtleMarkup
