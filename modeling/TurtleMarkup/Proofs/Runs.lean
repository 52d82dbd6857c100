import Mathlib.Data.List.DropRight
import TurtleMarkup.Proofs.Borders

/-!
# Runs cut back to a word boundary

Local names and language tags end at a word boundary, so a run of admitted
characters may have to be cut back.  What the cut takes away depends on one thing
only, whether the character behind the run belongs to a word: if it does not, the
characters at the end of the run that belong to no word go, and if it does, those
that do belong to one (`Text.longestBounded_eq`).

In names and tags the hyphen is the only character that belongs to no word.  So
the cut removes the hyphens at the end (`Text.longestBounded_of_not_word`), or
everything behind the last hyphen (`Text.longestBounded_of_word`).
-/

namespace TurtleMarkup

namespace Text

/-! ## Maximal runs -/

namespace IsRun

variable {cls : Char → Bool} {run rest : Text}

/-- If the class has all letters, a letter at the beginning is one of the run. -/
theorem any_isAlpha_head? (h : IsRun cls run rest)
    (hcls : ∀ c : Char, c.isAlpha = true → cls c = true) :
    (run ++ rest).head?.any Char.isAlpha = run.head?.any Char.isAlpha := by
  cases run with
  | cons c run => rfl
  | nil =>
    cases rest with
    | nil => rfl
    | cons d rest =>
      have hd : cls d = false := by simpa using h.stop
      have hletter : d.isAlpha = false := by
        rw [← Bool.not_eq_true]
        intro hletter
        rw [hcls d hletter] at hd
        cases hd
      simp [hletter]

end IsRun

/-! ## The cut -/

theorem cutAtBoundary_eq (run : Text) {rest : Text} {b : Bool}
    (h : rest.head?.any isWordChar = b) :
    cutAtBoundary run rest
      = if run.dropWhile (isWordChar · == b) = [] then none
        else some ((run.dropWhile (isWordChar · == b)).reverse,
          (run.takeWhile (isWordChar · == b)).reverse ++ rest) := by
  induction run generalizing rest with
  | nil => rfl
  | cons c run ih =>
    have hboundary : isBoundary (some c) rest.head? = (isWordChar c != b) := by
      rw [← h]
      rfl
    rw [cutAtBoundary, hboundary]
    by_cases hc : isWordChar c = b
    · -- no boundary behind `c`, which counts from now on as the character behind the run
      have hhead : (List.head? (c :: rest)).any isWordChar = b := hc
      simpa [hc] using ih hhead
    · simp [hc]

/-- The characters at the end of the run that go with the character behind it, belonging to a word
or to none as that one does, are cut off. -/
theorem longestBounded_eq (run : Text) {rest : Text} {b : Bool}
    (h : rest.head?.any isWordChar = b) :
    longestBounded run rest
      = if run.rdropWhile (isWordChar · == b) = [] then none
        else some (run.rdropWhile (isWordChar · == b),
          run.rtakeWhile (isWordChar · == b) ++ rest) := by
  rw [longestBounded, cutAtBoundary_eq run.reverse h, List.rdropWhile, List.rtakeWhile]
  simp only [List.reverse_eq_nil_iff]

theorem rdropWhile_congr {p q : Char → Bool} {t : Text} (h : ∀ c ∈ t, p c = q c) :
    t.rdropWhile p = t.rdropWhile q := by
  induction t using List.reverseRecOn with
  | nil => rfl
  | append_singleton t c ih =>
    have hinit : ∀ d ∈ t, p d = q d := fun d hd => h d (List.mem_append_left [c] hd)
    rw [List.rdropWhile_concat, List.rdropWhile_concat, h c (by simp), ih hinit]

theorem getLast?_rdropWhile_ne (p : Char → Bool) (t : Text) {c : Char} (hc : p c = true) :
    (t.rdropWhile p).getLast? ≠ some c := by
  intro h
  have hne : t.rdropWhile p ≠ [] := by
    intro hnil
    rw [hnil] at h
    cases h
  rw [List.getLast?_eq_some_getLast hne] at h
  have hlast := List.rdropWhile_last_not p t hne
  rw [Option.some.inj h] at hlast
  exact hlast hc

/-! ## Hyphens -/

/-- Every character of the text but the hyphen belongs to a word. -/
def Hyphenated (t : Text) : Prop := ∀ c ∈ t, isWordChar c = (c != '-')

/-- In front of a character that belongs to no word, the hyphens at the end are cut off. -/
theorem longestBounded_of_not_word {run rest : Text} (hrun : Hyphenated run)
    (hhead : run.head?.any Char.isAlpha = true) (hrest : rest.head?.any isWordChar = false) :
    longestBounded run rest
      = some (run.rdropWhile (· == '-'), run.rtakeWhile (isWordChar · == false) ++ rest) := by
  have hcut : run.rdropWhile (isWordChar · == false) = run.rdropWhile (· == '-') := by
    refine rdropWhile_congr ?_
    intro c hc
    rw [hrun c hc]
    cases hc' : c == '-' <;> simp_all
  have hne : run.rdropWhile (· == '-') ≠ [] := by
    rw [Ne, List.rdropWhile_eq_nil_iff]
    intro hall
    cases run with
    | nil => simp at hhead
    | cons c run =>
      -- the run begins with a letter, which is no hyphen
      have hc : c = '-' := by simpa using hall c List.mem_cons_self
      rw [hc, List.head?_cons, Option.any_some] at hhead
      exact absurd hhead (by decide)
  rw [longestBounded_eq run hrest, hcut, if_neg hne]

/-- In front of a character that belongs to a word, everything behind the last hyphen is cut off,
and nothing is left if there is no hyphen. -/
theorem longestBounded_of_word {run rest : Text} (hrun : Hyphenated run)
    (hrest : rest.head?.any isWordChar = true) :
    longestBounded run rest
      = if '-' ∈ run then
          some (run.rdropWhile (· != '-'), run.rtakeWhile (isWordChar · == true) ++ rest)
        else none := by
  have hcut : run.rdropWhile (isWordChar · == true) = run.rdropWhile (· != '-') := by
    refine rdropWhile_congr ?_
    intro c hc
    rw [hrun c hc, beq_true]
  have hnil : run.rdropWhile (· != '-') = [] ↔ ¬ '-' ∈ run := by
    rw [List.rdropWhile_eq_nil_iff]
    constructor
    · intro hall hmem
      simpa using hall '-' hmem
    · rintro hmem c hc
      rw [bne_iff_ne]
      rintro rfl
      exact hmem hc
  rw [longestBounded_eq run hrest, hcut]
  by_cases hmem : '-' ∈ run
  · rw [if_neg (fun h => hnil.1 h hmem), if_pos hmem]
  · rw [if_pos (hnil.2 hmem), if_neg hmem]

end Text

namespace Lexeme

theorem isNameChar_of_isWordChar {c : Char} (h : Text.isWordChar c = true) :
    isNameChar c = true := by
  rw [Text.isWordChar] at h
  simp [isNameChar, h]

theorem hyphenated_of_isNameChar {t : Text} (h : ∀ c ∈ t, isNameChar c = true) :
    Text.Hyphenated t := by
  intro c hc
  have hname := h c hc
  rw [isNameChar, ← Text.isWordChar, Bool.or_eq_true, beq_iff_eq] at hname
  by_cases hhyphen : c = '-'
  · subst hhyphen
    decide
  · simp [hhyphen, hname.resolve_right hhyphen]

theorem isNameChar_of_isTagChar {c : Char} (h : isTagChar c = true) : isNameChar c = true := by
  rw [isTagChar, Bool.or_eq_true] at h
  rcases h with h | h <;> simp [isNameChar, h]

/-- A run of name characters is followed by no word character, so it only loses its hyphens at the
end. -/
theorem boundedRun?_isNameChar {run rest : Text} (h : Text.IsRun isNameChar run rest)
    (hhead : run.head?.any Char.isAlpha = true) :
    boundedRun? isNameChar (run ++ rest)
      = some (run.rdropWhile (· == '-'),
        run.rtakeWhile (Text.isWordChar · == false) ++ rest) := by
  have hrest : rest.head?.any Text.isWordChar = false := by
    cases rest with
    | nil => rfl
    | cons d rest =>
      have hd : isNameChar d = false := by simpa using h.stop
      rw [List.head?_cons, Option.any_some, ← Bool.not_eq_true]
      intro hword
      rw [isNameChar_of_isWordChar hword] at hd
      cases hd
  rw [boundedRun?, h.any_isAlpha_head? isNameChar_of_isAlpha, if_pos hhead, h.takeWhile_eq,
    h.dropWhile_eq]
  exact Text.longestBounded_of_not_word (hyphenated_of_isNameChar h.all) hhead hrest

/-- A bounded run of name characters does not end in a hyphen, and no word character follows. -/
theorem ends_of_boundedRun?_isNameChar {t name rest : Text}
    (h : boundedRun? isNameChar t = some (name, rest)) :
    name.getLast? ≠ some '-' ∧ rest.head?.any Text.isWordChar = false := by
  obtain ⟨hname, hboundary⟩ := isName_of_boundedRun? h
  obtain ⟨run, after, rfl, hrun⟩ := Text.exists_isRun isNameChar t
  have hletter : run.head?.any Char.isAlpha = true := by
    rw [← hrun.any_isAlpha_head? isNameChar_of_isAlpha, (boundedRun?_eq_some h).1,
      List.head?_append_of_ne_nil _ hname.ne_nil]
    exact hname.any_isAlpha_head?
  have hcut := boundedRun?_isNameChar hrun hletter
  rw [h] at hcut
  have hlast : name.getLast? ≠ some '-' := by
    rw [(Prod.mk.inj (Option.some.inj hcut)).1]
    exact Text.getLast?_rdropWhile_ne _ _ rfl
  refine ⟨hlast, ?_⟩
  -- the last character belongs to a word, which ends there
  rw [List.getLast?_eq_some_getLast hname.ne_nil] at hlast hboundary
  have hmem := List.getLast_mem hname.ne_nil
  have hword : Text.isWordChar (name.getLast hname.ne_nil) = true := by
    rw [hyphenated_of_isNameChar (fun c hc => hname.of_mem isNameChar_of_isAlpha hc) _ hmem,
      bne_iff_ne]
    exact fun heq => hlast (congrArg some heq)
  simpa [Text.isBoundary, hword] using hboundary

end Lexeme

end TurtleMarkup
