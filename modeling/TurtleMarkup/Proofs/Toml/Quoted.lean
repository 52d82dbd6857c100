import TurtleMarkup.Proofs.Toml.Strings
import TurtleMarkup.Toml.Quoted.Writer

/-!
# Writing quoted strings

What is written for a string spells it, in each of the four forms
(`Toml.Quoted.spellsString_write`).  So the reader, which reads whatever spells a
string (`Toml.Quoted.string?_of_spells`), reads it back.

In the basic forms a character stands for itself or is an escape of it
(`escapeChar_cases`).  The literal forms have no escapes, and are chosen only for
texts that need none (`suits_style`).
-/

namespace TurtleMarkup.Toml.Quoted

/-! ## Basic strings -/

theorem isTextChar_of_not_isControl {c : Char} (h : isControl c = false) (hfeed : c ≠ '\n') :
    isTextChar c = true := by
  by_cases htab : c = '\t'
  · rw [htab]
    decide
  · simp only [isControl, Bool.or_eq_false_iff, Bool.and_eq_false_iff, decide_eq_false_iff_not,
      bne_eq_false_iff_eq, htab, hfeed, or_false, beq_eq_false_iff_ne] at h
    simp only [isTextChar, Bool.or_eq_true, Bool.and_eq_true, decide_eq_true_eq, bne_iff_ne]
    exact .inr ⟨by omega, h.2⟩

theorem toNat_lt_of_isControl {c : Char} (h : isControl c = true) : c.toNat < 16 ^ 4 := by
  simp only [isControl, Bool.or_eq_true, Bool.and_eq_true, decide_eq_true_eq, beq_iff_eq] at h
  omega

/-- A character of a basic string stands for itself or is written as an escape. -/
theorem escapeChar_cases (c : Char) :
    (∃ e, escapeChar c = '\\' :: e ∧ SpellsEscape c e) ∨
      escapeChar c = [c] ∧ Delimiter.double.IsPlain c := by
  have hnamed {name : Char} (h : (name, c) ∈ namedEscapes) :
      ∃ e, ['\\', name] = '\\' :: e ∧ SpellsEscape c e := ⟨[name], rfl, .named h⟩
  unfold escapeChar
  split
  case h_8 hback htab hfeed hform hreturn hquote hslash =>
    by_cases hcontrol : isControl c = true
    · rw [if_pos hcontrol]
      have hdigits := Text.denotes_hexDigits (by decide) (toNat_lt_of_isControl hcontrol)
      have hcode : SpellsEscape c ('u' :: Text.hexDigits 4 c.toNat) :=
        .code (by decide) (Text.length_hexDigits 4 _) hdigits
      exact .inl ⟨_, rfl, hcode⟩
    · rw [if_neg hcontrol]
      have htext := isTextChar_of_not_isControl (Bool.eq_false_iff.2 hcontrol) hfeed
      exact .inr ⟨rfl, htext, hquote, fun _ => hslash⟩
  all_goals exact .inl (hnamed (by decide))

theorem SpellsLine.escapeChar (c : Char) {s t : Text} (h : SpellsLine .double s t) :
    SpellsLine .double (c :: s) (escapeChar c ++ t) := by
  rcases escapeChar_cases c with ⟨e, heq, he⟩ | ⟨heq, hc⟩
  · rw [heq]
    exact .escape rfl he h
  · rw [heq]
    exact .plain hc h

theorem SpellsLines.escapeChar (c : Char) {row : Nat} {s t : Text} (h : SpellsLines .double 0 s t) :
    SpellsLines .double row (c :: s) (escapeChar c ++ t) := by
  rcases escapeChar_cases c with ⟨e, heq, he⟩ | ⟨heq, hc⟩
  · rw [heq]
    exact .escape rfl he h
  · rw [heq]
    exact .plain hc h

theorem spellsLine_flatMap_escapeChar (t : Text) : SpellsLine .double t (t.flatMap escapeChar) := by
  induction t with
  | nil => exact .nil
  | cons c t ih => exact ih.escapeChar c

theorem spellsLines_multilineBody (row : Nat) (t : Text) :
    SpellsLines .double row t (multilineBody row t) := by
  induction t generalizing row with
  | nil => exact .nil
  | cons c t ih =>
    rw [multilineBody]
    split_ifs with hquote hrow hfeed
    · rw [hquote]
      exact .quote hrow (ih (row + 1))
    · rw [hquote]
      exact .escape rfl (.named (by decide)) (ih 0)
    · rw [hfeed]
      exact .lineEnd (.inl rfl) (ih 0)
    · exact (ih 0).escapeChar c

/-! ## Literal strings -/

theorem le_longestRow (q : Char) (row : Nat) (t : Text) : row ≤ longestRow q row t := by
  induction t generalizing row with
  | nil => exact Nat.le_refl row
  | cons c t ih =>
    rw [longestRow]
    by_cases hc : c = q
    · rw [if_pos hc]
      exact Nat.le_of_succ_le (ih (row + 1))
    · rw [if_neg hc]
      exact Nat.le_max_left row _

theorem not_mem_of_longestRow_eq_zero {q : Char} {t : Text} (h : longestRow q 0 t = 0) :
    q ∉ t := by
  induction t with
  | nil => exact List.not_mem_nil
  | cons c t ih =>
    rw [longestRow] at h
    by_cases hc : c = q
    · rw [if_pos hc] at h
      have hone := le_longestRow q (0 + 1) t
      rw [h] at hone
      exact absurd hone (by decide)
    · rw [if_neg hc] at h
      rw [List.mem_cons, not_or]
      exact ⟨fun heq => hc heq.symm, ih (by omega)⟩

theorem spellsLine_self {t : Text} (htext : ∀ c ∈ t, isTextChar c = true) (hquote : '\x27' ∉ t) :
    SpellsLine .single t t := by
  induction t with
  | nil => exact .nil
  | cons c t ih =>
    rw [List.forall_mem_cons] at htext
    rw [List.mem_cons, not_or] at hquote
    exact .plain ⟨htext.1, fun heq => hquote.1 heq.symm, fun h => by cases h⟩ (ih htext.2 hquote.2)

theorem spellsLines_self {row : Nat} {t : Text} (htext : ∀ c ∈ t, c = '\n' ∨ isTextChar c = true)
    (hrow : longestRow '\x27' row t ≤ 2) : SpellsLines .single row t t := by
  induction t generalizing row with
  | nil => exact .nil
  | cons c t ih =>
    rw [List.forall_mem_cons] at htext
    rw [longestRow] at hrow
    by_cases hquote : c = '\x27'
    · rw [if_pos hquote] at hrow
      have hlt : row + 1 ≤ 2 := Nat.le_trans (le_longestRow _ _ t) hrow
      rw [hquote]
      exact .quote hlt (ih htext.2 hrow)
    · rw [if_neg hquote] at hrow
      have htail := ih htext.2 (Nat.le_trans (Nat.le_max_right _ _) hrow)
      rcases htext.1 with rfl | hc
      · exact .lineEnd (.inl rfl) htail
      · exact .plain ⟨hc, hquote, fun h => by cases h⟩ htail

/-! ## Every form -/

/-- The text can be written in the form.  Only the literal forms are choosy, as they have no
escapes. -/
def Style.Suits (t : Text) : Style → Prop
  | .basic => True
  | .literal => (∀ c ∈ t, isTextChar c = true) ∧ '\x27' ∉ t
  | .multilineBasic => True
  | .multilineLiteral =>
    (∀ c ∈ t, c = '\n' ∨ isTextChar c = true) ∧ longestRow '\x27' 0 t ≤ 2

theorem isTextChar_of_mem {t : Text} {c : Char} (h : (!t.any isControl) = true) (hc : c ∈ t)
    (hfeed : c ≠ '\n') : isTextChar c = true := by
  apply isTextChar_of_not_isControl _ hfeed
  rw [Bool.eq_false_iff]
  intro hcontrol
  rw [List.any_eq_true.2 ⟨c, hc, hcontrol⟩] at h
  cases h

/-- The form that is chosen for a text suits it. -/
theorem suits_style (t : Text) : (style t).Suits t := by
  simp only [style]
  split
  · trivial
  split
  · rename_i h
    simp only [Bool.and_eq_true, beq_iff_eq] at h
    obtain ⟨⟨hcontrol, hfeed⟩, hquotes⟩ := h
    refine ⟨fun c hc => isTextChar_of_mem hcontrol hc ?_, not_mem_of_longestRow_eq_zero hquotes⟩
    rintro rfl
    rw [List.contains_iff_mem.2 hc] at hfeed
    cases hfeed
  split
  · trivial
  split
  · rename_i h
    rw [Bool.and_eq_true, decide_eq_true_eq] at h
    refine ⟨fun c hc => ?_, h.2⟩
    by_cases hfeed : c = '\n'
    · exact .inl hfeed
    · exact .inr (isTextChar_of_mem h.1 hc hfeed)
  split
  · trivial
  · trivial

/-- The line end that is written behind opening triple quotes stands there for every text that
might begin with one. -/
theorem openingLine_cases {t u : Text} (h : '\n' ∉ t → u.head? ≠ some '\n' ∧ u.head? ≠ some '\r') :
    IsLineEnd (openingLine t) ∨
      openingLine t = [] ∧ u.head? ≠ some '\n' ∧ u.head? ≠ some '\r' := by
  unfold openingLine
  split_ifs with hfeed
  · exact .inl (.inl rfl)
  · exact .inr ⟨rfl, h fun hmem => hfeed (List.contains_iff_mem.2 hmem)⟩

theorem head?_multilineBody {t : Text} (h : '\n' ∉ t) :
    (multilineBody 0 t).head? ≠ some '\n' ∧ (multilineBody 0 t).head? ≠ some '\r' := by
  cases t with
  | nil => simp [multilineBody]
  | cons c t =>
    have hfeed : c ≠ '\n' := fun heq => h (by rw [heq]; exact List.mem_cons_self)
    rw [multilineBody]
    by_cases hquote : c = '"'
    · simp [hquote]
    · rw [if_neg hquote, if_neg hfeed]
      rcases escapeChar_cases c with ⟨e, heq, -⟩ | ⟨heq, hc⟩
      · simp [heq]
      · have hreturn : c ≠ '\r' := by
          rintro rfl
          exact absurd hc.1 (by decide)
        simp [heq, hfeed, hreturn]

theorem head?_of_text {t : Text} (h : '\n' ∉ t)
    (htext : ∀ c ∈ t, c = '\n' ∨ isTextChar c = true) :
    t.head? ≠ some '\n' ∧ t.head? ≠ some '\r' := by
  refine ⟨fun hhead => h (List.mem_of_head? hhead), fun hhead => ?_⟩
  exact absurd (htext '\r' (List.mem_of_head? hhead)) (by decide)

/-- A text in a form that suits it spells itself. -/
theorem spellsString_writeAs {t : Text} {s : Style} (h : s.Suits t) :
    SpellsString t (writeAs t s) := by
  cases s with
  | basic => exact .line (spellsLine_flatMap_escapeChar t)
  | literal => exact .line (spellsLine_self h.1 h.2)
  | multilineBasic =>
    have hopening := openingLine_cases (u := multilineBody 0 t) head?_multilineBody
    have hspells := SpellsString.lines hopening (spellsLines_multilineBody 0 t)
    rw [← List.append_assoc] at hspells
    exact hspells
  | multilineLiteral =>
    have hopening := openingLine_cases fun hfeed => head?_of_text hfeed h.1
    have hspells := SpellsString.lines hopening (spellsLines_self h.1 h.2)
    rw [← List.append_assoc] at hspells
    exact hspells

theorem spellsString_write (t : Text) : SpellsString t (write t) :=
  spellsString_writeAs (suits_style t)

end TurtleMarkup.Toml.Quoted
