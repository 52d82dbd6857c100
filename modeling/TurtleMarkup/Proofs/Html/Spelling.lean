import TurtleMarkup.Markup
import TurtleMarkup.Proofs.Html.Escape
import TurtleMarkup.Proofs.Numerals

/-!
# Spellings of a text in HTML

A character can be written in HTML as itself, by its number or by a name.
`Spells s e` says that `e` is written in this way for the text `s`, one character
after another; a text has unboundedly many spellings, and its escaped form is one
of them (`spells_escape`).

Decoding gives back the text of every spelling (`decode_of_spells`): whatever
follows a spelled character is left alone until its turn comes, and what has been
decoded is not read again.  So with decoding asked for, a spelling is highlighted
like the text it spells (`Markup.ofSource_of_spells`).
-/

namespace TurtleMarkup.Html

/-! ## What a spelling is -/

/-- The names by which a character may be spelled. -/
def spelledNames : List (Text × Char) :=
  [("amp".toList, '&'), ("lt".toList, '<'), ("gt".toList, '>'), ("quot".toList, '"')]

/-- The characters that have a number in HTML: all but the controls below the space other than
tab, line feed, form feed and carriage return. -/
def HasNumber (c : Char) : Prop := 0x20 ≤ c.toNat ∨ c.toNat ∈ [9, 10, 12, 13]

/-- The text spells the character. -/
inductive SpellsChar (c : Char) : Text → Prop where
  /-- As it is, unless it could begin a reference. -/
  | literal (h : c ≠ '&') : SpellsChar c [c]
  /-- By its decimal number. -/
  | decimal {digits : Text} (h : HasNumber c) (hdigits : Text.IsNumeral 10 c.toNat digits) :
    SpellsChar c (referenceText ('#' :: digits))
  /-- By its hexadecimal number. -/
  | hexadecimal {x : Char} {digits : Text} (h : HasNumber c) (hx : x = 'x' ∨ x = 'X')
    (hdigits : Text.IsNumeral 16 c.toNat digits) : SpellsChar c (referenceText ('#' :: x :: digits))
  /-- By a name. -/
  | name {name : Text} (h : (name, c) ∈ spelledNames) : SpellsChar c (referenceText name)

/-- The second text spells the first, character by character. -/
inductive Spells : Text → Text → Prop where
  | nil : Spells [] []
  | cons {c : Char} {s u e : Text} (hc : SpellsChar c u) (hs : Spells s e) :
    Spells (c :: s) (u ++ e)

/-! ## Numbers and names are read -/

theorem referable?_of_hasNumber {c : Char} (h : HasNumber c) : referable? c.toNat = some c := by
  have hvalid : c.toNat.isValidChar := c.valid
  have hcond : c.toNat.isValidChar ∧ (0x20 ≤ c.toNat ∨ c.toNat ∈ referableControls) := ⟨hvalid, h⟩
  rw [referable?, if_pos hcond, Char.ofNat_toNat]

theorem digitValue?_of_isDigitOf {base : Nat} {c : Char} (h : Text.isDigitOf base c = true) :
    Text.digitValue? c ≠ none := by
  intro hnone
  rw [Text.isDigitOf, hnone] at h
  cases h

theorem not_isReferenceEnd_of_isDigitOf {base : Nat} {c : Char}
    (h : Text.isDigitOf base c = true) : (!isReferenceEnd c) = true := by
  have hsemicolon : Text.digitValue? ';' = none := by decide
  have hampersand : Text.digitValue? '&' = none := by decide
  have hdigit := digitValue?_of_isDigitOf h
  have hne : c ≠ ';' ∧ c ≠ '&' := by
    constructor
    · rintro rfl
      exact hdigit hsemicolon
    · rintro rfl
      exact hdigit hampersand
  simp [isReferenceEnd, hne.1, hne.2]

theorem reference?_decimal {digits : Text} {c : Char} (h : HasNumber c)
    (hdigits : Text.IsNumeral 10 c.toNat digits) : reference? ('#' :: digits) = some c := by
  have hread : Text.number? 10 digits = some c.toNat := hdigits.number? (by decide) (by decide)
  have hx : ∀ x, Text.isDigitOf 10 x = false → ∀ ds, digits ≠ x :: ds := by
    rintro x hx ds rfl
    have hdigit := hdigits.isDigitOf (by decide) (by decide) List.mem_cons_self
    rw [hx] at hdigit
    cases hdigit
  unfold reference?
  split
  · rename_i ds heq
    exact absurd (List.cons.inj heq).2 (hx 'x' (by decide) ds)
  · rename_i ds heq
    exact absurd (List.cons.inj heq).2 (hx 'X' (by decide) ds)
  · rename_i ds _ _ heq
    obtain rfl : digits = ds := (List.cons.inj heq).2
    rw [hread, Option.bind_some, referable?_of_hasNumber h]
  · rename_i hhash
    exact absurd rfl (hhash digits)

theorem reference?_hexadecimal {x : Char} {digits : Text} {c : Char} (h : HasNumber c)
    (hx : x = 'x' ∨ x = 'X') (hdigits : Text.IsNumeral 16 c.toNat digits) :
    reference? ('#' :: x :: digits) = some c := by
  have hread : Text.number? 16 digits = some c.toNat := hdigits.number? (by decide) (by decide)
  have heq : reference? ('#' :: x :: digits) = (Text.number? 16 digits).bind referable? := by
    rcases hx with rfl | rfl <;> rfl
  rw [heq, hread, Option.bind_some, referable?_of_hasNumber h]

/-- The references that escaping writes are those by a name. -/
theorem isReferenceTo_iff {c : Char} {t : Text} :
    IsReferenceTo c t ↔ ∃ name, (name, c) ∈ spelledNames ∧ t = referenceText name := by
  have hread : spelledNames.all fun p => reference? p.1 = some p.2 := by decide +kernel
  have hnames : writtenNames = spelledNames.map Prod.fst := rfl
  constructor
  · rintro ⟨name, hname, hc, rfl⟩
    rw [hnames] at hname
    obtain ⟨⟨name, d⟩, hmem, rfl⟩ := List.mem_map.1 hname
    have hd : reference? name = some d := of_decide_eq_true (List.all_eq_true.1 hread _ hmem)
    obtain rfl : c = d := Option.some.inj (hc.symm.trans hd)
    exact ⟨name, hmem, rfl⟩
  · rintro ⟨name, hmem, rfl⟩
    have hc : reference? name = some c := of_decide_eq_true (List.all_eq_true.1 hread _ hmem)
    refine ⟨name, ?_, hc, rfl⟩
    rw [hnames]
    exact List.mem_map_of_mem hmem

/-! ## Decoding a spelling -/

/-- A spelled character is decoded to the character, whatever follows it. -/
theorem SpellsChar.decode_append {c : Char} {u : Text} (h : SpellsChar c u) (rest : Text) :
    decode (u ++ rest) = c :: decode rest := by
  cases h with
  | literal h => exact decode_cons_of_ne h rest
  | decimal h hdigits =>
    apply decode_referenceText_append _ (reference?_decimal h hdigits)
    rw [List.all_cons, Bool.and_eq_true, List.all_eq_true]
    refine ⟨by decide, fun d hd => ?_⟩
    exact not_isReferenceEnd_of_isDigitOf (hdigits.isDigitOf (by decide) (by decide) hd)
  | hexadecimal h hx hdigits =>
    apply decode_referenceText_append _ (reference?_hexadecimal h hx hdigits)
    rw [List.all_cons, List.all_cons, Bool.and_eq_true, Bool.and_eq_true, List.all_eq_true]
    refine ⟨by decide, by rcases hx with rfl | rfl <;> decide, fun d hd => ?_⟩
    exact not_isReferenceEnd_of_isDigitOf (hdigits.isDigitOf (by decide) (by decide) hd)
  | name h => exact decode_reference_append (isReferenceTo_iff.2 ⟨_, h, rfl⟩) rest

/-- A spelling is decoded to the text it spells. -/
theorem decode_of_spells {s e : Text} (h : Spells s e) : decode e = s := by
  induction h with
  | nil => exact decode_nil
  | cons hc _ ih => rw [hc.decode_append, ih]

/-- The escaped form of a text spells it. -/
theorem spells_escape (s : Text) : Spells s (escape s) := by
  have hchar : ∀ c, SpellsChar c (escapeChar c) := by
    intro c
    rcases escapeChar_cases c with href | ⟨hself, hamp, -⟩
    · obtain ⟨name, hname, heq⟩ := isReferenceTo_iff.1 href
      rw [heq]
      exact .name hname
    · rw [hself]
      exact .literal hamp
  induction s with
  | nil => exact .nil
  | cons c s ih => exact .cons (hchar c) ih

end TurtleMarkup.Html

namespace TurtleMarkup.Markup

open Html (Spells)

theorem ofSource_of_decode {source spelling : Text} (h : Html.decode spelling = source)
    (a : Arguments) (c : Config) (hdecode : (a.decodeEntities || c.decodeEntities) = true) :
    ofSource spelling a c
      = ofSource source { a with decodeEntities := false } { c with decodeEntities := false } := by
  have hleft : sourceText spelling a c = source := by rw [sourceText, if_pos hdecode, h]
  have hright : sourceText source { a with decodeEntities := false }
      { c with decodeEntities := false } = source := if_neg Bool.false_ne_true
  unfold ofSource block
  rw [hleft, hright]

/-- **A spelling is highlighted like the text it spells.**  With decoding asked for, by the
arguments or by the settings, the markup of every spelling of a source is the markup of the source
without decoding.  The escaped form of a source is one such spelling. -/
theorem ofSource_of_spells (source : Text) (a : Arguments) (c : Config) :
    (∀ spelling, Spells source spelling →
      ofSource spelling { a with decodeEntities := true } c
          = ofSource source { a with decodeEntities := false } { c with decodeEntities := false } ∧
        ofSource spelling a { c with decodeEntities := true }
          = ofSource source { a with decodeEntities := false }
              { c with decodeEntities := false }) ∧
      Spells source (Html.escape source) := by
  refine ⟨fun spelling h => ⟨?_, ?_⟩, Html.spells_escape source⟩
  · exact ofSource_of_decode (Html.decode_of_spells h) { a with decodeEntities := true } c rfl
  · exact ofSource_of_decode (Html.decode_of_spells h) a { c with decodeEntities := true }
      (Bool.or_true _)

/-- An ampersand that is spelled begins nothing: `&amp;lt;` is decoded once, to `&lt;`. -/
theorem ofSource_of_spells_once :
    Spells "&lt;a".toList "&amp;lt;&#X0061;".toList ∧
      ofSource "&amp;lt;&#X0061;".toList { fragment := true, decodeEntities := true } {}
        = "<span>&amp;lt;<span class=\"turtle-keyword\">a</span></span>".toList := by
  have hname : Html.SpellsChar '&' (Html.referenceText "amp".toList) := .name (by decide)
  have hnumber : Html.SpellsChar 'a' (Html.referenceText "#X0061".toList) :=
    .hexadecimal (.inl (by decide)) (.inr rfl) ⟨2, by decide⟩
  have hspells : Spells "&lt;a".toList "&amp;lt;&#X0061;".toList :=
    .cons hname (.cons (.literal (by decide)) (.cons (.literal (by decide))
      (.cons (.literal (by decide)) (.cons hnumber .nil))))
  refine ⟨hspells, ?_⟩
  have h := (ofSource_of_spells "&lt;a".toList { fragment := true } {}).1 _ hspells
  rw [h.1]
  decide +kernel

end TurtleMarkup.Markup
