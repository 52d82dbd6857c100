import TurtleMarkup.Proofs.Toml.Dates
import TurtleMarkup.Proofs.Toml.Floats
import TurtleMarkup.Proofs.Toml.Strings
import TurtleMarkup.Toml.Document

/-!
# Spellings of a scalar

A scalar is a string, a boolean, a number, or a date or time.  Every spelling of it
is read up to its end, whatever may follow a value in a document, and is refused only
if it is a number out of range (`value?_of_spells`).

Strings begin with a quote; all else are words.  A word ends where no character of
words follows, except that a blank may part a date from a time (`word_append`,
`word_append_parted`).  Of which kind it is, is told by its mark.
-/

namespace TurtleMarkup.Toml

open Text (Denotes isDigitOf)

/-! ## What a spelling is -/

/-- A value that is neither an array nor a table.  Of a float only the size `m * 10 ^ e` is told, of
dates and times nothing. -/
inductive Scalar where
  | string (s : Text)
  | boolean (b : Bool)
  | integer (n : Int)
  | float (m : Nat) (e : Int)
  /-- Infinity, or no number. -/
  | specialFloat
  | dateTime
deriving DecidableEq

namespace Scalar

/-- The word is a spelling of the scalar. -/
inductive SpellsWord : Scalar → Text → Prop where
  | true : SpellsWord (.boolean true) "true".toList
  | false : SpellsWord (.boolean false) "false".toList
  | integer {n : Int} {w : Text} (h : SpellsInteger n w) : SpellsWord (.integer n) w
  | float {m : Nat} {e : Int} {w : Text} (h : SpellsFloat m e w) : SpellsWord (.float m e) w
  | specialFloat {w : Text} (h : IsSpecialFloat w) : SpellsWord .specialFloat w
  | dateTime {w : Text} (h : IsDateTimeSpelling w) : SpellsWord .dateTime w

/-- The text is a spelling of the scalar. -/
inductive Spells : Scalar → Text → Prop where
  | string {s w : Text} (h : Quoted.SpellsString s w) : Spells (.string s) w
  | word {v : Scalar} {w : Text} (h : v.SpellsWord w) : Spells v w

/-- Integers have to fit, and floats to be below the limit. -/
def InRange : Scalar → Prop
  | .integer n => fits n = true
  | .float m e => IsBelow floatLimit m e
  | _ => True

instance : DecidablePred InRange
  | .integer n => inferInstanceAs (Decidable (fits n = true))
  | .float m e => inferInstanceAs (Decidable (IsBelow floatLimit m e))
  | .string _ => .isTrue trivial
  | .boolean _ => .isTrue trivial
  | .specialFloat => .isTrue trivial
  | .dateTime => .isTrue trivial

/-- The value of the scalar with the given spelling. -/
def toValue (w : Text) : Scalar → Value
  | .string s => .string s
  | .boolean b => .boolean b
  | .integer n => .integer n
  | .float _ _ => .float w
  | .specialFloat => .float w
  | .dateTime => .dateTime w

/-- The value that a spelling of the scalar is read as, if it is not refused. -/
def reading (w : Text) (v : Scalar) : Option Value := if v.InRange then some (v.toValue w) else none

end Scalar

/-! ## The value of a word -/

theorem ofWord?_of_kind {w : Text} (h : kind w ≠ .other) :
    ofWord? w =
      if isFloat w then some (.float w)
      else if isDateTime w then some (.dateTime w)
      else (integer? w).map .integer := by
  have htrue : w ≠ "true".toList := by
    rintro rfl
    exact h rfl
  have hfalse : w ≠ "false".toList := by
    rintro rfl
    exact h rfl
  rw [ofWord?, if_neg htrue, if_neg hfalse]

theorem not_isFloat {w : Text} (h : kind w ≠ .float) : ¬ isFloat w = true :=
  fun hfloat => h (kind_of_isFloat hfloat)

theorem not_isDateTime {w : Text} (h : kind w ≠ .dateTime) : ¬ isDateTime w = true :=
  fun hdate => h (kind_of_isDateTime hdate)

theorem integer?_eq_none {w : Text} (h : kind w ≠ .integer) : integer? w = none := by
  cases hspelled : spelledInteger? w with
  | none => rw [integer?, hspelled, Option.filter_none]
  | some n => exact absurd (kind_of_spelledInteger? (by rw [hspelled]; rfl)) h

/-- A word that spells a scalar is read as its value, unless it is out of range. -/
theorem ofWord?_of_spells {v : Scalar} {w : Text} (h : v.SpellsWord w) :
    ofWord? w = v.reading w := by
  cases h with
  | true => rfl
  | false => rfl
  | integer h =>
    have hkind := kind_of_spellsInteger h
    rw [ofWord?_of_kind (by simp [hkind]), if_neg (not_isFloat (by simp [hkind])),
      if_neg (not_isDateTime (by simp [hkind])), integer?_of_spells h]
    exact apply_ite (Option.map Value.integer) _ _ _
  | @float m e w h =>
    have hkind := kind_of_spellsFloat h
    rw [ofWord?_of_kind (by simp [hkind]), if_neg (not_isDateTime (by simp [hkind])),
      integer?_eq_none (by simp [hkind]), isFloat_of_spells h]
    by_cases hrange : IsBelow floatLimit m e <;>
      simp [Scalar.reading, Scalar.InRange, Scalar.toValue, hrange]
  | specialFloat h =>
    have hfloat := isFloat_of_isSpecialFloat h
    rw [ofWord?_of_kind (by simp [kind_of_isFloat hfloat]), if_pos hfloat]
    rfl
  | dateTime h =>
    have hdate := isDateTime_of_spelling h
    have hkind := kind_of_isDateTime hdate
    rw [ofWord?_of_kind (by simp [hkind]), if_neg (not_isFloat (by simp [hkind])), if_pos hdate]
    rfl

/-! ## The characters of words -/

/-- The text holds characters of words only. -/
def IsWord (t : Text) : Prop := ∀ c ∈ t, isWordChar c = true

theorem IsWord.append {s t : Text} (hs : IsWord s) (ht : IsWord t) : IsWord (s ++ t) :=
  List.forall_mem_append.2 ⟨hs, ht⟩

theorem IsWord.cons {c : Char} {t : Text} (hc : isWordChar c = true) (ht : IsWord t) :
    IsWord (c :: t) :=
  List.forall_mem_cons.2 ⟨hc, ht⟩

theorem isWordChar_of_isDigit {c : Char} (h : c.isDigit = true) : isWordChar c = true := by
  simp [isWordChar, Char.isAlphanum, h]

theorem isWordChar_of_isAlpha {c : Char} (h : c.isAlpha = true) : isWordChar c = true := by
  simp [isWordChar, Char.isAlphanum, h]

theorem isWordChar_of_digit {base : Nat} {c : Char} (h : isDigitOf base c = true) :
    isWordChar c = true := by
  unfold isDigitOf Text.digitValue? at h
  split_ifs at h with hdigit hsmall hcapital
  · exact isWordChar_of_isDigit hdigit
  · have hlower : c.isLower = true :=
      Bool.and_eq_true_iff.2 ⟨decide_eq_true hsmall.1,
        decide_eq_true (Char.le_trans hsmall.2 (by decide : 'f' ≤ 'z'))⟩
    exact isWordChar_of_isAlpha (Bool.or_eq_true_iff.2 (.inr hlower))
  · have hupper : c.isUpper = true :=
      decide_eq_true ⟨hcapital.1, Char.le_trans hcapital.2 (by decide : 'F' ≤ 'Z')⟩
    exact isWordChar_of_isAlpha (Bool.or_eq_true_iff.2 (.inl hupper))
  · cases h

theorem isWord_parted {base : Nat} {ds t : Text} (hds : ∀ c ∈ ds, isDigitOf base c = true)
    (ht : Parted ds t) : IsWord t := by
  intro c hc
  rcases ht.mem hc with hmem | rfl
  · exact isWordChar_of_digit (hds c hmem)
  · rfl

theorem isWord_sign (sign : Sign) : IsWord sign.text := by
  cases sign <;> simp [IsWord, Sign.text, isWordChar]

theorem isWord_integer {n : Int} {w : Text} (h : SpellsInteger n w) : IsWord w := by
  cases h with
  | decimal sign hds _ ht => exact (isWord_sign sign).append (isWord_parted hds.isDigit ht)
  | based hbase hds ht =>
    have hletters : bases.all (isWordChar ·.1) := by decide
    have hletter : isWordChar _ = true := List.all_eq_true.1 hletters _ hbase
    exact .cons rfl (.cons hletter (isWord_parted hds.isDigit ht))

theorem isWord_float {m : Nat} {e : Int} {w : Text} (h : SpellsFloat m e w) : IsWord w := by
  cases h with
  | mk sign hdigits hzero hw hf hx hne =>
    have hwhole := isWord_parted (isDigitOf_whole hdigits) hw
    refine (isWord_sign sign).append (hwhole.append (.append ?_ ?_))
    · cases hf with
      | none => simp [IsWord]
      | some ht =>
        exact .cons rfl
          (isWord_parted (fun c hc => hdigits.isDigit c (List.mem_append_right _ hc)) ht)
    · cases hx with
      | none => simp [IsWord]
      | some sign hletter hds ht =>
        refine .cons ?_ ((isWord_sign sign).append (isWord_parted hds.isDigit ht))
        rcases hletter with rfl | rfl <;> rfl

theorem isWord_specialFloat {w : Text} (h : IsSpecialFloat w) : IsWord w := by
  obtain ⟨sign, t, ht, rfl⟩ := h
  refine (isWord_sign sign).append ?_
  rcases ht with rfl | rfl <;> exact List.all_eq_true.1 (by decide)

theorem isWord_field {width n : Nat} {t : Text} (h : IsField width n t) : IsWord t :=
  fun c hc => isWordChar_of_digit (h.denotes.isDigit c hc)

theorem isWord_date {t : Text} (h : IsDate t) : IsWord t := by
  cases h with
  | mk hy hm hd _ _ =>
    exact (isWord_field hy).append
      (.cons rfl ((isWord_field hm).append (.cons rfl (isWord_field hd))))

theorem isWord_hourMinute {t : Text} (h : IsHourMinute t) : IsWord t := by
  cases h with
  | mk hh hm _ _ => exact (isWord_field hh).append (.cons rfl (isWord_field hm))

theorem isWord_time {t : Text} (h : IsTime t) : IsWord t := by
  cases h with
  | mk ht hs =>
    refine (isWord_hourMinute ht).append ?_
    cases hs with
    | none => simp [IsWord]
    | whole hs _ => exact .cons rfl (isWord_field hs)
    | fraction hs _ _ hds =>
      exact .cons rfl
        ((isWord_field hs).append (.cons rfl fun c hc => isWordChar_of_isDigit (hds c hc)))

theorem isWord_offset {o : Text} (h : IsOffset o) : IsWord o := by
  cases h with
  | none => simp [IsWord]
  | universal hc => rcases hc with rfl | rfl <;> simp [IsWord, isWordChar]
  | shifted hc ht =>
    refine .cons ?_ (isWord_hourMinute ht)
    rcases hc with rfl | rfl <;> rfl

/-! ## Where a word ends -/

theorem not_isWordChar_of_isBlank {c : Char} (h : isBlank c = true) : isWordChar c = false := by
  simp only [isBlank, Bool.or_eq_true, beq_iff_eq] at h
  rcases h with rfl | rfl <;> rfl

theorem EndsValue.not_isWordChar {rest : Text} (h : EndsValue rest) {c : Char}
    (hc : c ∈ rest.head?) : isWordChar c = false := by
  rcases h.head hc with hblank | rfl | rfl | rfl
  · exact not_isWordChar_of_isBlank hblank
  all_goals rfl

theorem EndsValue.isRun {w rest : Text} (h : EndsValue rest) (hw : IsWord w) :
    Text.IsRun isWordChar w rest :=
  Text.isRun_of_head hw fun _ hc => h.not_isWordChar hc

theorem word_append {w rest : Text} (hw : IsWord w) (hrest : EndsValue rest) :
    word (w ++ rest) = w := by
  simp only [word, (hrest.isRun hw).takeWhile_eq, List.drop_left]
  split
  · -- a blank follows, but no time
    rename_i c rest'
    have hc : ¬ c.isDigit = true := fun hdigit => by
      have hstop := (hrest.tail rfl).not_isWordChar (c := c) rfl
      rw [isWordChar_of_isDigit hdigit] at hstop
      cases hstop
    simp [hc]
  · rfl

theorem word_append_parted {d t rest : Text} (hd : IsDate d) (ht : IsWord t)
    (hdigit : ∃ c u, t = c :: u ∧ c.isDigit = true) (hrest : EndsValue rest) :
    word (d ++ ' ' :: (t ++ rest)) = d ++ ' ' :: t := by
  obtain ⟨c, u, rfl, hc⟩ := hdigit
  have hdate := date?_append hd []
  rw [List.append_nil] at hdate
  have htake : (d ++ ' ' :: c :: (u ++ rest)).takeWhile isWordChar = d :=
    Text.takeWhile_run (isWord_date hd) rfl _
  have htime := (hrest.isRun ht).takeWhile_eq
  rw [List.cons_append] at htime ⊢
  simp only [word, htake, List.drop_left, hdate, hc, htime, beq_self_eq_true, Bool.and_self,
    if_true]

theorem IsTime.startsWithDigit {t : Text} (h : IsTime t) (rest : Text) :
    ∃ c u, t ++ rest = c :: u ∧ c.isDigit = true := by
  cases h with
  | mk ht hs =>
    cases ht with
    | @mk hour minute h m hh =>
      cases h with
      | nil => exact absurd rfl hh.denotes.ne_nil
      | cons c h =>
        refine ⟨c, _, rfl, ?_⟩
        rw [← Text.isDigitOf_ten]
        exact hh.denotes.isDigit c List.mem_cons_self

/-- A word that spells a scalar ends where the scalar does. -/
theorem word_of_spells {v : Scalar} {w rest : Text} (h : v.SpellsWord w)
    (hrest : EndsValue rest) : word (w ++ rest) = w := by
  cases h with
  | true => exact word_append (List.all_eq_true.1 (by decide)) hrest
  | false => exact word_append (List.all_eq_true.1 (by decide)) hrest
  | integer h => exact word_append (isWord_integer h) hrest
  | float h => exact word_append (isWord_float h) hrest
  | specialFloat h => exact word_append (isWord_specialFloat h) hrest
  | dateTime h =>
    cases h with
    | date hd => exact word_append (isWord_date hd) hrest
    | time ht => exact word_append (isWord_time ht) hrest
    | both hd hc ht ho =>
      have htime := (isWord_time ht).append (isWord_offset ho)
      rcases hc with rfl | rfl | rfl
      · exact word_append ((isWord_date hd).append (.cons rfl htime)) hrest
      · exact word_append ((isWord_date hd).append (.cons rfl htime)) hrest
      · rw [List.append_assoc, List.cons_append]
        exact word_append_parted hd htime (ht.startsWithDigit _) hrest

/-! ## Every scalar is read -/

/-- The text begins with a character of words. -/
def StartsWord (t : Text) : Prop := ∃ c u, t = c :: u ∧ isWordChar c = true

theorem IsWord.startsWord {w : Text} (h : IsWord w) (hne : w ≠ []) : StartsWord w := by
  cases w with
  | nil => exact absurd rfl hne
  | cons c w => exact ⟨c, w, rfl, h c List.mem_cons_self⟩

theorem startsWord_append {s : Text} (h : StartsWord s) (t : Text) : StartsWord (s ++ t) := by
  obtain ⟨c, u, rfl, hc⟩ := h
  exact ⟨c, u ++ t, rfl, hc⟩

theorem startsWord_of_spells {v : Scalar} {w : Text} (h : v.SpellsWord w) : StartsWord w := by
  cases h with
  | true => exact ⟨_, _, rfl, rfl⟩
  | false => exact ⟨_, _, rfl, rfl⟩
  | integer h =>
    refine (isWord_integer h).startsWord ?_
    cases h with
    | decimal sign _ _ ht => simp [ht.ne_nil]
    | based => exact List.cons_ne_nil _ _
  | float h =>
    refine (isWord_float h).startsWord ?_
    cases h with
    | mk sign _ _ hw _ _ _ => simp [hw.ne_nil]
  | specialFloat h =>
    refine (isWord_specialFloat h).startsWord ?_
    obtain ⟨sign, t, ht, rfl⟩ := h
    rcases ht with rfl | rfl <;> simp
  | dateTime h =>
    have hdate {d : Text} (hd : IsDate d) : StartsWord d :=
      (isWord_date hd).startsWord (by cases hd; simp)
    cases h with
    | date hd => exact hdate hd
    | time ht =>
      obtain ⟨c, u, heq, hc⟩ := ht.startsWithDigit []
      rw [List.append_nil] at heq
      exact ⟨c, u, heq, isWordChar_of_isDigit hc⟩
    | both hd => exact startsWord_append (hdate hd) _

/-- The characters with which a value begins that is no word. -/
def opensValue (c : Char) : Bool := c == '"' || c == '\x27' || c == '[' || c == '\x7b'

theorem not_isWordChar_of_opensValue {c : Char} (h : opensValue c = true) :
    isWordChar c = false := by
  simp only [opensValue, Bool.or_eq_true, beq_iff_eq] at h
  rcases h with ((rfl | rfl) | rfl) | rfl <;> rfl

theorem value?_of_word {depth : Nat} {t : Text} (h : StartsWord t) :
    value? depth t = (ofWord? (word t)).map (·, t.drop (word t).length) := by
  have hopen : ∀ c u, opensValue c = true → t ≠ c :: u := by
    rintro c u hc rfl
    obtain ⟨d, v, heq, hd⟩ := h
    rw [← (List.cons.inj heq).1, not_isWordChar_of_opensValue hc] at hd
    cases hd
  rw [value?]
  · exact fun u => hopen '"' u rfl
  · exact fun u => hopen '\x27' u rfl
  · exact fun u => hopen '[' u rfl
  · exact fun u => hopen '\x7b' u rfl

theorem value?_of_string? {depth : Nat} {t s rest : Text}
    (h : Quoted.string? t = some (s, rest)) : value? depth t = some (.string s, rest) := by
  have hquote : (∃ u, t = '"' :: u) ∨ ∃ u, t = '\x27' :: u := by
    unfold Quoted.string? at h
    split at h
    · exact .inl ⟨_, rfl⟩
    · exact .inl ⟨_, rfl⟩
    · exact .inr ⟨_, rfl⟩
    · exact .inr ⟨_, rfl⟩
    · cases h
  rcases hquote with ⟨u, rfl⟩ | ⟨u, rfl⟩
  · rw [value?, h, Option.map_some]
  · rw [value?, h, Option.map_some]

/-- **Every spelling of a scalar is read as the scalar**, up to its end, unless it is out of
range. -/
theorem value?_of_spells {v : Scalar} {w rest : Text} (h : v.Spells w) (hrest : EndsValue rest)
    (depth : Nat) : value? depth (w ++ rest) = (v.reading w).map (·, rest) := by
  cases h with
  | string h =>
    have hquote {q : Char} (hq : isBlank q = false ∧ q ≠ '#' ∧ q ≠ '\n' ∧ q ≠ '\r') :
        Quoted.NotAtStart q rest := by
      intro hhead
      rcases hrest.head hhead with h | h
      · rw [hq.1] at h
        cases h
      · simp [hq] at h
    exact value?_of_string? (Quoted.string?_of_spells h (hquote (by decide)) (hquote (by decide)))
  | word h =>
    rw [value?_of_word (startsWord_append (startsWord_of_spells h) rest), word_of_spells h hrest,
      ofWord?_of_spells h, List.drop_left]

/-- A spelling of a scalar does not begin with blanks. -/
theorem skipBlanks_of_spells {v : Scalar} {w : Text} (h : v.Spells w) (rest : Text) :
    skipBlanks (w ++ rest) = w ++ rest := by
  obtain ⟨c, u, rfl, hc⟩ : ∃ c u, w = c :: u ∧ isBlank c = false := by
    cases h with
    | string h =>
      have hquote (d : Quoted.Delimiter) : isBlank d.quote = false := by cases d <;> rfl
      cases h with
      | line => exact ⟨_, _, rfl, hquote _⟩
      | lines => exact ⟨_, _, rfl, hquote _⟩
    | word h =>
      obtain ⟨c, u, rfl, hc⟩ := startsWord_of_spells h
      refine ⟨c, u, rfl, ?_⟩
      rw [Bool.eq_false_iff]
      intro hblank
      rw [not_isWordChar_of_isBlank hblank] at hc
      cases hc
  exact skipBlanks_of_solid (by simpa using hc)

end TurtleMarkup.Toml
