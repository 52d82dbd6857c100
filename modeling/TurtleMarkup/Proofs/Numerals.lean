import Mathlib.Algebra.Ring.Nat
import Mathlib.Data.List.Induction
import TurtleMarkup.Text.Digits

/-!
# Numerals are read back

A row of digits of a base is read as its value (`Text.number?_eq_value`), and
every way in which this library writes a number has that number as its value:
the shortest row of digits, that row behind any number of zeros and with letters
in either case (`Text.IsNumeral`), and a row of a given width.
-/

namespace TurtleMarkup.Text

/-- The number that a row of digits spells; no digits spell zero. -/
def value (base : Nat) (t : Text) : Nat :=
  t.foldl (fun n c => n * base + (digitValue? c).getD 0) 0

theorem value_concat (base : Nat) (t : Text) (c : Char) :
    value base (t ++ [c]) = value base t * base + (digitValue? c).getD 0 := by
  rw [value, List.foldl_append]
  rfl

theorem value_zero_cons (base : Nat) (t : Text) : value base ('0' :: t) = value base t := by
  have hzero : (digitValue? '0').getD 0 = 0 := by decide
  rw [value, List.foldl_cons, hzero, Nat.zero_mul]
  rfl

theorem value_replicate_append (base zeros : Nat) (t : Text) :
    value base (List.replicate zeros '0' ++ t) = value base t := by
  induction zeros with
  | zero => rfl
  | succ zeros ih => rw [List.replicate_succ, List.cons_append, value_zero_cons, ih]

theorem value_append (base : Nat) (s t : Text) :
    value base (s ++ t) = value base s * base ^ t.length + value base t := by
  induction t using List.reverseRecOn with
  | nil =>
    rw [List.append_nil, List.length_nil, pow_zero, mul_one]
    rfl
  | append_singleton t c ih =>
    rw [← List.append_assoc, value_concat, value_concat, ih, List.length_append,
      List.length_singleton, pow_succ, add_mul, mul_assoc, add_assoc]

theorem value_replicate_zero (base zeros : Nat) : value base (List.replicate zeros '0') = 0 := by
  have h := value_replicate_append base zeros []
  rwa [List.append_nil] at h

theorem value_dropWhile_zero (base : Nat) (t : Text) :
    value base (t.dropWhile (· == '0')) = value base t := by
  induction t with
  | nil => rfl
  | cons c t ih =>
    by_cases hc : c = '0'
    · rw [hc, List.dropWhile_cons_of_pos (by decide), ih, value_zero_cons]
    · rw [List.dropWhile_cons_of_neg (by simpa using hc)]

/-- Digits of a base are below it. -/
theorem digit_lt {base : Nat} {c : Char} (h : isDigitOf base c = true) :
    (digitValue? c).getD 0 < base := by
  unfold isDigitOf at h
  cases hd : digitValue? c with
  | none => simp [hd] at h
  | some d => simpa [hd] using h

theorem isDigit_iff {c : Char} : c.isDigit = true ↔ 48 ≤ c.toNat ∧ c.toNat ≤ 57 := by
  simp only [Char.isDigit, Bool.and_eq_true, decide_eq_true_eq, ge_iff_le, UInt32.le_iff_toNat_le]
  rfl

theorem isDigitOf_ten (c : Char) : isDigitOf 10 c = c.isDigit := by
  unfold isDigitOf digitValue?
  split_ifs with hdigit
  · have hrange := isDigit_iff.1 hdigit
    have hzero : '0'.toNat = 48 := rfl
    simp only [hdigit, Option.any_some, decide_eq_true_eq]
    omega
  all_goals simp [hdigit]

/-- Only one digit is zero. -/
theorem digit_pos {base : Nat} {c : Char} (h : isDigitOf base c = true) (hc : c ≠ '0') :
    0 < (digitValue? c).getD 0 := by
  unfold isDigitOf digitValue? at h
  unfold digitValue?
  split_ifs at h ⊢ with hdigit
  · have hrange := isDigit_iff.1 hdigit
    have hne : c.toNat ≠ 48 := fun heq => hc (Char.toNat_inj.1 heq)
    show 0 < c.toNat - 48
    omega
  · exact Nat.succ_pos _
  · exact Nat.succ_pos _
  · cases h

theorem value_lt {base : Nat} {t : Text} (h : ∀ c ∈ t, isDigitOf base c = true) :
    value base t < base ^ t.length := by
  induction t using List.reverseRecOn with
  | nil => simp [value]
  | append_singleton t c ih =>
    have hc := digit_lt (h c (by simp))
    have ht := ih fun d hd => h d (List.mem_append_left _ hd)
    rw [value_concat, List.length_append, List.length_singleton, pow_succ]
    calc value base t * base + (digitValue? c).getD 0
        < value base t * base + base := by omega
      _ = (value base t + 1) * base := (Nat.succ_mul _ _).symm
      _ ≤ base ^ t.length * base := Nat.mul_le_mul_right base ht

/-- A row of digits is at least as great as its length tells, unless it begins with a zero. -/
theorem le_value (base : Nat) {c : Char} (hc : 0 < (digitValue? c).getD 0) (t : Text) :
    base ^ t.length ≤ value base (c :: t) := by
  have hvalue : value base [c] = (digitValue? c).getD 0 := by simp [value]
  rw [← List.singleton_append, value_append, hvalue]
  calc base ^ t.length ≤ (digitValue? c).getD 0 * base ^ t.length := Nat.le_mul_of_pos_left _ hc
    _ ≤ _ := Nat.le_add_right _ _

/-- One or more digits of a base are read as their value. -/
theorem number?_eq_value {base : Nat} {t : Text} (hne : t ≠ [])
    (h : ∀ c ∈ t, isDigitOf base c = true) : number? base t = some (value base t) := by
  have hcond : (!t.isEmpty && t.all (isDigitOf base)) = true := by
    rw [Bool.and_eq_true]
    exact ⟨by simpa using hne, List.all_eq_true.2 h⟩
  rw [number?, if_pos hcond, value]

theorem number?_getD {base : Nat} {t : Text} (h : ∀ c ∈ t, isDigitOf base c = true) :
    (number? base t).getD 0 = value base t := by
  by_cases hne : t = []
  · rw [hne]
    rfl
  · rw [number?_eq_value hne h, Option.getD_some]

/-- One or more digits of a base whose value is `n`. -/
structure Denotes (base n : Nat) (t : Text) : Prop where
  ne_nil : t ≠ []
  isDigit : ∀ c ∈ t, isDigitOf base c = true
  value_eq : value base t = n

theorem Denotes.number? {base n : Nat} {t : Text} (h : Denotes base n t) :
    Text.number? base t = some n := by
  rw [number?_eq_value h.ne_nil h.isDigit, h.value_eq]

theorem isDigitOf_of_digitValue? {base d : Nat} {c : Char} (hc : digitValue? c = some d)
    (hd : d < base) : isDigitOf base c = true := by
  rw [isDigitOf, hc]
  exact decide_eq_true hd

/-! ## The shortest row -/

theorem digitValue?_digitChar : ∀ d < 16, digitValue? d.digitChar = some d := by decide

theorem isDigitOf_of_mem_toDigits {base n : Nat} (h₁ : 1 < base) (h₁₆ : base ≤ 16) {c : Char}
    (hc : c ∈ base.toDigits n) : isDigitOf base c = true := by
  induction n using Nat.strongRecOn with
  | ind n ih =>
    have hdigit : ∀ d < base, isDigitOf base d.digitChar = true := fun d hd =>
      isDigitOf_of_digitValue? (digitValue?_digitChar d (by omega)) hd
    by_cases hn : n < base
    · rw [Nat.toDigits_of_lt_base hn, List.mem_singleton] at hc
      rw [hc]
      exact hdigit n hn
    · rw [Nat.toDigits_of_base_le h₁ (by omega), List.mem_append, List.mem_singleton] at hc
      rcases hc with hc | rfl
      · exact ih (n / base) (Nat.div_lt_self (by omega) h₁) hc
      · exact hdigit _ (Nat.mod_lt n (by omega))

theorem value_toDigits {base : Nat} (h₁ : 1 < base) (h₁₆ : base ≤ 16) (n : Nat) :
    value base (base.toDigits n) = n := by
  induction n using Nat.strongRecOn with
  | ind n ih =>
    have hdigit : ∀ d < base, (digitValue? d.digitChar).getD 0 = d := by
      intro d hd
      rw [digitValue?_digitChar d (by omega), Option.getD_some]
    by_cases hn : n < base
    · rw [Nat.toDigits_of_lt_base hn, ← List.nil_append [_], value_concat, hdigit n hn]
      show 0 * base + n = n
      omega
    · rw [Nat.toDigits_of_base_le h₁ (by omega), value_concat,
        ih (n / base) (Nat.div_lt_self (by omega) h₁), hdigit _ (Nat.mod_lt n (by omega))]
      exact Nat.div_add_mod' n base

/-! ## Leading zeros and capitals -/

/-- The digits of `n` behind any number of zeros, where letters among the digits may be small or
capital. -/
def IsNumeral (base n : Nat) (t : Text) : Prop :=
  ∃ zeros, t.map Char.toLower = List.replicate zeros '0' ++ base.toDigits n

theorem toLower_of_le {c : Char} (h : 128 ≤ c.toNat) : c.toLower = c := by
  have hupper : ¬ (c.val ≥ 'A'.val ∧ c.val ≤ 'Z'.val) := by
    rintro ⟨-, hz⟩
    have hz : c.toNat ≤ 90 := UInt32.le_iff_toNat_le.1 hz
    omega
  exact dif_neg hupper

/-- A small letter and its capital are the same digit. -/
theorem digitValue?_toLower (c : Char) : digitValue? c.toLower = digitValue? c := by
  have hall : ∀ n < 128, digitValue? (Char.ofNat n).toLower = digitValue? (Char.ofNat n) := by
    decide
  by_cases h : c.toNat < 128
  · have hc := hall c.toNat h
    rwa [Char.ofNat_toNat] at hc
  · rw [toLower_of_le (by omega)]

theorem value_map_toLower (base : Nat) (t : Text) :
    value base (t.map Char.toLower) = value base t := by
  simp only [value, List.foldl_map, digitValue?_toLower]

theorem IsNumeral.isDigitOf {base n : Nat} {t : Text} (h : IsNumeral base n t) (h₁ : 1 < base)
    (h₁₆ : base ≤ 16) {c : Char} (hc : c ∈ t) : isDigitOf base c = true := by
  obtain ⟨zeros, hzeros⟩ := h
  have hlower : c.toLower ∈ List.replicate zeros '0' ++ base.toDigits n := by
    rw [← hzeros]
    exact List.mem_map_of_mem hc
  have hdigit : Text.isDigitOf base c.toLower = true := by
    rcases List.mem_append.1 hlower with hmem | hmem
    · rw [List.eq_of_mem_replicate hmem]
      exact isDigitOf_of_digitValue? (d := 0) (by decide) (by omega)
    · exact isDigitOf_of_mem_toDigits h₁ h₁₆ hmem
  rwa [Text.isDigitOf, digitValue?_toLower] at hdigit

theorem IsNumeral.ne_nil {base n : Nat} {t : Text} (h : IsNumeral base n t) : t ≠ [] := by
  rintro rfl
  obtain ⟨zeros, hzeros⟩ := h
  have hnil := (List.append_eq_nil_iff.1 hzeros.symm).2
  exact Nat.toDigits_ne_nil hnil

theorem IsNumeral.number? {base n : Nat} {t : Text} (h : IsNumeral base n t) (h₁ : 1 < base)
    (h₁₆ : base ≤ 16) : Text.number? base t = some n := by
  obtain ⟨zeros, hzeros⟩ := id h
  rw [number?_eq_value h.ne_nil fun c hc => h.isDigitOf h₁ h₁₆ hc, ← value_map_toLower, hzeros,
    value_replicate_append, value_toDigits h₁ h₁₆]

/-! ## Rows of a given width -/

theorem digitValue?_hexDigit : ∀ d < 16, digitValue? (hexDigit d) = some d := by decide

theorem length_hexDigits (width n : Nat) : (hexDigits width n).length = width := by
  induction width generalizing n with
  | zero => rfl
  | succ width ih => rw [hexDigits, List.length_append, ih, List.length_singleton]

theorem isDigitOf_of_mem_hexDigits {width n : Nat} {c : Char} (hc : c ∈ hexDigits width n) :
    isDigitOf 16 c = true := by
  induction width generalizing n with
  | zero => cases hc
  | succ width ih =>
    rw [hexDigits, List.mem_append, List.mem_singleton] at hc
    rcases hc with hc | rfl
    · exact ih hc
    · have hlt : n % 16 < 16 := Nat.mod_lt n (by decide)
      exact isDigitOf_of_digitValue? (digitValue?_hexDigit _ hlt) hlt

theorem value_hexDigits {width n : Nat} (h : n < 16 ^ width) : value 16 (hexDigits width n) = n := by
  induction width generalizing n with
  | zero =>
    obtain rfl : n = 0 := by simpa using h
    rfl
  | succ width ih =>
    have hdiv : n / 16 < 16 ^ width := by
      rw [pow_succ] at h
      omega
    rw [hexDigits, value_concat, ih hdiv, digitValue?_hexDigit _ (Nat.mod_lt n (by decide)),
      Option.getD_some]
    exact Nat.div_add_mod' n 16

theorem denotes_hexDigits {width n : Nat} (hpos : 0 < width) (h : n < 16 ^ width) :
    Denotes 16 n (hexDigits width n) where
  ne_nil := by
    rw [← List.length_pos_iff, length_hexDigits]
    exact hpos
  isDigit _ hc := isDigitOf_of_mem_hexDigits hc
  value_eq := value_hexDigits h

end TurtleMarkup.Text
