import TurtleMarkup.Proofs.Toml.Numbers

/-!
# Spellings of a float

A float has a fraction, an exponent or both.  `SpellsFloat m e w` says that the word
`w` is a spelling of a float of size `m * 10 ^ e`.  Every spelling is read, and
refused only if the size is not below `floatLimit` (`isFloat_of_spells`).

The reader compares no more of a number than the digits in front of its point, once
leading zeros are gone, and gives up early on numbers that are far too large.  That
neither changes the answer is `Decimal.isFinite_iff`.
-/

namespace TurtleMarkup.Toml

open Text (Denotes IsRun value isDigitOf)

/-! ## The size of a float -/

/-- `m * 10 ^ e` is below the limit. -/
def IsBelow (limit m : Nat) (e : Int) : Prop := m * 10 ^ e.toNat < limit * 10 ^ (-e).toNat

instance (limit m : Nat) (e : Int) : Decidable (IsBelow limit m e) := Nat.decLt _ _

theorem isBelow_of_lt {limit m a b : Nat} {e : Int} (hm : m < 10 ^ a) (hlimit : 10 ^ b ≤ limit)
    (h : a + e ≤ b) : IsBelow limit m e :=
  calc m * 10 ^ e.toNat
      < 10 ^ a * 10 ^ e.toNat := Nat.mul_lt_mul_of_pos_right hm (Nat.pow_pos (by decide))
    _ = 10 ^ (a + e.toNat) := (pow_add 10 _ _).symm
    _ ≤ 10 ^ (b + (-e).toNat) := Nat.pow_le_pow_right (by decide) (by omega)
    _ = 10 ^ b * 10 ^ (-e).toNat := pow_add 10 _ _
    _ ≤ limit * 10 ^ (-e).toNat := Nat.mul_le_mul_right _ hlimit

theorem not_isBelow_of_le {limit m a b : Nat} {e : Int} (hm : 10 ^ a ≤ m) (hlimit : limit ≤ 10 ^ b)
    (h : b ≤ a + e) : ¬ IsBelow limit m e := by
  apply Nat.not_lt_of_le
  calc limit * 10 ^ (-e).toNat
      ≤ 10 ^ b * 10 ^ (-e).toNat := Nat.mul_le_mul_right _ hlimit
    _ = 10 ^ (b + (-e).toNat) := (pow_add 10 _ _).symm
    _ ≤ 10 ^ (a + e.toNat) := Nat.pow_le_pow_right (by decide) (by omega)
    _ = 10 ^ a * 10 ^ e.toNat := pow_add 10 _ _
    _ ≤ m * 10 ^ e.toNat := Nat.mul_le_mul_right _ hm

/-- Only the digits in front of the point decide whether a number is below a whole limit. -/
theorem value_rightpad_lt_iff {ds : Text} (hds : ∀ c ∈ ds, isDigitOf 10 c = true)
    (limit point : Nat) :
    value 10 ((ds.take point).rightpad point '0') < limit ↔
      IsBelow limit (value 10 ds) (point - ds.length) := by
  rw [List.rightpad, Text.value_append, Text.value_replicate_zero, List.length_replicate,
    List.length_take, IsBelow, Nat.add_zero]
  rcases Nat.le_total point ds.length with hle | hle
  · -- the fraction is less than one unit of the whole part
    have hsplit : value 10 ds
        = value 10 (ds.take point) * 10 ^ (ds.length - point) + value 10 (ds.drop point) := by
      rw [← List.length_drop, ← Text.value_append, List.take_append_drop]
    have hfraction : value 10 (ds.drop point) < 10 ^ (ds.length - point) := by
      rw [← List.length_drop]
      exact Text.value_lt fun c hc => hds c (List.mem_of_mem_drop hc)
    have hplus : ((point : Int) - ds.length).toNat = 0 := by omega
    have hminus : (-((point : Int) - ds.length)).toNat = ds.length - point := by omega
    have hpad : point - min point ds.length = 0 := by omega
    have hpos : 0 < 10 ^ (ds.length - point) := Nat.pow_pos (by decide)
    have hdiv : value 10 ds / 10 ^ (ds.length - point) = value 10 (ds.take point) := by
      rw [hsplit, Nat.mul_comm, Nat.mul_add_div hpos, Nat.div_eq_of_lt hfraction, Nat.add_zero]
    rw [hplus, hminus, hpad, pow_zero, mul_one, mul_one, ← Nat.div_lt_iff_lt_mul hpos, hdiv]
  · have hplus : ((point : Int) - ds.length).toNat = point - ds.length := by omega
    have hminus : (-((point : Int) - ds.length)).toNat = 0 := by omega
    have hpad : point - min point ds.length = point - ds.length := by omega
    rw [hplus, hminus, hpad, List.take_of_length_le hle, pow_zero, mul_one]

theorem floatLimit_le : floatLimit ≤ 10 ^ 309 := by decide +kernel

theorem one_le_floatLimit : 10 ^ 0 ≤ floatLimit := by decide +kernel

/-- Digits that do not begin with a zero make a finite number exactly if it is below the limit. -/
theorem isFinite_trimmed_iff {ds : Text} (hds : ∀ c ∈ ds, isDigitOf 10 c = true)
    (hzero : ds.head? ≠ some '0') (point : Int) :
    (ds = [] ∨ point ≤ 309 ∧
        (Text.number? 10 ((ds.take point.toNat).rightpad point.toNat '0')).getD 0 < floatLimit) ↔
      IsBelow floatLimit (value 10 ds) (point - ds.length) := by
  have hpadded : ∀ c ∈ (ds.take point.toNat).rightpad point.toNat '0', isDigitOf 10 c = true := by
    intro c hc
    rw [List.rightpad, List.mem_append] at hc
    rcases hc with hc | hc
    · exact hds c (List.mem_of_mem_take hc)
    · rw [List.eq_of_mem_replicate hc]
      rfl
  rw [Text.number?_getD hpadded, value_rightpad_lt_iff hds]
  cases ds with
  | nil =>
    refine iff_of_true (.inl rfl) ?_
    show 0 * _ < floatLimit * _
    rw [Nat.zero_mul]
    exact Nat.mul_pos one_le_floatLimit (Nat.pow_pos (by decide))
  | cons c ds =>
    have hlt := Text.value_lt hds
    have hc := Text.digit_pos (hds c List.mem_cons_self) (by simpa using hzero)
    have hle := Text.le_value 10 hc ds
    rcases Int.lt_or_le point 0 with hneg | hnonneg
    · -- the number is less than one
      have hbelow {e : Int} (he : e ≤ -(c :: ds).length) :
          IsBelow floatLimit (value 10 (c :: ds)) e :=
        isBelow_of_lt hlt one_le_floatLimit (by omega)
      exact iff_of_true (.inr ⟨by omega, hbelow (by omega)⟩) (hbelow (by omega))
    rw [Int.toNat_of_nonneg hnonneg]
    rcases Int.lt_or_le 309 point with hlarge | hsmall
    · -- the number has more than 309 digits in front of the point
      have hnot := not_isBelow_of_le (e := point - (c :: ds).length) hle floatLimit_le (by
        rw [List.length_cons]
        omega)
      refine iff_of_false ?_ hnot
      rintro (hnil | ⟨hsmall, -⟩)
      · cases hnil
      · omega
    · simp [hsmall]

/-- A decimal number is finite exactly if it is below the limit. -/
theorem Decimal.isFinite_iff {m : Nat} {ds : Text} (hds : Denotes 10 m ds) (point : Int) :
    Decimal.isFinite ⟨ds, point⟩ = true ↔ IsBelow floatLimit m (point - ds.length) := by
  have hsuffix := List.dropWhile_suffix (l := ds) (· == '0')
  have hlength := hsuffix.length_le
  have hzero : (ds.dropWhile (· == '0')).head? ≠ some '0' := by
    intro h
    have hnot := List.head?_dropWhile_not (· == '0') ds
    rw [h] at hnot
    cases hnot
  have htrimmed := isFinite_trimmed_iff (fun c hc => hds.isDigit c (hsuffix.mem hc)) hzero
    (point - ((ds.length - (ds.dropWhile (· == '0')).length : Nat) : Int))
  rw [Text.value_dropWhile_zero, hds.value_eq] at htrimmed
  have hexponent : point - ((ds.length - (ds.dropWhile (· == '0')).length : Nat) : Int)
      - (ds.dropWhile (· == '0')).length = point - ds.length := by omega
  rw [hexponent] at htrimmed
  rw [← htrimmed]
  simp [Decimal.isFinite]

/-! ## Floats -/

/-- A point and the digits behind it, or nothing. -/
inductive SpellsFraction : Text → Text → Prop where
  | none : SpellsFraction [] []
  | some {ds t : Text} (ht : Parted ds t) : SpellsFraction ds ('.' :: t)

/-- The exponent of a float, or nothing. -/
inductive SpellsExponent : Int → Text → Prop where
  | none : SpellsExponent 0 []
  | some {letter : Char} (sign : Sign) {n : Nat} {ds t : Text}
    (hletter : letter = 'e' ∨ letter = 'E') (hds : Denotes 10 n ds) (ht : Parted ds t) :
    SpellsExponent (sign.apply n) (letter :: (sign.text ++ t))

/-- The word is a spelling of a float of size `m * 10 ^ e`. -/
inductive SpellsFloat : Nat → Int → Text → Prop where
  | mk (sign : Sign) {m : Nat} {e : Int} {whole fraction w f x : Text}
    (hdigits : Denotes 10 m (whole ++ fraction)) (hzero : NoLeadingZero whole)
    (hw : Parted whole w) (hf : SpellsFraction fraction f) (hx : SpellsExponent e x)
    (hne : f ++ x ≠ []) :
    SpellsFloat m (e - fraction.length) (sign.text ++ (w ++ (f ++ x)))

/-- The word is a spelling of infinity, or says that there is no number. -/
def IsSpecialFloat (w : Text) : Prop :=
  ∃ (sign : Sign) (t : Text), (t = "inf".toList ∨ t = "nan".toList) ∧ w = sign.text ++ t

theorem SpellsExponent.head? {e : Int} {x : Text} (h : SpellsExponent e x) :
    ∀ c ∈ x.head?, c = 'e' ∨ c = 'E' := by
  cases h with
  | none => simp
  | some sign hletter => simpa using hletter

theorem head?_floatTail {fraction f x : Text} {e : Int} (hf : SpellsFraction fraction f)
    (hx : SpellsExponent e x) : ∀ c ∈ (f ++ x).head?, c ∈ pointMarks := by
  cases hf with
  | none =>
    intro c hc
    exact List.mem_cons_of_mem '.' (by simpa using hx.head? c hc)
  | some ht => simp [pointMarks]

/-- The row of digits in front of a fraction or an exponent ends there. -/
theorem isRowChar_floatTail {fraction f x : Text} {e : Int} (hf : SpellsFraction fraction f)
    (hx : SpellsExponent e x) : ∀ c ∈ (f ++ x).head?, isRowChar c = false := by
  intro c hc
  have hmark := head?_floatTail hf hx c hc
  simp only [pointMarks, List.mem_cons, List.not_mem_nil, or_false] at hmark
  rcases hmark with rfl | rfl | rfl <;> rfl

theorem isDigitOf_whole {m : Nat} {whole fraction : Text} (h : Denotes 10 m (whole ++ fraction)) :
    ∀ c ∈ whole, isDigitOf 10 c = true :=
  fun c hc => h.isDigit c (List.mem_append_left fraction hc)

theorem exponent?_of_spells {e : Int} {x : Text} (h : SpellsExponent e x) (hne : x ≠ []) :
    exponent? x = some e := by
  cases h with
  | none => exact absurd rfl hne
  | @some letter sign n ds t hletter hds ht =>
    have hsign := unsigned_of_parted hds.isDigit ht []
    rw [List.append_nil] at hsign
    have hread : signed? (natural? 10) (sign.text ++ t) = some (sign.apply n) := by
      rw [signed?_append sign hsign, natural?_of_parted hds ht, Option.map_some]
    rcases hletter with rfl | rfl
    · exact hread
    · exact hread

theorem isDigitRow_of_parted {ds t : Text} (hds : ∀ c ∈ ds, isDigitOf 10 c = true)
    (ht : Parted ds t) : isDigitRow Char.isDigit t = true := by
  have hdigit : isDigitOf 10 = Char.isDigit := funext Text.isDigitOf_ten
  rw [← hdigit]
  exact ht.isDigitRow (isDigitOf_underscore 10) hds

theorem floatTail?_of_spells {fraction f x : Text} {e : Int}
    (hds : ∀ c ∈ fraction, isDigitOf 10 c = true) (hf : SpellsFraction fraction f)
    (hx : SpellsExponent e x) (hne : f ++ x ≠ []) : floatTail? (f ++ x) = some (fraction, e) := by
  cases hf with
  | none =>
    have hpoint : ∀ u, x ≠ '.' :: u := by
      rintro u rfl
      rcases hx.head? '.' rfl with h | h <;> cases h
    rw [List.nil_append] at hne ⊢
    rw [floatTail?, exponent?_of_spells hx hne, Option.map_some]
    exact hpoint
  | @some ds t ht =>
    have hrow : leadingRow (t ++ x) = t :=
      (isRun_parted hds ht (isRowChar_floatTail .none hx)).takeWhile_eq
    have hexponent : (if x.isEmpty = true then some 0 else exponent? x) = some e := by
      cases hx with
      | none => rfl
      | some sign hletter hds ht =>
        exact exponent?_of_spells (.some sign hletter hds ht) (List.cons_ne_nil _ _)
    rw [List.cons_append, floatTail?]
    simp only [hrow, List.drop_left, hexponent, if_pos (isDigitRow_of_parted hds ht),
      Option.map_some, ht.digitsOf fun c hc => ne_underscore (hds c hc)]

theorem fractional?_of_spells {m : Nat} {e : Int} {whole fraction w f x : Text}
    (hdigits : Denotes 10 m (whole ++ fraction)) (hzero : NoLeadingZero whole)
    (hw : Parted whole w) (hf : SpellsFraction fraction f) (hx : SpellsExponent e x)
    (hne : f ++ x ≠ []) :
    fractional? (w ++ (f ++ x)) = some ⟨whole ++ fraction, whole.length + e⟩ := by
  have hwhole := isDigitOf_whole hdigits
  have hfraction : ∀ c ∈ fraction, isDigitOf 10 c = true := fun c hc =>
    hdigits.isDigit c (List.mem_append_right _ hc)
  have hrow : leadingRow (w ++ (f ++ x)) = w :=
    (isRun_parted hwhole hw (isRowChar_floatTail hf hx)).takeWhile_eq
  have hcond : (isTrimmed w && isDigitRow Char.isDigit w) = true := by
    rw [isTrimmed_of_parted hzero hw, isDigitRow_of_parted hwhole hw]
    rfl
  simp only [fractional?, hrow, if_pos hcond, List.drop_left,
    floatTail?_of_spells hfraction hf hx hne, Option.map_some,
    hw.digitsOf fun c hc => ne_underscore (hwhole c hc)]

/-- Every spelling of a float is read as a float, if its size is below the limit. -/
theorem isFloat_of_spells {m : Nat} {e : Int} {w : Text} (h : SpellsFloat m e w) :
    isFloat w = decide (IsBelow floatLimit m e) := by
  cases h with
  | @mk sign m e whole fraction w f x hdigits hzero hw hf hx hne =>
    have hwhole := isDigitOf_whole hdigits
    have hinf : w ++ (f ++ x) ≠ ['i', 'n', 'f'] := fun heq => by
      cases hw.isDigitOf_head hwhole (congrArg List.head? heq)
    have hnan : w ++ (f ++ x) ≠ ['n', 'a', 'n'] := fun heq => by
      cases hw.isDigitOf_head hwhole (congrArg List.head? heq)
    have hexponent : (whole.length : Int) + e - (whole ++ fraction).length
        = e - fraction.length := by
      rw [List.length_append]
      omega
    have hfinite := Decimal.isFinite_iff hdigits (whole.length + e)
    rw [hexponent] at hfinite
    rw [isFloat, skipSign_append sign (unsigned_of_parted hwhole hw _),
      fractional?_of_spells hdigits hzero hw hf hx hne, Bool.eq_iff_iff, decide_eq_true_eq,
      ← hfinite]
    simp [hinf, hnan]

theorem isFloat_of_isSpecialFloat {w : Text} (h : IsSpecialFloat w) : isFloat w = true := by
  obtain ⟨sign, t, ht, rfl⟩ := h
  rcases ht with rfl | rfl <;> cases sign <;> rfl

theorem kindOfMark_of_mem {c : Char} (h : c ∈ pointMarks) : kindOfMark (some c) = .float := by
  simp only [pointMarks, List.mem_cons, List.not_mem_nil, or_false] at h
  rcases h with rfl | rfl | rfl <;> rfl

theorem kind_of_spellsFloat {m : Nat} {e : Int} {w : Text} (h : SpellsFloat m e w) :
    kind w = .float := by
  cases h with
  | @mk sign m e whole fraction w f x hdigits hzero hw hf hx hne =>
    have hwhole := isDigitOf_whole hdigits
    have hrun := isRun_parted hwhole hw (isRowChar_floatTail hf hx)
    rw [kind, mark_append sign hrun (unsigned_of_parted hwhole hw _)]
    cases htail : f ++ x with
    | nil => exact absurd htail hne
    | cons c u => exact kindOfMark_of_mem (head?_floatTail hf hx c (by simp [htail]))

theorem head?_of_floatTail? {t : Text} (h : (floatTail? t).isSome = true) :
    ∃ c ∈ pointMarks, t.head? = some c := by
  unfold floatTail? at h
  split at h
  · exact ⟨'.', by simp [pointMarks], rfl⟩
  · rw [Option.isSome_map] at h
    unfold exponent? at h
    split at h
    · exact ⟨'e', by simp [pointMarks], rfl⟩
    · exact ⟨'E', by simp [pointMarks], rfl⟩
    · cases h

theorem kind_of_isFloat {w : Text} (h : isFloat w = true) : kind w = .float := by
  unfold kind mark
  simp only [isFloat, Bool.or_eq_true, beq_iff_eq] at h
  rcases h with (h | h) | h
  · rw [h]
    rfl
  · rw [h]
    rfl
  · generalize skipSign w = t at h
    have hdrop : t.drop (leadingRow t).length = t.dropWhile isRowChar := by
      have happend : leadingRow t ++ t.dropWhile isRowChar = t := List.takeWhile_append_dropWhile
      exact (congrArg (List.drop _) happend.symm).trans List.drop_left
    have hsome : (floatTail? (t.dropWhile isRowChar)).isSome = true := by
      simp only [fractional?, hdrop] at h
      split_ifs at h
      · cases htail : floatTail? (t.dropWhile isRowChar) with
        | none => simp [htail] at h
        | some r => rfl
      · cases h
    obtain ⟨c, hc, hhead⟩ := head?_of_floatTail? hsome
    rw [hhead, kindOfMark_of_mem hc]

end TurtleMarkup.Toml
