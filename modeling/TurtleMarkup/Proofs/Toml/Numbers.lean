import TurtleMarkup.Proofs.LongestRun
import TurtleMarkup.Proofs.Numerals
import TurtleMarkup.Toml.Number

/-!
# Spellings of an integer

An integer may be spelled with or without a sign, with underscores between its
digits, and in other bases: `SpellsInteger n w` says that the word `w` is a spelling
of `n`.  Every spelling is read, and refused only if the integer does not fit
(`integer?_of_spells`).

Whether a word can be an integer, a float or a date is told by the character behind
its first digits (`kind`).
-/

namespace TurtleMarkup.Toml

open Text (Denotes IsRun isDigitOf)

/-! ## Rows of digits -/

/-- The digits stand in the text in their order, with single underscores between them or not. -/
inductive Parted : Text → Text → Prop where
  | single (c : Char) : Parted [c] [c]
  | next (c : Char) {ds t : Text} (h : Parted ds t) : Parted (c :: ds) (c :: t)
  | underscore (c : Char) {ds t : Text} (h : Parted ds t) : Parted (c :: ds) (c :: '_' :: t)

/-- The characters of a row of decimal digits. -/
def isRowChar (c : Char) : Bool := c.isDigit || c == '_'

namespace Parted

variable {ds t : Text}

/-- Digits need not be parted. -/
theorem self (h : ds ≠ []) : Parted ds ds := by
  induction ds with
  | nil => exact absurd rfl h
  | cons c ds ih =>
    cases ds with
    | nil => exact .single c
    | cons d ds => exact .next c (ih (List.cons_ne_nil d ds))

theorem head? (h : Parted ds t) : t.head? = ds.head? := by cases h <;> rfl

theorem ne_nil (h : Parted ds t) : t ≠ [] := by cases h <;> simp

/-- A text that begins with a row of digits begins with a digit. -/
theorem isDigitOf_head {base : Nat} (h : Parted ds t) (hds : ∀ c ∈ ds, isDigitOf base c = true)
    {rest : Text} {c : Char} (hc : (t ++ rest).head? = some c) : isDigitOf base c = true := by
  rw [List.head?_append, h.head?] at hc
  cases ds with
  | nil => cases h
  | cons d ds =>
    obtain rfl : d = c := by simpa using hc
    exact hds d List.mem_cons_self

theorem mem (h : Parted ds t) {c : Char} (hc : c ∈ t) : c ∈ ds ∨ c = '_' := by
  induction h with
  | single => exact .inl hc
  | next d _ ih => simpa [or_assoc] using (List.mem_cons.1 hc).imp_right ih
  | underscore d _ ih =>
    rcases List.mem_cons.1 hc with rfl | hc
    · exact .inl List.mem_cons_self
    · rcases List.mem_cons.1 hc with rfl | hc
      · exact .inr rfl
      · exact (ih hc).imp_left (List.mem_cons_of_mem d)

theorem isDigitRow (h : Parted ds t) {isDigit : Char → Bool} (hunderscore : isDigit '_' = false)
    (hds : ∀ c ∈ ds, isDigit c = true) : isDigitRow isDigit t = true := by
  induction h with
  | single c => exact hds c List.mem_cons_self
  | @next c ds t h ih =>
    rw [List.forall_mem_cons] at hds
    have hhead : ∀ u, t ≠ '_' :: u := by
      rintro u rfl
      have hmem := List.mem_of_head? (h.head?.symm.trans List.head?_cons)
      have hdigit := hds.2 _ hmem
      rw [hunderscore] at hdigit
      cases hdigit
    rw [Toml.isDigitRow, hds.1, ih hds.2]
    · rfl
    · exact h.ne_nil
    · exact hhead
  | underscore c _ ih =>
    rw [List.forall_mem_cons] at hds
    rw [Toml.isDigitRow, hds.1, ih hds.2]
    rfl

theorem digitsOf (h : Parted ds t) (hds : ∀ c ∈ ds, c ≠ '_') : digitsOf t = ds := by
  induction h with
  | single c => simpa [Toml.digitsOf] using hds
  | next c _ ih =>
    rw [List.forall_mem_cons] at hds
    simpa [Toml.digitsOf, hds.1] using ih hds.2
  | underscore c _ ih =>
    rw [List.forall_mem_cons] at hds
    simpa [Toml.digitsOf, hds.1] using ih hds.2

end Parted

theorem isDigitOf_underscore (base : Nat) : isDigitOf base '_' = false := rfl

theorem ne_underscore {base : Nat} {c : Char} (h : isDigitOf base c = true) : c ≠ '_' := by
  rintro rfl
  cases (isDigitOf_underscore base).symm.trans h

theorem natural?_of_parted {base n : Nat} {ds t : Text} (hds : Denotes base n ds)
    (ht : Parted ds t) : natural? base t = some n := by
  rw [natural?, if_pos (ht.isDigitRow (isDigitOf_underscore base) hds.isDigit),
    ht.digitsOf fun c hc => ne_underscore (hds.isDigit c hc), hds.number?]

/-- Zero is the only number whose digits begin with a zero. -/
def NoLeadingZero (ds : Text) : Prop := ds.head? = some '0' → ds = ['0']

theorem NoLeadingZero.eq_zero {ds t : Text} (hds : NoLeadingZero ds) (ht : Parted ds t)
    (h : t.head? = some '0') : t = ['0'] := by
  obtain rfl := hds (ht.head?.symm.trans h)
  cases ht with
  | single => rfl
  | next _ htail => cases htail
  | underscore _ htail => cases htail

theorem isTrimmed_of_parted {ds t : Text} (hds : NoLeadingZero ds) (ht : Parted ds t) :
    isTrimmed t = true := by
  by_cases h : t.head? = some '0'
  · rw [hds.eq_zero ht h]
    rfl
  · simp [isTrimmed, h]

theorem isRowChar_of_digit {c : Char} (h : isDigitOf 10 c = true) : isRowChar c = true := by
  rw [isRowChar, ← Text.isDigitOf_ten, h, Bool.true_or]

theorem isRun_parted {ds t tail : Text} (hds : ∀ c ∈ ds, isDigitOf 10 c = true)
    (ht : Parted ds t) (htail : ∀ c ∈ tail.head?, isRowChar c = false) :
    IsRun isRowChar t tail := by
  refine Text.isRun_of_head (fun c hc => ?_) htail
  rcases ht.mem hc with hmem | rfl
  · exact isRowChar_of_digit (hds c hmem)
  · rfl

/-! ## Signs -/

/-- What may stand in front of a number. -/
inductive Sign where
  | none
  | plus
  | minus

/-- The sign as it is written. -/
def Sign.text : Sign → Text
  | .none => []
  | .plus => ['+']
  | .minus => ['-']

/-- A number with the sign in front. -/
def Sign.apply : Sign → Nat → Int
  | .none, n => n
  | .plus, n => n
  | .minus, n => -n

/-- The text does not begin with a sign. -/
def Unsigned (t : Text) : Prop := t.head? ≠ some '+' ∧ t.head? ≠ some '-'

theorem unsigned_of_digit {base : Nat} {t : Text}
    (h : ∀ c, t.head? = some c → isDigitOf base c = true) : Unsigned t := by
  constructor
  · intro hhead
    cases h _ hhead
  · intro hhead
    cases h _ hhead

theorem unsigned_of_parted {base : Nat} {ds t : Text} (hds : ∀ c ∈ ds, isDigitOf base c = true)
    (ht : Parted ds t) (rest : Text) : Unsigned (t ++ rest) :=
  unsigned_of_digit fun _ hc => ht.isDigitOf_head hds hc

theorem skipSign_of_unsigned {t : Text} (h : Unsigned t) : skipSign t = t := by
  unfold skipSign
  split
  · exact absurd rfl h.1
  · exact absurd rfl h.2
  · rfl

theorem skipSign_append (sign : Sign) {t : Text} (h : Unsigned t) :
    skipSign (sign.text ++ t) = t := by
  cases sign with
  | none => exact skipSign_of_unsigned h
  | plus => rfl
  | minus => rfl

theorem signed?_of_unsigned {number? : Text → Option Nat} {t : Text} (h : Unsigned t) :
    signed? number? t = (number? t).map (Sign.apply .none) := by
  unfold signed?
  split
  · exact absurd rfl h.1
  · exact absurd rfl h.2
  · cases number? t <;> rfl

theorem signed?_append {number? : Text → Option Nat} (sign : Sign) {t : Text} (ht : Unsigned t) :
    signed? number? (sign.text ++ t) = (number? t).map sign.apply := by
  cases sign with
  | none => exact signed?_of_unsigned ht
  | plus => cases h : number? t <;> simp [Sign.text, signed?, h, Sign.apply]
  | minus => cases h : number? t <;> simp [Sign.text, signed?, h, Sign.apply]

/-- Behind a sign a number is read as without. -/
theorem isSome_signed? (number? : Text → Option Nat) (w : Text) :
    (signed? number? w).isSome = (number? (skipSign w)).isSome := by
  unfold signed? skipSign
  split <;> cases number? _ <;> simp

/-! ## Kinds of words -/

/-- The kinds of words, as far as their first characters tell. -/
inductive WordKind where
  | integer
  | float
  | dateTime
  | other

/-- The character behind the digits with which a word begins, its sign apart. -/
def mark (w : Text) : Option Char := ((skipSign w).dropWhile isRowChar).head?

/-- The characters with which a fraction or an exponent begins. -/
def pointMarks : List Char := ['.', 'e', 'E']

/-- The kind of a word with the given mark. -/
def kindOfMark (m : Option Char) : WordKind :=
  if m = none ∨ m ∈ ['x', 'o', 'b'].map some then .integer
  else if m ∈ ('i' :: 'n' :: pointMarks).map some then .float
  else if m ∈ ['-', ':'].map some then .dateTime
  else .other

/-- The kind of a word. -/
def kind (w : Text) : WordKind := kindOfMark (mark w)

theorem mark_append (sign : Sign) {row tail : Text} (h : IsRun isRowChar row tail)
    (hsign : Unsigned (row ++ tail)) : mark (sign.text ++ (row ++ tail)) = tail.head? := by
  rw [mark, skipSign_append sign hsign, h.dropWhile_eq]

theorem isRowChar_of_isDigitRow {t : Text} (h : isDigitRow (isDigitOf 10) t = true) :
    ∀ c ∈ t, isRowChar c = true := by
  fun_induction isDigitRow (isDigitOf 10) t with
  | case1 => simp
  | case2 c => simpa using isRowChar_of_digit h
  | case3 c t ih =>
    rw [Bool.and_eq_true] at h
    exact List.forall_mem_cons.2 ⟨isRowChar_of_digit h.1, List.forall_mem_cons.2 ⟨rfl, ih h.2⟩⟩
  | case4 c t _ _ ih =>
    rw [Bool.and_eq_true] at h
    exact List.forall_mem_cons.2 ⟨isRowChar_of_digit h.1, ih h.2⟩

/-! ## Integers -/

/-- The letters that introduce a number of another base, and the bases. -/
def bases : List (Char × Nat) := [('x', 16), ('o', 8), ('b', 2)]

/-- The word is a spelling of the integer. -/
inductive SpellsInteger : Int → Text → Prop where
  | decimal (sign : Sign) {n : Nat} {ds t : Text} (hds : Denotes 10 n ds)
    (hzero : NoLeadingZero ds) (ht : Parted ds t) : SpellsInteger (sign.apply n) (sign.text ++ t)
  | based {letter : Char} {base n : Nat} {ds t : Text} (hbase : (letter, base) ∈ bases)
    (hds : Denotes base n ds) (ht : Parted ds t) : SpellsInteger n ('0' :: letter :: t)

theorem spelledInteger?_of_spells {n : Int} {w : Text} (h : SpellsInteger n w) :
    spelledInteger? w = some n := by
  cases h with
  | @decimal sign n ds t hds hzero ht =>
    have hunsigned := unsigned_of_parted hds.isDigit ht []
    rw [List.append_nil] at hunsigned
    have hdecimal : decimal? t = some n := by
      rw [decimal?, if_pos (isTrimmed_of_parted hzero ht), natural?_of_parted hds ht]
    have hbased : ∀ c u, sign.text ++ t ≠ '0' :: c :: u := by
      intro c u heq
      cases sign with
      | none =>
        have heq : t = '0' :: c :: u := heq
        have hzero := hzero.eq_zero ht (by rw [heq]; rfl)
        simp [heq] at hzero
      | plus => cases heq
      | minus => cases heq
    rw [spelledInteger?, signed?_append sign hunsigned, hdecimal, Option.map_some]
    all_goals exact hbased _
  | @based letter base n ds t hbase hds ht =>
    have hnatural := natural?_of_parted hds ht
    simp only [bases, List.mem_cons, Prod.mk.injEq, List.not_mem_nil, or_false] at hbase
    rcases hbase with ⟨rfl, rfl⟩ | ⟨rfl, rfl⟩ | ⟨rfl, rfl⟩ <;>
      (rw [spelledInteger?, hnatural]; rfl)

/-- Every spelling of an integer is read as the integer, if it fits. -/
theorem integer?_of_spells {n : Int} {w : Text} (h : SpellsInteger n w) :
    integer? w = if fits n then some n else none := by
  rw [integer?, spelledInteger?_of_spells h, Option.filter_some]

theorem kind_of_spellsInteger {n : Int} {w : Text} (h : SpellsInteger n w) :
    kind w = .integer := by
  cases h with
  | decimal sign hds hzero ht =>
    have hmark := mark_append sign (isRun_parted hds.isDigit ht (by simp))
      (unsigned_of_parted hds.isDigit ht [])
    rw [List.append_nil] at hmark
    rw [kind, hmark]
    rfl
  | based hbase =>
    simp only [bases, List.mem_cons, Prod.mk.injEq, List.not_mem_nil, or_false] at hbase
    rcases hbase with ⟨rfl, -⟩ | ⟨rfl, -⟩ | ⟨rfl, -⟩ <;> rfl

theorem kind_of_spelledInteger? {w : Text} (h : (spelledInteger? w).isSome = true) :
    kind w = .integer := by
  unfold spelledInteger? at h
  split at h
  · rfl
  · rfl
  · rfl
  · rw [isSome_signed?] at h
    have hrow : isDigitRow (isDigitOf 10) (skipSign w) = true := by
      unfold decimal? natural? at h
      split_ifs at h with htrim hrow
      · exact hrow
      all_goals cases h
    rw [kind, mark, List.dropWhile_eq_nil_iff.2 (isRowChar_of_isDigitRow hrow)]
    rfl

end TurtleMarkup.Toml
