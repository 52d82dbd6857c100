import TurtleMarkup.Text.Digits

/-!
# Numbers in TOML

Which words are integers and which are floats.  Digits may be parted by single underscores, and a
decimal number has no leading zero.  An integer fits into 128 bits, be it with a sign bit or
without.  A float has a finite neighbour among the floats of 64 bits, unless infinity is what it
says.
-/

namespace TurtleMarkup.Toml

/-- One or more digits, with single underscores between them. -/
def isDigitRow (isDigit : Char → Bool) : Text → Bool
  | [] => false
  | [c] => isDigit c
  | c :: '_' :: t => isDigit c && isDigitRow isDigit t
  | c :: t => isDigit c && isDigitRow isDigit t

/-- The digits of a row, without the underscores. -/
def digitsOf (row : Text) : Text := row.filter (· != '_')

/-- The number that a row of digits spells. -/
def natural? (base : Nat) (row : Text) : Option Nat :=
  if isDigitRow (Text.isDigitOf base) row then Text.number? base (digitsOf row) else none

/-- The row has no leading zero. -/
def isTrimmed (row : Text) : Bool := row.head? != some '0' || row.length == 1

/-- The number that a trimmed row of decimal digits spells. -/
def decimal? (row : Text) : Option Nat := if isTrimmed row then natural? 10 row else none

/-- A number behind an optional sign. -/
def signed? (number? : Text → Option Nat) : Text → Option Int
  | '+' :: t => (number? t).map fun n => (n : Int)
  | '-' :: t => (number? t).map fun n => -(n : Int)
  | t => (number? t).map fun n => (n : Int)

/-! ## Integers -/

/-- Whether a number fits into 128 bits, with or without a sign bit. -/
def fits (n : Int) : Bool := -Int.pow 2 127 ≤ n && n < Int.pow 2 128

/-- The integer that a word spells: decimal with an optional sign, or hexadecimal, octal or binary
without. -/
def spelledInteger? : Text → Option Int
  | '0' :: 'x' :: t => (natural? 16 t).map fun n => (n : Int)
  | '0' :: 'o' :: t => (natural? 8 t).map fun n => (n : Int)
  | '0' :: 'b' :: t => (natural? 2 t).map fun n => (n : Int)
  | t => signed? decimal? t

/-- The integer of a word, if it fits. -/
def integer? (w : Text) : Option Int := (spelledInteger? w).filter fits

/-! ## Floats -/

/-- A number in decimal digits.  The point stands behind the first `point` of them, wherever that
is. -/
structure Decimal where
  /-- The digits, from the highest. -/
  digits : Text
  /-- How many digits stand in front of the point. -/
  point : Int
deriving DecidableEq, Repr

/-- The least number that is no nearer to the greatest float of 64 bits, `2 ^ 1024 - 2 ^ 971`, than
to `2 ^ 1024`. -/
def floatLimit : Nat := Nat.pow 2 1024 - Nat.pow 2 970

/-- Whether a number is below `floatLimit`.  Once leading zeros are gone the place of the point
tells how large the number is, and of the digits only those in front of it count. -/
def Decimal.isFinite (d : Decimal) : Bool :=
  let digits := d.digits.dropWhile (· == '0')
  let point := d.point - ((d.digits.length - digits.length : Nat) : Int)
  let whole := (digits.take point.toNat).rightpad point.toNat '0'
  digits.isEmpty || (point ≤ 309 && (Text.number? 10 whole).getD 0 < floatLimit)

/-- The exponent of a float. -/
def exponent? : Text → Option Int
  | 'e' :: t => signed? (natural? 10) t
  | 'E' :: t => signed? (natural? 10) t
  | _ => none

/-- The digits and underscores at the beginning of a text. -/
def leadingRow (t : Text) : Text := t.takeWhile fun c => c.isDigit || c == '_'

/-- What may follow the whole part of a float: a fraction, an exponent or both.  The answer holds
the digits of the fraction and the exponent. -/
def floatTail? : Text → Option (Text × Int)
  | '.' :: t =>
    let fraction := leadingRow t
    let rest := t.drop fraction.length
    if isDigitRow Char.isDigit fraction then
      (if rest.isEmpty then some 0 else exponent? rest).map fun e => (digitsOf fraction, e)
    else none
  | t => (exponent? t).map fun e => ([], e)

/-- A decimal number with a fraction or an exponent, without sign. -/
def fractional? (t : Text) : Option Decimal :=
  let whole := leadingRow t
  if isTrimmed whole && isDigitRow Char.isDigit whole then
    (floatTail? (t.drop whole.length)).map fun (fraction, e) =>
      ⟨digitsOf whole ++ fraction, (digitsOf whole).length + e⟩
  else none

/-- The text behind a sign. -/
def skipSign : Text → Text
  | '+' :: t => t
  | '-' :: t => t
  | t => t

/-- A float: a decimal number with a fraction or an exponent, infinity, or no number. -/
def isFloat (w : Text) : Bool :=
  let t := skipSign w
  t == "inf".toList || t == "nan".toList || (fractional? t).any Decimal.isFinite

end TurtleMarkup.Toml
