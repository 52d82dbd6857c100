/-!
# Text and its byte measure

Text is a list of characters.  Positions are counted in bytes of the UTF-8 form, so a cut at a
position exists only where one character ends and the next begins: `dropBytes?` and `takeBytes?`
answer `none` everywhere else.
-/

namespace TurtleMarkup

/-- Text, one character after another. -/
abbrev Text := List Char

namespace Text

/-- How many bytes the UTF-8 form of a text takes. -/
def byteSize (t : Text) : Nat := t.foldr (fun c n => c.utf8Size + n) 0

@[simp] theorem byteSize_nil : byteSize [] = 0 := rfl

@[simp] theorem byteSize_cons (c : Char) (t : Text) :
    byteSize (c :: t) = c.utf8Size + byteSize t := rfl

@[simp] theorem byteSize_append (a b : Text) : byteSize (a ++ b) = byteSize a + byteSize b := by
  induction a with
  | nil => simp
  | cons c a ih => rw [List.cons_append, byteSize_cons, byteSize_cons, ih, Nat.add_assoc]

/-- Only the empty text takes no bytes. -/
@[simp] theorem byteSize_eq_zero {t : Text} : byteSize t = 0 ↔ t = [] := by
  cases t with
  | nil => simp
  | cons c t =>
    have := c.utf8Size_pos
    simp only [byteSize_cons, reduceCtorEq, iff_false]
    omega

/-- What stands after the first `n` bytes, if a character ends there. -/
def dropBytes? (n : Nat) : Text → Option Text
  | [] => if n = 0 then some [] else none
  | c :: cs =>
    if n = 0 then some (c :: cs)
    else if c.utf8Size ≤ n then dropBytes? (n - c.utf8Size) cs
    else none

/-- The first `n` bytes, if a character ends there. -/
def takeBytes? (n : Nat) : Text → Option Text
  | [] => if n = 0 then some [] else none
  | c :: cs =>
    if n = 0 then some []
    else if c.utf8Size ≤ n then (takeBytes? (n - c.utf8Size) cs).map (c :: ·)
    else none

@[simp] theorem dropBytes?_zero (t : Text) : dropBytes? 0 t = some t := by
  cases t <;> simp [dropBytes?]

@[simp] theorem takeBytes?_zero (t : Text) : takeBytes? 0 t = some [] := by
  cases t <;> simp [takeBytes?]

/-- Dropping the bytes of a beginning leaves the remainder. -/
theorem dropBytes?_byteSize_append (a b : Text) : dropBytes? a.byteSize (a ++ b) = some b := by
  induction a with
  | nil => simp
  | cons c a ih =>
    have := c.utf8Size_pos
    simp [dropBytes?, ih, show ¬ (c.utf8Size = 0 ∧ a = []) by omega]

/-- Taking the bytes of a beginning gives that beginning. -/
theorem takeBytes?_byteSize_append (a b : Text) : takeBytes? a.byteSize (a ++ b) = some a := by
  induction a with
  | nil => simp
  | cons c a ih =>
    have := c.utf8Size_pos
    simp [takeBytes?, ih, show ¬ (c.utf8Size = 0 ∧ a = []) by omega]

/-- The decimal spelling of a number. -/
def decimal (n : Nat) : Text := Nat.toDigits 10 n

end Text

end TurtleMarkup
