import TurtleMarkup.Html.EntityNames
import TurtleMarkup.Text.Digits

/-!
# Character references

A reference stands between `&` and `;` and spells one character, by its number or by its name.
`decode` replaces every reference of a text by its character.  Whatever is not a reference stays as
it is, and the characters that references stand for are not read again.
-/

namespace TurtleMarkup.Html

/-- Control characters that a reference may spell. -/
def referableControls : List Nat := [0x09, 0x0A, 0x0C, 0x0D]

/-- The character with a given code point, if a reference may spell it: the code point is a
character, and not a control below the space other than tab, line feed, form feed and carriage
return. -/
def referable? (n : Nat) : Option Char :=
  if n.isValidChar ∧ (0x20 ≤ n ∨ n ∈ referableControls) then some (Char.ofNat n) else none

/-- The character that a name stands for. -/
def named? (name : Text) : Option Char :=
  match name with
  | [] => none
  | c :: _ => ((entityNames c).lookup (String.ofList name)).map Char.ofNat

/-- The character spelled between `&` and `;`: a decimal number behind `#`, a hexadecimal one
behind `#x` or `#X`, or a name. -/
def reference? : Text → Option Char
  | '#' :: 'x' :: digits | '#' :: 'X' :: digits => (Text.number? 16 digits).bind referable?
  | '#' :: digits => (Text.number? 10 digits).bind referable?
  | name => named? name

/-- The characters that end the search for the end of a reference. -/
def isReferenceEnd (c : Char) : Bool := c == ';' || c == '&'

/-- A reference behind `&`, and what follows its `;`.  The text between holds no other `&`. -/
def referenceAt? (t : Text) : Option (Char × Text) :=
  match t.dropWhile (!isReferenceEnd ·) with
  | ';' :: rest => (reference? (t.takeWhile (!isReferenceEnd ·))).map (·, rest)
  | _ => none

theorem length_lt_of_referenceAt? {t rest : Text} {c : Char}
    (h : referenceAt? t = some (c, rest)) : rest.length < t.length := by
  unfold referenceAt? at h
  split at h
  · rename_i rest' hdrop
    obtain ⟨_, _, heq⟩ := Option.map_eq_some_iff.1 h
    have := (List.dropWhile_suffix (!isReferenceEnd ·) (l := t)).length_le
    simp only [Prod.mk.injEq] at heq
    simp only [hdrop, List.length_cons, heq.2] at this
    omega
  · simp at h

/-- The text with every reference replaced by the character it spells. -/
def decode (t : Text) : Text :=
  match t with
  | [] => []
  | c :: cs =>
    if c = '&' then
      match _h : referenceAt? cs with
      | some (d, rest) => d :: decode rest
      | none => '&' :: decode cs
    else c :: decode cs
termination_by t.length
decreasing_by
  · have := length_lt_of_referenceAt? _h
    simp only [List.length_cons]
    omega
  · simp
  · simp

end TurtleMarkup.Html
