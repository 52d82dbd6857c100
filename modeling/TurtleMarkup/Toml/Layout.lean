import TurtleMarkup.Text.Basic

/-!
# Blanks, line ends and comments in TOML

What may stand between the parts of a TOML document.  A line ends in a line feed, which a carriage
return may precede; control characters other than the tab are allowed nowhere else.
-/

namespace TurtleMarkup.Toml

/-- The characters that stand for themselves in strings and comments: all but the control
characters, and the tab. -/
def isTextChar (c : Char) : Bool := c == '\t' || (0x20 ≤ c.toNat && c.toNat != 0x7F)

/-- Spaces and tabs. -/
def isBlank (c : Char) : Bool := c == ' ' || c == '\t'

/-- The text behind leading blanks. -/
def skipBlanks (t : Text) : Text := t.dropWhile isBlank

/-- The text behind a line end, if it starts with one. -/
def lineEnd? : Text → Option Text
  | '\n' :: t => some t
  | '\r' :: '\n' :: t => some t
  | _ => none

/-- The text behind a line end, or the text itself if it starts with none. -/
def skipLineEnd (t : Text) : Text := (lineEnd? t).getD t

/-- The text behind leading blanks and line ends. -/
def skipSpace : Text → Text
  | [] => []
  | c :: t =>
    if isBlank c || c == '\n' then skipSpace t
    else
      match c, t with
      | '\r', '\n' :: t => skipSpace t
      | _, _ => c :: t

/-- The text behind a comment, if it starts with one; the line end stays. -/
def skipComment : Text → Text
  | '#' :: t => t.dropWhile isTextChar
  | t => t

/-- The text behind the remainder of a line, which may hold blanks and a comment only. -/
def endOfLine? (t : Text) : Option Text :=
  match skipComment (skipBlanks t) with
  | [] => some []
  | t => lineEnd? t

theorem length_skipSpace_le (t : Text) : (skipSpace t).length ≤ t.length := by
  fun_induction skipSpace t with
  | case1 => exact Nat.le_refl _
  | case2 c t _ ih => exact Nat.le_succ_of_le ih
  | case3 t _ ih => exact Nat.le_succ_of_le (Nat.le_succ_of_le ih)
  | case4 => exact Nat.le_refl _

/-- The text behind leading blanks, line ends and comments. -/
def skipFiller (t : Text) : Text :=
  match _h : skipSpace t with
  | '#' :: rest => skipFiller (rest.dropWhile isTextChar)
  | rest => rest
termination_by t.length
decreasing_by
  have h₁ := length_skipSpace_le t
  have h₂ := (List.dropWhile_suffix isTextChar (l := rest)).length_le
  simp only [_h, List.length_cons] at h₁
  omega

end TurtleMarkup.Toml
