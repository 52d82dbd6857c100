import TurtleMarkup.Text.Basic

/-!
# Escaping

Text is written into markup with its special characters spelled as references, so that no
character of it can be taken for markup: `&`, `<` and `>` between tags, and the double quote as
well inside an attribute value.
-/

namespace TurtleMarkup.Html

/-- How a character is written between tags. -/
def escapeChar (c : Char) : Text :=
  if c = '&' then "&amp;".toList
  else if c = '<' then "&lt;".toList
  else if c = '>' then "&gt;".toList
  else [c]

/-- How a character is written in an attribute value between double quotes. -/
def escapeAttributeChar (c : Char) : Text :=
  if c = '"' then "&quot;".toList else escapeChar c

/-- How a text is written between tags. -/
def escape (t : Text) : Text := t.flatMap escapeChar

/-- How a text is written in an attribute value between double quotes. -/
def escapeAttribute (t : Text) : Text := t.flatMap escapeAttributeChar

@[simp] theorem escape_append (a b : Text) : escape (a ++ b) = escape a ++ escape b := by
  simp [escape]

@[simp] theorem escapeAttribute_append (a b : Text) :
    escapeAttribute (a ++ b) = escapeAttribute a ++ escapeAttribute b := by
  simp [escapeAttribute]

end TurtleMarkup.Html
