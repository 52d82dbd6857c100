import TurtleMarkup.Html.Page

/-!
# Settings

The settings are those of the appearance of a page, and whether character references in the input
are decoded first.
-/

namespace TurtleMarkup

/-- The settings of the program. -/
structure Config extends Html.Options where
  /-- Whether to read the input as the text content of a page. -/
  decodeEntities : Bool := false
deriving DecidableEq, Repr

end TurtleMarkup
