import TurtleMarkup.Arguments
import TurtleMarkup.Config.Basic
import TurtleMarkup.Html.Reference

/-!
# From source to markup

What the program prints for a source depends on the arguments and the settings only: references
are decoded if either asks for it, and the page around the lines is left out if the arguments ask
for a fragment.
-/

namespace TurtleMarkup.Markup

/-- The text to be highlighted. -/
def sourceText (source : Text) (arguments : Arguments) (config : Config) : Text :=
  if arguments.decodeEntities || config.decodeEntities then Html.decode source else source

/-- The block to be shown. -/
def block (source : Text) (arguments : Arguments) (config : Config) : Block :=
  Block.highlight (sourceText source arguments config)

/-- The markup of a source. -/
def ofSource (source : Text) (arguments : Arguments) (config : Config) : Text :=
  let b := block source arguments config
  if arguments.fragment then Html.fragment config.toOptions b else Html.page config.toOptions b

/-- What is noted while the markup of a source is made. -/
def log (source : Text) (arguments : Arguments) (config : Config) : List Log.Record :=
  let b := block source arguments config
  [b.record, Html.record config.toOptions b]

end TurtleMarkup.Markup
