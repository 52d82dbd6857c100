import TurtleMarkup.Files.Listing
import TurtleMarkup.Main
import TurtleMarkup.Program
import TurtleMarkup.Proofs.ByteRanges
import TurtleMarkup.Proofs.CommandLine
import TurtleMarkup.Proofs.Config.DefaultPath
import TurtleMarkup.Proofs.Html.Composition
import TurtleMarkup.Proofs.Html.Spelling
import TurtleMarkup.Proofs.Html.VisibleText
import TurtleMarkup.Proofs.Joining
import TurtleMarkup.Proofs.LanguageTags
import TurtleMarkup.Proofs.Offsets
import TurtleMarkup.Proofs.Outcome
import TurtleMarkup.Proofs.Padding
import TurtleMarkup.Proofs.Pairing
import TurtleMarkup.Proofs.PrefixedNames
import TurtleMarkup.Proofs.Shapes
import TurtleMarkup.Proofs.Stages
import TurtleMarkup.Proofs.WholeLine
import TurtleMarkup.Proofs.Files.Frame
import TurtleMarkup.Proofs.Config.NamedPath
import TurtleMarkup.Proofs.Toml.Layout
import TurtleMarkup.Proofs.Toml.Strings
import TurtleMarkup.Proofs.Toml.Numbers
import TurtleMarkup.Proofs.Toml.Dates
import TurtleMarkup.Proofs.Toml.Scalars
import TurtleMarkup.Proofs.Toml.Quoted
import TurtleMarkup.Proofs.Config.Overlay
