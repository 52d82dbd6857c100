import TurtleMarkup.Block
import TurtleMarkup.Html.Node

/-!
# Pages

A highlighted block becomes HTML line by line.  A labelled token is a `span` element with its
label as class, plain text stands bare, and a line that is not a single comment may be held by a
`span` element of its own.  A page is a fragment inside a `pre` element.
-/

namespace TurtleMarkup.Html

/-- The vocabulary of class names. -/
inductive ClassNames where
  /-- The labels of the categories. -/
  | labels
  /-- The labels of older style sheets. -/
  | legacy
deriving DecidableEq, Repr

/-- The label of a category in a vocabulary. -/
def ClassNames.label? : ClassNames → Kind → Option Text
  | .labels => Kind.label
  | .legacy => Kind.legacyLabel

/-- Settings of the appearance of a page. -/
structure Options where
  /-- What every class of a token starts with. -/
  classPrefix : Text := "turtle-".toList
  /-- The vocabulary of class names. -/
  classNames : ClassNames := .labels
  /-- Whether every line that is not a comment is an element of its own. -/
  wrapLines : Bool := true
  /-- The class of the whole page. -/
  preClass : Text := "turtle".toList
deriving DecidableEq, Repr

/-- An element for a stretch of a line. -/
def span (cls : Option Text) (children : List Node) : Node := .element "span".toList cls children

/-- The node of a token that covers the text `t`. -/
def tokenNode (o : Options) (kind : Kind) (t : Text) : Node :=
  match o.classNames.label? kind with
  | some label => span (some (o.classPrefix ++ label)) [.text t]
  | none => .text t

/-- The nodes of a line without its line feed.  A comment is already one element and is not held
by another. -/
def lineNodes (o : Options) (b : Block) (l : Line) : List Node :=
  let nodes := (b.parts l).map fun (kind, t) => tokenNode o kind t
  if o.wrapLines && !l.isComment then [span none nodes] else nodes

/-- The nodes of a block, with a line feed behind every line that ends in one. -/
def nodes (o : Options) (b : Block) : List Node :=
  b.lines.flatMap fun l => lineNodes o b l ++ if l.terminated then [.text ['\n']] else []

/-- The node of a whole page. -/
def pageNode (o : Options) (b : Block) : Node := .element "pre".toList (some o.preClass) (nodes o b)

/-- A block as a fragment of HTML. -/
def fragment (o : Options) (b : Block) : Text := writeAll (nodes o b)

/-- A block as a page. -/
def page (o : Options) (b : Block) : Text := (pageNode o b).write

/-- The record of a block that became HTML: its lines, and the bytes of the fragment. -/
def record (o : Options) (b : Block) : Log.Record where
  level := .debug
  message :=
    "rendered ".toList ++ Text.decimal b.lines.length ++ " lines into ".toList
      ++ Text.decimal (fragment o b).byteSize ++ " bytes of html".toList

end TurtleMarkup.Html
