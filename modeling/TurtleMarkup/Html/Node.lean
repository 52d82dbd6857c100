import TurtleMarkup.Html.Escape

/-!
# Elements and text

A fragment of a page is a list of nodes: texts, and elements with an optional class.  `Node.write`
is the only place where nodes become markup.
-/

namespace TurtleMarkup.Html

/-- A text or an element. -/
inductive Node where
  /-- Text to be shown as it is. -/
  | text (t : Text)
  /-- An element by its tag, with its class and what it holds. -/
  | element (tag : Text) (cls : Option Text) (children : List Node)

/-- The tag that opens an element. -/
def openingTag (tag : Text) (cls : Option Text) : Text :=
  '<' :: tag ++
    (match cls with
      | some c => " class=\"".toList ++ escapeAttribute c ++ ['"']
      | none => []) ++ ['>']

/-- The tag that closes an element. -/
def closingTag (tag : Text) : Text := "</".toList ++ tag ++ ['>']

mutual

/-- The markup of a node. -/
def Node.write : Node → Text
  | .text t => escape t
  | .element tag cls children => openingTag tag cls ++ writeAll children ++ closingTag tag

/-- The markup of nodes one after another. -/
def writeAll : List Node → Text
  | [] => []
  | n :: ns => n.write ++ writeAll ns

end

@[simp] theorem writeAll_append (a b : List Node) :
    writeAll (a ++ b) = writeAll a ++ writeAll b := by
  induction a with
  | nil => simp [writeAll]
  | cons n a ih => simp [writeAll, ih]

end TurtleMarkup.Html
