import TurtleMarkup.Files.Tree

/-!
# Listings

All paths of a tree, in the order of their characters.  The path of a directory ends in a slash.
-/

namespace TurtleMarkup.Files.Tree

mutual

/-- The paths below a tree whose own path is `base`. -/
def pathsBelow (base : Text) : Tree → List Text
  | .file _ => []
  | .directory es => entryPaths base es

/-- The paths of entries of a directory whose own path is `base`. -/
def entryPaths (base : Text) : List (Text × Tree) → List Text
  | [] => []
  | (n, .file _) :: es => (base ++ n) :: entryPaths base es
  | (n, .directory sub) :: es =>
    (base ++ n ++ ['/']) :: (entryPaths (base ++ n ++ ['/']) sub ++ entryPaths base es)

end

/-- All paths of a tree in order. -/
def paths (t : Tree) : List Text := (t.pathsBelow []).mergeSort fun a b => !List.lex b a (· < ·)

end TurtleMarkup.Files.Tree
