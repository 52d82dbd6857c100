import TurtleMarkup.Files.Path

/-!
# File trees

All files are one tree: a directory holds named files and directories.  A place in the tree is a
list of names, and `Tree.get?` gives what stands there.

A program runs in one directory of the tree, `cwd`.  Paths are followed name by name, and everything
passed on the way has to be a directory.  Writing replaces the content of a file or makes a new one
in an existing directory; `makeDirectories` makes the directories that are missing, from the
outermost to the innermost.
-/

namespace TurtleMarkup.Files

/-- A file with its content, or a directory with its entries. -/
inductive Tree where
  | file (content : ByteArray)
  | directory (entries : List (Text × Tree))

namespace Tree

/-- The tree without any files. -/
def empty : Tree := .directory []

/-- What stands at a place. -/
def get? : Tree → Location → Option Tree
  | t, [] => some t
  | .file _, _ :: _ => none
  | .directory es, n :: ns =>
    match es.lookup n with
    | some t => t.get? ns
    | none => none
termination_by structural _ loc => loc

/-- The entries with one of them replaced or added. -/
def setEntry (n : Text) (new : Tree) : List (Text × Tree) → List (Text × Tree)
  | [] => [(n, new)]
  | e :: es => if e.1 = n then (n, new) :: es else e :: setEntry n new es

/-- The tree with something put at a place; what is missing on the way becomes a directory. -/
def set : Tree → Location → Tree → Tree
  | _, [], new => new
  | .directory es, n :: ns, new =>
    .directory (setEntry n (((es.lookup n).getD empty).set ns new) es)
  | .file content, _ :: _, _ => .file content
termination_by structural _ loc => loc

/-! ## Following paths -/

/-- The place of a name in the directory at `loc`.  Above the top there is only the top. -/
def enter (t : Tree) (loc : Location) (name : Text) : Except Fault Location :=
  match t.get? loc with
  | none => .error .noEntry
  | some (.file _) => .error .notDirectory
  | some (.directory _) =>
    if name = Path.here then .ok loc
    else if name = Path.above then .ok loc.dropLast
    else if Path.nameLimit < name.byteSize then .error .nameTooLong
    else .ok (loc ++ [name])

/-- The place to which names lead from `start`.  There is a directory to hold it, but nothing needs
to stand there yet. -/
def follow (t : Tree) (start : Location) (names : List Text) : Except Fault Location :=
  names.foldlM t.enter start

/-- The place to which a path leads. -/
def locate (t : Tree) (cwd : Location) (path : Text) : Except Fault Location := do
  let (start, names) ← Path.route cwd path
  t.follow start names

/-- What a path leads to. -/
def find (t : Tree) (cwd : Location) (path : Text) : Except Fault Tree := do
  let loc ← t.locate cwd path
  match t.get? loc with
  | none => .error .noEntry
  | some (.file content) =>
    if Path.endsInSlash path then .error .notDirectory else .ok (.file content)
  | some (.directory es) => .ok (.directory es)

/-- Whether a path leads to a directory. -/
def isDirectory (t : Tree) (cwd : Location) (path : Text) : Bool :=
  match t.find cwd path with
  | .ok (.directory _) => true
  | _ => false

/-! ## Changing the tree -/

/-- The directory that holds the last name of a path, and that name. -/
def locateLast (t : Tree) (cwd : Location) (path : Text) : Except Fault (Location × Text) := do
  let (start, names) ← Path.route cwd path
  let parent ← t.follow start names.dropLast
  let _ ← t.enter parent Path.here
  .ok (parent, names.getLast?.getD Path.here)

/-- The tree with an empty directory added. -/
def makeDirectory (t : Tree) (cwd : Location) (path : Text) : Except Fault Tree := do
  let (parent, name) ← t.locateLast cwd path
  let loc ← t.enter parent name
  match t.get? loc with
  | some _ => .error .alreadyExists
  | none => .ok (t.set loc empty)

/-- The tree with a file written.  A path that ends in a slash cannot mean a file. -/
def write (t : Tree) (cwd : Location) (path : Text) (content : ByteArray) : Except Fault Tree := do
  let (parent, name) ← t.locateLast cwd path
  if Path.endsInSlash path then .error .isDirectory
  else
    let loc ← t.enter parent name
    match t.get? loc with
    | some (.directory _) => .error .isDirectory
    | _ => .ok (t.set loc (.file content))

end Tree

/-- What a change to a tree comes to: whether it succeeded, and the tree as it is left. -/
structure Change where
  /-- The fault that stopped the change, if one did. -/
  fault : Option Fault
  /-- The tree afterwards. -/
  tree : Tree

namespace Tree

/-- The tree with one more directory, for which those around it exist.  A directory that is there
already is as good as a new one. -/
def ensureDirectory (t : Tree) (cwd : Location) (path : Text) : Change :=
  match t.makeDirectory cwd path with
  | .ok t' => ⟨none, t'⟩
  | .error f => ⟨if t.isDirectory cwd path then none else some f, t⟩

/-- The tree with the first of some directories, each of which is held by the one behind it.  If it
cannot be made because a directory around it is missing, that is made first. -/
def makeDirectories (t : Tree) (cwd : Location) : List Text → Change
  | [] => ⟨none, t⟩
  | path :: outer =>
    if t.makeDirectory cwd path matches .error .noEntry then
      match t.makeDirectories cwd outer with
      | ⟨none, t'⟩ => t'.ensureDirectory cwd path
      | failed => failed
    else t.ensureDirectory cwd path

/-- The tree with a file written and the directories around it made. -/
def writeFile (t : Tree) (cwd : Location) (path : Text) (content : ByteArray) : Change :=
  match t.makeDirectories cwd (Path.parents path) with
  | ⟨none, t'⟩ =>
    match t'.write cwd path content with
    | .ok t'' => ⟨none, t''⟩
    | .error f => ⟨some f, t'⟩
  | failed => failed

end Tree

end TurtleMarkup.Files
