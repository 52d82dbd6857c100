import TurtleMarkup.Files.Tree
import TurtleMarkup.Text.Utf8

/-!
# Looking up files

What a program learns about a path when it only reads: that there is nothing, that there is
something it cannot read, or the content of a file.
-/

namespace TurtleMarkup.Files

/-- What stands at a path, for a reader. -/
inductive Lookup where
  /-- Nothing that can be reached. -/
  | missing
  /-- Something that cannot be read. -/
  | refused (fault : Fault)
  /-- A file with its content. -/
  | content (bytes : ByteArray)

/-- What a path leads to in a tree, for a reader. -/
def Tree.look (t : Tree) (cwd : Location) (path : Text) : Lookup :=
  match t.find cwd path with
  | .error _ => .missing
  | .ok (.directory _) => .refused .isDirectory
  | .ok (.file content) => .content content

/-- The text that bytes spell. -/
def textOf (bytes : ByteArray) : Except Fault Text :=
  match Text.decode? bytes with
  | some t => .ok t
  | none => .error .notText

/-- The text of a file, if there is something at all. -/
def Lookup.text? : Lookup → Option (Except Fault Text)
  | .missing => none
  | .refused f => some (.error f)
  | .content bytes => some (textOf bytes)

/-- Why an input cannot be read. -/
inductive ReadError where
  /-- There is no such file. -/
  | notFound (path : Text)
  /-- The input is there but cannot be read. -/
  | fault (f : Fault)
deriving DecidableEq, Repr

/-- The wording of a read error. -/
def ReadError.message : ReadError → Text
  | .notFound path => "File not found: ".toList ++ path
  | .fault f => "IO error: ".toList ++ f.message

/-- What a read error goes back to. -/
def ReadError.causes : ReadError → List Text
  | .notFound _ => []
  | .fault f => [f.message]

/-- The text of the file that a lookup of `path` found. -/
def readText (path : Text) (found : Lookup) : Except ReadError Text :=
  match found.text? with
  | none => .error (.notFound path)
  | some r => r.mapError .fault

/-- The text of some bytes that were read. -/
def readBytes (bytes : ByteArray) : Except ReadError Text := (textOf bytes).mapError .fault

end TurtleMarkup.Files
