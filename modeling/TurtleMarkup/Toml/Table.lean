import TurtleMarkup.Text.Basic

/-!
# TOML values and tables

A table keeps its entries in the order in which they were written, and no key twice.  How a table
came to be decides what may still be added to it: a table opened by a header takes the keys below
that header, and further tables below it; one that a dotted key made takes further dotted keys; one
that a header only passed through may yet be opened by a header of its own; one written inline is
closed.
-/

namespace TurtleMarkup.Toml

/-- How a table came to be. -/
inductive Origin where
  /-- Written between braces. -/
  | inline
  /-- Opened by a header, as is the document itself. -/
  | header
  /-- Passed through by a header. -/
  | implied
  /-- Passed through by a dotted key. -/
  | dotted
deriving DecidableEq, Repr

/-- A TOML value.  Floats and dates are kept as they are spelled. -/
inductive Value where
  | string (t : Text)
  | boolean (b : Bool)
  | integer (n : Int)
  | float (spelling : Text)
  | dateTime (spelling : Text)
  /-- An array written between brackets. -/
  | array (items : List Value)
  /-- An array of tables, each opened by a header. -/
  | tables (items : List Value)
  | table (origin : Origin) (entries : List (Text × Value))

/-- The entries of a table. -/
abbrev Entries := List (Text × Value)

namespace Entries

/-- The entries with the value of a key replaced. -/
def replace (k : Text) (v : Value) (es : Entries) : Entries :=
  es.map fun e => if e.1 = k then (k, v) else e

/-- The ways on which tables are reached. -/
inductive Way where
  /-- Along the keys of a header. -/
  | header
  /-- Along the keys of a dotted key. -/
  | dotted
deriving DecidableEq, Repr

/-- The origin of a table that is made on the way. -/
def Way.origin : Way → Origin
  | .header => .implied
  | .dotted => .dotted

/-- Which tables the way may enter. -/
def Way.enters : Way → Origin → Bool
  | .header, o => o != .inline
  | .dotted, o => o == .implied || o == .dotted

/-- Changes the table with key `k`, which is made if it is missing.  An array of tables stands for
its last one. -/
def descend (way : Way) (change : Origin → Entries → Option Entries) (k : Text) (es : Entries) :
    Option Entries :=
  match es.lookup k with
  | none => (change way.origin []).map fun sub => es ++ [(k, .table way.origin sub)]
  | some (.table o sub) =>
    if way.enters o then (change o sub).map fun sub => es.replace k (.table o sub) else none
  | some (.tables items) =>
    match items.getLast? with
    | some (.table o sub) =>
      (change o sub).map fun sub => es.replace k (.tables (items.dropLast ++ [.table o sub]))
    | _ => none
  | some _ => none

/-- Follows all but the last of the given keys, and makes the change for the last one there. -/
def alter (way : Way) (change : Text → Origin → Entries → Option Entries) :
    List Text → Origin → Entries → Option Entries
  | [], _, _ => none
  | [k], o, es => change k o es
  | k :: ks, _, es => descend way (alter way change ks) k es

/-- Adds an entry with a new key.  A dotted key can add only to a table that dotted keys made. -/
def add (isDotted : Bool) (v : Value) (k : Text) (o : Origin) (es : Entries) : Option Entries :=
  if (es.lookup k).isSome || (isDotted && o != .dotted) then none else some (es ++ [(k, v)])

/-- Gives a value to a key, which may be dotted. -/
def assign (keys : List Text) (v : Value) : Origin → Entries → Option Entries :=
  alter .dotted (add (1 < keys.length) v) keys

/-- Opens the table with key `k`, which must be new or only passed through so far. -/
def openTable (k : Text) (_ : Origin) (es : Entries) : Option Entries :=
  match es.lookup k with
  | none => some (es ++ [(k, .table .header [])])
  | some (.table .implied sub) => some (es.replace k (.table .header sub))
  | some _ => none

/-- Adds a table to the array of tables with key `k`, which is made if it is missing. -/
def appendTable (k : Text) (_ : Origin) (es : Entries) : Option Entries :=
  match es.lookup k with
  | none => some (es ++ [(k, .tables [.table .header []])])
  | some (.tables items) => some (es.replace k (.tables (items ++ [.table .header []])))
  | some _ => none

end Entries

/-- The table of an inline list of assignments. -/
def Value.ofAssignments (l : List (List Text × Value)) : Option Value :=
  (l.foldlM (fun es (keys, v) => Entries.assign keys v .inline es) []).map (.table .inline)

end TurtleMarkup.Toml
