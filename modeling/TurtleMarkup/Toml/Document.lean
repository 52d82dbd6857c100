import TurtleMarkup.Toml.DateTime
import TurtleMarkup.Toml.Number
import TurtleMarkup.Toml.Quoted.Reader
import TurtleMarkup.Toml.Table

/-!
# TOML documents

A document is a list of statements, one to a line: an assignment, the header of a table, or the
header of one more table of an array.  Reading is refused as a whole if any part of the text is no
TOML, if a key is given twice, or if a table is opened twice.

Arrays and inline tables may be nested, and keys dotted, up to `nestingLimit` levels.
-/

namespace TurtleMarkup.Toml

/-- How deep values may be nested, and how many parts a key may have. -/
def nestingLimit : Nat := 80

/-! ## Keys -/

/-- The characters of a key without quotes. -/
def isBareKeyChar (c : Char) : Bool := c.isAlphanum || c == '_' || c == '-'

/-- One part of a key. -/
def key? : Text → Option (Text × Text)
  | '"' :: t => Quoted.basic? t
  | '\x27' :: t => Quoted.literal? t
  | t =>
    let bare := t.takeWhile isBareKeyChar
    if bare.isEmpty then none else some (bare, t.drop bare.length)

/-- A key of at most `limit` parts with dots between them, and the text behind the blanks that
follow. -/
def keys? : Nat → Text → Option (List Text × Text)
  | 0, _ => none
  | limit + 1, t => do
    let (k, t) ← key? t
    match skipBlanks t with
    | '.' :: t =>
      let (ks, t) ← keys? limit (skipBlanks t)
      some (k :: ks, t)
    | t => some ([k], t)

/-! ## Values -/

/-- The characters of booleans, numbers and dates. -/
def isWordChar (c : Char) : Bool := c.isAlphanum || "+-_.:".toList.contains c

/-- The word at the beginning of a text.  A blank may part a date from a time. -/
def word (t : Text) : Text :=
  let w := t.takeWhile isWordChar
  match t.drop w.length with
  | ' ' :: c :: rest =>
    if date? w == some [] && c.isDigit then w ++ ' ' :: (c :: rest).takeWhile isWordChar else w
  | _ => w

/-- The value of a word. -/
def ofWord? (w : Text) : Option Value :=
  if w = "true".toList then some (.boolean true)
  else if w = "false".toList then some (.boolean false)
  else if isFloat w then some (.float w)
  else if isDateTime w then some (.dateTime w)
  else (integer? w).map .integer

/-- An assignment: a key, an equals sign and a value, with what `skip` passes over between them. -/
def assignment? (skip : Text → Text) (value? : Text → Option (Value × Text)) (t : Text) :
    Option ((List Text × Value) × Text) := do
  let (ks, t) ← keys? nestingLimit t
  let t ← after? '=' (skip t)
  let (v, t) ← value? (skip t)
  some ((ks, v), t)

/-- Items with commas between them up to the bracket `close`, read behind the opening bracket.  A
comma may follow the last one. -/
def items? (close : Char) (item? : Text → Option (α × Text)) (t : Text) :
    Option (List α × Text) :=
  match after? close (skipFiller t) with
  | some t => some ([], t)
  | none => do
    let (x, rest) ← item? (skipFiller t)
    match skipFiller rest with
    | ',' :: rest =>
      if rest.length < t.length then
        let (xs, rest) ← items? close item? rest
        some (x :: xs, rest)
      else none
    | rest => (after? close rest).map ([x], ·)
termination_by t.length

/-- A value that holds at most `depth` levels of arrays and inline tables. -/
def value? (depth : Nat) (t : Text) : Option (Value × Text) :=
  match t with
  | '"' :: _ | '\x27' :: _ => (Quoted.string? t).map fun (s, t) => (.string s, t)
  | '[' :: t =>
    match depth with
    | 0 => none
    | depth + 1 => (items? ']' (value? depth) t).map fun (vs, t) => (.array vs, t)
  | '\x7b' :: t =>
    match depth with
    | 0 => none
    | depth + 1 => do
      let (l, t) ← items? '\x7d' (assignment? skipFiller (value? depth)) t
      some (← Value.ofAssignments l, t)
  | t => (ofWord? (word t)).map (·, t.drop (word t).length)

/-! ## Statements -/

/-- A line of a document. -/
inductive Statement where
  /-- A value for a key: `key = value`. -/
  | assignment (keys : List Text) (value : Value)
  /-- The header of a table: `[key]`. -/
  | table (keys : List Text)
  /-- The header of one more table of an array: `[[key]]`. -/
  | appendedTable (keys : List Text)

/-- A statement. -/
def statement? : Text → Option (Statement × Text)
  | '[' :: '[' :: t => do
    let (ks, t) ← keys? nestingLimit (skipBlanks t)
    let t ← after? ']' t >>= after? ']'
    some (.appendedTable ks, t)
  | '[' :: t => do
    let (ks, t) ← keys? nestingLimit (skipBlanks t)
    let t ← after? ']' t
    some (.table ks, t)
  | t => do
    let ((ks, v), t) ← assignment? skipBlanks (value? nestingLimit) t
    some (.assignment ks v, t)

/-- The statements of a document. -/
def statements? (t : Text) : Option (List Statement) :=
  match skipFiller t with
  | [] => some []
  | start => do
    let (s, rest) ← statement? start
    let rest ← endOfLine? rest
    if rest.length < t.length then
      let ss ← statements? rest
      some (s :: ss)
    else none
termination_by t.length

/-! ## Documents -/

/-- A document as far as it is read. -/
structure Document where
  /-- The entries so far. -/
  entries : Entries := []
  /-- The keys of the last header, whose table takes the next assignments. -/
  current : List Text := []

/-- The document with one more statement. -/
def Document.extend (d : Document) : Statement → Option Document
  | .assignment ks v =>
    let es :=
      match d.current with
      | [] => Entries.assign ks v .header d.entries
      | path =>
        Entries.alter .header (fun k _ => Entries.descend .header (Entries.assign ks v) k) path
          .header d.entries
    es.map fun es => { d with entries := es }
  | .table ks => (Entries.alter .header Entries.openTable ks .header d.entries).map (⟨·, ks⟩)
  | .appendedTable ks =>
    (Entries.alter .header Entries.appendTable ks .header d.entries).map (⟨·, ks⟩)

/-- The text behind a byte order mark. -/
def skipMark : Text → Text
  | '\ufeff' :: t => t
  | t => t

/-- The entries of the document that a text spells. -/
def parse? (t : Text) : Option Entries := do
  let ss ← statements? (skipMark t)
  let d ← ss.foldlM Document.extend {}
  some d.entries

end TurtleMarkup.Toml
