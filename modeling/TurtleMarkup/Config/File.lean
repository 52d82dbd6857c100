import TurtleMarkup.Config.Basic
import TurtleMarkup.Toml.Document
import TurtleMarkup.Toml.Quoted.Writer

/-!
# The settings file

A settings file is a TOML document.  Each of the five settings may be given by its key; those that
are missing have their default value, and other keys are ignored.  A setting with a value of the
wrong type makes the file unreadable.

`Config.write` writes all settings, one to a line.
-/

namespace TurtleMarkup.Config

open Toml (Value Entries)

/-- A setting by its key, or its default. -/
def setting (es : Entries) (key : String) (default : α) (read? : Value → Option α) : Option α :=
  match es.lookup key.toList with
  | some v => read? v
  | none => some default

/-- The text of a string. -/
def text? : Value → Option Text
  | .string t => some t
  | _ => none

/-- The value of a boolean. -/
def flag? : Value → Option Bool
  | .boolean b => some b
  | _ => none

/-- The name of a vocabulary. -/
def classNamesName : Html.ClassNames → Text
  | .labels => "labels".toList
  | .legacy => "legacy".toList

/-- A vocabulary by its name. -/
def classNamesOfName? (t : Text) : Option Html.ClassNames :=
  if t = classNamesName .labels then some .labels
  else if t = classNamesName .legacy then some .legacy
  else none

/-- Whether a value is an array or a table that holds nothing. -/
def isEmptyValue : Value → Bool
  | .array [] => true
  | .table _ [] => true
  | _ => false

/-- A vocabulary: its name, or a table with the name as its only key and nothing behind it. -/
def classNames? : Value → Option Html.ClassNames
  | .string t => classNamesOfName? t
  | .table _ [(name, v)] => if isEmptyValue v then classNamesOfName? name else none
  | _ => none

/-- The settings that the entries of a document give. -/
def ofEntries? (es : Entries) : Option Config := do
  let d : Config := {}
  let classPrefix ← setting es "class_prefix" d.classPrefix text?
  let classNames ← setting es "class_names" d.classNames classNames?
  let wrapLines ← setting es "wrap_lines" d.wrapLines flag?
  let preClass ← setting es "pre_class" d.preClass text?
  let decodeEntities ← setting es "decode_entities" d.decodeEntities flag?
  some ⟨⟨classPrefix, classNames, wrapLines, preClass⟩, decodeEntities⟩

/-- The settings that a file with the given text gives. -/
def read? (t : Text) : Option Config := (Toml.parse? t).bind ofEntries?

/-- A boolean as it is written. -/
def writeFlag (b : Bool) : Text := if b then "true".toList else "false".toList

/-- A line that gives a setting. -/
def writeLine (key : String) (value : Text) : Text :=
  key.toList ++ " = ".toList ++ value ++ "\n".toList

/-- The text of a file with the given settings. -/
def write (c : Config) : Text :=
  writeLine "class_prefix" (Toml.Quoted.write c.classPrefix)
    ++ writeLine "class_names" (Toml.Quoted.write (classNamesName c.classNames))
    ++ writeLine "wrap_lines" (writeFlag c.wrapLines)
    ++ writeLine "pre_class" (Toml.Quoted.write c.preClass)
    ++ writeLine "decode_entities" (writeFlag c.decodeEntities)

end TurtleMarkup.Config
