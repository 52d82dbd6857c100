import TurtleMarkup.Config.Store
import TurtleMarkup.Proofs.Toml.Assignments
import TurtleMarkup.Proofs.Toml.Quoted

/-!
# Written settings are read back

The file of some settings is a document of five assignments
(`Config.write_eq_lines`), and each value is spelled so that it is read back, in
whichever form a string had to be written.  So the file is read as the settings
again (`Config.file_is_read_back`), whatever their texts hold.
-/

namespace TurtleMarkup.Config

open Toml (Assignment)

theorem spells_writeFlag (b : Bool) : (Toml.Scalar.boolean b).Spells (writeFlag b) := by
  cases b with
  | true => exact .word .true
  | false => exact .word .false

theorem spells_write (t : Text) : (Toml.Scalar.string t).Spells (Toml.Quoted.write t) :=
  .string (Toml.Quoted.spellsString_write t)

/-- The five assignments of some settings. -/
def assignments (c : Config) : List Assignment :=
  [⟨"class_prefix".toList, .string c.classPrefix, Toml.Quoted.write c.classPrefix,
      by decide, spells_write c.classPrefix⟩,
    ⟨"class_names".toList, .string (classNamesName c.classNames),
      Toml.Quoted.write (classNamesName c.classNames),
      by decide, spells_write (classNamesName c.classNames)⟩,
    ⟨"wrap_lines".toList, .boolean c.wrapLines, writeFlag c.wrapLines,
      by decide, spells_writeFlag c.wrapLines⟩,
    ⟨"pre_class".toList, .string c.preClass, Toml.Quoted.write c.preClass,
      by decide, spells_write c.preClass⟩,
    ⟨"decode_entities".toList, .boolean c.decodeEntities, writeFlag c.decodeEntities,
      by decide, spells_writeFlag c.decodeEntities⟩]

theorem write_eq_lines (c : Config) : c.write = c.assignments.flatMap Assignment.line := by
  have hline (key : String) (value : Text) :
      writeLine key value = key.toList ++ ' ' :: '=' :: ' ' :: (value ++ ['\n']) := by
    rw [writeLine, List.append_assoc, List.append_assoc]
    rfl
  simp only [write, hline, List.append_assoc]
  simp [assignments, Assignment.line]

theorem ofEntries?_assignments (c : Config) :
    (c.assignments.mapM Assignment.entry?).bind ofEntries? = some c := by
  obtain ⟨⟨classPrefix, classNames, wrapLines, preClass⟩, decodeEntities⟩ := c
  cases classNames <;> rfl

theorem read?_write (c : Config) : read? c.write = some c := by
  have hkeys : (c.assignments.map Assignment.key).Nodup := by
    show ["class_prefix".toList, "class_names".toList, "wrap_lines".toList, "pre_class".toList,
      "decode_entities".toList].Nodup
    decide
  rw [read?, write_eq_lines, Toml.parse?_document (Toml.isDocumentOf_lines _), if_pos hkeys,
    ofEntries?_assignments]

/-- **Written settings are read back.**  The text of a file with any settings is read as those
settings, and so are the bytes of the file, wherever they are found. -/
theorem file_is_read_back (c : Config) :
    read? c.write = some c ∧
      ∀ path, ofLookup path (.content (Text.encode c.write)) = .ok (some c) := by
  refine ⟨read?_write c, fun path => ?_⟩
  simp only [ofLookup, Files.Lookup.text?, Files.textOf, Text.decode?_encode, read?_write]

end TurtleMarkup.Config
