import TurtleMarkup.Config.File
import TurtleMarkup.Files.Lookup
import TurtleMarkup.Template

/-!
# Where settings are kept

Settings are loaded from a path template and saved to a path: loading fills in the template, saving
takes the path as it is.  A missing file is no error and gives no settings.
-/

namespace TurtleMarkup.Config

open Files (Tree Location Fault Lookup Change)

/-- Why settings cannot be loaded from a file that is there. -/
inductive LoadError where
  /-- The file cannot be read. -/
  | unreadable (path : Text) (fault : Fault)
  /-- The text of the file gives no settings. -/
  | malformed (path : Text)
deriving DecidableEq, Repr

/-- The wording of a load error. -/
def LoadError.message : LoadError → Text
  | .unreadable path f =>
    "Failed to read config file at ".toList ++ path ++ ": ".toList ++ f.message
  | .malformed path =>
    "Failed to parse config file at ".toList ++ path ++ ": TOML parse error".toList

/-- What a load error goes back to. -/
def LoadError.causes : LoadError → List Text
  | .unreadable _ f => [f.message]
  | .malformed _ => []

/-- The path at which settings are kept unless another one is named. -/
def defaultPath (env : Environment) : Text :=
  Template.expandHome env "~/.config/turtle-highlight".toList ++ "/config.toml".toList

/-- The settings at a path, of which `found` is known. -/
def ofLookup (path : Text) (found : Lookup) : Except LoadError (Option Config) :=
  match found.text? with
  | none => .ok none
  | some (.error f) => .error (.unreadable path f)
  | some (.ok t) =>
    match read? t with
    | some c => .ok (some c)
    | none => .error (.malformed path)

/-- The settings at the path that a template stands for. -/
def load (env : Environment) (look : Text → Lookup) (template : Text) :
    Except LoadError (Option Config) :=
  ofLookup (Template.expand env template) (look (Template.expand env template))

/-- The settings at the default path. -/
def loadDefault (env : Environment) (look : Text → Lookup) : Except LoadError (Option Config) :=
  load env look (defaultPath env)

/-- The tree with settings saved at a path. -/
def save (c : Config) (t : Tree) (cwd : Location) (path : Text) : Change :=
  t.writeFile cwd path (Text.encode c.write)

/-- The tree with settings saved at the default path. -/
def saveDefault (c : Config) (env : Environment) (t : Tree) (cwd : Location) : Change :=
  c.save t cwd (defaultPath env)

end TurtleMarkup.Config
