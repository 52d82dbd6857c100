import TurtleMarkup.Config.Store
import TurtleMarkup.Markup

/-!
# The program

The program loads its settings, reads its input and prints the markup of it.  It prints markup only
when all of that has succeeded; otherwise it says what went wrong and prints nothing.  It never
writes a file: of its surroundings it sees the environment, what is found at a path, and standard
input.

What the program does is a sequence of actions on a machine, which a failure cuts short.
`Program.execute` carries it out, and `Program.run` tells what came of it.
-/

namespace TurtleMarkup.Program

open Files (Lookup ReadError)

/-- What the program can see. -/
structure Surroundings where
  /-- The variables of the environment. -/
  env : Environment
  /-- What stands at a path. -/
  look : Text → Lookup
  /-- The bytes of standard input. -/
  input : ByteArray

/-- Why the program stops. -/
inductive Failure where
  /-- The settings cannot be loaded. -/
  | config (error : Config.LoadError)
  /-- The settings file that the arguments name does not exist. -/
  | missingConfig (path : Text)
  /-- The input, a file or standard input, cannot be read. -/
  | input (path : Option Text) (error : ReadError)
deriving DecidableEq, Repr

namespace Failure

/-- The wording of a failure. -/
def message : Failure → Text
  | .config e => e.message
  | .missingConfig path => "config file '".toList ++ path ++ "' does not exist".toList
  | .input (some path) _ => "reading '".toList ++ path ++ "'".toList
  | .input none _ => "reading standard input".toList

/-- What a failure goes back to, from the nearest cause on. -/
def causes : Failure → List Text
  | .config e => e.causes
  | .missingConfig _ => []
  | .input _ e => e.message :: e.causes

/-- A cause on a line of its own behind `label`; its own further lines are indented to match. -/
def causeLine (label cause : Text) : Text :=
  label
    ++ cause.flatMap (fun c => if c = '\n' then c :: List.replicate label.length ' ' else [c])
    ++ ['\n']

/-- The lines of causes numbered from `n` on. -/
def numberedCauses (n : Nat) : List Text → Text
  | [] => []
  | cause :: causes =>
    causeLine ("    ".toList ++ Text.decimal n ++ ": ".toList) cause
      ++ numberedCauses (n + 1) causes

/-- The lines of the causes of a failure.  A single one is not numbered. -/
def causeLines : List Text → Text
  | [] => []
  | [cause] => "\nCaused by:\n".toList ++ causeLine "    ".toList cause
  | causes => "\nCaused by:\n".toList ++ numberedCauses 0 causes

/-- What is said about a failure. -/
def report (f : Failure) : Text :=
  "Error: ".toList ++ f.message ++ "\n".toList ++ causeLines f.causes

end Failure

/-- What a run of the program comes to. -/
structure Outcome where
  /-- The status with which the program ends; zero means success. -/
  status : Nat := 0
  /-- What is printed. -/
  output : Text := []
  /-- What was noted on the way. -/
  log : List Log.Record := []
  /-- What is said about a failure. -/
  complaint : Text := []
deriving DecidableEq, Repr

/-- What appears on standard error: the shown part of the log, and the complaint. -/
def Outcome.errorOutput (o : Outcome) (v : Log.Verbosity) : Text :=
  Log.display v o.log ++ o.complaint

/-- The usage text. -/
def usage : Text :=
  ("Usage: turtle-highlight [--config PATH] [--fragment] [--decode-entities] [FILE]\n"
    ++ "\n"
    ++ "Reads Turtle from FILE (or stdin when FILE is absent or '-') and prints\n"
    ++ "highlighted HTML to stdout.\n"
    ++ "\n"
    ++ "  --config PATH        read settings from PATH instead of the default config file\n"
    ++ "  --fragment           print the highlighted lines without the <pre> wrapper\n"
    ++ "  --decode-entities    decode HTML entities (&lt; etc.) before highlighting\n"
    ++ "  -h, --help           show this help\n").toList

/-- The template of the path of the settings. -/
def configTemplate (env : Environment) (arguments : Arguments) : Text :=
  arguments.config.getD (Config.defaultPath env)

/-- The settings for a run, and what is noted about them.  Only the default file may be missing. -/
def loadConfig (s : Surroundings) (arguments : Arguments) : Except Failure (Config × Log.Record) :=
  let path := configTemplate s.env arguments
  match Config.load s.env s.look path with
  | .error e => .error (.config e)
  | .ok (some c) => .ok (c, ⟨.debug, "Loaded config from ".toList ++ path⟩)
  | .ok none =>
    if arguments.config.isSome then .error (.missingConfig path)
    else .ok ({}, ⟨.debug, "No config at ".toList ++ path ++ ", using defaults".toList⟩)

/-- What is noted about the input. -/
def inputRecord (arguments : Arguments) : Log.Record :=
  ⟨.info, "Highlighting ".toList ++ arguments.input.getD "standard input".toList⟩

/-- The input of a run. -/
def readInput (s : Surroundings) (arguments : Arguments) : Except Failure Text :=
  match arguments.input with
  | some path => (Files.readText path (s.look path)).mapError (.input (some path))
  | none => (Files.readBytes s.input).mapError (.input none)

/-! ## What the program does -/

/-- The machine on which the program runs: what can be seen there, and what has come out so far. -/
structure Machine extends Surroundings where
  /-- What has been printed. -/
  output : Text := []
  /-- What has been noted. -/
  log : List Log.Record := []
  /-- What has been said about a failure. -/
  complaint : Text := []

namespace Machine

/-- The machine before the program does anything. -/
def start (s : Surroundings) : Machine := { s with }

/-- The machine after something is printed. -/
def print (t : Text) (m : Machine) : Machine := { m with output := m.output ++ t }

/-- The machine after some records are noted. -/
def note (records : List Log.Record) (m : Machine) : Machine :=
  { m with log := m.log ++ records }

/-- The machine after something is said about a failure. -/
def complain (t : Text) (m : Machine) : Machine := { m with complaint := m.complaint ++ t }

/-- The machine after all of standard input is read. -/
def drain (m : Machine) : Machine := { m with input := .empty }

end Machine

/-- What can be done on a machine; a failure stops it where it stands. -/
abbrev Action := ExceptT Failure (StateM Machine)

/-- Loads the settings for a run. -/
def prepare (arguments : Arguments) : Action Config := do
  let (config, loaded) ← MonadExcept.ofExcept (loadConfig (← get).toSurroundings arguments)
  modify (Machine.note [loaded])
  return config

/-- Reads the input of a run. -/
def readSource (arguments : Arguments) : Action Text := do
  modify (Machine.note [inputRecord arguments])
  let s := (← get).toSurroundings
  if arguments.input.isNone then modify Machine.drain
  MonadExcept.ofExcept (readInput s arguments)

/-- A run with arguments that were understood. -/
def work (arguments : Arguments) : Action Unit := do
  let config ← prepare arguments
  let source ← readSource arguments
  modify (Machine.note (Markup.log source arguments config))
  modify (Machine.print (Markup.ofSource source arguments config))
  modify (Machine.print ['\n'])

/-- A run, and the status with which it ends. -/
def execute (arguments : List Text) : StateM Machine Nat := do
  match Arguments.parse arguments with
  | .error e =>
    modify (Machine.complain ("Error: ".toList ++ e.message ++ "\n".toList ++ usage))
    return 1
  | .ok a =>
    if a.help then
      modify (Machine.print usage)
      return 0
    else
      match ← (work a).run with
      | .ok () => return 0
      | .error f =>
        modify (Machine.complain f.report)
        return 1

/-- The outcome of a run. -/
def run (s : Surroundings) (arguments : List Text) : Outcome :=
  let (status, m) := (execute arguments).run (.start s)
  { status := status, output := m.output, log := m.log, complaint := m.complaint }

end TurtleMarkup.Program
