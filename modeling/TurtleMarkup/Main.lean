import TurtleMarkup.Program

/-!
# Command line

Collects what the program needs to see and hands its outcome on.
-/

namespace TurtleMarkup.CommandLine

/-- The report on a failed attempt to use a file: the words of the machine and their number. -/
def report : IO.Error → String
  | .alreadyExists _ number words | .interrupted _ number words | .noFileOrDirectory _ number words
  | .invalidArgument _ number words | .permissionDenied _ number words
  | .resourceExhausted _ number words | .inappropriateType _ number words
  | .noSuchThing _ number words | .otherError number words | .resourceBusy number words
  | .resourceVanished number words | .unsupportedOperation number words
  | .hardwareFault number words | .unsatisfiedConstraints number words
  | .illegalOperation number words | .protocolError number words | .timeExpired number words =>
    s!"{words} (os error {number})"
  | e => e.toString

/-- What stands at a path of the machine's files.  Something that is there but cannot be opened or
read is refused, not missing. -/
def lookAt (path : Text) : IO Files.Lookup := do
  let name := String.ofList path
  match ← (IO.FS.realPath name).toBaseIO with
  | .error _ => return .missing
  | .ok _ =>
    match ← (IO.FS.Handle.mk name .read >>= IO.FS.Handle.readBinToEnd).toBaseIO with
    | .ok bytes => return .content bytes
    | .error e => return .refused (.other (report e).toList)

/-- The lines of a file of the machine; there are none if it cannot be read. -/
def readLines (path : Text) : IO (List Text) := do
  match (← lookAt path).text? with
  | some (.ok t) => return Text.split '\n' t
  | _ => return []

/-- The number of the user, from the lines that describe the running program. -/
def user? (status : List Text) : Option Text :=
  status.findSome? fun line =>
    match Text.split '\t' line with
    | label :: user :: _ => if label = "Uid:".toList then some user else none
    | _ => none

/-- The home directory of a user, from the list of accounts.  A line of it has seven fields, of
which the third is the number of the user and the sixth the home directory. -/
def homeOf? (accounts : List Text) (user : Text) : Option Text :=
  accounts.findSome? fun line =>
    match Text.split ':' line with
    | _ :: _ :: number :: _ :: _ :: home :: _ => if number = user then some home else none
    | _ => none

/-- The home directory of the account that runs the program. -/
def accountHome : IO (Option Text) := do
  let status ← readLines "/proc/self/status".toList
  let accounts ← readLines "/etc/passwd".toList
  return (user? status).bind (homeOf? accounts)

/-- The given variables, as far as they are set. -/
def readVariables (names : List Text) : IO (List (Text × Text)) :=
  names.filterMapM fun name => do
    return (← IO.getEnv (String.ofList name)).map fun value => (name, value.toList)

/-- What a run with the given arguments can see. -/
def surroundings (arguments : List Text) : IO Program.Surroundings := do
  match Arguments.parse arguments with
  | .error _ => return ⟨{}, fun _ => .missing, .empty⟩
  | .ok a =>
    if a.help then return ⟨{}, fun _ => .missing, .empty⟩
    let base : Environment := ⟨← readVariables ["HOME".toList], ← accountHome⟩
    let template := Program.configTemplate base a
    let env := { base with values := base.values ++ (← readVariables (Template.names template)) }
    let path := Template.expand env template
    let config ← lookAt path
    match a.input with
    | some file =>
      let found ← lookAt file
      let look p := if p = file then found else if p = path then config else .missing
      return ⟨env, look, .empty⟩
    | none =>
      let bytes ← (← IO.getStdin).readBinToEnd
      return ⟨env, fun p => if p = path then config else .missing, bytes⟩

/-- Runs the program on the machine's files, environment and streams. -/
def run (arguments : List String) : IO UInt32 := do
  let arguments := arguments.map String.toList
  let outcome := Program.run (← surroundings arguments) arguments
  (← IO.getStderr).putStr (String.ofList (outcome.errorOutput (some .info)))
  (← IO.getStdout).putStr (String.ofList outcome.output)
  return outcome.status.toUInt32

end TurtleMarkup.CommandLine

/-- The program. -/
def main (arguments : List String) : IO UInt32 := TurtleMarkup.CommandLine.run arguments
