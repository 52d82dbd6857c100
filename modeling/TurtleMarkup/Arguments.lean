import TurtleMarkup.Text.Basic

/-!
# Command-line arguments

Arguments are read from left to right.  `--config` takes the argument behind it, whatever that is;
`-` stands for standard input, which is what is read when no file is named; everything else that
starts with `-` and is not an option is refused, and so is a second file.
-/

namespace TurtleMarkup

/-- What the arguments ask for. -/
structure Arguments where
  /-- The settings file, if one is named; the last one counts. -/
  config : Option Text := none
  /-- Whether to print the lines without the page around them. -/
  fragment : Bool := false
  /-- Whether to decode character references first. -/
  decodeEntities : Bool := false
  /-- The input file; without one, standard input is read. -/
  input : Option Text := none
  /-- Whether to print the usage text and do nothing else. -/
  help : Bool := false
deriving DecidableEq, Repr

/-- Why arguments are refused. -/
inductive ArgumentError where
  /-- Nothing follows `--config`. -/
  | missingConfigPath
  /-- No such option. -/
  | unknownOption (argument : Text)
  /-- A second input file. -/
  | secondInput
deriving DecidableEq, Repr

/-- The wording of an argument error. -/
def ArgumentError.message : ArgumentError → Text
  | .missingConfigPath => "--config requires a path".toList
  | .unknownOption argument => "unknown option '".toList ++ argument ++ "'".toList
  | .secondInput => "only one input file may be given".toList

namespace Arguments

/-- The sorts of arguments. -/
inductive Word where
  | help
  | fragment
  | decodeEntities
  | config
  | standardInput
  | unknownOption
  | file
deriving DecidableEq, Repr

/-- The sort of an argument. -/
def Word.ofText (t : Text) : Word :=
  if t = "-h".toList ∨ t = "--help".toList then .help
  else if t = "--fragment".toList then .fragment
  else if t = "--decode-entities".toList then .decodeEntities
  else if t = "--config".toList then .config
  else if t = "-".toList then .standardInput
  else if t.head? = some '-' then .unknownOption
  else .file

/-- Reads arguments on top of those already read. -/
def parseFrom (read : Arguments) : List Text → Except ArgumentError Arguments
  | [] => .ok read
  | t :: rest =>
    match Word.ofText t with
    | .help => parseFrom { read with help := true } rest
    | .fragment => parseFrom { read with fragment := true } rest
    | .decodeEntities => parseFrom { read with decodeEntities := true } rest
    | .config =>
      match rest with
      | [] => .error .missingConfigPath
      | path :: rest => parseFrom { read with config := some path } rest
    | .standardInput => parseFrom read rest
    | .unknownOption => .error (.unknownOption t)
    | .file =>
      if read.input.isSome then .error .secondInput
      else parseFrom { read with input := some t } rest

/-- Reads arguments. -/
def parse (arguments : List Text) : Except ArgumentError Arguments := parseFrom {} arguments

end Arguments

end TurtleMarkup
