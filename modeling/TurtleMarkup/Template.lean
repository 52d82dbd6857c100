import TurtleMarkup.Text.Alphanumeric

/-!
# Path templates

A path may mention variables of the environment: `$name`, `${name}` and `${name:-default}`.  `$$`
stands for `$`, and a `$` that introduces nothing stands for itself.  A template with a variable
that is neither set nor has a default cannot be filled in.

After that a leading `~`, alone or before a slash, becomes the home directory.  A `~` that came out
of a variable stays: in a template with a `$` it counts only if the template itself starts with it.

The home directory is the one that the variable `HOME` names, or else the one that belongs to the
account.  Without either a leading `~` stays as it is.
-/

namespace TurtleMarkup

/-- What a program can learn about where it runs, apart from files. -/
structure Environment where
  /-- The variables that are set, with their values. -/
  values : List (Text × Text) := []
  /-- The home directory of the account that runs the program, if it has one. -/
  accountHome : Option Text := none
deriving DecidableEq, Repr

namespace Environment

/-- The value of a variable, if it is set. -/
def lookup (env : Environment) (name : Text) : Option Text := env.values.lookup name

/-- The home directory: the value of `HOME`, or that of the account if `HOME` is not set or empty.
An empty name is no directory. -/
def home? (env : Environment) : Option Text :=
  ((env.lookup "HOME".toList).filter (!·.isEmpty)).or (env.accountHome.filter (!·.isEmpty))

/-- What a leading `~` stands for: the home directory, or itself if there is none. -/
def tilde (env : Environment) : Text := env.home?.getD ['~']

end Environment

namespace Template

/-- A part of a template. -/
inductive Part where
  /-- A character that stands for itself. -/
  | char (c : Char)
  /-- The value of a variable, or the given text when the variable is not set. -/
  | valueOf (name : Text) (default : Option Text)
deriving DecidableEq, Repr

/-- The characters of a name without braces. -/
def isNameChar (c : Char) : Bool := Text.isAlphanumeric c || c == '_'

/-- The texts before and behind the first `:-`. -/
def splitDefault? : Text → Option (Text × Text)
  | ':' :: '-' :: t => some ([], t)
  | c :: t => (splitDefault? t).map fun (a, b) => (c :: a, b)
  | [] => none

/-- The variable written between braces.  Without a name there is no default. -/
def braced (t : Text) : Part :=
  match splitDefault? t with
  | some (c :: name, default) => .valueOf (c :: name) (some default)
  | _ => .valueOf t none

/-- The part behind a `$`, and the text behind it.  The characters of a variable's name, its braces
and a second `$` belong to the part. -/
def partAfterDollar (t : Text) : Part × Text :=
  match t with
  | '$' :: t => (.char '$', t)
  | '\x7b' :: body =>
    match body.dropWhile (· != '\x7d') with
    | _ :: rest => (braced (body.takeWhile (· != '\x7d')), rest)
    | [] => (.char '$', t)
  | t =>
    if t.head?.any isNameChar then
      (.valueOf (t.takeWhile isNameChar) none, t.dropWhile isNameChar)
    else (.char '$', t)

theorem length_partAfterDollar_le (t : Text) : (partAfterDollar t).2.length ≤ t.length := by
  unfold partAfterDollar
  split
  · simp
  · rename_i body
    split
    · rename_i rest hdrop
      have := (List.dropWhile_suffix (· != '\x7d') (l := body)).length_le
      simp only [hdrop, List.length_cons] at this
      simp only [List.length_cons]
      omega
    · simp
  · split
    · exact (List.dropWhile_suffix isNameChar).length_le
    · simp

/-- The parts of a template. -/
def parts (t : Text) : List Part :=
  match t with
  | [] => []
  | c :: t =>
    if c = '$' then (partAfterDollar t).1 :: parts (partAfterDollar t).2
    else .char c :: parts t
termination_by t.length
decreasing_by
  · have := length_partAfterDollar_le t
    simp only [List.length_cons]
    omega
  · simp

/-- The names of the variables of a template. -/
def names (t : Text) : List Text :=
  (parts t).filterMap fun
    | .valueOf name _ => some name
    | .char _ => none

/-- What a part stands for, unless its variable is not set and has no default. -/
def Part.expand? (env : Environment) : Part → Option Text
  | .char c => some [c]
  | .valueOf name default => (env.lookup name).or default

/-- The template with its variables filled in. -/
def fill? (env : Environment) (t : Text) : Option Text :=
  ((parts t).mapM (Part.expand? env)).map List.flatten

/-- The path with a leading `~` replaced, which has to stand alone or before a slash. -/
def expandHome (env : Environment) (t : Text) : Text :=
  match t with
  | ['~'] => env.tilde
  | '~' :: '/' :: rest => env.tilde ++ '/' :: rest
  | t => t

/-- The path that a template stands for. -/
def expand? (env : Environment) (t : Text) : Option Text :=
  (fill? env t).map fun path =>
    if t.contains '$' && t.head? != some '~' then path else expandHome env path

/-- The path that a template stands for, or the template itself if it cannot be filled in. -/
def expand (env : Environment) (t : Text) : Text := (expand? env t).getD t

end Template

end TurtleMarkup
