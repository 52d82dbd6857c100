import TurtleMarkup.Text.Digits
import TurtleMarkup.Toml.Layout

/-!
# Reading quoted strings

TOML has four forms of strings: basic strings in double quotes, with escapes, literal strings in
single quotes, without, and both over several lines in triple quotes.

Every reader takes the text behind the opening quotes and gives what the string says, and the text
behind the closing quotes.
-/

namespace TurtleMarkup.Toml.Quoted

/-- A character by the number that `width` hexadecimal digits spell. -/
def codePoint? (width : Nat) (t : Text) : Option (Char × Text) :=
  match Text.number? 16 (t.take width) with
  | some n => if width ≤ t.length ∧ n.isValidChar then some (Char.ofNat n, t.drop width) else none
  | none => none

/-- The character of an escape, read behind its backslash. -/
def escape? : Text → Option (Char × Text)
  | 'b' :: t => some ('\x08', t)
  | 't' :: t => some ('\t', t)
  | 'n' :: t => some ('\n', t)
  | 'f' :: t => some ('\x0c', t)
  | 'r' :: t => some ('\r', t)
  | 'e' :: t => some ('\x1b', t)
  | '"' :: t => some ('"', t)
  | '\\' :: t => some ('\\', t)
  | 'x' :: t => codePoint? 2 t
  | 'u' :: t => codePoint? 4 t
  | 'U' :: t => codePoint? 8 t
  | _ => none

theorem length_le_of_codePoint? {width : Nat} {t rest : Text} {c : Char}
    (h : codePoint? width t = some (c, rest)) : rest.length ≤ t.length := by
  unfold codePoint? at h
  split at h
  · split at h
    · simp only [Option.some.injEq, Prod.mk.injEq] at h
      simp [← h.2]
    · simp at h
  · simp at h

theorem length_lt_of_escape? {t rest : Text} {c : Char} (h : escape? t = some (c, rest)) :
    rest.length < t.length := by
  unfold escape? at h
  split at h
  case h_9 | h_10 | h_11 => exact Nat.lt_succ_of_le (length_le_of_codePoint? h)
  all_goals simp_all

/-- A basic string. -/
def basic? (t : Text) : Option (Text × Text) :=
  match t with
  | [] => none
  | '"' :: t => some ([], t)
  | '\\' :: t =>
    match _h : escape? t with
    | some (c, rest) => (basic? rest).map fun (s, rest) => (c :: s, rest)
    | none => none
  | c :: t => if isTextChar c then (basic? t).map fun (s, rest) => (c :: s, rest) else none
termination_by t.length
decreasing_by
  · have := length_lt_of_escape? _h
    simp only [List.length_cons]
    omega
  · simp

/-- A literal string. -/
def literal? (t : Text) : Option (Text × Text) :=
  let body := t.takeWhile (· != '\x27')
  match t.dropWhile (· != '\x27') with
  | _ :: rest => if body.all isTextChar then some (body, rest) else none
  | [] => none

/-- Up to two quotes that belong to a string although the closing quotes stand before them: the
closing quotes are the last three of the row. -/
def lastQuotes (quote : Char) (t : Text) : Text × Text :=
  let row := (t.take 2).takeWhile (· == quote)
  (row, t.drop row.length)

/-- The text behind a line end that a backslash hides, with the blanks around it. -/
def continuation? (t : Text) : Option Text := (lineEnd? (skipBlanks t)).map skipSpace

theorem length_lt_of_lineEnd? {t rest : Text} (h : lineEnd? t = some rest) :
    rest.length < t.length := by
  unfold lineEnd? at h
  split at h
  · obtain rfl := Option.some.inj h
    exact Nat.lt_succ_self _
  · obtain rfl := Option.some.inj h
    exact Nat.lt_succ_of_lt (Nat.lt_succ_self _)
  · cases h

theorem length_lt_of_continuation? {t rest : Text} (h : continuation? t = some rest) :
    rest.length < t.length := by
  obtain ⟨u, hu, rfl⟩ := Option.map_eq_some_iff.1 h
  have h₁ := length_lt_of_lineEnd? hu
  have h₂ := length_skipSpace_le u
  have h₃ : (skipBlanks t).length ≤ t.length := (List.dropWhile_suffix isBlank (l := t)).length_le
  omega

/-- A basic string over several lines. -/
def multilineBasic? (t : Text) : Option (Text × Text) :=
  match t with
  | [] => none
  | '"' :: '"' :: '"' :: t => some (lastQuotes '"' t)
  | '\\' :: t =>
    match _h : continuation? t with
    | some rest => multilineBasic? rest
    | none =>
      match _h : escape? t with
      | some (c, rest) => (multilineBasic? rest).map fun (s, rest) => (c :: s, rest)
      | none => none
  | '\r' :: '\n' :: t => (multilineBasic? t).map fun (s, rest) => ('\r' :: '\n' :: s, rest)
  | c :: t =>
    if c == '\n' || isTextChar c then (multilineBasic? t).map fun (s, rest) => (c :: s, rest)
    else none
termination_by t.length
decreasing_by
  · have := length_lt_of_continuation? _h
    simp only [List.length_cons]
    omega
  · have := length_lt_of_escape? _h
    simp only [List.length_cons]
    omega
  · simp only [List.length_cons]
    omega
  · simp

/-- A literal string over several lines. -/
def multilineLiteral? : Text → Option (Text × Text)
  | [] => none
  | '\x27' :: '\x27' :: '\x27' :: t => some (lastQuotes '\x27' t)
  | '\r' :: '\n' :: t => (multilineLiteral? t).map fun (s, rest) => ('\r' :: '\n' :: s, rest)
  | c :: t =>
    if c == '\n' || isTextChar c then (multilineLiteral? t).map fun (s, rest) => (c :: s, rest)
    else none

/-- A string of any form, its opening quotes included.  A line end right behind triple quotes does
not belong to the string. -/
def string? : Text → Option (Text × Text)
  | '"' :: '"' :: '"' :: t => multilineBasic? (skipLineEnd t)
  | '"' :: t => basic? t
  | '\x27' :: '\x27' :: '\x27' :: t => multilineLiteral? (skipLineEnd t)
  | '\x27' :: t => literal? t
  | _ => none

end TurtleMarkup.Toml.Quoted
