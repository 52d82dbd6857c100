import TurtleMarkup.Text.Word
import TurtleMarkup.Token

/-!
# Lexemes

A lexeme is one thing that a recogniser can find in a line: an IRI reference, a quoted string, a
prefixed name, a language tag or a reserved word.  Each recogniser looks only at the place where
its text begins, at the character before that place, and takes as much as it can.

The recognisers lose nothing: what they are given is the text of the lexeme followed by the rest
(`Lexeme.uri?_eq_some` and the lemmas beside it).
-/

namespace TurtleMarkup

/-- What a recogniser can find. -/
inductive Lexeme where
  /-- An IRI reference `<body>`. -/
  | uri (body : Text)
  /-- A quoted string `"body"`. -/
  | string (body : Text)
  /-- A prefixed name `space:name`. -/
  | prefixedName (space name : Text)
  /-- A language tag `@body`. -/
  | languageTag (body : Text)
  /-- A reserved word. -/
  | keyword (word : Text)
deriving DecidableEq, Repr

namespace Lexeme

/-- The lexeme as it stands in the line. -/
def text : Lexeme → Text
  | .uri body => '<' :: body ++ ['>']
  | .string body => '"' :: body ++ ['"']
  | .prefixedName space name => space ++ ':' :: name
  | .languageTag body => '@' :: body
  | .keyword word => word

/-- The spans of the whole lexeme and of its named parts, counted from where it starts. -/
def groups (l : Lexeme) : List Span :=
  ⟨0, l.text.byteSize⟩ ::
    match l with
    | .uri body | .string body | .languageTag body => [⟨1, 1 + body.byteSize⟩]
    | .prefixedName space name =>
      [⟨0, space.byteSize⟩, ⟨space.byteSize + 1, space.byteSize + 1 + name.byteSize⟩]
    | .keyword word => [⟨0, word.byteSize⟩]

/-- The tokens of a lexeme that starts at `start`.  A prefixed name gives three, with its colon
plain; every other lexeme gives one. -/
def tokens (start : Nat) : Lexeme → List Token
  | .uri body => [.covering .uri start (text (.uri body)).byteSize]
  | .string body => [.covering .string start (text (.string body)).byteSize]
  | .prefixedName space name =>
    [.covering .namespacePart start space.byteSize,
     .covering .plain (start + space.byteSize) 1,
     .covering .localPart (start + space.byteSize + 1) name.byteSize]
  | .languageTag body => [.covering .languageTag start (text (.languageTag body)).byteSize]
  | .keyword word => [.covering .keyword start word.byteSize]

/-! ## Recognisers -/

/-- An IRI reference: `<`, one or more characters other than `>`, and `>`. -/
def uri? : Text → Option (Lexeme × Text)
  | '<' :: t =>
    match t.takeWhile (· != '>'), t.dropWhile (· != '>') with
    | c :: cs, _ :: rest => some (.uri (c :: cs), rest)
    | _, _ => none
  | _ => none

/-- A quoted string: a quote, characters other than a quote, and a quote. -/
def string? : Text → Option (Lexeme × Text)
  | '"' :: t =>
    match t.dropWhile (· != '"') with
    | _ :: rest => some (.string (t.takeWhile (· != '"')), rest)
    | [] => none
  | _ => none

/-- The characters of a local name after its first letter. -/
def isNameChar (c : Char) : Bool := c.isAlphanum || c == '_' || c == '-'

/-- The characters of a language tag after its first letter. -/
def isTagChar (c : Char) : Bool := c.isAlphanum || c == '-'

/-- A letter and the characters of a class that follow it, cut back to a word boundary. -/
def boundedRun? (cls : Char → Bool) (t : Text) : Option (Text × Text) :=
  if t.head?.any Char.isAlpha then
    Text.longestBounded (t.takeWhile cls) (t.dropWhile cls)
  else none

/-- A prefixed name: a letter and letters or digits, a colon, and a local name that starts with a
letter; it starts and ends at a word boundary. -/
def prefixedName? (before : Option Char) (t : Text) : Option (Lexeme × Text) :=
  if Text.isBoundary before t.head? && t.head?.any Char.isAlpha then
    match t.dropWhile Char.isAlphanum with
    | ':' :: rest =>
      (boundedRun? isNameChar rest).map fun (name, rest) =>
        (.prefixedName (t.takeWhile Char.isAlphanum) name, rest)
    | _ => none
  else none

/-- A language tag: `@`, a letter and letters, digits or hyphens, up to a word boundary. -/
def languageTag? : Text → Option (Lexeme × Text)
  | '@' :: t => (boundedRun? isTagChar t).map fun (body, rest) => (.languageTag body, rest)
  | _ => none

/-- The reserved words. -/
def keywords : List Text := ["a".toList, "true".toList, "false".toList]

/-- The word `w` at the beginning of the text, if it ends at a word boundary. -/
def word? (t w : Text) : Option (Lexeme × Text) :=
  if w.isPrefixOf t && Text.isBoundary w.getLast? (t.drop w.length).head? then
    some (.keyword w, t.drop w.length)
  else none

/-- A reserved word between two word boundaries. -/
def keyword? (before : Option Char) (t : Text) : Option (Lexeme × Text) :=
  if Text.isBoundary before t.head? then keywords.findSome? (word? t) else none

/-! ## Nothing is lost -/

theorem uri?_eq_some {t rest : Text} {l : Lexeme} (h : uri? t = some (l, rest)) :
    t = l.text ++ rest ∧ l.text ≠ [] := by
  unfold uri? at h
  split at h
  · rename_i t
    split at h
    · rename_i c cs d rest' htake hdrop
      obtain ⟨rfl, rfl⟩ := by simpa using h
      have hd : (d != '>') = false := by
        have := List.head?_dropWhile_not (· != '>') t
        simpa [hdrop] using this
      have hsplit := List.takeWhile_append_dropWhile (p := (· != '>')) (l := t)
      rw [htake, hdrop] at hsplit
      simp only [bne_eq_false_iff_eq] at hd
      subst hd
      simp [text, ← hsplit]
    · simp at h
  · simp at h

theorem string?_eq_some {t rest : Text} {l : Lexeme} (h : string? t = some (l, rest)) :
    t = l.text ++ rest ∧ l.text ≠ [] := by
  unfold string? at h
  split at h
  · rename_i t
    split at h
    · rename_i d rest' hdrop
      obtain ⟨rfl, rfl⟩ := by simpa using h
      have hd : (d != '"') = false := by
        have := List.head?_dropWhile_not (· != '"') t
        simpa [hdrop] using this
      have hsplit := List.takeWhile_append_dropWhile (p := (· != '"')) (l := t)
      rw [hdrop] at hsplit
      simp only [bne_eq_false_iff_eq] at hd
      subst hd
      simp only [text, ne_eq, reduceCtorEq, not_false_eq_true, and_true, List.cons_append]
      simpa using hsplit.symm
    · simp at h
  · simp at h

theorem boundedRun?_eq_some {cls : Char → Bool} {t run rest : Text}
    (h : boundedRun? cls t = some (run, rest)) : t = run ++ rest ∧ run ≠ [] := by
  unfold boundedRun? at h
  split at h
  · have := Text.longestBounded_eq_some h
    exact ⟨by rw [← this.1, List.takeWhile_append_dropWhile], this.2⟩
  · simp at h

theorem prefixedName?_eq_some {before : Option Char} {t rest : Text} {l : Lexeme}
    (h : prefixedName? before t = some (l, rest)) : t = l.text ++ rest ∧ l.text ≠ [] := by
  unfold prefixedName? at h
  split at h
  · split at h
    · rename_i rest' hdrop
      obtain ⟨⟨name, rest''⟩, hrun, heq⟩ := Option.map_eq_some_iff.1 h
      obtain ⟨rfl, rfl⟩ := by simpa using heq
      have hsplit := List.takeWhile_append_dropWhile (p := Char.isAlphanum) (l := t)
      rw [hdrop, (boundedRun?_eq_some hrun).1] at hsplit
      simpa [text] using hsplit.symm
    · simp at h
  · simp at h

theorem languageTag?_eq_some {t rest : Text} {l : Lexeme}
    (h : languageTag? t = some (l, rest)) : t = l.text ++ rest ∧ l.text ≠ [] := by
  unfold languageTag? at h
  split at h
  · obtain ⟨⟨body, rest'⟩, hrun, heq⟩ := Option.map_eq_some_iff.1 h
    obtain ⟨rfl, rfl⟩ := by simpa using heq
    simp [text, ← (boundedRun?_eq_some hrun).1]
  · simp at h

theorem keyword?_eq_some {before : Option Char} {t rest : Text} {l : Lexeme}
    (h : keyword? before t = some (l, rest)) : t = l.text ++ rest ∧ l.text ≠ [] := by
  unfold keyword? at h
  split at h
  · obtain ⟨w, hw, hword⟩ := List.exists_of_findSome?_eq_some h
    unfold word? at hword
    split at hword
    · rename_i hp
      obtain ⟨rfl, rfl⟩ := by simpa using hword
      obtain ⟨tail, rfl⟩ := List.isPrefixOf_iff_prefix.1 (Bool.and_eq_true_iff.1 hp).1
      refine ⟨by simp [text], ?_⟩
      simp only [keywords, List.mem_cons, List.not_mem_nil, or_false] at hw
      rcases hw with rfl | rfl | rfl <;> simp [text]
    · simp at hword
  · simp at h

end Lexeme

end TurtleMarkup
