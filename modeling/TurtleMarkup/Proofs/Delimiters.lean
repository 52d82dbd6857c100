import TurtleMarkup.Proofs.Borders

/-!
# Prefixed names do not see past a bracket or a quote

No prefixed name contains `<`, `>` or `"`, and none of them belongs to a word.
So the search for prefixed names in a text that has such a character falls into
the search before it and the search behind it, each as if its text stood alone
(`Pass.namesFrom_append_delimiter`).  Every IRI reference and every quoted string
begins and ends with such a character, which makes the search in a line fall into
the searches in the pieces of the line (`Pass.namesFrom_append_text` and
`Pass.namesFrom_text_append`).
-/

namespace TurtleMarkup

/-! ## The recogniser stops at a delimiter -/

namespace Text

variable {cls : Char → Bool} {d : Char}

theorem takeWhile_append_stop (hd : cls d = false) (t rest : Text) :
    (t ++ d :: rest).takeWhile cls = t.takeWhile cls := by
  induction t with
  | nil => simp [hd]
  | cons c t ih => rw [List.cons_append, List.takeWhile_cons, List.takeWhile_cons, ih]

theorem dropWhile_append_stop (hd : cls d = false) (t rest : Text) :
    (t ++ d :: rest).dropWhile cls = t.dropWhile cls ++ d :: rest := by
  induction t with
  | nil => simp [hd]
  | cons c t ih =>
    rw [List.cons_append, List.dropWhile_cons, List.dropWhile_cons, ih]
    split <;> rfl

theorem isBoundary_some_of_not_word (hd : isWordChar d = false) (after : Option Char) :
    isBoundary (some d) after = isBoundary none after := by
  simp [isBoundary, hd]

/-- A character that belongs to no word counts as the end of the text in front of it. -/
theorem isBoundary_head?_append_stop (hd : isWordChar d = false) (before : Option Char)
    (t rest : Text) : isBoundary before (t ++ d :: rest).head? = isBoundary before t.head? := by
  cases t with
  | nil => simp [isBoundary, hd]
  | cons c t => rfl

theorem cutAtBoundary_append_stop (hd : isWordChar d = false) (run t rest : Text) :
    cutAtBoundary run (t ++ d :: rest)
      = (cutAtBoundary run t).map (Prod.map id (· ++ d :: rest)) := by
  induction run generalizing t with
  | nil => rfl
  | cons c run ih =>
    rw [cutAtBoundary, cutAtBoundary, isBoundary_head?_append_stop hd]
    split
    · rfl
    · rw [← List.cons_append]
      exact ih (c :: t)

end Text

namespace Lexeme

/-- A character that ends every name, every language tag and every word. -/
structure Stops (d : Char) : Prop where
  /-- It belongs to no word. -/
  word : Text.isWordChar d = false
  /-- It is no hyphen, which names and language tags may contain. -/
  hyphen : d ≠ '-'
  /-- It is no colon, which stands between the two parts of a name. -/
  colon : d ≠ ':'

namespace Stops

variable {d : Char}

theorem isAlphanum (hd : Stops d) : d.isAlphanum = false := by
  have h := hd.word
  rw [Text.isWordChar, Bool.or_eq_false_iff] at h
  exact h.1

theorem isAlpha (hd : Stops d) : d.isAlpha = false := by
  have h := hd.isAlphanum
  rw [Char.isAlphanum, Bool.or_eq_false_iff] at h
  exact h.1

theorem isNameChar (hd : Stops d) : isNameChar d = false := by
  have h := hd.word
  rw [Text.isWordChar] at h
  simp [Lexeme.isNameChar, h, hd.hyphen]

theorem isTagChar (hd : Stops d) : isTagChar d = false := by
  simp [Lexeme.isTagChar, hd.isAlphanum, hd.hyphen]

end Stops

/-- The characters that enclose IRI references and quoted strings. -/
def isDelimiter (c : Char) : Bool := c == '<' || c == '>' || c == '"'

variable {d : Char}

theorem eq_of_isDelimiter (hd : isDelimiter d = true) : d = '<' ∨ d = '>' ∨ d = '"' := by
  simpa [isDelimiter, or_assoc] using hd

theorem utf8Size_of_isDelimiter (hd : isDelimiter d = true) : d.utf8Size = 1 := by
  rcases eq_of_isDelimiter hd with rfl | rfl | rfl <;> decide

theorem stops_of_isDelimiter (hd : isDelimiter d = true) : Stops d := by
  rcases eq_of_isDelimiter hd with rfl | rfl | rfl <;> exact ⟨by decide, by decide, by decide⟩

theorem boundedRun?_append_stop {cls : Char → Bool} (hd : Stops d) (hcls : cls d = false)
    (t rest : Text) :
    boundedRun? cls (t ++ d :: rest) = (boundedRun? cls t).map (Prod.map id (· ++ d :: rest)) := by
  have hhead : (t ++ d :: rest).head?.any Char.isAlpha = t.head?.any Char.isAlpha := by
    cases t with
    | nil => simp [hd.isAlpha]
    | cons c t => rfl
  rw [boundedRun?, boundedRun?, hhead, Text.takeWhile_append_stop hcls,
    Text.dropWhile_append_stop hcls]
  split
  · exact Text.cutAtBoundary_append_stop hd.word _ _ rest
  · rfl

theorem prefixedName?_append_stop (hd : Stops d) (before : Option Char) (t rest : Text) :
    prefixedName? before (t ++ d :: rest)
      = (prefixedName? before t).map (Prod.map id (· ++ d :: rest)) := by
  cases t with
  | nil => simp [prefixedName?, hd.isAlpha]
  | cons c t =>
    have hhead : (c :: t ++ d :: rest).head? = (c :: t).head? := rfl
    rw [prefixedName?, prefixedName?, hhead, Text.takeWhile_append_stop hd.isAlphanum,
      Text.dropWhile_append_stop hd.isAlphanum]
    split
    · cases hdrop : (c :: t).dropWhile Char.isAlphanum with
      | nil => simp [hd.colon]
      | cons e u =>
        by_cases he : e = ':'
        · subst he
          simp only [List.cons_append, boundedRun?_append_stop hd hd.isNameChar, Option.map_map]
          rfl
        · simp [he]
    · rfl

end Lexeme

/-! ## The search falls apart at a delimiter -/

namespace Piece

theorem groupsFrom_pushGap (pos : Nat) (c : Char) (ps : List Piece) :
    groupsFrom pos (pushGap c ps) = groupsFrom (pos + c.utf8Size) ps := by
  cases ps with
  | nil => rfl
  | cons p ps =>
    cases p with
    | gap t => simp [pushGap, groupsFrom, Nat.add_assoc]
    | found l => simp [pushGap, groupsFrom]

/-- One more character in front moves the tokens of a kind that it does not add to any gap. -/
theorem filter_tokensFrom_pushGap {onGap : Nat → Text → List Token} {keep : Token → Bool} {c : Char}
    (hnil : ∀ pos, (onGap pos []).filter keep = [])
    (hcons : ∀ pos t,
      (onGap pos (c :: t)).filter keep = (onGap (pos + c.utf8Size) t).filter keep)
    (pos : Nat) (ps : List Piece) :
    (tokensFrom onGap pos (pushGap c ps)).filter keep
      = (tokensFrom onGap (pos + c.utf8Size) ps).filter keep := by
  have hnone : (onGap pos [c]).filter keep = [] := by rw [hcons, hnil]
  rcases ps with _ | ⟨t | l, ps⟩
  · show (onGap pos [c] ++ []).filter keep = []
    rw [List.append_nil, hnone]
  · rw [pushGap, tokensFrom, tokensFrom, List.filter_append, List.filter_append, hcons,
      Text.byteSize_cons, Nat.add_assoc]
  · show (onGap pos [c] ++ tokensFrom onGap (pos + c.utf8Size) (.found l :: ps)).filter keep = _
    rw [List.filter_append, hnone, List.nil_append]

end Piece

namespace Pass

/-- The places of the prefixed names of a text that begins at `pos`. -/
def namesFrom (pos : Nat) (t : Text) : List (List Span) :=
  Piece.groupsFrom pos (Pass.prefixedName.pieces t)

variable {d : Char}

@[simp] theorem namesFrom_nil (pos : Nat) : namesFrom pos [] = [] := by
  simp [namesFrom, pieces, piecesAfter, Piece.groupsFrom]

theorem lexeme?_of_not_word (p : Pass) (hd : Text.isWordChar d = false) (t : Text) :
    p.lexeme? (some d) t = p.lexeme? none t := by
  cases p with
  | prefixedName =>
    simp only [lexeme?, Lexeme.prefixedName?, Text.isBoundary_some_of_not_word hd]
  | keyword =>
    simp only [lexeme?, Lexeme.keyword?, Text.isBoundary_some_of_not_word hd]
  | uri | string | languageTag => rfl

/-- Behind a character that belongs to no word a text is cut as if it stood alone. -/
theorem piecesAfter_of_not_word (p : Pass) (hd : Text.isWordChar d = false) (t : Text) :
    p.piecesAfter (some d) t = p.pieces t := by
  rw [pieces]
  cases t with
  | nil => rw [piecesAfter, piecesAfter]
  | cons c t =>
    have hstep := p.lexeme?_of_not_word hd (c :: t)
    cases hfound : p.lexeme? none (c :: t) with
    | none => rw [piecesAfter_of_none hfound, piecesAfter_of_none (hstep.trans hfound)]
    | some found =>
      obtain ⟨l, rest⟩ := found
      rw [piecesAfter_of_some hfound, piecesAfter_of_some (hstep.trans hfound)]

theorem lexeme?_nil (p : Pass) (before : Option Char) : p.lexeme? before [] = none := by
  cases hfound : p.lexeme? before [] with
  | none => rfl
  | some found =>
    obtain ⟨htext, hne⟩ := lexeme?_eq_some hfound
    simp_all

/-- A search falls apart at a character that no lexeme reaches. -/
theorem groupsFrom_append_of_local {p : Pass} {rest : Text}
    (hlocal : ∀ before t, p.lexeme? before (t ++ d :: rest)
      = (p.lexeme? before t).map (Prod.map id (· ++ d :: rest)))
    (before : Option Char) (pos : Nat) (t : Text) :
    Piece.groupsFrom pos (p.piecesAfter before (t ++ d :: rest))
      = Piece.groupsFrom pos (p.piecesAfter before t)
        ++ Piece.groupsFrom (pos + t.byteSize + d.utf8Size) (p.piecesAfter (some d) rest) := by
  fun_induction piecesAfter p before t generalizing pos with
  | case1 before =>
    have hnone : p.lexeme? before (d :: rest) = none := by
      simpa [lexeme?_nil] using hlocal before []
    rw [List.nil_append, piecesAfter_of_none hnone, Piece.groupsFrom_pushGap]
    simp [Piece.groupsFrom]
  | case2 before c cs l rest' h ih =>
    have hfound : p.lexeme? before (c :: (cs ++ d :: rest)) = some (l, rest' ++ d :: rest) := by
      simpa [h] using hlocal before (c :: cs)
    have hsize : Text.byteSize (c :: cs) = l.text.byteSize + rest'.byteSize := by
      rw [(lexeme?_eq_some h).1, Text.byteSize_append]
    rw [List.cons_append, piecesAfter_of_some hfound, Piece.groupsFrom, Piece.groupsFrom, ih,
      hsize, List.cons_append, Nat.add_assoc pos l.text.byteSize]
  | case3 before c cs h ih =>
    have hnone : p.lexeme? before (c :: (cs ++ d :: rest)) = none := by
      simpa [h] using hlocal before (c :: cs)
    rw [List.cons_append, piecesAfter_of_none hnone, Piece.groupsFrom_pushGap,
      Piece.groupsFrom_pushGap, ih, Text.byteSize_cons, Nat.add_assoc pos c.utf8Size]

/-- The prefixed names of a text with a delimiter are those before it and those behind it. -/
theorem namesFrom_append_delimiter (hd : Lexeme.isDelimiter d = true) (pos : Nat) (t rest : Text) :
    namesFrom pos (t ++ d :: rest)
      = namesFrom pos t ++ namesFrom (pos + t.byteSize + 1) rest := by
  have hstops := Lexeme.stops_of_isDelimiter hd
  have hlocal : ∀ before t, Pass.prefixedName.lexeme? before (t ++ d :: rest)
      = (Pass.prefixedName.lexeme? before t).map (Prod.map id (· ++ d :: rest)) :=
    fun before t => Lexeme.prefixedName?_append_stop hstops before t rest
  rw [namesFrom, pieces, groupsFrom_append_of_local hlocal,
    Pass.prefixedName.piecesAfter_of_not_word hstops.word, Lexeme.utf8Size_of_isDelimiter hd]
  rfl

/-! ## Enclosed lexemes -/

variable {l : Lexeme}

theorem exists_delimiters (hl : l.pass = .uri ∨ l.pass = .string) :
    ∃ d body d', l.text = d :: (body ++ [d']) ∧ Lexeme.isDelimiter d = true ∧
      Lexeme.isDelimiter d' = true := by
  cases l with
  | uri body => exact ⟨'<', body, '>', rfl, by decide, by decide⟩
  | string body => exact ⟨'"', body, '"', rfl, by decide, by decide⟩
  | prefixedName | languageTag | keyword => simp [Lexeme.pass] at hl

/-- What stands before an enclosed lexeme is searched as if it stood alone. -/
theorem namesFrom_append_text (hl : l.pass = .uri ∨ l.pass = .string) (pos : Nat) (t rest : Text) :
    namesFrom pos (t ++ (l.text ++ rest))
      = namesFrom pos t ++ namesFrom (pos + t.byteSize) (l.text ++ rest) := by
  obtain ⟨d, body, d', htext, hd, -⟩ := exists_delimiters hl
  have hfront := namesFrom_append_delimiter hd (pos + t.byteSize) [] (body ++ [d'] ++ rest)
  rw [List.nil_append, namesFrom_nil, List.nil_append, Text.byteSize_nil, Nat.add_zero] at hfront
  rw [htext, List.cons_append, namesFrom_append_delimiter hd, hfront]

/-- What stands behind an enclosed lexeme is searched as if it stood alone. -/
theorem namesFrom_text_append (hl : l.pass = .uri ∨ l.pass = .string) (pos : Nat) (rest : Text) :
    namesFrom pos (l.text ++ rest)
      = namesFrom pos l.text ++ namesFrom (pos + l.text.byteSize) rest := by
  obtain ⟨d, body, d', htext, -, hd'⟩ := exists_delimiters hl
  have hsize := Lexeme.utf8Size_of_isDelimiter hd'
  have hsplit : l.text = (d :: body) ++ [d'] := htext
  rw [hsplit, List.append_assoc, List.singleton_append, namesFrom_append_delimiter hd',
    namesFrom_append_delimiter hd', namesFrom_nil, List.append_nil, Text.byteSize_append,
    Text.byteSize_cons d' [], hsize, Text.byteSize_nil, Nat.add_zero, Nat.add_assoc]

end Pass

end TurtleMarkup
