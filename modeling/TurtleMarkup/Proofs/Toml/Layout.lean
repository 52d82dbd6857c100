import TurtleMarkup.Proofs.LongestRun
import TurtleMarkup.Toml.Layout

/-!
# What stands between the parts of a document

Blanks, line ends and comments are described here by themselves, and the readers
pass over exactly as much as they should: `skipSpace` over space up to something
solid, `endOfLine?` over the remainder of a line, `skipFiller` over lines without
an assignment.

`EndsValue` says what may follow a value in a document, which is what the readers
of values need to know about the text behind them.
-/

namespace TurtleMarkup.Toml

/-- A line feed, which a carriage return may precede. -/
def IsLineEnd (e : Text) : Prop := e = ['\n'] ∨ e = ['\r', '\n']

/-- Spaces and tabs. -/
def IsBlanks (b : Text) : Prop := ∀ c ∈ b, isBlank c = true

/-- Blanks and line ends, in any order. -/
inductive IsSpace : Text → Prop where
  | nil : IsSpace []
  | blank {c : Char} {t : Text} (hc : isBlank c = true) (h : IsSpace t) : IsSpace (c :: t)
  | lineEnd {e t : Text} (he : IsLineEnd e) (h : IsSpace t) : IsSpace (e ++ t)

/-- The text begins with neither a blank nor a line end. -/
def StartsSolid (t : Text) : Prop := ∀ c ∈ t.head?, isBlank c = false ∧ c ≠ '\n' ∧ c ≠ '\r'

/-- What a line may hold besides an assignment: blanks, and a comment behind them. -/
inductive IsFiller : Text → Prop where
  | blanks {b : Text} (hb : IsBlanks b) : IsFiller b
  | comment {b body : Text} (hb : IsBlanks b) (hbody : ∀ c ∈ body, isTextChar c = true) :
    IsFiller (b ++ '#' :: body)

/-- How a line ends in front of a text: with a line end, or with nothing where nothing follows. -/
inductive EndsLine (rest : Text) : Text → Prop where
  | lineEnd {e : Text} (h : IsLineEnd e) : EndsLine rest e
  | last (h : rest = []) : EndsLine rest []

/-- What may follow a value: the remainder of its line, and further lines. -/
def EndsValue (t : Text) : Prop :=
  ∃ f e rest, IsFiller f ∧ EndsLine rest e ∧ t = f ++ (e ++ rest)

variable {b e f rest t u space : Text}

/-! ## Blanks and line ends -/

theorem skipBlanks_append (hb : IsBlanks b) (t : Text) : skipBlanks (b ++ t) = skipBlanks t :=
  List.dropWhile_append_of_pos hb

theorem skipBlanks_of_solid (h : ∀ c ∈ t.head?, isBlank c = false) : skipBlanks t = t := by
  cases t with
  | nil => rfl
  | cons c t => exact List.dropWhile_cons_of_neg (by simp [h c rfl])

theorem lineEnd?_append (he : IsLineEnd e) (t : Text) : lineEnd? (e ++ t) = some t := by
  rcases he with rfl | rfl <;> rfl

/-- What a line end begins with is neither a blank nor a character of texts. -/
theorem EndsLine.head (he : EndsLine rest e) {c : Char} (hc : c ∈ (e ++ rest).head?) :
    c = '\n' ∨ c = '\r' := by
  cases he with
  | lineEnd h =>
    rcases h with rfl | rfl
    · exact .inl (by simpa using hc.symm)
    · exact .inr (by simpa using hc.symm)
  | last h => simp [h] at hc

theorem EndsLine.skipBlanks (he : EndsLine rest e) : skipBlanks (e ++ rest) = e ++ rest := by
  refine skipBlanks_of_solid fun c hc => ?_
  rcases he.head hc with rfl | rfl <;> rfl

theorem IsBlanks.isSpace (hb : IsBlanks b) : IsSpace b := by
  induction b with
  | nil => exact .nil
  | cons c b ih =>
    exact .blank (hb c List.mem_cons_self) (ih fun d hd => hb d (List.mem_cons_of_mem c hd))

theorem skipSpace_cons {c : Char} (hc : isBlank c = true ∨ c = '\n') (t : Text) :
    skipSpace (c :: t) = skipSpace t := by
  rw [skipSpace.eq_def]
  exact if_pos (by simpa using hc)

theorem skipSpace_append (h : IsSpace space) (t : Text) : skipSpace (space ++ t) = skipSpace t := by
  induction h with
  | nil => rfl
  | blank hc _ ih => rw [List.cons_append, skipSpace_cons (.inl hc), ih]
  | lineEnd he _ ih =>
    rcases he with rfl | rfl
    · rw [List.append_assoc, List.singleton_append, skipSpace_cons (.inr rfl), ih]
    · rw [List.append_assoc]
      exact ih

theorem skipSpace_of_solid (h : StartsSolid t) : skipSpace t = t := by
  cases t with
  | nil => rfl
  | cons c t =>
    obtain ⟨hblank, hfeed, hreturn⟩ := h c rfl
    rw [skipSpace, if_neg (by simp [hblank, hfeed])]
    exact fun _ hc => absurd hc hreturn

/-! ## The remainder of a line -/

theorem dropWhile_isTextChar_append {body : Text} (hbody : ∀ c ∈ body, isTextChar c = true)
    (he : EndsLine rest e) : (body ++ (e ++ rest)).dropWhile isTextChar = e ++ rest := by
  refine (Text.isRun_of_head hbody fun c hc => ?_).dropWhile_eq
  rcases he.head hc with rfl | rfl <;> rfl

theorem skipComment_skipBlanks (hf : IsFiller f) (he : EndsLine rest e) :
    skipComment (skipBlanks (f ++ (e ++ rest))) = e ++ rest := by
  cases hf with
  | blanks hb =>
    rw [skipBlanks_append hb, he.skipBlanks]
    unfold skipComment
    split
    · rename_i u hu
      rcases he.head (c := '#') (by simp [hu]) with h | h <;> cases h
    · rfl
  | comment hb hbody =>
    rw [List.append_assoc, skipBlanks_append hb]
    exact dropWhile_isTextChar_append hbody he

/-- The remainder of a line is passed over, and nothing more. -/
theorem endOfLine?_append (hf : IsFiller f) (he : EndsLine rest e) :
    endOfLine? (f ++ (e ++ rest)) = some rest := by
  rw [endOfLine?, skipComment_skipBlanks hf he]
  cases he with
  | lineEnd h => rcases h with rfl | rfl <;> rfl
  | last h => rw [h]; rfl

/-- A value is followed by nothing, a blank, a comment or a line end. -/
theorem EndsValue.head (h : EndsValue t) {c : Char} (hc : c ∈ t.head?) :
    isBlank c = true ∨ c = '#' ∨ c = '\n' ∨ c = '\r' := by
  obtain ⟨f, e, rest, hf, he, rfl⟩ := h
  have hblanks : ∀ {b : Text}, IsBlanks b → ∀ u, c ∈ (b ++ u).head? →
      isBlank c = true ∨ c ∈ u.head? := by
    intro b hb u hc
    cases b with
    | nil => exact .inr hc
    | cons d b =>
      obtain rfl : d = c := by simpa using hc
      exact .inl (hb d List.mem_cons_self)
  cases hf with
  | blanks hb =>
    rcases hblanks hb _ hc with hblank | hend
    · exact .inl hblank
    · exact .inr (.inr (he.head hend))
  | comment hb hbody =>
    rw [List.append_assoc] at hc
    rcases hblanks hb _ hc with hblank | hmarker
    · exact .inl hblank
    · exact .inr (.inl (by simpa using hmarker.symm))

/-- Behind a blank that follows a value stands what could follow the value as well. -/
theorem EndsValue.tail {c : Char} (hc : isBlank c = true) (h : EndsValue (c :: t)) :
    EndsValue t := by
  obtain ⟨f, e, rest, hf, he, heq⟩ := h
  cases hf with
  | blanks hb =>
    cases f with
    | nil =>
      have hend := he.head (c := c) (by rw [List.nil_append] at heq; simp [← heq])
      rcases hend with rfl | rfl <;> cases hc
    | cons d b =>
      obtain ⟨rfl, rfl⟩ := List.cons.inj heq
      exact ⟨b, e, rest, .blanks fun x hx => hb x (List.mem_cons_of_mem c hx), he, rfl⟩
  | comment hb hbody =>
    rename_i b body
    cases b with
    | nil =>
      obtain ⟨rfl, -⟩ := List.cons.inj heq
      cases hc
    | cons d b =>
      obtain ⟨rfl, rfl⟩ := List.cons.inj heq
      exact ⟨_, e, rest, .comment (fun x hx => hb x (List.mem_cons_of_mem c hx)) hbody, he, rfl⟩

/-! ## Lines without an assignment -/

/-- Of the space at the beginning nothing is left. -/
theorem skipFiller_congr (h : skipSpace t = skipSpace u) : skipFiller t = skipFiller u := by
  rw [skipFiller.eq_def t, skipFiller.eq_def u, h]

theorem skipFiller_space (h : IsSpace space) (t : Text) : skipFiller (space ++ t) = skipFiller t :=
  skipFiller_congr (skipSpace_append h t)

theorem skipFiller_endsLine (he : EndsLine rest e) : skipFiller (e ++ rest) = skipFiller rest := by
  cases he with
  | lineEnd h =>
    have hspace := IsSpace.lineEnd h .nil
    rw [List.append_nil] at hspace
    exact skipFiller_space hspace rest
  | last h => rfl

/-- A line without an assignment is passed over. -/
theorem skipFiller_append (hf : IsFiller f) (he : EndsLine rest e) :
    skipFiller (f ++ (e ++ rest)) = skipFiller rest := by
  cases hf with
  | blanks hb => rw [skipFiller_space hb.isSpace, skipFiller_endsLine he]
  | comment hb hbody =>
    rename_i b body
    have hsolid : skipSpace ('#' :: (body ++ (e ++ rest))) = '#' :: (body ++ (e ++ rest)) :=
      skipSpace_of_solid fun c hc => by
        obtain rfl : '#' = c := by simpa using hc
        decide
    rw [List.append_assoc, skipFiller_space hb.isSpace, List.cons_append, skipFiller.eq_def, hsolid]
    show skipFiller ((body ++ (e ++ rest)).dropWhile isTextChar) = skipFiller rest
    rw [dropWhile_isTextChar_append hbody he, skipFiller_endsLine he]

end TurtleMarkup.Toml
