import TurtleMarkup.Proofs.Numerals
import TurtleMarkup.Proofs.Toml.Layout
import TurtleMarkup.Toml.Quoted.Reader

/-!
# Spellings of a string

A string is spelled on one line or over several, between double quotes, where
escapes are allowed, or between single ones, where they are not.
`SpellsString s t` says that `t` is such a spelling of `s`; a text has unboundedly
many.  Every spelling is read as the text that it spells, and the reader stops
behind the closing quotes (`string?_of_spells`).

Over several lines the difficulty is the quotes: up to two of them in a row belong
to the string, and a reader decides at the first one.  The induction therefore
keeps the quotes of an unfinished row in the input (`ReadsLines.read_append`), and
`ReadsQuotes` says what both readers do with them.
-/

namespace TurtleMarkup.Toml.Quoted

/-! ## What a spelling is -/

/-- The signs that stand for a character behind a backslash. -/
def namedEscapes : List (Char × Char) :=
  [('b', '\x08'), ('t', '\t'), ('n', '\n'), ('f', '\x0c'), ('r', '\r'), ('e', '\x1b'), ('"', '"'),
    ('\\', '\\')]

/-- The signs that introduce the number of a character behind a backslash, and how many digits it
has then. -/
def codeEscapes : List (Char × Nat) := [('x', 2), ('u', 4), ('U', 8)]

/-- Behind a backslash the text stands for the character. -/
inductive SpellsEscape (c : Char) : Text → Prop where
  | named {name : Char} (h : (name, c) ∈ namedEscapes) : SpellsEscape c [name]
  | code {sign : Char} {width : Nat} {digits : Text} (h : (sign, width) ∈ codeEscapes)
    (hwidth : digits.length = width) (hdigits : Text.Denotes 16 c.toNat digits) :
    SpellsEscape c (sign :: digits)

/-- The quotes around a string. -/
inductive Delimiter where
  | double
  | single

namespace Delimiter

/-- The quote itself. -/
def quote : Delimiter → Char
  | .double => '"'
  | .single => '\x27'

/-- Whether a backslash introduces an escape. -/
def escapes : Delimiter → Bool
  | .double => true
  | .single => false

/-- The character stands for itself between the quotes. -/
def IsPlain (d : Delimiter) (c : Char) : Prop :=
  isTextChar c = true ∧ c ≠ d.quote ∧ (d.escapes = true → c ≠ '\\')

end Delimiter

/-- Between quotes on one line, the second text stands for the first. -/
inductive SpellsLine (d : Delimiter) : Text → Text → Prop where
  | nil : SpellsLine d [] []
  | plain {c : Char} {s t : Text} (hc : d.IsPlain c) (h : SpellsLine d s t) :
    SpellsLine d (c :: s) (c :: t)
  | escape {c : Char} {e s t : Text} (hd : d.escapes = true) (he : SpellsEscape c e)
    (h : SpellsLine d s t) : SpellsLine d (c :: s) ('\\' :: (e ++ t))

/-- Between triple quotes, the second text stands for the first, where `row` quotes stand right
before it.  No three quotes stand in a row.  A backslash at the end of a line hides the line end
and all space up to something solid. -/
inductive SpellsLines (d : Delimiter) : Nat → Text → Text → Prop where
  | nil {row : Nat} : SpellsLines d row [] []
  | quote {row : Nat} {s t : Text} (hrow : row < 2) (h : SpellsLines d (row + 1) s t) :
    SpellsLines d row (d.quote :: s) (d.quote :: t)
  | plain {row : Nat} {c : Char} {s t : Text} (hc : d.IsPlain c) (h : SpellsLines d 0 s t) :
    SpellsLines d row (c :: s) (c :: t)
  | lineEnd {row : Nat} {e s t : Text} (he : IsLineEnd e) (h : SpellsLines d 0 s t) :
    SpellsLines d row (e ++ s) (e ++ t)
  | escape {row : Nat} {c : Char} {e s t : Text} (hd : d.escapes = true) (he : SpellsEscape c e)
    (h : SpellsLines d 0 s t) : SpellsLines d row (c :: s) ('\\' :: (e ++ t))
  | hiddenLineEnd {row : Nat} {b e space s t : Text} (hd : d.escapes = true) (hb : IsBlanks b)
    (he : IsLineEnd e) (hspace : IsSpace space) (ht : StartsSolid t) (h : SpellsLines d 0 s t) :
    SpellsLines d row s ('\\' :: (b ++ (e ++ (space ++ t))))

/-- The text is a spelling of the string, with its quotes.  A line end right behind opening triple
quotes does not belong to the string. -/
inductive SpellsString (s : Text) : Text → Prop where
  | line {d : Delimiter} {t : Text} (h : SpellsLine d s t) :
    SpellsString s (d.quote :: (t ++ [d.quote]))
  | lines {d : Delimiter} {opening t : Text}
    (hopening : IsLineEnd opening ∨ opening = [] ∧ t.head? ≠ some '\n' ∧ t.head? ≠ some '\r')
    (h : SpellsLines d 0 s t) :
    SpellsString s (d.quote :: d.quote :: d.quote ::
      (opening ++ (t ++ [d.quote, d.quote, d.quote])))

/-! ## Escapes -/

/-- Characters that neither begin a line end nor stand in front of one. -/
def StartsEscape (d : Char) : Prop := isBlank d = false ∧ d ≠ '\n' ∧ d ≠ '\r'

instance (d : Char) : Decidable (StartsEscape d) := inferInstanceAs (Decidable (_ ∧ _ ∧ _))

theorem codePoint?_of_denotes {width : Nat} {c : Char} {digits : Text}
    (hwidth : digits.length = width) (h : Text.Denotes 16 c.toNat digits) (rest : Text) :
    codePoint? width (digits ++ rest) = some (c, rest) := by
  have hcond : width ≤ (digits ++ rest).length ∧ c.toNat.isValidChar :=
    ⟨by simp [hwidth], c.valid⟩
  rw [codePoint?, List.take_left' hwidth, h.number?]
  simp only [if_pos hcond, Char.ofNat_toNat, List.drop_left' hwidth]

/-- An escape is read as its character. -/
theorem SpellsEscape.read {c : Char} {e : Text} (h : SpellsEscape c e) :
    ∃ d body, e = d :: body ∧ StartsEscape d ∧
      ∀ rest, escape? (d :: (body ++ rest)) = some (c, rest) := by
  cases h with
  | named h =>
    simp only [namedEscapes, List.mem_cons, Prod.mk.injEq, List.not_mem_nil, or_false] at h
    rcases h with ⟨rfl, rfl⟩ | ⟨rfl, rfl⟩ | ⟨rfl, rfl⟩ | ⟨rfl, rfl⟩ | ⟨rfl, rfl⟩ | ⟨rfl, rfl⟩ |
      ⟨rfl, rfl⟩ | ⟨rfl, rfl⟩ <;> exact ⟨_, [], rfl, by decide, fun _ => rfl⟩
  | code h hwidth hdigits =>
    simp only [codeEscapes, List.mem_cons, Prod.mk.injEq, List.not_mem_nil, or_false] at h
    rcases h with ⟨rfl, rfl⟩ | ⟨rfl, rfl⟩ | ⟨rfl, rfl⟩ <;>
      exact ⟨_, _, rfl, by decide, codePoint?_of_denotes hwidth hdigits⟩

/-! ## Strings on one line -/

/-- A string with one more character in front, and the text behind it. -/
def prepend (c : Char) (r : Text × Text) : Text × Text := (c :: r.1, r.2)

theorem basic?_quote (t : Text) : basic? ('"' :: t) = some ([], t) := by rw [basic?]

theorem basic?_of_escape {c : Char} {t rest : Text} (h : escape? t = some (c, rest)) :
    basic? ('\\' :: t) = (basic? rest).map (prepend c) := by
  rw [basic?]
  split
  · rename_i c' rest' h'
    obtain ⟨rfl, rfl⟩ : c = c' ∧ rest = rest' := by simpa [h] using h'
    rfl
  · rename_i h'
    rw [h] at h'
    cases h'

theorem basic?_of_plain {c : Char} (h : Delimiter.double.IsPlain c) (t : Text) :
    basic? (c :: t) = (basic? t).map (prepend c) := by
  rw [basic?, if_pos h.1]
  · rfl
  · exact h.2.1
  · exact h.2.2 rfl

theorem basic?_append {s t : Text} (h : SpellsLine .double s t) (rest : Text) :
    basic? (t ++ '"' :: rest) = some (s, rest) := by
  induction h with
  | nil => exact basic?_quote rest
  | plain hc _ ih =>
    rw [List.cons_append, basic?_of_plain hc, ih]
    rfl
  | escape _ he _ ih =>
    obtain ⟨d, body, rfl, -, hread⟩ := he.read
    rw [List.cons_append, List.append_assoc, List.cons_append, basic?_of_escape (hread _), ih]
    rfl

/-- Without escapes a string is spelled as it is. -/
theorem SpellsLine.of_single {s t : Text} (h : SpellsLine .single s t) :
    s = t ∧ ∀ c ∈ t, isTextChar c = true ∧ c ≠ '\x27' := by
  induction h with
  | nil => simp
  | plain hc _ ih => exact ⟨by rw [ih.1], by simpa using ⟨⟨hc.1, hc.2.1⟩, ih.2⟩⟩
  | escape hd _ _ _ => cases hd

theorem literal?_append {t : Text} (h : ∀ c ∈ t, isTextChar c = true ∧ c ≠ '\x27') (rest : Text) :
    literal? (t ++ '\x27' :: rest) = some (t, rest) := by
  have hne : ∀ c ∈ t, (c != '\x27') = true := fun c hc => by simpa using (h c hc).2
  have htake := Text.takeWhile_run hne (d := '\x27') rfl rest
  have hdrop := Text.dropWhile_run hne (d := '\x27') rfl rest
  simp only [literal?, htake, hdrop]
  rw [if_pos (List.all_eq_true.2 fun c hc => (h c hc).1)]

/-! ## Rows of quotes -/

/-- The reader takes three quotes as the closing ones, and a quote that is not the first of three
as a character of the string. -/
structure ReadsQuotes (q : Char) (read : Text → Option (Text × Text)) : Prop where
  closing : ∀ t, read (q :: q :: q :: t) = some (lastQuotes q t)
  inside : ∀ t, (∀ u, t ≠ q :: q :: u) → read (q :: t) = (read t).map (prepend q)

/-- The text does not begin with the character. -/
def NotAtStart (q : Char) (t : Text) : Prop := t.head? ≠ some q

theorem lastQuotes_replicate_append {q : Char} {row : Nat} {rest : Text} (hrow : row ≤ 2)
    (hrest : NotAtStart q rest) :
    lastQuotes q (List.replicate row q ++ rest) = (List.replicate row q, rest) := by
  have hstop : ∀ n, (rest.take n).takeWhile (· == q) = [] := by
    intro n
    cases n with
    | zero => rfl
    | succ n =>
      cases rest with
      | nil => rfl
      | cons c rest =>
        have hc : (c == q) = false := by
          rw [beq_eq_false_iff_ne]
          rintro rfl
          exact hrest rfl
        rw [List.take_succ_cons, List.takeWhile_cons_of_neg (by rw [hc]; exact Bool.false_ne_true)]
  have hquotes : ∀ c ∈ List.replicate row q, (c == q) = true := by
    intro c hc
    rw [List.eq_of_mem_replicate hc, beq_self_eq_true]
  have hrow : ((List.replicate row q ++ rest).take 2).takeWhile (· == q)
      = List.replicate row q := by
    rw [List.take_append, List.take_of_length_le (by simpa using hrow),
      List.takeWhile_append_of_pos hquotes, hstop, List.append_nil]
  simp only [lastQuotes, hrow, List.length_replicate]
  rw [List.drop_left' List.length_replicate]

theorem replicate_append_cons (q : Char) (row : Nat) (t : Text) :
    List.replicate row q ++ q :: t = List.replicate (row + 1) q ++ t := by
  rw [List.replicate_succ', List.append_assoc, List.singleton_append]

namespace ReadsQuotes

variable {q : Char} {read : Text → Option (Text × Text)} {row : Nat}

/-- Up to two quotes in front of the closing ones belong to the string. -/
theorem read_closing (h : ReadsQuotes q read) (hrow : row ≤ 2) {rest : Text}
    (hrest : NotAtStart q rest) :
    read (List.replicate row q ++ q :: q :: q :: rest) = some (List.replicate row q, rest) := by
  have hcomm : List.replicate row q ++ q :: q :: q :: rest
      = q :: q :: q :: (List.replicate row q ++ rest) := by
    have hadd : List.replicate row q ++ List.replicate 3 q
        = List.replicate 3 q ++ List.replicate row q := by
      rw [List.replicate_append_replicate, List.replicate_append_replicate, Nat.add_comm]
    show List.replicate row q ++ (List.replicate 3 q ++ rest) = _
    rw [← List.append_assoc, hadd, List.append_assoc]
    rfl
  rw [hcomm, h.closing, lastQuotes_replicate_append hrow hrest]

/-- Up to two quotes in front of another character belong to the string. -/
theorem read_inside (h : ReadsQuotes q read) (hrow : row ≤ 2) {d : Char} (hd : d ≠ q) (t : Text) :
    read (List.replicate row q ++ d :: t)
      = (read (d :: t)).map fun r => (List.replicate row q ++ r.1, r.2) := by
  induction row with
  | zero => simp
  | succ row ih =>
    have hshort : ∀ u, List.replicate row q ++ d :: t ≠ q :: q :: u := by
      intro u heq
      have hrow : row = 0 ∨ row = 1 := by omega
      rcases hrow with rfl | rfl
      · exact hd (List.cons.inj heq).1
      · exact hd (List.cons.inj (List.cons.inj heq).2).1
    rw [List.replicate_succ, List.cons_append, h.inside _ hshort, ih (by omega), Option.map_map]
    rfl

end ReadsQuotes

/-! ## Strings over several lines -/

/-- What the readers of both kinds of strings over several lines do with each part. -/
structure ReadsLines (d : Delimiter) (read : Text → Option (Text × Text)) : Prop
    extends ReadsQuotes d.quote read where
  plain : ∀ c t, d.IsPlain c → read (c :: t) = (read t).map (prepend c)
  lineEnd : ∀ e t, IsLineEnd e → read (e ++ t) = (read t).map fun r => (e ++ r.1, r.2)
  escape : ∀ c e t, d.escapes = true → SpellsEscape c e →
    read ('\\' :: (e ++ t)) = (read t).map (prepend c)
  hiddenLineEnd : ∀ b e space t, d.escapes = true → IsBlanks b → IsLineEnd e → IsSpace space →
    StartsSolid t → read ('\\' :: (b ++ (e ++ (space ++ t)))) = read t

theorem Delimiter.quote_ne (d : Delimiter) : '\n' ≠ d.quote ∧ '\r' ≠ d.quote ∧ '\\' ≠ d.quote := by
  cases d <;> decide

theorem startsSolid_append_quote {t : Text} (h : StartsSolid t) (d : Delimiter) (rest : Text) :
    StartsSolid (t ++ d.quote :: rest) := by
  cases t with
  | nil =>
    intro c hc
    obtain rfl : d.quote = c := by simpa using hc
    cases d <;> decide
  | cons c t => exact h

/-- The inside of a string over several lines is read, with the quotes of an unfinished row in
front of it. -/
theorem ReadsLines.read_append {d : Delimiter} {read : Text → Option (Text × Text)}
    (hread : ReadsLines d read) {row : Nat} (hrow : row ≤ 2) {s t : Text}
    (h : SpellsLines d row s t) {rest : Text} (hrest : NotAtStart d.quote rest) :
    read (List.replicate row d.quote ++ (t ++ d.quote :: d.quote :: d.quote :: rest))
      = some (List.replicate row d.quote ++ s, rest) := by
  obtain ⟨hfeed, hreturn, hslash⟩ := d.quote_ne
  have hinside {row : Nat} (hrow : row ≤ 2) {c : Char} (hc : c ≠ d.quote) (t : Text) :=
    hread.toReadsQuotes.read_inside hrow hc t
  induction h with
  | nil =>
    rw [List.nil_append, List.append_nil]
    exact hread.toReadsQuotes.read_closing hrow hrest
  | quote hlt _ ih =>
    rw [List.cons_append, replicate_append_cons, replicate_append_cons, ih (by omega)]
  | plain hc _ ih =>
    have hzero := ih (Nat.zero_le 2)
    rw [List.cons_append, hinside hrow hc.2.1, hread.plain _ _ hc]
    exact congrArg (Option.map _ ∘ Option.map (prepend _)) hzero
  | @lineEnd row e s t he _ ih =>
    have hzero := ih (Nat.zero_le 2)
    have hstep := hread.lineEnd e (t ++ d.quote :: d.quote :: d.quote :: rest) he
    rw [List.append_assoc]
    rcases he with rfl | rfl
    · rw [List.singleton_append, hinside hrow hfeed, ← List.singleton_append, hstep]
      exact congrArg (Option.map _ ∘ Option.map _) hzero
    · rw [List.cons_append, hinside hrow hreturn, ← List.cons_append, hstep]
      exact congrArg (Option.map _ ∘ Option.map _) hzero
  | escape hd he _ ih =>
    have hzero := ih (Nat.zero_le 2)
    rw [List.cons_append, List.append_assoc, hinside hrow hslash, hread.escape _ _ _ hd he]
    exact congrArg (Option.map _ ∘ Option.map (prepend _)) hzero
  | hiddenLineEnd hd hb he hspace ht _ ih =>
    have hzero := ih (Nat.zero_le 2)
    rw [List.cons_append, List.append_assoc, List.append_assoc, List.append_assoc,
      hinside hrow hslash,
      hread.hiddenLineEnd _ _ _ _ hd hb he hspace (startsSolid_append_quote ht d _)]
    exact congrArg (Option.map _) hzero

theorem lineEnd?_cons_of_ne {d : Char} (hfeed : d ≠ '\n') (hreturn : d ≠ '\r') (t : Text) :
    lineEnd? (d :: t) = none := by
  unfold lineEnd?
  split
  · rename_i heq
    exact absurd (List.cons.inj heq).1 hfeed
  · rename_i heq
    exact absurd (List.cons.inj heq).1 hreturn
  · rfl

theorem continuation?_of_startsEscape {d : Char} (h : StartsEscape d) (t : Text) :
    continuation? (d :: t) = none := by
  have hskip : skipBlanks (d :: t) = d :: t :=
    List.dropWhile_cons_of_neg (by rw [h.1]; exact Bool.false_ne_true)
  rw [continuation?, hskip, lineEnd?_cons_of_ne h.2.1 h.2.2, Option.map_none]

theorem continuation?_append {b e space t : Text} (hb : IsBlanks b) (he : IsLineEnd e)
    (hspace : IsSpace space) (ht : StartsSolid t) :
    continuation? (b ++ (e ++ (space ++ t))) = some t := by
  have hend : EndsLine (space ++ t) e := .lineEnd he
  rw [continuation?, skipBlanks_append hb, hend.skipBlanks, lineEnd?_append he, Option.map_some,
    skipSpace_append hspace, skipSpace_of_solid ht]

theorem multilineBasic?_of_escape {c d : Char} {t rest : Text} (hd : StartsEscape d)
    (h : escape? (d :: t) = some (c, rest)) :
    multilineBasic? ('\\' :: d :: t) = (multilineBasic? rest).map (prepend c) := by
  rw [multilineBasic?]
  split
  · rename_i h'
    rw [continuation?_of_startsEscape hd] at h'
    cases h'
  · split
    · rename_i c' rest' h'
      obtain ⟨rfl, rfl⟩ : c = c' ∧ rest = rest' := by simpa [h] using h'
      rfl
    · rename_i h'
      rw [h] at h'
      cases h'

theorem multilineBasic?_of_continuation {t rest : Text} (h : continuation? t = some rest) :
    multilineBasic? ('\\' :: t) = multilineBasic? rest := by
  rw [multilineBasic?]
  split
  · rename_i rest' h'
    obtain rfl : rest = rest' := by simpa [h] using h'
    rfl
  · rename_i h'
    rw [h] at h'
    cases h'

/-- Between triple double quotes a character stands for itself if it is no quote. -/
theorem multilineBasic?_of_text {c : Char} (h : c = '\n' ∨ isTextChar c = true) (hquote : c ≠ '"')
    (hslash : c ≠ '\\') (t : Text) :
    multilineBasic? (c :: t) = (multilineBasic? t).map (prepend c) := by
  have hreturn : c ≠ '\r' := by
    rintro rfl
    exact absurd h (by decide)
  rw [multilineBasic?, if_pos (by simpa using h)]
  · rfl
  · exact fun _ hc => absurd hc hquote
  · exact hslash
  · exact fun _ hc => absurd hc hreturn

theorem readsLines_multilineBasic? : ReadsLines .double multilineBasic? where
  closing t := by
    show multilineBasic? ('"' :: '"' :: '"' :: t) = _
    rw [multilineBasic?]
    rfl
  inside t h := by
    show multilineBasic? ('"' :: t) = _
    rw [multilineBasic?, if_pos (by decide)]
    · rfl
    · intro u _ heq
      exact h u heq
    · decide
    · intro u heq
      exact absurd heq (by decide)
  plain c t hc := multilineBasic?_of_text (.inr hc.1) hc.2.1 (hc.2.2 rfl) t
  lineEnd e t he := by
    rcases he with rfl | rfl
    · exact multilineBasic?_of_text (.inl rfl) (by decide) (by decide) t
    · rw [List.cons_append, List.singleton_append, multilineBasic?]
      rfl
  escape c e t _ he := by
    obtain ⟨d, body, rfl, hd, hread⟩ := he.read
    exact multilineBasic?_of_escape hd (hread t)
  hiddenLineEnd b e space t _ hb he hspace ht :=
    multilineBasic?_of_continuation (continuation?_append hb he hspace ht)

theorem multilineLiteral?_of_text {c : Char} (h : c = '\n' ∨ isTextChar c = true) (t : Text)
    (hquote : ∀ u, c = '\x27' → t ≠ '\x27' :: '\x27' :: u) :
    multilineLiteral? (c :: t) = (multilineLiteral? t).map (prepend c) := by
  have hreturn : c ≠ '\r' := by
    rintro rfl
    exact absurd h (by decide)
  have htext : (c == '\n' || isTextChar c) = true := by
    rw [Bool.or_eq_true, beq_iff_eq]
    exact h
  rw [multilineLiteral?, if_pos htext]
  · rfl
  · exact hquote
  · intro u hc
    exact absurd hc hreturn

theorem readsLines_multilineLiteral? : ReadsLines .single multilineLiteral? where
  closing t := by
    show multilineLiteral? ('\x27' :: '\x27' :: '\x27' :: t) = _
    rw [multilineLiteral?]
    rfl
  inside t h := multilineLiteral?_of_text (by decide) t fun u _ => h u
  plain c t hc := multilineLiteral?_of_text (.inr hc.1) t fun _ heq => absurd heq hc.2.1
  lineEnd e t he := by
    rcases he with rfl | rfl
    · exact multilineLiteral?_of_text (.inl rfl) t fun _ heq => absurd heq (by decide)
    · rw [List.cons_append, List.singleton_append, multilineLiteral?]
      rfl
  escape _ _ _ hd := by cases hd
  hiddenLineEnd _ _ _ _ hd := by cases hd

/-! ## Every form -/

/-- What a string holds, closed by its quote, does not go on as opening triple quotes: if it holds
nothing, the closing quote is the second one and no third follows. -/
theorem append_quote_ne {q : Char} {t rest : Text} (ht : NotAtStart q t)
    (hrest : NotAtStart q rest) (u : Text) : t ++ q :: rest ≠ q :: q :: u := by
  intro heq
  cases t with
  | nil =>
    apply hrest
    rw [(List.cons.inj heq).2]
    rfl
  | cons c t =>
    apply ht
    rw [(List.cons.inj heq).1]
    rfl

theorem SpellsLine.notAtStart {d : Delimiter} {s t : Text} (h : SpellsLine d s t) :
    NotAtStart d.quote t := by
  cases h with
  | nil => simp [NotAtStart]
  | plain hc _ => simpa [NotAtStart] using hc.2.1
  | escape _ _ _ => simpa [NotAtStart] using d.quote_ne.2.2

theorem skipLineEnd_opening {d : Delimiter} {opening t : Text} (rest : Text)
    (h : IsLineEnd opening ∨ opening = [] ∧ t.head? ≠ some '\n' ∧ t.head? ≠ some '\r') :
    skipLineEnd (opening ++ (t ++ d.quote :: rest)) = t ++ d.quote :: rest := by
  rcases h with hend | ⟨rfl, hfeed, hreturn⟩
  · rw [skipLineEnd, lineEnd?_append hend, Option.getD_some]
  · have hnone : lineEnd? (t ++ d.quote :: rest) = none := by
      cases t with
      | nil => exact lineEnd?_cons_of_ne d.quote_ne.1.symm d.quote_ne.2.1.symm rest
      | cons c t => exact lineEnd?_cons_of_ne (by simpa using hfeed) (by simpa using hreturn) _
    rw [List.nil_append, skipLineEnd, hnone, Option.getD_none]

/-- **Every spelling of a string is read as the string**, unless a quote follows. -/
theorem string?_of_spells {s t : Text} (h : SpellsString s t) {rest : Text}
    (hdouble : NotAtStart '"' rest) (hsingle : NotAtStart '\x27' rest) :
    string? (t ++ rest) = some (s, rest) := by
  cases h with
  | @line d t h =>
    rw [List.cons_append, List.append_assoc, List.singleton_append]
    have hstart := h.notAtStart
    cases d with
    | double =>
      show string? ('"' :: (t ++ '"' :: rest)) = _
      rw [string?, basic?_append h]
      exact append_quote_ne hstart hdouble
    | single =>
      show string? ('\x27' :: (t ++ '\x27' :: rest)) = _
      obtain ⟨rfl, htext⟩ := h.of_single
      rw [string?, literal?_append htext]
      exact append_quote_ne hstart hsingle
  | @lines d opening t hopening h =>
    rw [List.cons_append, List.cons_append, List.cons_append, List.append_assoc, List.append_assoc]
    have hskip := skipLineEnd_opening (d := d) (d.quote :: d.quote :: rest) hopening
    cases d with
    | double =>
      show string? ('"' :: '"' :: '"' :: (opening ++ (t ++ '"' :: '"' :: '"' :: rest))) = _
      rw [string?]
      exact (congrArg multilineBasic? hskip).trans
        (readsLines_multilineBasic?.read_append (Nat.zero_le 2) h hdouble)
    | single =>
      show string?
        ('\x27' :: '\x27' :: '\x27' :: (opening ++ (t ++ '\x27' :: '\x27' :: '\x27' :: rest))) = _
      rw [string?]
      exact (congrArg multilineLiteral? hskip).trans
        (readsLines_multilineLiteral?.read_append (Nat.zero_le 2) h hsingle)

end TurtleMarkup.Toml.Quoted
