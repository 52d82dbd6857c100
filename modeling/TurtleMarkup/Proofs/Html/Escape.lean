import TurtleMarkup.Html.Escape
import TurtleMarkup.Html.Reference

/-!
# Escaped text holds no markup and is read back

A character is written as a reference to it or stands for itself
(`escapeChar_cases`, `escapeAttributeChar_cases`), and all else follows from
this.  Escaped text has no angle brackets, and an escaped attribute value has no
double quote either, so neither can end what it stands in.  Decoding gives back
every character that was escaped, one by one and whatever follows it
(`decode_escape_append`, `decode_escapeAttribute`), which is why pieces that
were escaped apart from one another may be decoded together.
-/

namespace TurtleMarkup.Html

/-! ## Ways to write a character -/

/-- The names of the references that escaping writes. -/
def writtenNames : List Text := ["amp".toList, "lt".toList, "gt".toList, "quot".toList]

/-- The reference with a name. -/
def referenceText (name : Text) : Text := '&' :: (name ++ [';'])

/-- The text `t` is one of the references that escaping writes, and spells `c`. -/
def IsReferenceTo (c : Char) (t : Text) : Prop :=
  ∃ name ∈ writtenNames, reference? name = some c ∧ t = referenceText name

theorem escapeChar_cases (c : Char) :
    IsReferenceTo c (escapeChar c) ∨ escapeChar c = [c] ∧ c ≠ '&' ∧ c ≠ '<' ∧ c ≠ '>' := by
  unfold escapeChar
  by_cases hamp : c = '&'
  · subst hamp
    exact .inl ⟨"amp".toList, by decide, by decide +kernel, by decide⟩
  by_cases hlt : c = '<'
  · subst hlt
    exact .inl ⟨"lt".toList, by decide, by decide +kernel, by decide⟩
  by_cases hgt : c = '>'
  · subst hgt
    exact .inl ⟨"gt".toList, by decide, by decide +kernel, by decide⟩
  · rw [if_neg hamp, if_neg hlt, if_neg hgt]
    exact .inr ⟨rfl, hamp, hlt, hgt⟩

theorem escapeAttributeChar_cases (c : Char) :
    IsReferenceTo c (escapeAttributeChar c) ∨
      escapeAttributeChar c = [c] ∧ c ≠ '&' ∧ c ≠ '<' ∧ c ≠ '>' ∧ c ≠ '"' := by
  unfold escapeAttributeChar
  by_cases hquote : c = '"'
  · subst hquote
    exact .inl ⟨"quot".toList, by decide, by decide +kernel, by decide⟩
  · rw [if_neg hquote]
    rcases escapeChar_cases c with href | ⟨hself, hamp, hlt, hgt⟩
    · exact .inl href
    · exact .inr ⟨hself, hamp, hlt, hgt, hquote⟩

/-! ## Characters of escaped text -/

theorem ne_of_mem_reference {c d : Char} {t : Text} (ht : IsReferenceTo c t) (hd : d ∈ t) :
    d ≠ '<' ∧ d ≠ '>' ∧ d ≠ '"' := by
  have hall : writtenNames.all fun name =>
      (referenceText name).all fun d => d ≠ '<' ∧ d ≠ '>' ∧ d ≠ '"' := by
    decide
  obtain ⟨name, hname, -, rfl⟩ := ht
  have hname := List.all_eq_true.1 hall name hname
  exact of_decide_eq_true (List.all_eq_true.1 hname d hd)

/-- Escaped text has no angle brackets. -/
theorem ne_of_mem_escape {t : Text} {d : Char} (h : d ∈ escape t) : d ≠ '<' ∧ d ≠ '>' := by
  obtain ⟨c, -, hd⟩ := List.mem_flatMap.1 h
  rcases escapeChar_cases c with href | ⟨hself, -, hlt, hgt⟩
  · exact ⟨(ne_of_mem_reference href hd).1, (ne_of_mem_reference href hd).2.1⟩
  · rw [hself, List.mem_singleton] at hd
    rw [hd]
    exact ⟨hlt, hgt⟩

/-- An escaped attribute value has neither angle brackets nor double quotes. -/
theorem ne_of_mem_escapeAttribute {t : Text} {d : Char} (h : d ∈ escapeAttribute t) :
    d ≠ '<' ∧ d ≠ '>' ∧ d ≠ '"' := by
  obtain ⟨c, -, hd⟩ := List.mem_flatMap.1 h
  rcases escapeAttributeChar_cases c with href | ⟨hself, -, hne⟩
  · exact ne_of_mem_reference href hd
  · rw [hself, List.mem_singleton] at hd
    rw [hd]
    exact hne

/-! ## Decoding -/

@[simp] theorem decode_nil : decode [] = [] := by rw [decode]

theorem decode_cons_of_ne {c : Char} (h : c ≠ '&') (t : Text) : decode (c :: t) = c :: decode t := by
  rw [decode, if_neg h]

theorem referenceAt?_append {name : Text} (h : name.all (!isReferenceEnd ·)) (rest : Text) :
    referenceAt? (name ++ ';' :: rest) = (reference? name).map (·, rest) := by
  have hname : ∀ c ∈ name, (!isReferenceEnd c) = true := List.all_eq_true.1 h
  have hdrop : (name ++ ';' :: rest).dropWhile (!isReferenceEnd ·) = ';' :: rest := by
    rw [List.dropWhile_append_of_pos hname, List.dropWhile_cons_of_neg (by decide)]
  have htake : (name ++ ';' :: rest).takeWhile (!isReferenceEnd ·) = name := by
    rw [List.takeWhile_append_of_pos hname, List.takeWhile_cons_of_neg (by decide),
      List.append_nil]
  rw [referenceAt?, hdrop, htake]
  rfl

/-- A reference is decoded to its character, whatever follows it. -/
theorem decode_referenceText_append {name : Text} {d : Char} (h : name.all (!isReferenceEnd ·))
    (hd : reference? name = some d) (rest : Text) :
    decode (referenceText name ++ rest) = d :: decode rest := by
  have happ : referenceText name ++ rest = '&' :: (name ++ ';' :: rest) := by simp [referenceText]
  have hat : referenceAt? (name ++ ';' :: rest) = some (d, rest) := by
    rw [referenceAt?_append h, hd, Option.map_some]
  rw [happ, decode, if_pos rfl]
  split
  · rename_i d' rest' h'
    obtain ⟨rfl, rfl⟩ : d = d' ∧ rest = rest' := by simpa [hat] using h'
    rfl
  · rename_i h'
    rw [hat] at h'
    cases h'

theorem decode_reference_append {d : Char} {t : Text} (h : IsReferenceTo d t) (rest : Text) :
    decode (t ++ rest) = d :: decode rest := by
  have hends : writtenNames.all (·.all (!isReferenceEnd ·)) := by decide
  obtain ⟨name, hname, hd, rfl⟩ := h
  exact decode_referenceText_append (List.all_eq_true.1 hends name hname) hd rest

theorem decode_escapeChar_append (c : Char) (rest : Text) :
    decode (escapeChar c ++ rest) = c :: decode rest := by
  rcases escapeChar_cases c with href | ⟨hself, hamp, -⟩
  · exact decode_reference_append href rest
  · rw [hself]
    exact decode_cons_of_ne hamp rest

theorem decode_escapeAttributeChar_append (c : Char) (rest : Text) :
    decode (escapeAttributeChar c ++ rest) = c :: decode rest := by
  rcases escapeAttributeChar_cases c with href | ⟨hself, hamp, -⟩
  · exact decode_reference_append href rest
  · rw [hself]
    exact decode_cons_of_ne hamp rest

/-- Escaped text is decoded to the text, whatever follows it. -/
theorem decode_escape_append (t rest : Text) : decode (escape t ++ rest) = t ++ decode rest := by
  induction t with
  | nil => rfl
  | cons c t ih =>
    rw [escape, List.flatMap_cons, List.append_assoc, decode_escapeChar_append, ← escape, ih,
      List.cons_append]

theorem decode_escape (t : Text) : decode (escape t) = t := by
  have h := decode_escape_append t []
  rwa [List.append_nil, decode_nil, List.append_nil] at h

/-- An escaped attribute value is decoded to the value. -/
theorem decode_escapeAttribute (t : Text) : decode (escapeAttribute t) = t := by
  induction t with
  | nil => exact decode_nil
  | cons c t ih =>
    rw [escapeAttribute, List.flatMap_cons, decode_escapeAttributeChar_append, ← escapeAttribute, ih]

/-- Different texts are escaped differently. -/
theorem escape_injective {t u : Text} (h : escape t = escape u) : t = u := by
  rw [← decode_escape t, h, decode_escape]

end TurtleMarkup.Html
