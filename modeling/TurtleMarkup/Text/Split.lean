import TurtleMarkup.Text.Basic

/-!
# Splitting and joining

Cutting a text at every occurrence of a character, and putting the stretches together again.
-/

namespace TurtleMarkup.Text

/-- The stretches of a text between the occurrences of a character, empty ones included. -/
def split (separator : Char) : Text → List Text
  | [] => [[]]
  | c :: cs =>
    if c = separator then [] :: split separator cs
    else
      match split separator cs with
      | [] => [[c]]
      | t :: ts => (c :: t) :: ts

/-- The given texts with a character between them. -/
def join (separator : Char) : List Text → Text
  | [] => []
  | [t] => t
  | t :: ts => t ++ separator :: join separator ts

theorem split_ne_nil (separator : Char) (t : Text) : split separator t ≠ [] := by
  cases t with
  | nil => simp [split]
  | cons c t =>
    rw [split]
    split
    · simp
    · split <;> simp

/-- Joining undoes splitting. -/
theorem join_split (separator : Char) (t : Text) :
    join separator (split separator t) = t := by
  induction t with
  | nil => rfl
  | cons c t ih =>
    rw [split]
    split
    · rename_i h
      cases hs : split separator t with
      | nil => exact absurd hs (split_ne_nil separator t)
      | cons s ss => rw [hs] at ih; simp [join, ih, h]
    · cases hs : split separator t with
      | nil => exact absurd hs (split_ne_nil separator t)
      | cons s ss =>
        rw [hs] at ih
        cases ss with
        | nil => simpa [join] using ih
        | cons s' ss => simpa [join] using ih

theorem join_cons_cons (separator : Char) (t u : Text) (us : List Text) :
    join separator (t :: u :: us) = t ++ ([separator] ++ join separator (u :: us)) := rfl

/-- Two lists of texts are joined one after the other, with the separator between them. -/
theorem join_append (separator : Char) {ts us : List Text} (hts : ts ≠ []) (hus : us ≠ []) :
    join separator (ts ++ us) = join separator ts ++ separator :: join separator us := by
  induction ts with
  | nil => exact absurd rfl hts
  | cons t ts ih =>
    cases ts with
    | nil =>
      cases us with
      | nil => exact absurd rfl hus
      | cons u us => rfl
    | cons v vs =>
      have htail := ih (List.cons_ne_nil v vs)
      rw [List.cons_append] at htail
      rw [List.cons_append, List.cons_append, join_cons_cons, htail, join_cons_cons]
      simp

/-- Only no text at all and the empty text alone are joined to the empty text. -/
theorem join_eq_nil_iff {separator : Char} {ts : List Text} :
    join separator ts = [] ↔ ts = [] ∨ ts = [[]] := by
  cases ts with
  | nil => simp [join]
  | cons t ts =>
    cases ts with
    | nil => simp [join]
    | cons u us => simp [join_cons_cons]

theorem join_ne_nil {separator : Char} {ts : List Text} (hne : ts ≠ []) (h : ∀ t ∈ ts, t ≠ []) :
    join separator ts ≠ [] := by
  intro hjoin
  rcases join_eq_nil_iff.1 hjoin with rfl | rfl
  · exact hne rfl
  · exact h [] List.mem_cons_self rfl

/-- The separator in the middle divides the stretches of the left text from those of the right. -/
theorem split_append (separator : Char) (a b : Text) :
    split separator (a ++ separator :: b) = split separator a ++ split separator b := by
  induction a with
  | nil => simp [split]
  | cons c a ih =>
    rw [List.cons_append, split, split, ih]
    by_cases hc : c = separator
    · simp [hc]
    · rw [if_neg hc, if_neg hc]
      cases hs : split separator a with
      | nil => exact absurd hs (split_ne_nil separator a)
      | cons t ts => rfl

theorem not_mem_of_mem_split {separator : Char} {t u : Text} (h : u ∈ split separator t) :
    separator ∉ u := by
  induction t generalizing u with
  | nil =>
    obtain rfl := List.mem_singleton.1 h
    simp
  | cons c t ih =>
    rw [split] at h
    split at h
    · rcases List.mem_cons.1 h with rfl | h
      · simp
      · exact ih h
    · rename_i hc
      cases hs : split separator t with
      | nil => exact absurd hs (split_ne_nil separator t)
      | cons v vs =>
        rw [hs] at h ih
        rcases List.mem_cons.1 h with rfl | h
        · rw [List.mem_cons, not_or]
          exact ⟨Ne.symm hc, ih List.mem_cons_self⟩
        · exact ih (List.mem_cons_of_mem v h)

theorem split_of_not_mem {separator : Char} {t : Text} (h : separator ∉ t) :
    split separator t = [t] := by
  induction t with
  | nil => rfl
  | cons c t ih =>
    rw [List.mem_cons, not_or] at h
    rw [split, if_neg (Ne.symm h.1), ih h.2]

/-- Splitting undoes joining where no text has the separator. -/
theorem split_join {separator : Char} {ts : List Text} (hne : ts ≠ [])
    (h : ∀ t ∈ ts, separator ∉ t) : split separator (join separator ts) = ts := by
  induction ts with
  | nil => exact absurd rfl hne
  | cons t ts ih =>
    have ht := h t List.mem_cons_self
    cases ts with
    | nil => exact split_of_not_mem ht
    | cons u us =>
      have htail : ∀ v ∈ u :: us, separator ∉ v := fun v hv => h v (List.mem_cons_of_mem t hv)
      rw [join_cons_cons, List.singleton_append, split_append, split_of_not_mem ht,
        ih (List.cons_ne_nil u us) htail, List.singleton_append]

end TurtleMarkup.Text
