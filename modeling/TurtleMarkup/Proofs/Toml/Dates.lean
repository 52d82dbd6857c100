import TurtleMarkup.Proofs.Toml.Numbers
import TurtleMarkup.Toml.DateTime

/-!
# Spellings of dates and times

`IsDateTimeSpelling` describes the words that are a date, a time of day, or a date
with a time, which may have an offset.  All of them are read
(`isDateTime_of_spelling`), and no word of another kind is taken for one
(`kind_of_isDateTime`).
-/

namespace TurtleMarkup.Toml

open Text (Denotes isDigitOf)

/-! ## What a spelling is -/

/-- Exactly `width` decimal digits with value `n`. -/
structure IsField (width n : Nat) (t : Text) : Prop where
  length_eq : t.length = width
  denotes : Denotes 10 n t

/-- A day of the calendar. -/
inductive IsDate : Text → Prop where
  | mk {year month day : Nat} {y m d : Text} (hy : IsField 4 year y) (hm : IsField 2 month m)
    (hd : IsField 2 day d) (hmonth : 1 ≤ month ∧ month ≤ 12)
    (hday : 1 ≤ day ∧ day ≤ daysOfMonth year month) :
    IsDate (y ++ '-' :: (m ++ '-' :: d))

/-- Hours and minutes, of a day or of an offset. -/
inductive IsHourMinute : Text → Prop where
  | mk {hour minute : Nat} {h m : Text} (hh : IsField 2 hour h) (hm : IsField 2 minute m)
    (hhour : hour ≤ 23) (hminute : minute ≤ 59) : IsHourMinute (h ++ ':' :: m)

/-- Seconds, which may have a fraction, or nothing. -/
inductive IsSeconds : Text → Prop where
  | none : IsSeconds []
  | whole {second : Nat} {s : Text} (hs : IsField 2 second s) (hsecond : second ≤ 60) :
    IsSeconds (':' :: s)
  | fraction {second : Nat} {s ds : Text} (hs : IsField 2 second s) (hsecond : second ≤ 60)
    (hne : ds ≠ []) (hds : ∀ c ∈ ds, c.isDigit = true) : IsSeconds (':' :: (s ++ '.' :: ds))

/-- A time of day. -/
inductive IsTime : Text → Prop where
  | mk {t s : Text} (ht : IsHourMinute t) (hs : IsSeconds s) : IsTime (t ++ s)

/-- An offset from the universal time, or nothing. -/
inductive IsOffset : Text → Prop where
  | none : IsOffset []
  | universal {c : Char} (hc : c = 'Z' ∨ c = 'z') : IsOffset [c]
  | shifted {c : Char} {t : Text} (hc : c = '+' ∨ c = '-') (ht : IsHourMinute t) :
    IsOffset (c :: t)

/-- The word is a date, a time of day, or a date with a time. -/
inductive IsDateTimeSpelling : Text → Prop where
  | date {d : Text} (hd : IsDate d) : IsDateTimeSpelling d
  | time {t : Text} (ht : IsTime t) : IsDateTimeSpelling t
  | both {d t o : Text} {c : Char} (hd : IsDate d) (hc : c = 'T' ∨ c = 't' ∨ c = ' ')
    (ht : IsTime t) (ho : IsOffset o) : IsDateTimeSpelling (d ++ c :: (t ++ o))

/-! ## Parts are read -/

theorem after?_cons (c : Char) (t : Text) : after? c (c :: t) = some t := if_pos rfl

theorem fixedNumber?_append {width n : Nat} {t : Text} (h : IsField width n t) (rest : Text) :
    fixedNumber? width (t ++ rest) = some (n, rest) := by
  have hle : width ≤ (t ++ rest).length := by simp [h.length_eq]
  rw [fixedNumber?, if_pos hle, List.take_left' h.length_eq, h.denotes.number?, Option.map_some,
    List.drop_left' h.length_eq]

theorem date?_append {t : Text} (h : IsDate t) (rest : Text) : date? (t ++ rest) = some rest := by
  cases h with
  | mk hy hm hd hmonth hday =>
    simp only [date?, List.append_assoc, List.cons_append, fixedNumber?_append hy,
      fixedNumber?_append hm, fixedNumber?_append hd, after?_cons, Option.bind_eq_bind,
      Option.bind_some]
    exact if_pos ⟨hmonth.1, hmonth.2, hday⟩

theorem hourMinute?_append {t : Text} (h : IsHourMinute t) (rest : Text) :
    hourMinute? (t ++ rest) = some rest := by
  cases h with
  | mk hh hm hhour hminute =>
    simp only [hourMinute?, List.append_assoc, List.cons_append, fixedNumber?_append hh,
      fixedNumber?_append hm, after?_cons, Option.bind_eq_bind, Option.bind_some]
    exact if_pos ⟨hhour, hminute⟩

theorem IsOffset.head {o : Text} (h : IsOffset o) {c : Char} (hc : o.head? = some c) :
    c ∈ ['Z', 'z', '+', '-'] := by
  cases h with
  | none => cases hc
  | universal h =>
    obtain rfl := Option.some.inj hc
    rcases h with rfl | rfl <;> simp
  | shifted h =>
    obtain rfl := Option.some.inj hc
    rcases h with rfl | rfl <;> simp

theorem fraction?_of_offset {o : Text} (h : IsOffset o) : fraction? o = some o := by
  rw [fraction?]
  rintro t rfl
  simpa using h.head rfl

/-- The seconds of a time are passed over, up to the offset. -/
theorem seconds?_append {s o : Text} (hs : IsSeconds s) (ho : IsOffset o) :
    seconds? (s ++ o) = some o := by
  cases hs with
  | none =>
    rw [List.nil_append, seconds?]
    rintro t rfl
    simpa using ho.head rfl
  | whole hs hsecond =>
    simp only [seconds?, List.cons_append, fixedNumber?_append hs, Option.bind_eq_bind,
      Option.bind_some, if_pos hsecond, fraction?_of_offset ho]
  | @fraction second s ds hs hsecond hne hds =>
    have hfraction : fraction? ('.' :: (ds ++ o)) = some o := by
      cases ds with
      | nil => exact absurd rfl hne
      | cons c ds =>
        rw [List.forall_mem_cons] at hds
        rw [List.cons_append, fraction?, if_pos hds.1, List.dropWhile_append_of_pos hds.2]
        cases o with
        | nil => rfl
        | cons d o =>
          have hd := ho.head rfl
          simp only [List.mem_cons, List.not_mem_nil, or_false] at hd
          rcases hd with rfl | rfl | rfl | rfl <;> rfl
    simp only [seconds?, List.cons_append, List.append_assoc, fixedNumber?_append hs,
      Option.bind_eq_bind, Option.bind_some, if_pos hsecond, hfraction]

theorem time?_append {t o : Text} (ht : IsTime t) (ho : IsOffset o) : time? (t ++ o) = some o := by
  cases ht with
  | mk ht hs => rw [time?, List.append_assoc, hourMinute?_append ht, Option.bind_some,
      seconds?_append hs ho]

theorem offset?_of_isOffset {o : Text} (h : IsOffset o) (hne : o ≠ []) : offset? o = some [] := by
  cases h with
  | none => exact absurd rfl hne
  | universal hc => rcases hc with rfl | rfl <;> rfl
  | shifted hc ht =>
    have hread := hourMinute?_append ht []
    rw [List.append_nil] at hread
    rcases hc with rfl | rfl
    · exact hread
    · exact hread

theorem isTimeWithOffset_append {t o : Text} (ht : IsTime t) (ho : IsOffset o) :
    isTimeWithOffset (t ++ o) = true := by
  rw [isTimeWithOffset, time?_append ht ho]
  cases o with
  | nil => rfl
  | cons c o => simp [offset?_of_isOffset ho]

/-! ## Marks -/

theorem after?_eq_some {c : Char} {t rest : Text} (h : after? c t = some rest) : t = c :: rest := by
  unfold after? at h
  split at h
  · split_ifs at h with hc
    rw [hc, Option.some.inj h]
  · cases h

/-- A field of digits and the character behind it give the mark of a word. -/
theorem mark_of_field {width n : Nat} {w t rest : Text} {c : Char}
    (hfield : fixedNumber? width w = some (n, t)) (hafter : after? c t = some rest)
    (hc : isRowChar c = false) : mark w = some c := by
  obtain rfl := after?_eq_some hafter
  unfold fixedNumber? at hfield
  split_ifs at hfield with hwidth
  obtain ⟨k, hnumber, hpair⟩ := Option.map_eq_some_iff.1 hfield
  have hsplit : w.take width ++ c :: rest = w := by
    rw [← (Prod.mk.inj hpair).2, List.take_append_drop]
  unfold Text.number? at hnumber
  split_ifs at hnumber with hcond
  rw [Bool.and_eq_true, List.all_eq_true] at hcond
  have hsign : Unsigned (w.take width ++ c :: rest) := unsigned_of_digit fun d hd => by
    cases htake : w.take width with
    | nil => simp [htake] at hcond
    | cons e ds =>
      obtain rfl : e = d := by simpa [htake] using hd
      exact hcond.2 e (by simp [htake])
  have hrun : Text.IsRun isRowChar (w.take width) (c :: rest) :=
    Text.isRun_of_head (fun d hd => isRowChar_of_digit (hcond.2 d hd)) (by simpa using hc)
  rw [← hsplit]
  exact mark_append .none hrun hsign

/-- A date has a hyphen behind its first digits. -/
theorem mark_of_date? {w t : Text} (h : date? w = some t) : mark w = some '-' := by
  simp only [date?, Option.bind_eq_bind, Option.bind_eq_some_iff] at h
  obtain ⟨⟨year, rest⟩, hyear, u, hafter, -⟩ := h
  exact mark_of_field hyear hafter rfl

/-- A time has a colon behind its first digits. -/
theorem mark_of_time? {w t : Text} (h : time? w = some t) : mark w = some ':' := by
  simp only [time?, hourMinute?, Option.bind_eq_bind, Option.bind_eq_some_iff] at h
  obtain ⟨u, ⟨⟨hour, rest⟩, hhour, v, hafter, -⟩, -⟩ := h
  exact mark_of_field hhour hafter rfl

theorem kind_of_isDateTime {w : Text} (h : isDateTime w = true) : kind w = .dateTime := by
  unfold kind
  unfold isDateTime at h
  split at h
  · rename_i hdate
    rw [mark_of_date? hdate]
    rfl
  · rename_i hdate
    rw [mark_of_date? hdate]
    rfl
  · rw [mark_of_time? (by simpa using h)]
    rfl

/-- Every spelling of a date or a time is read as one. -/
theorem isDateTime_of_spelling {w : Text} (h : IsDateTimeSpelling w) : isDateTime w = true := by
  cases h with
  | date hd =>
    have hread := date?_append hd []
    rw [List.append_nil] at hread
    rw [isDateTime, hread]
  | time ht =>
    have hread := time?_append ht .none
    rw [List.append_nil] at hread
    have hdate : date? w = none := by
      cases hdate : date? w with
      | none => rfl
      | some t => cases (mark_of_date? hdate).symm.trans (mark_of_time? hread)
    simp [isDateTime, hdate, hread]
  | @both d t o c hd hc ht ho =>
    have hseparator : isDateTimeSeparator c = true := by
      simpa [isDateTimeSeparator, or_assoc] using hc
    rw [isDateTime, date?_append hd]
    simp [hseparator, isTimeWithOffset_append ht ho]

end TurtleMarkup.Toml
