import TurtleMarkup.Text.Digits

/-!
# Dates and times in TOML

Which words are dates, times of day, or both.  A date is a day of the calendar.  Seconds may be
left out, and may be sixty for the sake of leap seconds; only a date with a time has an offset.

The readers of parts give the text behind the part.
-/

namespace TurtleMarkup.Toml

/-- A number of exactly `width` digits. -/
def fixedNumber? (width : Nat) (t : Text) : Option (Nat × Text) :=
  if width ≤ t.length then (Text.number? 10 (t.take width)).map (·, t.drop width) else none

/-- The text behind a given character. -/
def after? (c : Char) : Text → Option Text
  | d :: t => if d = c then some t else none
  | [] => none

/-- Whether a year has a leap day. -/
def isLeapYear (year : Nat) : Bool := year % 4 == 0 && (year % 100 != 0 || year % 400 == 0)

/-- The number of days of a month. -/
def daysOfMonth (year month : Nat) : Nat :=
  if month = 2 then if isLeapYear year then 29 else 28
  else if month ∈ [4, 6, 9, 11] then 30
  else 31

/-- A date: year, month and day. -/
def date? (t : Text) : Option Text := do
  let (year, t) ← fixedNumber? 4 t
  let t ← after? '-' t
  let (month, t) ← fixedNumber? 2 t
  let t ← after? '-' t
  let (day, t) ← fixedNumber? 2 t
  if 1 ≤ month ∧ month ≤ 12 ∧ 1 ≤ day ∧ day ≤ daysOfMonth year month then some t else none

/-- A fraction of a second, if there is one. -/
def fraction? : Text → Option Text
  | '.' :: t =>
    match t with
    | c :: rest => if c.isDigit then some (rest.dropWhile Char.isDigit) else none
    | [] => none
  | t => some t

/-- The seconds of a time, if there are any. -/
def seconds? : Text → Option Text
  | ':' :: t => do
    let (second, t) ← fixedNumber? 2 t
    if second ≤ 60 then fraction? t else none
  | t => some t

/-- Hours and minutes. -/
def hourMinute? (t : Text) : Option Text := do
  let (hour, t) ← fixedNumber? 2 t
  let t ← after? ':' t
  let (minute, t) ← fixedNumber? 2 t
  if hour ≤ 23 ∧ minute ≤ 59 then some t else none

/-- A time of day. -/
def time? (t : Text) : Option Text := (hourMinute? t).bind seconds?

/-- The offset of a time from the universal one. -/
def offset? : Text → Option Text
  | 'Z' :: t => some t
  | 'z' :: t => some t
  | '+' :: t => hourMinute? t
  | '-' :: t => hourMinute? t
  | _ => none

/-- A time of day, with or without an offset, and nothing behind it. -/
def isTimeWithOffset (t : Text) : Bool :=
  match time? t with
  | some [] => true
  | some t => offset? t == some []
  | none => false

/-- The characters that may part a date from a time. -/
def isDateTimeSeparator (c : Char) : Bool := c == 'T' || c == 't' || c == ' '

/-- A date, a time of day, or a date with a time. -/
def isDateTime (t : Text) : Bool :=
  match date? t with
  | some [] => true
  | some (c :: t) => isDateTimeSeparator c && isTimeWithOffset t
  | none => time? t == some []

end TurtleMarkup.Toml
