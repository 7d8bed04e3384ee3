set_option autoImplicit false

/-!
# Dates and times

Calendar dates, times of day and instants, as the readers of YAML and TOML find them. A setting
keeps only their text, so they are validated here and written in the form of ISO 8601.

## Main definitions

* `Moment` — a date, a time of day, or both with an optional offset from universal time.
* `Date.check`, `Clock.check` — the fault of an impossible date or time.
* `Moment.iso`, `Moment.display`, `Moment.literal` — the texts of a moment.
-/

namespace LayeredConfig

/-- A calendar date. -/
structure Date where
  /-- The year, from 1 to 9999. -/
  year : Nat
  /-- The month, from 1 to 12. -/
  month : Nat
  /-- The day of the month, from 1. -/
  day : Nat
deriving DecidableEq, Repr

/-- A time of day. -/
structure Clock where
  /-- The hour, from 0 to 23. -/
  hour : Nat
  /-- The minute, from 0 to 59. -/
  minute : Nat
  /-- The second, from 0 to 59. -/
  second : Nat
  /-- The microsecond, below a million. -/
  micro : Nat
deriving DecidableEq, Repr

/-- A date, a time of day, or an instant. -/
inductive Moment where
  /-- A date alone. -/
  | date (d : Date)
  /-- A time of day alone. -/
  | clock (c : Clock)
  /-- A date with a time of day, and the offset from universal time in seconds, if known. -/
  | instant (d : Date) (c : Clock) (offset : Option Int)
deriving DecidableEq, Repr

/-- Whether a year has a leap day. -/
def isLeapYear (y : Nat) : Bool :=
  y % 4 = 0 && (y % 100 ≠ 0 || y % 400 = 0)

/-- The number of days of a month. -/
def daysOfMonth (y m : Nat) : Nat :=
  if m = 2 then (if isLeapYear y then 29 else 28)
  else if m = 4 ∨ m = 6 ∨ m = 9 ∨ m = 11 then 30
  else 31

/-- What is wrong with a date, if anything. -/
def Date.check (d : Date) : Option String :=
  if d.year < 1 ∨ 9999 < d.year then some ("year " ++ toString d.year ++ " is out of range")
  else if d.month < 1 ∨ 12 < d.month then some "month must be in 1..12"
  else if d.day < 1 ∨ daysOfMonth d.year d.month < d.day then some "day is out of range for month"
  else none

/-- What is wrong with a time of day, if anything. -/
def Clock.check (c : Clock) : Option String :=
  if 23 < c.hour then some "hour must be in 0..23"
  else if 59 < c.minute then some "minute must be in 0..59"
  else if 59 < c.second then some "second must be in 0..59"
  else if 999999 < c.micro then some "microsecond must be in 0..999999"
  else none

/-- A number in decimal, padded with zeros to a width. -/
def padded (width n : Nat) : String :=
  let ds := Nat.toDigits 10 n
  String.ofList (List.replicate (width - ds.length) '0' ++ ds)

/-- A date as year, month and day. -/
def Date.iso (d : Date) : String :=
  padded 4 d.year ++ "-" ++ padded 2 d.month ++ "-" ++ padded 2 d.day

/-- A time of day; the fraction of the second is written only where there is one. -/
def Clock.iso (c : Clock) : String :=
  padded 2 c.hour ++ ":" ++ padded 2 c.minute ++ ":" ++ padded 2 c.second ++
    (if c.micro = 0 then "" else "." ++ padded 6 c.micro)

/-- An offset from universal time as sign, hours and minutes, and seconds where there are any. -/
def offsetIso (seconds : Int) : String :=
  let n := seconds.natAbs
  (if seconds < 0 then "-" else "+") ++ padded 2 (n / 3600) ++ ":" ++ padded 2 (n / 60 % 60) ++
    (if n % 60 = 0 then "" else ":" ++ padded 2 (n % 60))

/-- The text of a moment, with the given separator between date and time. -/
def Moment.textWith (separator : String) : Moment → String
  | .date d => d.iso
  | .clock c => c.iso
  | .instant d c offset =>
    d.iso ++ separator ++ c.iso ++ (match offset with | some s => offsetIso s | none => "")

/-- The text of a moment in ISO 8601. -/
def Moment.iso (m : Moment) : String :=
  m.textWith "T"

/-- The text of a moment for display: a blank stands between date and time. -/
def Moment.display (m : Moment) : String :=
  m.textWith " "

/-- The name of the type of a moment. -/
def Moment.typeName : Moment → String
  | .date _ => "date"
  | .clock _ => "time"
  | .instant .. => "datetime"

/-- A span of seconds as days, which may be negative, and the seconds within the last day. -/
def spanLiteral (seconds : Int) : String :=
  let days := seconds.fdiv 86400
  let rest := seconds.fmod 86400
  let parts := (if days = 0 then [] else ["days=" ++ toString days]) ++
    (if rest = 0 then [] else ["seconds=" ++ toString rest])
  "datetime.timedelta(" ++ (if parts.isEmpty then "0" else ", ".intercalate parts) ++ ")"

/-- The constructor expression of an offset. -/
def offsetLiteral (seconds : Int) : String :=
  if seconds = 0 then "datetime.timezone.utc"
  else "datetime.timezone(" ++ spanLiteral seconds ++ ")"

/-- The fields of a time of day, less the last ones that are zero. -/
def Clock.fields (c : Clock) : List Nat :=
  [c.hour, c.minute] ++
    (if c.micro ≠ 0 then [c.second, c.micro] else if c.second ≠ 0 then [c.second] else [])

/-- The constructor expression of a moment. -/
def Moment.literal : Moment → String
  | .date d =>
    "datetime.date(" ++ ", ".intercalate ([d.year, d.month, d.day].map toString) ++ ")"
  | .clock c => "datetime.time(" ++ ", ".intercalate (c.fields.map toString) ++ ")"
  | .instant d c offset =>
    "datetime.datetime(" ++
      ", ".intercalate (([d.year, d.month, d.day] ++ c.fields).map toString) ++
      (match offset with | some s => ", tzinfo=" ++ offsetLiteral s | none => "") ++ ")"

end LayeredConfig
