import LayeredConfig.Format.Toml.Text

set_option autoImplicit false

/-!
# Numbers and moments of TOML

Integers in four bases and floating-point numbers, with underscores between digits; dates, times of
day and instants in the form of RFC 3339, without leap seconds.

## Main definitions

* `Toml.readNumber` — a number.
* `Toml.readMoment` — a date, a time of day, or an instant.
-/

namespace LayeredConfig.Format.Toml

open Text (isAsciiDigit)

/-- The digits at the start of a text, single underscores between them included. -/
def digitRun (ok : Char → Bool) : List Char → List Char
  | c :: '_' :: cs =>
    if ok c then
      if (cs.head?.map ok).getD false then c :: '_' :: digitRun ok cs else [c]
    else []
  | c :: cs => if ok c then c :: digitRun ok cs else []
  | [] => []

/-- Digits without underscores. -/
def digitsOf (cs : List Char) : List Char :=
  cs.filter (· ≠ '_')

/-- The value of digits in a base. -/
def valueIn (base : Nat) (cs : List Char) : Nat :=
  (digitsOf cs).foldl (fun n c => base * n + (Text.hexValue? c).getD 0) 0

/-- An integer in another base than ten, with the number of its characters. -/
def basedInteger? (cs : List Char) : Option (Datum × Nat) :=
  let read (base : Nat) (ok : Char → Bool) (cs : List Char) : Option (Datum × Nat) :=
    let ds := digitRun ok cs
    if ds.isEmpty then none else some (.integer (valueIn base ds), ds.length + 2)
  match cs with
  | '0' :: 'x' :: cs => read 16 (fun c => (Text.hexValue? c).isSome) cs
  | '0' :: 'b' :: cs => read 2 (fun c => c = '0' || c = '1') cs
  | '0' :: 'o' :: cs => read 8 (fun c => '0' ≤ c && c ≤ '7') cs
  | _ => none

/-- The exponent at the start of a text, from its letter on. -/
def exponentRun (cs : List Char) : List Char :=
  match cs with
  | e :: cs =>
    if e = 'e' ∨ e = 'E' then
      let sign := cs.takeWhile (fun c => c = '+' || c = '-') |>.take 1
      let ds := digitRun isAsciiDigit (cs.drop sign.length)
      if ds.isEmpty then [] else e :: sign ++ ds
    else []
  | [] => []

/-- A number in base ten, with the number of its characters. -/
def decimal? (cs : List Char) : Option (Except Error Datum × Nat) :=
  let (negative, unsigned) := Number.splitSign cs
  let whole := match unsigned with
    | '0' :: _ => ['0']
    | _ => digitRun isAsciiDigit unsigned
  if whole.isEmpty then none
  else
    let rest := unsigned.drop whole.length
    let fraction := match rest with
      | '.' :: cs => digitRun isAsciiDigit cs
      | _ => []
    let point := if fraction.isEmpty then 0 else 1
    let exponent := exponentRun (rest.drop (point + fraction.length))
    let used := (cs.length - unsigned.length) + whole.length + point + fraction.length +
      exponent.length
    let ds := digitsOf whole
    if fraction.isEmpty && exponent.isEmpty then
      if Number.digitLimit < ds.length then some (.error (.tooManyDigits ds.length), used)
      else some (.ok (.integer (Number.signedValue negative ds)), used)
    else
      let e := (Number.readExponent? (digitsOf exponent)).getD 0
      some (.ok (.float ((Number.Decimal.mk ds (digitsOf fraction) e).toFloat negative)), used)

/-- The words for infinity and for the undefined value, with or without a sign. -/
def numberWord? (cs : List Char) : Option (Datum × Nat) :=
  let (negative, word) := Number.splitSign cs
  let used := cs.length - word.length + 3
  match word with
  | 'i' :: 'n' :: 'f' :: _ => some (.float (Number.infinity negative), used)
  | 'n' :: 'a' :: 'n' :: _ => some (.float Number.nan, used)
  | _ => none

/-- Reads a number, if one begins here. -/
def readNumber : Read (Option Datum) := do
  let cs := (← get).rest
  match basedInteger? cs with
  | some (d, used) =>
    step used
    return some d
  | none =>
    match decimal? cs with
    | some (.ok d, used) =>
      step used
      return some d
    | some (.error e, _) => throw e
    | none =>
      match numberWord? cs with
      | some (d, used) =>
        step used
        return some d
      | none => return none

/-- The number that the first `count` characters write, which have to be digits, and the rest. -/
def fixedNumber? (count : Nat) (cs : List Char) : Option (Nat × List Char) :=
  let ds := cs.take count
  if ds.length = count ∧ ds.all isAsciiDigit then some (Text.ofDigits ds, cs.drop count) else none

/-- A number of two digits that is at most `most`, and the rest. -/
def twoDigits? (most : Nat) (cs : List Char) : Option (Nat × List Char) := do
  let (n, rest) ← fixedNumber? 2 cs
  if n ≤ most then some (n, rest) else none

/-- What follows a character that has to come first. -/
def after? (c : Char) : List Char → Option (List Char)
  | [] => none
  | d :: rest => if d = c then some rest else none

/-- The microseconds of a fraction of a second; digits beyond the sixth do not count. -/
def fraction (cs : List Char) : Nat × List Char :=
  match cs with
  | '.' :: rest =>
    let ds := rest.takeWhile isAsciiDigit
    if ds.isEmpty then (0, cs)
    else
      let kept := ds.take 6
      (Text.ofDigits (kept ++ List.replicate (6 - kept.length) '0'), rest.drop ds.length)
  | _ => (0, cs)

/-- A time of day, and the rest. -/
def clock? (cs : List Char) : Option (Clock × List Char) := do
  let (hour, cs) ← twoDigits? 23 cs
  let (minute, cs) ← twoDigits? 59 (← after? ':' cs)
  let (second, cs) ← twoDigits? 59 (← after? ':' cs)
  let (micro, cs) := fraction cs
  return (⟨hour, minute, second, micro⟩, cs)

/-- A date, and the rest. Months have two digits up to 12, days two digits up to 31. -/
def date? (cs : List Char) : Option (Date × List Char) := do
  let (year, cs) ← fixedNumber? 4 cs
  let (month, cs) ← twoDigits? 12 (← after? '-' cs)
  let (day, cs) ← twoDigits? 31 (← after? '-' cs)
  if month = 0 ∨ day = 0 then none else some (⟨year, month, day⟩, cs)

/-- An offset from universal time in seconds, and the rest. -/
def offset? (cs : List Char) : Option (Int × List Char) :=
  match cs with
  | 'Z' :: rest | 'z' :: rest => some (0, rest)
  | '+' :: rest => span 1 rest
  | '-' :: rest => span (-1) rest
  | _ => none
where
  /-- Hours and minutes as seconds, with a sign. -/
  span (sign : Int) (cs : List Char) : Option (Int × List Char) := do
    let (hours, cs) ← twoDigits? 23 cs
    let (minutes, cs) ← twoDigits? 59 (← after? ':' cs)
    return (sign * (3600 * hours + 60 * minutes : Nat), cs)

/-- A time of day with an optional offset behind a separator, and the rest. -/
def timeOfInstant? (cs : List Char) : Option (Clock × Option Int × List Char) :=
  match cs with
  | c :: cs =>
    if c = 'T' ∨ c = 't' ∨ c = ' ' then do
      let (clock, cs) ← clock? cs
      match offset? cs with
      | some (offset, cs) => return (clock, some offset, cs)
      | none => return (clock, none, cs)
    else none
  | [] => none

/-- A date, an instant or a time of day, and the rest. -/
def moment? (cs : List Char) : Option (Moment × List Char) :=
  match date? cs with
  | some (date, cs) =>
    match timeOfInstant? cs with
    | some (clock, offset, cs) => some (.instant date clock offset, cs)
    | none => some (.date date, cs)
  | none => (clock? cs).map fun (clock, cs) => (.clock clock, cs)

/-- Whether the date of a moment exists. -/
def momentExists : Moment → Bool
  | .date d | .instant d _ _ => d.check.isNone
  | .clock _ => true

/-- Reads a moment, if one begins here. -/
def readMoment : Read (Option Datum) := do
  let cs := (← get).rest
  match moment? cs with
  | some (m, rest) =>
    if momentExists m then
      step (cs.length - rest.length)
      return some (.moment m)
    else refuse .badMoment
  | none => return none

end LayeredConfig.Format.Toml
