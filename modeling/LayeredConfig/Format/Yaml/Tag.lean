import LayeredConfig.Format.Yaml.Basic
import LayeredConfig.Text.Character

set_option autoImplicit false

/-!
# Tags

A tag names the type of a node. A text without quotes and without a tag has the type that its form
suggests: `yes` is a truth value, `0x1f` an integer, `1:30` an integer in base 60, `2001-12-14` a
date.

## Main definitions

* `Yaml.Tag` — the tags that data can be built for.
* `Tag.ofPlain` — the tag that the form of a text suggests.
-/

namespace LayeredConfig.Format.Yaml

/-- The tags that mean something, and all others. -/
inductive Tag where
  /-- The absence of data. -/
  | nil
  /-- A truth value. -/
  | boolean
  /-- An integer. -/
  | integer
  /-- A floating-point number. -/
  | float
  /-- Octets, as text in base 64. -/
  | octets
  /-- A date or an instant. -/
  | moment
  /-- A sequence of mappings with one entry each, all of different keys. -/
  | orderedMap
  /-- A sequence of mappings with one entry each. -/
  | pairs
  /-- A set, as a mapping whose values do not count. -/
  | set
  /-- A text. -/
  | text
  /-- A sequence. -/
  | sequence
  /-- A mapping. -/
  | mapping
  /-- The key under which other mappings are merged in. -/
  | merge
  /-- The key of the default value. -/
  | default
  /-- A tag that means nothing. -/
  | other (name : String)
deriving DecidableEq, Repr

namespace Tag

/-- What the names of the tags that mean something start with. -/
def root : String := "tag:yaml.org,2002:"

/-- The names of the tags that mean something. -/
def names : List (String × Tag) :=
  [("null", .nil), ("bool", .boolean), ("int", .integer), ("float", .float), ("binary", .octets),
    ("timestamp", .moment), ("omap", .orderedMap), ("pairs", .pairs), ("set", .set),
    ("str", .text), ("seq", .sequence), ("map", .mapping), ("merge", .merge), ("value", .default)]

/-- The tag with a name. -/
def ofName (name : String) : Tag :=
  match names.find? fun (n, _) => root ++ n = name with
  | some (_, t) => t
  | none => .other name

/-- The name of a tag. -/
def name (t : Tag) : String :=
  match t, names.find? fun (_, t') => t' = t with
  | .other n, _ => n
  | _, some (n, _) => root ++ n
  | _, none => ""

/-! ## The form of texts -/

open Text (isAsciiDigit)

/-- Whether a character is a digit or an underscore. -/
def isDigitOrGap (c : Char) : Bool :=
  isAsciiDigit c || c = '_'

/-- A text without an optional sign. -/
def unsigned (cs : List Char) : List Char :=
  match cs with
  | '+' :: rest => rest
  | '-' :: rest => rest
  | _ => cs

/-- Whether a text is empty or an exponent with a sign. -/
def isExponent (cs : List Char) : Bool :=
  match cs with
  | [] => true
  | e :: s :: ds =>
    (e = 'e' || e = 'E') && (s = '-' || s = '+') && !ds.isEmpty && ds.all isAsciiDigit
  | _ => false

/-- What is left behind places in base 60, each of them up to 59, with the number of places. -/
def dropPlaces : List Char → Nat × List Char
  | ':' :: a :: b :: rest =>
    if isAsciiDigit a && a ≤ '5' && isAsciiDigit b then
      let (n, rest) := dropPlaces rest
      (n + 1, rest)
    else if isAsciiDigit a then
      let (n, rest) := dropPlaces (b :: rest)
      (n + 1, rest)
    else (0, ':' :: a :: b :: rest)
  | [':', a] => if isAsciiDigit a then (1, []) else (0, [':', a])
  | cs => (0, cs)
termination_by cs => cs.length

/-- Whether a text has the form of a floating-point number. -/
def isFloat (cs : List Char) : Bool :=
  let signless := unsigned cs
  let rest := signless.dropWhile isDigitOrGap
  let startsWithDigit := (signless.head?.map isAsciiDigit).getD false
  let decimal := match rest with
    | '.' :: rest => startsWithDigit && isExponent (rest.dropWhile isDigitOrGap)
    | _ => false
  let small := match cs with
    | '.' :: d :: rest => isAsciiDigit d && isExponent (rest.dropWhile isDigitOrGap)
    | _ => false
  let places := startsWithDigit &&
    match dropPlaces rest with
    | (0, _) => false
    | (_, '.' :: rest) => rest.all isDigitOrGap
    | _ => false
  decimal || small || places || [".inf", ".Inf", ".INF"].contains (String.ofList signless)
    || [".nan", ".NaN", ".NAN"].contains (String.ofList cs)

/-- Whether a text has the form of an integer. -/
def isInteger (cs : List Char) : Bool :=
  match unsigned cs with
  | [] => false
  | ['0'] => true
  | '0' :: 'b' :: ds => !ds.isEmpty && ds.all fun c => c = '0' || c = '1' || c = '_'
  | '0' :: 'x' :: ds =>
    !ds.isEmpty && ds.all fun c =>
      isDigitOrGap c || ('a' ≤ c && c ≤ 'f') || ('A' ≤ c && c ≤ 'F')
  | '0' :: ds => ds.all fun c => ('0' ≤ c && c ≤ '7') || c = '_'
  | d :: rest =>
    isAsciiDigit d && (dropPlaces (rest.dropWhile isDigitOrGap)).2.isEmpty

/-- The words for truth values. -/
def truthWords : List String :=
  ["yes", "Yes", "YES", "no", "No", "NO", "true", "True", "TRUE", "false", "False", "FALSE",
    "on", "On", "ON", "off", "Off", "OFF"]

end Tag

/-! ## The form of moments -/

/-- The parts of a moment, as texts of digits. -/
structure MomentText where
  /-- The year. -/
  year : List Char
  /-- The month. -/
  month : List Char
  /-- The day. -/
  day : List Char
  /-- Hour, minute, second and fraction of a second, if there are any. -/
  clock : Option (List Char × List Char × List Char × List Char)
  /-- The offset from universal time: sign, hours and minutes; nothing inside for universal time
  itself. -/
  offset : Option (Option (Char × List Char × List Char))

namespace MomentText

open Text (isAsciiDigit)

/-- Between `least` and `most` digits, and the rest. -/
def digits? (least most : Nat) (cs : List Char) : Option (List Char × List Char) :=
  let ds := (cs.take most).takeWhile isAsciiDigit
  if ds.length < least then none else some (ds, cs.drop ds.length)

/-- What follows a character that has to come first. -/
def after? (c : Char) : List Char → Option (List Char)
  | [] => none
  | d :: rest => if d = c then some rest else none

/-- Whether a character is a blank or a tab. -/
def isGap (c : Char) : Bool :=
  c = ' ' || c = '\t'

/-- The offset that ends a text, if it is one. -/
def offset? (cs : List Char) : Option (Option (Option (Char × List Char × List Char))) :=
  match cs.dropWhile isGap with
  | [] => if cs.isEmpty then some none else none
  | ['Z'] => some (some none)
  | s :: rest =>
    if s = '+' ∨ s = '-' then do
      let (hours, rest) ← digits? 1 2 rest
      match rest with
      | [] => return some (some (s, hours, []))
      | _ =>
        let (minutes, rest) ← digits? 2 2 (← after? ':' rest)
        if rest.isEmpty then return some (some (s, hours, minutes)) else none
    else none

/-- What separates a date from a time of day is taken away. -/
def afterDate? (cs : List Char) : Option (List Char) :=
  match cs with
  | 'T' :: rest => some rest
  | 't' :: rest => some rest
  | c :: _ => if isGap c then some (cs.dropWhile isGap) else none
  | [] => none

/-- The parts of a moment, if a text has its form. -/
def ofText? (cs : List Char) : Option MomentText := do
  let (year, cs) ← digits? 4 4 cs
  let (month, cs) ← digits? 1 2 (← after? '-' cs)
  let (day, cs) ← digits? 1 2 (← after? '-' cs)
  if cs.isEmpty then return ⟨year, month, day, none, none⟩
  else
    let (hour, cs) ← digits? 1 2 (← afterDate? cs)
    let (minute, cs) ← digits? 2 2 (← after? ':' cs)
    let (second, cs) ← digits? 2 2 (← after? ':' cs)
    let fraction := match cs with
      | '.' :: rest => rest.takeWhile isAsciiDigit
      | _ => []
    let cs := match cs with
      | '.' :: rest => rest.dropWhile isAsciiDigit
      | _ => cs
    return ⟨year, month, day, some (hour, minute, second, fraction), ← offset? cs⟩

/-- Whether a moment is one without being tagged as such: a date alone has two digits for the month
and for the day. -/
def isUntagged (m : MomentText) : Bool :=
  m.clock.isSome || (m.month.length = 2 && m.day.length = 2)

end MomentText

/-- A text without the line feed that ends it, if there is anything before it. -/
def withoutLineEnd (cs : List Char) : List Char :=
  if cs.getLast? = some '\n' ∧ 1 < cs.length then cs.dropLast else cs

/-- The tag that the form of a text suggests; a line feed at its end does not count. -/
def Tag.ofPlain (text : String) : Tag :=
  let cs := withoutLineEnd text.toList
  let s := String.ofList cs
  if truthWords.contains s then .boolean
  else if isFloat cs then .float
  else if isInteger cs then .integer
  else if s = "<<" then .merge
  else if ["~", "null", "Null", "NULL", ""].contains s then .nil
  else if ((MomentText.ofText? cs).map MomentText.isUntagged).getD false then .moment
  else if s = "=" then .default
  else if s = "!" ∨ s = "&" ∨ s = "*" then .other (root ++ "yaml")
  else .text

end LayeredConfig.Format.Yaml
