import LayeredConfig.Format.Yaml.Node
import LayeredConfig.Value.Build
import LayeredConfig.Text.Character
import LayeredConfig.Text.Case

set_option autoImplicit false

/-!
# What texts write

The data that the text of a node writes, given its tag: truth values, numbers in several bases,
moments and octets. A tag may be put on any text, so each of these can fail.

## Main definitions

* `Yaml.integerOf`, `Yaml.floatOf` — numbers.
* `Yaml.momentOf` — moments.
* `Yaml.octetsOf` — octets in base 64.
* `Yaml.scalarOf` — the data that a text with a tag writes.
-/

namespace LayeredConfig.Format.Yaml

/-- A fault that is no fault of the notation. -/
def fail {α : Type} (e : Fault) : Except Error α :=
  .error (.unbuildable e)

/-! ## Numbers -/

/-- A text without underscores. -/
def withoutGaps (cs : List Char) : List Char :=
  cs.filter (· ≠ '_')

/-- The value of a digit of any script, or of a letter that counts as a digit. -/
def digitValue? (c : Char) : Option Nat :=
  match Text.digit? c with
  | some d => some d
  | none => Text.hexValue? c

/-- The fault of a text that writes no integer in a base. At most 200 characters of the text are
shown. -/
def badInteger (base : Nat) (s : String) : Fault :=
  .invalid ("invalid literal for int() with base " ++ toString base ++ ": " ++
    String.ofList ((Text.quoted s).toList.take 200))

/-- The marker that may stand before the digits of a base. -/
def baseMarker (base : Nat) : List Char :=
  match base with
  | 2 => ['b', 'B']
  | 8 => ['o', 'O']
  | 16 => ['x', 'X']
  | _ => []

/-- Digits without the marker of their base. -/
def withoutMarker (base : Nat) (cs : List Char) : List Char :=
  match cs with
  | '0' :: m :: rest => if (baseMarker base).contains m then rest else cs
  | _ => cs

/-- The integer that a text writes in a base, between white space and with an optional sign. -/
def readInteger (base : Nat) (s : String) : Except Fault Int :=
  let (negative, cs) := Number.splitSign (Text.trim s).toList
  let cs := withoutMarker base cs
  let ds := cs.map digitValue?
  if cs.isEmpty ∨ ds.any (fun d => base ≤ d.getD base) then .error (badInteger base s)
  else if base = 10 ∧ Number.digitLimit < ds.length then .error (.tooManyDigits ds.length)
  else
    let n : Nat := ds.foldl (fun n d => base * n + d.getD 0) 0
    .ok (if negative then -n else n)

/-- The floating-point number that a text writes, between white space. -/
def readFloat (s : String) : Except Fault Float :=
  match Number.readFloat? (Text.trim s) with
  | some x => .ok x
  | none => .error (.invalid ("could not convert string to float: " ++ Text.quoted s))

/-- The integer that a text writes: in base two, sixteen or eight behind `0b`, `0x` or `0`, in base
sixty with colons between the places, or else in base ten. -/
def integerOf (text : String) : Except Fault Int := do
  let cs := withoutGaps text.toList
  if cs.isEmpty then .error (.misuse .noPosition)
  else
    let (negative, cs) := Number.splitSign cs
    let signed (i : Int) : Int := if negative then -i else i
    let read (base : Nat) (cs : List Char) : Except Fault Int :=
      (readInteger base (String.ofList cs)).map signed
    match cs with
    | ['0'] => return 0
    | '0' :: 'b' :: ds => read 2 ds
    | '0' :: 'x' :: ds => read 16 ds
    | [] => .error (.misuse .noPosition)
    | '0' :: _ => read 8 cs
    | _ =>
      if cs.contains ':' then
        let digits ← (Text.splitOn ':' cs).mapM fun p => readInteger 10 (String.ofList p)
        return signed (digits.foldl (fun n d => 60 * n + d) 0)
      else read 10 cs

/-- The number with the given places in base sixty, the last one first; `base` is the weight of the
first of them. -/
def sexagesimal (base : Nat) (sum : Float) : List Float → Except Fault Float
  | [] => .ok sum
  | x :: xs =>
    let weight := Number.ofInteger base
    if weight.isInf then .error (.misuse .tooLarge)
    else sexagesimal (60 * base) (sum + x * weight) xs

/-- The floating-point number that a text writes: infinity and the undefined value have a point in
front, and colons stand between places in base sixty. -/
def floatOf (text : String) : Except Fault Float := do
  let cs := withoutGaps (Text.lower text |>.toList)
  if cs.isEmpty then .error (.misuse .noPosition)
  else
    let (negative, cs) := Number.splitSign cs
    let signed (x : Float) : Float := if negative then -1 * x else x
    let s := String.ofList cs
    if s = ".inf" then return Number.infinity negative
    else if s = ".nan" then return Number.nan
    else if cs.contains ':' then
      let digits ← (Text.splitOn ':' cs).mapM fun p => readFloat (String.ofList p)
      return signed (← sexagesimal 1 0 digits.reverse)
    else return signed (← readFloat s)

/-- The truth value that a word stands for, in any letter case. -/
def booleanOf (text : String) : Except Fault Bool :=
  let word := Text.lower text
  if ["yes", "true", "on"].contains word then .ok true
  else if ["no", "false", "off"].contains word then .ok false
  else .error (.misuse .noKey)

/-! ## Moments -/

/-- The microseconds of a fraction of a second; digits beyond the sixth do not count. -/
def microOf (fraction : List Char) : Nat :=
  let kept := fraction.take 6
  Text.ofDigits (kept ++ List.replicate (6 - kept.length) '0')

/-- The offset of sign, hours and minutes in seconds, which has to be less than a day. -/
def offsetOf (sign : Char) (hours minutes : List Char) : Except Fault Int :=
  let n : Int := (3600 * Text.ofDigits hours + 60 * Text.ofDigits minutes : Nat)
  let seconds := if sign = '-' then -n else n
  if n < 86400 then .ok seconds
  else
    .error (.invalid ("offset must be a timedelta strictly between -timedelta(hours=24) and " ++
      "timedelta(hours=24), not " ++ spanLiteral seconds ++ "."))

/-- The moment of a text, which has to exist. -/
def momentOf (text : String) : Except Fault Moment := do
  match MomentText.ofText? (withoutLineEnd text.toList) with
  | none => .error (.misuse .noOperation)
  | some m =>
    let date : Date := ⟨Text.ofDigits m.year, Text.ofDigits m.month, Text.ofDigits m.day⟩
    let refuse (diagnostic : Option String) : Except Fault Unit :=
      match diagnostic with
      | some d => .error (.invalid d)
      | none => .ok ()
    match m.clock with
    | none =>
      refuse date.check
      return .date date
    | some (hour, minute, second, fraction) =>
      let offset ←
        match m.offset with
        | none => pure none
        | some none => pure (some 0)
        | some (some (sign, hours, minutes)) => (offsetOf sign hours minutes).map some
      let clock : Clock :=
        ⟨Text.ofDigits hour, Text.ofDigits minute, Text.ofDigits second, microOf fraction⟩
      refuse date.check
      refuse clock.check
      return .instant date clock offset

/-! ## Octets -/

/-- The value of a digit in base 64. -/
def sextet? (c : Char) : Option Nat :=
  if 'A' ≤ c ∧ c ≤ 'Z' then some (c.toNat - 0x41)
  else if 'a' ≤ c ∧ c ≤ 'z' then some (c.toNat - 0x61 + 26)
  else if '0' ≤ c ∧ c ≤ '9' then some (c.toNat - 0x30 + 52)
  else if c = '+' then some 62
  else if c = '/' then some 63
  else none

/-- The octets that digits in base 64 write. Other characters do not count; an equals sign ends the
text where enough of them complete a group of four. The arguments before the text are the digits of
the group so far, the equals signs behind them, and the number of octets before the group. -/
def octetsFrom (group : List Nat) (pads done : Nat) : List Char → Except String (List Nat)
  | [] =>
    if group.isEmpty then .ok []
    else if group.length = 1 then
      .error ("Invalid base64-encoded string: number of data characters (" ++
        toString (done / 3 * 4 + 1) ++ ") cannot be 1 more than a multiple of 4")
    else .error "Incorrect padding"
  | c :: cs =>
    if c = '=' then
      if 2 ≤ group.length ∧ 4 ≤ group.length + pads + 1 then .ok []
      else if 2 ≤ group.length then octetsFrom group (pads + 1) done cs
      else octetsFrom group pads done cs
    else
      match sextet? c, group with
      | none, _ => octetsFrom group pads done cs
      | some d, [] => octetsFrom [d] 0 done cs
      | some d, [a] => do
        return (a * 4 + d / 16) :: (← octetsFrom [a, d] 0 (done + 1) cs)
      | some d, [a, b] => do
        return (b % 16 * 16 + d / 4) :: (← octetsFrom [a, b, d] 0 (done + 1) cs)
      | some d, _ :: _ :: e :: _ => do
        return (e % 4 * 64 + d) :: (← octetsFrom [] 0 (done + 1) cs)

/-- The characters of a text that are not ASCII, as a diagnostic; only the first of them and those
right behind it are shown. -/
def asciiFault (cs : List Char) : Option String :=
  let position := (cs.takeWhile fun c => c.toNat < 0x80).length
  match (cs.drop position).takeWhile fun c => 0x80 ≤ c.toNat with
  | [] => none
  | [c] =>
    some ("'ascii' codec can't encode character '" ++ String.ofList (Text.escapeCode c) ++
      "' in position " ++ toString position ++ ": ordinal not in range(128)")
  | more =>
    some ("'ascii' codec can't encode characters in position " ++ toString position ++ "-" ++
      toString (position + more.length - 1) ++ ": ordinal not in range(128)")

/-- The octets that a text writes in base 64. -/
def octetsOf (text : String) (start : Mark) : Except Error (List Nat) :=
  match asciiFault text.toList with
  | some diagnostic => .error (.malformed none (.notAscii diagnostic) start)
  | none =>
    match octetsFrom [] 0 0 text.toList with
    | .ok octets => .ok octets
    | .error diagnostic => .error (.malformed none (.badOctets diagnostic) start)

/-! ## All of them -/

/-- The data that a text with a tag writes. -/
def scalarOf (tag : Tag) (text : String) (start : Mark) : Except Error DatumKey :=
  let lift {α : Type} (r : Except Fault α) (f : α → DatumKey) : Except Error DatumKey :=
    match r with
    | .ok a => .ok (f a)
    | .error e => fail e
  match tag with
  | .nil => .ok .nil
  | .boolean => lift (booleanOf text) .boolean
  | .integer => lift (integerOf text) .integer
  | .float => lift (floatOf text) .float
  | .octets => (octetsOf text start).map .octets
  | .moment => lift (momentOf text) .moment
  | .text => .ok (.text text)
  | tag => .error (.malformed none (.unknownTag tag.name) start)

end LayeredConfig.Format.Yaml
