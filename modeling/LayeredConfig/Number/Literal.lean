import LayeredConfig.Number.Binary64
import LayeredConfig.Text.Character

set_option autoImplicit false

/-!
# Number literals

Texts that write numbers: integers in decimal, and floating-point numbers as digits with an
optional point and an optional exponent, or a word for infinity or for the undefined value.

## Main definitions

* `integerLiteral?` — an optional sign and digits of ASCII.
* `digitLimit` — how many digits an integer may have.
* `readFloat?` — a floating-point literal, correctly rounded.
-/

namespace LayeredConfig.Number

open Text

/-- The greatest number of digits of an integer that is read from a decimal text. -/
def digitLimit : Nat := 4300

/-- Splits off an optional sign; the answer tells whether it was a minus. -/
def splitSign : List Char → Bool × List Char
  | '-' :: rest => (true, rest)
  | '+' :: rest => (false, rest)
  | cs => (false, cs)

/-- The sign and the digits of an integer literal. -/
def integerLiteral? (cs : List Char) : Option (Bool × List Char) :=
  let (negative, ds) := splitSign cs
  if !ds.isEmpty && ds.all isAsciiDigit then some (negative, ds) else none

/-- The integer with a sign and digits. -/
def signedValue (negative : Bool) (ds : List Char) : Int :=
  if negative then -(ofDigits ds : Int) else ofDigits ds

/-- Digits of any script written in ASCII. -/
def asciiDigit (c : Char) : Char :=
  match digit? c with
  | some d => Char.ofNat (0x30 + d)
  | none => c

/-- The parts of a decimal: digits before the point, digits after it, and the exponent. -/
structure Decimal where
  /-- The digits before the point. -/
  whole : List Char
  /-- The digits after the point. -/
  fraction : List Char
  /-- The power of ten. -/
  exponent : Int
deriving Repr

/-- An optional exponent, which has to end the text. -/
def readExponent? : List Char → Option Int
  | [] => some 0
  | c :: rest =>
    if c = 'e' ∨ c = 'E' then
      (integerLiteral? rest).map fun (negative, ds) => signedValue negative ds
    else none

/-- A decimal without sign: digits on one side of the point at least. -/
def readDecimal? (cs : List Char) : Option Decimal :=
  let whole := cs.takeWhile isAsciiDigit
  let (fraction, rest) :=
    match cs.dropWhile isAsciiDigit with
    | '.' :: rest => (rest.takeWhile isAsciiDigit, rest.dropWhile isAsciiDigit)
    | rest => ([], rest)
  if whole.isEmpty && fraction.isEmpty then none
  else (readExponent? rest).map fun e => ⟨whole, fraction, e⟩

/-- The number nearest to a decimal. Powers of ten far beyond the range of floating-point numbers
are decided by their size alone. -/
def Decimal.toFloat (d : Decimal) (negative : Bool) : Float :=
  let ds := (d.whole ++ d.fraction).dropWhile (· = '0')
  let n := ofDigits ds
  let e := d.exponent - d.fraction.length
  let size := e + ds.length
  if n = 0 ∨ size < -400 then ofFraction negative 0 1
  else if 400 < size then infinity negative
  else if 0 ≤ e then ofFraction negative (n * Nat.pow 10 e.toNat) 1
  else ofFraction negative n (Nat.pow 10 (-e).toNat)

/-- A letter of ASCII in lower case. -/
def asciiLower (c : Char) : Char :=
  if 0x41 ≤ c.toNat ∧ c.toNat ≤ 0x5A then Char.ofNat (c.toNat + 0x20) else c

/-- A floating-point literal: an optional sign, and a decimal or one of the words `inf`,
`infinity` and `nan` in any letter case. Digits of every script count. -/
def readFloat? (s : String) : Option Float :=
  let (negative, cs) := splitSign (s.toList.map asciiDigit)
  let word := String.ofList (cs.map asciiLower)
  if word = "inf" ∨ word = "infinity" then some (infinity negative)
  else if word = "nan" then some nan
  else (readDecimal? cs).map (·.toFloat negative)

end LayeredConfig.Number
