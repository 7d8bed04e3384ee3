set_option autoImplicit false

/-!
# Binary floating-point numbers

The exact value of a 64-bit floating-point number, and the number nearest to a fraction. All
arithmetic is that of natural numbers.

## Main definitions

* `Binary64` — a floating-point number taken apart: sign, significand and power of two.
* `Binary64.ofFloat` — what a `Float` stands for.
* `nearest` — a fraction rounded to 53 significant bits, ties to an even significand.
* `ofFraction` — the `Float` nearest to a fraction.
* `sameNumber` — numerical equality, which no undefined value has with anything.
-/

namespace LayeredConfig.Number

/-- A floating-point number taken apart. -/
inductive Binary64 where
  /-- An undefined value. -/
  | nan
  /-- An infinity. -/
  | infinite (negative : Bool)
  /-- The number `significand * 2 ^ exponent`, negated when `negative`. -/
  | finite (negative : Bool) (significand : Nat) (exponent : Int)
deriving DecidableEq, Repr

/-- The least exponent of a finite number. -/
def minExponent : Int := -1074

/-- Takes a number apart, given its 64 bits. -/
def Binary64.ofBits (bits : Nat) : Binary64 :=
  let negative := decide (Nat.pow 2 63 ≤ bits)
  let field : Nat := bits / Nat.pow 2 52 % Nat.pow 2 11
  let fraction := bits % Nat.pow 2 52
  if field = 2047 then
    if fraction = 0 then .infinite negative else .nan
  else if field = 0 then .finite negative fraction minExponent
  else .finite negative (fraction + Nat.pow 2 52) ((field : Int) - 1075)

/-- What a `Float` stands for. -/
def Binary64.ofFloat (x : Float) : Binary64 :=
  .ofBits x.toBits.toNat

/-- Whether a number is undefined. -/
def isNaN (x : Float) : Bool :=
  match Binary64.ofFloat x with
  | .nan => true
  | _ => false

/-- Whether a number is a zero, of either sign. -/
def isZero (x : Float) : Bool :=
  match Binary64.ofFloat x with
  | .finite _ 0 _ => true
  | _ => false

/-- Numerical equality: the two zeros are equal and an undefined value equals nothing. -/
def sameNumber (x y : Float) : Bool :=
  !isNaN x && !isNaN y && (x.toBits == y.toBits || (isZero x && isZero y))

/-- A quotient rounded to a whole number, ties to even. -/
def roundQuotient (num den : Nat) : Nat :=
  let q := num / den
  let r := num % den
  if 2 * r < den then q
  else if 2 * r = den then q + q % 2
  else q + 1

/-- The fraction `num / den` in units of `2 ^ exponent`, as a fraction. -/
def inUnits (num den : Nat) (exponent : Int) : Nat × Nat :=
  if 0 ≤ exponent then (num, den * Nat.pow 2 exponent.toNat)
  else (num * Nat.pow 2 (-exponent).toNat, den)

/-- The exponent of the last of the 53 significant bits of a positive fraction, never below the
least exponent of all. -/
def unitExponent (num den : Nat) : Int :=
  let guess : Int := (Nat.log2 num : Int) - (Nat.log2 den : Int) - 52
  let (n, d) := inUnits num den guess
  let exact := if n < Nat.pow 2 52 * d then guess - 1 else guess
  max exact minExponent

/-- A fraction rounded to 53 significant bits, as significand and exponent. Ties go to an even
significand. The significand is `2 ^ 53` where the rounding carries. -/
def nearest (num den : Nat) : Nat × Int :=
  if num = 0 then (0, minExponent)
  else
    let exponent := unitExponent num den
    let (n, d) := inUnits num den exponent
    (roundQuotient n d, exponent)

/-- The bits of infinity. -/
def infinityBits : Nat := 2047 * Nat.pow 2 52

/-- The bits of a rounded number without its sign; infinity where the exponent is out of range. -/
def magnitudeBits (significand : Nat) (exponent : Int) : Nat :=
  min infinityBits ((exponent - minExponent).toNat * Nat.pow 2 52 + significand)

/-- A number from its sign and the bits of its magnitude. -/
def ofMagnitude (negative : Bool) (bits : Nat) : Float :=
  Float.ofBits (UInt64.ofNat (if negative then bits + Nat.pow 2 63 else bits))

/-- The `Float` nearest to a fraction, negated on request. -/
def ofFraction (negative : Bool) (num den : Nat) : Float :=
  let (significand, exponent) := nearest num den
  ofMagnitude negative (magnitudeBits significand exponent)

/-- The `Float` nearest to an integer. -/
def ofInteger (i : Int) : Float :=
  ofFraction (decide (i < 0)) i.natAbs 1

/-- The undefined value. -/
def nan : Float := Float.ofBits 0x7FF8000000000000

/-- Infinity, of the given sign. -/
def infinity (negative : Bool) : Float :=
  ofMagnitude negative infinityBits

/-- The integer that a finite number equals, if it is whole. -/
def toInteger? (x : Float) : Option Int :=
  match Binary64.ofFloat x with
  | .finite negative m e =>
    let signed (n : Nat) : Int := if negative then -(n : Int) else n
    if 0 ≤ e then some (signed (m * Nat.pow 2 e.toNat))
    else
      let d : Nat := Nat.pow 2 (-e).toNat
      if m % d = 0 then some (signed (m / d)) else none
  | _ => none

/-- The rule by which a reading as integer rounds: the floor, plus one when the distance to it,
itself rounded to a floating-point number, is above one half, or is one half and the number is
positive. -/
def roundToInteger? (x : Float) : Option Int :=
  match Binary64.ofFloat x with
  | .finite negative m e =>
    if 0 ≤ e then
      let n := m * Nat.pow 2 e.toNat
      some (if negative then -(n : Int) else n)
    else
      let d : Nat := Nat.pow 2 (-e).toNat
      let whole : Int := (m / d : Nat)
      let rest : Nat := m % d
      if rest = 0 then some (if negative then -whole else whole)
      else
        let floor := if negative then -whole - 1 else whole
        let (s, k) := nearest (if negative then d - rest else rest) d
        let twice := 2 * s
        let unit := Nat.pow 2 (-k).toNat
        some (if unit < twice ∨ (unit = twice ∧ !negative) then floor + 1 else floor)
  | _ => none

end LayeredConfig.Number
