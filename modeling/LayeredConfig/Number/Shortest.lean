import LayeredConfig.Number.Binary64

set_option autoImplicit false

/-!
# Shortest decimals

The text of a floating-point number: the fewest decimal digits that read back as the number, and
of those the nearest to it. Among the decimals of `n` digits only the two neighbours of the
number's exact value can be in question, so they are tried for one digit, two digits and so on;
seventeen digits always suffice.

## Main definitions

* `Shortest.digits` — the digits, and where the decimal point stands.
* `DecimalFormat` — when to write an exponent.
* `floatText` — the text of a number.
-/

namespace LayeredConfig.Number

namespace Shortest

/-- The exact value of a number and the ends of the interval of reals that round to it, all in
units of a quarter of its last bit: below, value, above. A significand that is a power of two has
its lower neighbour at half the distance. -/
def interval (m : Nat) (e : Int) : Nat × Nat × Nat :=
  let below := if m = Nat.pow 2 52 ∧ minExponent < e then 4 * m - 1 else 4 * m - 2
  (below, 4 * m, 4 * m + 2)

/-- Whether `a / b < 10 ^ k`. -/
def belowPower (a b : Nat) (k : Int) : Bool :=
  if 0 ≤ k then decide (a < Nat.pow 10 k.toNat * b) else decide (a * Nat.pow 10 (-k).toNat < b)

/-- The least of four successive exponents `k` with `a / b < 10 ^ k`. -/
def powerAbove (a b : Nat) (k : Int) : Int :=
  if belowPower a b k then k
  else if belowPower a b (k + 1) then k + 1
  else if belowPower a b (k + 2) then k + 2
  else k + 3

/-- A point of a decimal grid that lies in an interval. The arguments `lo`, `v`, `hi` and `step`
are the ends, the value and the distance of the grid, over one common denominator; the ends belong
to the interval when `closed`. Of the two neighbours of the value the nearer wins, and in a tie
the even one. -/
def gridPoint? (closed : Bool) (lo v hi step : Nat) : Option Nat :=
  let inside (x : Nat) : Bool :=
    if closed then decide (lo ≤ x ∧ x ≤ hi) else decide (lo < x ∧ x < hi)
  let c := v / step
  let low := inside (c * step)
  let high := inside ((c + 1) * step)
  let r := v % step
  if low && high then
    if 2 * r < step then some c
    else if 2 * r = step then some (c + c % 2)
    else some (c + 1)
  else if low then some c
  else if high then some (c + 1)
  else none

/-- Tries grids of `n`, `n + 1`, … digits for a value below `10 ^ k`, at most `fuel` of them. The
answer is a whole number and the power of ten that it is to be multiplied with. -/
def search (closed : Bool) (lo v hi den : Nat) (k : Int) : (fuel n : Nat) → Nat × Int
  | 0, _ => (v / den, 0)
  | fuel + 1, n =>
    let power : Int := k - n
    let point :=
      if 0 ≤ power then gridPoint? closed lo v hi (den * Nat.pow 10 power.toNat)
      else
        let scale := Nat.pow 10 (-power).toNat
        gridPoint? closed (lo * scale) (v * scale) (hi * scale) den
    match point with
    | some c => (c, power)
    | none => search closed lo v hi den k fuel (n + 1)

/-- Removes final zeros, at most `fuel` of them, and counts them on the power of ten. -/
def dropZeros : (fuel : Nat) → Nat × Int → Nat × Int
  | 0, r => r
  | fuel + 1, (n, p) => if n ≠ 0 ∧ n % 10 = 0 then dropZeros fuel (n / 10, p + 1) else (n, p)

/-- The digits of a positive finite number, and the power of ten that scales `0.d₁d₂…`. -/
def digits (m : Nat) (e : Int) : List Char × Int :=
  let (below, value, above) := interval m e
  let unit := e - 2
  let scale := if 0 ≤ unit then Nat.pow 2 unit.toNat else 1
  let den := if 0 ≤ unit then 1 else Nat.pow 2 (-unit).toNat
  let log : Int := (Nat.log2 m : Int) + e
  let k := powerAbove (value * scale) den (log * 30103 / 100000 - 1)
  let found := search (m % 2 = 0) (below * scale) (value * scale) (above * scale) den k 17 1
  let (n, power) := dropZeros 20 found
  let text := Nat.toDigits 10 n
  (text, power + text.length)

end Shortest

/-- When and how a decimal is written with an exponent. -/
structure DecimalFormat where
  /-- The least exponent written without exponent. -/
  least : Int
  /-- The first exponent, above the others, that is written. -/
  bound : Int
  /-- The least number of digits of an exponent. -/
  width : Nat

/-- Numbers from `10 ^ -4` up to `10 ^ 16` are written without exponent; an exponent has a sign
and two digits at least. -/
def plainDecimal : DecimalFormat := ⟨-4, 16, 2⟩

/-- An exponent: sign and digits, padded with zeros to a width. -/
def exponentText (width : Nat) (e : Int) : List Char :=
  let ds := Nat.toDigits 10 e.natAbs
  (if e < 0 then '-' else '+') :: (List.replicate (width - ds.length) '0' ++ ds)

/-- Writes the decimal `0.d₁d₂… * 10 ^ point`. -/
def DecimalFormat.write (f : DecimalFormat) (ds : List Char) (point : Int) : List Char :=
  let e := point - 1
  if f.least ≤ e ∧ e < f.bound then
    if point ≤ 0 then '0' :: '.' :: (List.replicate (-point).toNat '0' ++ ds)
    else
      let n := point.toNat
      let rest := ds.drop n
      (ds.take n ++ List.replicate (n - ds.length) '0') ++
        '.' :: (if rest.isEmpty then ['0'] else rest)
  else
    let rest := ds.drop 1
    ds.take 1 ++ (if rest.isEmpty then [] else '.' :: rest) ++ 'e' :: exponentText f.width e

/-- The text of a floating-point number. -/
def floatText (x : Float) : String :=
  match Binary64.ofFloat x with
  | .nan => "nan"
  | .infinite negative => if negative then "-inf" else "inf"
  | .finite negative m e =>
    let body :=
      if m = 0 then ['0', '.', '0']
      else
        let (ds, point) := Shortest.digits m e
        plainDecimal.write ds point
    String.ofList (if negative then '-' :: body else body)

end LayeredConfig.Number
