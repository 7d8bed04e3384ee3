set_option autoImplicit false

/-!
# Kinds of characters

A property of characters is kept as a table of ranges of code points, and asked by bisection. The
white space is that of Unicode's bidirectional classes and separators: it includes the four
information separators U+001C to U+001F. Unicode's decimal digits come in runs of ten, zero first,
one run or more for a script.

## Main definitions

* `CodeSet`, `CodeSet.contains` — disjoint closed ranges of code points, and their characters.
* `isBlank`, `trim` — white space, and a text without it at its ends.
* `digit?` — the value of a decimal digit of any script.
* `isAsciiDigit`, `ofDigits` — the ten digits of ASCII, and the number that a run of them writes.
* `hexValue?` — the value of a hexadecimal digit.
* `splitOn`, `cut?`, `cut` — a text taken apart at a character.
-/

namespace LayeredConfig.Text

/-! ## Sets of characters -/

/-- A set of code points: disjoint closed ranges, in increasing order. -/
structure CodeSet where
  /-- The first and the last code point of each range. -/
  ranges : Array (Nat × Nat)

namespace CodeSet

/-- Bisection among the ranges numbered from `lo` up to, not including, `hi`. Each round halves
the interval, so `fuel` rounds decide a table of fewer than `2 ^ fuel` ranges. -/
def search (ranges : Array (Nat × Nat)) (n : Nat) : (fuel lo hi : Nat) → Bool
  | 0, _, _ => false
  | fuel + 1, lo, hi =>
    if lo < hi then
      let mid := (lo + hi) / 2
      match ranges[mid]? with
      | none => false
      | some (first, last) =>
        if n < first then search ranges n fuel lo mid
        else if last < n then search ranges n fuel (mid + 1) hi
        else true
    else false

/-- Whether the character belongs to the set. -/
def contains (s : CodeSet) (c : Char) : Bool :=
  search s.ranges c.toNat 24 0 s.ranges.size

end CodeSet

/-! ## White space -/

/-- The white space characters. -/
def blanks : CodeSet := ⟨#[
  (0x9, 0xD), (0x1C, 0x20), (0x85, 0x85), (0xA0, 0xA0), (0x1680, 0x1680), (0x2000, 0x200A),
  (0x2028, 0x2029), (0x202F, 0x202F), (0x205F, 0x205F), (0x3000, 0x3000)]⟩

/-- Whether a character is white space. -/
def isBlank (c : Char) : Bool :=
  blanks.contains c

/-- The characters without the blanks at both ends. -/
def trimList (cs : List Char) : List Char :=
  (((cs.dropWhile isBlank).reverse).dropWhile isBlank).reverse

/-- A text without the blanks at its ends. -/
def trim (s : String) : String :=
  String.ofList (trimList s.toList)

/-! ## Digits -/

/-- The code points of the digits zero. -/
def digitZeros : List Nat := [
  0x30, 0x660, 0x6F0, 0x7C0, 0x966, 0x9E6, 0xA66, 0xAE6, 0xB66, 0xBE6, 0xC66, 0xCE6, 0xD66,
  0xDE6, 0xE50, 0xED0, 0xF20, 0x1040, 0x1090, 0x17E0, 0x1810, 0x1946, 0x19D0, 0x1A80, 0x1A90,
  0x1B50, 0x1BB0, 0x1C40, 0x1C50, 0xA620, 0xA8D0, 0xA900, 0xA9D0, 0xA9F0, 0xAA50, 0xABF0, 0xFF10,
  0x104A0, 0x10D30, 0x11066, 0x110F0, 0x11136, 0x111D0, 0x112F0, 0x11450, 0x114D0, 0x11650,
  0x116C0, 0x11730, 0x118E0, 0x11950, 0x11C50, 0x11D50, 0x11DA0, 0x16A60, 0x16AC0, 0x16B50,
  0x1D7CE, 0x1D7D8, 0x1D7E2, 0x1D7EC, 0x1D7F6, 0x1E140, 0x1E2F0, 0x1E950, 0x1FBF0]

/-- The value of a decimal digit of any script. -/
def digit? (c : Char) : Option Nat :=
  if c.toNat < 0x80 then
    if 0x30 ≤ c.toNat ∧ c.toNat ≤ 0x39 then some (c.toNat - 0x30) else none
  else
    (digitZeros.find? fun z => z ≤ c.toNat && c.toNat ≤ z + 9).map (c.toNat - ·)

/-- Whether a character is one of the digits 0 to 9 of ASCII. -/
def isAsciiDigit (c : Char) : Bool :=
  0x30 ≤ c.toNat && c.toNat ≤ 0x39

/-- The number that digits of ASCII write, most significant first. -/
def ofDigits (cs : List Char) : Nat :=
  cs.foldl (fun n c => 10 * n + (c.toNat - 0x30)) 0

/-- The value of a hexadecimal digit. -/
def hexValue? (c : Char) : Option Nat :=
  if '0' ≤ c ∧ c ≤ '9' then some (c.toNat - 0x30)
  else if 'a' ≤ c ∧ c ≤ 'f' then some (c.toNat - 0x57)
  else if 'A' ≤ c ∧ c ≤ 'F' then some (c.toNat - 0x37)
  else none

/-! ## Parts of a text -/

/-- The parts of a text between separators. -/
def splitOn (separator : Char) : List Char → List (List Char)
  | [] => [[]]
  | c :: cs =>
    if c = separator then [] :: splitOn separator cs
    else
      match splitOn separator cs with
      | [] => [[c]]
      | part :: rest => (c :: part) :: rest

/-- What precedes the first occurrence of a character, and what follows it, if it occurs. -/
def cut? (c : Char) (cs : List Char) : Option (List Char × List Char) :=
  match cs.dropWhile (· ≠ c) with
  | [] => none
  | _ :: rest => some (cs.takeWhile (· ≠ c), rest)

/-- What precedes the first occurrence of a character, and what follows it; all of the text and
nothing where it does not occur. -/
def cut (c : Char) (cs : List Char) : List Char × List Char :=
  (cut? c cs).getD (cs, [])

end LayeredConfig.Text
