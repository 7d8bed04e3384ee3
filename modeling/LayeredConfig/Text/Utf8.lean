import LayeredConfig.Text.Quoted

set_option autoImplicit false

/-!
# Reading UTF-8

Decoding of octets into characters, with an account of the first octets that are not UTF-8. The
octet that follows the first of a character is confined further than the later ones: no overlong
form, no surrogate, nothing beyond U+10FFFF.

## Main definitions

* `Utf8Error` — where and why octets are not UTF-8.
* `decodeUtf8` — the characters that octets encode.
* `foldNewlines` — carriage returns, with or without a line feed, become line feeds.
-/

namespace LayeredConfig.Text

/-- Why octets are not UTF-8. -/
inductive Utf8Reason where
  /-- No character begins with this octet. -/
  | startOctet
  /-- The octet after the reported ones cannot continue them. -/
  | continuation
  /-- The data end inside a character. -/
  | endOfData
deriving DecidableEq, Repr

/-- The first octets that are not UTF-8. -/
structure Utf8Error where
  /-- How many octets precede them. -/
  position : Nat
  /-- How many they are. -/
  count : Nat
  /-- The first of them. -/
  octet : Nat
  /-- What is wrong with them. -/
  reason : Utf8Reason
deriving DecidableEq, Repr

/-- The wording of a decoding error. -/
def Utf8Error.message (e : Utf8Error) : String :=
  let where_ :=
    if e.count = 1 then
      "byte 0x" ++ String.ofList (hexDigits e.octet 2) ++ " in position " ++ toString e.position
    else
      "bytes in position " ++ toString e.position ++ "-" ++ toString (e.position + e.count - 1)
  let why := match e.reason with
    | .startOctet => "invalid start byte"
    | .continuation => "invalid continuation byte"
    | .endOfData => "unexpected end of data"
  "'utf-8' codec can't decode " ++ where_ ++ ": " ++ why

/-- Whether an octet may follow the first octets of a character. -/
def isTail (b : Nat) : Bool :=
  0x80 ≤ b && b ≤ 0xBF

/-- The range of the second octet after the first one, and the number of octets of the character;
nothing for an octet that begins no character. -/
def tailsOf (b : Nat) : Option (Nat × Nat × Nat) :=
  if 0xC2 ≤ b ∧ b ≤ 0xDF then some (0x80, 0xBF, 2)
  else if b = 0xE0 then some (0xA0, 0xBF, 3)
  else if b = 0xED then some (0x80, 0x9F, 3)
  else if 0xE1 ≤ b ∧ b ≤ 0xEF then some (0x80, 0xBF, 3)
  else if b = 0xF0 then some (0x90, 0xBF, 4)
  else if b = 0xF4 then some (0x80, 0x8F, 4)
  else if 0xF1 ≤ b ∧ b ≤ 0xF3 then some (0x80, 0xBF, 4)
  else none

/-- The code point that octets write, the first one stripped of its marker bits. -/
def joinTails (first : Nat) (rest : List Nat) : Nat :=
  rest.foldl (fun n b => 64 * n + b % 64) first

/-- How many octets, after the first, continue it: the second within its range, the others tails. -/
def goodTails (lo hi : Nat) : List Nat → Nat
  | [] => 0
  | b :: rest => if lo ≤ b ∧ b ≤ hi then 1 + (rest.takeWhile isTail).length else 0

/-- Decodes octets of which `position` precede the given ones. The first argument bounds the
number of characters. -/
def decodeFrom : (fuel position : Nat) → List Nat → Except Utf8Error (List Char)
  | 0, _, _ => .ok []
  | _ + 1, _, [] => .ok []
  | fuel + 1, position, b :: rest =>
    if b < 0x80 then do
      return Char.ofNat b :: (← decodeFrom fuel (position + 1) rest)
    else
      match tailsOf b with
      | none => .error ⟨position, 1, b, .startOctet⟩
      | some (lo, hi, size) =>
        let good := goodTails lo hi (rest.take (size - 1))
        if good = size - 1 then do
          let first := if size = 2 then b % 32 else if size = 3 then b % 16 else b % 8
          let c := Char.ofNat (joinTails first (rest.take (size - 1)))
          return c :: (← decodeFrom fuel (position + size) (rest.drop (size - 1)))
        else if good = rest.length then .error ⟨position, good + 1, b, .endOfData⟩
        else .error ⟨position, good + 1, b, .continuation⟩

/-- The characters that octets encode. -/
def decodeUtf8 (octets : List Nat) : Except Utf8Error (List Char) :=
  decodeFrom (octets.length + 1) 0 octets

/-- A text with every end of line written as a single line feed. -/
def foldNewlines : List Char → List Char
  | [] => []
  | '\r' :: '\n' :: rest => '\n' :: foldNewlines rest
  | c :: rest => (if c = '\r' then '\n' else c) :: foldNewlines rest

end LayeredConfig.Text
