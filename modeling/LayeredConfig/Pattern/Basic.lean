import LayeredConfig.Text.Case
import LayeredConfig.Text.Word
import LayeredConfig.Text.Character

set_option autoImplicit false

/-!
# Regular expressions

The syntax trees of regular expressions with backtracking: besides concatenation, choice and
repetition they have groups that capture, references back to them, conditions on them, and
assertions about what stands before or behind a place. Options such as the disregard of letter
case are resolved when an expression is read, so each node carries those that concern it.

## Main definitions

* `Node` — the syntax trees.
* `CharClass.contains`, `SetItem.contains` — sets of characters.
* `Fold.same` — equality of characters, with or without regard of letter case.
-/

namespace LayeredConfig.Pattern

/-- How letter case is regarded. -/
inductive Fold where
  /-- Letters of different case differ. -/
  | exact
  /-- The letter case of no script counts. -/
  | anyCase
  /-- The letter case of the letters of ASCII does not count. -/
  | asciiCase
deriving DecidableEq, Repr

/-- Lower-case characters that have one upper-case form. -/
def caseClasses : List (List Nat) := [
  [0x69, 0x131], [0x73, 0x17F], [0xB5, 0x3BC], [0x345, 0x3B9, 0x1FBE], [0x390, 0x1FD3],
  [0x3B0, 0x1FE3], [0x3B2, 0x3D0], [0x3B5, 0x3F5], [0x3B8, 0x3D1], [0x3BA, 0x3F0],
  [0x3C0, 0x3D6], [0x3C1, 0x3F1], [0x3C2, 0x3C3], [0x3C6, 0x3D5], [0x432, 0x1C80],
  [0x434, 0x1C81], [0x43E, 0x1C82], [0x441, 0x1C83], [0x442, 0x1C84, 0x1C85], [0x44A, 0x1C86],
  [0x463, 0x1C87], [0x1C88, 0xA64B], [0x1E61, 0x1E9B], [0xFB05, 0xFB06]]

/-- The other lower-case characters with the same upper-case form. -/
def caseSiblings (n : Nat) : List Nat :=
  match caseClasses.find? (·.contains n) with
  | some c => c.filter (· ≠ n)
  | none => []

/-- A code point in lower case, out of context; surrogates have no case. -/
def lowerCode (n : Nat) : Nat :=
  if n.isValidChar then (Text.lowerChar (Char.ofNat n)).toNat else n

/-- A letter of ASCII in lower case. -/
def asciiLowerCode (n : Nat) : Nat :=
  if 0x41 ≤ n ∧ n ≤ 0x5A then n + 0x20 else n

/-- The upper-case code points whose lower-case form is the given one. -/
def upperCodes (n : Nat) : List Nat :=
  let runs := Text.caseRuns.toList.filterMap fun run =>
    let steps := n - run.target
    if run.target ≤ n ∧ steps ≤ run.last - run.first ∧ steps % run.stride = 0 then
      some (run.first + steps)
    else none
  let extra := if n = 0x3C3 then [0x3A3] else if n = 0x69 then [0x130] else []
  extra ++ runs

/-- The characters that a written character stands for, given one in lower case: all those whose
lower-case form is the given one or shares its upper-case form. -/
def Fold.same (fold : Fold) (written actual : Nat) : Bool :=
  match fold with
  | .exact => written == actual
  | .anyCase =>
    let a := lowerCode written
    let b := lowerCode actual
    a == b || (caseSiblings a).contains b
  | .asciiCase => asciiLowerCode written == asciiLowerCode actual

/-- A class of characters with a name. -/
inductive CharClass where
  /-- Decimal digits. -/
  | digit
  /-- White space. -/
  | blank
  /-- Word characters. -/
  | word
deriving DecidableEq, Repr

/-- Whether a character belongs to a class; with `ascii`, to the part of it within ASCII. -/
def CharClass.contains (k : CharClass) (ascii : Bool) (c : Char) : Bool :=
  if ascii then
    match k with
    | .digit => Text.isAsciiDigit c
    | .blank => c == ' ' || (9 ≤ c.toNat && c.toNat ≤ 13)
    | .word => c == '_' || c.isAlphanum
  else
    match k with
    | .digit => (Text.digit? c).isSome
    | .blank => Text.isBlank c
    | .word => Text.isWord c

/-- An item of a set of characters in brackets. -/
inductive SetItem where
  /-- One code point. -/
  | single (code : Nat)
  /-- The code points between two, both included. -/
  | range (first last : Nat)
  /-- A class, or the characters outside it. -/
  | named (k : CharClass) (ascii outside : Bool)
deriving DecidableEq, Repr

/-- Whether an item of a set covers a character. -/
def SetItem.contains (fold : Fold) (c : Char) : SetItem → Bool
  | .single code => fold.same code c.toNat
  | .range first last =>
    let inside (n : Nat) : Bool := first ≤ n && n ≤ last
    match fold with
    | .exact => inside c.toNat
    | .asciiCase =>
      let n := asciiLowerCode c.toNat
      inside n || (0x61 ≤ n && n ≤ 0x7A && inside (n - 0x20))
    | .anyCase =>
      let n := lowerCode c.toNat
      (n :: caseSiblings n).any fun m => inside m || (upperCodes m).any inside
  | .named k ascii outside =>
    let d := match fold with
      | .exact => c
      | .anyCase => Char.ofNat (lowerCode c.toNat)
      | .asciiCase => Char.ofNat (asciiLowerCode c.toNat)
    k.contains ascii d != outside

/-- A place in a text. -/
inductive Anchor where
  /-- The start of the text. -/
  | textStart
  /-- The start of a line. -/
  | lineStart
  /-- The end of the text. -/
  | textEnd
  /-- The end of the text, or the place before a final line feed. -/
  | finalEnd
  /-- The end of a line. -/
  | lineEnd
  /-- A place between a word character and something else, or between others when `outside`. -/
  | wordBorder (ascii outside : Bool)
deriving DecidableEq, Repr

/-- Which of several numbers of repetitions is tried first. -/
inductive Greed where
  /-- The most repetitions first. -/
  | greedy
  /-- The fewest repetitions first. -/
  | lazy
  /-- The most repetitions, and no other number. -/
  | possessive
deriving DecidableEq, Repr

/-- Regular expressions. -/
inductive Node where
  /-- Matches nothing at all, everywhere. -/
  | empty
  /-- One character. -/
  | char (fold : Fold) (code : Nat)
  /-- One character of a set, or outside it when `outside`. -/
  | set (fold : Fold) (outside : Bool) (items : List SetItem)
  /-- Any character; line feeds only when `lineFeeds`. -/
  | any (lineFeeds : Bool)
  /-- A place. -/
  | anchor (a : Anchor)
  /-- One expression, then another. -/
  | cat (first second : Node)
  /-- One expression or else another. -/
  | alt (first second : Node)
  /-- From `least` to `most` repetitions. -/
  | repeated (greed : Greed) (least : Nat) (most : Option Nat) (body : Node)
  /-- A group that captures, numbered from one. -/
  | group (index : Nat) (body : Node)
  /-- The text that a group has captured. -/
  | backreference (fold : Fold) (index : Nat)
  /-- One expression if a group has captured, else another. -/
  | conditional (index : Nat) (yes no : Node)
  /-- The first match of an expression, and no other. -/
  | atomic (body : Node)
  /-- An expression matches from here on, or does not when `negated`. -/
  | ahead (negated : Bool) (body : Node)
  /-- An expression matches the `width` characters before, or does not when `negated`. -/
  | behind (negated : Bool) (width : Nat) (body : Node)
deriving Repr

end LayeredConfig.Pattern
