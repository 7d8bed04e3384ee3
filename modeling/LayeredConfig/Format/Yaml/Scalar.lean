import LayeredConfig.Format.Yaml.Token
import LayeredConfig.Format.Yaml.Place
import LayeredConfig.Number.Literal

set_option autoImplicit false

/-!
# Texts in YAML

A text stands without quotes, in quotes of two kinds, or as a block of lines behind a bar or an
angle. In all but the literal blocks an end of line between words is folded into a blank.

## Main definitions

* `Yaml.readPlain` — a text without quotes.
* `Yaml.readQuoted` — a text in quotes.
* `Yaml.readBlock` — a block of lines.
-/

namespace LayeredConfig.Format.Yaml

/-! ## Folding -/

/-- The text that the end of a line, followed by the ends of empty lines, stands for. A single line
feed becomes a blank. -/
def folded (first : List Char) (more : List Char) : List Char :=
  if first ≠ ['\n'] then first ++ more
  else if more.isEmpty then [' ']
  else more

/-! ## Texts without quotes -/

/-- Whether a text without quotes ends before these characters. -/
def endsPlain (inFlow : Bool) (c : Char) (next : Char) : Bool :=
  isSeparator c
    || (c = ':' && (isSeparator next || (inFlow && ",[]\x7b\x7d".toList.contains next)))
    || (inFlow && ",?[]\x7b\x7d".toList.contains c)

/-- The characters of a text without quotes up to the next white space. -/
def plainRun (inFlow : Bool) : List Char → List Char
  | [] => []
  | c :: cs => if endsPlain inFlow c (cs.headD '\x00') then [] else c :: plainRun inFlow cs

/-- The ends of empty lines behind a first end of line. Nothing is answered where a document starts
or ends. The first argument bounds the number of characters. -/
def plainBreaks : (fuel : Nat) → List Char → Place → Option (List Char) × Place
  | 0, done, p => (some done, p)
  | fuel + 1, done, p =>
    if p.head = ' ' then plainBreaks fuel done p.next
    else if isBreak p.head then
      let (chars, p) := p.lineBreak
      if p.atDocumentEdge then (none, p) else plainBreaks fuel (done ++ chars) p
    else (some done, p)

/-- The white space between two words of a text without quotes, as the text that it stands for;
nothing where the text ends with it. The flag tells whether a line ended. -/
def plainSpaces (p : Place) : Option (List Char) × Bool × Place :=
  let (blanks, p) := p.takeWhile (· = ' ')
  if isBreak p.head then
    let (first, p) := p.lineBreak
    if p.atDocumentEdge then (none, true, p)
    else
      match plainBreaks (p.rest.length + 1) [] p with
      | (none, p) => (none, true, p)
      | (some more, p) => (some (folded first more), true, p)
  else (if blanks.isEmpty then none else some blanks, false, p)

/-- A text without quotes that was read. -/
structure PlainText where
  /-- Its characters. -/
  chars : List Char
  /-- Whether a line ended behind it. -/
  lineEnded : Bool
  /-- The place behind it and the white space that follows. -/
  place : Place

/-- Reads further words of a text without quotes. Outside of flow collections the text ends where a
line is indented less than `indent`. The first argument bounds the number of words. -/
def plainWords (inFlow : Bool) (indent : Int) : (fuel : Nat) → List Char → PlainText → PlainText
  | 0, _, done => done
  | fuel + 1, spaces, done =>
    let word := plainRun inFlow done.place.rest
    if done.place.head = '#' ∨ word.isEmpty then done
    else
      let (more, lineEnded, p) := plainSpaces (done.place.forward word.length)
      let done : PlainText := ⟨done.chars ++ spaces ++ word, lineEnded, p⟩
      match more with
      | none => done
      | some more =>
        if ¬ inFlow ∧ (p.column : Int) < indent then done
        else plainWords inFlow indent fuel more done

/-- Reads a text without quotes. -/
def readPlain (inFlow : Bool) (indent : Int) (p : Place) : PlainText :=
  plainWords inFlow indent (p.rest.length + 1) [] ⟨[], false, p⟩

/-! ## Texts in quotes -/

/-- The character that a letter behind a backslash stands for. -/
def escaped? (c : Char) : Option Char :=
  match c with
  | '0' => some '\x00'
  | 'a' => some '\x07'
  | 'b' => some '\x08'
  | 't' => some '\t'
  | '\t' => some '\t'
  | 'n' => some '\n'
  | 'v' => some '\x0b'
  | 'f' => some '\x0c'
  | 'r' => some '\r'
  | 'e' => some '\x1b'
  | ' ' => some ' '
  | '"' => some '"'
  | '\\' => some '\\'
  | '/' => some '/'
  | 'N' => some '\x85'
  | '_' => some '\xa0'
  | 'L' => some '\u2028'
  | 'P' => some '\u2029'
  | _ => none

/-- How many hexadecimal digits follow a letter behind a backslash. -/
def codeLength? (c : Char) : Option Nat :=
  match c with
  | 'x' => some 2
  | 'u' => some 4
  | 'U' => some 8
  | _ => none

/-- The number that hexadecimal digits write. -/
def hexNumber (cs : List Char) : Nat :=
  cs.foldl (fun n c => 16 * n + (Text.hexValue? c).getD 0) 0

/-- The character of a code. Half of a surrogate pair is refused. -/
def charOfCode (n : Nat) : Except Error Char :=
  if n.isValidChar then .ok (Char.ofNat n)
  else if n < 0x110000 then .error (.unbuildable (.foreign "half of a surrogate pair"))
  else if n < Nat.pow 2 31 then .error (.unbuildable (.invalid "chr() arg not in range(0x110000)"))
  else .error (.unbuildable (.misuse .tooLarge))

/-- The ends of empty lines in a text in quotes. No document may start or end in it. The first
argument bounds the number of lines. -/
def quotedBreaks (start : Mark) :
    (fuel : Nat) → List Char → Place → Except Error (List Char × Place)
  | 0, done, p => .ok (done, p)
  | fuel + 1, done, p =>
    if p.atDocumentEdge then
      .error (.malformed (some (.quotedText, some start)) .earlySeparator p.mark)
    else
      let p := p.skip isBlank
      if isBreak p.head then
        let (chars, p) := p.lineBreak
        quotedBreaks start fuel (done ++ chars) p
      else .ok (done, p)

/-- The white space in a text in quotes, as the text that it stands for. -/
def quotedSpaces (start : Mark) (p : Place) : Except Error (List Char × Place) :=
  let (blanks, p) := p.takeWhile isBlank
  if p.rest.isEmpty then .error (.malformed (some (.quotedText, some start)) .earlyEnd p.mark)
  else if isBreak p.head then do
    let (first, p) := p.lineBreak
    let (more, p) ← quotedBreaks start (p.rest.length + 1) [] p
    return (folded first more, p)
  else .ok (blanks, p)

/-- Reads an escape, behind its backslash. An escaped end of line stands for nothing. -/
def readEscape (start : Mark) (p : Place) : Except Error (List Char × Place) :=
  let c := p.head
  match escaped? c, codeLength? c with
  | some ch, _ => .ok ([ch], p.next)
  | none, some count => do
    let p := p.next
    let ds := (p.rest.take count).takeWhile fun c => (Text.hexValue? c).isSome
    if ds.length < count then
      .error (.malformed (some (.doubleText, some start))
        (.expected (.hexDigits count) (p.peek ds.length)) p.mark)
    else
      let ch ← charOfCode (hexNumber ds)
      return ([ch], p.forward count)
  | none, none =>
    if isBreak c then
      let p := p.lineBreak.2
      quotedBreaks start (p.rest.length + 1) [] p
    else .error (.malformed (some (.doubleText, some start)) (.badEscape c) p.mark)

/-- Reads a text in quotes up to and with its closing quote; the characters read so far are given in
reverse. A quote of a text in single quotes is written twice. The first argument bounds the number
of steps. -/
def quotedFrom (quote : Char) (start : Mark) : (fuel : Nat) → List Char → Place →
    Except Error (List Char × Place)
  | 0, done, p => .ok (done.reverse, p)
  | fuel + 1, done, p =>
    let c := p.head
    if c = quote then
      if quote = '\'' ∧ p.peek 1 = quote then
        quotedFrom quote start fuel (quote :: done) (p.forward 2)
      else .ok (done.reverse, p.next)
    else if c = '\\' ∧ quote = '"' then do
      let (chars, p) ← readEscape start p.next
      quotedFrom quote start fuel (chars.reverse ++ done) p
    else if isSeparator c then do
      let (chars, p) ← quotedSpaces start p
      quotedFrom quote start fuel (chars.reverse ++ done) p
    else quotedFrom quote start fuel (c :: done) p.next

/-- Reads a text in quotes, from its opening quote on. -/
def readQuoted (p : Place) : Except Error (List Char × Place) :=
  quotedFrom p.head p.mark (p.rest.length + 1) [] p.next

/-! ## Blocks of lines -/

/-- What happens to the ends of lines at the end of a block. -/
inductive Chomping where
  /-- All are dropped. -/
  | strip
  /-- The first is kept. -/
  | clip
  /-- All are kept. -/
  | keep
deriving DecidableEq, Repr

/-- The indicator for the ends of lines, if there is one. -/
def chomping? (c : Char) : Option Chomping :=
  if c = '+' then some .keep else if c = '-' then some .strip else none

/-- Reads the digit that gives the indentation of a block, if there is one. -/
def readIncrement (start : Mark) (p : Place) : Except Error (Option Nat × Place) :=
  if Text.isAsciiDigit p.head then
    if p.head = '0' then .error (.malformed (some (.blockText, some start)) .zeroIndentation p.mark)
    else .ok (some (p.head.toNat - 0x30), p.next)
  else .ok (none, p)

/-- Reads the indicators of a block: chomping and indentation, in any order. -/
def readIndicators (start : Mark) (p : Place) :
    Except Error (Chomping × Option Nat × Place) := do
  let (chomping, increment, p) ←
    match chomping? p.head with
    | some c => do
      let (increment, p) ← readIncrement start p.next
      pure (c, increment, p)
    | none => do
      let (increment, p) ← readIncrement start p
      match increment, chomping? p.head with
      | some n, some c => pure (c, some n, p.next)
      | increment, _ => pure (Chomping.clip, increment, p)
  if isSpaceOrEnd p.head then return (chomping, increment, p)
  else unexpected .blockText start .blockIndicator p

/-- Skips blanks, a comment and the end of the line, where nothing else may stand. -/
def skipLine (context : Context) (start : Mark) (p : Place) : Except Error Place :=
  let p := p.skipBlanks.skipComment
  if isBreakOrEnd p.head then .ok p.lineBreak.2
  else unexpected context start .lineEnd p

/-- Skips the empty lines before a block, and answers their ends and the widest column that blanks
lead to. The first argument bounds the number of characters. -/
def blockIndentation : (fuel : Nat) → List Char → Nat → Place → List Char × Nat × Place
  | 0, done, widest, p => (done, widest, p)
  | fuel + 1, done, widest, p =>
    if p.head = ' ' then
      let p := p.next
      blockIndentation fuel done (max widest p.column) p
    else if isBreak p.head then
      let (chars, p) := p.lineBreak
      blockIndentation fuel (done ++ chars) widest p
    else (done, widest, p)

/-- Skips blanks up to a column. -/
def skipIndent (indent : Nat) (p : Place) : Place :=
  p.forward ((p.rest.take (indent - p.column)).takeWhile (· = ' ')).length

/-- Skips the empty lines inside a block, and answers their ends. The first argument bounds the
number of lines. -/
def blockBreaks (indent : Nat) : (fuel : Nat) → List Char → Place → List Char × Place
  | 0, done, p => (done, p)
  | fuel + 1, done, p =>
    let p := skipIndent indent p
    if isBreak p.head then
      let (chars, p) := p.lineBreak
      blockBreaks indent fuel (done ++ chars) p
    else (done, p)

/-- A block of lines that was read. -/
structure BlockText where
  /-- The characters up to the end of the last line. -/
  chars : List Char
  /-- The end of the last line. -/
  lineEnd : List Char
  /-- The ends of the empty lines behind it. -/
  breaks : List Char
  /-- The place behind them. -/
  place : Place

/-- Reads the lines of a block; `breaks` are the ends of the empty lines before it. In a folded
block, a single line feed between lines that begin with no blank is folded. The first argument
bounds the number of lines. -/
def blockLines (isFolded : Bool) (indent : Nat) : (fuel : Nat) → List Char → List Char → Place →
    BlockText
  | 0, done, breaks, p => ⟨done, [], breaks, p⟩
  | fuel + 1, done, breaks, p =>
    let continues (p : Place) : Bool := p.column = indent && !p.rest.isEmpty
    if continues p then
      let flush := !isBlank p.head
      let (line, p) := p.takeWhile (!isBreak ·)
      let done := done ++ breaks ++ line
      let (lineEnd, p) := p.lineBreak
      let (breaks, p) := blockBreaks indent (p.rest.length + 1) [] p
      if continues p then
        let joint :=
          if isFolded ∧ lineEnd = ['\n'] ∧ flush ∧ ¬ isBlank p.head then
            (if breaks.isEmpty then [' '] else [])
          else lineEnd
        blockLines isFolded indent fuel (done ++ joint) breaks p
      else ⟨done, lineEnd, breaks, p⟩
    else ⟨done, [], breaks, p⟩

/-- Reads a block of lines from its indicator on, given the indentation of the block around it. -/
def readBlock (outer : Int) (p : Place) : Except Error (List Char × Place) := do
  let start := p.mark
  let isFolded := p.head = '>'
  let (chomping, increment, p) ← readIndicators start p.next
  let p ← skipLine .blockText start p
  let least := (max (outer + 1) 1).toNat
  let (indent, breaks, p) :=
    match increment with
    | none =>
      let (breaks, widest, p) := blockIndentation (p.rest.length + 1) [] 0 p
      (max least widest, breaks, p)
    | some n =>
      let indent := least + n - 1
      (indent, blockBreaks indent (p.rest.length + 1) [] p)
  let b := blockLines isFolded indent (p.rest.length + 1) [] breaks p
  let tail := match chomping with
    | .strip => []
    | .clip => b.lineEnd
    | .keep => b.lineEnd ++ b.breaks
  return (b.chars ++ tail, b.place)

end LayeredConfig.Format.Yaml
