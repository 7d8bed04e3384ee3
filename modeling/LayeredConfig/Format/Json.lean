import LayeredConfig.Format.Cursor
import LayeredConfig.Value.Build

set_option autoImplicit false

/-!
# Reading JSON

JSON with three more words: `NaN`, `Infinity` and `-Infinity`. Integers may have any size that a
decimal text can have, and of a repeated key the last value counts. Texts hold whole characters, so
an escape for half of a surrogate pair is refused where the other half is missing.

## Main definitions

* `Json.Error` — where and why a text is not JSON.
* `Json.read` — the data that a text stands for.
-/

namespace LayeredConfig.Format.Json

/-- Why a text is not JSON. -/
inductive Reason where
  /-- The text begins with a byte order mark. -/
  | byteOrderMark
  /-- A value has to stand here. -/
  | expectedValue
  /-- A key in double quotes has to stand here. -/
  | expectedKey
  /-- A colon has to stand here. -/
  | expectedColon
  /-- A comma has to stand here. -/
  | expectedComma
  /-- Something follows the value. -/
  | extraData
  /-- A text that begins here does not end. -/
  | openText
  /-- A control character stands in a text. -/
  | controlCharacter
  /-- No escape begins so. -/
  | badEscape
  /-- Four hexadecimal digits have to stand here. -/
  | badCodePoint
deriving DecidableEq, Repr

/-- The wording of a reason. -/
def Reason.text : Reason → String
  | .byteOrderMark => "Unexpected UTF-8 BOM (decode using utf-8-sig)"
  | .expectedValue => "Expecting value"
  | .expectedKey => "Expecting property name enclosed in double quotes"
  | .expectedColon => "Expecting ':' delimiter"
  | .expectedComma => "Expecting ',' delimiter"
  | .extraData => "Extra data"
  | .openText => "Unterminated string starting at"
  | .controlCharacter => "Invalid control character at"
  | .badEscape => "Invalid \\escape"
  | .badCodePoint => "Invalid \\uXXXX escape"

/-- Why data cannot be read. -/
inductive Error where
  /-- The text is not JSON at a place. -/
  | malformed (reason : Reason) (pos : Nat)
  /-- An integer has too many digits. -/
  | tooManyDigits (count : Nat)
  /-- Half of a surrogate pair stands alone: it writes no character. -/
  | halfPair (code : Nat)
deriving DecidableEq, Repr

/-- An action of the reader. -/
abbrev Read := StateT Cursor (Except Error)

/-- The text is not JSON at a place. -/
def refuse {α : Type} (reason : Reason) (pos : Nat) : Read α :=
  throw (.malformed reason pos)

/-- Whether a character is white space of JSON. -/
def isSpace (c : Char) : Bool :=
  c = ' ' || c = '\t' || c = '\n' || c = '\r'

/-- Skips white space, and answers the next character. -/
def nextToken : Read (Option Char) := do
  modify (·.skip isSpace)
  return (← get).rest.head?

/-- Moves on by one character. -/
def step : Read Unit :=
  modify (·.advance 1)

/-- The code that four hexadecimal digits write. -/
def fourDigits? (cs : List Char) : Option Nat :=
  match cs.take 4 with
  | [a, b, c, d] => do
    return (((← Text.hexValue? a) * 16 + (← Text.hexValue? b)) * 16 + (← Text.hexValue? c)) * 16 +
      (← Text.hexValue? d)
  | _ => none

/-- The character that a letter behind a backslash stands for. -/
def escaped? (c : Char) : Option Char :=
  match c with
  | '"' => some '"'
  | '\\' => some '\\'
  | '/' => some '/'
  | 'b' => some '\x08'
  | 'f' => some '\x0c'
  | 'n' => some '\n'
  | 'r' => some '\r'
  | 't' => some '\t'
  | _ => none

/-- The character of a code, unless it is half of a surrogate pair. -/
def charOfCode (n : Nat) : Except Error Char :=
  if n.isValidChar then .ok (Char.ofNat n) else .error (.halfPair n)

/-- Reads a text up to its closing quote; `opening` is the place of the opening one, and the
characters read so far are given in reverse. The first argument bounds the number of steps. -/
def readTextFrom (opening : Nat) : (fuel : Nat) → List Char → Cursor →
    Except Error (String × Cursor)
  | 0, _, _ => .error (.malformed .openText opening)
  | fuel + 1, done, c =>
    match c.rest with
    | [] => .error (.malformed .openText opening)
    | '"' :: _ => .ok (String.ofList done.reverse, c.advance 1)
    | ['\\'] => .error (.malformed .openText opening)
    | '\\' :: 'u' :: digits =>
      if (digits.take 5).length < 5 then .error (.malformed .badCodePoint (c.pos + 1))
      else
        match fourDigits? digits with
        | none => .error (.malformed .badCodePoint (c.pos + 1))
        | some high =>
          let single := do readTextFrom opening fuel ((← charOfCode high) :: done) (c.advance 6)
          if 0xD800 ≤ high ∧ high < 0xDC00 then
            match digits.drop 4 with
            | '\\' :: 'u' :: more =>
              if (more.take 5).length < 5 then single
              else
                match fourDigits? more with
                | none => .error (.malformed .badCodePoint (c.pos + 7))
                | some low =>
                  if 0xDC00 ≤ low ∧ low < 0xE000 then
                    let code := 0x10000 + (high - 0xD800) * 0x400 + (low - 0xDC00)
                    readTextFrom opening fuel (Char.ofNat code :: done) (c.advance 12)
                  else single
            | _ => single
          else single
    | '\\' :: e :: _ =>
      match escaped? e with
      | some ch => readTextFrom opening fuel (ch :: done) (c.advance 2)
      | none => .error (.malformed .badEscape c.pos)
    | ch :: _ =>
      if ch.toNat ≤ 0x1F then .error (.malformed .controlCharacter c.pos)
      else readTextFrom opening fuel (ch :: done) (c.advance 1)

/-- Reads a text, behind its opening quote. -/
def readText : Read String := fun c =>
  readTextFrom (c.pos - 1) (c.rest.length + 1) [] c

/-- Reads a number. -/
def readNumber : Read Datum := do
  let start ← get
  let (negative, cs) := match start.rest with
    | '-' :: cs => (true, cs)
    | cs => (false, cs)
  let whole := match cs with
    | '0' :: _ => ['0']
    | cs => cs.takeWhile Text.isAsciiDigit
  if whole.isEmpty then refuse .expectedValue start.pos
  let cs := cs.drop whole.length
  let fraction := match cs with
    | '.' :: cs => cs.takeWhile Text.isAsciiDigit
    | _ => []
  let cs := if fraction.isEmpty then cs else cs.drop (fraction.length + 1)
  let exponent := match cs with
    | e :: cs =>
      if e = 'e' ∨ e = 'E' then
        let sign := match cs with
          | '-' :: _ => ['-']
          | '+' :: _ => ['+']
          | _ => []
        let ds := (cs.drop sign.length).takeWhile Text.isAsciiDigit
        if ds.isEmpty then [] else e :: sign ++ ds
      else []
    | [] => []
  let used := (if negative then 1 else 0) + whole.length +
    (if fraction.isEmpty then 0 else fraction.length + 1) + exponent.length
  set (start.advance used)
  if fraction.isEmpty && exponent.isEmpty then
    if Number.digitLimit < whole.length then throw (.tooManyDigits whole.length)
    return .integer (Number.signedValue negative whole)
  else
    let e := (Number.readExponent? exponent).getD 0
    return .float ((Number.Decimal.mk whole fraction e).toFloat negative)

/-- Reads one of the words that stand for data. -/
def readWord : Read (Option Datum) := do
  let c ← get
  let word (s : String) (d : Datum) : Read (Option Datum) := do
    set (c.advance s.length)
    return some d
  if c.startsWith "null" then word "null" .nil
  else if c.startsWith "true" then word "true" (.boolean true)
  else if c.startsWith "false" then word "false" (.boolean false)
  else if c.startsWith "NaN" then word "NaN" (.float Number.nan)
  else if c.startsWith "Infinity" then word "Infinity" (.float (Number.infinity false))
  else if c.startsWith "-Infinity" then word "-Infinity" (.float (Number.infinity true))
  else return none

mutual

/-- Reads a value. The first argument bounds the number of values. -/
def readValue : (fuel : Nat) → Read Datum
  | 0 => do refuse .expectedValue (← get).pos
  | fuel + 1 => do
    let c ← get
    match c.rest with
    | '"' :: _ =>
      step
      return .text (← readText)
    | '[' :: _ =>
      step
      if (← nextToken) = some ']' then
        step
        return .sequence []
      return .sequence (← readItems fuel)
    | '\x7b' :: _ =>
      step
      if (← nextToken) = some '\x7d' then
        step
        return .mapping []
      return Datum.table (← readEntries fuel)
    | _ =>
      match ← readWord with
      | some d => return d
      | none => readNumber

/-- Reads the items of an array and the closing bracket. -/
def readItems : (fuel : Nat) → Read (List Datum)
  | 0 => do refuse .expectedValue (← get).pos
  | fuel + 1 => do
    let d ← readValue fuel
    match ← nextToken with
    | some ']' =>
      step
      return [d]
    | some ',' =>
      step
      let _ ← nextToken
      return d :: (← readItems fuel)
    | _ => refuse .expectedComma (← get).pos

/-- Reads the entries of an object and the closing brace. -/
def readEntries : (fuel : Nat) → Read (List (DatumKey × Datum))
  | 0 => do refuse .expectedKey (← get).pos
  | fuel + 1 => do
    match (← get).rest with
    | '"' :: _ =>
      step
      let key ← readText
      if (← nextToken) ≠ some ':' then refuse .expectedColon (← get).pos
      step
      let _ ← nextToken
      let d ← readValue fuel
      match ← nextToken with
      | some '\x7d' =>
        step
        return [(.text key, d)]
      | some ',' =>
        step
        let _ ← nextToken
        return (.text key, d) :: (← readEntries fuel)
      | _ => refuse .expectedComma (← get).pos
    | _ => refuse .expectedKey (← get).pos

end

/-- Reads a value with white space around it, and nothing else. -/
def readWhole (fuel : Nat) : Read Datum := do
  let _ ← nextToken
  let d ← readValue fuel
  match ← nextToken with
  | none => return d
  | some _ => refuse .extraData (← get).pos

/-- The data that a text stands for. -/
def read (text : String) : Except Error Datum :=
  match text.toList with
  | '\ufeff' :: _ => .error (.malformed .byteOrderMark 0)
  | cs => ((readWhole (2 * cs.length + 2)).run (Cursor.start text)).map (·.1)

/-- The wording of a fault with its place in the text. -/
def located (text : String) (reason : Reason) (pos : Nat) : String :=
  let cs := text.toList
  reason.text ++ ": line " ++ toString (lineOf cs pos) ++ " column " ++
    toString (columnOf cs pos) ++ " (char " ++ toString pos ++ ")"

end LayeredConfig.Format.Json
