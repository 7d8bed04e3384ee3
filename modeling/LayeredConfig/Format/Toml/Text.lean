import LayeredConfig.Format.Toml.Basic

set_option autoImplicit false

/-!
# Texts and keys of TOML

Basic texts stand in double quotes and know escapes, literal texts stand in single quotes and know
none; both may run over several lines between three quotes. Keys are dotted sequences of bare words
and texts on one line.

## Main definitions

* `Toml.readText` — a text, of any of the four kinds.
* `Toml.readKey` — a dotted key.
-/

namespace LayeredConfig.Format.Toml

/-- The code that hexadecimal digits write. -/
def codeOf? (cs : List Char) : Option Nat :=
  cs.foldl (fun n c => do return 16 * (← n) + (← Text.hexValue? c)) (some 0)

/-- The character whose code the next `count` hexadecimal digits write. -/
def readCode (count : Nat) (c : Cursor) : Except Error (Char × Cursor) :=
  let ds := c.rest.take count
  match codeOf? ds with
  | some n =>
    if ds.length < count then .error (.malformed .badCode c.pos)
    else if n.isValidChar then .ok (Char.ofNat n, c.advance count)
    else .error (.malformed .noCharacter (c.pos + count))
  | none => .error (.malformed .badCode c.pos)

/-- The character that a letter behind a backslash stands for. -/
def escaped? (c : Char) : Option Char :=
  match c with
  | 'b' => some '\x08'
  | 't' => some '\t'
  | 'n' => some '\n'
  | 'f' => some '\x0c'
  | 'r' => some '\r'
  | '"' => some '"'
  | '\\' => some '\\'
  | _ => none

/-- Reads an escape, from its backslash on. In a text of several lines, a backslash at the end of a
line stands for nothing and takes the white space behind it along. -/
def readEscape (multiline : Bool) (c : Cursor) : Except Error (Option Char × Cursor) :=
  let behind := c.advance 2
  match c.rest.drop 1 with
  | [] => .error (.malformed .badEscape behind.pos)
  | e :: _ =>
    if multiline && e = '\n' then .ok (none, behind.skip isSpace)
    else if multiline && isBlank e then
      let lineEnd := behind.skip isBlank
      match lineEnd.rest with
      | [] => .ok (none, lineEnd)
      | '\n' :: _ => .ok (none, lineEnd.skip isSpace)
      | _ => .error (.malformed .badEscape lineEnd.pos)
    else if e = 'u' then (readCode 4 behind).map fun (ch, c) => (some ch, c)
    else if e = 'U' then (readCode 8 behind).map fun (ch, c) => (some ch, c)
    else
      match escaped? e with
      | some ch => .ok (some ch, behind)
      | none => .error (.malformed .badEscape behind.pos)

/-- Reads a basic text up to and with its closing quotes; the characters read so far are given in
reverse. The first number bounds the steps. -/
def readBasic (multiline : Bool) : (fuel : Nat) → List Char → Cursor →
    Except Error (String × Cursor)
  | 0, _, c => .error (.malformed .openText c.pos)
  | fuel + 1, done, c =>
    match c.rest with
    | [] => .error (.malformed .openText c.pos)
    | '\\' :: _ =>
      match readEscape multiline c with
      | .ok (ch, c') => readBasic multiline fuel (ch.toList ++ done) c'
      | .error e => .error e
    | ch :: _ =>
      if ch = '"' ∧ ¬ multiline then .ok (String.ofList done.reverse, c.advance 1)
      else if ch = '"' ∧ c.startsWith "\"\"\"" then .ok (String.ofList done.reverse, c.advance 3)
      else if isControl ch ∧ ¬ (multiline ∧ ch = '\n') then
        .error (.malformed (.illegalCharacter ch) c.pos)
      else readBasic multiline fuel (ch :: done) (c.advance 1)

/-- What precedes the first occurrence of a text, if it occurs. -/
def upTo? (delimiter : List Char) : List Char → Option (List Char)
  | [] => if delimiter.isEmpty then some [] else none
  | c :: cs =>
    if delimiter.isPrefixOf (c :: cs) then some [] else (upTo? delimiter cs).map (c :: ·)

/-- Reads a literal text up to and with its closing quotes. -/
def readLiteral (multiline : Bool) (c : Cursor) : Except Error (String × Cursor) :=
  let delimiter := if multiline then "'''" else "'"
  let stray (ch : Char) : Bool := isControl ch && !(multiline && ch = '\n')
  match upTo? delimiter.toList c.rest with
  | none => .error (.malformed (.unclosed delimiter) (c.pos + c.rest.length))
  | some cs =>
    match cs.find? stray with
    | some ch => .error (.malformed (.strayCharacter ch) (c.pos + (cs.takeWhile (!stray ·)).length))
    | none => .ok (String.ofList cs, c.advance (cs.length + delimiter.length))

/-- Lets a reader of texts run from the place that is reached. -/
def readFrom (f : Cursor → Except Error (String × Cursor)) : Read String := fun c => f c

/-- Reads a basic text on one line or several, behind its opening quotes. -/
def readBasicText (multiline : Bool) : Read String :=
  readFrom fun c => readBasic multiline (c.rest.length + 1) [] c

/-- Reads a text of several lines, behind its opening quotes. A line feed right behind them does not
count; up to two quotes right behind the closing ones do. -/
def readLines (quote : Char) (body : Read String) : Read String := do
  if (← next) = some '\n' then step 1
  let s ← body
  let extra := (((← get).rest.takeWhile (· = quote)).take 2)
  step extra.length
  return s ++ String.ofList extra

/-- Reads a text of any kind, if one begins here. -/
def readText : Read (Option String) := do
  let c ← get
  if c.startsWith "\"\"\"" then
    step 3
    return some (← readLines '"' (readBasicText true))
  else if c.startsWith "'''" then
    step 3
    return some (← readLines '\'' (readFrom (readLiteral true)))
  else if c.startsWith "\"" then
    step 1
    return some (← readBasicText false)
  else if c.startsWith "'" then
    step 1
    return some (← readFrom (readLiteral false))
  else return none

/-- Reads a part of a key. -/
def readKeyPart : Read String := do
  match ← next with
  | some '"' =>
    step 1
    readBasicText false
  | some '\'' =>
    step 1
    readFrom (readLiteral false)
  | some c =>
    if isBare c then
      let word := (← get).rest.takeWhile isBare
      step word.length
      return String.ofList word
    else refuse .badKey
  | none => refuse .badKey

/-- Reads the parts of a key behind the first one. The argument bounds their number. -/
def readKeyRest : (fuel : Nat) → Read Key
  | 0 => refuse .badKey
  | fuel + 1 => do
    skipBlanks
    if (← next) = some '.' then
      step 1
      skipBlanks
      let part ← readKeyPart
      return part :: (← readKeyRest fuel)
    else return []

/-- Reads a dotted key and the white space behind it. -/
def readKey : Read Key := do
  let part ← readKeyPart
  return part :: (← readKeyRest ((← get).rest.length + 1))

end LayeredConfig.Format.Toml
