import LayeredConfig.Format.Yaml.Basic

set_option autoImplicit false

/-!
# Places in YAML

A place is what is left of a text, together with how much of it was read. Lines end at a line feed,
a carriage return, a next-line character, or one of the two Unicode separators.

## Main definitions

* `Yaml.Place` — a place in a text.
* `Place.forward` — the place some characters further on.
* `Place.lineBreak` — reads the end of a line.
-/

namespace LayeredConfig.Format.Yaml

/-- A place in a text. -/
structure Place where
  /-- The characters that are left. -/
  rest : List Char
  /-- How many characters were read. -/
  index : Nat
  /-- How many lines were read. -/
  line : Nat
  /-- How many characters of the line were read. -/
  column : Nat
deriving Repr

/-- Whether a character ends a line. -/
def isBreak (c : Char) : Bool :=
  c = '\n' || c = '\r' || c = '\x85' || c = '\u2028' || c = '\u2029'

/-- Whether a character is a blank or a tab. -/
def isBlank (c : Char) : Bool :=
  c = ' ' || c = '\t'

/-- Whether a character separates tokens: white space, or the end of a line or of the text. -/
def isSeparator (c : Char) : Bool :=
  c = '\x00' || isBlank c || isBreak c

/-- Whether a character ends a line, or the text. -/
def isBreakOrEnd (c : Char) : Bool :=
  c = '\x00' || isBreak c

/-- Whether a character is a blank, or ends a line or the text; tabs do not count. -/
def isSpaceOrEnd (c : Char) : Bool :=
  c = ' ' || isBreakOrEnd c

/-- Whether a character may stand in the name of an anchor, a handle or a directive. -/
def isNameChar (c : Char) : Bool :=
  c.isAlphanum || c = '-' || c = '_'

namespace Place

/-- The start of a text. -/
def start (cs : List Char) : Place := ⟨cs, 0, 0, 0⟩

/-- The line and the column of a place. -/
def mark (p : Place) : Mark := ⟨p.line, p.column⟩

/-- The character that comes `n` characters later; a null character stands for the end. -/
def peek (p : Place) (n : Nat) : Char :=
  p.rest.getD n '\x00'

/-- The next character; a null character stands for the end. -/
def head (p : Place) : Char :=
  p.peek 0

/-- The place one character further on. A carriage return before a line feed is no end of a line,
and a byte order mark takes no column. -/
def next : Place → Place
  | ⟨[], index, line, column⟩ => ⟨[], index, line, column⟩
  | ⟨c :: rest, index, line, column⟩ =>
    if isBreak c ∧ ¬ (c = '\r' ∧ rest.head? = some '\n') then ⟨rest, index + 1, line + 1, 0⟩
    else if c = '\ufeff' then ⟨rest, index + 1, line, column⟩
    else ⟨rest, index + 1, line, column + 1⟩

/-- The place some characters further on. -/
def forward : (n : Nat) → Place → Place
  | 0, p => p
  | n + 1, p => forward n p.next

/-- The characters up to the first that fails a condition, and the place behind them. -/
def takeWhile (ok : Char → Bool) (p : Place) : List Char × Place :=
  let cs := p.rest.takeWhile ok
  (cs, p.forward cs.length)

/-- The place behind the characters that satisfy a condition. -/
def skip (ok : Char → Bool) (p : Place) : Place :=
  (p.takeWhile ok).2

/-- The place behind blanks; tabs are no blanks. -/
def skipBlanks (p : Place) : Place :=
  p.skip (· = ' ')

/-- The place behind a comment, if there is one. -/
def skipComment (p : Place) : Place :=
  if p.head = '#' then p.skip (!isBreak ·) else p

/-- Reads the end of a line, if there is one. It counts as a line feed unless it is one of the
Unicode separators. -/
def lineBreak (p : Place) : List Char × Place :=
  match p.rest with
  | '\r' :: '\n' :: _ => (['\n'], p.forward 2)
  | c :: _ =>
    if c = '\u2028' ∨ c = '\u2029' then ([c], p.next)
    else if isBreak c then (['\n'], p.next)
    else ([], p)
  | [] => ([], p)

/-- Whether three given characters come next, and a separator behind them. -/
def isMarker (s : String) (p : Place) : Bool :=
  s.toList.isPrefixOf p.rest && isSeparator (p.peek 3)

/-- Whether a document ends or starts here. -/
def atDocumentEdge (p : Place) : Bool :=
  p.isMarker "---" || p.isMarker "..."

end Place

/-- The text is not YAML: something else has to stand at a place. -/
def unexpected {α : Type} (context : Context) (start : Mark) (wanted : Wanted) (p : Place) :
    Except Error α :=
  .error (.malformed (some (context, some start)) (.expected wanted p.head) p.mark)

end LayeredConfig.Format.Yaml
