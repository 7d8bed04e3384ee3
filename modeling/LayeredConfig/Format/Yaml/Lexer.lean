import LayeredConfig.Format.Yaml.Property

set_option autoImplicit false

/-!
# The tokens of a text

A text is read from the left. A token that may turn out to be a key is remembered; when a colon
follows it on the same line, the token that announces a key is put before it. Changes of
indentation open and close blocks.

A fault ends the tokens. Those that were settled before it still count: all up to the first one
that may still become a key.

## Main definitions

* `Yaml.Lexer` — what was read so far.
* `Yaml.tokens` — the tokens of a text, and the fault that ends them.
-/

namespace LayeredConfig.Format.Yaml

/-- A token that may turn out to be a key. -/
structure PossibleKey where
  /-- How many tokens precede it. -/
  number : Nat
  /-- Whether it has to be a key, since it stands where the entries of a mapping start. -/
  required : Bool
  /-- How many characters precede it. -/
  index : Nat
  /-- Where it starts. -/
  mark : Mark

/-- What was read so far. -/
structure Lexer where
  /-- The place that is reached. -/
  place : Place
  /-- The tokens. -/
  found : Array Token
  /-- How many flow collections are open. -/
  flow : Nat
  /-- The column of the innermost block. -/
  indent : Int
  /-- The columns of the blocks around it. -/
  outer : List Int
  /-- Whether a key may start here. -/
  keyAllowed : Bool
  /-- The tokens that may turn out to be keys, at most one for each number of open flow
  collections. -/
  possible : List (Nat × PossibleKey)
  /-- Whether the end of the text is reached. -/
  done : Bool

namespace Lexer

/-- The start of a text. -/
def start (cs : List Char) : Lexer :=
  ⟨.start cs, #[], 0, -1, [], true, [], false⟩

/-- Adds a token that starts at a place and goes up to another one, where reading goes on. -/
def push (lx : Lexer) (kind : Token.Kind) (p : Place) : Lexer :=
  { lx with place := p, found := lx.found.push ⟨kind, lx.place.mark, p.mark⟩ }

/-- Adds a token of some characters. -/
def pushChars (lx : Lexer) (kind : Token.Kind) (count : Nat) : Lexer :=
  lx.push kind (lx.place.forward count)

/-- A key that has to be one is not followed by a colon. -/
def missingColon {α : Type} (lx : Lexer) (k : PossibleKey) : Except Error α :=
  .error (.malformed (some (.simpleKey, some k.mark)) .missingColon lx.place.mark)

/-- Whether a token can no more be a key: a key stands on one line, with its colon among the next
1024 characters. -/
def isStale (lx : Lexer) (k : PossibleKey) : Bool :=
  k.mark.line != lx.place.line || k.index + 1024 < lx.place.index

/-- Forgets the tokens that can no more be keys. -/
def dropStale (lx : Lexer) : Except Error Lexer :=
  match lx.possible.find? fun (_, k) => lx.isStale k && k.required with
  | some (_, k) => lx.missingColon k
  | none => .ok { lx with possible := lx.possible.filter fun (_, k) => !lx.isStale k }

/-- Forgets the token that may be a key among those of the innermost collection. -/
def dropPossible (lx : Lexer) : Except Error Lexer :=
  match lx.possible.lookup lx.flow with
  | some k =>
    if k.required then lx.missingColon k
    else .ok { lx with possible := lx.possible.filter (·.1 ≠ lx.flow) }
  | none => .ok lx

/-- Remembers that the next token may be a key. -/
def savePossible (lx : Lexer) : Except Error Lexer :=
  if lx.keyAllowed then do
    let required := lx.flow = 0 ∧ lx.indent = lx.place.column
    let lx ← lx.dropPossible
    let k : PossibleKey := ⟨lx.found.size, required, lx.place.index, lx.place.mark⟩
    return { lx with possible := (lx.flow, k) :: lx.possible }
  else .ok lx

/-- Closes the blocks that are indented more than a column. -/
def closeBlocks (column : Int) : List Int → Lexer → Lexer
  | [], lx => lx
  | i :: is, lx =>
    if column < lx.indent then
      closeBlocks column is ({ lx with indent := i, outer := is }.push .blockEnd lx.place)
    else lx

/-- Closes the blocks that are indented more than a column; flow collections disregard
indentation. -/
def unwind (lx : Lexer) (column : Int) : Lexer :=
  if lx.flow = 0 then closeBlocks column lx.outer lx else lx

/-- Opens a block at a column, and puts its token before the one with the given number. -/
def openBlock (lx : Lexer) (kind : Token.Kind) (number : Nat) (m : Mark) : Lexer :=
  if lx.indent < m.column then
    { lx with
      indent := m.column, outer := lx.indent :: lx.outer,
      found := lx.found.insertIdxIfInBounds number ⟨kind, m, m⟩ }
  else lx

/-- Opens a block at the place that is reached. -/
def openHere (lx : Lexer) (kind : Token.Kind) : Lexer :=
  lx.openBlock kind lx.found.size lx.place.mark

/-- Allows keys to start from here on, or not. -/
def allowKey (b : Bool) (lx : Lexer) : Lexer :=
  { lx with keyAllowed := b }

/-- Fails where a key may not start. -/
def demandKey (lx : Lexer) (problem : Problem) : Except Error Unit :=
  if lx.keyAllowed then .ok ()
  else .error (.malformed none problem lx.place.mark)

/-- Skips white space, comments and ends of lines. Outside of flow collections a key may start
behind the end of a line. The first argument bounds the number of lines. -/
def skipSpace : (fuel : Nat) → Lexer → Lexer
  | 0, lx => lx
  | fuel + 1, lx =>
    let p := lx.place.skipBlanks.skipComment
    if isBreak p.head then
      skipSpace fuel
        { lx with place := p.lineBreak.2, keyAllowed := lx.keyAllowed || lx.flow = 0 }
    else { lx with place := p }

/-- Goes to the next token; a byte order mark at the start of the text is passed over. -/
def toNextToken (lx : Lexer) : Lexer :=
  let p := if lx.place.index = 0 ∧ lx.place.head = '\ufeff' then lx.place.next else lx.place
  skipSpace (p.rest.length + 1) { lx with place := p }

/-! ## The kinds of tokens -/

/-- Reads the end of the text. -/
def readEnd (lx : Lexer) : Except Error Lexer := do
  let lx ← (lx.unwind (-1)).dropPossible
  return { (lx.pushChars .streamEnd 0).allowKey false with possible := [], done := true }

/-- Reads a directive. -/
def readDirectiveToken (lx : Lexer) : Except Error Lexer := do
  let lx ← (lx.unwind (-1)).dropPossible
  let (d, p) ← readDirective lx.place
  return (lx.push (.directive d) p).allowKey false

/-- Reads the marker of the start or the end of a document. -/
def readMarker (lx : Lexer) (kind : Token.Kind) : Except Error Lexer := do
  let lx ← (lx.unwind (-1)).dropPossible
  return (lx.pushChars kind 3).allowKey false

/-- Reads an opening bracket or brace. -/
def readOpening (lx : Lexer) (kind : Token.Kind) : Except Error Lexer := do
  let lx ← lx.savePossible
  return { (lx.pushChars kind 1).allowKey true with flow := lx.flow + 1 }

/-- Reads a closing bracket or brace. -/
def readClosing (lx : Lexer) (kind : Token.Kind) : Except Error Lexer := do
  let lx ← lx.dropPossible
  return { (lx.pushChars kind 1).allowKey false with flow := lx.flow - 1 }

/-- Reads a comma. -/
def readComma (lx : Lexer) : Except Error Lexer := do
  let lx ← lx.dropPossible
  return (lx.pushChars .flowEntry 1).allowKey true

/-- Reads the hyphen of an item. -/
def readItem (lx : Lexer) : Except Error Lexer := do
  if lx.flow = 0 then lx.demandKey .misplacedItem
  let lx := if lx.flow = 0 then lx.openHere .blockSequenceStart else lx
  let lx ← lx.dropPossible
  return (lx.pushChars .blockEntry 1).allowKey true

/-- Reads the question mark of a key. -/
def readKey (lx : Lexer) : Except Error Lexer := do
  if lx.flow = 0 then lx.demandKey .misplacedKey
  let lx := if lx.flow = 0 then lx.openHere .blockMappingStart else lx
  let lx ← lx.dropPossible
  return (lx.pushChars .key 1).allowKey (lx.flow = 0)

/-- Reads a colon, which makes a key of the token that may be one. -/
def readColon (lx : Lexer) : Except Error Lexer :=
  match lx.possible.lookup lx.flow with
  | some k =>
    let lx := { lx with
      possible := lx.possible.filter (·.1 ≠ lx.flow),
      found := lx.found.insertIdxIfInBounds k.number ⟨.key, k.mark, k.mark⟩ }
    let lx := if lx.flow = 0 then lx.openBlock .blockMappingStart k.number k.mark else lx
    .ok ((lx.pushChars .value 1).allowKey false)
  | none => do
    if lx.flow = 0 then lx.demandKey .misplacedValue
    let lx := if lx.flow = 0 then lx.openHere .blockMappingStart else lx
    return (lx.pushChars .value 1).allowKey (lx.flow = 0)

/-- Reads an alias or an anchor. -/
def readReference (lx : Lexer) (context : Context) (kind : String → Token.Kind) :
    Except Error Lexer := do
  let lx ← lx.savePossible
  let (name, p) ← readName context lx.place.mark lx.place.next
  return (lx.push (kind name) p).allowKey false

/-- Reads a tag. -/
def readTagToken (lx : Lexer) : Except Error Lexer := do
  let lx ← lx.savePossible
  let (handle, suffix, p) ← readTag lx.place
  return (lx.push (.tag handle suffix) p).allowKey false

/-- Reads a block of lines; a key may follow it. -/
def readBlockToken (lx : Lexer) : Except Error Lexer := do
  let lx ← lx.dropPossible
  let (cs, p) ← readBlock lx.indent lx.place
  return (lx.push (.scalar (String.ofList cs) false) p).allowKey true

/-- Reads a text in quotes. -/
def readQuotedToken (lx : Lexer) : Except Error Lexer := do
  let lx ← lx.savePossible
  let (cs, p) ← readQuoted lx.place
  return (lx.push (.scalar (String.ofList cs) false) p).allowKey false

/-- Reads a text without quotes; a key may follow it if a line has ended. -/
def readPlainToken (lx : Lexer) : Except Error Lexer := do
  let lx ← lx.savePossible
  let t := readPlain (lx.flow ≠ 0) (lx.indent + 1) lx.place
  return (lx.push (.scalar (String.ofList t.chars) true) t.place).allowKey t.lineEnded

/-- Whether a text without quotes starts with these characters. -/
def startsPlain (inFlow : Bool) (c next : Char) : Bool :=
  !(isSeparator c || "-?:,[]\x7b\x7d#&*!|>'\"%@\x60".toList.contains c)
    || (!isSeparator next && (c = '-' || (!inFlow && (c = '?' || c = ':'))))

/-- Reads the next token, once white space is skipped. -/
def readToken (lx : Lexer) : Except Error Lexer :=
  let p := lx.place
  let c := p.head
  let inFlow : Bool := lx.flow ≠ 0
  let apart := isSeparator (p.peek 1)
  if p.rest.isEmpty then lx.readEnd
  else if c = '%' ∧ p.column = 0 then lx.readDirectiveToken
  else if p.column = 0 ∧ p.isMarker "---" then lx.readMarker .documentStart
  else if p.column = 0 ∧ p.isMarker "..." then lx.readMarker .documentEnd
  else if c = '[' then lx.readOpening .flowSequenceStart
  else if c = '\x7b' then lx.readOpening .flowMappingStart
  else if c = ']' then lx.readClosing .flowSequenceEnd
  else if c = '\x7d' then lx.readClosing .flowMappingEnd
  else if c = ',' then lx.readComma
  else if c = '-' ∧ apart then lx.readItem
  else if c = '?' ∧ (inFlow ∨ apart) then lx.readKey
  else if c = ':' ∧ (inFlow ∨ apart) then lx.readColon
  else if c = '*' then lx.readReference .alias .alias
  else if c = '&' then lx.readReference .anchor .anchor
  else if c = '!' then lx.readTagToken
  else if (c = '|' ∨ c = '>') ∧ ¬ inFlow then lx.readBlockToken
  else if c = '\'' ∨ c = '"' then lx.readQuotedToken
  else if startsPlain inFlow c (p.peek 1) then lx.readPlainToken
  else .error (.malformed (some (.nextToken, none)) (.strayCharacter c) p.mark)

/-- Goes to the next token and reads it. -/
def advance (lx : Lexer) : Except Error Lexer := do
  let lx ← lx.toNextToken.dropStale
  let lx ← (lx.unwind lx.place.column).readToken
  if lx.done then return lx else lx.dropStale

/-- How many tokens can no more change. -/
def settled (lx : Lexer) : Nat :=
  lx.possible.foldl (fun n (_, k) => min n k.number) lx.found.size

/-- Reads tokens up to the end of the text or a fault. The first argument bounds their number. -/
def run : (fuel : Nat) → Lexer → List Token × Option Error
  | 0, lx => (lx.found.toList, none)
  | fuel + 1, lx =>
    if lx.done then (lx.found.toList, none)
    else
      match lx.advance with
      | .ok lx => run fuel lx
      | .error e => (lx.found.toList.take lx.settled, some e)

end Lexer

/-- The tokens of a text, and the fault that ends them, if any. -/
def tokens (cs : List Char) : List Token × Option Error :=
  Lexer.run (cs.length + 2) (.start cs)

end LayeredConfig.Format.Yaml
