import LayeredConfig.Pattern.Match

set_option autoImplicit false

/-!
# Reading regular expressions

A regular expression is read from tokens: characters, and characters behind a backslash. Groups
are numbered in the order of their opening parentheses, and a reference needs a group that is
closed already. What stands behind a place has to have one fixed width, so the widths of all
expressions are computed on the way.

## Main definitions

* `Regex` — a regular expression with its text.
* `Regex.compile` — reads a regular expression.
* `Regex.search` — whether it matches somewhere in a text.
-/

namespace LayeredConfig.Pattern

/-- Why a text is not a regular expression. -/
inductive SyntaxFault where
  /-- It does not follow the grammar. -/
  | malformed
  /-- A number of repetitions is beyond all bounds. -/
  | tooLarge
  /-- It confines classes of characters to ASCII and asks for all scripts as well. -/
  | incompatible
deriving DecidableEq, Repr

/-- The options under which a part of an expression is read. -/
structure Options where
  /-- Letter case does not count. -/
  anyCase : Bool
  /-- The anchors of the whole text hold at every line. -/
  multiline : Bool
  /-- The dot stands for line feeds as well. -/
  lineFeeds : Bool
  /-- Blanks and comments are skipped. -/
  verbose : Bool
  /-- Classes of characters are confined to ASCII. -/
  ascii : Bool
deriving DecidableEq, Repr

/-- How letter case is regarded under the options. -/
def Options.fold (o : Options) : Fold :=
  if o.anyCase then (if o.ascii then .asciiCase else .anyCase) else .exact

/-- The least and the greatest number of characters that an expression matches. -/
structure Width where
  /-- The least number. -/
  least : Nat
  /-- The greatest number; very large where there is no bound. -/
  most : Nat
deriving DecidableEq, Repr

/-- Stands for an unbounded width. -/
def unboundedWidth : Nat := Nat.pow 2 64

/-- The bound on numbers of repetitions. -/
def repetitionBound : Nat := Nat.pow 2 32 - 1

/-- The bound on numbers of groups. -/
def groupBound : Nat := Nat.pow 2 31 / 2 - 1

/-- A token: a character, or a backslash with the character behind it. -/
structure Token where
  /-- Whether a backslash stands before the character. -/
  escaped : Bool
  /-- The character. -/
  char : Char
deriving DecidableEq, Repr

/-- What has been read so far, and what is left. -/
structure Reader where
  /-- The tokens that are left. -/
  tokens : List Token
  /-- The widths of the groups from the first one on; nothing for an open group. -/
  groups : List (Option Width)
  /-- The named groups. -/
  names : List (String × Nat)
  /-- How many groups were open or closed where the outermost assertion about what stands behind
  began, with group zero counted. -/
  behindFrom : Option Nat
  /-- The groups that conditions are about. -/
  conditions : List Nat
  /-- The options that hold for the whole expression. -/
  options : Options
  /-- The letters that set them. -/
  letters : List Char
  /-- Whether something is repeated. -/
  repeats : Bool

/-- An action of the reader. -/
abbrev Read := StateT Reader (Except SyntaxFault)

/-- The text is not a regular expression. -/
def refuse {α : Type} : Read α :=
  throw .malformed

/-- The tokens of a text; nothing for a text that ends in a backslash of its own. -/
def tokens? : List Char → Option (List Token)
  | [] => some []
  | ['\\'] => none
  | '\\' :: c :: rest => (tokens? rest).map (⟨true, c⟩ :: ·)
  | c :: rest => (tokens? rest).map (⟨false, c⟩ :: ·)

/-- The next token, which stays. -/
def peek : Read (Option Token) := do
  return (← get).tokens.head?

/-- The next token, which is taken. -/
def next : Read (Option Token) := do
  let s ← get
  set { s with tokens := s.tokens.drop 1 }
  return s.tokens.head?

/-- Takes a plain character if it comes next. -/
def accept (c : Char) : Read Bool := do
  if (← peek) = some ⟨false, c⟩ then
    let _ ← next
    return true
  return false

/-- Takes a plain character, which has to come next. -/
def expect (c : Char) : Read Unit := do
  unless ← accept c do refuse

/-- Takes plain characters that satisfy a condition, at most the given number of them. -/
def takeUpTo (ok : Char → Bool) : (count : Nat) → Read (List Char)
  | 0 => return []
  | n + 1 => do
    match ← peek with
    | some ⟨false, c⟩ =>
      if ok c then
        let _ ← next
        return c :: (← takeUpTo ok n)
      else return []
    | _ => return []

/-- The number of tokens that are left. -/
def remaining : Read Nat := do
  return (← get).tokens.length

/-- Takes what stands before a terminator, and the terminator. It must not be empty. -/
def takeUntil (terminator : Char) : Read String := do
  let s ← get
  let name := s.tokens.takeWhile (· ≠ ⟨false, terminator⟩)
  match s.tokens.drop name.length with
  | [] => refuse
  | _ :: rest =>
    if name.isEmpty then refuse
    else
      set { s with tokens := rest }
      return String.ofList (name.flatMap fun t => if t.escaped then ['\\', t.char] else [t.char])

/-- Whether a text may name a group: a letter or an underscore, and word characters behind it. -/
def isGroupName (s : String) : Bool :=
  match s.toList with
  | [] => false
  | c :: cs => Text.isWord c && (Text.digit? c).isNone && cs.all Text.isWord

/-- Whether a character is a hexadecimal digit. -/
def isHex (c : Char) : Bool :=
  (Text.hexValue? c).isSome

/-- Whether a character is an octal digit. -/
def isOctal (c : Char) : Bool :=
  '0' ≤ c && c ≤ '7'

/-- The number that digits write in a base. -/
def inBase (base : Nat) (cs : List Char) : Nat :=
  cs.foldl (fun n c => base * n + (Text.hexValue? c).getD 0) 0

/-- The character that a letter behind a backslash stands for. -/
def controlCode? (c : Char) : Option Nat :=
  match c with
  | 'a' => some 7
  | 'b' => some 8
  | 'f' => some 12
  | 'n' => some 10
  | 'r' => some 13
  | 't' => some 9
  | 'v' => some 11
  | '\\' => some 92
  | _ => none

/-- The class that a letter behind a backslash stands for. -/
def classItem? (ascii : Bool) (c : Char) : Option SetItem :=
  match c with
  | 'd' => some (.named .digit ascii false)
  | 'D' => some (.named .digit ascii true)
  | 's' => some (.named .blank ascii false)
  | 'S' => some (.named .blank ascii true)
  | 'w' => some (.named .word ascii false)
  | 'W' => some (.named .word ascii true)
  | _ => none

/-- Exactly so many hexadecimal digits, as a number. -/
def takeHex (count : Nat) : Read Nat := do
  let ds ← takeUpTo isHex count
  if ds.length = count then return inBase 16 ds else refuse

/-- The code of a character that is written with a backslash and a number or a letter, where no
group can be meant. -/
def escapeCode (c : Char) : Read Nat := do
  if c = 'x' then takeHex 2
  else if c = 'u' then takeHex 4
  else if c = 'U' then
    let n ← takeHex 8
    if n < 0x110000 then return n else refuse
  else if c.isAlpha then refuse
  else return c.toNat

/-- An escape within brackets. -/
def setEscape (o : Options) (c : Char) : Read SetItem := do
  match controlCode? c, classItem? o.ascii c with
  | some n, _ => return .single n
  | none, some item => return item
  | none, none =>
    if isOctal c then
      let n := inBase 8 (c :: (← takeUpTo isOctal 2))
      if n ≤ 0o377 then return .single n else refuse
    else if Text.isAsciiDigit c then refuse
    else return .single (← escapeCode c)

/-- Whether a group is closed. -/
def isClosed (index : Nat) : Read Bool := do
  let s ← get
  match index with
  | 0 => return false
  | n + 1 => return (s.groups[n]?.join).isSome

/-- Within an assertion about what stands behind, a group has to be closed and to have begun
before the assertion. -/
def checkBehind (index : Nat) : Read Unit := do
  match (← get).behindFrom with
  | none => return ()
  | some start =>
    unless ← isClosed index do refuse
    if start ≤ index then refuse

/-- The width of a group. -/
def groupWidth (index : Nat) : Read Width := do
  match (← get).groups[index - 1]?.join with
  | some w => return w
  | none => return ⟨0, 0⟩

/-- A reference to a group that is closed. -/
def reference (o : Options) (index : Nat) : Read (Node × Width) := do
  unless ← isClosed index do refuse
  checkBehind index
  return (.backreference o.fold index, ← groupWidth index)

/-- An escape outside brackets. -/
def escape (o : Options) (c : Char) : Read (Node × Width) := do
  let one (n : Node) : Node × Width := (n, ⟨1, 1⟩)
  let place (a : Anchor) : Node × Width := (.anchor a, ⟨0, 0⟩)
  match c with
  | 'A' => return place .textStart
  | 'Z' => return place .textEnd
  | 'b' => return place (.wordBorder o.ascii false)
  | 'B' => return place (.wordBorder o.ascii true)
  | _ =>
    match classItem? o.ascii c, controlCode? c with
    | some item, _ => return one (.set .exact false [item])
    | none, some n => return one (.char o.fold n)
    | none, none =>
      if c = '0' then
        return one (.char o.fold (inBase 8 (← takeUpTo isOctal 2)))
      else if Text.isAsciiDigit c then
        let second ← takeUpTo Text.isAsciiDigit 1
        let third ←
          if isOctal c && !second.isEmpty && second.all isOctal then takeUpTo isOctal 1 else pure []
        if third.isEmpty then reference o (Text.ofDigits (c :: second))
        else
          let n := inBase 8 (c :: second ++ third)
          if n ≤ 0o377 then return one (.char o.fold n) else refuse
      else return one (.char o.fold (← escapeCode c))

/-- The items of a set up to its closing bracket. The first argument bounds their number. -/
def setItems (o : Options) : (fuel : Nat) → (started : Bool) → Read (List SetItem)
  | 0, _ => refuse
  | fuel + 1, started => do
    let item (t : Token) : Read SetItem :=
      if t.escaped then setEscape o t.char else pure (.single t.char.toNat)
    match ← next with
    | none => refuse
    | some t =>
      if t = ⟨false, ']'⟩ && started then return []
      else
        let first ← item t
        if ← accept '-' then
          match ← next with
          | none => refuse
          | some ⟨false, ']'⟩ => return [first, .single '-'.toNat]
          | some t =>
            match first, ← item t with
            | .single lo, .single hi =>
              if hi < lo then refuse
              else return .range lo hi :: (← setItems o fuel true)
            | _, _ => refuse
        else return first :: (← setItems o fuel true)

/-- A set, behind its opening bracket. -/
def readSet (o : Options) : Read (Node × Width) := do
  let outside ← accept '^'
  let items ← setItems o ((← remaining) + 1) false
  return (.set o.fold outside items, ⟨1, 1⟩)

/-- The bounds of a repetition in braces, behind the opening one. Nothing is taken where no such
bounds stand. -/
def readBounds : Read (Option (Nat × Option Nat)) := do
  let start ← get
  if (← peek) = some ⟨false, '\x7d'⟩ then return none
  let size ← remaining
  let lo ← takeUpTo Text.isAsciiDigit size
  let hi ← if ← accept ',' then takeUpTo Text.isAsciiDigit size else pure lo
  if ← accept '\x7d' then
    let least := Text.ofDigits lo
    if repetitionBound ≤ least then throw .tooLarge
    if hi.isEmpty then return some (least, none)
    let most := Text.ofDigits hi
    if repetitionBound ≤ most then throw .tooLarge
    if most < least then refuse
    return some (least, some most)
  else
    set start
    return none

/-- Whether a character names an option. -/
def isOptionLetter (c : Char) : Bool :=
  ['i', 'L', 'm', 's', 'x', 'a', 't', 'u'].contains c

/-- Option letters, of which one is taken already, and the plain character behind them. -/
def optionLetters : (fuel : Nat) → Char → Read (List Char × Char)
  | 0, _ => refuse
  | fuel + 1, c => do
    if c = 'L' then refuse
    match ← next with
    | some ⟨false, d⟩ =>
      if d = ')' ∨ d = '-' ∨ d = ':' then return ([c], d)
      else if isOptionLetter d then
        let (cs, last) ← optionLetters fuel d
        return (c :: cs, last)
      else refuse
    | _ => refuse

/-- The options with those that letters name set. -/
def Options.turnOn (o : Options) (cs : List Char) : Options :=
  { anyCase := o.anyCase || cs.contains 'i'
    multiline := o.multiline || cs.contains 'm'
    lineFeeds := o.lineFeeds || cs.contains 's'
    verbose := o.verbose || cs.contains 'x'
    ascii := if cs.contains 'a' then true else if cs.contains 'u' then false else o.ascii }

/-- The options with those that letters name cleared. -/
def Options.turnOff (o : Options) (cs : List Char) : Options :=
  { anyCase := o.anyCase && !cs.contains 'i'
    multiline := o.multiline && !cs.contains 'm'
    lineFeeds := o.lineFeeds && !cs.contains 's'
    verbose := o.verbose && !cs.contains 'x'
    ascii := o.ascii }

/-- Options behind a question mark, of which the first character is taken already: either options
for the whole expression, or those of a group that begins here. -/
def readOptions (o : Options) (c : Char) : Read (Option Options) := do
  let fuel := (← remaining) + 1
  let (on, last) ← if c = '-' then pure ([], '-') else optionLetters fuel c
  if on.contains 'a' && on.contains 'u' then refuse
  if last = ')' then
    let s ← get
    set { s with options := s.options.turnOn on, letters := s.letters ++ on }
    return none
  if on.contains 't' then refuse
  if last = ':' then return some (o.turnOn on)
  match ← next with
  | some ⟨false, d⟩ =>
    if !isOptionLetter d then refuse
    let (off, stop) ← optionLetters fuel d
    if stop ≠ ':' ∨ off.any (fun x => ['a', 'u', 't'].contains x || on.contains x) then refuse
    return some ((o.turnOn on).turnOff off)
  | _ => refuse

/-- Opens a group, which may have a name that no other group has. -/
def openGroup (name : Option String) : Read Nat := do
  let s ← get
  let index := s.groups.length + 1
  match name with
  | none => set { s with groups := s.groups ++ [none] }
  | some n =>
    if (s.names.lookup n).isSome then refuse
    set { s with groups := s.groups ++ [none], names := s.names ++ [(n, index)] }
  return index

/-- Closes a group. -/
def closeGroup (index : Nat) (w : Width) : Read Unit :=
  modify fun s => { s with groups := s.groups.set (index - 1) (some w) }

/-- An expression that has been read, and whether it may be repeated: places may not, and neither
may repetitions. -/
structure Item where
  /-- The expression. -/
  node : Node
  /-- How many characters it matches. -/
  width : Width
  /-- Whether it may be repeated. -/
  repeatable : Bool

/-- Several expressions, one behind the other. -/
def Item.concat (items : List Item) : Node × Width :=
  items.foldr (fun i (n, w) =>
      (.cat i.node n, ⟨min unboundedWidth (i.width.least + w.least),
        min unboundedWidth (i.width.most + w.most)⟩))
    (.empty, ⟨0, 0⟩)

/-- The width of repetitions. -/
def Width.repeated (w : Width) (least : Nat) (most : Option Nat) : Width :=
  ⟨min unboundedWidth (w.least * least),
    match most with
    | some n => min unboundedWidth (w.most * n)
    | none => if w.most = 0 then 0 else unboundedWidth⟩

/-- The width of a choice. -/
def Width.either (a b : Width) : Width :=
  ⟨min a.least b.least, max a.most b.most⟩

/-- Repeats the last of the items that have been read, given in reverse. -/
def repeatLast (items : List Item) (least : Nat) (most : Option Nat) : Read (List Item) := do
  match items with
  | [] => refuse
  | i :: before =>
    if !i.repeatable then refuse
    let greed ← if ← accept '?' then pure Greed.lazy
      else if ← accept '+' then pure Greed.possessive
      else pure Greed.greedy
    modify fun s => { s with repeats := true }
    return ⟨.repeated greed least most i.node, i.width.repeated least most, false⟩ :: before

/-- Skips a comment in parentheses. -/
def skipComment : Read Unit := do
  let s ← get
  match s.tokens.dropWhile (· ≠ ⟨false, ')'⟩) with
  | [] => refuse
  | _ :: rest => set { s with tokens := rest }

/-- Skips the rest of a line. -/
def skipLine : Read Unit :=
  modify fun s => { s with tokens := (s.tokens.dropWhile (· ≠ ⟨false, '\n'⟩)).drop 1 }

/-- The group that the text of a condition means. -/
def conditionGroup (text : String) : Read Nat := do
  let s ← get
  if isGroupName text then
    match s.names.lookup text with
    | some index => return index
    | none => refuse
  else
    let digits := (Text.trim text).toList
    let digits := match digits with | '+' :: ds => ds | ds => ds
    match digits.mapM Text.digit? with
    | some (d :: ds) =>
      let index := (d :: ds).foldl (fun n d => 10 * n + d) 0
      if index = 0 ∨ groupBound ≤ index then refuse
      set { s with conditions := s.conditions ++ [index] }
      return index
    | _ => refuse

mutual

/-- Reads a choice between expressions. -/
def readChoice : (fuel : Nat) → Options → (outermost : Bool) → Read (Node × Width)
  | 0, _, _ => refuse
  | fuel + 1, o, outermost => do
    let (first, w) ← readItems fuel o outermost []
    if ← accept '|' then
      let s ← get
      let o' := if outermost then s.options else o
      let (second, v) ← readOthers fuel o' outermost
      return (.alt first second, w.either v)
    else return (first, w)

/-- Reads the choices behind the first one. -/
def readOthers : (fuel : Nat) → Options → (outermost : Bool) → Read (Node × Width)
  | 0, _, _ => refuse
  | fuel + 1, o, outermost => do
    let (first, w) ← readItems fuel o false []
    if ← accept '|' then
      let (second, v) ← readOthers fuel o outermost
      return (.alt first second, w.either v)
    else return (first, w)

/-- Reads expressions one behind the other, up to a bar, a closing parenthesis or the end. Those
read so far are given in reverse. Options for the whole expression may be set at its very
beginning. -/
def readItems : (fuel : Nat) → Options → (first : Bool) → List Item → Read (Node × Width)
  | 0, _, _, _ => refuse
  | fuel + 1, o, first, items => do
    match ← peek with
    | none => return Item.concat items.reverse
    | some t =>
      if t = ⟨false, '|'⟩ || t = ⟨false, ')'⟩ then return Item.concat items.reverse
      let _ ← next
      let one (n : Node) (w : Width) : Read (Node × Width) :=
        readItems fuel o first (⟨n, w, true⟩ :: items)
      let place (a : Anchor) : Read (Node × Width) :=
        readItems fuel o first (⟨.anchor a, ⟨0, 0⟩, false⟩ :: items)
      let literal (c : Char) : Read (Node × Width) := one (.char o.fold c.toNat) ⟨1, 1⟩
      if t.escaped then
        let (n, w) ← escape o t.char
        match n with
        | .anchor a => place a
        | _ => one n w
      else if o.verbose && (t.char = ' ' || (9 ≤ t.char.toNat && t.char.toNat ≤ 13)) then
        readItems fuel o first items
      else if o.verbose && t.char = '#' then
        skipLine
        readItems fuel o first items
      else if t.char = '[' then
        let (n, w) ← readSet o
        one n w
      else if t.char = '?' then
        readItems fuel o first (← repeatLast items 0 (some 1))
      else if t.char = '*' then
        readItems fuel o first (← repeatLast items 0 none)
      else if t.char = '+' then
        readItems fuel o first (← repeatLast items 1 none)
      else if t.char = '\x7b' then
        match ← readBounds with
        | none => literal t.char
        | some (least, most) => readItems fuel o first (← repeatLast items least most)
      else if t.char = '.' then one (.any o.lineFeeds) ⟨1, 1⟩
      else if t.char = '^' then place (if o.multiline then .lineStart else .textStart)
      else if t.char = '$' then place (if o.multiline then .lineEnd else .finalEnd)
      else if t.char = '(' then
        if ← accept '?' then
          match ← next with
          | none => refuse
          | some ⟨true, _⟩ => refuse
          | some ⟨false, c⟩ =>
            if c = 'P' then
              if ← accept '<' then
                let name ← takeUntil '>'
                unless isGroupName name do refuse
                let (n, w) ← readGroup fuel o (some name)
                one n w
              else if ← accept '=' then
                let name ← takeUntil ')'
                unless isGroupName name do refuse
                match (← get).names.lookup name with
                | some index =>
                  let (n, w) ← reference o index
                  one n w
                | none => refuse
              else refuse
            else if c = ':' then
              let (n, w) ← readChoice fuel o false
              expect ')'
              one n w
            else if c = '#' then
              skipComment
              readItems fuel o first items
            else if c = '=' || c = '!' then
              let (n, _) ← readChoice fuel o false
              expect ')'
              one (.ahead (c = '!') n) ⟨0, 0⟩
            else if c = '<' then
              match ← next with
              | some ⟨false, d⟩ =>
                unless d = '=' || d = '!' do refuse
                let outer := (← get).behindFrom
                if outer.isNone then
                  modify fun s => { s with behindFrom := some (s.groups.length + 1) }
                let (n, w) ← readChoice fuel o false
                modify fun s => { s with behindFrom := outer }
                expect ')'
                if w.least ≠ w.most ∨ repetitionBound < w.least then refuse
                one (.behind (d = '!') w.least n) ⟨0, 0⟩
              | _ => refuse
            else if c = '(' then
              let index ← conditionGroup (← takeUntil ')')
              checkBehind index
              let (yes, w) ← readItems fuel o false []
              let (no, v) ←
                if ← accept '|' then readItems fuel o false [] else pure (Node.empty, ⟨0, 0⟩)
              expect ')'
              one (.conditional index yes no) (w.either v)
            else if c = '>' then
              let (n, w) ← readChoice fuel o false
              expect ')'
              one (.atomic n) w
            else if isOptionLetter c || c = '-' then
              match ← readOptions o c with
              | none =>
                if !first || !items.isEmpty then refuse
                let s ← get
                readItems fuel s.options first items
              | some inner =>
                let (n, w) ← readChoice fuel inner false
                expect ')'
                one n w
            else refuse
        else
          let (n, w) ← readGroup fuel o none
          one n w
      else literal t.char

/-- Reads a group that captures, behind its opening parenthesis and its name. -/
def readGroup : (fuel : Nat) → Options → (name : Option String) → Read (Node × Width)
  | 0, _, _ => refuse
  | fuel + 1, o, name => do
    let index ← openGroup name
    let (n, w) ← readChoice fuel o false
    expect ')'
    closeGroup index w
    return (.group index n, w)

end

/-- No options. -/
def noOptions : Options := ⟨false, false, false, false, false⟩

/-- Reads a whole expression. -/
def parse (text : String) : Except SyntaxFault Node := do
  match tokens? text.toList with
  | none => .error .malformed
  | some tokens =>
    let start : Reader := ⟨tokens, [], [], none, [], noOptions, [], false⟩
    let ((node, _), s) ← (readChoice (4 * tokens.length + 8) noOptions true).run start
    if s.letters.contains 'a' && s.letters.contains 'u' then .error .incompatible
    else if s.letters.contains 't' && s.repeats then .error .malformed
    else if !s.tokens.isEmpty then .error .malformed
    else if s.conditions.any (s.groups.length < ·) then .error .malformed
    else .ok node

/-- A regular expression with its text. -/
structure Regex where
  /-- The text. -/
  text : String
  /-- What it means. -/
  node : Node
deriving Repr

/-- Reads a regular expression. -/
def Regex.compile (text : String) : Except SyntaxFault Regex := do
  return ⟨text, ← parse text⟩

/-- Whether a regular expression matches somewhere in a text. -/
def Regex.search (r : Regex) (text : String) : Bool :=
  r.node.search text

end LayeredConfig.Pattern
