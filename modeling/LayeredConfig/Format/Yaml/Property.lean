import LayeredConfig.Format.Yaml.Scalar

set_option autoImplicit false

/-!
# Directives, anchors and tags

The parts of a text that say something about a document or a node: directives stand on a line of
their own, anchors, aliases and tags before what they belong to.

## Main definitions

* `Yaml.readDirective` — a directive.
* `Yaml.readName` — the name of an anchor or an alias.
* `Yaml.readTag` — a tag.
-/

namespace LayeredConfig.Format.Yaml

/-- Reads a name of letters, digits, hyphens and underscores. -/
def readWord (context : Context) (start : Mark) (p : Place) : Except Error (List Char × Place) :=
  let (cs, p) := p.takeWhile isNameChar
  if cs.isEmpty then unexpected context start .nameCharacter p else .ok (cs, p)

/-- Reads the name of an anchor or an alias, behind its indicator. -/
def readName (context : Context) (start : Mark) (p : Place) : Except Error (String × Place) := do
  let (cs, p) ← readWord context start p
  if isSeparator p.head || "?:,]\x7d%@\x60".toList.contains p.head then
    return (String.ofList cs, p)
  else unexpected context start .nameCharacter p

/-! ## Tags -/

/-- Whether a character may stand in a tag as it is. -/
def isTagChar (c : Char) : Bool :=
  c.isAlphanum || "-;/?:@&=+$,_.!~*'()[]".toList.contains c

/-- Reads the octets that escapes in a tag write, and the place behind them. The first argument
bounds their number. -/
def tagOctets (context : Context) (start : Mark) : (fuel : Nat) → Place →
    Except Error (List Nat × Place)
  | 0, p => .ok ([], p)
  | fuel + 1, p =>
    if p.head = '%' then do
      let p := p.next
      let ds := (p.rest.take 2).takeWhile fun c => (Text.hexValue? c).isSome
      if ds.length < 2 then
        .error (.malformed (some (context, some start)) (.expected .tagEscape (p.peek ds.length))
          p.mark)
      else
        let (more, q) ← tagOctets context start fuel (p.forward 2)
        return (hexNumber ds :: more, q)
    else .ok ([], p)

/-- Reads the characters of a tag; escapes have to write UTF-8. The first argument bounds their
number. -/
def tagChars (context : Context) (start : Mark) : (fuel : Nat) → Place →
    Except Error (List Char × Place)
  | 0, p => .ok ([], p)
  | fuel + 1, p =>
    if p.head = '%' then do
      let (octets, q) ← tagOctets context start (p.rest.length + 1) p
      match Text.decodeUtf8 octets with
      | .error e => .error (.malformed (some (context, some start)) (.undecodable e) p.mark)
      | .ok cs =>
        let (more, r) ← tagChars context start fuel q
        return (cs ++ more, r)
    else if isTagChar p.head then do
      let (more, q) ← tagChars context start fuel p.next
      return (p.head :: more, q)
    else .ok ([], p)

/-- Reads the characters of a tag, at least one of them; `context` is that of an escape, and `body`
that of a missing character. -/
def readTagBody (context body : Context) (start : Mark) (p : Place) :
    Except Error (String × Place) := do
  let (cs, q) ← tagChars context start (p.rest.length + 1) p
  if q.index = p.index then unexpected body start .tagCharacter p
  else return (String.ofList cs, q)

/-- Reads the handle of a tag: an exclamation mark, or a name between two of them. -/
def readHandle (context : Context) (start : Mark) (p : Place) : Except Error (String × Place) :=
  if p.head ≠ '!' then unexpected context start .exclamation p
  else if p.peek 1 = ' ' then .ok ("!", p.next)
  else
    let (cs, q) := p.next.takeWhile isNameChar
    if q.head = '!' then .ok (String.ofList ('!' :: cs ++ ['!']), q.next)
    else unexpected context start .exclamation q

/-- Reads a tag: verbatim between angles, a lone exclamation mark, or a handle and a suffix. -/
def readTag (p : Place) : Except Error (Option String × String × Place) := do
  let start := p.mark
  let (handle, suffix, p) ←
    if p.peek 1 = '<' then do
      let (suffix, q) ← readTagBody .tag .tagBody start (p.forward 2)
      if q.head = '>' then pure (none, suffix, q.next)
      else unexpected .tagBody start .closingAngle q
    else if isSeparator (p.peek 1) then pure (none, "!", p.next)
    else do
      let hasHandle := ((p.rest.drop 1).takeWhile (!isSpaceOrEnd ·)).contains '!'
      let (handle, q) ← if hasHandle then readHandle .tag start p else .ok ("!", p.next)
      let (suffix, q) ← readTagBody .tag .tagBody start q
      pure (some handle, suffix, q)
  if isSpaceOrEnd p.head then return (handle, suffix, p)
  else unexpected .tag start .blank p

/-! ## Directives -/

/-- Reads a number of a version. -/
def readVersionNumber (start : Mark) (p : Place) : Except Error (Nat × Place) :=
  let (ds, q) := p.takeWhile Text.isAsciiDigit
  if ds.isEmpty then unexpected .directive start .digit p
  else if Number.digitLimit < ds.length then .error (.unbuildable (.tooManyDigits ds.length))
  else .ok (Text.ofDigits ds, q)

/-- Reads the version of a directive. -/
def readVersion (start : Mark) (p : Place) : Except Error (Directive × Place) := do
  let (major, p) ← readVersionNumber start p.skipBlanks
  if p.head ≠ '.' then unexpected .directive start .digitOrPoint p
  else
    let (minor, p) ← readVersionNumber start p.next
    if isSpaceOrEnd p.head then return (.version major minor, p)
    else unexpected .directive start .digitOrBlank p

/-- Reads the handle and the meaning of a directive. -/
def readHandleMeaning (start : Mark) (p : Place) : Except Error (Directive × Place) := do
  let (handle, p) ← readHandle .directive start p.skipBlanks
  if p.head ≠ ' ' then unexpected .directive start .blank p
  else
    let (meaning, p) ← readTagBody .directive .directiveTag start p.skipBlanks
    if isSpaceOrEnd p.head then return (.handle handle meaning, p)
    else unexpected .directive start .blank p

/-- Reads a directive, from its percent sign on, with the end of its line. -/
def readDirective (p : Place) : Except Error (Directive × Place) := do
  let start := p.mark
  let (name, p) ← readWord .directive start p.next
  if !isSpaceOrEnd p.head then unexpected .directive start .nameCharacter p
  else
    let (directive, p) ←
      if name = "YAML".toList then readVersion start p
      else if name = "TAG".toList then readHandleMeaning start p
      else pure (Directive.other (String.ofList name), p.skip (!isBreak ·))
    return (directive, ← skipLine .directive start p)

end LayeredConfig.Format.Yaml
