import LayeredConfig.Fault

set_option autoImplicit false

/-!
# The reader of YAML

What all parts of the reader share: places in a text, and the causes for which a text is not YAML.
A cause has a problem with its place and, often, the construct in which the problem arose.

## Main definitions

* `Yaml.Mark` — a line and a column.
* `Yaml.Problem`, `Yaml.Context` — what is wrong, and where it arose.
* `Yaml.Error` — why a text cannot be read.
* `Yaml.Error.message`, `Yaml.Error.brief` — the wordings.
-/

namespace LayeredConfig.Format.Yaml

/-- A line and a column, both from zero on. -/
structure Mark where
  /-- How many lines precede the place. -/
  line : Nat
  /-- How many characters of the line precede the place. -/
  column : Nat
deriving DecidableEq, Repr

/-- What has to stand at a place where something else was found. -/
inductive Wanted where
  /-- A letter, a digit, a hyphen or an underscore. -/
  | nameCharacter
  /-- A decimal digit. -/
  | digit
  /-- A decimal digit or the point of a version. -/
  | digitOrPoint
  /-- A decimal digit or the end of a version. -/
  | digitOrBlank
  /-- A blank or the end of the line. -/
  | blank
  /-- A comment or the end of the line. -/
  | lineEnd
  /-- The closing bracket of a verbatim tag. -/
  | closingAngle
  /-- The exclamation mark of a tag. -/
  | exclamation
  /-- The characters of a tag. -/
  | tagCharacter
  /-- The indicators of a block text, or the end of the line. -/
  | blockIndicator
  /-- So many hexadecimal digits of an escape. -/
  | hexDigits (count : Nat)
  /-- The two hexadecimal digits of an escape in a tag. -/
  | tagEscape
deriving DecidableEq, Repr

/-- The wording of what has to stand at a place. -/
def Wanted.text : Wanted → String
  | .nameCharacter => "alphabetic or numeric character"
  | .digit => "a digit"
  | .digitOrPoint => "a digit or '.'"
  | .digitOrBlank => "a digit or ' '"
  | .blank => "' '"
  | .lineEnd => "a comment or a line break"
  | .closingAngle => "'>'"
  | .exclamation => "'!'"
  | .tagCharacter => "URI"
  | .blockIndicator => "chomping or indentation indicators"
  | .hexDigits count => "escape sequence of " ++ toString count ++ " hexadecimal numbers"
  | .tagEscape => "URI escape sequence of 2 hexadecimal numbers"

/-- What is wrong with a text. -/
inductive Problem where
  /-- Something has to stand here, but another character does. -/
  | expected (wanted : Wanted) (found : Char)
  /-- A key is not followed by a colon. -/
  | missingColon
  /-- No token begins with this character. -/
  | strayCharacter (c : Char)
  /-- No item of a sequence may stand here. -/
  | misplacedItem
  /-- No key of a mapping may stand here. -/
  | misplacedKey
  /-- No value of a mapping may stand here. -/
  | misplacedValue
  /-- A block text cannot be indented by nothing. -/
  | zeroIndentation
  /-- No escape begins so. -/
  | badEscape (c : Char)
  /-- The text ends before it should. -/
  | earlyEnd
  /-- The document ends before it should. -/
  | earlySeparator
  /-- The octets that a tag escapes are not UTF-8. -/
  | undecodable (e : Text.Utf8Error)
  /-- A document has to start here. -/
  | expectedDocument (found : String)
  /-- The version is given twice. -/
  | repeatedVersion
  /-- The version is not one that can be read. -/
  | badVersion
  /-- A tag handle is declared twice. -/
  | repeatedHandle (handle : String)
  /-- A tag handle is not declared. -/
  | unknownHandle (handle : String)
  /-- A node has to stand here. -/
  | expectedNode (found : String)
  /-- A block has to end here. -/
  | expectedBlockEnd (found : String)
  /-- A flow collection has to go on or to end here. -/
  | expectedSeparator (closing found : String)
  /-- No node has this anchor. -/
  | unknownAlias (name : String)
  /-- The place of the second node with an anchor. -/
  | repeatedAnchor
  /-- There is a second document. -/
  | secondDocument
  /-- Data with this tag cannot be built. -/
  | unknownTag (tag : String)
  /-- A collection cannot be a key. -/
  | unhashableKey
  /-- A node of some kind has to stand here. -/
  | expectedKind (wanted found : String)
  /-- There has to be a single entry. -/
  | expectedSingle (found : Nat)
  /-- A text that should encode octets is not ASCII. -/
  | notAscii (diagnostic : String)
  /-- A text does not encode octets. -/
  | badOctets (diagnostic : String)
deriving DecidableEq, Repr

/-- The wording of a problem. -/
def Problem.text : Problem → String
  | .expected wanted found =>
    "expected " ++ wanted.text ++ ", but found " ++ Text.quoted (String.singleton found)
  | .missingColon => "could not find expected ':'"
  | .strayCharacter c =>
    "found character " ++ Text.quoted (String.singleton c) ++ " that cannot start any token"
  | .misplacedItem => "sequence entries are not allowed here"
  | .misplacedKey => "mapping keys are not allowed here"
  | .misplacedValue => "mapping values are not allowed here"
  | .zeroIndentation => "expected indentation indicator in the range 1-9, but found 0"
  | .badEscape c => "found unknown escape character " ++ Text.quoted (String.singleton c)
  | .earlyEnd => "found unexpected end of stream"
  | .earlySeparator => "found unexpected document separator"
  | .undecodable e => e.message
  | .expectedDocument found => "expected '<document start>', but found " ++ Text.quoted found
  | .repeatedVersion => "found duplicate YAML directive"
  | .badVersion => "found incompatible YAML document (version 1.* is required)"
  | .repeatedHandle handle => "duplicate tag handle " ++ Text.quoted handle
  | .unknownHandle handle => "found undefined tag handle " ++ Text.quoted handle
  | .expectedNode found => "expected the node content, but found " ++ Text.quoted found
  | .expectedBlockEnd found => "expected <block end>, but found " ++ Text.quoted found
  | .expectedSeparator closing found =>
    "expected ',' or '" ++ closing ++ "', but got " ++ Text.quoted found
  | .unknownAlias name => "found undefined alias " ++ Text.quoted name
  | .repeatedAnchor => "second occurrence"
  | .secondDocument => "but found another document"
  | .unknownTag tag => "could not determine a constructor for the tag " ++ Text.quoted tag
  | .unhashableKey => "found unhashable key"
  | .expectedKind wanted found => "expected " ++ wanted ++ ", but found " ++ found
  | .expectedSingle found =>
    "expected a single mapping item, but found " ++ toString found ++ " items"
  | .notAscii diagnostic => "failed to convert base64 data into ascii: " ++ diagnostic
  | .badOctets diagnostic => "failed to decode base64 data: " ++ diagnostic

/-- The construct in which a problem arose. -/
inductive Context where
  /-- A key that takes no mark of its own. -/
  | simpleKey
  /-- The search for the next token. -/
  | nextToken
  /-- A directive. -/
  | directive
  /-- The tag of a directive. -/
  | directiveTag
  /-- An alias. -/
  | alias
  /-- An anchor. -/
  | anchor
  /-- A tag. -/
  | tag
  /-- The characters of a tag. -/
  | tagBody
  /-- A literal or folded text. -/
  | blockText
  /-- A text in double quotes. -/
  | doubleText
  /-- A text in quotes. -/
  | quotedText
  /-- A node. -/
  | node
  /-- A node where blocks are allowed. -/
  | blockNode
  /-- A node inside a flow collection. -/
  | flowNode
  /-- A block sequence. -/
  | blockSequence
  /-- A block mapping. -/
  | blockMapping
  /-- A sequence in brackets. -/
  | flowSequence
  /-- A mapping in braces. -/
  | flowMapping
  /-- The first node with an anchor. -/
  | firstAnchor (name : String)
  /-- The only document. -/
  | onlyDocument
  /-- The data of a mapping. -/
  | mappingData
  /-- The data of an ordered map. -/
  | orderedMapData
  /-- The data of a sequence of pairs. -/
  | pairsData
deriving DecidableEq, Repr

/-- The wording of a context. -/
def Context.text : Context → String
  | .simpleKey => "while scanning a simple key"
  | .nextToken => "while scanning for the next token"
  | .directive => "while scanning a directive"
  | .directiveTag => "while parsing a directive"
  | .alias => "while scanning an alias"
  | .anchor => "while scanning an anchor"
  | .tag => "while scanning a tag"
  | .tagBody => "while parsing a tag"
  | .blockText => "while scanning a block scalar"
  | .doubleText => "while scanning a double-quoted scalar"
  | .quotedText => "while scanning a quoted scalar"
  | .node => "while parsing a node"
  | .blockNode => "while parsing a block node"
  | .flowNode => "while parsing a flow node"
  | .blockSequence => "while parsing a block collection"
  | .blockMapping => "while parsing a block mapping"
  | .flowSequence => "while parsing a flow sequence"
  | .flowMapping => "while parsing a flow mapping"
  | .firstAnchor name => "found duplicate anchor " ++ Text.quoted name ++ "; first occurrence"
  | .onlyDocument => "expected a single document in the stream"
  | .mappingData => "while constructing a mapping"
  | .orderedMapData => "while constructing an ordered map"
  | .pairsData => "while constructing pairs"

/-- Why a text cannot be read. -/
inductive Error where
  /-- A character is not printable, with its code and its place. -/
  | unprintable (code pos : Nat)
  /-- The text is not YAML: the construct with the place where it starts, the problem, and the place
  of the problem. -/
  | malformed (context : Option (Context × Option Mark)) (problem : Problem) (mark : Mark)
  /-- The data cannot be built for another reason. -/
  | unbuildable (e : Fault)
deriving Repr

/-- A place as messages show it, in a text with a name. -/
def Mark.text (name : String) (m : Mark) : String :=
  "  in \"" ++ name ++ "\", line " ++ toString (m.line + 1) ++ ", column " ++
    toString (m.column + 1)

/-- The wording of an unprintable character in a text with a name; all of them have four hexadecimal
digits. -/
def unprintableText (name : String) (code pos : Nat) : String :=
  "unacceptable character #x" ++ String.ofList (Text.hexDigits code 4) ++
    ": special characters are not allowed\n  in \"" ++ name ++ "\", position " ++ toString pos

/-- The wording of an error on several lines, in a text with a name. The place of the context is
left out where it is that of the problem. -/
def Error.message (name : String) : Error → String
  | .unprintable code pos => unprintableText name code pos
  | .malformed context problem mark =>
    let before := match context with
      | none => []
      | some (c, none) => [c.text]
      | some (c, some m) => if m = mark then [c.text] else [c.text, m.text name]
    "\n".intercalate (before ++ [problem.text, mark.text name])
  | .unbuildable e => e.message

/-- The wording of an error on one line, without its context; a text that is read as a whole has no
name. -/
def Error.brief : Error → String
  | .unprintable code pos => unprintableText "<unicode string>" code pos
  | .malformed _ problem mark => problem.text ++ " at line " ++ toString (mark.line + 1)
  | .unbuildable e => e.message

end LayeredConfig.Format.Yaml
