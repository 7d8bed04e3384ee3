import LayeredConfig.Format.Yaml.Basic

set_option autoImplicit false

/-!
# Tokens of YAML

A token is the smallest piece of a text that has a meaning. The tokens that open and close blocks
take no characters; they stand for changes of indentation.

## Main definitions

* `Yaml.Token` — a token with its place.
* `Token.Kind.label` — what messages call a token.
-/

namespace LayeredConfig.Format.Yaml

/-- A directive. -/
inductive Directive where
  /-- The version of the language. -/
  | version (major minor : Nat)
  /-- What a tag handle stands for. -/
  | handle (name meaning : String)
  /-- A directive that means nothing. -/
  | other (name : String)
deriving DecidableEq, Repr

/-- The kinds of tokens. -/
inductive Token.Kind where
  /-- A directive. -/
  | directive (d : Directive)
  /-- The start of a document. -/
  | documentStart
  /-- The end of a document. -/
  | documentEnd
  /-- The end of the text. -/
  | streamEnd
  /-- A block sequence starts. -/
  | blockSequenceStart
  /-- A block mapping starts. -/
  | blockMappingStart
  /-- A block ends. -/
  | blockEnd
  /-- An opening bracket. -/
  | flowSequenceStart
  /-- An opening brace. -/
  | flowMappingStart
  /-- A closing bracket. -/
  | flowSequenceEnd
  /-- A closing brace. -/
  | flowMappingEnd
  /-- The hyphen before an item of a block sequence. -/
  | blockEntry
  /-- A comma. -/
  | flowEntry
  /-- A key follows. -/
  | key
  /-- A value follows. -/
  | value
  /-- An alias. -/
  | alias (name : String)
  /-- An anchor. -/
  | anchor (name : String)
  /-- A tag, with its handle where it has one. -/
  | tag (handle : Option String) (suffix : String)
  /-- A text, and whether it stands without quotes. -/
  | scalar (text : String) (plain : Bool)
deriving DecidableEq, Repr

/-- A token with its place. -/
structure Token where
  /-- What the token is. -/
  kind : Token.Kind
  /-- Where it starts. -/
  start : Mark
  /-- Where the text goes on behind it. -/
  stop : Mark
deriving DecidableEq, Repr

/-- What messages call a token. -/
def Token.Kind.label : Token.Kind → String
  | .directive _ => "<directive>"
  | .documentStart => "<document start>"
  | .documentEnd => "<document end>"
  | .streamEnd => "<stream end>"
  | .blockSequenceStart => "<block sequence start>"
  | .blockMappingStart => "<block mapping start>"
  | .blockEnd => "<block end>"
  | .flowSequenceStart => "["
  | .flowMappingStart => "\x7b"
  | .flowSequenceEnd => "]"
  | .flowMappingEnd => "\x7d"
  | .blockEntry => "-"
  | .flowEntry => ","
  | .key => "?"
  | .value => ":"
  | .alias _ => "<alias>"
  | .anchor _ => "<anchor>"
  | .tag _ _ => "<tag>"
  | .scalar _ _ => "<scalar>"

end LayeredConfig.Format.Yaml
