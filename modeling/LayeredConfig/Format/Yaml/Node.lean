import LayeredConfig.Format.Yaml.Lexer
import LayeredConfig.Format.Yaml.Tag

set_option autoImplicit false

/-!
# Nodes

The tokens of a text make a tree of nodes: texts, sequences and mappings, each with a tag. An alias
stands for the node with its anchor, which has to come before it.

## Main definitions

* `Yaml.Node` — the nodes.
* `Node.ofTokens` — the root node that tokens make.
-/

namespace LayeredConfig.Format.Yaml

/-- A node with its tag and the place where it starts. -/
inductive Node where
  /-- A text. -/
  | scalar (tag : Tag) (text : String) (start : Mark)
  /-- A sequence of nodes. -/
  | sequence (tag : Tag) (items : List Node) (start : Mark)
  /-- Pairs of nodes. -/
  | mapping (tag : Tag) (entries : List (Node × Node)) (start : Mark)
  /-- An alias for a node that the alias is part of. -/
  | cycle (start : Mark)
deriving Repr

namespace Node

instance : Inhabited Node := ⟨.cycle ⟨0, 0⟩⟩

/-- Where a node starts. -/
def start : Node → Mark
  | .scalar _ _ m => m
  | .sequence _ _ m => m
  | .mapping _ _ m => m
  | .cycle m => m

/-- The tag of a node. -/
def tag : Node → Tag
  | .scalar t _ _ => t
  | .sequence t _ _ => t
  | .mapping t _ _ => t
  | .cycle _ => .other ""

/-- What messages call the kind of a node. -/
def kind : Node → String
  | .scalar .. => "scalar"
  | .sequence .. => "sequence"
  | .mapping .. => "mapping"
  | .cycle _ => "sequence"

/-- The absence of a node where one may be left out. -/
def absent (m : Mark) : Node := .scalar .nil "" m

end Node

/-! ## Reading tokens -/

/-- A node with an anchor. -/
structure Anchored where
  /-- The anchor. -/
  name : String
  /-- Where the node starts. -/
  start : Mark
  /-- The node, unless it is being read. -/
  node : Option Node

/-- What is left to be read, and what names mean. -/
structure Reading where
  /-- The tokens that are left. -/
  tokens : List Token
  /-- The fault that follows them. -/
  fault : Option Error
  /-- What the tag handles stand for. -/
  handles : List (String × String)
  /-- The nodes with anchors. -/
  anchors : List Anchored

/-- An action that reads tokens. -/
abbrev Read := StateT Reading (Except Error)

/-- Where a text ends whose tokens do not tell. -/
def endToken : Token := ⟨.streamEnd, ⟨0, 0⟩, ⟨0, 0⟩⟩

/-- The next token. -/
def look : Read Token := do
  let r ← get
  match r.tokens, r.fault with
  | t :: _, _ => return t
  | [], some e => throw e
  | [], none => return endToken

/-- Takes the next token. -/
def take : Read Token := do
  let t ← look
  modify fun r => { r with tokens := r.tokens.drop 1 }
  return t

/-- Whether the next token is one of some kinds. -/
def nextIs (kinds : List Token.Kind) : Read Bool := do
  return kinds.contains (← look).kind

/-- The text is not YAML: something is wrong with the next token. -/
def refuse {α : Type} (context : Option (Context × Option Mark)) (problem : String → Problem) :
    Read α := do
  let t ← look
  throw (.malformed context (problem t.kind.label) t.start)

/-- What stands before a node: an anchor and a tag, with the place where they start. -/
structure Properties where
  /-- The anchor. -/
  anchor : Option String
  /-- The tag, as its full name. -/
  tag : Option String
  /-- Where the properties start. -/
  start : Option Mark

/-- The full name of a tag whose handle has to be declared. -/
def resolveTag (start : Mark) (handle : Option String) (suffix : String) (m : Mark) :
    Read String := do
  match handle with
  | none => return suffix
  | some h =>
    match (← get).handles.lookup h with
    | some meaning => return meaning ++ suffix
    | none => throw (.malformed (some (.node, some start)) (.unknownHandle h) m)

/-- Reads the properties of a node: an anchor and a tag, in any order. -/
def readProperties : Read Properties := do
  let first ← look
  match first.kind with
  | .anchor name =>
    let _ ← take
    let second ← look
    match second.kind with
    | .tag handle suffix =>
      let _ ← take
      let tag ← resolveTag first.start handle suffix second.start
      return ⟨some name, some tag, some first.start⟩
    | _ => return ⟨some name, none, some first.start⟩
  | .tag handle suffix =>
    let _ ← take
    let second ← look
    let anchor ←
      match second.kind with
      | .anchor name => do
        let _ ← take
        pure (some name)
      | _ => pure none
    let tag ← resolveTag first.start handle suffix first.start
    return ⟨anchor, some tag, some first.start⟩
  | _ => return ⟨none, none, none⟩

/-- The tag of a node for which none or an exclamation mark stands, given the one that it has
then. -/
def tagOr (suggested : Tag) (tag : Option String) : Tag :=
  match tag with
  | none => suggested
  | some "!" => suggested
  | some name => .ofName name

/-- The tag of a text: without one, the form of the text decides unless it stands in quotes. -/
def scalarTag (tag : Option String) (text : String) (plain : Bool) : Tag :=
  tagOr (if plain || tag = some "!" then .ofPlain text else .text) tag

/-- Notes the anchor of a node that starts here, which has to be new. -/
def openAnchor (anchor : Option String) (start : Mark) : Read Unit := do
  if let some name := anchor then
    match (← get).anchors.find? (·.name = name) with
    | some first =>
      throw (.malformed (some (.firstAnchor name, some first.start)) .repeatedAnchor start)
    | none => modify fun r => { r with anchors := ⟨name, start, none⟩ :: r.anchors }

/-- Notes the node that an anchor stands for. -/
def closeAnchor (anchor : Option String) (node : Node) : Read Node := do
  if let some name := anchor then
    modify fun r =>
      { r with
        anchors := r.anchors.map fun a => if a.name = name then { a with node := node } else a }
  return node

/-- The node that an alias stands for. -/
def readAlias (name : String) (m : Mark) : Read Node := do
  let _ ← take
  match (← get).anchors.find? (·.name = name) with
  | some a => return a.node.getD (.cycle m)
  | none => throw (.malformed none (.unknownAlias name) m)

/-- The node that properties alone make; without properties a node is missing. -/
def missing (props : Properties) (start : Mark) (block : Bool) : Read Node := do
  if props.anchor.isSome || props.tag.isSome then
    openAnchor props.anchor start
    closeAnchor props.anchor (.scalar (tagOr .nil props.tag) "" start)
  else refuse (some (if block then .blockNode else .flowNode, some start)) .expectedNode

/-- Reads a node, or answers that it is left out: then one of some tokens follows. -/
def unlessEnds (ends : List Token.Kind) (m : Mark) (node : Read Node) : Read Node := do
  if ← nextIs ends then return .absent m else node

/-- Reads the value of an entry, if there is one; one of some tokens follows where it is left
out. -/
def readValue (ends : List Token.Kind) (node : Read Node) : Read Node := do
  let t ← look
  match t.kind with
  | .value =>
    let _ ← take
    unlessEnds ends t.stop node
  | _ => return .absent t.start

/-- Reads the comma between two parts of a flow collection, which may also end. -/
def readComma (context : Context) (start : Mark) (closing : Token.Kind) (first : Bool) :
    Read Unit := do
  let t ← look
  if t.kind = closing ∨ first then return
  else if t.kind = .flowEntry then let _ ← take
  else refuse (some (context, some start)) (.expectedSeparator closing.label)

mutual

/-- Reads a node. Block collections count where `block` is set, and block sequences that are not
indented where `indentless` is. The first argument bounds the number of nodes. -/
def readNode : (fuel : Nat) → (block indentless : Bool) → Read Node
  | 0, _, _ => refuse none .expectedNode
  | fuel + 1, block, indentless => do
    let t ← look
    if let .alias name := t.kind then return ← readAlias name t.start
    let props ← readProperties
    let t ← look
    let start := props.start.getD t.start
    let sequence (items : Read (List Node)) : Read Node := do
      openAnchor props.anchor start
      closeAnchor props.anchor (.sequence (tagOr .sequence props.tag) (← items) start)
    let mapping (entries : Read (List (Node × Node))) : Read Node := do
      openAnchor props.anchor start
      closeAnchor props.anchor (.mapping (tagOr .mapping props.tag) (← entries) start)
    let scalar (text : String) (plain : Bool) : Read Node := do
      openAnchor props.anchor start
      closeAnchor props.anchor (.scalar (scalarTag props.tag text plain) text start)
    match t.kind with
    | .scalar text plain =>
      let _ ← take
      scalar text plain
    | .flowSequenceStart => sequence do
      let _ ← take
      flowItems fuel t.start true
    | .flowMappingStart => mapping do
      let _ ← take
      flowEntries fuel t.start true
    | .blockSequenceStart =>
      if block then sequence do
        let _ ← take
        blockItems fuel t.start
      else missing props start block
    | .blockMappingStart =>
      if block then mapping do
        let _ ← take
        blockEntries fuel t.start
      else missing props start block
    | .blockEntry =>
      if indentless then sequence (indentlessItems fuel) else missing props start block
    | _ => missing props start block

/-- Reads the items of a block sequence that starts at a place, and its end. -/
def blockItems : (fuel : Nat) → Mark → Read (List Node)
  | 0, start => refuse (some (.blockSequence, some start)) .expectedBlockEnd
  | fuel + 1, start => do
    let t ← look
    match t.kind with
    | .blockEntry =>
      let _ ← take
      let item ← unlessEnds [.blockEntry, .blockEnd] t.stop (readNode fuel true false)
      return item :: (← blockItems fuel start)
    | .blockEnd =>
      let _ ← take
      return []
    | _ => refuse (some (.blockSequence, some start)) .expectedBlockEnd

/-- Reads the items of a block sequence that is not indented. -/
def indentlessItems : (fuel : Nat) → Read (List Node)
  | 0 => return []
  | fuel + 1 => do
    let t ← look
    match t.kind with
    | .blockEntry =>
      let _ ← take
      let item ← unlessEnds [.blockEntry, .key, .value, .blockEnd] t.stop (readNode fuel true false)
      return item :: (← indentlessItems fuel)
    | _ => return []

/-- Reads the entries of a block mapping that starts at a place, and its end. Keys and values may
be left out. -/
def blockEntries : (fuel : Nat) → Mark → Read (List (Node × Node))
  | 0, start => refuse (some (.blockMapping, some start)) .expectedBlockEnd
  | fuel + 1, start => do
    let t ← look
    match t.kind with
    | .key =>
      let _ ← take
      let key ← unlessEnds [.key, .value, .blockEnd] t.stop (readNode fuel true true)
      let value ← readValue [.key, .value, .blockEnd] (readNode fuel true true)
      return (key, value) :: (← blockEntries fuel start)
    | .blockEnd =>
      let _ ← take
      return []
    | _ => refuse (some (.blockMapping, some start)) .expectedBlockEnd

/-- Reads the items of a flow sequence that starts at a place, and its end. A key with a value
is a mapping with one entry. -/
def flowItems : (fuel : Nat) → Mark → (first : Bool) → Read (List Node)
  | 0, start, _ => refuse (some (.flowSequence, some start)) (.expectedSeparator "]")
  | fuel + 1, start, first => do
    readComma .flowSequence start .flowSequenceEnd first
    let t ← look
    match t.kind with
    | .flowSequenceEnd =>
      let _ ← take
      return []
    | .key =>
      let _ ← take
      let key ← unlessEnds [.value, .flowEntry, .flowSequenceEnd] t.stop (readNode fuel false false)
      let value ← readValue [.flowEntry, .flowSequenceEnd] (readNode fuel false false)
      let item : Node := .mapping .mapping [(key, value)] t.start
      return item :: (← flowItems fuel start false)
    | _ =>
      let item ← readNode fuel false false
      return item :: (← flowItems fuel start false)

/-- Reads the entries of a flow mapping that starts at a place, and its end. -/
def flowEntries : (fuel : Nat) → Mark → (first : Bool) → Read (List (Node × Node))
  | 0, start, _ => refuse (some (.flowMapping, some start)) (.expectedSeparator "\x7d")
  | fuel + 1, start, first => do
    readComma .flowMapping start .flowMappingEnd first
    let t ← look
    match t.kind with
    | .flowMappingEnd =>
      let _ ← take
      return []
    | .key =>
      let _ ← take
      let key ← unlessEnds [.value, .flowEntry, .flowMappingEnd] t.stop (readNode fuel false false)
      let value ← readValue [.flowEntry, .flowMappingEnd] (readNode fuel false false)
      return (key, value) :: (← flowEntries fuel start false)
    | _ =>
      let key ← readNode fuel false false
      let value := Node.absent (← look).start
      return (key, value) :: (← flowEntries fuel start false)

end

/-! ## Documents -/

/-- What tag handles stand for unless they are declared. -/
def standardHandles : List (String × String) :=
  [("!", "!"), ("!!", Tag.root)]

/-- Reads directives, given the version and the handles of those read before. The first argument
bounds their number. -/
def readDirectives : (fuel : Nat) → (versioned : Bool) → List (String × String) →
    Read (List (String × String))
  | 0, _, handles => return handles
  | fuel + 1, versioned, handles => do
    let t ← look
    match t.kind with
    | .directive d =>
      let _ ← take
      match d with
      | .version major _ =>
        if versioned then throw (.malformed none .repeatedVersion t.start)
        if major ≠ 1 then throw (.malformed none .badVersion t.start)
        readDirectives fuel true handles
      | .handle name meaning =>
        if (handles.lookup name).isSome then
          throw (.malformed none (.repeatedHandle name) t.start)
        readDirectives fuel versioned ((name, meaning) :: handles)
      | .other _ => readDirectives fuel versioned handles
    | _ => return handles

/-- Passes over the markers of ends of documents. The argument bounds their number. -/
def skipDocumentEnds : (fuel : Nat) → Read Unit
  | 0 => return
  | fuel + 1 => do
    if (← look).kind = .documentEnd then
      let _ ← take
      skipDocumentEnds fuel

/-- Whether a token is a directive. -/
def Token.Kind.isDirective : Token.Kind → Bool
  | .directive _ => true
  | _ => false

/-- Reads the directives and the marker with which a document starts; nothing is left otherwise.
The place where they start is answered. -/
def readDocumentStart : Read (Option Mark) := do
  skipDocumentEnds ((← get).tokens.length + 1)
  let t ← look
  if t.kind = .streamEnd then return none
  else
    let declared ← readDirectives ((← get).tokens.length + 1) false []
    if (← look).kind ≠ .documentStart then refuse none .expectedDocument
    let _ ← take
    modify fun r => { r with handles := declared ++ standardHandles }
    return some t.start

/-- Reads the root node of the first document, if there is a document. -/
def readRoot (fuel : Nat) : Read (Option Node) := do
  let t ← look
  if t.kind.isDirective || t.kind = .documentStart || t.kind = .streamEnd then
    match ← readDocumentStart with
    | none => return none
    | some _ =>
      let t ← look
      if t.kind.isDirective || [.documentStart, .documentEnd, .streamEnd].contains t.kind then
        return some (.absent t.start)
      else return some (← readNode fuel true false)
  else return some (← readNode fuel true false)

/-- Reads the only document. -/
def readDocument (fuel : Nat) : Read (Option Node) := do
  match ← readRoot fuel with
  | none => return none
  | some root =>
    match ← readDocumentStart with
    | none => return some root
    | some m => throw (.malformed (some (.onlyDocument, some root.start)) .secondDocument m)

/-- The root node that tokens with a fault behind them make; nothing if they hold no document. -/
def Node.ofTokens (tokens : List Token) (fault : Option Error) : Except Error (Option Node) :=
  ((readDocument (2 * tokens.length + 4)).run ⟨tokens, fault, standardHandles, []⟩).map (·.1)

end LayeredConfig.Format.Yaml
