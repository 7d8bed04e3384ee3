import LayeredConfig.Format.Yaml.Literal
import LayeredConfig.Value.Elements

set_option autoImplicit false

/-!
# The data of nodes

Nodes become data level by level: a collection is made empty where it stands and filled when all of
its level is made. So of two faults the one nearer to the root counts, and of two on one level the
one that comes first. A text holds at most one document, all of whose characters have to be
printable.

## Main definitions

* `Yaml.Ranked` — a fault with the level on which it arises.
* `Yaml.flatten` — the entries of a mapping, with those that are merged in.
* `Node.content` — the data of a node.
* `Yaml.read` — the data that a text stands for.
-/

namespace LayeredConfig.Format.Yaml

/-- An answer, or a fault with the level on which it arises. -/
abbrev Ranked (α : Type) := Except (Nat × Error) α

/-- The earlier of two faults, the left one on one level. -/
def earlier (a b : Nat × Error) : Nat × Error :=
  if b.1 < a.1 then b else a

/-- Two answers together, or the earlier fault. -/
def both {α β γ : Type} (f : α → β → γ) (a : Ranked α) (b : Ranked β) : Ranked γ :=
  match a, b with
  | .ok a, .ok b => .ok (f a b)
  | .error e, .ok _ => .error e
  | .ok _, .error e => .error e
  | .error e, .error e' => .error (earlier e e')

/-- A fault on a level. -/
def atLevel {α : Type} (level : Nat) (r : Except Error α) : Ranked α :=
  match r with
  | .ok a => .ok a
  | .error e => .error (level, e)

/-- A problem with a node. -/
def refuseNode {α : Type} (problem : Problem) (n : Node) : Except Error α :=
  .error (.malformed none problem n.start)

/-! ## Merging -/

/-- A node that is the key of the default value is an ordinary text within a mapping. -/
def ordinaryKey (key : Node) : Node :=
  match key with
  | .scalar .default text m => .scalar .text text m
  | key => key

/-- A problem with a node that is merged into a mapping. -/
def refuseMerge {α : Type} (start : Mark) (wanted : String) (n : Node) : Except Error α :=
  .error (.malformed (some (.mappingData, some start)) (.expectedKind wanted n.kind) n.start)

/-- Entries that are merged in, and those that come after them. -/
def mergedFirst (parts : Except Error (List (Node × Node) × List (Node × Node))) :
    Except Error (List (Node × Node)) := do
  let (merged, own) ← parts
  return merged ++ own

mutual

/-- The entries that are merged into a mapping, and its own. -/
def splitMerges (start : Mark) :
    List (Node × Node) → Except Error (List (Node × Node) × List (Node × Node))
  | [] => .ok ([], [])
  | (key, value) :: es =>
    if key.tag = .merge then do
      let part ← mergedFrom start value
      let (merged, own) ← splitMerges start es
      return (part ++ merged, own)
    else do
      let (merged, own) ← splitMerges start es
      return (merged, (ordinaryKey key, value) :: own)

/-- The entries that a node contributes which is merged in: a mapping, or a sequence of mappings
of which the first counts most. -/
def mergedFrom (start : Mark) : Node → Except Error (List (Node × Node))
  | .mapping _ entries m => mergedFirst (splitMerges m entries)
  | .sequence _ items _ => do
    return (← mergedItems start items).reverse.flatten
  | n => refuseMerge start "a mapping or list of mappings for merging" n

/-- The entries of each mapping of a sequence. -/
def mergedItems (start : Mark) : List Node → Except Error (List (List (Node × Node)))
  | [] => .ok []
  | .mapping _ entries m :: ns => do
    let part ← mergedFirst (splitMerges m entries)
    return part :: (← mergedItems start ns)
  | n :: _ => refuseMerge start "a mapping for merging" n

end

/-- The entries of a mapping: first those that are merged in, then its own. -/
def flatten (start : Mark) (entries : List (Node × Node)) :
    Except Error (List (Node × Node)) :=
  mergedFirst (splitMerges start entries)

/-! ## Texts -/

mutual

/-- The text of a node: a mapping with a default value has that of the value. -/
def textOf : Node → Except Error String
  | .scalar _ text _ => .ok text
  | .mapping tag entries m => textOfDefault (.mapping tag entries m) entries
  | n => refuseNode (.expectedKind "a scalar node" n.kind) n

/-- The text of the default value among some entries of a mapping. -/
def textOfDefault (whole : Node) : List (Node × Node) → Except Error String
  | [] => refuseNode (.expectedKind "a scalar node" whole.kind) whole
  | (key, value) :: es => if key.tag = .default then textOf value else textOfDefault whole es

end

/-- The data of a node whose tag is not that of a collection. -/
def plainOf (n : Node) : Except Error DatumKey :=
  match n.tag with
  | .nil | .boolean | .integer | .float | .octets | .text => do
    scalarOf n.tag (← textOf n) n.start
  | .moment => do
    let text ← textOf n
    match n with
    | .scalar .. => scalarOf .moment text n.start
    | _ => fail (.misuse .wrongType)
  | tag => scalarOf tag "" n.start

/-- Whether a tag is that of a collection. -/
def isCollection (t : Tag) : Bool :=
  t = .sequence || t = .mapping || t = .set || t = .orderedMap || t = .pairs

/-- The key that a node is within a mapping that starts at a place. No collection is a key. -/
def keyOf (start : Mark) (n : Node) : Except Error DatumKey :=
  match n with
  | .cycle _ => .error (.malformed (some (.mappingData, some start)) .unhashableKey n.start)
  | n =>
    if isCollection n.tag then
      .error (.malformed (some (.mappingData, some start)) .unhashableKey n.start)
    else plainOf n

/-! ## Data -/

/-- The only entry of an item of an ordered map or of a sequence of pairs. -/
def singleEntry (context : Context) (start : Mark) (n : Node) : Except Error (Node × Node) :=
  let refuse (problem : Problem) : Except Error (Node × Node) :=
    .error (.malformed (some (context, some start)) problem n.start)
  match n with
  | .mapping _ [e] _ => .ok e
  | .mapping _ entries _ => refuse (.expectedSingle entries.length)
  | n => refuse (.expectedKind "a mapping of length 1" n.kind)

/-- A problem with a node that should be of another kind. -/
def refuseKind {α : Type} (wanted : String) (n : Node) : Except Error α :=
  refuseNode (.expectedKind wanted n.kind) n

/-- A problem with a node that should be a sequence of pairs. -/
def refusePairs {α : Type} (context : Context) (n : Node) : Except Error α :=
  .error (.malformed (some (context, some n.start)) (.expectedKind "a sequence" n.kind) n.start)

/-- A set of the keys of entries. -/
def setOf (entries : List (DatumKey × Datum)) : Datum :=
  match Datum.table entries with
  | .mapping es => .set (es.map (·.1))
  | _ => .set []

/-- All answers, or the earliest fault. -/
def gather {α : Type} (rs : List (Ranked α)) : Ranked (List α) :=
  rs.foldr (both (· :: ·)) (.ok [])

/-- The data of a node that is made on a level. The first argument bounds the depth of nodes, merged
ones included. A node that is part of itself has no data; nothing stands for it here. -/
def build : (fuel level : Nat) → Node → Ranked Datum
  | 0, _, _ => .ok .nil
  | _, _, .cycle _ => .ok .nil
  | fuel + 1, level, n =>
    let within := build fuel (level + 1)
    let entriesOf (start : Mark) (entries : List (Node × Node)) :
        Ranked (List (DatumKey × Datum)) := do
      let es ← atLevel (level + 1) (flatten start entries)
      gather (es.map fun (key, value) =>
        both Prod.mk (atLevel (level + 1) (keyOf start key)) (within value))
    let pairsOf (context : Context) (start : Mark) (items : List Node) : Ranked Datum :=
      (gather (items.map fun item => do
        let (key, value) ← atLevel (level + 1) (singleEntry context start item)
        both (fun k v => Datum.tuple [k, v]) (within key) (within value))).map .sequence
    match n.tag, n with
    | .sequence, .sequence _ items _ => (gather (items.map within)).map .sequence
    | .sequence, n => atLevel (level + 1) (refuseKind "a sequence node" n)
    | .mapping, .mapping _ entries m => (entriesOf m entries).map Datum.table
    | .mapping, n => atLevel (level + 1) (refuseKind "a mapping node" n)
    | .set, .mapping _ entries m => (entriesOf m entries).map setOf
    | .set, n => atLevel (level + 1) (refuseKind "a mapping node" n)
    | .orderedMap, .sequence _ items m => pairsOf .orderedMapData m items
    | .orderedMap, n => atLevel (level + 1) (refusePairs .orderedMapData n)
    | .pairs, .sequence _ items m => pairsOf .pairsData m items
    | .pairs, n => atLevel (level + 1) (refusePairs .pairsData n)
    | _, n => (atLevel level (plainOf n)).map DatumKey.toDatum

mutual

/-- Whether a node is part of itself. -/
def isCyclic : Node → Bool
  | .scalar .. => false
  | .sequence _ items _ => itemsCyclic items
  | .mapping _ entries _ => entriesCyclic entries
  | .cycle _ => true

/-- Whether one of some nodes is part of itself. -/
def itemsCyclic : List Node → Bool
  | [] => false
  | n :: ns => isCyclic n || itemsCyclic ns

/-- Whether a key or a value is part of itself. -/
def entriesCyclic : List (Node × Node) → Bool
  | [] => false
  | (key, value) :: es => isCyclic key || isCyclic value || entriesCyclic es

end

mutual

/-- The depth of a node. -/
def depth : Node → Nat
  | .sequence _ items _ => depthOfItems items + 1
  | .mapping _ entries _ => depthOfEntries entries + 1
  | _ => 1

/-- The depth of the deepest of some nodes. -/
def depthOfItems : List Node → Nat
  | [] => 0
  | n :: ns => max (depth n) (depthOfItems ns)

/-- The depth of the deepest key or value. -/
def depthOfEntries : List (Node × Node) → Nat
  | [] => 0
  | (key, value) :: es => max (max (depth key) (depth value)) (depthOfEntries es)

end

/-- The data of a node. A node that is part of itself has none. -/
def Node.content (n : Node) : Except Error Datum :=
  match build (depth n + 1) 0 n with
  | .error (_, e) => .error e
  | .ok d => if isCyclic n then fail (.misuse .endless) else .ok d

/-! ## Texts -/

/-- Whether a character may stand in a text. -/
def isPrintable (c : Char) : Bool :=
  let n := c.toNat
  n = 0x09 || n = 0x0A || n = 0x0D || (0x20 ≤ n && n ≤ 0x7E) || n = 0x85
    || (0xA0 ≤ n && n ≤ 0xFFFD) || 0x10000 ≤ n

/-- The data that a text stands for; a text without a document stands for nothing. -/
def read (text : String) : Except Error Datum :=
  let cs := text.toList
  match cs.find? (!isPrintable ·) with
  | some c => .error (.unprintable c.toNat (cs.takeWhile isPrintable).length)
  | none => do
    let (ts, fault) := tokens cs
    match ← Node.ofTokens ts fault with
    | some root => root.content
    | none => .ok .nil

end LayeredConfig.Format.Yaml
