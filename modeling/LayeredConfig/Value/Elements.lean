import LayeredConfig.Value.Render

set_option autoImplicit false

/-!
# Collections of any kind

Where a manifest should hold a list or a table, other data may stand. Every collection has elements;
those of a table are its keys, those of a text its characters.

## Main definitions

* `Datum.elements?` — the elements of a collection.
* `Datum.entries` — the entries that data list.
* `Datum.holds` — whether data have an element.
* `Datum.plainText` — the text of data in messages.
-/

namespace LayeredConfig

/-- A key as data. -/
def DatumKey.toDatum : DatumKey → Datum
  | .nil => .nil
  | .boolean b => .boolean b
  | .integer i => .integer i
  | .float x => .float x
  | .text s => .text s
  | .moment m => .moment m
  | .octets bytes => .octets bytes

namespace Datum

/-- Data as a key; collections that can be changed are no keys. -/
def toKey? : Datum → Option DatumKey
  | .nil => some .nil
  | .boolean b => some (.boolean b)
  | .integer i => some (.integer i)
  | .float x => some (.float x)
  | .text s => some (.text s)
  | .moment m => some (.moment m)
  | .octets bytes => some (.octets bytes)
  | _ => none

/-- The elements of a collection: the keys of a table, the characters of a text. -/
def elements? : Datum → Option (List Datum)
  | .sequence items => some items
  | .tuple items => some items
  | .mapping entries => some (entries.map fun e => e.1.toDatum)
  | .set members => some (members.map DatumKey.toDatum)
  | .text s => some (s.toList.map fun c => .text (String.singleton c))
  | .octets bytes => some (bytes.map fun (b : Nat) => .integer b)
  | _ => none

/-- The elements of a collection; other data have the wrong type. -/
def elements (d : Datum) : Except Fault (List Datum) :=
  match d.elements? with
  | some ds => .ok ds
  | none => .error (.misuse .wrongType)

/-- The entry that a pair makes, given its place among others. -/
def entryOfPair (place : Nat) (d : Datum) : Except Fault (DatumKey × Datum) := do
  match ← d.elements with
  | [k, v] =>
    match k.toKey? with
    | some key => return (key, v)
    | none => .error (.misuse .wrongType)
  | ds =>
    .error (.invalid ("dictionary update sequence element #" ++ toString place ++ " has length " ++
      toString ds.length ++ "; 2 is required"))

/-- The entries that data list: those of a table, or one for each of several pairs. -/
def entries (d : Datum) : Except Fault (List (DatumKey × Datum)) :=
  match d with
  | .mapping es => .ok es
  | d => do
    let es ← (← d.elements).zipIdx.mapM fun (pair, place) => entryOfPair place pair
    match Datum.table es with
    | .mapping es => return es
    | _ => return []

/-- Whether a text occurs in another one. -/
def occursIn (s : List Char) : List Char → Bool
  | [] => s.isEmpty
  | c :: cs => s.isPrefixOf (c :: cs) || occursIn s cs

/-- Whether data have a text for an element; a text has its parts for elements. Octets hold no
texts, and neither do data without elements. -/
def holds (s : String) : Datum → Except Fault Bool
  | .text t => .ok (occursIn s.toList t.toList)
  | .octets _ => .error (.misuse .wrongType)
  | .foreign "set" => .ok false
  | d => do return (← d.elements).any fun e => Label.isText s e

/-- The text of data in messages: texts and moments as they are, all else as literals. -/
def plainText : Datum → Except Fault String
  | .text s => .ok s
  | .moment m => .ok m.display
  | .integer i => DatumKey.integerText i
  | .value v => .ok v.display
  | d => .ok d.literal

end Datum

end LayeredConfig
