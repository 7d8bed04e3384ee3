import LayeredConfig.Format.Toml.Basic

set_option autoImplicit false

/-!
# Tables under construction

The statements of a document fill nested tables. Which tables a later statement may still open is
kept beside them: a table is declared once, inline tables and arrays are closed for good, and tables
that dotted keys have opened count as declared from the next header on.

## Main definitions

* `Toml.within` — changes the table behind a key.
* `Toml.Tables` — the tables, and what may still be changed.
-/

namespace LayeredConfig.Format.Toml

/-- The entries of a table. -/
abbrev Fields := List (DatumKey × Datum)

/-- Changes the table behind a key, which is made where it is missing. Where `intoArrays` is set, an
array of tables stands for its last one. Nothing is changed where something else is in the way. -/
def within (intoArrays : Bool) (change : Fields → Option Fields) : Key → Fields → Option Fields
  | [], es => change es
  | k :: ks, es =>
    match Datum.getEntry? (.text k) es with
    | none => (within intoArrays change ks []).map fun t => Datum.putEntry (.text k) (.mapping t) es
    | some (.mapping t) =>
      (within intoArrays change ks t).map fun t => Datum.putEntry (.text k) (.mapping t) es
    | some (.sequence items) =>
      match intoArrays, items.getLast? with
      | true, some (.mapping t) =>
        (within intoArrays change ks t).map fun t =>
          Datum.putEntry (.text k) (.sequence (items.dropLast ++ [.mapping t])) es
      | _, _ => none
    | some _ => none

/-- Sets a name that is not there yet. -/
def addField (name : String) (d : Datum) (es : Fields) : Option Fields :=
  match Datum.getEntry? (.text name) es with
  | some _ => none
  | none => some (Datum.putEntry (.text name) d es)

/-- Adds an empty table to an array of tables, which is made where it is missing. -/
def addTable (name : String) (es : Fields) : Option Fields :=
  match Datum.getEntry? (.text name) es with
  | none => some (Datum.putEntry (.text name) (.sequence [.mapping []]) es)
  | some (.sequence items) =>
    some (Datum.putEntry (.text name) (.sequence (items ++ [.mapping []])) es)
  | some _ => none

/-- The tables of a document, and what may still be changed. -/
structure Tables where
  /-- The entries of the outermost table. -/
  root : Fields
  /-- The keys of tables that no header may declare. -/
  declared : List Key
  /-- The keys below which nothing may be changed. -/
  closed : List Key
  /-- The keys of tables that count as declared from the next header on. -/
  pending : List Key
  /-- The key of the table that statements fill at present. -/
  header : Key

namespace Tables

/-- No tables. -/
def empty : Tables := ⟨[], [], [], [], []⟩

/-- Whether a key lies at or below one that is closed. -/
def isClosed (t : Tables) (key : Key) : Bool :=
  t.closed.any (·.isPrefixOf key)

/-- The tables that dotted keys have opened count as declared. -/
def settle (t : Tables) : Tables :=
  { t with declared := t.declared ++ t.pending, pending := [] }

/-- Declares a table. -/
def declare (key : Key) (t : Tables) : Except Reason Tables :=
  if t.declared.contains key || t.isClosed key then .error (.declaredTwice key)
  else
    match within true some key t.root with
    | some root => .ok { t with root := root, declared := key :: t.declared, header := key }
    | none => .error .overwritten

/-- Adds a table to an array of tables. What was declared below the array counted for the table
before. -/
def append (key : Key) (t : Tables) : Except Reason Tables :=
  if t.isClosed key then .error (.immutable key)
  else
    let free (keys : List Key) : List Key := keys.filter (!key.isPrefixOf ·)
    match within true (addTable (key.getLast?.getD "")) key.dropLast t.root with
    | some root =>
      .ok { t with
        root := root, declared := key :: free t.declared, closed := free t.closed, header := key }
    | none => .error .overwritten

/-- The keys of the tables that a dotted key opens below the present one. -/
def opened (t : Tables) (key : Key) : List Key :=
  (List.range (key.length - 1)).map fun i => t.header ++ key.take (i + 1)

/-- Sets a key in the present table. -/
def put (key : Key) (d : Datum) (t : Tables) : Except Reason Tables :=
  let holder := t.header ++ key.dropLast
  match (t.opened key).find? t.declared.contains with
  | some k => .error (.redefined k)
  | none =>
    if t.isClosed holder then .error (.immutable holder)
    else
      match within true (addField (key.getLast?.getD "") d) holder t.root with
      | none => .error .overwritten
      | some root =>
        let closed := match d with
          | .mapping _ | .sequence _ => (t.header ++ key) :: t.closed
          | _ => t.closed
        .ok { t with root := root, closed := closed, pending := t.pending ++ t.opened key }

end Tables

/-- Sets a key in an inline table, given the keys of it that are closed. -/
def putInline (closed : List Key) (key : Key) (d : Datum) (es : Fields) : Except Reason Fields :=
  let name := key.getLast?.getD ""
  if closed.any (·.isPrefixOf key) then .error (.immutable key)
  else
    match within false some key.dropLast es with
    | none => .error .overwritten
    | some _ =>
      match within false (addField name d) key.dropLast es with
      | none => .error (.repeatedKey name)
      | some es => .ok es

end LayeredConfig.Format.Toml
