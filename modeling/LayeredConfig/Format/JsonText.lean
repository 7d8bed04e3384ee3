import LayeredConfig.Value.Build

set_option autoImplicit false

/-!
# Writing JSON

Data as JSON in ASCII, on one line or with one item on each line.

## Main definitions

* `Json.Layout` — on one line, or indented.
* `Json.write` — the text of data.
* `Datum.sorted` — data with all tables sorted by key.
-/

namespace LayeredConfig.Format.Json

/-- How the items of arrays and objects are separated. -/
inductive Layout where
  /-- All on one line. -/
  | compact
  /-- Each on a line of its own, indented by so many blanks more than what it belongs to. -/
  | indented (width : Nat)

/-- A UTF-16 unit as an escape. -/
def escapeUnit (n : Nat) : List Char :=
  '\\' :: 'u' :: Text.hexDigits n 4

/-- How a character is written in a text. -/
def escapeChar (c : Char) : List Char :=
  if c = '"' then ['\\', '"']
  else if c = '\\' then ['\\', '\\']
  else if c = '\n' then ['\\', 'n']
  else if c = '\r' then ['\\', 'r']
  else if c = '\t' then ['\\', 't']
  else if c = '\x0c' then ['\\', 'f']
  else if c = '\x08' then ['\\', 'b']
  else if 0x20 ≤ c.toNat ∧ c.toNat < 0x7F then [c]
  else if c.toNat < 0x10000 then escapeUnit c.toNat
  else
    let n := c.toNat - 0x10000
    escapeUnit (0xD800 + n / 0x400) ++ escapeUnit (0xDC00 + n % 0x400)

/-- A text in double quotes. -/
def quote (s : String) : String :=
  String.ofList ('"' :: s.toList.flatMap escapeChar ++ ['"'])

/-- The text of a floating-point number. -/
def floatWord (x : Float) : String :=
  match Number.Binary64.ofFloat x with
  | .nan => "NaN"
  | .infinite negative => if negative then "-Infinity" else "Infinity"
  | .finite .. => Number.floatText x

/-- Items between brackets, at a depth. -/
def enclose (layout : Layout) (depth : Nat) (opening closing : String) (items : List String) :
    String :=
  if items.isEmpty then opening ++ closing
  else
    match layout with
    | .compact => opening ++ ", ".intercalate items ++ closing
    | .indented width =>
      let line (n : Nat) : String := "\n" ++ String.ofList (List.replicate (width * n) ' ')
      opening ++ line (depth + 1) ++ ("," ++ line (depth + 1)).intercalate items ++ line depth ++
        closing

/-- The text of a key. -/
def keyText : DatumKey → String
  | .nil => "null"
  | .boolean b => if b then "true" else "false"
  | .integer i => toString i
  | .float x => floatWord x
  | .text s => s
  | .moment m => m.display
  | .octets bytes => DatumKey.octetsLiteral bytes

mutual

/-- The text of data at a depth. Data without a counterpart in JSON are written as nothing. -/
def writeAt (layout : Layout) (depth : Nat) : Datum → String
  | .boolean b => if b then "true" else "false"
  | .integer i => toString i
  | .float x => floatWord x
  | .text s => quote s
  | .sequence items => enclose layout depth "[" "]" (writeItems layout (depth + 1) items)
  | .tuple items => enclose layout depth "[" "]" (writeItems layout (depth + 1) items)
  | .mapping entries =>
    enclose layout depth "\x7b" "\x7d" (writeEntries layout (depth + 1) entries)
  | _ => "null"

/-- The texts of the items of an array. -/
def writeItems (layout : Layout) (depth : Nat) : List Datum → List String
  | [] => []
  | d :: ds => writeAt layout depth d :: writeItems layout depth ds

/-- The texts of the entries of an object. -/
def writeEntries (layout : Layout) (depth : Nat) : List (DatumKey × Datum) → List String
  | [] => []
  | (k, d) :: es =>
    (quote (keyText k) ++ ": " ++ writeAt layout depth d) :: writeEntries layout depth es

end

/-- The text of data. -/
def write (layout : Layout) (d : Datum) : String :=
  writeAt layout 0 d

/-- Whether a key may stand before another one: keys are compared by code points. -/
def entryLe (a b : DatumKey × Datum) : Bool :=
  !decide (keyText b.1 < keyText a.1)

mutual

/-- Data with all tables sorted by key. -/
def sorted : Datum → Datum
  | .sequence items => .sequence (sortedItems items)
  | .mapping entries => .mapping ((sortedEntries entries).mergeSort entryLe)
  | d => d

/-- The items of a sequence, with all tables sorted. -/
def sortedItems : List Datum → List Datum
  | [] => []
  | d :: ds => sorted d :: sortedItems ds

/-- The entries of a table, with all tables in them sorted. -/
def sortedEntries : List (DatumKey × Datum) → List (DatumKey × Datum)
  | [] => []
  | (k, d) :: es => (k, sorted d) :: sortedEntries es

end

end LayeredConfig.Format.Json
