import LayeredConfig.Format.Toml.Literal
import LayeredConfig.Format.Toml.Tables

set_option autoImplicit false

/-!
# Documents of TOML

A document is a sequence of statements, one to a line: a header opens a table, a key with a value
fills it.

## Main definitions

* `Toml.readValue` — a value.
* `Toml.read` — the table that a document stands for.
-/

namespace LayeredConfig.Format.Toml

/-- Skips white space, ends of lines and comments. The argument bounds the number of comments. -/
def skipSpace : (fuel : Nat) → Read Unit
  | 0 => return
  | fuel + 1 => do
    modify (·.skip isSpace)
    if (← next) = some '#' then
      skipComment
      skipSpace fuel

/-- Skips white space, ends of lines and comments. -/
def skipAll : Read Unit := do
  skipSpace ((← get).rest.length + 1)

/-- Fails at the place that is reached, or answers. -/
def accept {α : Type} (r : Except Reason α) : Read α :=
  match r with
  | .ok a => return a
  | .error reason => refuse reason

/-- Reads a value without parts. -/
def readScalar : Read Datum := do
  let c ← get
  if let some s ← readText then return .text s
  if c.startsWith "true" then
    step 4
    return .boolean true
  if c.startsWith "false" then
    step 5
    return .boolean false
  if let some d ← readMoment then return d
  if let some d ← readNumber then return d
  refuse .badValue

/-- Whether data are an inline table or an array. -/
def isContainer : Datum → Bool
  | .mapping _ | .sequence _ => true
  | _ => false

mutual

/-- Reads a value. The argument bounds the number of values. -/
def readValue : (fuel : Nat) → Read Datum
  | 0 => refuse .badValue
  | fuel + 1 => do
    match ← next with
    | some '[' =>
      step 1
      skipAll
      if (← next) = some ']' then
        step 1
        return .sequence []
      return .sequence (← readItems fuel)
    | some '\x7b' =>
      step 1
      skipBlanks
      if (← next) = some '\x7d' then
        step 1
        return .mapping []
      return .mapping (← readFields fuel [] [])
    | _ => readScalar

/-- Reads the items of an array and the closing bracket. -/
def readItems : (fuel : Nat) → Read (List Datum)
  | 0 => refuse .openArray
  | fuel + 1 => do
    let d ← readValue fuel
    skipAll
    match ← next with
    | some ']' =>
      step 1
      return [d]
    | some ',' =>
      step 1
      skipAll
      if (← next) = some ']' then
        step 1
        return [d]
      return d :: (← readItems fuel)
    | _ => refuse .openArray

/-- Reads the entries of an inline table and the closing brace; `done` are those read before, and
`closed` the keys below which nothing may be added. -/
def readFields : (fuel : Nat) → Fields → List Key → Read Fields
  | 0, _, _ => refuse .openTable
  | fuel + 1, done, closed => do
    let key ← readKey
    if (← next) ≠ some '=' then refuse .expectedEquals
    step 1
    skipBlanks
    let d ← readValue fuel
    let es ← accept (putInline closed key d done)
    skipBlanks
    match ← next with
    | some '\x7d' =>
      step 1
      return es
    | some ',' =>
      step 1
      skipBlanks
      readFields fuel es (if isContainer d then key :: closed else closed)
    | _ => refuse .openTable

end

/-- Reads a key with its value. -/
def readSetting (fuel : Nat) (t : Tables) : Read Tables := do
  let key ← readKey
  if (← next) ≠ some '=' then refuse .expectedEquals
  step 1
  skipBlanks
  let d ← readValue fuel
  accept (t.put key d)

/-- Reads a header. -/
def readHeader (t : Tables) : Read Tables := do
  let isArray := (← get).startsWith "[["
  step (if isArray then 2 else 1)
  skipBlanks
  let key ← readKey
  let t := t.settle
  let t ← accept (if isArray then t.append key else t.declare key)
  let closing := if isArray then "]]" else "]"
  if !(← get).startsWith closing then refuse (if isArray then .openArrayHeader else .openHeader)
  step closing.length
  return t

/-- Reads the statements of a document. The argument bounds their number and the number of values in
each of them. -/
def readStatements : (fuel : Nat) → Tables → Read Tables
  | 0, _ => refuse .badStatement
  | fuel + 1, t => do
    skipBlanks
    match ← next with
    | none => return t
    | some '\n' =>
      step 1
      readStatements fuel t
    | some c =>
      let t ←
        if isBare c || c = '"' || c = '\'' then readSetting fuel t
        else if c = '[' then readHeader t
        else if c = '#' then pure t
        else refuse .badStatement
      skipBlanks
      skipComment
      match ← next with
      | none => return t
      | some '\n' =>
        step 1
        readStatements fuel t
      | some _ => refuse .trailing

/-- A text with the end of every line written as a single line feed; carriage returns alone stay. -/
def unixLines : List Char → List Char
  | [] => []
  | '\r' :: '\n' :: rest => '\n' :: unixLines rest
  | c :: rest => c :: unixLines rest

/-- The table that a document stands for. -/
def read (text : String) : Except Error Datum :=
  let cs := unixLines text.toList
  ((readStatements (2 * cs.length + 2) .empty).run ⟨cs, 0⟩).map fun (t, _) => .mapping t.root

/-- The wording of a fault in a document. -/
def describe (text : String) (reason : Reason) (pos : Nat) : String :=
  located (unixLines text.toList) reason pos

end LayeredConfig.Format.Toml
