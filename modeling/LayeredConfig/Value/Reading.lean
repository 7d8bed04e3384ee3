import LayeredConfig.Text.Case
import LayeredConfig.Text.Character
import LayeredConfig.Value.Render

set_option autoImplicit false

/-!
# Readings

A value can be read in other shapes than its own where nothing, or only precision, is lost: words
for truth values, texts that write numbers, numbers that round to integers.

## Main definitions

* `Value.toBool`, `Value.toInteger`, `Value.toFloat`, `Value.toText`, `Value.toArray` — the
  readings.
* `truthWord?` — the words for truth values.
* `Fault.withKey` — names the key under which a value was asked for.
-/

namespace LayeredConfig

/-- The truth value that a lower-case word stands for: `true`, `on`, `yes` and `false`, `off`,
`no`. -/
def truthWord? (word : String) : Option Bool :=
  if word = "true" ∨ word = "on" ∨ word = "yes" then some true
  else if word = "false" ∨ word = "off" ∨ word = "no" then some false
  else none

/-- Names the key under which a value was asked for. -/
def Fault.withKey (key : String) : Fault → Fault
  | .mismatch m => .mismatch { m with key := some key }
  | e => e

namespace Value

/-- The value is not what was expected. -/
def fail {α : Type} (v : Value) (expected : String) : Except Fault α :=
  .error (.mismatch ⟨v.origin, v.describe, expected, none⟩)

/-- Reads a truth value: numbers other than zero are true, and so are the texts that are a word
for it or the digit one. -/
def toBool (v : Value) : Except Fault Bool :=
  match v with
  | .scalar _ (.boolean b) => .ok b
  | .scalar _ (.integer i) => .ok (i != 0)
  | .scalar _ (.float x) => .ok (!Number.isZero x)
  | .scalar _ (.text s) =>
    let word := Text.lower s
    match truthWord? word with
    | some b => .ok b
    | none => if word = "1" then .ok true else if word = "0" then .ok false else v.fail "a boolean"
  | _ => v.fail "a boolean"

/-- Reads an integer: a number is rounded, a text is a word for a truth value or writes an integer
in decimal. The result fits in 64 bits. -/
def toInteger (v : Value) : Except Fault Int :=
  match v with
  | .scalar _ (.integer i) => .ok i
  | .scalar _ (.boolean b) => .ok (if b then 1 else 0)
  | .scalar _ (.float x) =>
    match Number.roundToInteger? x with
    | some i => if fitsInteger i then .ok i else v.fail "an integer"
    | none => v.fail "an integer"
  | .scalar _ (.text s) =>
    match truthWord? (Text.lower s) with
    | some b => .ok (if b then 1 else 0)
    | none =>
      match Number.integerLiteral? s.toList with
      | some (negative, ds) =>
        if Number.digitLimit < ds.length then .error (.tooManyDigits ds.length)
        else
          let i := Number.signedValue negative ds
          if fitsInteger i then .ok i else v.fail "an integer"
      | none => v.fail "an integer"
  | _ => v.fail "an integer"

/-- Reads a floating-point number: an integer is rounded to the nearest one, a text is a word for
a truth value or a floating-point literal. -/
def toFloat (v : Value) : Except Fault Float :=
  match v with
  | .scalar _ (.float x) => .ok x
  | .scalar _ (.integer i) => .ok (Number.ofInteger i)
  | .scalar _ (.boolean b) => .ok (Number.ofInteger (if b then 1 else 0))
  | .scalar _ (.text s) =>
    match truthWord? (Text.lower s) with
    | some b => .ok (Number.ofInteger (if b then 1 else 0))
    | none =>
      if s = Text.trim s then
        match Number.readFloat? s with
        | some x => .ok x
        | none => v.fail "a floating point"
      else v.fail "a floating point"
  | _ => v.fail "a floating point"

/-- Reads a text: truth values and numbers are written as for display. -/
def toText (v : Value) : Except Fault String :=
  match v with
  | .scalar _ .nil => v.fail "a string"
  | .scalar _ s => .ok s.display
  | _ => v.fail "a string"

/-- Reads an array. -/
def toArray (v : Value) : Except Fault (List Value) :=
  match v with
  | .array _ items => .ok items
  | _ => v.fail "an array"

end Value

end LayeredConfig
