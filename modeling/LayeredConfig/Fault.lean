import LayeredConfig.Text.Utf8
import LayeredConfig.Value.Datum

set_option autoImplicit false

/-!
# Faults

Everything that can go wrong, by cause. The wording of each cause is in `Fault.message`, and
nothing else in the library depends on it.

## Main definitions

* `PathError` — a text that is not a path, with the offending part and its place.
* `Mismatch` — a value that cannot be read in the requested shape.
* `Misuse` — data of the wrong shape where the library expected to be handed a right one.
* `Fault` — any of these, and what sources, stores and readers add.
* `Fault.isReported` — whether a fault is one that a caller is expected to report and go on.
-/

namespace LayeredConfig

/-- What is wrong with a text that is not a path. -/
inductive PathError.Reason where
  /-- Nothing was written. -/
  | emptyPath
  /-- A name has to stand here. -/
  | expectedKey
  /-- A bracket is not closed. -/
  | unbalancedBracket
  /-- Something other than digits stands in brackets. -/
  | invalidIndex
  /-- Neither a separator nor a bracket follows an index. -/
  | unexpectedCharacter
  /-- Nothing follows a separator. -/
  | trailingSeparator
deriving DecidableEq, Repr

/-- The wording of a reason. -/
def PathError.Reason.text : PathError.Reason → String
  | .emptyPath => "empty path"
  | .expectedKey => "expected a key"
  | .unbalancedBracket => "unbalanced bracket"
  | .invalidIndex => "invalid index"
  | .unexpectedCharacter => "unexpected character"
  | .trailingSeparator => "trailing separator"

/-- A text that is not a path. -/
structure PathError where
  /-- The text. -/
  text : String
  /-- The part of the text that is wrong. -/
  fragment : String
  /-- How many characters precede the fragment. -/
  offset : Nat
  /-- What is wrong with it. -/
  reason : PathError.Reason
deriving DecidableEq, Repr

/-- The wording of a path error. -/
def PathError.message (e : PathError) : String :=
  e.reason.text ++ ": " ++ Text.quoted e.fragment ++ " at offset " ++ toString e.offset ++ " in " ++
    Text.quoted e.text

/-- A value that cannot be read in the requested shape. -/
structure Mismatch where
  /-- Where the value came from. -/
  origin : Option String
  /-- What the value is. -/
  unexpected : String
  /-- What it should have been. -/
  expected : String
  /-- The key under which it was asked for, as the caller wrote it. -/
  key : Option String
deriving DecidableEq, Repr

/-- The wording of a mismatch. -/
def Mismatch.message (m : Mismatch) : String :=
  "invalid type: " ++ m.unexpected ++ ", expected " ++ m.expected ++
    (match m.key with | some k => " for key \x60" ++ k ++ "\x60" | none => "") ++
    (match m.origin with | some o => " in " ++ o | none => "")

/-- Data of the wrong shape where a right one was presupposed. -/
inductive Misuse where
  /-- The data do not support the operation. -/
  | noOperation
  /-- The data have a type that the operation does not take. -/
  | wrongType
  /-- There is nothing at the position. -/
  | noPosition
  /-- There is nothing at the key. -/
  | noKey
  /-- The text is not a regular expression. -/
  | badPattern
  /-- The text is not an address. -/
  | badAddress
  /-- A number is beyond all bounds. -/
  | tooLarge
  /-- The data are part of themselves. -/
  | endless
deriving DecidableEq, Repr

/-- What can go wrong. -/
inductive Fault where
  /-- A change of a store that is frozen. -/
  | frozen
  /-- A text that is not a path. -/
  | path (e : PathError)
  /-- A key of no octets, which is not a path either. -/
  | emptyOctets
  /-- Nothing is stored under the key. -/
  | absent (key : String)
  /-- A value cannot be read in the requested shape. -/
  | mismatch (m : Mismatch)
  /-- A source cannot contribute; it is named where it is known. -/
  | source (name : Option Label) (diagnostic : String)
  /-- An argument is not acceptable. -/
  | invalid (diagnostic : String)
  /-- A decimal text has too many digits to be read as an integer. -/
  | tooManyDigits (count : Nat)
  /-- An integer has too many digits to be written in decimal. -/
  | unwritableInteger
  /-- Octets are not UTF-8. -/
  | undecodable (e : Text.Utf8Error)
  /-- The surroundings of the program do not provide what is needed. -/
  | surroundings (diagnostic : String)
  /-- An integer does not fit in 64 bits. -/
  | wideInteger (i : Int)
  /-- Data of this type have no place in a configuration. -/
  | unsupported (typeName : String)
  /-- A store can only be built from a table. -/
  | notTable (description : String)
  /-- Data of the wrong shape. -/
  | misuse (m : Misuse)
  /-- A fault of another program that nobody here knows. -/
  | foreign (diagnostic : String)
deriving Repr

namespace Fault

/-- The wording of a fault. -/
def message : Fault → String
  | .frozen => "configuration is frozen"
  | .path e => e.message
  | .emptyOctets => "empty path: b'' at offset 0 in b''"
  | .absent key => "configuration property " ++ Text.quoted key ++ " not found"
  | .mismatch m => m.message
  | .source _ diagnostic => diagnostic
  | .invalid diagnostic => diagnostic
  | .tooManyDigits count =>
    "Exceeds the limit (4300 digits) for integer string conversion: value has " ++
      toString count ++ " digits; use sys.set_int_max_str_digits() to increase the limit"
  | .unwritableInteger =>
    "Exceeds the limit (4300 digits) for integer string conversion; " ++
      "use sys.set_int_max_str_digits() to increase the limit"
  | .undecodable e => e.message
  | .surroundings diagnostic => diagnostic
  | .wideInteger i => "integer " ++ toString i ++ " does not fit in 64 bits"
  | .unsupported typeName => "unsupported configuration value of type " ++ typeName
  | .notTable description => "expected a mapping, got " ++ description
  | .misuse .noOperation => "the data do not support the operation"
  | .misuse .wrongType => "the data have the wrong type"
  | .misuse .noPosition => "position out of range"
  | .misuse .noKey => "no such key"
  | .misuse .badPattern => "malformed regular expression"
  | .misuse .badAddress => "malformed address"
  | .misuse .tooLarge => "number out of range"
  | .misuse .endless => "the data are part of themselves"
  | .foreign diagnostic => diagnostic

/-- Whether the fault concerns the type of the data. -/
def isTypeFault : Fault → Bool
  | .wideInteger _ | .unsupported _ | .notTable _ | .misuse .wrongType => true
  | _ => false

/-- Whether a fault is an unacceptable argument. -/
def isInvalidArgument : Fault → Bool
  | .invalid _ | .tooManyDigits _ | .unwritableInteger | .undecodable _ => true
  | _ => false

/-- Whether a caller is expected to report the fault and go on: faults of the configuration
itself, unacceptable arguments, and faults of the surroundings. -/
def isReported : Fault → Bool
  | .wideInteger _ | .unsupported _ | .notTable _ | .misuse _ | .foreign _ => false
  | _ => true

/-- A result alone is a step that succeeds. -/
@[simp] theorem pure_eq_ok {ε α : Type} (a : α) : (pure a : Except ε α) = .ok a := rfl

/-- After a step that succeeds the next one is taken. -/
@[simp] theorem ok_bind {ε α β : Type} (a : α) (f : α → Except ε β) :
    Except.ok a >>= f = f a := rfl

/-- After a step that fails no other is taken. -/
@[simp] theorem error_bind {ε α β : Type} (e : ε) (f : α → Except ε β) :
    Except.error e >>= f = .error e := rfl

/-- A sequence of two steps succeeds iff both do. -/
theorem bind_eq_ok_iff {ε α β : Type} {x : Except ε α} {f : α → Except ε β} {b : β} :
    x >>= f = .ok b ↔ ∃ a, x = .ok a ∧ f a = .ok b := by
  cases x with
  | error e => simp
  | ok a => simp

/-- A sequence of two steps fails iff one of them does. -/
theorem bind_eq_error_iff {ε α β : Type} {x : Except ε α} {f : α → Except ε β} {e : ε} :
    x >>= f = .error e ↔ x = .error e ∨ ∃ a, x = .ok a ∧ f a = .error e := by
  cases x with
  | error e => simp
  | ok a => simp

/-- A step whose result is rewritten fails iff the step itself does. -/
theorem map_error_iff {ε α β : Type} {g : α → β} {x : Except ε α} {e : ε} :
    x.map g = .error e ↔ x = .error e := by
  cases x <;> simp [Except.map]

/-- A step whose result is rewritten succeeds iff the step itself does. -/
theorem map_ok_iff {ε α β : Type} {g : α → β} {x : Except ε α} {b : β} :
    x.map g = .ok b ↔ ∃ a, x = .ok a ∧ g a = b := by
  cases x <;> simp [Except.map]

/-- A step succeeds with a value iff there is this value when faults are left aside. -/
theorem toOption_eq_some_iff {ε α : Type} {x : Except ε α} {a : α} :
    x.toOption = some a ↔ x = .ok a := by
  cases x with
  | error e => simp [Except.toOption]
  | ok b => simp [Except.toOption]

end Fault

end LayeredConfig
