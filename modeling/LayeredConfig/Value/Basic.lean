import LayeredConfig.Entries
import LayeredConfig.Number.Binary64

set_option autoImplicit false

/-!
# Values

A configuration value is a scalar, an array of values or a table of values. Every node remembers
where it was read from.

## Main definitions

* `Scalar`, `Value` — the values.
* `Value.origin` — where a node was read from.
* `Value.same`, `Scalar.same` — equality of content: origins do not count, nor does the order of
  the entries of a table.
* `Value.WellFormed` — no table has a key twice, and integers fit in 64 bits.

## Main results

* `Value.induction` — induction over values, with all parts of an array or a table at once.
-/

namespace LayeredConfig

/-- A value without parts. -/
inductive Scalar where
  /-- The absence of a value. -/
  | nil
  /-- A truth value. -/
  | boolean (b : Bool)
  /-- A 64-bit integer. -/
  | integer (i : Int)
  /-- A floating-point number. -/
  | float (x : Float)
  /-- A text. -/
  | text (s : String)
deriving DecidableEq, Repr

/-- A configuration value. Each node carries a description of where it was read from. -/
inductive Value where
  /-- A value without parts. -/
  | scalar (origin : Option String) (content : Scalar)
  /-- A sequence of values. -/
  | array (origin : Option String) (items : List Value)
  /-- Named values, in order of insertion. -/
  | table (origin : Option String) (entries : List (String × Value))
deriving Repr

/-- The least integer of 64 bits, `-2 ^ 63`. -/
def minInteger : Int := -9223372036854775808

/-- The greatest integer of 64 bits, `2 ^ 63 - 1`. -/
def maxInteger : Int := 9223372036854775807

/-- Whether an integer fits in 64 bits. -/
def fitsInteger (i : Int) : Bool :=
  minInteger ≤ i && i ≤ maxInteger

/-- Equality of scalars: the same kind, and the same content. -/
def Scalar.same : Scalar → Scalar → Bool
  | .nil, .nil => true
  | .boolean a, .boolean b => a == b
  | .integer a, .integer b => a == b
  | .float a, .float b => Number.sameNumber a b
  | .text a, .text b => a == b
  | _, _ => false

namespace Value

instance : Inhabited Value := ⟨.scalar none .nil⟩

/-- The absence of a value, of no origin. -/
def nil : Value := .scalar none .nil

/-- A table without entries, of no origin. -/
def emptyTable : Value := .table none []

/-- Where the node was read from. -/
def origin : Value → Option String
  | .scalar o _ => o
  | .array o _ => o
  | .table o _ => o

/-- The same node with another origin; its parts keep theirs. -/
def withOrigin (o : Option String) : Value → Value
  | .scalar _ s => .scalar o s
  | .array _ items => .array o items
  | .table _ entries => .table o entries

/-- Whether the value is the absence of one. -/
def isNil : Value → Bool
  | .scalar _ .nil => true
  | _ => false

mutual

/-- Equality of content. -/
def same : Value → Value → Bool
  | .scalar _ a, .scalar _ b => a.same b
  | .array _ xs, .array _ ys => sameItems xs ys
  | .table _ es, .table _ fs => es.length == fs.length && sameEntries es fs
  | _, _ => false

/-- Equality of two sequences, place by place. -/
def sameItems : List Value → List Value → Bool
  | [], [] => true
  | x :: xs, y :: ys => same x y && sameItems xs ys
  | _, _ => false

/-- Whether every entry of the first table has an equal one in the second. -/
def sameEntries : List (String × Value) → List (String × Value) → Bool
  | [], _ => true
  | (k, v) :: es, fs =>
    (match Entries.get? k fs with
      | some w => same v w
      | none => false) && sameEntries es fs

end

mutual

/-- No table has a key twice, and every integer fits in 64 bits. -/
def WellFormed : Value → Prop
  | .scalar _ (.integer i) => fitsInteger i = true
  | .scalar _ _ => True
  | .array _ items => WellFormedItems items
  | .table _ entries => (entries.map Prod.fst).Nodup ∧ WellFormedEntries entries

/-- Every item is well-formed. -/
def WellFormedItems : List Value → Prop
  | [] => True
  | v :: vs => WellFormed v ∧ WellFormedItems vs

/-- The value of every entry is well-formed. -/
def WellFormedEntries : List (String × Value) → Prop
  | [] => True
  | (_, v) :: es => WellFormed v ∧ WellFormedEntries es

end

/-- Induction over values: what holds of an array or a table if it holds of all its parts, and of
every scalar, holds of every value. -/
@[elab_as_elim]
theorem induction {P : Value → Prop} (scalar : ∀ o s, P (.scalar o s))
    (array : ∀ o vs, (∀ v ∈ vs, P v) → P (.array o vs))
    (table : ∀ o (es : List (String × Value)), (∀ e ∈ es, P e.2) → P (.table o es)) :
    ∀ v, P v
  | .scalar o s => scalar o s
  | .array o vs => array o vs fun v _ => induction scalar array table v
  | .table o es => table o es fun e _ => induction scalar array table e.2
termination_by v => sizeOf v
decreasing_by
  · have := List.sizeOf_lt_of_mem ‹v ∈ vs›
    simp only [Value.array.sizeOf_spec]
    omega
  · have := List.sizeOf_lt_of_mem ‹e ∈ es›
    obtain ⟨k, v⟩ := e
    simp only [Value.table.sizeOf_spec, Prod.mk.sizeOf_spec] at this ⊢
    omega

end Value

end LayeredConfig
