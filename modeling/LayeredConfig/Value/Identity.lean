import LayeredConfig.Value.Datum

set_option autoImplicit false

/-!
# Identity of values and of data

Whether two values, or two data from outside, are one and the same: nothing is left aside, neither
origins nor the order of entries nor the type of a number. So what a reader makes of a text can be
decided to be the data that are expected.

## Main definitions

* `Value.identical`, `Datum.identical` — the tests, which make equality decidable.
-/

namespace LayeredConfig

namespace Value

mutual

/-- Whether two values are one and the same. -/
def identical : Value → Value → Bool
  | .scalar o c, .scalar o' c' => decide (o = o') && decide (c = c')
  | .array o vs, .array o' ws => decide (o = o') && identicalItems vs ws
  | .table o es, .table o' fs => decide (o = o') && identicalEntries es fs
  | _, _ => false

/-- Whether two sequences of values are one and the same. -/
def identicalItems : List Value → List Value → Bool
  | [], [] => true
  | v :: vs, w :: ws => identical v w && identicalItems vs ws
  | _, _ => false

/-- Whether two tables have the same entries in the same order. -/
def identicalEntries : List (String × Value) → List (String × Value) → Bool
  | [], [] => true
  | (k, v) :: es, (k', w) :: fs => decide (k = k') && identical v w && identicalEntries es fs
  | _, _ => false

end

mutual

/-- The test finds exactly equal values the same. -/
theorem identical_iff {u v : Value} : u.identical v = true ↔ u = v := by
  match u with
  | .scalar o c => cases v <;> simp [identical]
  | .array o vs => cases v <;> simp [identical, identicalItems_iff]
  | .table o es => cases v <;> simp [identical, identicalEntries_iff]

/-- The test finds exactly equal sequences the same. -/
theorem identicalItems_iff {vs ws : List Value} : identicalItems vs ws = true ↔ vs = ws := by
  match vs with
  | [] => cases ws <;> simp [identicalItems]
  | v :: vs => cases ws <;> simp [identicalItems, identical_iff, identicalItems_iff]

/-- The test finds exactly equal tables the same. -/
theorem identicalEntries_iff {es fs : List (String × Value)} :
    identicalEntries es fs = true ↔ es = fs := by
  match es with
  | [] => cases fs <;> simp [identicalEntries]
  | (k, v) :: es =>
    cases fs <;> simp [identicalEntries, identical_iff, identicalEntries_iff, Prod.ext_iff]

end

instance : DecidableEq Value := fun _ _ => decidable_of_iff _ identical_iff

end Value

namespace Datum

mutual

/-- Whether two data are one and the same. -/
def identical : Datum → Datum → Bool
  | .nil, .nil => true
  | .boolean a, .boolean b => decide (a = b)
  | .integer a, .integer b => decide (a = b)
  | .float a, .float b => decide (a = b)
  | .text a, .text b => decide (a = b)
  | .sequence as, .sequence bs => identicalItems as bs
  | .tuple as, .tuple bs => identicalItems as bs
  | .mapping es, .mapping fs => identicalEntries es fs
  | .value u, .value v => decide (u = v)
  | .moment a, .moment b => decide (a = b)
  | .octets a, .octets b => decide (a = b)
  | .set a, .set b => decide (a = b)
  | .foreign a, .foreign b => decide (a = b)
  | _, _ => false

/-- Whether two sequences of data are one and the same. -/
def identicalItems : List Datum → List Datum → Bool
  | [], [] => true
  | a :: as, b :: bs => identical a b && identicalItems as bs
  | _, _ => false

/-- Whether two tables of data have the same entries in the same order. -/
def identicalEntries : List (DatumKey × Datum) → List (DatumKey × Datum) → Bool
  | [], [] => true
  | (k, a) :: es, (k', b) :: fs => decide (k = k') && identical a b && identicalEntries es fs
  | _, _ => false

end

mutual

/-- The test finds exactly equal data the same. -/
theorem identical_iff {a b : Datum} : a.identical b = true ↔ a = b := by
  match a with
  | .sequence as | .tuple as => cases b <;> simp [identical, identicalItems_iff]
  | .mapping es => cases b <;> simp [identical, identicalEntries_iff]
  | .nil | .boolean _ | .integer _ | .float _ | .text _ | .value _ | .moment _ | .octets _
  | .set _ | .foreign _ => cases b <;> simp [identical]

/-- The test finds exactly equal sequences the same. -/
theorem identicalItems_iff {as bs : List Datum} : identicalItems as bs = true ↔ as = bs := by
  match as with
  | [] => cases bs <;> simp [identicalItems]
  | a :: as => cases bs <;> simp [identicalItems, identical_iff, identicalItems_iff]

/-- The test finds exactly equal tables the same. -/
theorem identicalEntries_iff {es fs : List (DatumKey × Datum)} :
    identicalEntries es fs = true ↔ es = fs := by
  match es with
  | [] => cases fs <;> simp [identicalEntries]
  | (k, a) :: es =>
    cases fs <;> simp [identicalEntries, identical_iff, identicalEntries_iff, Prod.ext_iff]

end

instance : DecidableEq Datum := fun _ _ => decidable_of_iff _ identical_iff

end Datum

end LayeredConfig
