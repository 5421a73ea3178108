import RockDuck.StorageErrors
import RockDuck.ThreeValuedLogic

/-!
# Filter expressions

A filter is a tree of column comparisons.
-/

namespace RockDuck

/-- The comparisons of a filter. -/
inductive CompareOp where
  | eq
  | ne
  | lt
  | le
  | gt
  | ge
  deriving DecidableEq

def CompareOp.debug : CompareOp → String
  | eq => "Eq"
  | ne => "Ne"
  | lt => "Lt"
  | le => "Le"
  | gt => "Gt"
  | ge => "Ge"

/-- A constant of a filter. -/
inductive ScalarVal (Float64 : Type*) where
  | null
  | bool (value : Bool)
  | int64 (value : Int)
  | float64 (value : Float64)
  | string (value : String)

/-- A filter expression. -/
inductive Expr (Float64 : Type*) where
  | comparison (col : String) (op : CompareOp) (val : ScalarVal Float64)
  | and (left right : Expr Float64)
  | or (left right : Expr Float64)
  | not (inner : Expr Float64)

/-- The comparison kernels on some type of columns.  A comparison with a
scalar may fail, with the text of the error; a null test does not. -/
structure ArrowKernels (Column Float64 : Type*) where
  numRows : Column → Nat
  dataTypeDebug : Column → String
  compare : CompareOp → Column → ScalarVal Float64 →
    Except String (List (Option Bool))
  isNull : Column → List (Option Bool)
  isNotNull : Column → List (Option Bool)
  compare_length : ∀ {op column scalar mask},
    compare op column scalar = .ok mask → mask.length = numRows column
  isNull_length : ∀ column, (isNull column).length = numRows column
  isNotNull_length : ∀ column, (isNotNull column).length = numRows column

variable {Column Float64 : Type*}

/-- A record batch, by the names of its columns. -/
structure FilterBatch (kernels : ArrowKernels Column Float64) where
  numRows : Nat
  columns : List (String × Column)
  aligned : ∀ column ∈ columns, kernels.numRows column.2 = numRows

namespace FilterBatch

variable {kernels : ArrowKernels Column Float64}

def columnByName (batch : FilterBatch kernels) (name : String) : Option Column :=
  (batch.columns.find? fun column => decide (column.1 = name)).map Prod.snd

lemma numRows_of_columnByName {batch : FilterBatch kernels} {name col}
    (found : batch.columnByName name = some col) : kernels.numRows col = batch.numRows := by
  obtain ⟨entry, first, rfl⟩ := Option.map_eq_some_iff.mp found
  exact batch.aligned entry (List.mem_of_find?_eq_some first)

end FilterBatch

section Evaluate

variable {kernels : ArrowKernels Column Float64}

/-- Compare a column with a constant. -/
def compareWithScalar (kernels : ArrowKernels Column Float64) (op : CompareOp) (column : Column)
    (val : ScalarVal Float64) : Except RockDuckError (List (Option Bool)) :=
  (kernels.compare op column val).mapError fun error =>
    .internal s!"Arrow error: {error}"

/-- Booleans can only be compared for equality, and so can nulls. -/
def unsupportedComparison (op : CompareOp) (valDebug dataTypeDebug : String) : RockDuckError :=
  let opDebug := op.debug
  .query s!"Unsupported comparison: {opDebug} {valDebug} for column type {dataTypeDebug}"

/-- Compare the column of a name with a constant. -/
def evaluateComparison (col : String) (op : CompareOp) (val : ScalarVal Float64)
    (batch : FilterBatch kernels) : Except RockDuckError (List (Option Bool)) :=
  match batch.columnByName col with
  | none => .error (.query s!"Column '{col}' not found")
  | some column =>
    match op, val with
    | op, .int64 value => compareWithScalar kernels op column (.int64 value)
    | op, .float64 value => compareWithScalar kernels op column (.float64 value)
    | op, .string value => compareWithScalar kernels op column (.string value)
    | .eq, .bool value => compareWithScalar kernels .eq column (.bool value)
    | .ne, .bool value => compareWithScalar kernels .ne column (.bool value)
    | .eq, .null => .ok (kernels.isNull column)
    | .ne, .null => .ok (kernels.isNotNull column)
    | op, .bool value =>
      .error (unsupportedComparison op s!"Bool({value})"
        (kernels.dataTypeDebug column))
    | op, .null =>
      .error (unsupportedComparison op "Null"
        (kernels.dataTypeDebug column))

/-- Evaluate a filter.  A conjunction takes the second of two known values,
and a disjunction the first known value. -/
def evaluate : Expr Float64 → FilterBatch kernels → Except RockDuckError (List (Option Bool))
  | .comparison col op val, batch => evaluateComparison col op val batch
  | .and left right, batch => do
      let left ← evaluate left batch
      let right ← evaluate right batch
      return List.zipWith (fun l r => l.bind fun _ => r) left right
  | .or left right, batch => do
      let left ← evaluate left batch
      let right ← evaluate right batch
      return List.zipWith Option.or left right
  | .not inner, batch => do
      let inner ← evaluate inner batch
      return inner.map fun value => value.map fun known => !known

lemma evaluateComparison_length {col : String} {op : CompareOp}
    {val : ScalarVal Float64} {batch : FilterBatch kernels} {mask : List (Option Bool)}
    (evaluates : evaluateComparison col op val batch = .ok mask) : mask.length = batch.numRows := by
  unfold evaluateComparison at evaluates
  split at evaluates
  · simp at evaluates
  · rename_i column found
    rw [← FilterBatch.numRows_of_columnByName found]
    have cmp : ∀ {op : CompareOp} {val : ScalarVal Float64},
        compareWithScalar kernels op column val = .ok mask →
          mask.length = kernels.numRows column := by
      intro op val ran
      unfold compareWithScalar at ran
      cases res : kernels.compare op column val with
      | error error => simp [res, Except.mapError] at ran
      | ok vals =>
        simp only [res, Except.mapError, Except.ok.injEq] at ran
        subst ran
        exact kernels.compare_length res
    split at evaluates
    all_goals first
      | exact cmp evaluates
      | (cases evaluates; exact kernels.isNull_length column)
      | (cases evaluates; exact kernels.isNotNull_length column)
      | simp at evaluates

end Evaluate

end RockDuck
