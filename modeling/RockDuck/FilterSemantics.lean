import RockDuck.FilterExpr

/-!
# Filters and three-valued logic

The three-valued meaning of a filter on a row, and the operands on which the
evaluation departs from it.
-/

namespace RockDuck

open List

variable {Column Float64 : Type*} {kernels : ArrowKernels Column Float64}

/-- The column is in the batch and can be compared with the constant. -/
def Comparable (batch : FilterBatch kernels) (col : String) (op : CompareOp)
    (val : ScalarVal Float64) : Prop :=
  ∃ column, batch.columnByName col = some column ∧
    match val with
    | .null => op = .eq ∨ op = .ne
    | .bool value => (op = .eq ∨ op = .ne) ∧
        ∃ mask, kernels.compare op column (.bool value) = .ok mask
    | val => ∃ mask, kernels.compare op column val = .ok mask

variable {val : ScalarVal Float64}

lemma compareWithScalar_ok_iff {op col} :
    (∃ mask, compareWithScalar kernels op col val = .ok mask) ↔
      ∃ mask, kernels.compare op col val = .ok mask := by
  unfold compareWithScalar
  cases kernels.compare op col val with
  | error error | ok mask => simp [Except.mapError]

lemma evaluateComparison_ok_iff {batch : FilterBatch kernels} {col : String} {op : CompareOp} :
    (∃ mask, evaluateComparison col op val batch = .ok mask) ↔ Comparable batch col op val := by
  unfold evaluateComparison Comparable
  cases batch.columnByName col with
  | none => simp
  | some column =>
    simp only [Option.some.injEq, exists_eq_left']
    cases val with
    | null => cases op <;> simp
    | bool value => cases op <;> simp [compareWithScalar_ok_iff]
    | int64 value | float64 value | string value => exact compareWithScalar_ok_iff

namespace Expr

/-- The filter and all its parts. -/
def subexpressions : Expr Float64 → List (Expr Float64)
  | comparison col op val => [comparison col op val]
  | and left right => and left right :: (left.subexpressions ++ right.subexpressions)
  | or left right => or left right :: (left.subexpressions ++ right.subexpressions)
  | not inner => not inner :: inner.subexpressions

lemma self_mem_subexpressions (expr : Expr Float64) : expr ∈ expr.subexpressions := by
  cases expr <;> simp [subexpressions]

/-- The value of a filter in a row, by the logic of SQL. -/
def sqlValue (batch : FilterBatch kernels) (row : Nat) : Expr Float64 → Option Bool
  | comparison col op val =>
    match evaluateComparison col op val batch with
    | .ok mask => (mask[row]?).join
    | .error _ => none
  | and left right => ThreeValued.and (left.sqlValue batch row) (right.sqlValue batch row)
  | or left right => ThreeValued.or (left.sqlValue batch row) (right.sqlValue batch row)
  | not inner => ThreeValued.not (inner.sqlValue batch row)

/-- Evaluating the filter gives its SQL value in every row. -/
def EvaluatesToSql (batch : FilterBatch kernels) (expr : Expr Float64) : Prop :=
  evaluate expr batch =
    .ok ((List.range batch.numRows).map fun row => expr.sqlValue batch row)

/-- The comparison can be made, or the connective misjudges no row. -/
def Judged (batch : FilterBatch kernels) : Expr Float64 → Prop
  | comparison col op val => Comparable batch col op val
  | and left right | or left right =>
    ∀ row < batch.numRows, ¬ ThreeValued.Misjudged
      (left.sqlValue batch row) (right.sqlValue batch row)
  | not _ => True

variable {batch : FilterBatch kernels} {whole left right : Expr Float64}

lemma evaluatesToSql_comparison_iff {col : String} {op : CompareOp} :
    (comparison col op val).EvaluatesToSql batch ↔ (comparison col op val).Judged batch := by
  rw [Judged, ← evaluateComparison_ok_iff]
  constructor
  · intro evaluates
    exact ⟨_, evaluates⟩
  · rintro ⟨mask, evaluated⟩
    have length := evaluateComparison_length evaluated
    simp only [EvaluatesToSql, evaluate, sqlValue, evaluated, Except.ok.injEq]
    apply ext_getElem
    · simp [length]
    · intro row inMask lt
      simp [getElem?_eq_getElem inMask]

lemma zipWith_eq_map_iff (numRows : Nat)
    (combine connective : Option Bool → Option Bool → Option Bool)
    (left right : Nat → Option Bool) : List.zipWith combine ((List.range numRows).map left)
        ((List.range numRows).map right) =
      (List.range numRows).map (fun row => connective (left row) (right row)) ↔
      ∀ row < numRows, combine (left row) (right row) = connective (left row) (right row) := by
  rw [zipWith_map, zipWith_self, map_inj_left]
  simp

/-- A connective of evaluated operands is three-valued where the way the
values of its operands are combined is. -/
lemma evaluatesToSql_connective_iff {combine connective : Option Bool → Option Bool → Option Bool}
    (leftSql : left.EvaluatesToSql batch) (rightSql : right.EvaluatesToSql batch)
    (evaluated : evaluate whole batch =
      (do return List.zipWith combine (← evaluate left batch) (← evaluate right batch)))
    (meaning : ∀ row, whole.sqlValue batch row = connective (left.sqlValue batch row)
      (right.sqlValue batch row)) : whole.EvaluatesToSql batch ↔ ∀ row < batch.numRows,
        combine (left.sqlValue batch row) (right.sqlValue batch row) =
          connective (left.sqlValue batch row) (right.sqlValue batch row) := by
  rw [EvaluatesToSql, evaluated, leftSql, rightSql]
  change Except.ok _ = Except.ok _ ↔ _
  simp only [Except.ok.injEq, meaning, zipWith_eq_map_iff]

section

variable {batch : FilterBatch kernels} {left right : Expr Float64}
    (leftSql : left.EvaluatesToSql batch) (rightSql : right.EvaluatesToSql batch)
include leftSql rightSql

lemma evaluatesToSql_and_iff : (and left right).EvaluatesToSql batch ↔
      (and left right).Judged batch := by
  rw [evaluatesToSql_connective_iff leftSql rightSql rfl fun _ => rfl]
  simp only [ThreeValued.bind_eq_and_iff, Judged]

lemma evaluatesToSql_or_iff : (or left right).EvaluatesToSql batch ↔
      (or left right).Judged batch := by
  rw [evaluatesToSql_connective_iff leftSql rightSql rfl fun _ => rfl]
  simp only [ThreeValued.or_eq_or_iff, Judged]

end

lemma evaluatesToSql_not {inner : Expr Float64} (innerSql : inner.EvaluatesToSql batch) :
    (not inner).EvaluatesToSql batch := by
  rw [EvaluatesToSql, evaluate, innerSql]
  simp [sqlValue, ThreeValued.not, bind, Except.bind, pure, Except.pure]

/-- The parts of a connective are those of its operands and itself, so what
two properties of parts share passes from the operands to the connective once
they agree on it. -/
lemma forall_parts_iff {first second : Expr Float64 → Prop}
    (leftIff : (∀ part ∈ left.subexpressions, first part) ↔ ∀ part ∈ left.subexpressions, second
      part)
    (rightIff : (∀ part ∈ right.subexpressions, first part) ↔ ∀ part ∈ right.subexpressions, second
      part) (wholeIff : first left → first right → (first whole ↔ second whole)) :
    (∀ part ∈ whole :: (left.subexpressions ++ right.subexpressions), first part) ↔
      ∀ part ∈ whole :: (left.subexpressions ++ right.subexpressions), second part := by
  simp only [forall_mem_cons, forall_mem_append, ← leftIff, ← rightIff]
  refine and_congr_left fun parts => ?_
  exact wholeIff (parts.1 left left.self_mem_subexpressions)
    (parts.2 right right.self_mem_subexpressions)

end Expr

/-- A filter and all its parts evaluate to their three-valued meaning exactly
when its comparisons can be made and no row has operands of a connective that
are misjudged. -/
theorem evaluate_three_valued_iff (batch : FilterBatch kernels) (expr : Expr Float64) :
    (∀ part ∈ expr.subexpressions, part.EvaluatesToSql batch) ↔
      ∀ part ∈ expr.subexpressions, part.Judged batch := by
  induction expr with
  | comparison col op val => simp [Expr.subexpressions, Expr.evaluatesToSql_comparison_iff]
  | and left right leftIh rightIh =>
    exact Expr.forall_parts_iff leftIh rightIh Expr.evaluatesToSql_and_iff
  | or left right leftIh rightIh =>
    exact Expr.forall_parts_iff leftIh rightIh Expr.evaluatesToSql_or_iff
  | not inner ih =>
    simp only [Expr.subexpressions, forall_mem_cons, ← ih]
    refine and_congr_left fun parts => ?_
    have innerSql := parts inner inner.self_mem_subexpressions
    exact iff_of_true (Expr.evaluatesToSql_not innerSql) trivial

def integerKernels : ArrowKernels (List (Option Int)) Unit where
  numRows := List.length
  dataTypeDebug _ := "Int64"
  compare op column scalar :=
    match op, scalar with
    | .eq, .int64 value => .ok (column.map fun entry => entry.map fun known => known == value)
    | _, _ => .error "unsupported"
  isNull column := column.map fun entry => some entry.isNone
  isNotNull column := column.map fun entry => some entry.isSome
  compare_length := by
    intro op column scalar mask compared
    split at compared
    · cases compared
      simp
    · simp at compared
  isNull_length := by simp
  isNotNull_length := by simp

def bothEqual : Expr Unit :=
  .and (.comparison "x" .eq (.int64 1)) (.comparison "y" .eq (.int64 2))

def oneRow (x y : Int) : FilterBatch integerKernels where
  numRows := 1
  columns := [("x", [some x]), ("y", [some y])]
  aligned := by simp [integerKernels]

/-- A row that fails the first comparison only passes the conjunction. -/
theorem false_and_true_evaluates_true : bothEqual.sqlValue (oneRow 0 2) 0 = some false ∧
      evaluate bothEqual (oneRow 0 2) = .ok [some true] ∧
      ¬ bothEqual.EvaluatesToSql (oneRow 0 2) := by
  unfold Expr.EvaluatesToSql
  decide +kernel

end RockDuck
