import RockDuck.MvccBucket

/-!
# Visibility columns

A visibility file has the creating and the deleting transaction of every row of
a segment, in two `Int64` columns.
-/

namespace RockDuck

/-- The deletion field of a row that is not deleted. -/
def notDeleted : Nat := 2 ^ 64 - 1

def createdTxnCol : String := "__created_txn"

def deletedTxnCol : String := "__deleted_txn"

/-- The deleter in a deletion field. -/
def deletedTxn (stored : Nat) : Option TxnId :=
  if stored = notDeleted then none else some stored

/-- A column of a visibility batch.  The values of an `Int64` column are
taken as `u64`. -/
inductive VisColumn where
  | int64 (values : List Nat)
  | other (length : Nat)

def VisColumn.length : VisColumn → Nat
  | int64 values => values.length
  | other length => length

/-- A batch of the visibility file. -/
structure VisBatch where
  numRows : Nat
  columns : List (String × VisColumn)
  aligned : ∀ column ∈ columns, column.2.length = numRows

namespace VisBatch

def ofRows (rows : List (TxnId × Nat)) : VisBatch where
  numRows := rows.length
  columns :=
    [(createdTxnCol, .int64 (rows.map Prod.fst)), (deletedTxnCol, .int64 (rows.map Prod.snd))]
  aligned := by simp [VisColumn.length]

/-- The last two columns, if they have the right names and type. -/
def extractVisibilityColumns (batch : VisBatch) : Option (List Nat × List Nat) :=
  match batch.columns.reverse with
  | (deletedName, .int64 deleted) :: (createdName, .int64 created) :: _ =>
    if createdName = createdTxnCol ∧ deletedName = deletedTxnCol then
      some (created, deleted)
    else none
  | _ => none

@[simp]
lemma extractVisibilityColumns_ofRows (rows) :
    (ofRows rows).extractVisibilityColumns = some (rows.map Prod.fst, rows.map Prod.snd) := by
  simp [extractVisibilityColumns, ofRows]

end VisBatch

end RockDuck
