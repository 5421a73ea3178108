import RockDuck.MvccBucket
import RockDuck.TransactionLog

/-!
# Records of the write-ahead log
-/

namespace RockDuck

/-- The kinds of records. -/
inductive OpType where
  | begin
  | insert
  | delete
  | update
  | checkpoint
  | compaction
  | commit
  | rollback
  deriving DecidableEq

abbrev Bytes := List UInt8

/-- What a record carries besides its type and its transaction. -/
inductive OpPayload where
  | begin
  | insert (table : String) (pk : Bytes) (columns : List String)
      (walBatch schemaBytes : Bytes) (segId : String)
      (granuleId offset : Nat)
  | delete (table : String) (pk : Bytes) (beforeRow : List (String × Bytes))
      (segId : String) (granuleId offset : Nat)
  | update (table : String) (pk : Bytes) (columns : List String)
      (walBatch schemaBytes : Bytes) (oldColumns : List (String × Bytes))
      (oldSegId : String) (oldGranuleId oldOffset : Nat)
      (newSegId : String) (newGranuleId offset : Nat)
  | checkpoint (checkpointId : Nat)
  | compaction (oldSegId newSegId : String) (pkEntries : Bytes)
      (commit : Bool)
  | commit (beginTs : Nat) (insertedAt : Option Nat)
  | rollback
  deriving DecidableEq

/-- A record. -/
structure WalOp where
  opType : OpType
  txnId : TxnId
  payload : OpPayload
  deriving DecidableEq

/-- What a record does to its transaction. -/
def OpType.role : OpType → LogRole
  | begin => .begin
  | insert | delete | update => .operation
  | commit => .commit
  | rollback => .rollback
  | checkpoint | compaction => .neutral

lemma OpType.role_eq_commit (opType : OpType) : opType.role = .commit ↔ opType = .commit := by
  cases opType <;> simp [role]

/-- The write-ahead log as a log shared by transactions. -/
def walView : LogView WalOp TxnId where
  owner op := op.txnId
  role op := op.opType.role

@[simp]
lemma walView_owner (op) : walView.owner op = op.txnId := rfl

@[simp]
lemma walView_role (op) : walView.role op = op.opType.role := rfl

end RockDuck
