import RockDuck.DatabaseRuns
import RockDuck.DeltaLayer

/-!
# The change stream

A stream hands out the cells of the delta layers, grouped by transaction.
-/

namespace RockDuck

inductive CellOp where
  | insert
  | update
  | delete
  deriving DecidableEq

/-- A cell without a value before is an insert, one without a value after a delete. -/
def CellOp.fromDelta (cell : StoredDeltaCell) : CellOp :=
  if cell.isInsert then insert
  else if cell.isDelete then delete
  else update

/-- A change of a cell, as the stream gives it. -/
structure CellChange where
  table : String
  segId : String
  col : String
  rowOffset : Nat
  op : CellOp
  before : Option Bytes
  after : Option Bytes
  txnId : TxnId
  deriving DecidableEq

namespace CellChange

def ofCell (table : String) (cell : StoredDeltaCell) : CellChange where
  table := table
  segId := cell.segId
  col := cell.column
  rowOffset := cell.rowOffset
  op := .fromDelta cell
  before := cell.before
  after := cell.after
  txnId := cell.txnId

/-- The cell that was changed. -/
def place (change : CellChange) : String ×ₗ String ×ₗ Nat :=
  toLex (change.segId, toLex (change.col, change.rowOffset))

def sortKey (change : CellChange) : String ×ₗ Nat ×ₗ String :=
  toLex (change.segId, toLex (change.rowOffset, change.col))

end CellChange

/-- The changes of one transaction. -/
structure ChangeBatch where
  txnId : TxnId
  changes : List CellChange
  deriving DecidableEq

/-- The changes of each transaction in a batch of its own, in the order of
the transactions. -/
def groupByTxn (changes : List CellChange) : List ChangeBatch :=
  ((changes.map CellChange.txnId).dedup.insertionSort (· ≤ ·)).map fun txnId =>
    { txnId := txnId
      changes := (changes.filter fun change =>
        decide (change.txnId = txnId)).insertionSort
          fun first second => first.sortKey ≤ second.sortKey }

namespace DeltaLayerStack

/-- The cell is committed and not yet read. -/
def wanted (committed since : TxnId) (cell : StoredDeltaCell) : Bool :=
  decide (since < cell.txnId) && decide (cell.txnId ≤ committed) && cell.committed

/-- The cells of a disk layer.  One that cannot be read counts as empty. -/
def diskCells (layer : DiskLayer) (segId : String) (committed : TxnId) : List StoredDeltaCell :=
  match layer.getVisible segId committed with
  | .ok cells => cells
  | .error _ => []

/-- The newest cells of a segment over all layers. -/
def queryAllLayers (stack : DeltaLayerStack) (segId : String)
    (committed since : TxnId) : DeltaLayerStack × List StoredDeltaCell :=
  let (l1, l1Cells) := stack.l1.getVisible segId committed
  let recent := stack.recentFlush.filter fun cell => decide (cell.segId = segId)
  let cells := l1Cells ++ recent ++ diskCells stack.l2 segId committed ++
    diskCells stack.l3 segId committed
  ({ stack with l1 := l1 }, latestVersions StoredDeltaCell.place StoredDeltaCell.txnId
      (cells.filter (wanted committed since)))

/-- The changes of some segments, one after the other. -/
def collectChanges (committed since : TxnId) :
    DeltaLayerStack → List String → DeltaLayerStack × List CellChange
  | stack, [] => (stack, [])
  | stack, segId :: segIds =>
    let (stack, cells) := stack.queryAllLayers segId committed since
    let (stack, changes) := collectChanges committed since stack segIds
    (stack, cells.map (CellChange.ofCell segId) ++ changes)

end DeltaLayerStack

/-- A database with its delta layers and the watermark of one stream. -/
structure StreamedDatabase where
  database : Database
  deltas : DeltaLayerStack
  sinceTxn : TxnId

namespace StreamedDatabase

/-- The segments are visited in the order of a hash set.  No flush happens
during the call. -/
def readChanges (state : StreamedDatabase) (order : Traversal String) :
    StreamedDatabase × List ChangeBatch :=
  let committed := state.database.mvcc.committedTxn
  if committed ≤ state.sinceTxn then (state, [])
  else
    let (deltas, changes) := state.deltas.collectChanges committed
      state.sinceTxn (order.order state.deltas.getAllSegmentIds)
    let batches := groupByTxn changes
    ({ state with
        deltas := deltas
        sinceTxn := (batches.getLast?.map ChangeBatch.txnId).getD
          state.sinceTxn }, batches)

end StreamedDatabase

inductive StreamEvent where
  | database (event : DatabaseEvent)
  | put (cell : StoredDeltaCell) (walFault : Fault)
  | readChanges (order : Traversal String)

/-- Runs of the database with reads of the stream. -/
def streamMachine (start : StreamedDatabase) :
    Machine StreamedDatabase StreamEvent (List ChangeBatch) where
  initial := start
  step state event :=
    match event with
    | .database event =>
      ({ state with
          database := (databaseMachine start.database).next state.database
            event }, [])
    | .put cell walFault =>
      ({ state with
          deltas := { state.deltas with
            l1 := (state.deltas.l1.put cell walFault).1 } }, [])
    | .readChanges order => state.readChanges order

end RockDuck
