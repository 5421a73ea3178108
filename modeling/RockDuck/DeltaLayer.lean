import RockDuck.LatestVersions
import RockDuck.VisibilityManager
import RockDuck.WalRecords

/-!
# The delta layers

Cell updates wait in an in-memory store and in two layers on disk until they
are compacted into the columns.
-/

namespace RockDuck

/-- A change of one cell of a row. -/
structure StoredDeltaCell where
  segId : String
  rowOffset : Nat
  column : String
  txnId : TxnId
  before : Option Bytes
  after : Option Bytes
  committed : Bool
  ts : Int
  deriving DecidableEq

namespace StoredDeltaCell

/-- The snapshot sees the transaction of the cell. -/
def isVisibleAtCommit (cell : StoredDeltaCell) (snapshotTxn : TxnId)
    (commitTsByTxn : Std.ExtTreeMap TxnId Nat) (activeTxns : Std.ExtTreeSet TxnId) : Bool :=
  if cell.txnId > snapshotTxn then false
  else if activeTxns.contains cell.txnId then false
  else
    match commitTsByTxn[cell.txnId]? with
    | some commitTs => decide (commitTs ≤ snapshotTxn)
    | none => false

def isInsert (cell : StoredDeltaCell) : Bool :=
  cell.before.isNone && cell.after.isSome

def isDelete (cell : StoredDeltaCell) : Bool :=
  cell.before.isSome && cell.after.isNone

instance transOrdPlace : Std.TransOrd (String ×ₗ String ×ₗ Nat) := inferInstance

/-- Where the cell is, as cells are told apart when they are merged. -/
def place (cell : StoredDeltaCell) : String ×ₗ String ×ₗ Nat :=
  toLex (cell.segId, toLex (cell.column, cell.rowOffset))

end StoredDeltaCell

/-- What cells are buffered under. -/
abbrev DeltaKey := String ×ₗ Nat ×ₗ String ×ₗ TxnId

def deltaKey (cell : StoredDeltaCell) : DeltaKey :=
  toLex (cell.segId, toLex (cell.rowOffset, toLex (cell.column, cell.txnId)))

/-- The cells of a buffer, by key. -/
abbrev DeltaBuffer := Std.ExtTreeMap DeltaKey StoredDeltaCell

namespace DeltaBuffer

def values (buffer : DeltaBuffer) : List StoredDeltaCell :=
  buffer.toList.map Prod.snd

end DeltaBuffer

/-- The in-memory store: a buffer for writes, one that is being flushed, what
was swapped out last, and the answers that were given. -/
structure DeltaMemStore where
  hot : DeltaBuffer
  cold : DeltaBuffer
  snapshot : DeltaBuffer
  visibleCache : List (String × TxnId × List StoredDeltaCell)

namespace DeltaMemStore

def empty : DeltaMemStore := ⟨∅, ∅, ∅, []⟩

/-- Log the cell and buffer it. -/
def put (store : DeltaMemStore) (cell : StoredDeltaCell) (walFault : Fault) :
    DeltaMemStore × Except RockDuckError Unit :=
  match walFault with
  | some error => (store, .error error)
  | none => ({ store with hot := store.hot.insert (deltaKey cell) cell }, .ok ())

/-- The visible cells of the buffers. -/
def collectVisible (store : DeltaMemStore) (snapshotTxn : TxnId) : List StoredDeltaCell :=
  let visible := fun cell : StoredDeltaCell => decide (cell.txnId ≤ snapshotTxn) && cell.committed
  store.hot.values.filter visible ++ store.cold.values.filter visible ++
    store.snapshot.values.filter visible

/-- The cells for a segment at a snapshot.  An answer that was given before is
given again. -/
def getVisible (store : DeltaMemStore) (segId : String) (snapshotTxn : TxnId) :
    DeltaMemStore × List StoredDeltaCell :=
  match store.visibleCache.find? fun entry =>
      decide (entry.1 = segId) && decide (entry.2.1 = snapshotTxn) with
  | some entry => (store, entry.2.2)
  | none =>
    let found := store.collectVisible snapshotTxn
    let kept := if 16 ≤ store.visibleCache.length then
      store.visibleCache.drop 1 else store.visibleCache
    ({ store with visibleCache := kept ++ [(segId, snapshotTxn, found)] }, found)

def getSegmentIds (store : DeltaMemStore) : List String :=
  (store.hot.values ++ store.cold.values).map StoredDeltaCell.segId

end DeltaMemStore

/-- A layer on disk, by its answers. -/
structure DiskLayer where
  getVisible : String → TxnId → Except RockDuckError (List StoredDeltaCell)
  segmentIds : List String

/-- The three layers and the cells of the last flush. -/
structure DeltaLayerStack where
  l1 : DeltaMemStore
  l2 : DiskLayer
  l3 : DiskLayer
  recentFlush : List StoredDeltaCell

/-- What the merged cells are sorted by at the end. -/
def StoredDeltaCell.outputKey (cell : StoredDeltaCell) : String ×ₗ String ×ₗ Nat ×ₗ TxnId :=
  toLex (cell.segId, toLex (cell.column, toLex (cell.rowOffset, cell.txnId)))

lemma StoredDeltaCell.outputKey_le_of_place_lt {first second : StoredDeltaCell}
    (before : first.place < second.place) : first.outputKey ≤ second.outputKey := by
  simp only [place, outputKey, Prod.Lex.toLex_lt_toLex, Prod.Lex.toLex_le_toLex] at before ⊢
  tauto

section Merge

variable (layers : List (List StoredDeltaCell)) (snapshotTxn : TxnId)
    (commitTsByTxn : Std.ExtTreeMap TxnId Nat) (activeTxns : Std.ExtTreeSet TxnId)

/-- The newest visible cell of every place, over all layers. -/
def kWayMerge : List StoredDeltaCell :=
  (latestVersions StoredDeltaCell.place StoredDeltaCell.txnId
    (layers.flatten.filter fun cell =>
      cell.isVisibleAtCommit snapshotTxn commitTsByTxn activeTxns)).insertionSort
    fun first second => first.outputKey ≤ second.outputKey

/-- The sort at the end finds the cells in order. -/
lemma kWayMerge_eq : kWayMerge layers snapshotTxn commitTsByTxn activeTxns =
    latestVersions StoredDeltaCell.place StoredDeltaCell.txnId
      (layers.flatten.filter fun cell =>
        cell.isVisibleAtCommit snapshotTxn commitTsByTxn activeTxns) := by
  refine List.Pairwise.insertionSort_eq ?_
  refine (pairwise_compare_latestVersions _).imp fun {first second} before => ?_
  exact StoredDeltaCell.outputKey_le_of_place_lt (compare_lt_iff_lt.mp before)

end Merge

namespace DeltaLayerStack

variable (stack : DeltaLayerStack)

def getAllSegmentIds : List String :=
  (stack.l1.getSegmentIds ++ stack.l2.segmentIds ++ stack.l3.segmentIds).dedup

/-- The newest visible cells of a segment. -/
def query (segId : String) (snapshot : TxnSnapshot) :
    Except RockDuckError (List StoredDeltaCell) := do
  let l1 := (stack.l1.getVisible segId snapshot.snapshotId).2
  let l2 ← stack.l2.getVisible segId snapshot.snapshotId
  let l3 ← stack.l3.getVisible segId snapshot.snapshotId
  return kWayMerge [l1, l2, l3] snapshot.snapshotId snapshot.commitTsMap
    snapshot.activeTxns

end DeltaLayerStack

end RockDuck
