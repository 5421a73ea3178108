import RockDuck.GuardStore
import RockDuck.LayerMerge

/-!
# The stack of delta stores

The buffer in memory, the guard files and the frozen patches together: how
cells move down from one to the next, and how they are read, segment by segment
or for several segments at once.
-/

namespace RockDuck

/-- The place of a frozen file. -/
abbrev FrozenPath := String ×ₗ String ×ₗ Nat

def frozenPath (segId column : String) (version : Nat) : FrozenPath :=
  toLex (segId, toLex (column, version))

/-- The third layer.  The index has one file for each column of a segment. -/
structure DeltaL3Frozen where
  index : Std.ExtTreeMap (String ×ₗ String) FrozenPath
  files : Std.ExtTreeMap FrozenPath Bytes

namespace DeltaL3Frozen

def empty : DeltaL3Frozen := ⟨∅, ∅⟩

variable (codecs : PatchCodecs) (frozen : DeltaL3Frozen)

/-- Write a patch to a file of its version. -/
def writeCompacted (segId column : String) (version : Nat)
    (format : DeltaPatchFormat) (fault : Fault) : DeltaL3Frozen × Except RockDuckError Unit :=
  match fault with
  | some error => (frozen, .error error)
  | none =>
    let path := frozenPath segId column version
    (⟨frozen.index.insert (toLex (segId, column)) path,
      frozen.files.insert path format.toBytes⟩, .ok ())

/-- The cells of a frozen file. -/
def loadPatch (segId column : String) (path : FrozenPath) :
    Except ReadFailure (List StoredDeltaCell) :=
  match frozen.files[path]? with
  | none => .ok []
  | some bytes =>
    match DeltaPatchFormat.fromBytes bytes with
    | .error failure => .error failure
    | .ok none => .error (.error (.internal "Invalid patch format"))
    | .ok (some format) => codecs.patchFormatToDeltas segId column format

def columnsOf (segId : String) : List (String × FrozenPath) :=
  (frozen.index.toList.filter fun entry =>
    decide ((ofLex entry.1).1 = segId)).map fun entry => ((ofLex entry.1).2, entry.2)

/-- The cells of all columns of a segment. -/
def getVisible (segId : String) : Except ReadFailure (List StoredDeltaCell) :=
  ((frozen.columnsOf segId).mapM fun column =>
    frozen.loadPatch codecs segId column.1 column.2).map List.flatten

def getSegmentIds : List String :=
  (frozen.index.toList.map fun entry => (ofLex entry.1).1).dedup

end DeltaL3Frozen

namespace DeltaMemStore

variable (store : DeltaMemStore)

/-- Exchange the two buffers.  What was drained stays in the one that takes the
writes from now on. -/
def swapAndDrain : DeltaMemStore × List StoredDeltaCell :=
  ({ store with
      hot := store.cold
      cold := store.hot
      snapshot := store.hot }, store.cold.values)

/-- Take the cold buffer. -/
def drainCold : DeltaMemStore × List StoredDeltaCell :=
  ({ store with cold := ∅ }, store.cold.values)

/-- Take both buffers. -/
def drainAfterSwap : DeltaMemStore × List StoredDeltaCell :=
  let (store, swapped) := store.swapAndDrain
  let (store, cold) := store.drainCold
  (store, swapped ++ cold)

end DeltaMemStore

/-- The stores of the three layers. -/
structure DeltaStores where
  l1 : DeltaMemStore
  l2 : DeltaL2Disk
  l3 : DeltaL3Frozen
  recentFlush : Std.ExtTreeMap (String ×ₗ String ×ₗ Nat) StoredDeltaCell

/-- The cells by segment and column. -/
def groupCells (cells : List StoredDeltaCell) :
    Std.ExtTreeMap (String ×ₗ String) (List StoredDeltaCell) :=
  cells.foldl (fun groups cell =>
    let column := toLex (cell.segId, cell.column)
    groups.insert column (groups.getD column [] ++ [cell])) ∅

/-- What may go wrong in a flush, and the order of its groups. -/
structure FlushEnvironment where
  walFault : Fault
  groupOrder : Traversal ((String ×ₗ String) × List StoredDeltaCell)
  appendFault : String → String → Fault

structure FreezeEnvironment where
  writeFault : FrozenPath → Fault
  deleteFault : GuardKey → Fault

def ReadFailure.toError : ReadFailure → RockDuckError
  | error reported => reported
  | panicked message => .internal message

/-- The last of the items with the largest key. -/
def maxByKey {Item : Type*} (key : Item → Nat) (items : List Item) : Option Item :=
  items.foldl (fun found item =>
    match found with
    | none => some item
    | some highest =>
      if key item < key highest then some highest else some item) none

namespace DeltaStores

variable (codecs : PatchCodecs) (stores : DeltaStores)

/-- Write the cells of one column to the second layer. -/
def flushGroup (environment : FlushEnvironment) (disk : DeltaL2Disk)
    (group : (String ×ₗ String) × List StoredDeltaCell) : DeltaL2Disk × Except RockDuckError Unit :=
  match buildPatchFromCells codecs group.2 with
  | .error error => (disk, .error error)
  | .ok patch =>
    disk.appendPatch (ofLex group.1).1 (ofLex group.1).2 patch
      (environment.appendFault (ofLex group.1).1 (ofLex group.1).2)

/-- The flushed cells are kept aside until they are all written. -/
def flushL1ToL2 (environment : FlushEnvironment) : DeltaStores × Except RockDuckError Nat :=
  let (l1, drained) := stores.l1.drainAfterSwap
  let recentFlush := Std.ExtTreeMap.ofList (drained.map fun cell => (cell.place, cell))
  match environment.walFault with
  | some error => ({ stores with l1 := l1, recentFlush := recentFlush }, .error error)
  | none =>
    let groups := environment.groupOrder.order (groupCells drained).toList
    match forEach (flushGroup codecs environment) stores.l2 groups with
    | (l2, .error error) => (⟨l1, l2, stores.l3, recentFlush⟩, .error error)
    | (l2, .ok ()) => (⟨l1, l2, stores.l3, ∅⟩, .ok groups.length)

/-- The visible cells of a segment.  What is cached on the way is left out. -/
def query (segId : String) (snapshot : TxnSnapshot) : Except ReadFailure (List StoredDeltaCell) :=
  match stores.l2.getVisible codecs segId snapshot.snapshotId with
  | .error failure => .error failure
  | .ok l2 =>
    match stores.l3.getVisible codecs segId with
    | .error failure => .error failure
    | .ok l3 =>
      .ok (kWayMerge [(stores.l1.getVisible segId snapshot.snapshotId).2, l2, l3]
        snapshot.snapshotId snapshot.commitTsMap snapshot.activeTxns)

/-- The newest visible cell of a place. -/
def queryCell (segId : String) (rowOffset : Nat) (column : String) (snapshot : TxnSnapshot) :
    Except ReadFailure (Option StoredDeltaCell) :=
  (stores.query codecs segId snapshot).map fun candidates =>
    maxByKey StoredDeltaCell.txnId (candidates.filter fun cell =>
      decide (cell.rowOffset = rowOffset) && decide (cell.column = column))

/-- The stores as a stack of layers. -/
def toLayerStack : DeltaLayerStack where
  l1 := stores.l1
  l2 :=
    { getVisible := fun segId snapshotTxn =>
        (stores.l2.getVisible codecs segId snapshotTxn).mapError
          ReadFailure.toError
      segmentIds := stores.l2.getSegmentIds }
  l3 :=
    { getVisible := fun segId _ => (stores.l3.getVisible codecs segId).mapError ReadFailure.toError
      segmentIds := stores.l3.getSegmentIds }
  recentFlush := stores.recentFlush.toList.map Prod.snd

lemma query_toLayerStack (segId snap) : (stores.toLayerStack codecs).query segId snap =
      (stores.query codecs segId snap).mapError ReadFailure.toError := by
  simp only [DeltaLayerStack.query, toLayerStack, query]
  cases stores.l2.getVisible codecs segId snap.snapshotId with
  | error err => rfl
  | ok l2 =>
    cases stores.l3.getVisible codecs segId with
    | error err | ok l3 => rfl

def recentCells (segId : String) (snapshotTxn : TxnId) : List StoredDeltaCell :=
  (stores.recentFlush.toList.map Prod.snd).filter fun cell =>
    decide (cell.segId = segId) && decide (cell.txnId ≤ snapshotTxn) && cell.committed

def frozenCells (segId : String) : Except ReadFailure (List StoredDeltaCell) :=
  match stores.l3.getVisible codecs segId with
  | .error (.error _) => .ok []
  | answer => answer

/-- The cells of one segment in a batch query. -/
def batchSegment (l1 : List StoredDeltaCell) (l2 : Std.ExtTreeMap String (List StoredDeltaCell))
    (segId : String) (snapshotTxn : TxnId) : Except ReadFailure (List StoredDeltaCell) :=
  (stores.frozenCells codecs segId).map fun l3 =>
    latestVersions StoredDeltaCell.place StoredDeltaCell.txnId
      ((l1.filter fun cell => decide (cell.txnId ≤ snapshotTxn) && cell.committed) ++
        stores.recentCells segId snapshotTxn ++ l2.getD segId [] ++ l3)

/-- One segment after the other, with the answers that the memory store keeps
on the way. -/
def batchSegments (l2 : Std.ExtTreeMap String (List StoredDeltaCell))
    (snapshotTxn : TxnId) : DeltaMemStore → List String →
      Std.ExtTreeMap String (List StoredDeltaCell) →
        Except ReadFailure (Std.ExtTreeMap String (List StoredDeltaCell))
  | _, [], results => .ok results
  | l1, segId :: segIds, results =>
    match stores.batchSegment codecs (l1.getVisible segId snapshotTxn).2 l2
        segId snapshotTxn with
    | .error failure => .error failure
    | .ok cells =>
      batchSegments l2 snapshotTxn (l1.getVisible segId snapshotTxn).1
        segIds (results.insert segId cells)

/-- The cells of some segments, each layer read once. -/
def getVisibleBatch (segIds : List String) (snapshotTxn : TxnId) :
    Except ReadFailure (Std.ExtTreeMap String (List StoredDeltaCell)) :=
  match stores.l2.getVisibleBatch codecs segIds snapshotTxn with
  | .error failure => .error failure
  | .ok l2 =>
    stores.batchSegments codecs l2 snapshotTxn stores.l1 segIds
      (Std.ExtTreeMap.ofList (segIds.map fun segId => (segId, [])))

/-- What a batch query shows to a snapshot. -/
def passesBatch (snapshot : TxnSnapshot) (cell : StoredDeltaCell) : Bool :=
  if !cell.committed then false
  else if snapshot.activeTxns.contains cell.txnId then false
  else
    match snapshot.commitTsMap[cell.txnId]? with
    | none => false
    | some commitTs => decide (commitTs ≤ snapshot.snapshotId)

def queryBatch (segIds : List String) (snapshot : TxnSnapshot) :
    Except ReadFailure (Std.ExtTreeMap String (List StoredDeltaCell)) :=
  (stores.getVisibleBatch codecs segIds snapshot.snapshotId).map fun batch =>
    batch.map fun _ cells => cells.filter (passesBatch snapshot)

/-- The guards of a segment that are compacted: the four with the oldest
transactions. -/
def guardsToCompact (segId : String) : List (GuardKey × TxnId) :=
  ((stores.l2.guardsBySeg segId).insertionSort fun left right => left.2 ≤ right.2).take 4

/-- Write the patches of a guard to the third layer, each under a version of its own. -/
def freezePatches (environment : FreezeEnvironment) (segId column : String)
    (minTxn : TxnId) (frozen : DeltaL3Frozen) (patches : List DeltaL2Disk.MergePatchRef) :
    DeltaL3Frozen × Except RockDuckError Unit :=
  forEach (fun frozen entry =>
    let version := (minTxn * 1000 + entry.2) % 2 ^ 64
    frozen.writeCompacted segId column version entry.1.format
      (environment.writeFault (frozenPath segId column version)))
    frozen patches.zipIdx

/-- Move one guard to the third layer.  A guard that cannot be deleted
stays. -/
def compactGuard (environment : FreezeEnvironment) (segId : String) (stores : DeltaStores)
    (guard : GuardKey × TxnId) : Option (DeltaStores × Except ReadFailure Unit) :=
  match stores.l2.readAllPatchesFromGuard guard.1 with
  | none => none
  | some (.error failure) => some (stores, .error failure)
  | some (.ok []) => some (stores, .ok ())
  | some (.ok patches) =>
    match freezePatches environment segId guard.1.column guard.2 stores.l3
        patches with
    | (l3, .error error) => some ({ stores with l3 := l3 }, .error (.error error))
    | (l3, .ok ()) =>
      some ({ stores with
        l3 := l3
        l2 := (stores.l2.deleteGuardFile guard.1 (environment.deleteFault guard.1)).1 }, .ok ())

/-- Compact some guards, until one fails. -/
def compactGuards (environment : FreezeEnvironment) (segId : String) :
    DeltaStores → List (GuardKey × TxnId) → Option (DeltaStores × Except ReadFailure Unit)
  | stores, [] => some (stores, .ok ())
  | stores, guard :: guards =>
    match compactGuard environment segId stores guard with
    | none => none
    | some (stores, .error failure) => some (stores, .error failure)
    | some (stores, .ok ()) => compactGuards environment segId stores guards

/-- Compact the oldest guards of a segment. -/
def compactL2ToL3 (environment : FreezeEnvironment) (segId : String) :
    Option (DeltaStores × Except ReadFailure Unit) :=
  compactGuards environment segId stores (stores.guardsToCompact segId)

end DeltaStores

end RockDuck
