import RockDuck.SegmentScan

/-!
# Reading a row by its key

A point get finds the position of a key in the primary key index, checks the
delete log and the visibility file of the segment, and then reads the row from
the column files and overlays the changes of the delta layer.
-/

namespace RockDuck

/-- A value of a row. -/
inductive RowValue where
  | null
  | empty
  | value (bytes : Bytes)
  deriving DecidableEq

/-- A visible change of a row. -/
structure DeltaCell where
  rowOffset : Nat
  column : String
  after : Option Bytes

/-- What a read gets from the database. -/
structure ReadContext (Value : Type*) where
  pkIndex : Bytes → Except RockDuckError (Option (String × Nat × Nat))
  segmentMeta : String → Except RockDuckError (Option SegmentMeta)
  image : String → SegmentImage Value
  deltas : String → TxnSnapshot → Except RockDuckError (List DeltaCell)
  extractRowBytes : Value → RowValue

abbrev RowData := Std.ExtTreeMap String RowValue

namespace SegmentImage

variable {Value : Type*} (image : SegmentImage Value)

def inDeltavis (row : Nat) : Bool :=
  match image.deltavis with
  | some (.ok entries) => entries.any fun entry => decide (entry.1 = row)
  | _ => false

/-- The snapshot sees the row by its visibility record. -/
def visShows (snapshot : TxnSnapshot) (row : Nat) : Bool :=
  match image.vis with
  | some (.ok batches) =>
    match locate VisBatch.numRows batches row with
    | some (batch, index) =>
      match batch.extractVisibilityColumns with
      | some (created, deleted) =>
        VisibilityManager.isVisible snapshot (created.getD index 0)
          (deletedTxn (deleted.getD index 0))
      | none => true
    | none => true
  | _ => true

/-- The value of a cell. -/
def readCell (row : Nat) (column : String) : Option Value :=
  match image.columnBatches column with
  | some (.ok batches) => (locate List.length batches row).bind fun found => found.1[found.2]?
  | _ => none

def readRow (extractRowBytes : Value → RowValue) (row : Nat) (columns : List String) : RowData :=
  columns.foldl (fun rowData column =>
    match image.readCell row column with
    | some value => rowData.insert column (extractRowBytes value)
    | none => rowData) ∅

end SegmentImage

/-- Apply the deltas of a row. -/
def applyRowDeltas (row : Nat) (rowData : RowData) (deltas : List DeltaCell) : RowData :=
  deltas.foldl (fun rowData delta =>
    match delta.after with
    | some after =>
      if delta.rowOffset = row ∧ delta.column ≠ "" then
        rowData.insert delta.column
          (if after.isEmpty then .empty else .value after)
      else rowData
    | none => rowData) rowData

namespace ReadContext

variable {Value : Type*} (context : ReadContext Value)

/-- Read a row by its key.  The snapshot is taken twice, once for the
visibility file and once for the delta layer. -/
def get (snapshot deltaSnapshot : TxnSnapshot) (pk : Bytes) :
    Except RockDuckError (Option RowData) :=
  match context.pkIndex pk with
  | .error error => .error error
  | .ok none => .ok none
  | .ok (some (segId, _, row)) =>
    let image := context.image segId
    if image.inDeltavis row then .ok none
    else if !image.visShows snapshot row then .ok none
    else
      match context.segmentMeta segId with
      | .error error => .error error
      | .ok none => .ok none
      | .ok (some segment) =>
        if segment.columns.isEmpty then .ok none
        else
          let rowData := image.readRow context.extractRowBytes row segment.columns
          match context.deltas segId deltaSnapshot with
          | .error error =>
            .error (.query ("Delta layer query failed for seg " ++
              segId ++ ": " ++ error.display))
          | .ok deltas => .ok (some (applyRowDeltas row rowData deltas))

end ReadContext

end RockDuck
