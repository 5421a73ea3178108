import RockDuck.PointGet

/-!
# The version index

Time travel keeps the versions of rows under their segment, row and
transaction.  The values of a row are collected column by column in a ring of row buffers.
-/

namespace RockDuck

def RowValue.toStorageBytes : RowValue → Bytes
  | null => []
  | empty => []
  | value bytes => bytes

/-- A version as it is stored. -/
structure VersionEntry where
  txnId : TxnId
  value : Bytes
  createdTxn : TxnId
  deletedTxn : Option TxnId

/-- A version with its row and key. -/
structure IndexedVersion where
  row : Nat
  keyTxn : TxnId
  version : VersionEntry

def chunkSize : Nat := 10000

def batchKvSize : Nat := 500

/-- The ring of row buffers and the number of cells it took. -/
structure ChunkRows where
  buffers : List Bytes
  filled : Nat

namespace ChunkRows

def start (totalRows : Nat) : ChunkRows where
  buffers := List.replicate (min chunkSize totalRows) []
  filled := 0

/-- Cells after the first `totalRows` are left out. -/
def push (totalRows : Nat) (chunk : ChunkRows) (bytes : Bytes) : ChunkRows :=
  if totalRows ≤ chunk.filled then chunk
  else
    { buffers := chunk.buffers.modify (chunk.filled % chunkSize) (· ++ bytes)
      filled := chunk.filled + 1 }

end ChunkRows

/-- The versions of some rows. -/
def rowVersions (buffers : List Bytes) (firstRow : Nat)
    (rows : List (Nat × Nat)) : List IndexedVersion :=
  (rows.zipIdx firstRow).map fun entry =>
    { row := entry.2
      keyTxn := entry.1.1
      version :=
        { txnId := entry.1.1
          value := buffers.getD (entry.2 % chunkSize) []
          createdTxn := entry.1.1
          deletedTxn := deletedTxn entry.1.2 } }

/-- The versions of all batches, until one cannot be read. -/
def versionEntries (buffers : List Bytes) (totalRows : Nat) :
    Nat → List VisBatch → List IndexedVersion × Except RockDuckError Unit
  | _, [] => ([], .ok ())
  | row, batch :: batches =>
    match batch.columns.reverse with
    | (_, .int64 deleted) :: (_, .int64 created) :: _ =>
      let rows := (created.zip deleted).take (totalRows - row)
      let (entries, result) := versionEntries buffers totalRows (row + rows.length) batches
      (rowVersions buffers row rows ++ entries, result)
    | (_, .other _) :: (_, .int64 _) :: _ =>
      ([], .error (.internal "__vis deleted_txn column is not Int64"))
    | _ :: (_, .other _) :: _ =>
      ([], .error (.internal "__vis created_txn column is not Int64"))
    | _ => versionEntries buffers totalRows row batches

namespace SegmentImage

variable {Value : Type*} (image : SegmentImage Value) (extractRowBytes : Value → RowValue)

/-- Collect the cells of all columns. -/
def collectRows (totalRows : Nat) : List String → ChunkRows → Except RockDuckError ChunkRows
  | [], chunk => .ok chunk
  | column :: columns, chunk =>
    match image.columnBatches column with
    | none => collectRows totalRows columns chunk
    | some (.error error) => .error (.internal
        ("open column " ++ column ++ ": " ++ error.display))
    | some (.ok batches) =>
      collectRows totalRows columns
        (batches.flatten.foldl (fun chunk value =>
          chunk.push totalRows (extractRowBytes value).toStorageBytes)
          chunk)

/-- The entries that get written, and whether the build succeeds.  Full
batches of entries are written before a later visibility batch fails. -/
def buildSegmentVersionIndex (columns : List String) :
    List IndexedVersion × Except RockDuckError Unit :=
  match image.vis with
  | none => ([], .ok ())
  | some (.error error) =>
    ([], .error (.internal ("open vis.vortex: " ++ error.display)))
  | some (.ok batches) =>
    let totalRows := (batches.map VisBatch.numRows).sum
    if totalRows = 0 then ([], .ok ())
    else
      match image.collectRows extractRowBytes totalRows columns
          (.start totalRows) with
      | .error error => ([], .error error)
      | .ok chunk =>
        match versionEntries chunk.buffers totalRows 0 batches with
        | (entries, .ok ()) => (entries, .ok ())
        | (entries, .error error) =>
          (entries.take (entries.length / batchKvSize * batchKvSize), .error error)

end SegmentImage

end RockDuck
