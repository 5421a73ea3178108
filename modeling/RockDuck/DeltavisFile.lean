import RockDuck.ByteFields
import RockDuck.MvccBucket

/-!
# Delete logs

The delete log of a segment lists the rows that were deleted, with the deleting
transactions.
-/

namespace RockDuck

open List

namespace Deltavis

def magic : List UInt8 := [68, 86, 73, 83]

def version : UInt8 := 1

def headerSize : Nat := 13

def footerSize : Nat := 4

def recordSize : Nat := 16

/-- The log has a header of this version. -/
def isV2 (log : List UInt8) : Bool :=
  decide (headerSize + footerSize ≤ log.length) &&
    decide (log.take 4 = magic) && decide (log[4]? = some version)

/-- The record of a row. -/
def record (rowOffset txnId : Nat) : List UInt8 :=
  leBytes 8 rowOffset ++ leBytes 8 txnId

/-- A log of this version. -/
def assemble (numEntries : Nat) (records : List UInt8) (crc : Nat) : List UInt8 :=
  magic ++ [version] ++ leBytes 8 numEntries ++ records ++ leBytes 4 crc

/-- The log with one record more.  The checksum goes on from a given value;
in a log of this version it is that of the records before. -/
def markDeletedAppend (crc32 : Nat → List UInt8 → Nat) (existing : List UInt8)
    (rowOffset txnId : Nat) : List UInt8 :=
  let new := record rowOffset txnId
  if isV2 existing then
    let numEntries := readLe 8 (existing.drop 5)
    let footer := readLe 4 (existing.drop (existing.length - footerSize))
    let records := (existing.drop headerSize).take (existing.length - headerSize - footerSize)
    assemble (numEntries + 1) (records ++ new) (crc32 footer new)
  else if existing ≠ [] then
    let numExisting := existing.length / recordSize
    let records := existing.take (numExisting * recordSize) ++ new
    assemble (numExisting + 1) records (crc32 0 records)
  else assemble 1 new (crc32 0 new)

/-- The records of a log of either version. -/
def recordBytes (log : List UInt8) : List UInt8 :=
  if isV2 log then
    (log.drop headerSize).take (log.length - headerSize - footerSize)
  else log

/-- The rows and transactions of some records. -/
def parseRecords (records : List UInt8) : List (Nat × TxnId) :=
  (List.range (records.length / recordSize)).map fun place =>
    let bytes := records.drop (place * recordSize)
    (readLe 8 bytes, readLe 8 (bytes.drop 8))

/-- The deleted rows and their transactions, in the order they were marked. -/
def entries (log : List UInt8) : List (Nat × TxnId) :=
  parseRecords (recordBytes log)

lemma parseRecords_append (recs : List UInt8) (whole : recordSize ∣ recs.length)
    (row txnId : Nat) : parseRecords (recs ++ record row txnId) =
      parseRecords recs ++ [(row % 2 ^ 64, txnId % 2 ^ 64)] := by
  have size : (record row txnId).length = recordSize := by simp [record, recordSize]
  have places : (recs ++ record row txnId).length / recordSize = recs.length / recordSize + 1 := by
    rw [length_append, size]
    exact Nat.add_div_right _ (by decide)
  have last : recs.length / recordSize * recordSize = recs.length := Nat.div_mul_cancel whole
  rw [parseRecords, places, range_succ, map_append, map_singleton]
  congr 1
  · refine map_congr_left fun place mem => ?_
    have inside : place * recordSize + recordSize ≤ recs.length := by
      rw [← last, ← Nat.succ_mul]
      exact Nat.mul_le_mul_right _ (mem_range.mp mem)
    have enough : 16 ≤ (recs.drop (place * recordSize)).length := by
      rw [length_drop]
      exact Nat.le_sub_of_add_le (by rwa [Nat.add_comm])
    have start : (recs ++ record row txnId).drop
        (place * recordSize) = recs.drop (place * recordSize) ++
          record row txnId :=
      drop_append_of_le_length (Nat.le_trans (Nat.le_add_right _ _) inside)
    dsimp only
    rw [start, readLe_append (Nat.le_trans (by decide) enough),
      drop_append_of_le_length (Nat.le_trans (by decide) enough),
      readLe_append (by rw [length_drop]; omega)]
  · have fresh : (recs ++ record row txnId).drop
        (recs.length / recordSize * recordSize) =
          record row txnId := by
      rw [last, drop_left]
    have second : (record row txnId).drop 8 = leBytes 8 txnId :=
      drop_left' (length_leBytes 8 row)
    dsimp only
    rw [fresh, second, record, readLe_leBytes_append]
    simp [readLe]

lemma isV2_assemble (size : Nat) (recs) (crc : Nat) : isV2 (assemble size recs crc) = true := by
  have long : headerSize + footerSize ≤ (assemble size recs crc).length := by
    simp only [assemble, magic, headerSize, footerSize, length_append,
      length_cons, length_nil, length_leBytes]
    omega
  have starts : (assemble size recs crc).take 4 = magic := rfl
  have versioned : (assemble size recs crc)[4]? = some version := rfl
  simp only [isV2, long, starts, versioned, decide_true, Bool.and_true]

@[simp]
lemma recordBytes_assemble (numEntries : Nat) (records)
    (crc : Nat) : recordBytes (assemble numEntries records crc) = records := by
  rw [recordBytes, if_pos (isV2_assemble numEntries records crc)]
  have header : (magic ++ [version] ++ leBytes 8 numEntries).length = headerSize := by
    simp [magic, headerSize]
  have rest : (assemble numEntries records crc).drop headerSize = records ++ leBytes 4 crc := by
    rw [assemble, append_assoc, ← header, drop_left]
  have size : (assemble numEntries records crc).length - headerSize -
      footerSize = records.length := by
    rw [assemble, append_assoc, length_append, header, length_append, length_leBytes, footerSize]
    omega
  rw [rest, size, take_left]

end Deltavis

end RockDuck
