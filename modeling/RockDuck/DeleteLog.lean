import RockDuck.DeltavisFile
import RockDuck.MachineRuns
import RockDuck.SegmentScan

/-!
# Appending to delete logs and reading them

A delete log is read through a memory map where one can be had, and from a copy
of the whole file otherwise.
-/

namespace RockDuck

open List

namespace Deltavis

/-- The checksum of a crate: what it makes of more bytes after those of a given
checksum is the checksum of all of them. -/
structure Crc32 where
  update : UInt32 → List UInt8 → UInt32
  continues : ∀ first second,
    update (update 0 first) second = update 0 (first ++ second)

/-- One bit of the reflected polynomial. -/
def crcBit (remainder : UInt32) : UInt32 :=
  if remainder &&& 1 = 1 then (remainder >>> 1) ^^^ 0xEDB88320
  else remainder >>> 1

def crcByte (remainder : UInt32) (byte : UInt8) : UInt32 :=
  crcBit^[8] (remainder ^^^ byte.toUInt32)

/-- CRC-32, bit by bit. -/
def Crc32.bitwise : Crc32 where
  update initial bytes := ~~~ bytes.foldl crcByte (~~~ initial)
  continues first second := by rw [UInt32.not_not, List.foldl_append]

example : Crc32.bitwise.update 0 "123456789".toUTF8.toList = 0xCBF43926 := by
  decide +kernel

def Crc32.checksum (crc : Crc32) (initial : Nat) (bytes : List UInt8) : Nat :=
  (crc.update (UInt32.ofNat initial) bytes).toNat

lemma Crc32.checksum_lt (crc : Crc32) (initial : Nat) (bytes) :
    crc.checksum initial bytes < 256 ^ 4 :=
  UInt32.toNat_lt _

lemma Crc32.checksum_checksum (crc : Crc32) (first second) :
    crc.checksum (crc.checksum 0 first) second = crc.checksum 0 (first ++ second) := by
  rw [checksum, checksum, checksum, UInt32.ofNat_toNat,
    show UInt32.ofNat 0 = 0 from rfl, crc.continues]

/-- The largest size of an allocation. -/
def isizeMax : Nat := 2 ^ 63 - 1

/-- A log that can be held in memory. -/
structure LogFile where
  bytes : List UInt8
  fits : bytes.length ≤ isizeMax

def hex8 (number : Nat) : String :=
  let digits := Nat.toDigits 16 number
  String.ofList (List.replicate (8 - digits.length) '0' ++ digits)

/-- A log of the first version is records alone. -/
def readDeltavisV1 (data : List UInt8) : List (Nat × TxnId) :=
  parseRecords data

/-- The part the two readers of this version have in common.  They report a
wrong checksum with different texts. -/
def readV2With (crc : Crc32) (crcMismatch : Nat → Nat → String)
    (data : List UInt8) : Except RockDuckError (List (Nat × TxnId)) :=
  if data[4]? ≠ some version then .ok (readDeltavisV1 data)
  else
    let numEntries := readLe 8 (data.drop 5)
    let storedCrc := readLe 4 (data.drop (data.length - footerSize))
    let recordCount := data.length - headerSize - footerSize
    let expectedRecordCount := numEntries * recordSize % 2 ^ 64
    if recordCount ≠ expectedRecordCount then
      .error (.io ⟨.unexpectedEof, s!"deltavis V2: truncated file (expected {expectedRecordCount} bytes for {numEntries} entries, got {recordCount})"⟩)
    else
      let records := (data.drop headerSize).take recordCount
      let computedCrc := crc.checksum 0 records
      if computedCrc ≠ storedCrc then
        .error (.io ⟨.invalidData, crcMismatch storedCrc computedCrc⟩)
      else .ok (parseRecords records)

/-- Read a log of this version through a memory map. -/
def readDeltavisV2Mmap (crc : Crc32) (data : List UInt8) :
    Except RockDuckError (List (Nat × TxnId)) :=
  readV2With crc (fun _ _ => "deltavis V2: CRC mismatch") data

/-- Read a log of this version from a copy. -/
def readDeltavisV2 (crc : Crc32) (data : List UInt8) : Except RockDuckError (List (Nat × TxnId)) :=
  if data.length < headerSize + footerSize then
    .error (.io ⟨.unexpectedEof,
      "deltavis V2: file too small for header and footer"⟩)
  else
    readV2With crc (fun storedCrc computedCrc =>
      "deltavis V2: CRC mismatch (expected " ++ hex8 storedCrc ++
        ", computed " ++ hex8 computedCrc ++ ")") data

/-- Read a log.  Whether the file can be mapped, and whether it can be copied,
is up to the system; a short file is always copied. -/
def readDeltavis (crc : Crc32) (mmapOpens : Bool) (readFault : Fault)
    (file : Option LogFile) : Except RockDuckError (List (Nat × TxnId)) :=
  match file with
  | none => .ok []
  | some file =>
    let data := file.bytes
    if mmapOpens = true ∧ headerSize + footerSize ≤ data.length then
      if data.take 4 = magic then readDeltavisV2Mmap crc data
      else .ok (readDeltavisV1 data)
    else
      match readFault with
      | some error => .error error
      | none =>
        if data.length < 4 then .ok []
        else if headerSize + footerSize ≤ data.length ∧
            data.take 4 = magic then
          readDeltavisV2 crc data
        else .ok (readDeltavisV1 data)

/-- A call that marks a row, and the error it meets when it reads the log or
writes, syncs or renames the new one. -/
structure MarkCall where
  rowOffset : UInt64
  txnId : UInt64
  fault : Fault

def MarkCall.entry (call : MarkCall) : Nat × TxnId :=
  (call.rowOffset.toNat, call.txnId.toNat)

/-- One call that marks a row, on the stored log. -/
def markStored (crc : Crc32) (file : Option LogFile) (call : MarkCall) :
    Option LogFile × Except ReadFailure Unit :=
  match call.fault with
  | some error => (file, .error (.error error))
  | none =>
    let existing := (file.map LogFile.bytes).getD []
    let fullData := markDeletedAppend crc.checksum existing call.rowOffset.toNat call.txnId.toNat
    if fits : fullData.length ≤ isizeMax then
      (some ⟨fullData, fits⟩, .ok ())
    else (file, .error (.panicked "capacity overflow"))

/-- Runs of calls on one log. -/
def deleteLog (crc : Crc32) (start : Option LogFile) :
    Machine (Option LogFile) MarkCall (Except ReadFailure Unit) where
  initial := start
  step := markStored crc

/-- The records of the calls that returned without an error, in order. -/
def acknowledged (crc : Crc32) (start : Option LogFile)
    (calls : List MarkCall) : List (Nat × TxnId) :=
  (deleteLog crc start).collect (fun file call =>
    match (markStored crc file call).2 with
    | .ok _ => [call.entry]
    | .error _ => []) calls

/-- A log of this version whose count and checksum are right. -/
structure ValidV2 (crc : Crc32) (log : List UInt8) : Prop where
  current : isV2 log = true
  counted : readLe 8 (log.drop 5) * recordSize = (recordBytes log).length
  checked : readLe 4 (log.drop (log.length - footerSize)) =
    crc.checksum 0 (recordBytes log)

/-- What a log holds: nothing when there is none, the records of a log of an
older version, or those of a valid one. -/
inductive Stores (crc : Crc32) : Option LogFile → List (Nat × TxnId) → Prop
  | absent : Stores crc none []
  | legacy (file : LogFile) (whole : recordSize ∣ file.bytes.length)
      (below : ∀ entry ∈ parseRecords file.bytes, entry.1 < 2 ^ 32) :
      Stores crc (some file) (parseRecords file.bytes)
  | current (file : LogFile) (valid : ValidV2 crc file.bytes) :
      Stores crc (some file) (parseRecords (recordBytes file.bytes))

lemma numEntries_assemble (size : Nat) (recs)
    (crc : Nat) : readLe 8 ((assemble size recs crc).drop 5) = size % 256 ^ 8 := by
  have rest : (assemble size recs crc).drop 5 = leBytes 8 size ++ (recs ++ leBytes 4 crc) := by
    simp [assemble, magic]
  rw [rest, readLe_leBytes_append]

lemma footer_assemble (size : Nat) (recs) (crc : Nat) : readLe 4 ((assemble size recs crc).drop
      ((assemble size recs crc).length - footerSize)) = crc % 256 ^ 4 := by
  have place : (assemble size recs crc).length - footerSize =
      (magic ++ [version] ++ leBytes 8 size ++ recs).length := by
    simp [assemble, footerSize]
    omega
  rw [place, assemble, drop_left]
  simpa using readLe_leBytes_append 4 crc []

lemma validV2_assemble (crc) {recs : List UInt8} (counted : size * recordSize = recs.length)
    (small : size < 2 ^ 64) : ValidV2 crc (assemble size recs (crc.checksum 0 recs)) where
  current := isV2_assemble _ _ _
  counted := by
    rw [numEntries_assemble, recordBytes_assemble, Nat.mod_eq_of_lt (by simpa using small), counted]
  checked := by
    rw [footer_assemble, recordBytes_assemble, Nat.mod_eq_of_lt (crc.checksum_lt 0 recs)]

lemma version_ne_of_legacy {log : List UInt8} (long : recordSize ≤ log.length)
    (below : ∀ entry ∈ parseRecords log, entry.1 < 2 ^ 32) : log[4]? ≠ some version := by
  have first : readLe 8 log < 2 ^ 32 := by
    refine below (readLe 8 log, readLe 8 (log.drop 8)) ?_
    refine mem_map.mpr ⟨0, mem_range.mpr ?_, by simp⟩
    exact Nat.div_pos long (by decide)
  match log, long with
  | byte0 :: byte1 :: byte2 :: byte3 :: byte4 :: byte5 :: byte6 :: byte7 ::
      rest, _ =>
      simp only [readLe, readBytes, Option.map_some, Option.getD_some] at first
      intro same
      have versioned : byte4 = version := by simpa using same
      rw [versioned, show version.toNat = 1 from rfl] at first
      omega

lemma isV2_of_legacy {log : List UInt8} (whole : recordSize ∣ log.length)
    (below : ∀ entry ∈ parseRecords log, entry.1 < 2 ^ 32) : isV2 log = false := by
  rcases Nat.eq_zero_or_pos log.length with empty | filled
  · simp [isV2, empty, headerSize]
  · have other := version_ne_of_legacy (Nat.le_of_dvd filled whole) below
    simp [isV2, other]

lemma readV2With_of_valid (crc crcMismatch)
    (file : LogFile) (valid : ValidV2 crc file.bytes) : readV2With crc crcMismatch file.bytes =
      .ok (parseRecords (recordBytes file.bytes)) := by
  obtain ⟨current, count, checked⟩ := valid
  have versioned : file.bytes[4]? = some version := by
    simp only [isV2, Bool.and_eq_true, decide_eq_true_eq] at current
    exact current.2
  have recs : (file.bytes.drop headerSize).take
      (file.bytes.length - headerSize - footerSize) =
        recordBytes file.bytes := (if_pos current).symm
  have size : file.bytes.length - headerSize - footerSize = (recordBytes file.bytes).length := by
    rw [← recs, length_take, length_drop]
    omega
  have small : (recordBytes file.bytes).length < 2 ^ 64 := by
    have fits := file.fits
    rw [isizeMax] at fits
    omega
  rw [readV2With, if_neg (not_not.mpr versioned)]
  dsimp only
  rw [if_neg (not_not.mpr (by rw [count, Nat.mod_eq_of_lt small, size])),
    recs, if_neg (not_not.mpr checked.symm)]

variable {crc : Crc32} {file : Option LogFile}

lemma readDeltavis_of_stores (stores : Stores crc file records)
    (mmapOpens : Bool) : readDeltavis crc mmapOpens none file = .ok records := by
  cases stores with
  | absent => rfl
  | legacy file whole below =>
    have v2 (crcMismatch) (long : headerSize + footerSize ≤
        file.bytes.length) : readV2With crc crcMismatch file.bytes =
          .ok (parseRecords file.bytes) :=
      if_pos (version_ne_of_legacy (Nat.le_trans (by decide) long) below)
    simp only [readDeltavis]
    split_ifs with mapped marked short marked
    · exact v2 _ mapped.2
    · rfl
    · -- Fewer bytes than a record are none.
      obtain ⟨count, size⟩ := whole
      have none : file.bytes.length = 0 := by
        rw [recordSize] at size
        omega
      rw [eq_nil_of_length_eq_zero none]
      rfl
    · rw [readDeltavisV2, if_neg (Nat.not_lt.mpr marked.1), v2 _ marked.1]
    · rfl
  | current file valid =>
    have long : headerSize + footerSize ≤ file.bytes.length ∧ file.bytes.take 4 = magic := by
      have current := valid.current
      simp only [isV2, Bool.and_eq_true, decide_eq_true_eq] at current
      exact current.1
    have ne : ¬ file.bytes.length < 4 := Nat.not_lt.mpr (Nat.le_trans (by decide) long.1)
    simp only [readDeltavis]
    rw [if_pos long.2, if_neg ne, if_pos long, readDeltavisV2Mmap, readDeltavisV2, if_neg
      (Nat.not_lt.mpr long.1), readV2With_of_valid crc _ file valid, readV2With_of_valid crc _ file
      valid, ite_self]

lemma length_record (row txnId : Nat) : (record row txnId).length = recordSize := by
  simp [record, recordSize]

lemma markDeletedAppend_of_stores {entries} (stores : Stores crc file entries) :
    ∃ size recs, size * recordSize = recs.length ∧ parseRecords recs = entries ∧ ∀ row txnId,
        markDeletedAppend crc.checksum ((file.map LogFile.bytes).getD [])
          row txnId = assemble (size + 1) (recs ++ record row txnId)
            (crc.checksum 0 (recs ++ record row txnId)) := by
  cases stores with
  | absent => exact ⟨0, [], rfl, rfl, fun _ _ => rfl⟩
  | legacy file whole below =>
    have old := Bool.eq_false_iff.mp (isV2_of_legacy whole below)
    have last := Nat.div_mul_cancel whole
    refine ⟨file.bytes.length / recordSize, file.bytes, last, rfl, ?_⟩
    intro row txnId
    rw [Option.map_some, Option.getD_some, markDeletedAppend, if_neg old]
    by_cases ne : file.bytes = []
    · rw [ne]
      rfl
    · rw [if_pos ne]
      dsimp only
      rw [last, take_length]
  | current file valid =>
    refine ⟨_, _, valid.counted, rfl, fun row txnId => ?_⟩
    rw [Option.map_some, Option.getD_some, markDeletedAppend, if_pos valid.current]
    dsimp only
    rw [valid.checked, crc.checksum_checksum, recordBytes, if_pos valid.current]

lemma markStored_of_ok {after entries call}
    (stores : Stores crc file entries) (ran : markStored crc file call = (after, .ok ())) :
    ∃ log, after = some log ∧ ValidV2 crc log.bytes ∧
      parseRecords (recordBytes log.bytes) = entries ++ [call.entry] := by
  obtain ⟨numEntries, recs, count, parsed, same⟩ := markDeletedAppend_of_stores stores
  rw [markStored] at ran
  split at ran
  · cases ran
  · dsimp only at ran
    split at ran
    next fits =>
      cases ran
      refine ⟨_, rfl, ?_⟩
      dsimp only
      have size : (recs ++ record call.rowOffset.toNat
          call.txnId.toNat).length = (numEntries + 1) * recordSize := by
        rw [length_append, length_record, ← count, Nat.succ_mul]
      have small : numEntries + 1 < 2 ^ 64 := by
        rw [same, assemble, length_append, length_append, size, isizeMax, recordSize] at fits
        omega
      rw [same]
      refine ⟨validV2_assemble crc size.symm small, ?_⟩
      rw [recordBytes_assemble, parseRecords_append recs (count ▸ Nat.dvd_mul_left _ _), parsed,
        Nat.mod_eq_of_lt call.rowOffset.toNat_lt,
        Nat.mod_eq_of_lt call.txnId.toNat_lt]
      rfl
    next => cases ran

lemma markStored_of_error {after call err}
    (fails : markStored crc file call = (after, .error err)) : after = file := by
  rw [markStored] at fails
  split at fails
  · exact (congrArg Prod.fst fails).symm
  · dsimp only at fails
    split at fails
    · cases fails
    · exact (congrArg Prod.fst fails).symm

/-- What the log of a segment holds after some calls. -/
structure Follows (crc : Crc32) (start : Option LogFile)
    (initial appended : List (Nat × TxnId)) (file : Option LogFile) :
    Prop where
  stores : Stores crc file (initial ++ appended)
  current : appended ≠ [] ∨
    (∃ log, start = some log ∧ ValidV2 crc log.bytes) →
      ∃ log, file = some log ∧ ValidV2 crc log.bytes

lemma Follows.markStored {crc start file initial appended}
    (follows : Follows crc start initial appended file) (call) :
    Follows crc start initial (appended ++ match (markStored crc file call).2 with
        | .ok _ => [call.entry]
        | .error _ => []) (markStored crc file call).1 := by
  rcases step : Deltavis.markStored crc file call with ⟨after, err | done⟩
  · rw [markStored_of_error step]
    simpa using follows
  · obtain ⟨log, rfl, valid, parsed⟩ := markStored_of_ok follows.stores step
    refine ⟨?_, fun _ => ⟨log, rfl, valid⟩⟩
    dsimp only
    rw [← append_assoc, ← parsed]
    exact .current log valid

lemma follows_acknowledged (stores : Stores crc start initial) (calls) :
    Follows crc start initial (acknowledged crc start calls)
      ((deleteLog crc start).stateAfter calls) := by
  induction calls using List.reverseRecOn with
  | nil =>
    have start : Stores crc start (initial ++ []) := by simpa using stores
    refine ⟨start, ?_⟩
    rintro (ne | current)
    · exact absurd rfl ne
    · exact current
  | append_singleton calls call ih =>
    rw [acknowledged, Machine.collect_concat, Machine.stateAfter_concat]
    exact ih.markStored call

/-- The delete log is exact.  After any calls the reader returns what the log
held at first and then the records of the calls that returned, in order, and
once a call has returned the log is a valid one of this version. -/
theorem readDeltavis_acknowledged (crc : Crc32) {start : Option LogFile}
    {initial : List (Nat × TxnId)} (stores : Stores crc start initial) (calls : List MarkCall)
    (mmapOpens : Bool) : readDeltavis crc mmapOpens none ((deleteLog crc start).stateAfter calls) =
        .ok (initial ++ acknowledged crc start calls) ∧ (acknowledged crc start calls ≠ [] ∨
        (∃ log, start = some log ∧ ValidV2 crc log.bytes) →
        ∃ log, (deleteLog crc start).stateAfter calls = some log ∧ ValidV2 crc log.bytes) :=
  have follows := follows_acknowledged stores calls
  ⟨readDeltavis_of_stores follows.stores mmapOpens, follows.current⟩

/-- A legacy log of two records whose first bytes are those of the magic.  Its fifth byte is not
the version. -/
def ambiguousLog : LogFile where
  bytes := record 0x53495644 9 ++ record 6 8
  fits := by decide

theorem readDeltavis_acknowledged_ambiguous :
    Stores .bitwise (some ambiguousLog) [(0x53495644, 9), (6, 8)] ∧
      readDeltavis .bitwise true none
          ((deleteLog .bitwise (some ambiguousLog)).stateAfter [⟨5, 7, none⟩]) =
        .ok [(0x53495644, 9), (6, 8), (5, 7)] ∧
      ∃ log, (deleteLog .bitwise (some ambiguousLog)).stateAfter [⟨5, 7, none⟩] = some log ∧
        ValidV2 .bitwise log.bytes := by
  have stores : Stores .bitwise (some ambiguousLog) [(0x53495644, 9), (6, 8)] :=
    .legacy ambiguousLog (by decide) (by decide)
  have holds := readDeltavis_acknowledged .bitwise stores [⟨5, 7, none⟩] true
  exact ⟨stores, holds.1, holds.2 (.inl (cons_ne_nil _ _))⟩

end Deltavis

end RockDuck
