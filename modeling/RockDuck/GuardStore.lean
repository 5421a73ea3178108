import RockDuck.PatchFormat

/-!
# The second delta layer

Patches lie in guard files, one for the first ten thousand rows of a column.
-/

namespace RockDuck

/-- A segment, a column and the first row of a guard. -/
abbrev GuardKey := String ×ₗ String ×ₗ Nat

def guardKey (segId column : String) (startRow : Nat) : GuardKey :=
  toLex (segId, toLex (column, startRow))

namespace GuardKey

def segId (key : GuardKey) : String := (ofLex key).1

def column (key : GuardKey) : String := (ofLex (ofLex key).2).1

end GuardKey

/-- The transactions in a guard, as far as they were noted. -/
structure GuardZoneMap where
  minTxn : TxnId
  maxTxn : TxnId
  deriving DecidableEq

namespace GuardZoneMap

def empty : GuardZoneMap := ⟨0, 0⟩

/-- Zero stands for no transaction yet. -/
def update (zoneMap : GuardZoneMap) (patch : PatchZoneMap) : GuardZoneMap where
  minTxn :=
    if zoneMap.minTxn = 0 ∨ patch.minTxn < zoneMap.minTxn then patch.minTxn
    else zoneMap.minTxn
  maxTxn :=
    if zoneMap.maxTxn = 0 ∨ zoneMap.maxTxn < patch.maxTxn then patch.maxTxn
    else zoneMap.maxTxn

end GuardZoneMap

/-- The second layer: the guards, their files and the cache. -/
structure DeltaL2Disk where
  guards : Std.ExtTreeMap GuardKey GuardZoneMap
  segColIndex : Std.ExtTreeMap (String ×ₗ String) (List GuardKey)
  patchCache : Std.ExtTreeMap GuardKey (List StoredDeltaCell)
  files : Std.ExtTreeMap GuardKey Bytes
  tmpFiles : Std.ExtTreeMap GuardKey Bytes
  indexed : ∀ {place : String ×ₗ String} {keys : List GuardKey},
    segColIndex[place]? = some keys →
      ∀ key ∈ keys, key.segId = (ofLex place).1

def maxPayloadSize : Nat := 256 * 1024 * 1024

def deltaFileMagic : Nat := 0x44504C54

/-- The error for a file with another magic number. -/
def invalidMagic (magic : Nat) : RockDuckError :=
  let expected := String.ofList (Nat.toDigits 16 deltaFileMagic)
  let found := String.ofList (Nat.toDigits 16 magic)
  .delta ("invalid delta file magic: expected " ++ expected ++ ", got " ++
    String.ofList (List.replicate (8 - found.length) '0') ++ found)

namespace DeltaL2Disk

def empty : DeltaL2Disk where
  guards := ∅
  segColIndex := ∅
  patchCache := ∅
  files := ∅
  tmpFiles := ∅
  indexed := by simp

section Reading

variable (codecs : PatchCodecs)

/-- What the head of a patch says, or why the file cannot be read from here
on. -/
def readHead (offset : Nat) (bytes : Bytes) : Except RockDuckError (TxnId × TxnId × Nat) :=
  let payloadSize := readLe 4 (bytes.drop 24)
  let remaining := bytes.length - 32
  let maximum := maxPayloadSize
  if maxPayloadSize < payloadSize then
    .error (.delta
      s!"implausible payload_size {payloadSize} at offset {offset} (max {maximum})")
  else if remaining < payloadSize then
    .error (.delta
      s!"payload_size {payloadSize} exceeds remaining file bytes {remaining} at offset {offset}")
  else .ok (readLe 8 (bytes.drop 8), readLe 8 (bytes.drop 16), payloadSize)

/-- The visible cells of the patches, from an offset on. -/
def loadFrom (snapshotTxn : TxnId) : Nat → Nat → Bytes → Except ReadFailure (List StoredDeltaCell)
  | 0, _, _ => .ok []
  | fuel + 1, offset, bytes =>
    if bytes.length < 32 then .ok []
    else
      match readHead offset bytes with
      | .error error => .error (.error error)
      | .ok (_, txnEnd, payloadSize) =>
        let rest := bytes.drop (32 + payloadSize)
        if snapshotTxn < txnEnd then
          loadFrom snapshotTxn fuel (offset + 32 + payloadSize) rest
        else
          match DeltaPatchFormat.fromBytes
              ((bytes.drop 32).take payloadSize) with
          | .error failure => .error failure
          | .ok none =>
            .error (.error (.delta
              s!"failed to parse DeltaPatchFormat at offset {offset}"))
          | .ok (some format) =>
            match codecs.patchToDeltas format with
            | .error failure => .error failure
            | .ok cells =>
              (loadFrom snapshotTxn fuel (offset + 32 + payloadSize) rest).map (cells ++ ·)

/-- The magic number is checked where there is a whole header. -/
def checkMagic (file : Bytes) : Except RockDuckError Unit :=
  if 64 ≤ file.length ∧ readLe 4 file ≠ deltaFileMagic then
    .error (invalidMagic (readLe 4 file))
  else .ok ()

/-- The visible cells of a guard's file. -/
def loadPatchesFromGuard (file : Option Bytes) (snapshotTxn : TxnId) :
    Except ReadFailure (List StoredDeltaCell) :=
  match file with
  | none => .ok []
  | some file =>
    match checkMagic file with
    | .error error => .error (.error error)
    | .ok () => loadFrom codecs snapshotTxn file.length 64 (file.drop 64)

/-- What the reader of all patches gives for one of them. -/
structure MergePatchRef where
  patchId : Nat
  format : DeltaPatchFormat
  txnRange : TxnId × TxnId

/-- All patches from an offset of the file on.  A payload that is no patch is
passed over without its head; without a payload the reader does not get on,
and the result is `none`. -/
def readAllFrom : Nat → Nat → Bytes → Option (Except ReadFailure (List MergePatchRef))
  | 0, _, _ => some (.ok [])
  | fuel + 1, offset, bytes =>
    if bytes.length < 32 then some (.ok [])
    else
      match readHead offset bytes with
      | .error error => some (.error (.error error))
      | .ok (txnStart, txnEnd, payloadSize) =>
        match DeltaPatchFormat.fromBytes
            ((bytes.drop 32).take payloadSize) with
        | .error failure => some (.error failure)
        | .ok none =>
          if payloadSize = 0 then none
          else
            readAllFrom fuel (offset + payloadSize)
              (bytes.drop payloadSize)
        | .ok (some format) =>
          (readAllFrom fuel (offset + 32 + payloadSize)
            (bytes.drop (32 + payloadSize))).map fun rest =>
              rest.map (⟨readLe 8 bytes, format, (txnStart, txnEnd)⟩ :: ·)

/-- All patches of a file.  There is no answer when the reader gets stuck. -/
def readAllPatches (file : Option Bytes) : Option (Except ReadFailure (List MergePatchRef)) :=
  match file with
  | none => some (.ok [])
  | some file =>
    match checkMagic file with
    | .error error => some (.error (.error error))
    | .ok () => readAllFrom file.length 64 (file.drop 64)

end Reading

variable (codecs : PatchCodecs) (disk : DeltaL2Disk)

/-- The guards of a segment. -/
def guardKeys (segId : String) : List GuardKey :=
  (disk.segColIndex.toList.filter fun entry => decide ((ofLex entry.1).1 = segId)).flatMap Prod.snd

/-- The visible cells of a guard.  One older than the snapshot counts as empty. -/
def guardCells (key : GuardKey) (snapshotTxn : TxnId) : Except ReadFailure (List StoredDeltaCell) :=
  match disk.guards[key]? with
  | none => .ok []
  | some zoneMap =>
    if zoneMap.maxTxn < snapshotTxn then .ok []
    else
      match disk.patchCache[key]? with
      | some cached => .ok cached
      | none => loadPatchesFromGuard codecs disk.files[key]? snapshotTxn

/-- The cells of all guards.  A panic of one outweighs an error of another. -/
def joinGuards : List (Except ReadFailure (List StoredDeltaCell)) →
      Except ReadFailure (List StoredDeltaCell)
  | [] => .ok []
  | .error (.panicked message) :: _ => .error (.panicked message)
  | .error (.error error) :: rest =>
    match joinGuards rest with
    | .error (.panicked message) => .error (.panicked message)
    | _ => .error (.error error)
  | .ok cells :: rest => (joinGuards rest).map (cells ++ ·)

/-- What is cached on the way is left out. -/
def getVisible (segId : String) (snapshotTxn : TxnId) : Except ReadFailure (List StoredDeltaCell) :=
  joinGuards ((disk.guardKeys segId).map fun key => disk.guardCells codecs key snapshotTxn)

/-- The cells of a guard, where an error counts as none. -/
def batchCells (key : GuardKey) (snapshotTxn : TxnId) : Except ReadFailure (List StoredDeltaCell) :=
  match disk.guardCells codecs key snapshotTxn with
  | .error (.error _) => .ok []
  | answer => answer

/-- The visible cells of some segments. -/
def getVisibleBatch (segIds : List String) (snapshotTxn : TxnId) :
    Except ReadFailure (Std.ExtTreeMap String (List StoredDeltaCell)) :=
  ((segIds.flatMap disk.guardKeys).mapM fun key =>
    (disk.batchCells codecs key snapshotTxn).map fun cells =>
      (key, cells)).map fun loaded =>
        Std.ExtTreeMap.ofList (segIds.dedup.map fun segId =>
          (segId, (loaded.filter fun entry => decide (entry.1.segId = segId)).flatMap Prod.snd))

def getSegmentIds : List String :=
  (disk.guards.toList.map fun entry => entry.1.segId).dedup

/-- The disk with a guard of the column. -/
def findOrCreateGuard (segId column : String) : DeltaL2Disk :=
  let key := guardKey segId column 0
  if disk.guards.contains key then disk
  else
    { disk with
      guards := disk.guards.insert key .empty
      segColIndex := disk.segColIndex.insert (toLex (segId, column))
        (disk.segColIndex.getD (toLex (segId, column)) [] ++ [key])
      indexed := by
        intro place keys found other among
        rw [Std.ExtTreeMap.getElem?_insert] at found
        split at found
        · rename_i same
          cases Std.LawfulEqOrd.eq_of_compare same
          cases found
          rcases List.mem_append.mp among with before | last
          · rw [Std.ExtTreeMap.getD_eq_getD_getElem?] at before
            cases held : disk.segColIndex[toLex (segId, column)]? with
            | none => simp [held] at before
            | some listed =>
              rw [held, Option.getD_some] at before
              exact disk.indexed held other before
          · cases List.mem_singleton.mp last
            rfl
        · exact disk.indexed found other among }

/-- A patch as it is appended to the file. -/
def patchBytes (patch : DeltaPatch) : Bytes :=
  let payload := patch.format.toBytes
  leBytes 8 patch.patchId ++ leBytes 8 patch.txnRange.1 ++
    leBytes 8 patch.txnRange.2 ++ [if patch.format.isSparse then 0 else 1] ++
    leBytes 8 patch.zoneMap.affectedRows ++ leBytes 4 payload.length ++ payload

def fileHeader : Bytes :=
  leBytes 4 deltaFileMagic ++ List.replicate 60 0

/-- Append a patch to the guard of its column. -/
def appendPatch (segId column : String) (patch : DeltaPatch) (fault : Fault) :
    DeltaL2Disk × Except RockDuckError Unit :=
  let key := guardKey segId column 0
  let disk := disk.findOrCreateGuard segId column
  match fault with
  | some error => (disk, .error error)
  | none =>
    let left := disk.tmpFiles.getD key []
    let file := (if left.isEmpty then fileHeader else left) ++ patchBytes patch
    ({ disk with
        files := disk.files.insert key file
        tmpFiles := disk.tmpFiles.erase key
        guards := disk.guards.insert key
          ((disk.guards.getD key .empty).update patch.zoneMap) }, .ok ())

def guardsBySeg (segId : String) : List (GuardKey × TxnId) :=
  (disk.guards.toList.filter fun entry =>
    decide (entry.1.segId = segId)).map fun entry => (entry.1, entry.2.minTxn)

def readAllPatchesFromGuard (key : GuardKey) : Option (Except ReadFailure (List MergePatchRef)) :=
  if disk.guards.contains key then readAllPatches disk.files[key]?
  else some (.ok [])

/-- Delete a guard with its file. -/
def deleteGuardFile (key : GuardKey) (fault : Fault) : DeltaL2Disk × Except RockDuckError Unit :=
  if disk.guards.contains key then
    match fault with
    | some error => (disk, .error error)
    | none =>
      ({ disk with
          files := disk.files.erase key
          guards := disk.guards.erase key }, .ok ())
  else (disk, .ok ())

end DeltaL2Disk

end RockDuck
