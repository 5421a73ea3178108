import RockDuck.BlockZoneMap
import RockDuck.GranuleBloom

/-!
# Zone map files

The index of a column is written behind a header of eight bytes.
-/

namespace RockDuck

open List

/-- The statistics of a granule. -/
structure GranuleStats where
  granuleId : UInt32
  blockSize : UInt32
  blocks : List BlockStats
  bloomFilter : Option SbbFilter

namespace GranuleStats

def totalRows (granule : GranuleStats) : UInt32 :=
  granule.blocks.foldl (fun rows block => rows + (block.rowEnd - block.rowStart)) 0

variable (tools : BloomTools)

def initBloomFilter (granule : GranuleStats) (expectedEntries : UInt32) : GranuleStats :=
  { granule with bloomFilter := some (.forEntries tools expectedEntries) }

/-- A new filter for the rows of a granule. -/
def rebuild (granule : GranuleStats) : GranuleStats :=
  if 0 < granule.totalRows then granule.initBloomFilter tools granule.totalRows
  else granule

def insertPk (granule : GranuleStats) (pk : Bytes) : GranuleStats :=
  { granule with
    bloomFilter := granule.bloomFilter.map fun filter => filter.insert tools.hash pk }

/-- The granule may have the key. -/
def mightContainPk (granule : GranuleStats) (pk : Bytes) : Bool :=
  granule.bloomFilter.elim true fun filter => filter.mightContain tools.hash pk

def withoutFilter (granule : GranuleStats) : GranuleStats :=
  { granule with bloomFilter := none }

variable {tools}

/-- A filter that was made anew reports nothing. -/
lemma mightContainPk_rebuild (granule : GranuleStats) (pk) :
    (granule.withoutFilter.rebuild tools).mightContainPk tools pk = true ↔
      granule.totalRows = 0 := by
  have rows : granule.withoutFilter.totalRows = granule.totalRows := rfl
  have unreported : (SbbFilter.forEntries tools granule.totalRows).mightContain
      tools.hash pk = false :=
    SbbFilter.mightContain_of_marked_eq_empty
      (SbbFilter.marked_forEntries tools granule.totalRows) pk
  rw [rebuild, rows]
  by_cases none : granule.totalRows = 0
  · simp [none, mightContainPk, withoutFilter]
  · have pos : 0 < granule.totalRows := UInt32.pos_iff_ne_zero.mpr none
    simp [pos, none, mightContainPk, initBloomFilter, unreported]

end GranuleStats

/-- The index of a column as it is kept and written. -/
structure StoredZoneMapIndex where
  magic : UInt32
  version : UInt8
  colName : String
  columnType : DataType
  blockSize : UInt32
  granuleSize : UInt32
  granules : List GranuleStats

namespace StoredZoneMapIndex

def fileMagic : UInt32 := 0x424C434B

def fileVersion : UInt8 := 3

def new (colName : String) (columnType : DataType) : StoredZoneMapIndex where
  magic := fileMagic
  version := fileVersion
  colName := colName
  columnType := columnType
  blockSize := 8192
  granuleSize := 8
  granules := []

/-- The index without its filters and header. -/
def blockIndex (index : StoredZoneMapIndex) : GranuleZoneMapIndex where
  columnType := index.columnType
  granules := index.granules.map GranuleStats.blocks

def withoutFilters (index : StoredZoneMapIndex) : StoredZoneMapIndex :=
  { index with granules := index.granules.map GranuleStats.withoutFilter }

/-- New filters for all granules. -/
def rebuildAll (tools : BloomTools) (index : StoredZoneMapIndex) : StoredZoneMapIndex :=
  { index with granules := index.granules.map (GranuleStats.rebuild tools) }

end StoredZoneMapIndex

/-- The encoding of an index: the fields in their order, numbers with their
least significant byte first and a text behind its length.  What is written can
be read, but for the filters. -/
structure IndexCodec where
  serialize : StoredZoneMapIndex → Bytes
  deserialize : Bytes → Except String StoredZoneMapIndex
  read : ∀ index, deserialize (serialize index) = .ok index.withoutFilters
  layout : ∀ index, ∃ rest, serialize index =
    leBytes 4 index.magic.toNat ++ index.version ::
      (leBytes 8 index.colName.toUTF8.toList.length ++ (index.colName.toUTF8.toList ++ rest))
  readLayout : ∀ bytes index, deserialize bytes = .ok index →
    ∃ rest, bytes = leBytes 4 index.magic.toNat ++ index.version :: rest

namespace StoredZoneMapIndex

def headerSize : Nat := 8

def sizeLimit : Nat := 10 * 1024 * 1024

variable (tools : BloomTools) (codec : IndexCodec)

/-- The file of an index. -/
def toBytes (index : StoredZoneMapIndex) : Bytes :=
  leBytes 4 fileMagic.toNat ++ [fileVersion, 0, 0, 0] ++ codec.serialize index

/-- Read the payload. -/
def readPayload (part : String) (payload : Bytes) : Except RockDuckError StoredZoneMapIndex :=
  let size := payload.length
  let limit := sizeLimit
  if limit < size then .error (.codec
    s!"GranuleZoneMapIndex {part} too large: {size} > {limit} bytes")
  else
    match codec.deserialize payload with
    | .error message => .error (.codec
        s!"bincode decode GranuleZoneMapIndex: {message}")
    | .ok index => .ok (index.rebuildAll tools)

def hexText (number : Nat) : String :=
  "0x" ++ String.ofList (Nat.toDigits 16 number)

/-- Read a file with a header. -/
def fromHeaded (data : Bytes) : Except RockDuckError StoredZoneMapIndex :=
  let headerVersion := data.getD 4 0
  let newest := fileVersion
  if newest < headerVersion then .error (.codec
    s!"unsupported GranuleZoneMapIndex version: {headerVersion} (max: {newest})")
  else
    match readPayload tools codec "payload" (data.drop headerSize) with
    | .error error => .error error
    | .ok index =>
      let payloadVersion := index.version
      if payloadVersion = headerVersion then .ok index
      else .error (.codec
        s!"GranuleZoneMapIndex version mismatch: header={headerVersion}, payload={payloadVersion}")

/-- A file of one of the versions without a header.  The oldest one has no type
of the column. -/
def fromBare (data : Bytes) : Except RockDuckError StoredZoneMapIndex :=
  match readPayload tools codec "data" data with
  | .error error => .error error
  | .ok index =>
    let expected := hexText fileMagic.toNat
    let found := hexText index.magic.toNat
    if index.magic ≠ fileMagic then .error (.codec
      s!"invalid GranuleZoneMapIndex magic: expected {expected}, got {found}")
    else if index.version < 2 then .ok { index with columnType := .unordered }
    else .ok index

/-- Read a file with or without a header. -/
def fromBytes (data : Bytes) : Except RockDuckError StoredZoneMapIndex :=
  if headerSize ≤ data.length ∧ readBytes 4 data = some fileMagic.toNat then
    fromHeaded tools codec data
  else fromBare tools codec data

def insertPkAt (index : StoredZoneMapIndex) (position : Nat) (pk : Bytes) : StoredZoneMapIndex :=
  { index with
    granules := index.granules.modify position fun granule => granule.insertPk tools pk }

def insertPks (index : StoredZoneMapIndex) (inserted : List (Nat × Bytes)) : StoredZoneMapIndex :=
  inserted.foldl (fun index entry => index.insertPkAt tools entry.1 entry.2) index

variable {tools codec}

section

variable (index : StoredZoneMapIndex)

lemma withoutFilters_insertPkAt (pos : Nat) (pk) :
    (index.insertPkAt tools pos pk).withoutFilters = index.withoutFilters := by
  have same : (index.granules.modify pos fun granule =>
      granule.insertPk tools pk).map GranuleStats.withoutFilter =
        index.granules.map GranuleStats.withoutFilter := by
    apply ext_getElem?
    intro place
    rw [getElem?_map, getElem?_map, getElem?_modify]
    cases index.granules[place]? with
    | none => rfl
    | some granule =>
      by_cases here : pos = place <;>
        simp [here, GranuleStats.withoutFilter, GranuleStats.insertPk]
  simp only [withoutFilters, insertPkAt, same]

/-- Keys go into the filters, and nothing of them is written. -/
lemma withoutFilters_insertPks (inserted) :
    (index.insertPks tools inserted).withoutFilters = index.withoutFilters := by
  induction inserted generalizing index with
  | nil => rfl
  | cons entry inserted ih =>
    exact (ih (index.insertPkAt tools entry.1 entry.2)).trans
      (withoutFilters_insertPkAt index entry.1 entry.2)

lemma blockIndex_rebuildAll :
    (index.withoutFilters.rebuildAll tools).blockIndex = index.blockIndex := by
  have same : ∀ granule : GranuleStats,
      (granule.withoutFilter.rebuild tools).blocks = granule.blocks := by
    intro granule
    unfold GranuleStats.rebuild
    split <;> rfl
  simp [blockIndex, rebuildAll, withoutFilters, Function.comp_def, same]

lemma fromBytes_toBytes (small : (codec.serialize index).length < sizeLimit) :
    fromBytes tools codec (index.toBytes codec) =
      if index.version = fileVersion then
        .ok (index.withoutFilters.rebuildAll tools)
      else
        let header := fileVersion
        let payload := index.version
        .error (.codec
          s!"GranuleZoneMapIndex version mismatch: header={header}, payload={payload}") := by
  have magicRead : readBytes 4 (index.toBytes codec) = some fileMagic.toNat := by
    rw [toBytes, append_assoc, readBytes_leBytes_append]
    rfl
  have long : headerSize ≤ (index.toBytes codec).length := by simp [toBytes, headerSize, leBytes]
  have versionRead : (index.toBytes codec).getD 4 0 = fileVersion := by simp [toBytes, leBytes]
  have payload : (index.toBytes codec).drop headerSize = codec.serialize index := by
    simp [toBytes, headerSize, leBytes]
  rw [fromBytes, if_pos ⟨long, magicRead⟩]
  simp only [fromHeaded, versionRead, payload, readPayload, codec.read,
    Nat.not_lt.mpr small.le, if_false]
  rfl

end

variable {loaded : StoredZoneMapIndex}

lemma of_readPayload_eq_ok (read : readPayload tools codec part payload = .ok loaded) :
    payload.length ≤ sizeLimit ∧ ∃ idx, codec.deserialize payload = .ok idx ∧
      loaded = idx.rebuildAll tools := by
  simp only [readPayload] at read
  split at read
  · simp at read
  case isFalse small =>
      refine ⟨Nat.not_lt.mp small, ?_⟩
      cases decoded : codec.deserialize payload with
      | error msg => simp [decoded] at read
      | ok idx => exact ⟨idx, rfl, by simpa [decoded] using read.symm⟩

lemma of_fromHeaded_eq_ok (read : fromHeaded tools codec data = .ok loaded) :
    readPayload tools codec "payload" (data.drop headerSize) = .ok loaded ∧
      loaded.version = data.getD 4 0 := by
  simp only [fromHeaded] at read
  split at read
  · simp at read
  · cases payload : readPayload tools codec "payload" (data.drop headerSize) with
    | error error => simp [payload] at read
    | ok idx =>
      simp only [payload] at read
      split at read
      case isTrue same => exact Except.ok.inj read ▸ ⟨rfl, same⟩
      case isFalse => simp at read

variable {index : StoredZoneMapIndex}

lemma fromBytes_serialize_ne_ok (isMagic : index.magic = fileMagic) (isVersion : index.version = 2)
    (loaded) : fromBytes tools codec (codec.serialize index) ≠ .ok loaded := by
  obtain ⟨rest, layout⟩ := codec.layout index
  generalize index.colName.toUTF8.toList = name at layout
  have magicRead : readBytes 4 (codec.serialize index) = some fileMagic.toNat := by
    rw [layout, readBytes_leBytes_append, isMagic]
    rfl
  have long : headerSize ≤ (codec.serialize index).length := by simp [layout, headerSize, leBytes]
  have versionRead : (codec.serialize index).getD 4 0 = 2 := by simp [layout, leBytes, isVersion]
  have payload : (codec.serialize index).drop headerSize =
      (leBytes 8 name.length).drop 3 ++ (name ++ rest) := by
    simp [layout, headerSize, leBytes]
  intro read
  rw [fromBytes, if_pos ⟨long, magicRead⟩] at read
  obtain ⟨readPayload, version⟩ := of_fromHeaded_eq_ok read
  rw [payload] at readPayload
  obtain ⟨small, found, decoded, rfl⟩ := of_readPayload_eq_ok readPayload
  obtain ⟨after, isPayload⟩ := codec.readLayout _ found decoded
  have shortName : name.length ≤ 10 * 1024 * 1024 := by
    simp only [length_append, sizeLimit] at small
    omega
  have top : name.length / 256 / 256 / 256 / 256 / 256 / 256 / 256 = 0 := by omega
  have versionByte : found.version =
      ((leBytes 8 name.length).drop 3 ++ (name ++ rest)).getD 4 0 := by
    rw [isPayload]
    simp [leBytes]
  have zero : found.version = 0 := by
    rw [versionByte]
    simp [leBytes, top]
  rw [versionRead] at version
  simp [rebuildAll, zero] at version

lemma version_insertPks (index : StoredZoneMapIndex) (inserted) :
    (index.insertPks tools inserted).version = index.version := by
  have same : (index.insertPks tools inserted).withoutFilters.version =
      index.withoutFilters.version := by
    rw [withoutFilters_insertPks]
  exact same

lemma granules_rebuildAll {pos : Nat} {granule : GranuleStats}
    (found : index.granules[pos]? = some granule) :
    (index.withoutFilters.rebuildAll tools).granules[pos]? =
      some (granule.withoutFilter.rebuild tools) := by
  simp [rebuildAll, withoutFilters, found]

/-- The file gives the blocks back, and no key is lost. -/
def ComesBack (tools : BloomTools) (codec : IndexCodec)
    (index : StoredZoneMapIndex) (inserted : List (Nat × Bytes)) : Prop :=
  ∃ loaded, fromBytes tools codec
      ((index.insertPks tools inserted).toBytes codec) = .ok loaded ∧
    loaded.blockIndex = index.blockIndex ∧
    ∀ entry ∈ inserted, ∀ granule, index.granules[entry.1]? = some granule →
      granule.bloomFilter.isSome = true →
        ∃ read, loaded.granules[entry.1]? = some read ∧
          read.mightContainPk tools entry.2 = true

lemma comesBack_iff {inserted : List (Nat × Bytes)}
    (small : (codec.serialize (index.insertPks tools inserted)).length < sizeLimit) :
    ComesBack tools codec index inserted ↔ index.version = fileVersion ∧
        ∀ entry ∈ inserted, ∀ granule, index.granules[entry.1]? = some granule →
          granule.bloomFilter.isSome = true → granule.totalRows = 0 := by
  rw [ComesBack, fromBytes_toBytes _ small, version_insertPks, withoutFilters_insertPks]
  by_cases current : index.version = fileVersion
  · simp only [current, if_true, Except.ok.injEq, exists_eq_left', true_and, blockIndex_rebuildAll]
    refine forall₂_congr fun entry _ => forall₂_congr fun granule found => ?_
    simp [granules_rebuildAll found, GranuleStats.mightContainPk_rebuild]
  · simp [current]

/-- What a file keeps.  An index comes back when its version is the current one
and no granule with rows has a key in its filter; an index of the second version
without a header is never read. -/
theorem persistence_iff (tools : BloomTools) (codec : IndexCodec) :
    (∀ (index : StoredZoneMapIndex) (inserted : List (Nat × Bytes)),
      (codec.serialize (index.insertPks tools inserted)).length < sizeLimit →
        (ComesBack tools codec index inserted ↔
          index.version = fileVersion ∧
            ∀ entry ∈ inserted, ∀ granule, index.granules[entry.1]? = some granule →
              granule.bloomFilter.isSome = true → granule.totalRows = 0)) ∧
    ∀ index : StoredZoneMapIndex, index.magic = fileMagic → index.version = 2 →
      ∀ loaded, fromBytes tools codec (codec.serialize index) ≠ .ok loaded := by
  constructor
  · intro index inserted small
    exact comesBack_iff small
  · intro index isMagic isVersion loaded
    exact fromBytes_serialize_ne_ok isMagic isVersion loaded

end StoredZoneMapIndex

deriving instance Countable for IntegerType
deriving instance Countable for FloatFormat
deriving instance Countable for DataType
deriving instance Countable for BlockColumnStats
deriving instance Countable for BlockStats
deriving instance Countable for GranuleStats
deriving instance Countable for StoredZoneMapIndex

namespace StoredZoneMapIndex

def nameBytes (index : StoredZoneMapIndex) : Bytes :=
  index.colName.toUTF8.toList

def paddedCode (number : StoredZoneMapIndex → Nat) (index : StoredZoneMapIndex) : Bytes :=
  leBytes 4 index.magic.toNat ++ index.version ::
    (leBytes 8 index.nameBytes.length ++ (index.nameBytes ++ List.replicate
      (Nat.pair index.nameBytes.length (number index.withoutFilters) - index.nameBytes.length) 0))

lemma length_paddedCode (num idx) : (paddedCode num idx).length =
      13 + Nat.pair idx.nameBytes.length (num idx.withoutFilters) := by
  have fits := Nat.left_le_pair idx.nameBytes.length (num idx.withoutFilters)
  simp only [paddedCode, length_append, length_cons, length_replicate, length_leBytes]
  omega

lemma withoutFilters_eq_of_paddedCode (injective : Function.Injective num)
    (same : paddedCode num left = paddedCode num right) :
    left.withoutFilters = right.withoutFilters := by
  have lengths := congrArg List.length same
  rw [length_paddedCode, length_paddedCode] at lengths
  exact injective (Nat.pair_eq_pair.mp (Nat.add_left_cancel lengths)).2

lemma exists_indexCodec (index : StoredZoneMapIndex) (shortName : index.nameBytes.length ≤ 100) :
    ∃ codec : IndexCodec, ∀ other : StoredZoneMapIndex,
      other.withoutFilters = index.withoutFilters → (codec.serialize other).length < sizeLimit := by
  classical
  obtain ⟨num, injective, isFirst⟩ := exists_injective_number index.withoutFilters
  refine ⟨⟨paddedCode num, fun bytes =>
    if written : ∃ index, paddedCode num index = bytes then
      .ok written.choose.withoutFilters
    else .error "", fun index => ?_, fun index => ⟨_, rfl⟩,
    fun bytes index decoded => ?_⟩, fun other same => ?_⟩
  · have written : ∃ other, paddedCode num other = paddedCode num index := ⟨index, rfl⟩
    rw [dif_pos written, withoutFilters_eq_of_paddedCode injective written.choose_spec]
  · split at decoded
    case isTrue written =>
        rw [← written.choose_spec, ← Except.ok.inj decoded]
        exact ⟨_, rfl⟩
    case isFalse => simp at decoded
  · have names : other.nameBytes.length ≤ 100 := by
      have sameName := congrArg nameBytes same
      exact (congrArg List.length sameName).trans_le shortName
    have square := Nat.pair_lt_max_add_one_sq other.nameBytes.length 0
    have bound : (max other.nameBytes.length 0 + 1) ^ 2 ≤ 101 ^ 2 :=
      Nat.pow_le_pow_left (by omega) 2
    rw [length_paddedCode, same, isFirst]
    simp only [sizeLimit]
    omega

def fiveRows : StoredZoneMapIndex :=
  { new "id" (.integer .int64) with
    granules :=
      [⟨0, 8192, [⟨⟨some (leBytes 8 1), some (leBytes 8 9), 0⟩, 0, 5⟩],
        some (.new 1 (by decide))⟩] }

def olderRows : StoredZoneMapIndex := { fiveRows with version := 2 }

lemma fiveRows_shortName : fiveRows.nameBytes.length ≤ 100 := by
  decide +kernel

/-- Without a key the index comes back; of the second version it is not read
without a header. -/
theorem fiveRows_persistence : ∃ (tools : BloomTools) (codec : IndexCodec),
      ComesBack tools codec fiveRows [] ∧
        ∀ loaded, fromBytes tools codec (codec.serialize olderRows) ≠ .ok loaded := by
  obtain ⟨tools, -, -⟩ := exists_bloomTools (fun _ => (0, 0)) id
  obtain ⟨codec, small⟩ := exists_indexCodec fiveRows fiveRows_shortName
  refine ⟨tools, codec, ?_, ?_⟩
  · exact ((persistence_iff tools codec).1 fiveRows [] (small _ rfl)).mpr ⟨rfl, by simp⟩
  · exact (persistence_iff tools codec).2 olderRows rfl rfl

/-- A key of the granule is not reported after loading, and an index of the
second version is read neither with a header nor without. -/
theorem fiveRows_lost : ∃ (tools : BloomTools) (codec : IndexCodec) (older : IndexCodec),
      (codec.serialize (fiveRows.insertPks tools [(0, [7])])).length < sizeLimit ∧
        ¬ComesBack tools codec fiveRows [(0, [7])] ∧
        (older.serialize olderRows).length < sizeLimit ∧ ¬ComesBack tools older olderRows [] ∧
        ∀ loaded, fromBytes tools older (older.serialize olderRows) ≠ .ok loaded := by
  obtain ⟨tools, -, -⟩ := exists_bloomTools (fun _ => (0, 0)) id
  obtain ⟨codec, small⟩ := exists_indexCodec fiveRows fiveRows_shortName
  obtain ⟨older, olderSmall⟩ := exists_indexCodec olderRows fiveRows_shortName
  have kept : (codec.serialize (fiveRows.insertPks tools [(0, [7])])).length <
      sizeLimit :=
    small _ (withoutFilters_insertPks fiveRows [(0, [7])])
  refine ⟨tools, codec, older, kept, ?_, olderSmall _ rfl, ?_, fromBytes_serialize_ne_ok rfl rfl⟩
  · rw [comesBack_iff kept]
    rintro ⟨-, noRows⟩
    have rows := noRows (0, [7]) (by simp) _ rfl rfl
    revert rows
    decide
  · rw [comesBack_iff (olderSmall _ rfl)]
    rintro ⟨current, -⟩
    revert current
    decide

end StoredZoneMapIndex

end RockDuck
