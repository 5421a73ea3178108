import RockDuck.ByteFields
import RockDuck.MachineRuns
import RockDuck.SplitBlockFilter
import RockDuck.UnspecifiedOrder

/-!
# Bloom filters of granules

The manager of a column keeps the bloom filters of its granules as bytes, and
in a cache those that keys are being inserted into.
-/

namespace RockDuck

open List

/-- The bloom filters of a column, by granule. -/
structure GranuleBloomFilterManager where
  segId : String
  colName : String
  totalRows : UInt64
  granuleFilters : Std.ExtTreeMap UInt32 Bytes
  cache : Std.ExtTreeMap UInt32 SbbFilter

/-- What the program takes from elsewhere: the hash function, the estimate of
the number of blocks, and an encoding that can be read back. -/
structure BloomTools where
  hash : Bytes → UInt64 × UInt64
  estimateBlocks : UInt32 → UInt32
  serializeFilter : SbbFilter → Bytes
  deserializeFilter : Bytes → Option SbbFilter
  filterRead : ∀ filter, deserializeFilter (serializeFilter filter) = some filter
  serialize : GranuleBloomFilterManager → Bytes
  deserialize : Bytes → Except String GranuleBloomFilterManager
  managerRead : ∀ manager, deserialize (serialize manager) = .ok manager

/-- The number of blocks, at least one. -/
def SbbFilter.optimalNumBlocks (tools : BloomTools) (entries : UInt32) : UInt32 :=
  max (tools.estimateBlocks entries) 1

lemma SbbFilter.optimalNumBlocks_pos (tools entries) :
    0 < (optimalNumBlocks tools entries).toNat := by
  change 0 < (if tools.estimateBlocks entries ≤ 1 then 1
    else tools.estimateBlocks entries).toNat
  split
  · decide
  case isFalse many =>
      rw [UInt32.le_iff_toNat_le] at many
      omega

def SbbFilter.forEntries (tools : BloomTools) (entries : UInt32) : SbbFilter :=
  new (optimalNumBlocks tools entries) (optimalNumBlocks_pos tools entries)

lemma SbbFilter.marked_forEntries (tools entries) : (forEntries tools entries).marked = ∅ :=
  marked_new _ _

namespace GranuleBloomFilterManager

def magic : Bytes := [66, 76, 79, 77]

def version : UInt8 := 1

def new (segId colName : String) (totalRows : UInt64) : GranuleBloomFilterManager where
  segId := segId
  colName := colName
  totalRows := totalRows
  granuleFilters := ∅
  cache := ∅

variable (tools : BloomTools)

/-- The filter of a granule, in the cache or stored. -/
def heldFilter (manager : GranuleBloomFilterManager) (granuleIdx : UInt32) : Option SbbFilter :=
  manager.cache[granuleIdx]?.or
    (manager.granuleFilters[granuleIdx]?.bind tools.deserializeFilter)

/-- The filter that a key goes into. -/
def filterFor (manager : GranuleBloomFilterManager)
    (granuleIdx expectedEntries : UInt32) : SbbFilter :=
  (manager.heldFilter tools granuleIdx).getD (.forEntries tools expectedEntries)

/-- Insert a key into the filter of its granule, in the cache. -/
def insertIntoGranule (manager : GranuleBloomFilterManager) (granuleIdx expectedEntries : UInt32)
    (pkBytes : Bytes) : GranuleBloomFilterManager :=
  { manager with
    cache := manager.cache.insert granuleIdx
      ((manager.filterFor tools granuleIdx expectedEntries).insert tools.hash pkBytes) }

/-- Store the filters of the cache. -/
def flushCache (manager : GranuleBloomFilterManager) : GranuleBloomFilterManager :=
  { manager with
    granuleFilters := manager.granuleFilters.insertMany
      (manager.cache.map fun _ filter => tools.serializeFilter filter).toList
    cache := ∅ }

def isUnused (manager : GranuleBloomFilterManager) : Bool :=
  manager.granuleFilters.isEmpty && manager.cache.isEmpty

/-- The contents of the file. -/
def fileData (manager : GranuleBloomFilterManager) : Bytes :=
  magic ++ [version, 0] ++ tools.serialize manager

/-- Save the filters, if there are any. -/
def save (manager : GranuleBloomFilterManager) : GranuleBloomFilterManager × Option Bytes :=
  if manager.isUnused then (manager, none)
  else
    (manager.flushCache tools, some ((manager.flushCache tools).fileData tools))

/-- Load the filters from the file. -/
def load (segId colName bfPath : String) :
    Option Bytes → Except RockDuckError GranuleBloomFilterManager
  | none => .error (.codec
      s!"bloom filter file not found for segment '{segId}' column '{colName}': {bfPath}")
  | some data =>
    let found := data.getD 4 0
    if data.length < 6 then .error (.codec
      "GranuleBloomFilterManager: file too short for header")
    else if data.take 4 ≠ magic then .error (.codec
      s!"GranuleBloomFilterManager: invalid magic for segment '{segId}' column '{colName}'")
    else if version < found then .error (.codec
      s!"GranuleBloomFilterManager: unsupported version {found} for segment '{segId}' column '{colName}'")
    else
      match tools.deserialize (data.drop 6) with
      | .ok manager => .ok manager
      | .error message => .error (.codec
          s!"GranuleBloomFilterManager deserialize: {message}")

def getGranuleFilter (manager : GranuleBloomFilterManager)
    (granuleIdx : UInt32) : Option SbbFilter :=
  manager.granuleFilters[granuleIdx]?.bind tools.deserializeFilter

variable {tools}

section

variable (mgr : GranuleBloomFilterManager)

lemma heldFilter_insertIntoGranule (idx expectedEntries pkBytes other) :
    (mgr.insertIntoGranule tools idx expectedEntries pkBytes).heldFilter tools other =
      if idx = other then
        some ((mgr.filterFor tools idx expectedEntries).insert tools.hash pkBytes)
      else mgr.heldFilter tools other := by
  by_cases same : idx = other <;>
    simp [heldFilter, insertIntoGranule, Std.ExtTreeMap.getElem?_insert, same]

lemma getGranuleFilter_flushCache (granuleIdx) :
    (mgr.flushCache tools).getGranuleFilter tools granuleIdx = mgr.heldFilter tools granuleIdx := by
  rw [getGranuleFilter, flushCache, heldFilter, getElem?_insertMany_of_perm _ _ (List.Perm.refl _),
    Std.ExtTreeMap.getElem?_map]
  cases mgr.cache[granuleIdx]? <;> simp [tools.filterRead]

lemma heldFilter_flushCache (granuleIdx) : (mgr.flushCache tools).heldFilter tools granuleIdx =
      mgr.heldFilter tools granuleIdx := by
  refine Eq.trans ?_ (getGranuleFilter_flushCache mgr granuleIdx)
  simp [heldFilter, flushCache, getGranuleFilter]

end

lemma heldFilter_of_isUnused {mgr : GranuleBloomFilterManager} (unused : mgr.isUnused = true) (idx)
    : mgr.heldFilter tools idx = none := by
  simp only [isUnused, Bool.and_eq_true, Std.ExtTreeMap.isEmpty_iff] at unused
  simp [heldFilter, unused]

section

variable (manager : GranuleBloomFilterManager)

lemma getGranuleFilter_save (granuleIdx) :
    (manager.save tools).1.getGranuleFilter tools granuleIdx =
      manager.heldFilter tools granuleIdx := by
  rw [save]
  split
  case isTrue unused =>
      rw [heldFilter_of_isUnused unused]
      simp only [isUnused, Bool.and_eq_true, Std.ExtTreeMap.isEmpty_iff] at unused
      simp [getGranuleFilter, unused]
  case isFalse => exact getGranuleFilter_flushCache manager granuleIdx

lemma heldFilter_save (granuleIdx) :
    (manager.save tools).1.heldFilter tools granuleIdx = manager.heldFilter tools granuleIdx := by
  rw [save]
  split
  · rfl
  · exact heldFilter_flushCache manager granuleIdx

lemma load_fileData (segId colName bfPath) :
    load tools segId colName bfPath (some (manager.fileData tools)) = .ok manager := by
  simp [load, fileData, magic, version, tools.managerRead]

end

/-- Every key is in the filter of its granule. -/
def Holds (tools : BloomTools) (manager : GranuleBloomFilterManager)
    (keys : List (UInt32 × Bytes)) : Prop :=
  ∀ entry ∈ keys, ∃ filter, manager.heldFilter tools entry.1 = some filter ∧
    filter.mightContain tools.hash entry.2 = true

namespace Holds

variable {mgr : GranuleBloomFilterManager} {keys : List (UInt32 × Bytes)}

lemma congr {other : GranuleBloomFilterManager} (holds : mgr.Holds tools keys)
    (same : ∀ idx, other.heldFilter tools idx =
      mgr.heldFilter tools idx) : other.Holds tools keys := by
  intro entry mem
  rw [same]
  exact holds entry mem

lemma insert (holds : mgr.Holds tools keys) (idx expectedEntries pkBytes) :
    (mgr.insertIntoGranule tools idx expectedEntries pkBytes).Holds
      tools ((idx, pkBytes) :: keys) := by
  intro entry mem
  rw [heldFilter_insertIntoGranule]
  rcases mem_cons.mp mem with rfl | earlier
  · exact ⟨_, if_pos rfl, SbbFilter.mightContain_insert_self _ _⟩
  · obtain ⟨filter, held, reported⟩ := holds entry earlier
    by_cases same : idx = entry.1
    · refine ⟨_, if_pos same, SbbFilter.mightContain_insert ?_ pkBytes⟩
      rw [filterFor, same, held]
      exact reported
    · exact ⟨filter, by rw [if_neg same, held], reported⟩

lemma used (holds : mgr.Holds tools keys) (some : keys ≠ []) : mgr.isUnused = false := by
  obtain ⟨entry, mem⟩ := exists_mem_of_ne_nil keys some
  obtain ⟨filter, held, -⟩ := holds entry mem
  by_contra unused
  rw [heldFilter_of_isUnused (by simpa using unused)] at held
  simp at held

end Holds

end GranuleBloomFilterManager

open GranuleBloomFilterManager

/-- What happens to the managers of a column that share a file.  The write of a
save may fail. -/
inductive BloomEvent where
  | insert (manager : Nat) (granuleIdx expectedEntries : UInt32)
      (pkBytes : Bytes)
  | save (manager : Nat) (failure : Option RockDuckError)
  | load (manager : Nat)

structure BloomState where
  managers : Nat → GranuleBloomFilterManager
  file : Option Bytes

def bloomMachine (tools : BloomTools) (segId colName bfPath : String) (totalRows : Nat → UInt64) :
    Machine BloomState BloomEvent (Except RockDuckError Unit) where
  initial := ⟨fun manager => new segId colName (totalRows manager), none⟩
  step state
    | .insert manager granuleIdx expectedEntries pkBytes =>
      let inserted := (state.managers manager).insertIntoGranule tools
        granuleIdx expectedEntries pkBytes
      (⟨Function.update state.managers manager inserted, state.file⟩, .ok ())
    | .save manager failure =>
      let saved := (state.managers manager).save tools
      let managers := Function.update state.managers manager saved.1
      match saved.2, failure with
      | none, _ => (⟨managers, state.file⟩, .ok ())
      | some _, some error => (⟨managers, state.file⟩, .error error)
      | some data, none => (⟨managers, some data⟩, .ok ())
    | .load manager =>
      match GranuleBloomFilterManager.load tools segId colName bfPath
          state.file with
      | .error error => (state, .error error)
      | .ok loaded => (⟨Function.update state.managers manager loaded, state.file⟩, .ok ())

attribute [local simp] bloomMachine

/-- The keys that were inserted, and those of the file. -/
structure BloomHistory where
  keys : Nat → List (UInt32 × Bytes)
  file : Option (List (UInt32 × Bytes))

namespace BloomHistory

def next (history : BloomHistory) : BloomEvent → BloomHistory
  | .insert manager granuleIdx _ pkBytes =>
    { history with
      keys := Function.update history.keys manager
        ((granuleIdx, pkBytes) :: history.keys manager) }
  | .save manager none =>
    if history.keys manager = [] then history
    else { history with file := some (history.keys manager) }
  | .save _ (some _) => history
  | .load manager =>
    { history with
      keys := history.file.elim history.keys
        (Function.update history.keys manager) }

def after (events : List BloomEvent) : BloomHistory :=
  events.foldl next ⟨fun _ => [], none⟩

/-- The managers and the file have the keys of the history. -/
structure Describes (tools : BloomTools) (history : BloomHistory)
    (state : BloomState) : Prop where
  managers : ∀ manager, (state.managers manager).Holds tools (history.keys manager)
  unused : ∀ manager, history.keys manager = [] →
    (state.managers manager).isUnused = true
  file : (history.file = none ∧ state.file = none) ∨
    ∃ (keys : List (UInt32 × Bytes)) (manager : GranuleBloomFilterManager),
      history.file = some keys ∧ keys ≠ [] ∧
        state.file = some (manager.fileData tools) ∧ manager.Holds tools keys

namespace Describes

variable {tools : BloomTools} {history : BloomHistory} {state : BloomState}

section

variable (describes : history.Describes tools state)
include describes

lemma replace (mgr : Nat) {replaced : GranuleBloomFilterManager}
    {keys} (holds : replaced.Holds tools keys) (unused : keys = [] → replaced.isUnused = true) :
    Describes tools ⟨Function.update history.keys mgr keys, history.file⟩
      ⟨Function.update state.managers mgr replaced, state.file⟩ := by
  refine ⟨fun other => ?_, fun other => ?_, describes.file⟩
  · by_cases same : other = mgr
    · subst same
      simpa using holds
    · simpa [same] using describes.managers other
  · by_cases same : other = mgr
    · subst same
      simpa using unused
    · simpa [same] using describes.unused other

lemma flush (mgr : Nat) : history.Describes tools ⟨Function.update state.managers mgr
        ((state.managers mgr).save tools).1, state.file⟩ := by
  have holds := (describes.managers mgr).congr (heldFilter_save (state.managers mgr))
  have replaced := describes.replace mgr holds fun empty => by
    have unused := describes.unused mgr empty
    simp [save, unused]
  rwa [Function.update_eq_self] at replaced

lemma next (segId colName bfPath totalRows event) : (history.next event).Describes tools
      ((bloomMachine tools segId colName bfPath totalRows).next state event) := by
  cases event with
  | insert mgr idx expectedEntries pkBytes =>
    exact describes.replace mgr ((describes.managers mgr).insert idx expectedEntries pkBytes)
      (by simp)
  | save mgr err =>
    have flushed := describes.flush mgr
    by_cases empty : history.keys mgr = []
    · have unused := describes.unused mgr empty
      have nothing : ((state.managers mgr).save tools).2 = none := by
        simp [save, unused]
      cases err <;>
        simpa [BloomHistory.next, Machine.next, nothing, empty] using flushed
    · have used := (describes.managers mgr).used empty
      have written : ((state.managers mgr).save tools).2 =
          some (((state.managers mgr).save tools).1.fileData tools) := by
        simp [save, used]
      cases err with
      | some error => simpa [BloomHistory.next, Machine.next, written] using flushed
      | none =>
        have holds := (describes.managers mgr).congr (heldFilter_save (state.managers mgr))
        simp only [BloomHistory.next, empty, if_false, Machine.next, bloomMachine, written]
        exact ⟨flushed.managers, flushed.unused, .inr ⟨_, _, rfl, empty, rfl, holds⟩⟩
  | load mgr =>
    rcases describes.file with ⟨noKeys, noFile⟩ | ⟨keys, saved, isKeys, ne, isFile, holds⟩
    · have same : history.next (.load mgr) = history := by
        unfold BloomHistory.next
        cases history
        simp_all
      simpa [same, Machine.next, noFile, load] using describes
    · have loaded : load tools segId colName bfPath (some (saved.fileData tools)) = .ok saved :=
        load_fileData saved segId colName bfPath
      have replaced := describes.replace mgr holds fun empty => absurd empty ne
      simpa [BloomHistory.next, Machine.next, isKeys, isFile, loaded] using replaced

end

end Describes

lemma describes_stateAfter (tools segId colName bfPath totalRows events) :
    (after events).Describes tools
      ((bloomMachine tools segId colName bfPath totalRows).stateAfter events) := by
  induction events using List.reverseRecOn with
  | nil =>
    refine ⟨fun _ => ?_, fun _ _ => ?_, .inl ⟨rfl, rfl⟩⟩
    · simp [after, Holds]
    · simp [Machine.stateAfter, isUnused, new]
  | append_singleton events event ih =>
    rw [Machine.stateAfter_concat, after, foldl_append]
    exact ih.next segId colName bfPath totalRows event

end BloomHistory

/-- After a save, every key that was inserted into the manager is reported, by
the manager and by one that is loaded from the file. -/
theorem saved_keys_reported (tools : BloomTools) (segId colName bfPath : String)
    (totalRows : Nat → UInt64) (events : List BloomEvent) (manager : Nat) {granuleIdx : UInt32}
    {key : Bytes} (inserted : (granuleIdx, key) ∈ (BloomHistory.after events).keys manager) :
    let machine := bloomMachine tools segId colName bfPath totalRows
    let saved := machine.stateAfter (events ++ [.save manager none])
    ∃ filter loaded,
      (saved.managers manager).getGranuleFilter tools granuleIdx =
          some filter ∧
        load tools segId colName bfPath saved.file = .ok loaded ∧
        loaded.getGranuleFilter tools granuleIdx = some filter ∧
        filter.mightContain tools.hash key = true := by
  have describes := BloomHistory.describes_stateAfter tools segId colName bfPath totalRows events
  have holds := describes.managers manager
  have used := holds.used (ne_nil_of_mem inserted)
  obtain ⟨filter, held, reported⟩ := holds (granuleIdx, key) inserted
  simp only [Machine.stateAfter_concat]
  generalize (bloomMachine tools segId colName bfPath totalRows).stateAfter
    events = state at held used
  refine ⟨filter, (state.managers manager).flushCache tools, ?_, ?_, ?_, reported⟩
  · simpa [Machine.next, save, used, getGranuleFilter_flushCache] using held
  · simp [Machine.next, save, used, load_fileData]
  · rw [getGranuleFilter_flushCache, held]

instance : Countable SbbFilter := by
  have fields : Function.Injective fun filter : SbbFilter =>
      (filter.entries, filter.numBlocks, filter.bits) := by
    rintro ⟨_, _, _, _, _⟩ ⟨_, _, _, _, _⟩ same
    simpa using same
  exact fields.countable

instance : Countable GranuleBloomFilterManager := by
  have fields : Function.Injective fun manager : GranuleBloomFilterManager =>
      (manager.segId, manager.colName, manager.totalRows,
        manager.granuleFilters.toList, manager.cache.toList) := by
    rintro ⟨_, _, _, _, _⟩ ⟨_, _, _, _, _⟩ same
    simpa [Std.ExtTreeMap.toList_inj] using same
  exact fields.countable

lemma exists_bloomTools (hash estimateBlocks) :
    ∃ tools : BloomTools, tools.hash = hash ∧ tools.estimateBlocks = estimateBlocks := by
  obtain ⟨filterNumber, filterInjective, -⟩ := exists_injective_number (SbbFilter.new 1 (by decide))
  obtain ⟨managerNumber, managerInjective, -⟩ :=
    exists_injective_number (new "" "" 0)
  have filterRead := Function.partialInv_left filterInjective
  have managerRead := Function.partialInv_left managerInjective
  refine ⟨⟨hash, estimateBlocks,
    fun filter => List.replicate (filterNumber filter) 0,
    fun bytes => Function.partialInv filterNumber bytes.length,
    fun filter => ?_,
    fun mgr => List.replicate (managerNumber mgr) 0,
    fun bytes =>
      (Function.partialInv managerNumber bytes.length).elim (.error "") .ok,
    fun mgr => ?_⟩, rfl, rfl⟩
  · simpa using filterRead filter
  · simp [managerRead]

/-- A key that reached the second manager through the file of the first. -/
theorem passedKey_reported : ∃ tools : BloomTools,
      let machine := bloomMachine tools "seg" "id" "id._bf.bin" fun _ => 65536
      let saved := machine.stateAfter ([.insert 0 3 65536 [1, 2], .save 0 none,
        .insert 0 3 65536 [9], .load 1, .insert 1 3 65536 [7]] ++ [.save 1 none])
      ∃ filter loaded,
        (saved.managers 1).getGranuleFilter tools 3 = some filter ∧
          load tools "seg" "id" "id._bf.bin" saved.file = .ok loaded ∧
          loaded.getGranuleFilter tools 3 = some filter ∧
          filter.mightContain tools.hash [1, 2] = true := by
  obtain ⟨tools, -, -⟩ := exists_bloomTools (fun _ => (0, 0)) id
  exact ⟨tools, saved_keys_reported tools "seg" "id" "id._bf.bin" (fun _ => 65536)
    [.insert 0 3 65536 [1, 2], .save 0 none, .insert 0 3 65536 [9], .load 1,
      .insert 1 3 65536 [7]] 1 (by decide)⟩

/-- An array of primary keys.  The slots of `Int64` keys hold a number whether
they are valid or not; of the types without a branch of their own only the
bytes of the values matter. -/
inductive PkArray where
  | int64 (slots : List (Nat × Bool))
  | utf8 (large : Bool) (values : List (Option Bytes))
  | binary (large : Bool) (values : List (Option Bytes))
  | other (values : List (Option Bytes))

namespace PkArray

/-- The values that are set. -/
def values : PkArray → List Bytes
  | int64 slots => (slots.filter Prod.snd).map fun slot => leBytes 8 slot.1
  | utf8 _ values | binary _ values | other values => values.reduceOption

/-- The text of a granule and a row, inserted for a value of another type. -/
def rowText (granuleIdx : UInt32) (batchRowOffset : UInt64) (row : Nat) : Bytes :=
  let offset := batchRowOffset.toUInt32 + UInt32.ofNat row
  s!"{granuleIdx}:{offset}".toUTF8.toList

def rowTexts (granuleIdx : UInt32) (batchRowOffset : UInt64)
    (values : List (Option Bytes)) : List Bytes :=
  (values.zipIdx.filter (·.1.isSome)).map fun entry => rowText granuleIdx batchRowOffset entry.2

/-- What is inserted for an array. -/
def insertedKeys (granuleIdx : UInt32) (batchRowOffset : UInt64) : PkArray → List Bytes
  | int64 slots => slots.map fun slot => leBytes 8 slot.1
  | utf8 _ values | binary _ values => values.reduceOption
  | other values => rowTexts granuleIdx batchRowOffset values

end PkArray

namespace GranuleBloomFilterManager

def rowsPerGranule : UInt32 := 65536

def insertKeys (tools : BloomTools) (manager : GranuleBloomFilterManager)
    (granuleIdx : UInt32) (keys : List Bytes) : GranuleBloomFilterManager :=
  keys.foldl (fun manager key =>
    manager.insertIntoGranule tools granuleIdx rowsPerGranule key) manager

/-- Insert the keys of an array, with the formats of the source. -/
def buildForGranuleFromArray (tools : BloomTools)
    (manager : GranuleBloomFilterManager) (granuleIdx : UInt32)
    (batchRowOffset : UInt64) (pkArray : PkArray) : GranuleBloomFilterManager :=
  manager.insertKeys tools granuleIdx
    (pkArray.insertedKeys granuleIdx batchRowOffset)

variable {tools : BloomTools}

lemma filterFor_insertIntoGranule (mgr : GranuleBloomFilterManager) (idx expectedEntries key) :
    (mgr.insertIntoGranule tools idx expectedEntries key).filterFor tools idx expectedEntries =
      (mgr.filterFor tools idx expectedEntries).insert tools.hash key := by
  rw [filterFor, heldFilter_insertIntoGranule, if_pos rfl, Option.getD_some]

section

variable (mgr : GranuleBloomFilterManager) (idx : UInt32) {keys : List Bytes}

lemma heldFilter_insertKeys (some : keys ≠ []) :
    (mgr.insertKeys tools idx keys).heldFilter tools idx =
      .some ((mgr.filterFor tools idx rowsPerGranule).insertAll tools.hash keys) := by
  induction keys generalizing mgr with
  | nil => simp at some
  | cons key keys ih =>
    cases keys with
    | nil =>
      exact (heldFilter_insertIntoGranule mgr idx rowsPerGranule key idx).trans (if_pos rfl)
    | cons next keys =>
      have rest := ih (mgr.insertIntoGranule tools idx rowsPerGranule key) (by simp)
      rw [filterFor_insertIntoGranule] at rest
      exact rest

lemma insertKeys_reports_iff (some : keys ≠ []) (value) :
    (∃ filter, ((mgr.insertKeys tools idx keys).save tools).1.getGranuleFilter tools
          idx = .some filter ∧ filter.mightContain tools.hash value = true) ↔
      let before := mgr.filterFor tools idx rowsPerGranule
      let probes := fun key => SbbFilter.probes before.numBlocks (tools.hash key)
      Reports probes (before.marked ∪ marks probes keys) value := by
  simp only [getGranuleFilter_save, heldFilter_insertKeys mgr idx some,
    Option.some_inj, exists_eq_left']
  exact SbbFilter.mightContain_insertAll_iff _ keys value

lemma reported_of_mem_insertKeys {val} (mem : val ∈ keys) :
    ∃ filter, ((mgr.insertKeys tools idx keys).save
        tools).1.getGranuleFilter tools idx = some filter ∧
      filter.mightContain tools.hash val = true := by
  rw [insertKeys_reports_iff mgr idx (ne_nil_of_mem mem)]
  exact (reports_of_mem mem).mono Set.subset_union_right

end

/-- When the filter of a granule covers the keys of an array.  Only the types
without a branch of their own are in question: the bits of a value must be
those of row positions, or have been set before. -/
theorem buildForGranuleFromArray_covers_iff (tools : BloomTools)
    (manager : GranuleBloomFilterManager) (granuleIdx : UInt32)
    (batchRowOffset : UInt64) (pkArray : PkArray) :
    (∀ value ∈ pkArray.values, ∃ filter,
      ((manager.buildForGranuleFromArray tools granuleIdx batchRowOffset pkArray).save
        tools).1.getGranuleFilter tools granuleIdx = some filter ∧
        filter.mightContain tools.hash value = true) ↔
      ∀ values, pkArray = .other values → ∀ value, some value ∈ values →
        let before := manager.filterFor tools granuleIdx rowsPerGranule
        let probes := fun key => SbbFilter.probes before.numBlocks (tools.hash key)
        Reports probes (before.marked ∪ marks probes
          (PkArray.rowTexts granuleIdx batchRowOffset values)) value := by
  cases pkArray with
  | int64 slots =>
    refine iff_of_true (fun value member => ?_) (by simp)
    obtain ⟨slot, valid, rfl⟩ := mem_map.mp member
    exact reported_of_mem_insertKeys manager granuleIdx (mem_map_of_mem (mem_of_mem_filter valid))
  | utf8 large values | binary large values =>
    exact iff_of_true (fun _ => reported_of_mem_insertKeys manager granuleIdx) (by simp)
  | other values =>
    have inserted : ∀ value, some value ∈ values →
        PkArray.rowTexts granuleIdx batchRowOffset values ≠ [] := by
      intro value member
      obtain ⟨row, found⟩ := mem_iff_getElem?.mp member
      have entry : (some value, row) ∈ values.zipIdx := mk_mem_zipIdx_iff_getElem?.mpr found
      exact ne_nil_of_mem (mem_map_of_mem (mem_filter.mpr ⟨entry, rfl⟩))
    constructor
    · rintro covers _ ⟨rfl⟩ value member
      exact (insertKeys_reports_iff manager granuleIdx (inserted value member)
        value).mp (covers value (reduceOption_mem_iff.mpr member))
    · intro covered value member
      have member := reduceOption_mem_iff.mp member
      exact (insertKeys_reports_iff manager granuleIdx (inserted value member)
        value).mpr (covered values rfl value member)

/-- An `Int32` key of `7` is looked for under its bytes, and only the text of
its row was inserted. -/
theorem int32Key_not_covered :
    ∃ tools : BloomTools, ¬∀ value ∈ (PkArray.other [some [7, 0, 0, 0]]).values,
      ∃ filter, (((new "seg" "id" 1).buildForGranuleFromArray tools 0 0
          (.other [some [7, 0, 0, 0]])).save tools).1.getGranuleFilter tools 0 = some filter ∧
        filter.mightContain tools.hash value = true := by
  obtain ⟨tools, isHash, isEstimate⟩ := exists_bloomTools
    (fun key => (UInt64.ofNat key.length, 1)) fun _ => 8
  refine ⟨tools, fun covers => ?_⟩
  have text : PkArray.rowTexts 0 0 [some [7, 0, 0, 0]] = [[48, 58, 48]] := by decide +kernel
  have begun : (new "seg" "id" 1).filterFor tools 0 rowsPerGranule =
      .forEntries tools rowsPerGranule := by
    simp [filterFor, heldFilter, new]
  have blocks : (SbbFilter.forEntries tools rowsPerGranule).numBlocks = 8 := by
    simp only [SbbFilter.forEntries, SbbFilter.new, SbbFilter.optimalNumBlocks, isEstimate]
    rfl
  have reported := covers [7, 0, 0, 0] (by decide)
  rw [buildForGranuleFromArray, PkArray.insertedKeys, text,
    insertKeys_reports_iff _ _ (by simp), begun] at reported
  simp only [blocks, SbbFilter.marked_forEntries, Set.empty_union, isHash] at reported
  obtain ⟨key, isText, marked⟩ := reported ⟨128, 7⟩ (by decide)
  obtain rfl : key = [48, 58, 48] := by simpa using isText
  revert marked
  decide

end GranuleBloomFilterManager

end RockDuck
