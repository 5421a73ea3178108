import RockDuck.ByteFields
import RockDuck.WalRecords

/-!
# Sparse primary-key indexes

Some keys of a segment with the offsets of their rows, sorted by the bytes of
the keys for the lookup.
-/

namespace RockDuck

open List

abbrev SparseIndexEntry := Nat × Bytes

/-- How the first bytes of a file are shown, and a serializer that round-trips. -/
structure Postcard where
  lossy : Bytes → String
  toBytes : List SparseIndexEntry → Bytes
  fromBytes : Bytes → Except String (List SparseIndexEntry)
  fromBytes_toBytes : ∀ entries, fromBytes (toBytes entries) = .ok entries

/-- Sampled rows, and the same by key. -/
structure SegmentSparseIndex where
  entries : List SparseIndexEntry
  entriesByPk : List SparseIndexEntry

namespace SegmentSparseIndex

def magic : Bytes := [83, 83, 73, 88]

def version : UInt8 := 2

def headerSize : Nat := 17

def new : SegmentSparseIndex := ⟨[], []⟩

variable (postcard : Postcard) (path : String) (index : SegmentSparseIndex)

/-- Add a sample. -/
def addSample (rowOffset : Nat) (pkBytes : Bytes) : SegmentSparseIndex :=
  { index with entries := index.entries ++ [(rowOffset, pkBytes)] }

/-- The entries are moved, not copied. -/
def build : SegmentSparseIndex :=
  ⟨[], index.entries.insertionSort fun left right => left.2 ≤ right.2⟩

/-- The search is binary; it finds a key that is there. -/
def findOffset (targetPk : Bytes) : Option Nat :=
  (index.entriesByPk.find? fun entry => decide (entry.2 = targetPk)).map Prod.fst

/-- The file of an index.  It has the entries only. -/
def save : Bytes :=
  magic ++ [version] ++ leBytes 4 0 ++ leBytes 8 index.entries.length ++
    postcard.toBytes index.entries

/-- Read an index file. -/
def load (file : Bytes) : Except RockDuckError SegmentSparseIndex :=
  let size := file.length
  let shown := postcard.lossy (file.take 4)
  let found := file.getD 4 0
  let count := readLe 8 (file.drop 9)
  if size < headerSize then
    .error (.deserialize
      s!"sparse index file too small ({size} bytes, expected at least {headerSize}): {path}")
  else if file.take 4 ≠ magic then
    .error (.deserialize
      s!"sparse index v1 detected (magic: {shown}): index is invalid and must be rebuilt from source Vortex data. Delete the .sparse_idx file and regenerate via compaction.")
  else if version < found then
    .error (.deserialize s!"sparse index version {found} not supported (max: {version}): {path}")
  else
    match postcard.fromBytes (file.drop headerSize) with
    | .error reason => .error (.deserialize s!"load sparse index: {reason}")
    | .ok entries =>
      let loaded := entries.length
      if loaded ≠ count then
        .error (.deserialize
          s!"sparse index entry count mismatch: header says {count}, loaded {loaded}")
      else .ok (build ⟨entries, []⟩)

/-- The index of some samples. -/
def ofSamples (samples : List SparseIndexEntry) : SegmentSparseIndex :=
  (samples.foldl (fun index sample => index.addSample sample.1 sample.2) new).build

/-- Every lookup gives the same after saving and loading, and after another `build`. -/
def KeepsLookups : Prop := ∀ target,
  (load postcard path (index.save postcard)).map (findOffset · target) =
      .ok (index.findOffset target) ∧
    index.build.findOffset target = index.findOffset target

lemma entriesByPk_ofSamples (samples) : (ofSamples samples).entriesByPk =
      samples.insertionSort fun left right => left.2 ≤ right.2 := by
  have added : (samples.foldl (fun index sample => index.addSample sample.1 sample.2) new).entries =
      samples := by
    induction samples using List.reverseRecOn with
    | nil => rfl
    | append_singleton samples sample ih => rw [foldl_concat, addSample, ih]
  rw [ofSamples, build, added]

lemma load_save_build : load postcard path (index.build.save postcard) = .ok new := by
  have long : ¬ (index.build.save postcard).length < headerSize := by
    simp only [save, length_append, length_leBytes, magic, headerSize, length_cons, length_nil]
    omega
  have starts : (index.build.save postcard).take 4 = magic := rfl
  have current : (index.build.save postcard).getD 4 0 = version := rfl
  have count : readLe 8 ((index.build.save postcard).drop 9) = 0 := readLe_leBytes_append 8 0 _
  have payload : (index.build.save postcard).drop headerSize = postcard.toBytes [] := rfl
  simp only [load, current, count, payload, postcard.fromBytes_toBytes]
  rw [if_neg long, if_neg (not_not.mpr starts), if_neg (by decide : ¬ version < version)]
  rfl

/-- Only the index of no samples keeps its lookups. -/
theorem keepsLookups_iff (postcard : Postcard) (path : String) (samples : List SparseIndexEntry) :
    (ofSamples samples).KeepsLookups postcard path ↔ samples = [] := by
  constructor
  · intro kept
    match samples with
    | [] => rfl
    | sample :: samples =>
      have lost := (kept sample.2).2
      rw [findOffset, findOffset, entriesByPk_ofSamples] at lost
      have found : ((sample :: samples).insertionSort fun left right => left.2 ≤ right.2).find?
          (fun entry => decide (entry.2 = sample.2)) = none := by
        simpa [ofSamples, build] using lost.symm
      simpa using find?_eq_none.mp found sample (by simp)
  · rintro rfl target
    exact ⟨by rw [ofSamples, load_save_build]; rfl, rfl⟩

/-- The one sample is found in the index, and neither after saving and loading it nor after
another `build`. -/
theorem saved_sample_lost :
    (ofSamples [(0, [1])]).findOffset [1] = some 0 ∧
      (∀ postcard path, (load postcard path ((ofSamples [(0, [1])]).save postcard)).map
        (findOffset · [1]) = .ok none) ∧
      (ofSamples [(0, [1])]).build.findOffset [1] = none := by
  refine ⟨by decide, fun postcard path => ?_, by decide⟩
  rw [ofSamples, load_save_build]
  rfl

end SegmentSparseIndex

end RockDuck
