import RockDuck.MembershipFilter
import RockDuck.WalRecords

/-!
# Split block filters

The bloom filter of a granule is an array of blocks of 32 bytes.  One hash of a
key selects the block and another the bits in it.
-/

namespace RockDuck

open List

structure BitIndex where
  byte : Nat
  bit : Fin 8
  deriving DecidableEq

def bitMask (bit : Fin 8) : UInt8 :=
  1 <<< UInt8.ofNat bit.val

def bitOf (byte : UInt8) (bit : Fin 8) : Bool :=
  byte &&& bitMask bit != 0

lemma toBitVec_bitMask : ∀ bit : Fin 8, (bitMask bit).toBitVec = BitVec.twoPow 8 bit := by
  decide

lemma bitOf_eq_getLsbD (byte bit) : bitOf byte bit = byte.toBitVec.getLsbD bit := by
  have nonzero : BitVec.twoPow 8 bit ≠ 0#8 := by
    revert bit
    decide
  have cleared : byte &&& bitMask bit = 0 ↔ byte.toBitVec.getLsbD bit = false := by
    rw [← UInt8.toBitVec_inj, UInt8.toBitVec_and, toBitVec_bitMask, BitVec.and_twoPow]
    cases byte.toBitVec.getLsbD bit <;> simp [nonzero]
  rw [Bool.eq_iff_iff, bitOf, bne_iff_ne, ne_eq, cleared, Bool.not_eq_false]

lemma bitOf_or (byte set tested) : bitOf (byte ||| bitMask set) tested =
      (bitOf byte tested || decide (tested = set)) := by
  rw [bitOf_eq_getLsbD, bitOf_eq_getLsbD, UInt8.toBitVec_or, BitVec.getLsbD_or,
    toBitVec_bitMask, BitVec.getLsbD_twoPow]
  simp [Fin.ext_iff, eq_comm]

/-- Set a bit. -/
def setBit (bits : List UInt8) (index : BitIndex) : List UInt8 :=
  bits.modify index.byte (· ||| bitMask index.bit)

/-- Read a bit. -/
def bitAt (bits : List UInt8) (index : BitIndex) : Bool :=
  bitOf (bits.getD index.byte 0) index.bit

lemma bitAt_setBit {bits : List UInt8} {set : BitIndex}
    (mem : set.byte < bits.length) (tested) : bitAt (setBit bits set) tested =
      (bitAt bits tested || decide (tested = set)) := by
  obtain ⟨byte, bit⟩ := set
  obtain ⟨testedByte, testedBit⟩ := tested
  simp only [bitAt, setBit, getD_eq_getElem?_getD, List.getElem?_modify, BitIndex.mk.injEq]
  by_cases same : byte = testedByte
  · subst same
    simp [getElem?_eq_getElem mem, bitOf_or]
  · simp [same, Ne.symm same]

lemma length_foldl_setBit (bits) (indices : List BitIndex) :
    (indices.foldl setBit bits).length = bits.length := by
  induction indices generalizing bits with
  | nil => rfl
  | cons idx indices ih => rw [foldl_cons, ih, setBit, length_modify]

lemma bitAt_foldl_setBit {bits : List UInt8} {indices : List BitIndex}
    (mem : ∀ idx ∈ indices, idx.byte < bits.length) (tested) :
    bitAt (indices.foldl setBit bits) tested =
      (bitAt bits tested || decide (tested ∈ indices)) := by
  induction indices generalizing bits with
  | nil => simp
  | cons idx indices ih =>
    rw [forall_mem_cons] at mem
    have rest : ∀ later ∈ indices, later.byte < (setBit bits idx).length := by
      simpa [setBit] using mem.2
    rw [foldl_cons, ih rest, bitAt_setBit mem.1]
    simp [Bool.or_assoc]

/-- A bloom filter of blocks of 32 bytes. -/
structure SbbFilter where
  entries : UInt32
  numBlocks : UInt32
  bits : List UInt8
  positive : 0 < numBlocks.toNat
  sized : bits.length = numBlocks.toNat * 32

namespace SbbFilter

def salt : List UInt32 :=
  [0x47b55a47, 0x8e763453, 0x32a89235, 0x7f831979, 0x6b8d0ab9, 0x4d9487a3, 0x1d742df3, 0xa12f57bd]

/-- The bits of a key, all in one block. -/
def probes (numBlocks : UInt32) (hashes : UInt64 × UInt64) : List BitIndex :=
  let offset := (hashes.1 % numBlocks.toUInt64).toNat * 32
  salt.map fun saltVal =>
    let bitPos := (saltVal * hashes.2.toUInt32 % 32).toNat
    ⟨offset + bitPos / 8, Fin.ofNat 8 bitPos⟩

def new (numBlocks : UInt32) (positive : 0 < numBlocks.toNat) : SbbFilter where
  entries := 0
  numBlocks := numBlocks
  bits := List.replicate (numBlocks.toNat * 32) 0
  positive := positive
  sized := List.length_replicate

/-- Insert a key by its hashes. -/
def insertHashes (filter : SbbFilter) (hashes : UInt64 × UInt64) : SbbFilter where
  entries := filter.entries + 1
  numBlocks := filter.numBlocks
  bits := (probes filter.numBlocks hashes).foldl setBit filter.bits
  positive := filter.positive
  sized := (length_foldl_setBit filter.bits _).trans filter.sized

/-- Look up a key by its hashes. -/
def mightContainHashes (filter : SbbFilter) (hashes : UInt64 × UInt64) : Bool :=
  (probes filter.numBlocks hashes).all (bitAt filter.bits)

variable (hash : Bytes → UInt64 × UInt64)

def insert (filter : SbbFilter) (key : Bytes) : SbbFilter :=
  filter.insertHashes (hash key)

def mightContain (filter : SbbFilter) (key : Bytes) : Bool :=
  filter.mightContainHashes (hash key)

/-- The bits that are set. -/
def marked (filter : SbbFilter) : Set BitIndex :=
  {index | bitAt filter.bits index = true}

variable {hash}

variable (filter : SbbFilter)

lemma byte_lt_of_mem_probes (hashes) :
    ∀ idx ∈ probes filter.numBlocks hashes, idx.byte < filter.bits.length := by
  intro idx mem
  obtain ⟨saltVal, -, rfl⟩ := List.mem_map.mp mem
  have block := Nat.mod_lt hashes.1.toNat filter.positive
  have place : (saltVal * hashes.2.toUInt32 % 32).toNat < 32 := by
    rw [UInt32.toNat_mod]
    exact Nat.mod_lt _ (by decide)
  simp only [filter.sized, UInt64.toNat_mod, UInt32.toNat_toUInt64]
  omega

lemma marked_insert (key) : (filter.insert hash key).marked =
      filter.marked ∪ {index | index ∈ probes filter.numBlocks (hash key)} := by
  ext index
  have after := bitAt_foldl_setBit (byte_lt_of_mem_probes filter (hash key)) index
  simp [marked, insert, insertHashes, after]

lemma marked_new (numBlocks : UInt32) (pos) : (new numBlocks pos).marked = ∅ := by
  ext idx
  have zero : (new numBlocks pos).bits[idx.byte]?.getD 0 = 0 := by
    rw [new, getElem?_replicate]
    split <;> rfl
  simp [marked, bitAt, bitOf, zero]

lemma mightContain_iff (key) : filter.mightContain hash key = true ↔
      Reports (fun key => probes filter.numBlocks (hash key)) filter.marked key := by
  simp [mightContain, mightContainHashes, Reports, marked]

lemma mightContain_of_marked_eq_empty {filter : SbbFilter}
    (empty : filter.marked = ∅) (key) : filter.mightContain hash key = false := by
  rw [← Bool.not_eq_true, mightContain_iff, empty]
  intro reported
  have probed : probes filter.numBlocks (hash key) ≠ [] := by simp [probes, salt]
  obtain ⟨idx, mem⟩ := exists_mem_of_ne_nil _ probed
  exact reported idx mem

lemma mightContain_insert_self (key) : (filter.insert hash key).mightContain hash key = true := by
  rw [mightContain_iff, marked_insert]
  exact fun idx probed => Or.inr probed

lemma mightContain_insert {filter : SbbFilter} (reported : filter.mightContain hash key = true)
    (other) : (filter.insert hash other).mightContain hash key = true := by
  rw [mightContain_iff] at reported ⊢
  rw [marked_insert]
  exact reported.mono Set.subset_union_left

def insertAll (hash : Bytes → UInt64 × UInt64) (filter : SbbFilter)
    (keys : List Bytes) : SbbFilter :=
  keys.foldl (insert hash) filter

lemma mightContain_insertAll_iff (keys key) :
    (filter.insertAll hash keys).mightContain hash key = true ↔
      Reports (fun key => probes filter.numBlocks (hash key))
        (filter.marked ∪ marks (fun key => probes filter.numBlocks (hash key)) keys) key := by
  induction keys generalizing filter with
  | nil => simp [insertAll, mightContain_iff, marks]
  | cons first keys ih =>
    have more : filter.marked ∪ {index | index ∈ probes filter.numBlocks (hash first)} ∪
          marks (fun key => probes filter.numBlocks (hash key)) keys =
        filter.marked ∪ marks
          (fun key => probes filter.numBlocks (hash key)) (first :: keys) := by
      ext index
      simp [marks, or_assoc]
    rw [← more, ← marked_insert]
    exact ih (filter.insert hash first)

end SbbFilter

end RockDuck
