import Mathlib

/-!
# Adaptive delete masks

A delete mask is kept as an ordered set, as a compressed bitmap or as a bit
vector, and changes between them with the share of deleted rows.
-/

namespace RockDuck

open Std

lemma contains_foldl_add {Container : Type*} {contains : Container → UInt32 → Bool}
    {add : Container → UInt32 → Container}
    (contains_add : ∀ container added row, contains (add container added) row =
      (decide (row = added) || contains container row)) (container) (rows : List UInt32) (row) :
    contains (rows.foldl add container) row = (decide (row ∈ rows) || contains container row) := by
  induction rows generalizing container with
  | nil => simp
  | cons first rows ih =>
    rw [List.foldl_cons, ih, contains_add, ← Bool.or_assoc, Bool.or_comm (decide (row ∈ rows)),
      List.decide_mem_cons, beq_eq_decide]

/-- The operations of the bitmap crate that masks use.  A bitmap is a set of
rows, iterated in increasing order. -/
structure BitmapCrate where
  Bitmap : Type
  new : Bitmap
  add : Bitmap → UInt32 → Bitmap
  contains : Bitmap → UInt32 → Bool
  cardinality : Bitmap → Nat
  isEmpty : Bitmap → Bool
  iter : Bitmap → List UInt32
  orInplace : Bitmap → Bitmap → Bitmap
  contains_new : ∀ row, contains new row = false
  contains_add : ∀ bitmap added row, contains (add bitmap added) row =
    (decide (row = added) || contains bitmap row)
  contains_orInplace : ∀ bitmap other row,
    contains (orInplace bitmap other) row =
      (contains bitmap row || contains other row)
  mem_iter : ∀ {bitmap row}, row ∈ iter bitmap ↔ contains bitmap row = true
  iter_increasing : ∀ bitmap, (iter bitmap).Pairwise (· < ·)
  cardinality_eq : ∀ bitmap, cardinality bitmap = (iter bitmap).length
  isEmpty_eq : ∀ bitmap, isEmpty bitmap = (iter bitmap).isEmpty

/-- The rows of a sparse mask. -/
abbrev RowSet := Std.ExtTreeSet UInt32 compare

namespace RowSet

def extend (set : RowSet) (rows : List UInt32) : RowSet :=
  rows.foldl (fun set row => set.insert row) set

variable (set : RowSet)

lemma contains_insert (inserted row) :
    (set.insert inserted).contains row = (decide (row = inserted) || set.contains row) := by
  rw [ExtTreeSet.contains_insert]
  congr 1
  rw [Bool.eq_iff_iff, beq_iff_eq, LawfulEqCmp.compare_eq_iff_eq, decide_eq_true_iff, eq_comm]

lemma contains_extend (rows row) :
    (set.extend rows).contains row = (decide (row ∈ rows) || set.contains row) :=
  contains_foldl_add contains_insert set rows row

lemma toList_increasing : set.toList.Pairwise (· < ·) :=
  set.ordered_toList.imp fun before => compareOfLessAndEq_eq_lt.mp before

lemma mem_toList {set : RowSet} : row ∈ set.toList ↔ set.contains row = true :=
  ExtTreeSet.mem_toList.trans ExtTreeSet.contains_iff_mem.symm

/-- A bitmap crate made of sets of rows. -/
def bitmapCrate : BitmapCrate where
  Bitmap := RowSet
  new := ∅
  add set row := set.insert row
  contains set row := set.contains row
  cardinality set := set.size
  isEmpty set := set.isEmpty
  iter set := set.toList
  orInplace set other := set.extend other.toList
  contains_new _ := rfl
  contains_add := contains_insert
  contains_orInplace set other row := by
    rw [contains_extend, Bool.or_comm]
    congr 1
    rw [Bool.eq_iff_iff, decide_eq_true_iff, mem_toList]
  mem_iter := mem_toList
  iter_increasing := toList_increasing
  cardinality_eq _ := Std.ExtTreeSet.length_toList.symm
  isEmpty_eq _ := Std.ExtTreeSet.isEmpty_toList.symm

end RowSet

/-- A bit vector that row numbers reach. -/
structure RowBits where
  bits : List Bool
  addressable : bits.length ≤ 2 ^ 32

namespace RowBits

def new : RowBits where
  bits := []
  addressable := by decide

def bit (bits : List Bool) (index : Nat) : Bool :=
  bits[index]?.getD false

def resize (bits : List Bool) (size : Nat) : List Bool :=
  bits.take size ++ List.replicate (size - bits.length) false

@[simp]
lemma length_resize (bits) (size : Nat) : (resize bits size).length = size := by
  simp only [resize, List.length_append, List.length_take, List.length_replicate]
  omega

lemma bit_resize {bits : List Bool} (grows : bits.length ≤ size) (index : Nat) :
    bit (resize bits size) index = bit bits index := by
  rw [bit, bit, resize, List.take_of_length_le grows, List.getElem?_append]
  split
  · rfl
  · rw [List.getElem?_replicate, List.getElem?_eq_none (by omega)]
    split <;> rfl

lemma bit_set {bits : List Bool} (mem : place < bits.length)
    (val : Bool) (index : Nat) : bit (bits.set place val) index =
      if index = place then val else bit bits index := by
  rw [bit, bit, List.getElem?_set]
  split
  next same => simp [← same]
  next other => rw [if_neg (Ne.symm other)]

/-- Set a bit, after growing the vector to it. -/
def mark (vector : RowBits) (row : UInt32) : RowBits where
  bits := (if vector.bits.length ≤ row.toNat then
    resize vector.bits (row.toNat + 1) else vector.bits).set row.toNat true
  addressable := by
    have small := row.toNat_lt
    have before := vector.addressable
    rw [List.length_set]
    split
    · rw [length_resize]
      omega
    · exact before

def get (vector : RowBits) (row : UInt32) : Bool :=
  bit vector.bits row.toNat

def countOnes (vector : RowBits) : Nat :=
  vector.bits.count true

def iterOnes (vector : RowBits) : List UInt32 :=
  ((List.range vector.bits.length).filter (bit vector.bits)).map UInt32.ofNat

/-- One turn of the loop that merges a vector into another one. -/
def orBit (other : List Bool) (bits : List Bool) (index : Nat) : List Bool :=
  bits.set index (bit bits index || bit other index)

lemma length_foldl_orBit (other bits) (indices : List Nat) :
    (indices.foldl (orBit other) bits).length = bits.length := by
  induction indices generalizing bits with
  | nil => rfl
  | cons idx indices ih => rw [List.foldl_cons, ih, orBit, List.length_set]

/-- The rows of both vectors. -/
def or (vector other : RowBits) : RowBits where
  bits :=
    let len := max vector.bits.length other.bits.length
    (List.range len).foldl (orBit other.bits) (resize vector.bits len)
  addressable := by
    rw [length_foldl_orBit, length_resize]
    exact max_le vector.addressable other.addressable

lemma get_new (row) : new.get row = false := rfl

variable (vector : RowBits)

lemma get_mark (marked row) : (vector.mark marked).get row =
      (decide (row = marked) || vector.get row) := by
  have grown : bit ((vector.mark marked).bits) row.toNat =
      if row.toNat = marked.toNat then true else bit vector.bits row.toNat := by
    rw [mark]
    dsimp only
    split
    next short =>
      rw [bit_set (by rw [length_resize]; omega), bit_resize (Nat.le_succ_of_le short)]
    next long => rw [bit_set (by omega)]
  rw [get, grown, get]
  by_cases same : row = marked
  · simp [same]
  · simp [same, mt UInt32.toNat_inj.mp same]

lemma bit_foldl_orBit (other bits : List Bool) (count idx : Nat)
    (mem : count ≤ bits.length) : bit ((List.range count).foldl (orBit other) bits) idx =
      (bit bits idx || (decide (idx < count) && bit other idx)) := by
  induction count with
  | zero => simp
  | succ count ih =>
    have before := ih (Nat.le_of_succ_le mem)
    rw [List.range_succ, List.foldl_concat, orBit,
      bit_set (by rw [length_foldl_orBit]; exact mem), before]
    by_cases same : idx = count
    · subst same
      rw [if_pos rfl, before]
      simp
    · have places : idx < count + 1 ↔ idx < count := by omega
      simp [same, places]

lemma get_or (vector other : RowBits) (row) :
    (vector.or other).get row = (vector.get row || other.get row) := by
  rw [get, or]
  dsimp only
  rw [bit_foldl_orBit _ _ _ _ (by rw [length_resize]), bit_resize (le_max_left _ _), get, get]
  by_cases mem : row.toNat < other.bits.length
  · rw [decide_eq_true (lt_max_of_lt_right mem), Bool.true_and]
  · have beyond : bit other.bits row.toNat = false := by
      rw [bit, List.getElem?_eq_none (Nat.not_lt.mp mem), Option.getD_none]
    rw [beyond, Bool.and_false]

lemma mem_iterOnes (row) : row ∈ vector.iterOnes ↔ vector.get row = true := by
  simp only [iterOnes, List.mem_map, List.mem_filter, List.mem_range, get]
  constructor
  · rintro ⟨idx, ⟨mem, set⟩, rfl⟩
    have small : idx < 2 ^ 32 := mem.trans_le vector.addressable
    rwa [UInt32.toNat_ofNat_of_lt' small]
  · intro set
    refine ⟨row.toNat, ⟨?_, set⟩, UInt32.ofNat_toNat⟩
    by_contra beyond
    rw [bit, List.getElem?_eq_none (Nat.not_lt.mp beyond)] at set
    cases set

lemma iterOnes_increasing : vector.iterOnes.Pairwise (· < ·) := by
  rw [iterOnes, List.pairwise_map]
  refine (List.Pairwise.filter _ List.pairwise_lt_range).imp_of_mem ?_
  intro idx later mem laterAmong before
  have small (place) (member : place ∈ (List.range vector.bits.length).filter
      (bit vector.bits)) : place < 2 ^ 32 :=
    (List.mem_range.mp (List.mem_of_mem_filter member)).trans_le
      vector.addressable
  rw [UInt32.lt_iff_toNat_lt, UInt32.toNat_ofNat_of_lt' (small _ mem),
    UInt32.toNat_ofNat_of_lt' (small _ laterAmong)]
  exact before

lemma countOnes_eq : vector.countOnes = vector.iterOnes.length := by
  have mem : vector.bits = (List.range vector.bits.length).map (bit vector.bits) := by
    refine List.ext_getElem (by simp) fun idx inside _ => ?_
    simp [bit, inside]
  rw [countOnes, iterOnes, List.length_map, ← List.countP_eq_length_filter]
  conv_lhs => rw [mem, List.count, List.countP_map]
  exact List.countP_congr fun idx _ => by simp

lemma foldl_zipIdx (add : Container → UInt32 → Container)
    (vector : RowBits) (start : Container) : vector.bits.zipIdx.foldl (fun container (bit, idx) =>
      if bit then add container (UInt32.ofNat idx) else container) start =
        vector.iterOnes.foldl add start := by
  have mem : vector.bits.zipIdx = (List.range vector.bits.length).map
      fun idx => (bit vector.bits idx, idx) := by
    refine List.ext_getElem (by simp) fun idx inside _ => ?_
    rw [List.length_zipIdx] at inside
    simp [bit, inside]
  rw [mem, List.foldl_map, iterOnes, List.foldl_map, List.foldl_filter]

end RowBits

/-- How a mask is stored. -/
inductive Representation where
  | sparse
  | roaring
  | dense
  deriving DecidableEq, Repr

namespace Representation

def sparseThreshold : Float := 0.01

def denseThreshold : Float := 0.30

/-- The representation for a rate of deletions. -/
def fromRate (rate : Float) : Representation :=
  if rate < sparseThreshold then .sparse
  else if rate < denseThreshold then .roaring
  else .dense

def rate (deletedCount totalRows : UInt64) : Float :=
  if totalRows = 0 then 0.0 else deletedCount.toFloat / totalRows.toFloat

end Representation

/-- A mask of deleted rows. -/
inductive AdaptiveDelMask (crate : BitmapCrate) where
  | sparse (set : RowSet)
  | roaring (bitmap : crate.Bitmap)
  | dense (vector : RowBits)

namespace AdaptiveDelMask

variable {crate : BitmapCrate}

def new : AdaptiveDelMask crate :=
  .sparse ∅

/-- An empty mask. -/
def withRepresentation : Representation → AdaptiveDelMask crate
  | .sparse => .sparse ∅
  | .roaring => .roaring crate.new
  | .dense => .dense .new

/-- Delete a row. -/
def deleteInner : AdaptiveDelMask crate → UInt32 → AdaptiveDelMask crate
  | .sparse set, row => .sparse (set.insert row)
  | .roaring bitmap, row => .roaring (crate.add bitmap row)
  | .dense vector, row => .dense (vector.mark row)

def delete (mask : AdaptiveDelMask crate) (row : UInt32) : AdaptiveDelMask crate :=
  mask.deleteInner row

/-- A mask in the representation its rate asks for. -/
def withCapacity (totalRows : UInt64) (deletedRows : List UInt32) : AdaptiveDelMask crate :=
  let rate := Representation.rate (.ofNat deletedRows.length) totalRows
  deletedRows.foldl delete (withRepresentation (.fromRate rate))

def representation : AdaptiveDelMask crate → Representation
  | .sparse _ => .sparse
  | .roaring _ => .roaring
  | .dense _ => .dense

def isDeleted : AdaptiveDelMask crate → UInt32 → Bool
  | .sparse set, row => set.contains row
  | .roaring bitmap, row => crate.contains bitmap row
  | .dense vector, row => vector.get row

def deletedCount : AdaptiveDelMask crate → Nat
  | .sparse set => set.size
  | .roaring bitmap => crate.cardinality bitmap
  | .dense vector => vector.countOnes

/-- The deleted rows. -/
def iter : AdaptiveDelMask crate → List UInt32
  | .sparse set => set.toList
  | .roaring bitmap => crate.iter bitmap
  | .dense vector => vector.iterOnes

def toVec (mask : AdaptiveDelMask crate) : List UInt32 :=
  mask.iter

/-- The same rows in another representation. -/
def convertTo (mask : AdaptiveDelMask crate) (target : Representation) : AdaptiveDelMask crate :=
  match mask, target with
  | .sparse set, .sparse => .sparse set
  | .sparse set, .roaring => .roaring (set.toList.foldl crate.add crate.new)
  | .sparse set, .dense => .dense (set.toList.foldl RowBits.mark .new)
  | .roaring bitmap, .sparse => .sparse (RowSet.extend ∅ (crate.iter bitmap))
  | .roaring bitmap, .roaring => .roaring bitmap
  | .roaring bitmap, .dense => .dense ((crate.iter bitmap).foldl RowBits.mark .new)
  | .dense vector, .sparse => .sparse (RowSet.extend ∅ vector.iterOnes)
  | .dense vector, .roaring =>
    .roaring (vector.bits.zipIdx.foldl (fun bitmap (bit, index) =>
      if bit then crate.add bitmap (UInt32.ofNat index) else bitmap)
        crate.new)
  | .dense vector, .dense => .dense vector

/-- Convert the mask when its rate asks for another representation. -/
def switchIfNeeded (mask : AdaptiveDelMask crate) (totalRows : UInt64) : AdaptiveDelMask crate :=
  let rate := Representation.rate (.ofNat mask.deletedCount) totalRows
  let target := Representation.fromRate rate
  if mask.representation ≠ target then mask.convertTo target else mask

/-- Merge two masks of different representations. -/
def mergeAcross (mask other : AdaptiveDelMask crate) : AdaptiveDelMask crate :=
  let newSelf : AdaptiveDelMask crate := withRepresentation other.representation
  other.iter.foldl deleteInner (mask.iter.foldl deleteInner newSelf)

/-- Merge two masks. -/
def merge (mask other : AdaptiveDelMask crate) : AdaptiveDelMask crate :=
  match mask, other with
  | .sparse set, .sparse added => .sparse (set.extend added.toList)
  | .sparse set, .roaring bitmap =>
    if set.isEmpty then .sparse (RowSet.extend ∅ (crate.iter bitmap))
    else if crate.isEmpty bitmap then .sparse set
    else .roaring (crate.orInplace (set.toList.foldl crate.add crate.new) bitmap)
  | .roaring bitmap, .sparse added => .roaring (added.toList.foldl crate.add bitmap)
  | .roaring bitmap, .roaring added => .roaring (crate.orInplace bitmap added)
  | .dense vector, .dense added => .dense (vector.or added)
  | mask, other => mask.mergeAcross other

variable (mask : AdaptiveDelMask crate)

lemma mem_iter (row) : row ∈ mask.iter ↔ mask.isDeleted row = true := by
  cases mask with
  | sparse set => exact RowSet.mem_toList
  | roaring bitmap => exact crate.mem_iter
  | dense vector => exact vector.mem_iterOnes row

lemma iter_increasing : mask.iter.Pairwise (· < ·) := by
  cases mask with
  | sparse set => exact set.toList_increasing
  | roaring bitmap => exact crate.iter_increasing bitmap
  | dense vector => exact vector.iterOnes_increasing

lemma deletedCount_eq : mask.deletedCount = mask.iter.length := by
  cases mask with
  | sparse set => exact ExtTreeSet.length_toList.symm
  | roaring bitmap => exact crate.cardinality_eq bitmap
  | dense vector => exact vector.countOnes_eq

@[simp]
lemma isDeleted_withRepresentation (representation row) :
    (withRepresentation representation : AdaptiveDelMask crate).isDeleted row = false := by
  cases representation with
  | sparse => rfl
  | roaring => exact crate.contains_new row
  | dense => rfl

section

variable (mask : AdaptiveDelMask crate)

lemma isDeleted_deleteInner (deleted row) :
    (mask.deleteInner deleted).isDeleted row = (decide (row = deleted) || mask.isDeleted row) := by
  cases mask with
  | sparse set => exact set.contains_insert deleted row
  | roaring bitmap => exact crate.contains_add bitmap deleted row
  | dense vector => exact vector.get_mark deleted row

lemma isDeleted_delete (deleted row) :
    (mask.delete deleted).isDeleted row = (decide (row = deleted) || mask.isDeleted row) :=
  isDeleted_deleteInner mask deleted row

lemma decide_mem_iter (row) : decide (row ∈ mask.iter) = mask.isDeleted row := by
  rw [Bool.eq_iff_iff, decide_eq_true_iff, mem_iter]

lemma isDeleted_convertTo (target row) :
    (mask.convertTo target).isDeleted row = mask.isDeleted row := by
  -- All but one of the conversions that do something add the rows of the mask
  -- one by one to a container that is empty.
  have toBitmap (rows : List UInt32) :
      crate.contains (rows.foldl crate.add crate.new) row =
        decide (row ∈ rows) := by
    rw [contains_foldl_add crate.contains_add, crate.contains_new, Bool.or_false]
  have toVector (rows : List UInt32) : (rows.foldl RowBits.mark .new).get row =
      decide (row ∈ rows) := by
    rw [contains_foldl_add RowBits.get_mark, RowBits.get_new, Bool.or_false]
  have toSet (rows : List UInt32) : (RowSet.extend ∅ rows).contains row =
      decide (row ∈ rows) :=
    (RowSet.contains_extend ∅ rows row).trans (Bool.or_false _)
  cases mask with
  | sparse set =>
    rw [← decide_mem_iter (.sparse set)]
    cases target with
    | sparse => exact (decide_mem_iter (.sparse set) row).symm
    | roaring => exact toBitmap set.toList
    | dense => exact toVector set.toList
  | roaring bitmap =>
    rw [← decide_mem_iter (.roaring bitmap)]
    cases target with
    | sparse => exact toSet (crate.iter bitmap)
    | roaring => exact (decide_mem_iter (.roaring bitmap) row).symm
    | dense => exact toVector (crate.iter bitmap)
  | dense vector =>
    rw [← decide_mem_iter (.dense vector)]
    cases target with
    | sparse => exact toSet vector.iterOnes
    | roaring =>
      rw [convertTo, isDeleted, vector.foldl_zipIdx]
      exact toBitmap vector.iterOnes
    | dense => exact (decide_mem_iter (.dense vector) row).symm

lemma isDeleted_switchIfNeeded (totalRows row) :
    (mask.switchIfNeeded totalRows).isDeleted row = mask.isDeleted row := by
  rw [switchIfNeeded]
  split
  · exact isDeleted_convertTo mask _ row
  · rfl

end

lemma isDeleted_mergeAcross (mask other : AdaptiveDelMask crate) (row) :
    (mask.mergeAcross other).isDeleted row = (mask.isDeleted row || other.isDeleted row) := by
  rw [mergeAcross, contains_foldl_add isDeleted_deleteInner,
    contains_foldl_add isDeleted_deleteInner, isDeleted_withRepresentation,
    Bool.or_false, decide_mem_iter, decide_mem_iter, Bool.or_comm]

lemma isDeleted_merge (mask other : AdaptiveDelMask crate) (row) :
    (mask.merge other).isDeleted row = (mask.isDeleted row || other.isDeleted row) := by
  have listed := decide_mem_iter mask row
  have otherListed := decide_mem_iter other row
  cases mask with
  | sparse set =>
    cases other with
    | sparse added =>
      rw [← otherListed, Bool.or_comm]
      exact set.contains_extend added.toList row
    | roaring bitmap =>
      rw [merge]
      split_ifs with noRows noBits
      · obtain rfl := ExtTreeSet.isEmpty_iff.mp noRows
        rw [← otherListed, Bool.or_comm]
        exact RowSet.contains_extend ∅ (crate.iter bitmap) row
      · rw [crate.isEmpty_eq, List.isEmpty_iff] at noBits
        rw [← otherListed, iter, noBits]
        exact (Bool.or_false _).symm
      · rw [← listed]
        refine (crate.contains_orInplace _ bitmap row).trans ?_
        rw [contains_foldl_add crate.contains_add, crate.contains_new, Bool.or_false]
        rfl
    | dense vector => exact isDeleted_mergeAcross _ _ row
  | roaring bitmap =>
    cases other with
    | sparse added =>
      rw [← otherListed, Bool.or_comm]
      exact contains_foldl_add crate.contains_add bitmap added.toList row
    | roaring added => exact crate.contains_orInplace bitmap added row
    | dense vector => exact isDeleted_mergeAcross _ _ row
  | dense vector =>
    cases other with
    | sparse added | roaring bitmap => exact isDeleted_mergeAcross _ _ row
    | dense added => exact vector.get_or added row

end AdaptiveDelMask

/-- How a mask was built.  The masks that are merged were built in the same
ways. -/
inductive MaskHistory where
  | new
  | withCapacity (totalRows : UInt64) (deletedRows : List UInt32)
  | delete (before : MaskHistory) (row : UInt32)
  | switchIfNeeded (before : MaskHistory) (totalRows : UInt64)
  | merge (before other : MaskHistory)

namespace MaskHistory

/-- The mask that the calls have made. -/
def mask (crate : BitmapCrate) : MaskHistory → AdaptiveDelMask crate
  | new => .new
  | withCapacity totalRows deletedRows => .withCapacity totalRows deletedRows
  | delete before row => (before.mask crate).delete row
  | switchIfNeeded before totalRows => (before.mask crate).switchIfNeeded totalRows
  | merge before other => (before.mask crate).merge (other.mask crate)

/-- The rows that the calls have deleted. -/
def rows : MaskHistory → Finset UInt32
  | new => ∅
  | withCapacity _ deletedRows => deletedRows.toFinset
  | delete before row => insert row before.rows
  | switchIfNeeded before _ => before.rows
  | merge before other => before.rows ∪ other.rows

lemma isDeleted_mask_iff (crate) (hist : MaskHistory) (row) :
    (hist.mask crate).isDeleted row = true ↔ row ∈ hist.rows := by
  induction hist with
  | new => simp [mask, rows, AdaptiveDelMask.new, AdaptiveDelMask.isDeleted]
  | withCapacity totalRows deletedRows =>
    rw [mask, AdaptiveDelMask.withCapacity, contains_foldl_add AdaptiveDelMask.isDeleted_delete]
    simp [rows]
  | delete before deleted ih =>
    rw [mask, AdaptiveDelMask.isDeleted_delete, Bool.or_eq_true,
      decide_eq_true_iff, ih, rows, Finset.mem_insert]
  | switchIfNeeded before totalRows ih =>
    rw [mask, AdaptiveDelMask.isDeleted_switchIfNeeded, ih, rows]
  | merge before other ih otherIh =>
    rw [mask, AdaptiveDelMask.isDeleted_merge, Bool.or_eq_true, ih, otherIh, rows, Finset.mem_union]

/-- A delete mask is the set of its deleted rows, in whatever representations
it was built. -/
theorem mask_refines (crate : BitmapCrate) (history : MaskHistory) :
    (∀ row, (history.mask crate).isDeleted row = decide (row ∈ history.rows)) ∧
    (history.mask crate).deletedCount = history.rows.card ∧
    (history.mask crate).toVec.Pairwise (· < ·) ∧
    (history.mask crate).toVec.toFinset = history.rows := by
  have increasing := (history.mask crate).iter_increasing
  have listed : (history.mask crate).iter.toFinset = history.rows := by
    ext row
    rw [List.mem_toFinset, AdaptiveDelMask.mem_iter, isDeleted_mask_iff]
  refine ⟨fun row => ?_, ?_, increasing, listed⟩
  · rw [Bool.eq_iff_iff, isDeleted_mask_iff, decide_eq_true_iff]
  · rw [AdaptiveDelMask.deletedCount_eq, ← listed, List.toFinset_card_of_nodup
        (increasing.imp fun before => UInt32.ne_of_lt before)]

example : (((new.delete 7).merge ((new.delete 9).delete 7)).mask
    RowSet.bitmapCrate).toVec = [7, 9] := by
  decide +kernel

end MaskHistory

end RockDuck
