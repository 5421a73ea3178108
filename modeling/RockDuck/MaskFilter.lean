import RockDuck.DeleteMask

/-!
# Rows that a delete mask leaves

The rows of a range that are not deleted are found from the gaps between the
deleted ones.
-/

namespace RockDuck

open List

def rowsIn (start stop : Nat) : List Nat :=
  List.range' start (stop - start)

/-- Go from one deleted row to the next and take the rows between them. -/
def gaps (stop : Nat) : Nat → List Nat → List Nat
  | cur, [] => rowsIn cur stop
  | cur, deleted :: rows => rowsIn cur deleted ++ gaps stop (deleted + 1) rows

/-- The same over a whole bitmap: what is in front of the range is passed over, and the
loop ends behind it. -/
def bitmapGaps (start stop : Nat) : Nat → List Nat → List Nat
  | cur, [] => rowsIn cur stop
  | cur, deleted :: rows =>
    if deleted < start then bitmapGaps start stop cur rows
    else if stop ≤ deleted then rowsIn cur stop
    else rowsIn cur deleted ++ bitmapGaps start stop (deleted + 1) rows

def within (start stop row : Nat) : Bool :=
  decide (start ≤ row) && decide (row < stop)

lemma mem_rowsIn : row ∈ rowsIn start stop ↔ start ≤ row ∧ row < stop := by
  rw [rowsIn, mem_range'_1]
  omega

lemma rowsIn_split (mem : start ≤ middle ∧ middle < stop) :
    rowsIn start stop = rowsIn start middle ++ middle :: rowsIn (middle + 1) stop := by
  have first : stop - start = (middle - start) + (stop - middle) := by omega
  have rest : stop - middle = (stop - (middle + 1)) + 1 := by omega
  have place : start + 1 * (middle - start) = middle := by omega
  rw [rowsIn, first, range'_append.symm, place, rest]
  rfl

lemma gaps_eq {rows : List Nat} (sorted : rows.Pairwise (· < ·))
    (inside : ∀ row ∈ rows, cur ≤ row ∧ row < stop) :
    gaps stop cur rows = (rowsIn cur stop).filter fun row => decide (row ∉ rows) := by
  induction rows generalizing cur with
  | nil => simp [gaps]
  | cons deleted rows ih =>
    obtain ⟨before, sorted⟩ := pairwise_cons.mp sorted
    have here := inside deleted mem_cons_self
    rw [gaps, rowsIn_split here, filter_append, filter_cons_of_neg (by simp),
      ih sorted fun row mem => ⟨before row mem, (inside row (mem_cons_of_mem _ mem)).2⟩]
    congr 1
    · refine (filter_eq_self.mpr fun row mem => ?_).symm
      have early := (mem_rowsIn.mp mem).2
      simp only [mem_cons, not_or, decide_eq_true_eq]
      exact ⟨early.ne, fun later => (early.trans (before row later)).false⟩
    · refine filter_congr fun row mem => ?_
      have late := (mem_rowsIn.mp mem).1
      simp [(Nat.lt_of_succ_le late).ne']

lemma bitmapGaps_eq {rows : List Nat} (sorted : rows.Pairwise (· < ·)) :
    bitmapGaps start stop cur rows = gaps stop cur (rows.filter (within start stop)) := by
  induction rows generalizing cur with
  | nil => rfl
  | cons deleted rows ih =>
    obtain ⟨before, sorted⟩ := pairwise_cons.mp sorted
    rw [bitmapGaps]
    split
    · rename_i early
      rw [ih sorted, filter_cons_of_neg (by simp [within]; omega)]
    · split
      · rename_i late
        have none : (deleted :: rows).filter (within start stop) = [] := by
          refine filter_eq_nil_iff.mpr fun row among => ?_
          have : stop ≤ row := by
            rcases mem_cons.mp among with rfl | among
            · exact late
            · exact late.trans (before row among).le
          simp [within]
          omega
        rw [none, gaps]
      · rw [ih sorted, filter_cons_of_pos (by simp [within]; omega), gaps]

namespace AdaptiveDelMask

variable {crate : BitmapCrate} (mask : AdaptiveDelMask crate) (start stop : UInt32)

def rowNumbers : List Nat := mask.iter.map UInt32.toNat

/-- How many rows of the range are deleted.  A bit vector is cut to the range first. -/
def deletedIn : Except String Nat :=
  match mask with
  | .dense vector =>
    let first := start.toNat
    let last := stop.toNat
    let len := vector.bits.length
    if len < last then .error s!"range {first}..{last} out of bounds: {len}"
    else .ok (((vector.bits.drop first).take (last - first)).count true)
  | .sparse _ | .roaring _ =>
    .ok (mask.rowNumbers.countP (within start.toNat stop.toNat))

/-- The rows of a range that are not deleted. -/
def notDeleted : List Nat :=
  (rowsIn start.toNat stop.toNat).filter fun row => !mask.isDeleted (.ofNat row)

/-- The same rows, by one of two ways. -/
def filterNotDeleted : Except String (List Nat) := do
  let size := stop.toNat - start.toNat
  if size = 0 then .ok []
  else
    let deleted ← mask.deletedIn start stop
    if 2 ^ 32 ≤ deleted * 3 ∨ 2 ^ 32 ≤ size * 10 then .error "attempt to multiply with overflow"
    else if deleted * 3 < size * 10 then
      match mask with
      | .sparse _ =>
        .ok (gaps stop.toNat start.toNat
          (mask.rowNumbers.filter (within start.toNat stop.toNat)))
      | .roaring _ => .ok (bitmapGaps start.toNat stop.toNat start.toNat mask.rowNumbers)
      | .dense _ => .ok (mask.notDeleted start stop)
    else .ok (mask.notDeleted start stop)

/-- The mask has a bit for every row of the range. -/
def Covers (mask : AdaptiveDelMask crate) (stop : UInt32) : Prop :=
  match mask with
  | .dense vector => stop.toNat ≤ vector.bits.length
  | .sparse _ | .roaring _ => True

variable {start stop}

lemma rowNumbers_increasing : mask.rowNumbers.Pairwise (· < ·) :=
  pairwise_map.mpr (mask.iter_increasing.imp UInt32.lt_iff_toNat_lt.mp)

lemma mem_rowNumbers (small : row < 2 ^ 32) :
    row ∈ mask.rowNumbers ↔ mask.isDeleted (.ofNat row) = true := by
  rw [← mem_iter, rowNumbers, mem_map]
  constructor
  · rintro ⟨deleted, mem, rfl⟩
    rwa [UInt32.ofNat_toNat]
  · exact fun mem => ⟨_, mem, UInt32.toNat_ofNat_of_lt' small⟩

lemma gaps_rowNumbers : gaps stop.toNat start.toNat
      (mask.rowNumbers.filter (within start.toNat stop.toNat)) = mask.notDeleted start stop := by
  rw [gaps_eq (mask.rowNumbers_increasing.filter _)
    fun row mem => by simpa [within] using (mem_filter.mp mem).2]
  refine filter_congr fun row mem => ?_
  have inside := mem_rowsIn.mp mem
  have small : row < 2 ^ 32 := inside.2.trans stop.toNat_lt
  rw [Bool.eq_iff_iff, decide_eq_true_iff, mem_filter, mem_rowNumbers mask small, Bool.not_eq_true',
    ← Bool.not_eq_true]
  simp [within, inside]

lemma deletedIn_of_covers (start) (covers : mask.Covers stop) : ∃ deleted,
    mask.deletedIn start stop = .ok deleted ∧ deleted ≤ stop.toNat - start.toNat := by
  have listed : mask.rowNumbers.countP (within start.toNat stop.toNat) ≤
      stop.toNat - start.toNat := by
    have mem : mask.rowNumbers.filter (within start.toNat stop.toNat) ⊆
        rowsIn start.toNat stop.toNat := fun row kept =>
      mem_rowsIn.mpr (by simpa [within] using (mem_filter.mp kept).2)
    have few := (Nodup.subperm (mask.rowNumbers_increasing.filter _).nodup mem).length_le
    rwa [rowsIn, length_range', ← countP_eq_length_filter] at few
  cases mask with
  | sparse set | roaring bitmap => exact ⟨_, rfl, listed⟩
  | dense vector =>
    exact ⟨_, if_neg (Nat.not_lt.mpr covers), count_le_length.trans (length_take_le _ _)⟩

/-- The rows that are left are returned for an empty range, and for one of less than 2 ^ 32 / 10
rows that does not go beyond a bit vector. -/
theorem filterNotDeleted_eq_iff (mask : AdaptiveDelMask crate) (start stop : UInt32) :
    mask.filterNotDeleted start stop = .ok (mask.notDeleted start stop) ↔
      stop ≤ start ∨ 10 * (stop.toNat - start.toNat) < 2 ^ 32 ∧ mask.Covers stop := by
  rw [UInt32.le_iff_toNat_le]
  unfold filterNotDeleted
  by_cases empty : stop.toNat - start.toNat = 0
  · rw [if_pos empty, notDeleted, rowsIn, empty]
    exact iff_of_true rfl (Or.inl (Nat.sub_eq_zero_iff_le.mp empty))
  · have ne : ¬ stop.toNat ≤ start.toNat := by omega
    rw [if_neg empty]
    by_cases covers : mask.Covers stop
    · obtain ⟨deleted, counted, few⟩ := mask.deletedIn_of_covers start covers
      simp only [counted, bind, Except.bind]
      by_cases large : 2 ^ 32 ≤ deleted * 3 ∨ 2 ^ 32 ≤ (stop.toNat - start.toNat) * 10
      · rw [if_pos large]
        exact iff_of_false nofun (by omega)
      · rw [if_neg large, if_pos (by omega)]
        refine iff_of_true ?_ (Or.inr ⟨by omega, covers⟩)
        cases mask with
        | sparse set => exact congrArg _ (gaps_rowNumbers _)
        | roaring bitmap =>
          exact congrArg _ ((bitmapGaps_eq (rowNumbers_increasing _)).trans (gaps_rowNumbers _))
        | dense vector => rfl
    · refine iff_of_false ?_ (by simp [ne, covers])
      cases mask with
      | sparse set | roaring bitmap => exact absurd trivial covers
      | dense vector => simp [deletedIn, Nat.not_le.mp covers, bind, Except.bind]

theorem filterNotDeleted_beyond_bits :
    (AdaptiveDelMask.dense .new : AdaptiveDelMask RowSet.bitmapCrate).filterNotDeleted 0 1 ≠
      .ok ((AdaptiveDelMask.dense .new : AdaptiveDelMask RowSet.bitmapCrate).notDeleted 0 1) := by
  decide +kernel

end AdaptiveDelMask

end RockDuck
