import RockDuck.DeltaLayer

/-!
# Merging the delta layers

The merge of the layers keeps, for every place with a visible cell, the first
of its newest visible cells, in the order of the places.
-/

namespace RockDuck

/-- The merge has one cell for each place with a visible cell: the first in the order of the layers
among the visible cells of the highest transaction. -/
theorem kWayMerge_newest_visible_wins (layers : List (List StoredDeltaCell)) (snapshotTxn : TxnId)
    (commitTsByTxn : Std.ExtTreeMap TxnId Nat) (activeTxns : Std.ExtTreeSet TxnId) :
    let visible := layers.flatten.filter fun cell =>
      cell.isVisibleAtCommit snapshotTxn commitTsByTxn activeTxns
    let merged := kWayMerge layers snapshotTxn commitTsByTxn activeTxns
    (∀ cell ∈ merged, ∃ earlier later, visible = earlier ++ cell :: later ∧
        (∀ other ∈ earlier, other.place = cell.place → other.txnId < cell.txnId) ∧
        ∀ other ∈ later, other.place = cell.place → other.txnId ≤ cell.txnId) ∧
      (∀ cell ∈ visible, ∃ kept ∈ merged, kept.place = cell.place) ∧
      merged.Pairwise fun first second => first.place < second.place := by
  intro visible merged
  have unsorted : merged = latestVersions StoredDeltaCell.place StoredDeltaCell.txnId visible :=
    kWayMerge_eq layers snapshotTxn commitTsByTxn activeTxns
  rw [unsorted]
  refine ⟨fun cell kept => mem_latestVersions.mp kept, fun cell shown => ?_,
    (pairwise_compare_latestVersions _).imp compare_lt_iff_lt.mp⟩
  obtain ⟨kept, listed, same, -⟩ :
      ∃ kept ∈ latestVersions StoredDeltaCell.place StoredDeltaCell.txnId visible,
        kept.place = cell.place ∧ cell.txnId ≤ kept.txnId := exists_mem_latestVersions shown
  exact ⟨kept, listed, same⟩

end RockDuck
