import RockDuck.DeltaStores

/-!
# What a query reads

A query of a segment succeeds when the guards and the frozen patches of the
segment can be read, and returns the newest visible cells of the three layers.
-/

namespace RockDuck

open List

namespace DeltaL2Disk

variable (codecs : PatchCodecs) (disk : DeltaL2Disk)

/-- The cells of a guard, or none where it cannot be read. -/
def held (key : GuardKey) (snapshotTxn : TxnId) : List StoredDeltaCell :=
  (disk.guardCells codecs key snapshotTxn).toOption.getD []

variable {codecs disk}

lemma segId_of_mem_guardKeys (mem : key ∈ disk.guardKeys segId) : key.segId = segId := by
  obtain ⟨entry, listed, member⟩ := mem_flatMap.mp mem
  obtain ⟨stored, same⟩ := mem_filter.mp listed
  rw [disk.indexed (Std.ExtTreeMap.mem_toList_iff_getElem?_eq_some.mp stored) key member]
  exact of_decide_eq_true same

lemma joinGuards_eq_ok_iff :
    joinGuards answers = .ok cells ↔ (∀ answer ∈ answers, ∃ part, answer = .ok part) ∧
        cells = answers.flatMap fun answer => answer.toOption.getD [] := by
  induction answers generalizing cells with
  | nil => simp [joinGuards, eq_comm]
  | cons answer answers ih =>
    cases answer with
    | error err =>
      cases err with
      | panicked msg => simp [joinGuards]
      | error error =>
        simp only [joinGuards]
        split <;> simp
    | ok part =>
      cases rest : joinGuards answers with
      | error err =>
        have unread : ¬ ∀ answer ∈ answers, ∃ part, answer = .ok part := by
          intro each
          have read := ih.mpr ⟨each, rfl⟩
          rw [rest] at read
          cases read
        simp [joinGuards, rest, Except.map, unread]
      | ok others =>
        obtain ⟨each, same⟩ := ih.mp rest
        rw [joinGuards, rest, forall_mem_cons, flatMap_cons, ← same]
        constructor
        · intro joined
          exact ⟨⟨⟨part, rfl⟩, each⟩, (Except.ok.inj joined).symm⟩
        · rintro ⟨-, rfl⟩
          rfl

lemma getVisible_eq_ok_iff :
    disk.getVisible codecs segId snapshotTxn = .ok cells ↔ (∀ key ∈ disk.guardKeys segId, ∃ part,
          disk.guardCells codecs key snapshotTxn = .ok part) ∧
        cells = (disk.guardKeys segId).flatMap fun key => disk.held codecs key snapshotTxn := by
  rw [getVisible, joinGuards_eq_ok_iff, forall_mem_map, flatMap_map]
  rfl

end DeltaL2Disk

namespace DeltaStores

variable (codecs : PatchCodecs) (stores : DeltaStores)

def heldFrozen (segId : String) : List StoredDeltaCell :=
  (stores.l3.getVisible codecs segId).toOption.getD []

/-- The guards and the frozen patches of the segment can be read. -/
def Readable (segId : String) (snapshotTxn : TxnId) : Prop :=
  (∀ key ∈ stores.l2.guardKeys segId, ∃ part,
      stores.l2.guardCells codecs key snapshotTxn = .ok part) ∧
    ∃ part, stores.l3.getVisible codecs segId = .ok part

/-- The cells that the layers hold. -/
def layerCells (segId : String) (snapshotTxn : TxnId) : List StoredDeltaCell :=
  (stores.l1.getVisible segId snapshotTxn).2 ++
    (stores.l2.guardKeys segId).flatMap (fun key =>
      stores.l2.held codecs key snapshotTxn) ++ stores.heldFrozen codecs segId

variable {codecs stores}

lemma query_eq_ok_iff : stores.query codecs segId snap = .ok cells ↔
      stores.Readable codecs segId snap.snapshotId ∧
        cells = latestVersions StoredDeltaCell.place StoredDeltaCell.txnId
          ((stores.layerCells codecs segId snap.snapshotId).filter
            fun cell => cell.isVisibleAtCommit snap.snapshotId
              snap.commitTsMap snap.activeTxns) := by
  unfold query Readable layerCells heldFrozen
  cases second : stores.l2.getVisible codecs segId snap.snapshotId with
  | error err =>
    have unread : ¬ ∀ key ∈ stores.l2.guardKeys segId, ∃ part,
        stores.l2.guardCells codecs key snap.snapshotId = .ok part := by
      intro each
      rw [DeltaL2Disk.getVisible_eq_ok_iff.mpr ⟨each, rfl⟩] at second
      cases second
    exact iff_of_false (fun read => by cases read) fun read => unread read.1.1
  | ok l2 =>
    obtain ⟨each, same⟩ := DeltaL2Disk.getVisible_eq_ok_iff.mp second
    cases third : stores.l3.getVisible codecs segId with
    | error err => simp
    | ok l3 =>
      simp only [Except.ok.injEq, kWayMerge_eq, flatten_cons, flatten_nil, append_nil, Except.toOption,
        Option.getD_some, exists_eq', and_true, same, append_assoc]
      exact ⟨fun joined => ⟨each, joined.symm⟩, fun joined => joined.2.symm⟩

end DeltaStores

end RockDuck
