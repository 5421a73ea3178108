import RockDuck.WritePathEffects

/-!
# Rebuilding a store from its log

The operations that inserts, updates and deletes log are replayed on a data
directory without files.
-/

namespace RockDuck

open TableStore

namespace TableStore

variable {Value : Type*} {fmt : RowFormats Value} {wal : Bytes} {segId : String}
    {before after rebuilt rebuiltAfter : TableStore}

/-- A new row without a file for its visibility. -/
lemma replayRow_visCount (logged : LoggedBatch fmt cols wal batch rows)
    (replays : replayRow fmt store pk cols wal segId off = (after, .ok ())) :
    (∀ other, segId ≠ other → after.visCount fmt.vortex other = store.visCount fmt.vortex other) ∧
      ∀ held, store.visCount fmt.vortex segId = some held → after.visCount fmt.vortex segId =
          some (if "__vis" ∈ cols then rows else held) := by
  rw [replayRow_of_logged logged] at replays
  obtain ⟨written, _, writes, indexes⟩ := andThen_eq_ok.mp replays
  obtain ⟨_, rfl, pos, few, uniform⟩ := logged
  obtain ⟨pkIdx, pkLookup, rfl⟩ := putPkIndexDouble_changes indexes
  obtain ⟨_, elsewhere, here⟩ := forEach_setsColumn
    (fun col mem before next taken => by
      have size := uniform col mem
      have ne : col.2 ≠ [] := by
        rw [← List.length_pos_iff, size]
        exact pos
      have sets := setsColumn_replayColumn ne (by rwa [size]) taken
      rwa [size] at sets) writes
  exact ⟨elsewhere, here⟩

/-- The visibility file of a segment was rebuilt with too few rows, or not at
all. -/
def Behind (codec : VortexCodec Value) (live rebuilt : TableStore) (segId : String) : Prop :=
  ∃ held replayed, live.visCount codec segId = some held ∧
    rebuilt.visCount codec segId = some replayed ∧
    (replayed = 0 ∨ replayed < held)

lemma Behind.of_visCount {codec : VortexCodec Value} {live liveAfter : TableStore}
    (behind : Behind codec live rebuilt segId)
    (sameLive : liveAfter.visCount codec segId = live.visCount codec segId)
    (sameRebuilt : rebuiltAfter.visCount codec segId = rebuilt.visCount codec segId) :
    Behind codec liveAfter rebuiltAfter segId := by
  rwa [Behind, sameLive, sameRebuilt]

lemma Grown.behind (grown : Grown fmt before after cols wal segId)
    (replays : replayRow fmt rebuilt pk cols wal segId off = (rebuiltAfter, .ok ()))
    (behind : Behind fmt.vortex before rebuilt other) :
    Behind fmt.vortex after rebuiltAfter other := by
  obtain ⟨batch, rows, logged, elsewhere, here⟩ := grown
  obtain ⟨elsewhereRebuilt, hereRebuilt⟩ := replayRow_visCount logged replays
  by_cases same : segId = other
  · subst other
    obtain ⟨held, replayed, live, count, fewer⟩ := behind
    refine ⟨_, _, here held live, hereRebuilt replayed count, ?_⟩
    have positive := logged.2.2.1
    split <;> omega
  · exact behind.of_visCount (elsewhere other same) (elsewhereRebuilt other same)

lemma replayRowOp_behind (effect : VisEffect fmt before after op)
    (replays : rebuilt.replayRowOp fmt op.txnId op.payload = (rebuiltAfter, .ok ()))
    (behind : Behind fmt.vortex before rebuilt segId) :
    Behind fmt.vortex after rebuiltAfter segId := by
  obtain ⟨opType, txnId, payload⟩ := op
  cases payload with
  | insert table pk cols wal schemaBytes target granule off =>
    exact effect.behind replays behind
  | update table pk cols wal schemaBytes oldColumns oldSegId
      oldGranuleId oldOffset newSegId newGranuleId off =>
      obtain ⟨marked, _, marks, rest⟩ := andThen_eq_ok.mp replays
      exact effect.behind rest (behind.of_visCount rfl ((markDeleted_visCount marks).2 segId))
  | delete table pk beforeRow target granule off =>
    obtain ⟨marked, _, marks, removes⟩ := andThen_eq_ok.mp replays
    obtain ⟨pkIdx, pkLookup, rfl⟩ := deletePkIndexDouble_changes removes
    exact behind.of_visCount (effect segId) ((markDeleted_visCount marks).2 segId)
  | _ => exact effect.elim

/-- Some visibility file has rows. -/
def HasVisRows (codec : VortexCodec Value) (store : TableStore) : Prop :=
  ∃ segId held, store.visCount codec segId = some held ∧ 0 < held

section

variable {before after : TableStore} {cols : List String} {segId : String}
    (grown : Grown fmt before after cols wal segId)
include grown

lemma Grown.hasVisRows (readable : before.visCount fmt.vortex segId = some held) :
    after.HasVisRows fmt.vortex := by
  obtain ⟨batch, rows, logged, _, here⟩ := grown
  exact ⟨segId, _, here held readable, Nat.lt_of_lt_of_le logged.2.2.1 (Nat.le_add_left _ _)⟩

lemma Grown.keeps_hasVisRows (holds : before.HasVisRows fmt.vortex) :
    after.HasVisRows fmt.vortex := by
  obtain ⟨other, held, readable, pos⟩ := holds
  by_cases same : segId = other
  · subst other
    exact grown.hasVisRows readable
  · obtain ⟨batch, rows, logged, elsewhere, _⟩ := grown
    exact ⟨other, held, (elsewhere other same).trans readable, pos⟩

end

lemma Performed.keeps_hasVisRows (performed : Performed fmt before after op)
    (holds : before.HasVisRows fmt.vortex) : after.HasVisRows fmt.vortex := by
  obtain ⟨opType, txnId, payload⟩ := op
  have effect := performed.effect
  cases payload with
  | insert table pk cols wal schemaBytes segId granule off =>
    exact effect.keeps_hasVisRows holds
  | update table pk cols wal schemaBytes oldColumns oldSegId
      oldGranuleId oldOffset newSegId newGranuleId off =>
      exact effect.keeps_hasVisRows holds
  | delete table pk beforeRow segId granule off =>
    obtain ⟨other, held, readable, pos⟩ := holds
    exact ⟨other, held, (effect other).trans readable, pos⟩
  | _ => exact effect.elim

lemma exists_lookupRow_eq_error (fmt : RowFormats Value) (env : RowEnvironment Value)
    {store : TableStore} (noKeys : store.pkLookup = ∅) (pk : Bytes) :
    ∃ error, store.lookupRow fmt env pk = .error error := by
  have absent : store.getPkIndexByPk pk = none := by simp [getPkIndexByPk, noKeys]
  unfold lookupRow
  rw [absent]
  cases env.lookupFault with
  | some error => exact ⟨error, rfl⟩
  | none => exact ⟨_, rfl⟩

lemma file_new (db segId path) : (TableStore.new db).file segId path = none := by
  simp [file, new]

lemma visCount_new (codec : VortexCodec Value) (db : Database)
    (segId : String) : (TableStore.new db).visCount codec segId = some 0 := by
  simp [visCount, readColumn, file_new]

lemma hasVisRows_of_first {db : Database} (ordered : db.wal.Ordered)
    (ran : (TableStore.new db).perform fmt call = (after, .ok ())) :
    after.HasVisRows fmt.vortex := by
  have noKeys : (new db).pkLookup = ∅ := rfl
  cases call with
  | insert call =>
    obtain ⟨next, _, inserts, rest⟩ := andThen_eq_ok.mp ran
    cases rest
    obtain ⟨_, _, _, segId, _, grown⟩ := insert_performed ordered inserts
    exact grown.hasVisRows (visCount_new fmt.vortex db segId)
  | update call =>
    obtain ⟨next, _, updates, _⟩ := andThen_eq_ok.mp ran
    obtain ⟨numbered, _, nums, rest⟩ := andThen_eq_ok.mp updates
    obtain ⟨ctr, rfl⟩ := insertTxnId_changes nums
    obtain ⟨error, missing⟩ := @exists_lookupRow_eq_error _ fmt
      call.environment { new db with txnCounter := ctr } noKeys
      call.pk
    simp [missing] at rest
  | delete call =>
    obtain ⟨numbered, _, nums, rest⟩ := andThen_eq_ok.mp ran
    obtain ⟨ctr, rfl⟩ := insertTxnId_changes nums
    obtain ⟨error, missing⟩ := @exists_lookupRow_eq_error _ fmt
      call.environment { new db with txnCounter := ctr } noKeys
      call.pk
    simp [missing] at rest

end TableStore

namespace RecoveryWorld

variable {Value : Type*}

/-- No file, though segments may have their directories, and no key. -/
structure Empty (world : RecoveryWorld) : Prop where
  noFiles : ∀ segId path, world.file segId path = none
  noIndex : world.pkIdx = ∅
  noLookup : world.pkLookup = ∅

/-- The same keys, delete logs and rows. -/
structure SameData (codec : VortexCodec Value) (live rebuilt : TableStore) :
    Prop where
  pkIdx : rebuilt.pkIdx = live.pkIdx
  pkLookup : rebuilt.pkLookup = live.pkLookup
  visRows : ∀ segId, rebuilt.readColumn codec segId "__vis" =
    live.readColumn codec segId "__vis"
  deletes : ∀ segId, Deltavis.entries (rebuilt.deltavis segId) =
    Deltavis.entries (live.deltavis segId)
  columnRows : ∀ segId column, rebuilt.readColumn codec segId column =
    live.readColumn codec segId column

/-- Replaying everything that was logged succeeds, and gives what the calls
left. -/
def Reconstructs (formats : RowFormats Value) (live : TableStore) (world : RecoveryWorld) : Prop :=
  ∃ rebuilt, forEach (replayOp formats) world live.wal.records =
      (rebuilt, .ok ()) ∧
    SameData formats.vortex live rebuilt.toTableStore

variable {formats : RowFormats Value}

lemma replayOp_behind (effect : TableStore.VisEffect formats before after op)
    (replays : replayOp formats world op = (rebuilt, .ok ()))
    (behind : TableStore.Behind formats.vortex before world.toTableStore segId) :
    TableStore.Behind formats.vortex after rebuilt.toTableStore segId := by
  unfold replayOp at replays
  split at replays
  · next same =>
      rw [TableStore.VisEffect, same] at effect
      exact effect.elim
  · have onRows : world.toTableStore.replayRowOp formats op.txnId op.payload =
        (rebuilt.toTableStore, .ok ()) := by
      unfold onStore at replays
      obtain ⟨states, results⟩ := Prod.mk.inj replays
      exact Prod.ext (congrArg RecoveryWorld.toTableStore states) results
    exact replayRowOp_behind effect onRows behind

variable {calls : List (TableCall Value)} {store after : TableStore}

lemma run_behind (enabled : store.wal.enabled = true) (ordered : store.wal.Ordered)
    (runs : forEach (TableStore.perform formats) store calls = (after, .ok ())) :
    ∃ ops, after.wal.records = store.wal.records ++ ops ∧ ∀ (world rebuilt),
        forEach (replayOp formats) world ops = (rebuilt, .ok ()) →
        (∀ segId, TableStore.Behind formats.vortex store world.toTableStore segId) →
        ∀ segId, TableStore.Behind formats.vortex after rebuilt.toTableStore segId := by
  induction calls generalizing store with
  | nil =>
    cases runs
    refine ⟨[], by simp, fun world rebuilt replays behind => ?_⟩
    cases replays
    exact behind
  | cons call calls ih =>
    obtain ⟨next, _, first, rest⟩ := andThen_eq_ok.mp runs
    obtain ⟨op, performed⟩ := exists_performed ordered first
    obtain ⟨ops, logged, later⟩ :=
      ih (performed.appended.enabled.trans enabled)
        performed.appended.ordered rest
    refine ⟨op :: ops, ?_, fun world rebuilt replays behind => ?_⟩
    · rw [logged, performed.appended.records, if_pos enabled]
      simp
    · obtain ⟨middle, _, replayed, remaining⟩ := andThen_eq_ok.mp replays
      exact later middle rebuilt remaining fun segId =>
        replayOp_behind performed.effect replayed (behind segId)

lemma run_keeps (prop : TableStore → Prop) (ordered : store.wal.Ordered)
    (step : ∀ before next op, TableStore.Performed formats before next op → prop before →
      prop next) (runs : forEach (TableStore.perform formats) store calls = (after, .ok ()))
    (holds : prop store) : prop after := by
  refine (forEach_keeps (fun state => state.wal.Ordered ∧ prop state) ?_ runs ⟨ordered, holds⟩).2
  rintro call _ before next ⟨orderedBefore, kept⟩ performs
  obtain ⟨op, performed⟩ := exists_performed orderedBefore performs
  exact ⟨performed.appended.ordered, step before next op performed kept⟩

lemma not_reconstructs {db : Database} {world : RecoveryWorld} (emptyLog : db.wal.records = [])
    (empty : world.Empty)
    (runs : forEach (TableStore.perform formats) (.new db) calls = (after, .ok ()))
    (ne : after.HasVisRows formats.vortex) : ¬ Reconstructs formats after world := by
  rintro ⟨rebuilt, replays, same⟩
  obtain ⟨segId, held, readable, pos⟩ := ne
  have ordered : db.wal.Ordered := .inl (List.append_eq_nil_iff.mp emptyLog).2
  have unwritten (other : String) : world.toTableStore.visCount formats.vortex other = some 0 := by
    simp [visCount, readColumn, empty.noFiles]
  have rebuiltSame : rebuilt.toTableStore.visCount formats.vortex segId = some held := by
    rw [← readable, visCount, visCount, same.visRows]
  cases enabled : db.wal.enabled with
  | false =>
    have unlogged : after.wal.enabled = false ∧ after.wal.records = [] := by
      refine run_keeps (fun state => state.wal.enabled = false ∧
        state.wal.records = []) ordered ?_ runs ⟨enabled, emptyLog⟩
      rintro before next op performed ⟨disabled, none⟩
      rw [performed.appended.enabled, performed.appended.records, disabled]
      exact ⟨rfl, by simp [none]⟩
    rw [unlogged.2] at replays
    cases replays
    rw [unwritten] at rebuiltSame
    cases rebuiltSame
    exact Nat.lt_irrefl 0 pos
  | true =>
    obtain ⟨ops, logged, behind⟩ := run_behind enabled ordered runs
    change after.wal.records = db.wal.records ++ ops at logged
    rw [emptyLog, List.nil_append] at logged
    rw [logged] at replays
    obtain ⟨live, replayed, liveHeld, rebuiltHeld, fewer⟩ :=
      behind world rebuilt replays (fun other => ⟨0, 0,
        visCount_new formats.vortex db other, unwritten other,
        .inl rfl⟩) segId
    rw [readable] at liveHeld
    rw [rebuiltSame] at rebuiltHeld
    cases liveHeld
    cases rebuiltHeld
    omega

/-- The log of a run of inserts, updates and deletes rebuilds their store only
if there were none. -/
theorem replay_reconstructs_iff {formats : RowFormats Value} {db : Database}
    {calls : List (TableCall Value)} {after : TableStore}
    {world : RecoveryWorld} (emptyLog : db.wal.records = []) (empty : world.Empty)
    (runs : forEach (TableStore.perform formats) (.new db) calls = (after, .ok ())) :
    Reconstructs formats after world ↔ calls = [] := by
  have ordered : db.wal.Ordered := .inl (List.append_eq_nil_iff.mp emptyLog).2
  constructor
  · intro reconstructs
    cases calls with
    | nil => rfl
    | cons call calls =>
      obtain ⟨next, _, first, rest⟩ := andThen_eq_ok.mp runs
      have started := hasVisRows_of_first ordered first
      obtain ⟨op, performed⟩ := exists_performed ordered first
      have filled : after.HasVisRows formats.vortex :=
        run_keeps _ performed.appended.ordered
          (fun _ _ _ performed => performed.keeps_hasVisRows) rest started
      exact absurd reconstructs (not_reconstructs emptyLog empty runs filled)
  · rintro rfl
    cases runs
    have nothing : (new db).wal.records = [] := emptyLog
    refine ⟨world, by rw [nothing, forEach], ?_⟩
    have unread (segId column : String) :
        world.toTableStore.readColumn formats.vortex segId column =
          (new db).readColumn formats.vortex segId column := by
      rw [readColumn, readColumn, empty.noFiles, file_new]
    exact
      { pkIdx := empty.noIndex
        pkLookup := empty.noLookup
        visRows := fun segId => unread segId "__vis"
        deletes := fun segId => by
          rw [deltavis, deltavis, empty.noFiles, file_new]
        columnRows := unread }

end RecoveryWorld

def oneInsert : TableCall UInt8 :=
  .insert
    { table := "t"
      pk := [0, 0, 0, 0, 0, 0, 0, 1]
      columns := (∅ : Std.ExtTreeMap String (List UInt8)).insert "x" [7]
      explicitTxn := none
      environment := .undisturbed "seg_1" 0 }

def loggedDatabase : Database :=
  .new (.new true .syncEach) 8

def storeAfterInsert : TableStore :=
  (forEach (TableStore.perform rowFormats) (.new loggedDatabase) [oneInsert]).1

lemma oneInsert_succeeds :
    forEach (TableStore.perform rowFormats) (.new loggedDatabase) [oneInsert] =
      (storeAfterInsert, .ok ()) :=
  Prod.ext rfl (by decide +kernel)

def emptyWorld : RecoveryWorld where
  toTableStore := .new loggedDatabase
  segAliases := ∅

lemma emptyWorld_empty : emptyWorld.Empty where
  noFiles := file_new loggedDatabase
  noIndex := rfl
  noLookup := rfl

namespace RecoveryWorld

theorem replay_reconstructs_iff_oneInsert :
    Reconstructs rowFormats storeAfterInsert emptyWorld ↔ [oneInsert] = [] :=
  replay_reconstructs_iff rfl emptyWorld_empty oneInsert_succeeds

/-- An inserted row is lost.  Replay fails for want of a directory; where the
directory is there, the row gets no visibility entry. -/
theorem inserted_row_not_reconstructed :
    (forEach (TableStore.perform rowFormats) (.new loggedDatabase) [oneInsert] = (storeAfterInsert,
        .ok ()) ∧ ¬ Reconstructs rowFormats storeAfterInsert emptyWorld) ∧
      ¬ Reconstructs rowFormats storeAfterInsert bareWorld := by
  refine ⟨⟨oneInsert_succeeds, ?_⟩, ?_⟩
  · rintro ⟨rebuilt, replays, -⟩
    have fails : (forEach (replayOp rowFormats) emptyWorld
        storeAfterInsert.wal.records).2 = .error (.io ⟨.notFound,
          "No such file or directory (os error 2)"⟩) := by decide +kernel
    rw [replays] at fails
    cases fails
  · rintro ⟨rebuilt, replays, same⟩
    have unwritten : (forEach (replayOp rowFormats) bareWorld
        storeAfterInsert.wal.records).1.readColumn rowFormats.vortex "seg_1"
          "__vis" = .ok [] := by decide +kernel
    have live : storeAfterInsert.readColumn rowFormats.vortex "seg_1" "__vis" =
        .ok [1] := by decide +kernel
    rw [replays, same.visRows, live] at unwritten
    cases unwritten

end RecoveryWorld

end RockDuck
