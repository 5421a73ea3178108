import RockDuck.TableInsert

/-!
# Inserts into one segment

What a column file holds after a sequence of successful inserts that all landed
in one segment.
-/

namespace RockDuck

open List

namespace TableStore

variable {Value : Type*}

/-- The column file decodes to the rows. -/
def ColumnHolds (codec : VortexCodec Value) (store : TableStore)
    (segId column : String) (rows : List Value) : Prop :=
  ∃ bytes, store.file segId (colPath column) = some bytes ∧
    codec.decode bytes = .ok rows

variable {codec : VortexCodec Value} {segId column : String} {rows : List Value}
    {store after : TableStore}

lemma ColumnHolds.readColumn (holds : store.ColumnHolds codec segId column rows) :
    store.readColumn codec segId column = .ok rows := by
  obtain ⟨bytes, mem, decodes⟩ := holds
  simp [TableStore.readColumn, mem, decodes]

variable {faults : DiskFaults} {placed : PlacedInsert Value}

section

variable {codec : VortexCodec Value} {segId column : String} {store after : TableStore}
    {rows : List Value} (nonempty : rows ≠ []) (few : rows.length < 100000)
    (succeeds : writeColumnDataFinal codec faults segId column store [rows] = (after, .ok ()))
include nonempty few succeeds

lemma writeColumnDataFinal_ok : ∃ bytes, after = store.setFile segId (colPath column) (some bytes) ∧
      codec.decode bytes = .ok rows := by
  rw [writeColumnDataFinal_eq codec faults segId column store nonempty few] at succeeds
  split at succeeds
  · simp at succeeds
  · simp at succeeds
  · simp at succeeds
  · next bytes encoded _ _ =>
      cases succeeds
      exact ⟨bytes, rfl, codec.decode_encode encoded⟩

lemma writeColumnDataFinal_holds : after.ColumnHolds codec segId column rows := by
  obtain ⟨bytes, rfl, decodes⟩ := writeColumnDataFinal_ok nonempty few succeeds
  exact ⟨bytes, file_setFile_self _ _ _ _, decodes⟩

end

lemma ColumnHolds.of_file_eq
    (same : after.file segId (colPath column) = store.file segId (colPath column))
    (holds : store.ColumnHolds codec segId column rows) :
    after.ColumnHolds codec segId column rows := by
  rwa [ColumnHolds, same]

lemma writeColumnDataFinal_keeps (ne : column ≠ other)
    (writes : writeColumnDataFinal codec faults segId column store data = (after, res))
    (holds : store.ColumnHolds codec segId other rows) :
    after.ColumnHolds codec segId other rows := by
  exact holds.of_file_eq ((writeColumnDataFinal_changes writes).file
    (.inr fun same => ne (colPath_injective same)))

variable {formats : InsertFormats Value}

lemma writeColumns_holds (mem : (column, [val]) ∈ batch)
    (unique : ∀ rows, (column, rows) ∈ batch → rows = [val])
    (ran : writeColumns formats env segId store batch = (after, .ok ())) :
    after.ColumnHolds formats.vortex segId column [val] := by
  obtain ⟨front, rest, rfl⟩ := append_of_mem mem
  refine forEach_establishes (fun state => state.ColumnHolds formats.vortex segId column [val])
    ?_ ?_ ran
  · intro before next writes
    exact writeColumnDataFinal_holds (by simp) (by simp) writes
  · rintro ⟨other, rows⟩ otherMember before next holds writes
    by_cases same : other = column
    · subst same
      obtain rfl := unique rows (by simp [otherMember])
      exact writeColumnDataFinal_holds (by simp) (by simp) writes
    · exact writeColumnDataFinal_keeps same writes holds

lemma appendVisBatch_keeps (userColumn : column ≠ "__vis")
    (ran : appendVisBatch codec faults renameFault segId store visArrays = (after, .ok ()))
    (holds : store.ColumnHolds codec segId column rows) :
    after.ColumnHolds codec segId column rows := by
  exact holds.of_file_eq ((appendVisBatch_changes ran).file
    (.inr (colPath_ne_visPath userColumn).symm))

lemma readColumn_vis (codec : VortexCodec Value) (segId : String) (store : TableStore) :
    store.readColumn codec segId "__vis" =
      (loadVisBatches codec segId store).map List.flatten := by
  rw [readColumn, loadVisBatches, show colPath "__vis" = visPath from rfl]
  cases store.file segId visPath with
  | none => rfl
  | some bytes =>
    dsimp only
    cases codec.decode bytes <;> simp [Except.map]

lemma readColumn_vis_congr (codec : VortexCodec Value) {first second : TableStore}
    (same : first.file segId visPath = second.file segId visPath) :
    first.readColumn codec segId "__vis" =
      second.readColumn codec segId "__vis" := by
  rw [readColumn_vis, readColumn_vis, loadVisBatches, same, loadVisBatches]

/-- Rewriting the visibility file adds the creating transactions to what it
held. -/
lemma appendVisBatch_reads (ne : created ≠ [])
    (ran : appendVisBatch codec faults renameFault segId store ((name, created) :: rest) =
      (after, .ok ())) : ∃ rows, store.readColumn codec segId "__vis" = .ok rows ∧
      (rows ++ created).length < 100000 ∧
      after.ColumnHolds codec segId "__vis" (rows ++ created) := by
  cases loaded : loadVisBatches codec segId store with
  | error error => simp [appendVisBatch, loaded] at ran
  | ok batches =>
    simp only [appendVisBatch, loaded, head?_cons, Option.map_some, Option.getD_some] at ran
    split at ran
    · simp at ran
    · simp at ran
    · next finished =>
        cases ran
        have few := VortexWriter.length_lt_of_finish_ofBatches finished
        obtain ⟨bytes, rfl, decodes⟩ :=
          VortexWriter.finish_ofBatches (by simp [ne]) few finished
        have whole : (batches ++ [created]).flatten = batches.flatten ++ created := by simp
        rw [whole] at few decodes
        exact ⟨batches.flatten, by rw [readColumn_vis, loaded, Except.map],
          few, bytes, file_setFile_self _ _ _ _, decodes⟩

section

variable {cols : Std.ExtTreeMap String (List Value)} {order : Traversal (String × List Value)}
    {batch : RecordBatch Value} (succeeds : columnsToBatch cols order = .ok batch)
include succeeds

lemma columnsToBatch_ok : let rows := (batch.head?.map fun first => first.2.length).getD 0
    order.order cols.toList = batch ∧ 0 < rows ∧
      ∀ column ∈ batch, column.2.length = rows := by
  unfold columnsToBatch at succeeds
  split at succeeds
  · simp at succeeds
  · rename_i first rest listed
    dsimp only at succeeds
    split at succeeds
    · simp at succeeds
    · next ne =>
        split at succeeds
        · simp at succeeds
        · next uniform =>
            cases succeeds
            refine ⟨listed, Nat.pos_of_ne_zero ne, fun column mem => ?_⟩
            simpa using find?_eq_none.mp uniform column mem

lemma mem_columnsToBatch (column rows) : (column, rows) ∈ batch ↔ cols[column]? = some rows := by
  rw [← (columnsToBatch_ok succeeds).1, Traversal.mem_order,
    Std.ExtTreeMap.mem_toList_iff_getElem?_eq_some]

end

section

variable {store after : TableStore} {call : InsertCall Value}
    (places : store.placeInsert call = (after, .ok placed))
include places

lemma placeInsert_batch :
    columnsToBatch call.columns call.environment.columnOrder = .ok placed.batch := by
  obtain ⟨next, txnId, -, rest⟩ := andThen_eq_ok.mp places
  split at rest
  · simp at rest
  · rename_i batch made
    obtain ⟨last, pos, -, last_eq⟩ := andThen_eq_ok.mp rest
    cases last_eq
    exact made

lemma placeInsert_changes : ∃ ctr segments cache counts, after = { store with
        txnCounter := ctr
        segments := segments
        segMetaCache := cache
        segRowCounts := counts } := by
  obtain ⟨next, txnId, nums, rest⟩ := andThen_eq_ok.mp places
  obtain ⟨ctr, rfl⟩ := insertTxnId_changes nums
  split at rest
  · simp at rest
  · obtain ⟨last, pos, allocates, last_eq⟩ := andThen_eq_ok.mp rest
    obtain ⟨segments, cache, counts, rfl⟩ := allocatePosition_changes allocates
    cases last_eq
    exact ⟨ctr, segments, cache, counts, rfl⟩

end

lemma allocatePosition_counts
    (ran : store.allocatePosition table newSegId listFault createFault counterFault = (after,
      .ok pos)) : after.segRowCounts.getD pos.segId 0 =
        atomicIncrement (store.segRowCounts.getD pos.segId 0) 1 ∧ pos.rowOffset =
        ((atomicIncrement (store.segRowCounts.getD pos.segId 0) 1 - 1) % 2 ^ 32).toNat := by
  obtain ⟨next, segId, found, rest⟩ := andThen_eq_ok.mp ran
  cases counterFault with
  | some error => simp at rest
  | none =>
    cases rest
    obtain ⟨segments, cache, rfl⟩ := getOrCreateActiveSegment_changes found
    simp

lemma placeInsert_counts (places : store.placeInsert call = (after, .ok placed)) :
    after.segRowCounts.getD placed.position.segId 0 = atomicIncrement
          (store.segRowCounts.getD placed.position.segId 0) 1 ∧ placed.position.rowOffset =
        ((atomicIncrement (store.segRowCounts.getD placed.position.segId 0) 1 -
          1) % 2 ^ 32).toNat := by
  obtain ⟨next, txnId, numbered, rest⟩ := andThen_eq_ok.mp places
  obtain ⟨ctr, rfl⟩ := insertTxnId_changes numbered
  split at rest
  · simp at rest
  · obtain ⟨last, pos, allocated, last_eq⟩ := andThen_eq_ok.mp rest
    cases last_eq
    have counts := allocatePosition_counts allocated
    exact counts

/-- What an insert puts into a column file. -/
def fileRows (formats : InsertFormats Value) (column : String)
    (txnId : TxnId) (value : Value) : List Value :=
  if column = "__vis" then [value, formats.txnValue txnId] else [value]

/-- A successful insert leaves its row in its column files, whatever these
held before, and does not touch the counter it took its offset from. -/
lemma insert_effect {call : InsertCall Value} (given : call.columns[column]? = some [val])
    (places : store.placeInsert call = (placedStore, .ok placed))
    (ran : store.insert formats call = (after, .ok txnId)) :
    after.ColumnHolds formats.vortex placed.position.segId column
        (fileRows formats column txnId val) ∧ after.segRowCounts = placedStore.segRowCounts := by
  have made := placeInsert_batch places
  have members := mem_columnsToBatch made column
  have member := (members [val]).mpr given
  have single : (placed.batch.head?.map fun first => first.2.length).getD 0 = 1 :=
    ((columnsToBatch_ok made).2.2 _ member).symm
  rw [insert, places] at ran
  change insertPlaced formats call placedStore placed = _ at ran
  obtain ⟨described, _, describes, ran⟩ := andThen_eq_ok.mp ran
  obtain ⟨written, _, writes, ran⟩ := andThen_eq_ok.mp ran
  obtain ⟨appended, _, appends, ran⟩ := andThen_eq_ok.mp ran
  obtain ⟨indexed, _, indexes, ran⟩ := andThen_eq_ok.mp ran
  obtain ⟨count, _, counts, ran⟩ := andThen_eq_ok.mp ran
  obtain ⟨logged, _, logs, ran⟩ := andThen_eq_ok.mp ran
  cases ran
  have holds : written.ColumnHolds formats.vortex placed.position.segId column [val] := by
    refine writeColumns_holds member ?_ writes
    intro rows other
    simpa [given, eq_comm] using (members rows).mp other
  obtain ⟨segments, cache, rfl⟩ := ensureSegmentColumns_changes describes
  obtain ⟨files, rfl⟩ := writeColumns_changes writes
  obtain ⟨visFiles, appended_eq⟩ := (appendVisBatch_changes appends).changes
  obtain ⟨pkIdx, pkLookup, rfl⟩ := putPkIndexDouble_changes indexes
  obtain ⟨rowCounts, stats, rfl⟩ := updateTableStats_changes counts
  obtain ⟨db, pkIdx, rowCounts, rfl⟩ := logInsert_changes logs
  constructor
  · by_cases isVis : column = "__vis"
    · subst isVis
      simp only [visibilityColumns, single, replicate_one] at appends
      obtain ⟨rows, reads, -, added⟩ := appendVisBatch_reads (by simp) appends
      cases reads.symm.trans holds.readColumn
      exact added
    · rw [fileRows, if_neg isVis]
      have kept := appendVisBatch_keeps isVis appends holds
      exact kept
  · rw [appended_eq]
    rfl

/-- No row was ever allocated in the segment and its directory is empty. -/
structure Unused (store : TableStore) (segId : String) : Prop where
  noRows : store.segRowCounts.getD segId 0 = 0
  noFiles : store.files.getD segId ∅ = ∅

end TableStore

variable {Value : Type*}

/-- A row an insert added: the offset and the transaction the call got, and
its value of the column. -/
structure InsertedRow (Value : Type*) where
  rowOffset : Nat
  txnId : TxnId
  value : Value

/-- Successful inserts of one row each into one segment of one table, from
the first row of the segment on. -/
inductive InsertRun (formats : InsertFormats Value)
    (table segId column : String) : List (InsertedRow Value) → TableStore → Prop
  | nil {store : TableStore} (unused : store.Unused segId) :
      InsertRun formats table segId column [] store
  | concat {store placedStore after : TableStore}
      {rows : List (InsertedRow Value)} {call : InsertCall Value}
      {placed : TableStore.PlacedInsert Value} {txnId : TxnId} {value : Value}
      (earlier : InsertRun formats table segId column rows store)
      (sameTable : call.table = table)
      (given : call.columns[column]? = some [value])
      (places : store.placeInsert call = (placedStore, .ok placed))
      (lands : placed.position.segId = segId)
      (succeeds : store.insert formats call = (after, .ok txnId)) :
      InsertRun formats table segId column
        (rows ++ [⟨placed.position.rowOffset, txnId, value⟩]) after

/-- The file has every inserted row at its place, and no other. -/
def Accumulated (formats : InsertFormats Value) (store : TableStore)
    (segId column : String) (inserted : List (InsertedRow Value)) : Prop :=
  ∃ rows, store.readColumn formats.vortex segId column = .ok rows ∧
    rows.length = inserted.length ∧
    ∀ row ∈ inserted, rows[row.rowOffset]? = some row.value

namespace InsertRun

variable {fmt : InsertFormats Value} {table segId col : String}
    {inserted rows : List (InsertedRow Value)} {last : InsertedRow Value} {after : TableStore}

lemma unused_of_nil (run : InsertRun fmt table segId col [] after) : after.Unused segId := by
  generalize none_inserted : [] = inserted at run
  cases run with
  | nil unused => exact unused
  | concat => simp at none_inserted

lemma last_insert (run : InsertRun fmt table segId col (rows ++ [last]) after) :
    ∃ store, InsertRun fmt table segId col rows store ∧ after.ColumnHolds fmt.vortex segId col
        (TableStore.fileRows fmt col last.txnId last.value) ∧
      after.segRowCounts.getD segId 0 = atomicIncrement (store.segRowCounts.getD segId 0) 1 ∧
      last.rowOffset = ((atomicIncrement (store.segRowCounts.getD segId 0) 1 - 1) %
          2 ^ 32).toNat := by
  generalize whole : rows ++ [last] = inserted at run
  cases run with
  | nil => simp at whole
  | concat old sameTable given places lands ran =>
    obtain ⟨rfl, rfl⟩ := append_singleton_inj.mp whole
    subst lands
    obtain ⟨holds, sameCounts⟩ := TableStore.insert_effect given places ran
    obtain ⟨count, off⟩ := TableStore.placeInsert_counts places
    exact ⟨_, old, holds, by rw [sameCounts, count], off⟩

lemma segRowCount (run : InsertRun fmt table segId col inserted after)
    (few : inserted.length < 2 ^ 63) : after.segRowCounts.getD segId 0 = inserted.length := by
  induction inserted using List.reverseRecOn generalizing after with
  | nil => exact run.unused_of_nil.noRows
  | append_singleton rows last ih =>
    obtain ⟨store, old, -, count, -⟩ := run.last_insert
    simp only [length_append, length_singleton] at few ⊢
    rw [count, ih old (by omega), atomicIncrement]
    omega

section

variable (run : InsertRun fmt table segId col (rows ++ [last]) after)
include run

lemma rowOffset_last (few : rows.length < 2 ^ 32) : last.rowOffset = rows.length := by
  obtain ⟨store, old, -, -, off⟩ := run.last_insert
  rw [off, old.segRowCount (by omega), atomicIncrement]
  omega

lemma readColumn_last : after.readColumn fmt.vortex segId col =
      .ok (TableStore.fileRows fmt col last.txnId last.value) := by
  obtain ⟨store, -, holds, -⟩ := run.last_insert
  exact holds.readColumn

end

lemma accumulated_iff_of_ne (ordinary : col ≠ "__vis")
    (run : InsertRun fmt table segId col (rows ++ [last]) after) :
    Accumulated fmt after segId col (rows ++ [last]) ↔ rows = [] := by
  have reads := run.readColumn_last
  rw [TableStore.fileRows, if_neg ordinary] at reads
  simp only [Accumulated, reads, Except.ok.injEq, exists_eq_left']
  constructor
  · rintro ⟨sameLength, -⟩
    simpa using sameLength
  · rintro rfl
    have off : last.rowOffset = 0 := run.rowOffset_last (by simp)
    exact ⟨rfl, by simp [off]⟩

lemma accumulated_vis_iff
    (run : InsertRun fmt table segId "__vis" (rows ++ [last]) after) :
    Accumulated fmt after segId "__vis" (rows ++ [last]) ↔
      ∃ first, rows = [first] ∧ first.value = last.value ∧
        last.value = fmt.txnValue last.txnId := by
  have reads := run.readColumn_last
  rw [TableStore.fileRows, if_pos rfl] at reads
  simp only [Accumulated, reads, Except.ok.injEq, exists_eq_left']
  -- both directions read the two rows at the offsets zero and one
  have offsets : ∀ first, rows = [first] →
      first.rowOffset = 0 ∧ last.rowOffset = 1 := by
    rintro first rfl
    obtain ⟨store, old, -⟩ := run.last_insert
    rw [← nil_append [first]] at old
    exact ⟨old.rowOffset_last (by simp), run.rowOffset_last (by simp)⟩
  constructor
  · rintro ⟨sameLength, placed⟩
    obtain ⟨first, rfl⟩ : ∃ first, rows = [first] := by
      rw [← length_eq_one_iff]
      simpa using sameLength.symm
    obtain ⟨firstOffset, lastOffset⟩ := offsets first rfl
    have firstRow := placed first (by simp)
    have lastRow := placed last (by simp)
    rw [firstOffset] at firstRow
    rw [lastOffset] at lastRow
    simp only [getElem?_cons_zero, Option.some.injEq] at firstRow
    simp only [getElem?_cons_succ, getElem?_cons_zero, Option.some.injEq] at lastRow
    exact ⟨first, rfl, firstRow.symm, lastRow.symm⟩
  · rintro ⟨first, rfl, sameValue, isTxn⟩
    obtain ⟨firstOffset, lastOffset⟩ := offsets first rfl
    refine ⟨rfl, ?_⟩
    simp [firstOffset, lastOffset, sameValue, ← isTxn]

end InsertRun

/-- Inserts accumulate in a column file exactly as long as there is no more
than one of them.  The file of a column named `__vis` is the visibility file
as well and always has two rows, which can only be right by coincidence. -/
theorem inserts_accumulate_iff {formats : InsertFormats Value}
    {table segId column : String} {inserted : List (InsertedRow Value)} {after : TableStore}
    (run : InsertRun formats table segId column inserted after) :
    Accumulated formats after segId column inserted ↔
      inserted = [] ∨ (column ≠ "__vis" ∧ inserted.length = 1) ∨
        (column = "__vis" ∧ ∃ first second, inserted = [first, second] ∧
          first.value = second.value ∧ second.value = formats.txnValue second.txnId) := by
  rcases eq_nil_or_concat' inserted with rfl | ⟨rows, last, rfl⟩
  · have noFile : after.file segId (colPath column) = none := by
      simp [TableStore.file, run.unused_of_nil.noFiles]
    simp [Accumulated, TableStore.readColumn, noFile]
  · by_cases isVis : column = "__vis"
    · subst isVis
      rw [run.accumulated_vis_iff]
      constructor
      · rintro ⟨first, rfl, sameValue, isTxn⟩
        exact .inr (.inr ⟨rfl, first, last, rfl, sameValue, isTxn⟩)
      · rintro (none_inserted | ⟨ordinary, -⟩ | ⟨-, first, second, whole, sameValue, isTxn⟩)
        · simp at none_inserted
        · exact absurd rfl ordinary
        · rw [show [first, second] = [first] ++ [second] from rfl] at whole
          obtain ⟨rfl, rfl⟩ := append_singleton_inj.mp whole
          exact ⟨first, rfl, sameValue, isTxn⟩
    · rw [run.accumulated_iff_of_ne isVis]
      simp [isVis]

def byteFormats : InsertFormats UInt8 where
  vortex := .bytes
  txnValue txnId := UInt8.ofNat txnId
  batchToIpcStream batch := .ok (batch.flatMap Prod.snd)
  arrowToBytes rows := some rows

def byteInsert (key value : UInt8) : InsertCall UInt8 where
  table := "t"
  pk := List.replicate 8 key
  columns := (∅ : Std.ExtTreeMap String (List UInt8)).insert "x" [value]
  explicitTxn := none
  environment := .undisturbed "seg_1" 0

def byteStore : TableStore :=
  .new (.new (.new true .syncEach) 8)

def storeAfterOne : TableStore :=
  (byteStore.insert byteFormats (byteInsert 1 7)).1

def storeAfterTwo : TableStore :=
  (storeAfterOne.insert byteFormats (byteInsert 2 9)).1

lemma byteStore_unused : byteStore.Unused "seg_1" where
  noRows := by decide +kernel
  noFiles := by decide +kernel

lemma oneInserted : InsertRun byteFormats "t" "seg_1" "x" [⟨0, 1, 7⟩] storeAfterOne := by
  have given : (byteInsert 1 7).columns["x"]? = some [7] := by decide +kernel
  have places : byteStore.placeInsert (byteInsert 1 7) =
      ((byteStore.placeInsert (byteInsert 1 7)).1,
        .ok ⟨1, [("x", [7])], ⟨"seg_1", 0, 0⟩⟩) :=
    Prod.ext rfl (by decide +kernel)
  have ran : byteStore.insert byteFormats (byteInsert 1 7) = (storeAfterOne, .ok 1) :=
    Prod.ext rfl (by decide +kernel)
  exact .concat (.nil byteStore_unused) rfl given places rfl ran

lemma twoInserted : InsertRun byteFormats "t" "seg_1" "x" [⟨0, 1, 7⟩, ⟨1, 2, 9⟩]
      storeAfterTwo := by
  have given : (byteInsert 2 9).columns["x"]? = some [9] := by decide +kernel
  have places : storeAfterOne.placeInsert (byteInsert 2 9) =
      ((storeAfterOne.placeInsert (byteInsert 2 9)).1,
        .ok ⟨2, [("x", [9])], ⟨"seg_1", 0, 1⟩⟩) :=
    Prod.ext rfl (by decide +kernel)
  have ran : storeAfterOne.insert byteFormats (byteInsert 2 9) = (storeAfterTwo, .ok 2) :=
    Prod.ext rfl (by decide +kernel)
  exact .concat oneInserted rfl given places rfl ran

theorem inserts_accumulate_iff_oneInserted :
    InsertRun byteFormats "t" "seg_1" "x" [⟨0, 1, 7⟩] storeAfterOne ∧
      Accumulated byteFormats storeAfterOne "seg_1" "x" [⟨0, 1, 7⟩] :=
  ⟨oneInserted, (inserts_accumulate_iff oneInserted).mpr (.inr (.inl ⟨by decide, rfl⟩))⟩

/-- The second of two inserts overwrites the row of the first. -/
theorem second_insert_overwrites : InsertRun byteFormats "t" "seg_1" "x" [⟨0, 1, 7⟩, ⟨1, 2, 9⟩]
        storeAfterTwo ∧
      ¬ Accumulated byteFormats storeAfterTwo "seg_1" "x"
        [⟨0, 1, 7⟩, ⟨1, 2, 9⟩] := by
  refine ⟨twoInserted, ?_⟩
  rintro ⟨rows, reads, sameLength, -⟩
  have last : storeAfterTwo.readColumn byteFormats.vortex "seg_1" "x" =
      .ok [9] := by decide +kernel
  rw [last] at reads
  cases reads
  simp at sameLength

end RockDuck
