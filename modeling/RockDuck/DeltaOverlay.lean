import RockDuck.DeltaMerge

/-!
# Deltas as an overlay of a batch

Merging should put the newest after-image into every cell that has one and
leave all other cells.
-/

namespace RockDuck

open List

/-- The cell is one of the latest for a place of a batch. -/
structure NewestAt (deltas : List StoredDeltaCell) (column : String) (row : Nat)
    (cell : StoredDeltaCell) : Prop where
  mem : cell ∈ deltas
  inColumn : cell.column = column
  inRow : cell.rowOffset = row
  newest : ∀ other ∈ deltas, other.column = column → other.rowOffset = row →
    other.txnId ≤ cell.txnId

/-- The value is that of a newest delta of the cell, or the original without one. -/
def OverlaidAt (image : Bytes → Option Bytes) (deltas : List StoredDeltaCell)
    (column : String) (row : Nat) (original value : Option Bytes) : Prop :=
  (∃ cell, NewestAt deltas column row cell ∧ value = cell.after.bind image) ∨
    (∀ cell ∈ deltas, cell.column = column → cell.rowOffset ≠ row) ∧
      value = original

namespace ColumnArray

def read (array : ColumnArray) (row : Nat) : Option Bytes :=
  (array.slots[row]?).bind Slot.get

/-- A column that was blended: every slot counts as set. -/
def rebuilt (array : ColumnArray) : ColumnArray :=
  if array.type.isBlended then
    { array with slots := array.slots.map fun slot => ⟨slot.value, true⟩ }
  else array

variable (array : ColumnArray)

@[simp]
lemma rebuilt_type : array.rebuilt.type = array.type := by
  unfold rebuilt
  split <;> rfl

@[simp]
lemma length_rebuilt : array.rebuilt.slots.length = array.slots.length := by
  unfold rebuilt
  split
  · exact length_map _
  · rfl

@[simp]
lemma rebuilt_rebuilt : array.rebuilt.rebuilt = array.rebuilt := by
  by_cases blended : array.type.isBlended
  · simp [rebuilt, blended]
  · simp [rebuilt, blended]

/-- In 32 bits there are rows, few enough that a patch of one row is blended in, and an
array that is not rebuilt has all its rows in these bits. -/
structure Short (type : ColumnType) (length : Nat) : Prop where
  some : 0 < length % 2 ^ 32
  few : length % 2 ^ 32 ≤ 100
  whole : type.isBlended = false → length < 2 ^ 32

/-- A value put back at its own place changes nothing but the empty places. -/
lemma blendArrays_self (short : Short array.type array.slots.length)
    (found : array.slots[pos]? = some slot) :
    array.blendArrays [slot] [pos] = array.rebuilt := by
  unfold blendArrays rebuilt
  split
  · congr 1
    refine ext_getElem? fun idx => ?_
    rw [List.getElem?_map, List.getElem?_map, getElem?_zipIdx]
    cases there : array.slots[idx]? with
    | none => rfl
    | some held =>
      by_cases same : pos = idx
      · subst same
        rw [found] at there
        cases there
        simp [idxOf?_cons]
      · simp [idxOf?_cons, same]
  · rename_i plain
    rw [Nat.mod_eq_of_lt (short.whole (by simpa using plain)), take_length]

/-- The cell has a value that can be decoded. -/
def HasImage (codecs : DeltaCodecs) (cell : StoredDeltaCell) : Prop :=
  ∃ after, cell.after = some after ∧ codecs.decodeIpcColumn after = .ok ()

section Patching

variable {current : ColumnArray} {cell : StoredDeltaCell}

lemma applyCell_of_short (short : Short current.type current.slots.length)
    (decodable : HasImage codecs cell)
    (mem : cell.rowOffset % 2 ^ 32 < current.slots.length) :
    current.applyCell codecs cell = .ok current.rebuilt := by
  obtain ⟨after, written, decoded⟩ := decodable
  have found : current.slots[cell.rowOffset % 2 ^ 32]? =
      some current.slots[cell.rowOffset % 2 ^ 32] :=
    getElem?_eq_getElem mem
  have patched : current.applySparsePatchVectorized codecs
      [cell.rowOffset % 2 ^ 32] after = some (.ok current.rebuilt) := by
    unfold applySparsePatchVectorized
    rw [if_neg short.some.ne', if_neg (by simpa using short.few), applySparseTake,
      decoded, take_singleton, found]
    exact congrArg (fun array => some (Except.ok array))
      (current.blendArrays_self short found)
  simp only [applyCell, written, patched]

/-- Any other array comes back shorter. -/
lemma applySparsePatchVectorized_of_not_short
    (long : ¬ Short current.type current.slots.length) (rows : 0 < current.slots.length)
    (decoded : codecs.decodeIpcColumn patch = .ok ())
    (patched : current.applySparsePatchVectorized codecs [pos] patch = some out) :
    ∃ merged, out = .ok merged ∧ merged.slots.length < current.slots.length := by
  unfold applySparsePatchVectorized at patched
  by_cases empty : current.slots.length % 2 ^ 32 = 0
  · simp only [empty, if_true] at patched
    cases patched
    exact ⟨_, rfl, by simpa using rows⟩
  have modLe := Nat.mod_le current.slots.length (2 ^ 32)
  rw [if_neg empty] at patched
  split at patched
  · rename_i sparse
    rw [applySparseFilter, take_singleton, Option.map_map] at patched
    obtain ⟨slot, -, same⟩ := Option.map_eq_some_iff.mp patched
    cases same
    refine ⟨_, rfl, ?_⟩
    simp only [length_singleton] at sparse ⊢
    omega
  · rename_i dense
    have wrapped : current.type.isBlended = false ∧ 2 ^ 32 ≤ current.slots.length := by
      by_contra whole
      exact long ⟨Nat.pos_of_ne_zero empty, by simpa using dense, fun plain =>
        Nat.lt_of_not_le fun wraps => whole ⟨plain, wraps⟩⟩
    rw [applySparseTake, decoded] at patched
    obtain ⟨slots, -, same⟩ := Option.map_eq_some_iff.mp patched
    cases same
    refine ⟨_, rfl, ?_⟩
    have below := Nat.mod_lt current.slots.length (Nat.two_pow_pos 32)
    simp only [blendArrays, wrapped.1, Bool.false_eq_true, if_false, length_take]
    omega

lemma length_applyCell_of_not_short (long : ¬ Short current.type current.slots.length)
    (rows : 0 < current.slots.length) (decodable : HasImage codecs cell)
    (applied : current.applyCell codecs cell = .ok merged) :
    merged.slots.length < current.slots.length := by
  obtain ⟨after, written, decoded⟩ := decodable
  simp only [applyCell, written] at applied
  split at applied
  · cases applied
  · rename_i failed
    obtain ⟨array, same, -⟩ := applySparsePatchVectorized_of_not_short long rows decoded failed
    cases same
  · rename_i patched
    cases applied
    obtain ⟨array, same, fewer⟩ := applySparsePatchVectorized_of_not_short long rows decoded patched
    cases same
    exact fewer

end Patching

section Cells

variable {base : ColumnArray} {cells : List StoredDeltaCell}

lemma foldlM_applyCell_of_short (short : Short base.type base.slots.length)
    (decodable : ∀ cell ∈ cells, HasImage codecs cell)
    (inside : ∀ cell ∈ cells, cell.rowOffset < base.slots.length) :
    cells.foldlM (applyCell codecs) base.rebuilt = .ok base.rebuilt := by
  induction cells with
  | nil => rfl
  | cons cell cells ih =>
    have first : base.rebuilt.applyCell codecs cell = .ok base.rebuilt := by
      rw [applyCell_of_short (by rwa [rebuilt_type, length_rebuilt])
        (decodable cell mem_cons_self)
        (by
          rw [length_rebuilt]
          exact (Nat.mod_le _ _).trans_lt (inside cell mem_cons_self)),
        rebuilt_rebuilt]
    rw [foldlM_cons, first]
    exact ih (fun other mem => decodable other (mem_cons_of_mem _ mem))
      fun other mem => inside other (mem_cons_of_mem _ mem)

/-- The cells of a patch come in the order of their transactions. -/
lemma exists_sorted (some : cells ≠ []) : ∃ first rest,
    (cells.insertionSort fun left right => left.txnId ≤ right.txnId) = first :: rest ∧
      first ∈ cells ∧ ∀ cell ∈ rest, cell ∈ cells := by
  have mem {cell : StoredDeltaCell} (listed : cell ∈ cells.insertionSort fun left right =>
      left.txnId ≤ right.txnId) : cell ∈ cells :=
    (mem_insertionSort _).mp listed
  cases sorted : cells.insertionSort fun left right => left.txnId ≤ right.txnId with
  | nil =>
    have none := length_insertionSort
      (fun left right : StoredDeltaCell => left.txnId ≤ right.txnId) cells
    rw [sorted] at none
    exact absurd (length_eq_zero_iff.mp none.symm) some
  | cons first rest =>
    rw [sorted] at mem
    exact ⟨first, rest, rfl, mem mem_cons_self, fun cell listed => mem (mem_cons_of_mem _ listed)⟩

lemma applyCells_of_short (some : cells ≠ []) (short : Short base.type base.slots.length)
    (decodable : ∀ cell ∈ cells, HasImage codecs cell)
    (inside : ∀ cell ∈ cells, cell.rowOffset < base.slots.length) :
    base.applyCells codecs cells = .ok base.rebuilt := by
  obtain ⟨first, rest, sorted, mem, others⟩ := exists_sorted some
  rw [applyCells, sorted, foldlM_cons, applyCell_of_short short (decodable first mem)
    ((Nat.mod_le _ _).trans_lt (inside first mem))]
  exact foldlM_applyCell_of_short short (fun cell listed => decodable cell (others cell listed))
    fun cell listed => inside cell (others cell listed)

lemma length_applyCells_of_not_short (some : cells ≠ [])
    (long : ¬ Short base.type base.slots.length) (rows : 0 < base.slots.length)
    (decodable : ∀ cell ∈ cells, HasImage codecs cell)
    (applied : base.applyCells codecs cells = .ok merged) :
    merged.slots.length < base.slots.length := by
  obtain ⟨first, rest, sorted, mem, -⟩ := exists_sorted some
  rw [applyCells, sorted, foldlM_cons] at applied
  obtain ⟨next, patched, after⟩ := bind_eq_ok.mp applied
  exact (length_foldlM_applyCell_le after).trans_lt
    (length_applyCell_of_not_short long rows (decodable first mem) patched)

end Cells

end ColumnArray

namespace TableBatch

lemma tryNew_eq_ok_iff {cols batch} : tryNew cols = .ok batch ↔ cols ≠ [] ∧
        (∀ col ∈ cols, col.2.2.slots.length = batch.numRows ∧ col.2.1 = col.2.2.type) ∧
        batch.columns = cols.map fun col => (col.1, col.2.2) := by
  unfold tryNew
  by_cases none : cols = []
  · simp [none]
  have some : cols.isEmpty = false := by simpa using none
  rw [some, if_neg (by simp)]
  have typed : typeMismatch cols = .none ↔ ∀ col ∈ cols, col.2.1 = col.2.2.type := by
    rw [typeMismatch, Option.map_eq_none_iff, find?_eq_none]
    constructor
    · intro each col mem
      obtain ⟨idx, found⟩ := mem_iff_getElem?.mp mem
      have checked := each (col, idx) (mk_mem_zipIdx_iff_getElem?.mpr found)
      simpa using checked
    · intro each entry mem
      simpa using each entry.1 (fst_mem_of_mem_zipIdx mem)
  constructor
  · intro built
    split at built
    · rename_i aligned
      split at built
      · cases built
      · rename_i matched
        cases built
        exact ⟨none, fun col mem => ⟨aligned col mem, typed.mp matched col mem⟩, rfl⟩
    · cases built
  · rintro ⟨-, each, same⟩
    obtain ⟨first, rest, rfl⟩ := exists_cons_of_ne_nil none
    have length : firstLength (first :: rest) = batch.numRows := (each first mem_cons_self).1
    rw [dif_pos fun col mem => (each col mem).1.trans length.symm,
      typed.mpr fun col mem => (each col mem).2]
    obtain ⟨numRows, held, aligned⟩ := batch
    cases length
    cases same
    rfl

end TableBatch

/-- The batch has the newest values of the deltas over its own. -/
structure Overlaid (image : Bytes → Option Bytes) (deltas : List StoredDeltaCell)
    (batch merged : TableBatch) : Prop where
  numRows : merged.numRows = batch.numRows
  columns : List.Forall₂ (fun before after : String × ColumnArray =>
    after.1 = before.1 ∧ ∀ row < batch.numRows,
      OverlaidAt image deltas before.1 row (before.2.read row) (after.2.read row))
    batch.columns merged.columns

/-- Whatever is to be laid over a column is what a patch leaves there. -/
structure WritesBack (image : Bytes → Option Bytes) (batch : TableBatch)
    (deltas : List StoredDeltaCell) (column : String × ColumnArray) : Prop where
  short : ColumnArray.Short column.2.type batch.numRows
  rewritten : ∃ base, batch.columns.find? (fun other => decide (other.1 = column.1)) = some base ∧
    base.2.type = column.2.type ∧
    ∀ row < batch.numRows, OverlaidAt image deltas column.1 row
      (column.2.read row) (base.2.rebuilt.read row)

section Batch

variable {codecs : DeltaCodecs} {batch : TableBatch} {deltas : List StoredDeltaCell}

/-- Some delta is for the column. -/
def Touched (deltas : List StoredDeltaCell) (column : String) : Prop :=
  ∃ cell ∈ deltas, cell.column = column

lemma touched_iff : Touched deltas col ↔
      deltas.filter (fun cell => decide (cell.column = col)) ≠ [] := by
  simp [Touched, filter_eq_nil_iff]

variable {col : String × ColumnArray}

lemma patchColumn_of_not_touched (untouched : ¬ Touched deltas col.1) :
    patchColumn codecs batch deltas col = .ok (col.1, col.2.type, col.2) := by
  rw [touched_iff, not_ne_iff] at untouched
  rw [patchColumn, untouched]
  rfl

lemma patchColumn_of_touched (touched : Touched deltas col.1)
    (found : batch.columns.find? (fun other => decide (other.1 = col.1)) = some base) :
    patchColumn codecs batch deltas col = (base.2.applyCells codecs (deltas.filter fun cell =>
        decide (cell.column = col.1))).map fun array => (col.1, col.2.type, array) := by
  rw [touched_iff] at touched
  rw [patchColumn, if_neg (by rwa [List.isEmpty_iff]), found]

lemma exists_base (mem : col ∈ batch.columns) : ∃ base, batch.columns.find? (fun other =>
        decide (other.1 = col.1)) = some base ∧ base.2.slots.length = batch.numRows := by
  have listed : (batch.columns.find? fun other => decide (other.1 = col.1)).isSome :=
    find?_isSome.mpr ⟨col, mem, decide_eq_true rfl⟩
  obtain ⟨base, found⟩ := Option.isSome_iff_exists.mp listed
  exact ⟨base, found, batch.aligned base (mem_of_find?_eq_some found)⟩

variable (decodable : ∀ cell ∈ deltas, ColumnArray.HasImage codecs cell)
    (inside : ∀ cell ∈ deltas, cell.rowOffset < batch.numRows)

include decodable inside in
lemma patchColumn_of_short (touched : Touched deltas col.1)
    (found : batch.columns.find? (fun other => decide (other.1 = col.1)) = some base)
    (short : ColumnArray.Short base.2.type batch.numRows) :
    patchColumn codecs batch deltas col = .ok (col.1, col.2.type, base.2.rebuilt) := by
  have length := batch.aligned base (mem_of_find?_eq_some found)
  rw [patchColumn_of_touched touched found,
    ColumnArray.applyCells_of_short (touched_iff.mp touched) (length ▸ short)
      (fun cell mem => decodable cell (mem_of_mem_filter mem))
      fun cell mem => length ▸ inside cell (mem_of_mem_filter mem)]
  rfl

include decodable inside in
lemma length_patchColumn_of_not_short (touched : Touched deltas col.1)
    (found : batch.columns.find? (fun other => decide (other.1 = col.1)) = some base)
    (long : ¬ ColumnArray.Short base.2.type batch.numRows)
    (applied : patchColumn codecs batch deltas col = .ok patched) :
    patched.2.2.slots.length < batch.numRows := by
  have length := batch.aligned base (mem_of_find?_eq_some found)
  rw [patchColumn_of_touched touched found] at applied
  cases merged : base.2.applyCells codecs (deltas.filter fun cell =>
      decide (cell.column = col.1)) with
  | error err => simp [merged, Except.map] at applied
  | ok array =>
    rw [merged] at applied
    cases applied
    obtain ⟨cell, listed, -⟩ := id touched
    have rows := inside cell listed
    rw [← length] at long rows ⊢
    exact ColumnArray.length_applyCells_of_not_short (touched_iff.mp touched) long
      (Nat.zero_lt_of_lt rows) (fun cell mem => decodable cell (mem_of_mem_filter mem)) merged

include decodable inside in
/-- A column gets an array of the length of the batch, with the deltas over its own values. -/
lemma exists_overlaid_array (mem : col ∈ batch.columns)
    (writesBack : Touched deltas col.1 → WritesBack image batch deltas col) :
    ∃ array : ColumnArray, patchColumn codecs batch deltas col = .ok (col.1, col.2.type, array) ∧
      array.slots.length = batch.numRows ∧ array.type = col.2.type ∧
      ∀ row < batch.numRows, OverlaidAt image deltas col.1 row
        (col.2.read row) (array.read row) := by
  by_cases touched : Touched deltas col.1
  · obtain ⟨short, base, found, typed, held⟩ := writesBack touched
    refine ⟨base.2.rebuilt,
      patchColumn_of_short decodable inside touched found (typed ▸ short), ?_, ?_, held⟩
    · rw [ColumnArray.length_rebuilt]
      exact batch.aligned base (mem_of_find?_eq_some found)
    · rwa [ColumnArray.rebuilt_type]
  · refine ⟨col.2, patchColumn_of_not_touched touched,
      batch.aligned col mem, rfl, fun row _ => Or.inr ⟨?_, rfl⟩⟩
    exact fun cell listed inColumn => absurd ⟨cell, listed, inColumn⟩ touched

end Batch

/-- Merging lays the deltas over the batch exactly when there are none, or the
batch has a column and whatever is written to one of its columns is what a
patch leaves there. -/
theorem applyDeltasToBatch_overlays_iff (codecs : DeltaCodecs)
    (image : Bytes → Option Bytes) (batch : TableBatch) (deltas : List StoredDeltaCell)
    (decodable : ∀ cell ∈ deltas, ColumnArray.HasImage codecs cell)
    (inside : ∀ cell ∈ deltas, cell.rowOffset < batch.numRows) :
    (∃ merged, applyDeltasToBatch codecs batch deltas = .ok merged ∧
        Overlaid image deltas batch merged) ↔
      deltas = [] ∨ batch.columns ≠ [] ∧ ∀ column ∈ batch.columns,
        Touched deltas column.1 → WritesBack image batch deltas column := by
  by_cases none : deltas = []
  · subst none
    refine iff_of_true ⟨batch, rfl, rfl, forall₂_same.mpr ?_⟩ (Or.inl rfl)
    exact fun column _ => ⟨rfl, fun row _ => Or.inr ⟨by simp, rfl⟩⟩
  have some : deltas.isEmpty = false := by simpa using none
  simp only [none, false_or, applyDeltasToBatch, some, Bool.false_eq_true, if_false]
  constructor
  · rintro ⟨merged, applied, overlaid⟩
    split at applied
    · cases applied
    · rename_i columns patched
      split at applied
      · cases applied
      · rename_i built
        cases applied
        obtain ⟨columnsSome, each, same⟩ := TableBatch.tryNew_eq_ok_iff.mp built
        have paired := mapM_eq_ok_iff.mp patched
        have laid := overlaid.columns
        rw [same, forall₂_map_right_iff] at laid
        refine ⟨fun empty => ?_, fun column mem touched => ?_⟩
        · rw [empty] at paired
          exact columnsSome (forall₂_nil_left_iff.mp paired)
        · obtain ⟨entry, listed, made, -, held⟩ := exists_partner_of_forall₂ paired laid mem
          obtain ⟨length, typed⟩ := each entry listed
          obtain ⟨base, found, -⟩ := exists_base mem
          have short : ColumnArray.Short base.2.type batch.numRows := by
            by_contra long
            have fewer := length_patchColumn_of_not_short decodable inside touched found long made
            exact absurd (length.trans overlaid.numRows) fewer.ne
          rw [patchColumn_of_short decodable inside touched found short] at made
          cases made
          have typed : column.2.type = base.2.type := by rwa [ColumnArray.rebuilt_type] at typed
          exact ⟨typed ▸ short, base, found, typed.symm, held⟩
  · rintro ⟨columnsSome, writesBack⟩
    have each := fun column mem =>
      exists_overlaid_array decodable inside mem (writesBack column mem)
    have : Nonempty ColumnArray := ⟨⟨.bool, []⟩⟩
    choose! arrays made length typed held using each
    let columns := batch.columns.map fun column => (column.1, column.2.type, arrays column)
    have patched : batch.columns.mapM (patchColumn codecs batch deltas) = .ok columns := by
      rw [mapM_eq_ok_iff, forall₂_map_right_iff, forall₂_same]
      exact made
    let merged : TableBatch :=
      ⟨batch.numRows, batch.columns.map fun column => (column.1, arrays column),
        by
          intro entry mem
          obtain ⟨column, listed, rfl⟩ := mem_map.mp mem
          exact length column listed⟩
    have built : TableBatch.tryNew columns = .ok merged := by
      refine TableBatch.tryNew_eq_ok_iff.mpr ⟨by simpa [columns] using columnsSome,
        fun entry mem => ?_, by simp [columns, merged]⟩
      obtain ⟨column, listed, rfl⟩ := mem_map.mp mem
      exact ⟨length column listed, (typed column listed).symm⟩
    refine ⟨merged, by rw [patched]; simp only [built], rfl, ?_⟩
    rw [forall₂_map_right_iff, forall₂_same]
    exact fun column mem => ⟨rfl, held column mem⟩

private def ageCodecs : DeltaCodecs :=
  ⟨fun _ => .ok 1, fun _ => ""⟩

private def writeNine : StoredDeltaCell :=
  ⟨"seg", 1, "age", 4, none, some [9], true, 0⟩

private def ages (slots : List Slot) : TableBatch :=
  ⟨slots.length, [("age", ⟨.uint8, slots⟩)], by simp⟩

private lemma writeNine_hasImage : ∀ cell ∈ [writeNine], ColumnArray.HasImage ageCodecs cell := by
  intro cell mem
  cases mem_singleton.mp mem
  exact ⟨[9], rfl, rfl⟩

/-- A cell that is written over with its own value. -/
theorem applyDeltasToBatch_overlays_iff_sameValue :
    ∃ merged, applyDeltasToBatch ageCodecs (ages [⟨[7], true⟩, ⟨[9], true⟩])
        [writeNine] = .ok merged ∧
      Overlaid some [writeNine] (ages [⟨[7], true⟩, ⟨[9], true⟩]) merged := by
  refine (applyDeltasToBatch_overlays_iff ageCodecs some
    (ages [⟨[7], true⟩, ⟨[9], true⟩]) [writeNine] writeNine_hasImage
    (by decide)).mpr (Or.inr ⟨by decide, fun column mem _ => ?_⟩)
  cases mem_singleton.mp mem
  refine ⟨⟨by decide, by decide, by decide⟩, _, rfl, rfl, fun row inRows => ?_⟩
  match row, inRows with
  | 0, _ => exact Or.inr ⟨by decide, rfl⟩
  | 1, _ => exact Or.inl ⟨writeNine, ⟨by simp, rfl, rfl, by simp⟩, rfl⟩

/-- A delta with the newest after-image of a row does not change the row. -/
theorem applyDeltasToBatch_keeps_old_value :
    ¬ ∀ (codecs : DeltaCodecs) (image : Bytes → Option Bytes)
        (batch : TableBatch) (deltas : List StoredDeltaCell),
      (∀ cell ∈ deltas, ColumnArray.HasImage codecs cell) →
      (∀ cell ∈ deltas, cell.rowOffset < batch.numRows) →
        ∃ merged, applyDeltasToBatch codecs batch deltas = .ok merged ∧
          Overlaid image deltas batch merged := by
  intro overlays
  obtain ⟨merged, applied, overlaid⟩ := overlays ageCodecs some
    (ages [⟨[7], true⟩, ⟨[8], true⟩]) [writeNine] writeNine_hasImage (by decide)
  have kept : merged.columns = [("age", ⟨.uint8, [⟨[7], true⟩, ⟨[8], true⟩]⟩)] := by
    have result : (applyDeltasToBatch ageCodecs
        (ages [⟨[7], true⟩, ⟨[8], true⟩]) [writeNine]).toOption.map
          TableBatch.columns =
        some [("age", ⟨.uint8, [⟨[7], true⟩, ⟨[8], true⟩]⟩)] := by
      decide +kernel
    rw [applied] at result
    exact Option.some.inj result
  have laid := overlaid.columns
  rw [kept] at laid
  rcases ((forall₂_cons.mp laid).1).2 1 (by decide) with ⟨cell, newest, value⟩ | ⟨untouched, -⟩
  · cases mem_singleton.mp newest.mem
    cases value
  · exact untouched writeNine (by simp) rfl rfl

end RockDuck
