import RockDuck.PatchFormat

/-!
# Reading patches back

A patch that was written is read back, with and without the letters in front,
and the reader stays within the bytes it was given, but for one case.
-/

namespace RockDuck

open List

namespace DeltaPatchFormat

lemma fromSparse_payload {positions values : Bytes} (few : positions.length < 256 ^ 4)
    (short : values.length < 256 ^ 4) :
    fromSparse (leBytes 4 positions.length ++ positions ++ leBytes 4 values.length ++ values) =
      some (sparse positions values) := by
  simp only [append_assoc]
  have size : (leBytes 4 positions.length ++ (positions ++
      (leBytes 4 values.length ++ values))).drop (4 + positions.length) =
      leBytes 4 values.length ++ values := by
    rw [← drop_drop, drop_left' (length_leBytes 4 _), drop_left]
  have held : (leBytes 4 positions.length ++ (positions ++
      (leBytes 4 values.length ++ values))).drop (4 + positions.length + 4) = values := by
    rw [← drop_drop, size, drop_left' (length_leBytes 4 _)]
  rw [fromSparse, readLe_leBytes_append, Nat.mod_eq_of_lt few, size, held, readLe_leBytes_append,
    Nat.mod_eq_of_lt short, drop_left' (length_leBytes 4 _), take_left, take_length,
    if_neg, if_neg, if_neg]
  all_goals
    simp only [length_append, length_leBytes]
    omega

/-- Both layouts end in fields that hold their lengths. -/
def Fits : DeltaPatchFormat → Prop
  | sparse positions values => positions.length < 256 ^ 4 ∧ values.length < 256 ^ 4
  | dense values totalRows txnId =>
    values.length < 256 ^ 4 ∧ totalRows < 256 ^ 8 ∧ txnId < 256 ^ 8

lemma fromBytes_toBytes {format : DeltaPatchFormat} (fits : format.Fits) :
    fromBytes format.toBytes = .ok (some format) ∧
      fromBytes (format.toBytes.drop 7) = .ok (some format) := by
  cases format with
  | sparse positions vals =>
    rw [← fromSparse_payload fits.1 fits.2]
    simp [toBytes, fromBytes, patchMagic]
  | dense vals totalRows txnId =>
    rw [← fromDense_payload fits.1 fits.2.1 fits.2.2]
    simp [toBytes, fromBytes, patchMagic]

end DeltaPatchFormat

/-- A patch with the number of its rows, which is counted when the patch is built
and when it is read. -/
structure CountedPatch where
  format : DeltaPatchFormat
  affectedCount : Nat
  deriving DecidableEq

namespace CountedPatch

variable (codecs : PatchCodecs)

def sparse (positions : List Nat) (values : Bytes) : CountedPatch :=
  ⟨.sparse (codecs.serializeBitmap positions) values, positions.length⟩

def dense (values : Bytes) (totalRows : Nat) (txnId : TxnId) : CountedPatch :=
  ⟨.dense values totalRows txnId, totalRows⟩

def fromBytes (bytes : Bytes) : Except ReadFailure (Option CountedPatch) :=
  (DeltaPatchFormat.fromBytes bytes).map fun found => found.map fun format =>
    match format with
    | .sparse positions _ => ⟨format, (codecs.deserializeBitmap positions).length⟩
    | .dense _ totalRows _ => ⟨format, totalRows⟩

/-- Patches that the constructors build. -/
inductive Built : CountedPatch → Prop
  | sparse (positions : List Nat) (values : Bytes)
      (roundTrips : codecs.deserializeBitmap (codecs.serializeBitmap positions) = positions) :
      Built (sparse codecs positions values)
  | dense (values : Bytes) (totalRows : Nat) (txnId : TxnId) :
      Built (dense values totalRows txnId)

/-- What is built is read back as it was, also without the header. -/
theorem fromBytes_built {patch : CountedPatch} (built : Built codecs patch)
    (fits : patch.format.Fits) : fromBytes codecs patch.format.toBytes = .ok (some patch) ∧
      fromBytes codecs (patch.format.toBytes.drop 7) = .ok (some patch) := by
  have readBack := DeltaPatchFormat.fromBytes_toBytes fits
  simp only [fromBytes, readBack.1, readBack.2, Except.map, Option.map]
  cases built with
  | sparse positions values roundTrips => simp [CountedPatch.sparse, roundTrips]
  | dense values totalRows txnId => simp [CountedPatch.dense]

/-- The portable format of a bitmap with row 3: the cookie, one container with its key and its
size, where it starts, and the row. -/
def thirdRowBitmap : Bytes :=
  [0x3A, 0x30, 0, 0, 1, 0, 0, 0, 0, 0, 0, 0, 16, 0, 0, 0, 3, 0]

/-- Codecs for patches of row 3. -/
def thirdRow : PatchCodecs where
  serializeBitmap positions := if positions = [3] then thirdRowBitmap else []
  deserializeBitmap bytes := if bytes = thirdRowBitmap then [3] else []
  encodeArrowArray _ := []
  bytesToBatch _ := .ok none

theorem fromBytes_thirdRow : fromBytes thirdRow (sparse thirdRow [3] [7]).format.toBytes =
        .ok (some (sparse thirdRow [3] [7])) ∧
      fromBytes thirdRow ((sparse thirdRow [3] [7]).format.toBytes.drop 7) =
        .ok (some (sparse thirdRow [3] [7])) :=
  fromBytes_built thirdRow (.sparse [3] [7] rfl) ⟨by decide, by decide⟩

end CountedPatch

/-- A slice of bytes, which panics beyond the end. -/
def slice (bytes : Bytes) (start stop : Nat) : Except ReadFailure Bytes :=
  let length := bytes.length
  if length < stop then
    .error (.panicked s!"range end index {stop} out of range for slice of length {length}")
  else .ok ((bytes.drop start).take (stop - start))

lemma slice_eq {bytes : Bytes} (within : stop ≤ bytes.length) :
    slice bytes start stop = .ok ((bytes.drop start).take (stop - start)) := by
  simp only [slice, if_neg (Nat.not_lt.mpr within)]

lemma readLe_take {bytes : Bytes} (enough : width ≤ bytes.length) :
    readLe width (bytes.take width) = readLe width bytes := by
  have whole := @readLe_append width (bytes.take width) (by simp [enough]) (bytes.drop width)
  rw [take_append_drop] at whole
  exact whole.symm

namespace DeltaPatchFormat

/-- The sparse layout with the bounds of every slice checked, from behind the
flag. -/
def checkedSparse (bytes : Bytes) : Except ReadFailure (Option DeltaPatchFormat) :=
  if bytes.length < 8 then .ok none
  else do
    let posLen := readLe 4 (← slice bytes 0 4)
    if bytes.length < 4 + posLen + 4 then .ok none
    else
      let positions ← slice bytes 4 (4 + posLen)
      let valLen := readLe 4 (← slice bytes (4 + posLen) (4 + posLen + 4))
      if bytes.length < 4 + posLen + 4 + valLen then .ok none
      else
        let values ← slice bytes (4 + posLen + 4) (4 + posLen + 4 + valLen)
        .ok (some (sparse positions values))

def checkedDense (bytes : Bytes) : Except ReadFailure (Option DeltaPatchFormat) :=
  if bytes.length < 20 then .ok none
  else do
    let txnId := readLe 8 (← slice bytes 0 8)
    let totalRows := readLe 8 (← slice bytes 8 16)
    let valLen := readLe 4 (← slice bytes 16 20)
    if bytes.length < 20 + valLen then .ok none
    else
      let values ← slice bytes 20 (20 + valLen)
      .ok (some (dense values totalRows txnId))

/-- Read a patch with a checked slice at every access. -/
def checkedFromBytes (bytes : Bytes) : Except ReadFailure (Option DeltaPatchFormat) :=
  if bytes.isEmpty then .ok none
  else
    match if 7 ≤ bytes.length ∧ bytes.take 6 = patchMagic then bytes.drop 7 else bytes with
    | [] => .error (.panicked "index out of bounds: the len is 7 but the index is 7")
    | flag :: rest =>
      if flag = 0 then checkedSparse rest
      else if flag = 1 then checkedDense rest
      else .ok none

lemma checkedSparse_eq (bytes) : checkedSparse bytes = .ok (fromSparse bytes) := by
  unfold checkedSparse fromSparse
  by_cases short : bytes.length < 8
  · simp [short]
  simp only [if_neg short, slice_eq (show 4 ≤ bytes.length by omega), bind, Except.bind,
    Nat.sub_zero, drop_zero, readLe_take (show 4 ≤ bytes.length by omega)]
  generalize readLe 4 bytes = posLen
  split
  · rfl
  rename_i whole
  simp only [slice_eq (show 4 + posLen ≤ bytes.length by omega),
    slice_eq (show 4 + posLen + 4 ≤ bytes.length by omega), Nat.add_sub_cancel_left,
    readLe_take (show 4 ≤ (bytes.drop (4 + posLen)).length by simp; omega)]
  split
  · rfl
  rename_i held
  simp only [slice_eq (Nat.not_lt.mp held), Nat.add_sub_cancel_left]

lemma checkedDense_eq (bytes) : checkedDense bytes = .ok (fromDense bytes) := by
  unfold checkedDense fromDense
  by_cases short : bytes.length < 20
  · simp [short]
  have rows := @readLe_take 8 (bytes.drop 8) (by simp; omega)
  have size := @readLe_take 4 (bytes.drop 16) (by simp; omega)
  simp only [if_neg short, slice_eq (show 8 ≤ bytes.length by omega),
    slice_eq (show 16 ≤ bytes.length by omega), slice_eq (show 20 ≤ bytes.length by omega), bind,
    Except.bind, Nat.sub_zero, drop_zero, Nat.reduceSub, rows, size,
    readLe_take (show 8 ≤ bytes.length by omega)]
  split
  · rfl
  rename_i held
  simp only [slice_eq (Nat.not_lt.mp held), Nat.add_sub_cancel_left]

lemma checkedFromBytes_eq (bytes) : checkedFromBytes bytes = fromBytes bytes := by
  simp only [checkedFromBytes, checkedSparse_eq, checkedDense_eq]
  rfl

lemma fromBytes_eq_error_iff {bytes err} : fromBytes bytes = .error err ↔
      err = .panicked "index out of bounds: the len is 7 but the index is 7" ∧
        bytes.length = 7 ∧ bytes.take 6 = patchMagic := by
  constructor
  · intro fails
    unfold fromBytes at fails
    split at fails
    · cases fails
    · split at fails
      · rename_i ne _ nothing
        cases fails
        split at nothing
        · rename_i magic
          exact ⟨rfl, le_antisymm (drop_eq_nil_iff.mp nothing) magic.1, magic.2⟩
        · exact absurd nothing (by simpa using ne)
      · repeat (split at fails; · cases fails)
        cases fails
  · rintro ⟨rfl, seven, letters⟩
    have ne : bytes ≠ [] := ne_nil_of_length_pos (by omega)
    simp [fromBytes, ne, seven, letters, drop_eq_nil_iff.mpr seven.le]

/-- The reader leaves its bounds on the letters with one byte behind them, and
on nothing else. -/
theorem checkedFromBytes_panics_iff (bytes : Bytes) :
    (∃ message, checkedFromBytes bytes = .error (.panicked message)) ↔
      bytes.length = 7 ∧ bytes.take 6 = patchMagic := by
  simp [checkedFromBytes_eq, fromBytes_eq_error_iff]

theorem checkedFromBytes_bareMagic :
    ∃ message, checkedFromBytes (patchMagic ++ [0]) = .error (.panicked message) :=
  ⟨_, rfl⟩

end DeltaPatchFormat

end RockDuck
