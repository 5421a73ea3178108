import RockDuck.GuardStore
import RockDuck.PatchRoundTrip

/-!
# Reading guard files

The reader of all patches goes from one patch to the next by the sizes it finds in
the file.
-/

namespace RockDuck

open List DeltaPatchFormat

namespace DeltaL2Disk

/-- Where the reader goes on after a round, if it does. -/
def nextPosition (offset : Nat) (bytes : Bytes) : Option (Nat × Bytes) :=
  if bytes.length < 32 then none
  else
    match readHead offset bytes with
    | .error _ => none
    | .ok (_, _, payloadSize) =>
      match DeltaPatchFormat.fromBytes ((bytes.drop 32).take payloadSize) with
      | .error _ => none
      | .ok none => some (offset + payloadSize, bytes.drop payloadSize)
      | .ok (some _) => some (offset + 32 + payloadSize, bytes.drop (32 + payloadSize))

/-- Where the reader is after some patches. -/
def position : Nat → Nat → Bytes → Option (Nat × Bytes)
  | 0, offset, bytes => some (offset, bytes)
  | round + 1, offset, bytes =>
    (nextPosition offset bytes).bind fun next => position round next.1 next.2

/-- A head without a payload. -/
def Stuck (bytes : Bytes) : Prop :=
  32 ≤ bytes.length ∧ readLe 4 (bytes.drop 24) = 0

/-- A head with the letters of a patch as its payload, and nothing behind them. -/
def BareMagic (bytes : Bytes) : Prop :=
  39 ≤ bytes.length ∧ readLe 4 (bytes.drop 24) = 7 ∧ (bytes.drop 32).take 6 = patchMagic

/-- The reader comes to an end, with an answer that is not a panic. -/
def ReturnsFrom (fuel offset : Nat) (bytes : Bytes) : Prop :=
  (∃ rounds, position rounds offset bytes = none) ∧
    ∃ answer, readAllFrom fuel offset bytes = some answer ∧
      ∀ message, answer ≠ .error (.panicked message)

/-- The reader comes to no head of the two kinds above. -/
def SoundFrom (offset : Nat) (bytes : Bytes) : Prop :=
  ∀ round next, position round offset bytes = some next → ¬ Stuck next.2 ∧ ¬ BareMagic next.2

variable {off : Nat} {bytes : Bytes}

lemma readHead_cases (off : Nat) (bytes : Bytes) : let size := readLe 4 (bytes.drop 24)
    (∃ error, readHead off bytes = .error error ∧
        (maxPayloadSize < size ∨ bytes.length - 32 < size)) ∨
      ∃ txnStart txnEnd, readHead off bytes = .ok (txnStart, txnEnd, size) ∧
        size ≤ bytes.length - 32 ∧ size ≤ maxPayloadSize := by
  simp only [readHead]
  split
  · exact Or.inl ⟨_, rfl, Or.inl ‹_›⟩
  · split
    · exact Or.inl ⟨_, rfl, Or.inr ‹_›⟩
    · exact Or.inr ⟨_, _, rfl, Nat.not_lt.mp ‹_›, Nat.not_lt.mp ‹_›⟩

lemma soundFrom_iff : SoundFrom off bytes ↔ (¬ Stuck bytes ∧ ¬ BareMagic bytes) ∧
    ∀ place, nextPosition off bytes = some place → SoundFrom place.1 place.2 := by
  constructor
  · intro all
    refine ⟨all 0 (off, bytes) rfl, fun place goesOn round next reached =>
      all (round + 1) next ?_⟩
    rw [position, goesOn, Option.bind_some, reached]
  · rintro ⟨now, later⟩ round next reached
    cases round with
    | zero =>
      cases reached
      exact now
    | succ round =>
      obtain ⟨place, goesOn, reached⟩ := Option.bind_eq_some_iff.mp reached
      exact later place goesOn round next reached

lemma finite_iff : (∃ rounds, position rounds off bytes = none) ↔
    ∀ place, nextPosition off bytes = some place →
      ∃ rounds, position rounds place.1 place.2 = none := by
  constructor
  · rintro ⟨rounds, ended⟩ place goesOn
    cases rounds with
    | zero => cases ended
    | succ rounds => exact ⟨rounds, by simpa [position, goesOn] using ended⟩
  · intro later
    cases goesOn : nextPosition off bytes with
    | none => exact ⟨1, by simp [position, goesOn]⟩
    | some place =>
      obtain ⟨rounds, ended⟩ := later place goesOn
      exact ⟨rounds + 1, by simp [position, goesOn, ended]⟩

/-- The reader returns if it never comes to a head without a payload, nor to bare
letters. -/
lemma returnsFrom_iff (enough : bytes.length ≤ fuel) :
    ReturnsFrom fuel off bytes ↔ SoundFrom off bytes := by
  induction fuel generalizing off bytes with
  | zero =>
    have empty : bytes = [] := length_eq_zero_iff.mp (Nat.le_zero.mp enough)
    subst empty
    rw [ReturnsFrom, finite_iff, soundFrom_iff]
    simp [nextPosition, readAllFrom, Stuck, BareMagic]
  | succ fuel ih =>
    rw [ReturnsFrom, finite_iff, soundFrom_iff]
    by_cases short : bytes.length < 32
    · simp [nextPosition, readAllFrom, short, Stuck, BareMagic, show ¬ 32 ≤ bytes.length by omega,
        show ¬ 39 ≤ bytes.length by omega]
    have long : 32 ≤ bytes.length := Nat.not_lt.mp short
    rcases readHead_cases off bytes with ⟨error, head, refused⟩ | ⟨txnStart, txnEnd, head, held, -⟩
    · have whole : ¬ Stuck bytes ∧ ¬ BareMagic bytes := by
        rw [Stuck, BareMagic]
        rw [maxPayloadSize] at refused
        omega
      simp [nextPosition, readAllFrom, short, head, whole]
    · generalize same : readLe 4 (bytes.drop 24) = size at *
      have stuck : Stuck bytes ↔ size = 0 := by
        rw [Stuck, same]
        exact and_iff_right long
      have bare : BareMagic bytes ↔ ∃ failure, fromBytes
          ((bytes.drop 32).take size) = .error failure := by
        simp only [fromBytes_eq_error_iff, exists_eq_left, BareMagic, same,
          take_take, length_take, length_drop, min_eq_left held]
        constructor
        · rintro ⟨-, rfl, letters⟩
          exact ⟨rfl, letters⟩
        · rintro ⟨rfl, letters⟩
          exact ⟨by omega, rfl, letters⟩
      rw [stuck, bare]
      simp only [nextPosition, readAllFrom, if_neg short, head]
      cases parsed : fromBytes ((bytes.drop 32).take size) with
      | error failure =>
        obtain ⟨rfl, -⟩ := fromBytes_eq_error_iff.mp parsed
        simp
      | ok format? =>
        cases format? with
        | none =>
          by_cases empty : size = 0
          · simp [empty]
          · have next := @ih (off + size) (bytes.drop size) (by simp; omega)
            simpa [empty, ReturnsFrom] using next
        | some format =>
          have next := @ih (off + 32 + size) (bytes.drop (32 + size)) (by simp; omega)
          have ne : size ≠ 0 := by
            rintro rfl
            simp [fromBytes] at parsed
          rw [ReturnsFrom] at next
          cases rest : readAllFrom fuel (off + 32 + size) (bytes.drop (32 + size)) with
          | none => simpa [rest, ne] using next
          | some answer =>
            cases answer with
            | error failure | ok patches => simpa [rest, ne, Except.map] using next

/-- Reading all patches of a file comes to an end, within bounds. -/
structure Returns (file : Bytes) : Prop where
  finite : checkMagic file = .ok () → ∃ rounds, position rounds 64 (file.drop 64) = none
  inBounds : ∃ answer, readAllPatches (some file) = some answer ∧
    ∀ message, answer ≠ .error (.panicked message)

theorem readAllPatches_returns_iff (file : Bytes) :
    Returns file ↔ (checkMagic file = .ok () → SoundFrom 64 (file.drop 64)) := by
  have read := @returnsFrom_iff 64 (file.drop 64) file.length (by simp)
  constructor
  · rintro ⟨finite, inBounds⟩ magic
    simp only [readAllPatches, magic] at inBounds
    exact read.mp ⟨finite magic, inBounds⟩
  · intro sound
    cases magic : checkMagic file with
    | error error => exact ⟨by simp [magic], _, by simp [readAllPatches, magic]; rfl, by simp⟩
    | ok checked =>
      obtain ⟨finite, inBounds⟩ := read.mpr (sound magic)
      exact ⟨fun _ => finite, by simpa [readAllPatches, magic] using inBounds⟩

theorem zeroTail_not_returns : ¬ Returns (fileHeader ++ List.replicate 32 0) := by
  rintro ⟨-, answer, read, -⟩
  have loops : readAllPatches (some (fileHeader ++ List.replicate 32 0)) = none := by
    decide +kernel
  rw [loops] at read
  cases read

variable {format : DeltaPatchFormat} (patches : List DeltaPatch)

/-- The fields of a patch lie in front of the bytes it is read from. -/
lemma toBytes_of_fromRest {rest : Bytes} (flag : UInt8)
    (read : flag = 0 ∧ DeltaPatchFormat.fromSparse rest = some format ∨
      flag = 1 ∧ DeltaPatchFormat.fromDense rest = some format) :
    ∃ extra, flag :: rest = format.toBytes.drop 7 ++ extra := by
  rcases read with ⟨rfl, read⟩ | ⟨rfl, read⟩
  · simp only [fromSparse] at read
    repeat (split at read; · cases read)
    cases read
    generalize size : readLe 4 rest = posLen at *
    generalize valSize : readLe 4 (rest.drop (4 + posLen)) = valLen at *
    have fits : posLen ≤ (rest.drop 4).length ∧ valLen ≤ (rest.drop (4 + posLen + 4)).length := by
      simp only [length_drop]
      omega
    refine ⟨rest.drop (4 + posLen + 4 + valLen), ?_⟩
    simp only [toBytes, patchMagic, length_take, min_eq_left fits.1, min_eq_left fits.2]
    rw [← size, leBytes_readLe (by omega), size, ← valSize, leBytes_readLe (by simp; omega), valSize]
    simp [← drop_drop]
  · simp only [fromDense] at read
    repeat (split at read; · cases read)
    cases read
    generalize valSize : readLe 4 (rest.drop 16) = valLen at *
    have fits : valLen ≤ (rest.drop 20).length := by
      simp only [length_drop]
      omega
    refine ⟨rest.drop (20 + valLen), ?_⟩
    simp only [toBytes, patchMagic, length_take, min_eq_left fits]
    rw [leBytes_readLe (by omega), leBytes_readLe (by simp; omega), ← valSize,
      leBytes_readLe (by simp; omega), valSize]
    have parts : rest = rest.take 8 ++ ((rest.drop 8).take 8 ++ ((rest.drop 16).take 4 ++
        ((rest.drop 20).take valLen ++ rest.drop (20 + valLen)))) := by
      rw [← drop_drop (j := 20), take_append_drop, ← drop_drop (j := 16) (i := 4),
        take_append_drop, ← drop_drop (j := 8) (i := 8), take_append_drop, take_append_drop]
    simpa using parts

/-- A patch is read with the letters in front of it or without them. -/
lemma toBytes_of_fromBytes (read : DeltaPatchFormat.fromBytes bytes = .ok (some format)) :
    ∃ extra, bytes = format.toBytes.drop 7 ++ extra ∨
      bytes.take 6 = patchMagic ∧ bytes.drop 7 = format.toBytes.drop 7 ++ extra := by
  unfold fromBytes at read
  split at read
  · cases read
  split at read
  · cases read
  rename_i flag rest body
  have parsed : ∃ extra, flag :: rest = format.toBytes.drop 7 ++ extra := by
    apply toBytes_of_fromRest flag
    split at read
    · exact .inl ⟨‹_›, Except.ok.inj read⟩
    split at read
    · exact .inr ⟨‹_›, Except.ok.inj read⟩
    · cases read
  obtain ⟨extra, parsed⟩ := parsed
  refine ⟨extra, ?_⟩
  rw [← parsed, ← body]
  split
  · rename_i letters
    exact .inr ⟨letters.2, rfl⟩
  · exact .inl rfl

lemma length_toBytes_le (read : DeltaPatchFormat.fromBytes bytes = .ok (some format)) :
    format.toBytes.length ≤ bytes.length + 7 := by
  obtain ⟨extra, whole | ⟨-, whole⟩⟩ := toBytes_of_fromBytes read
  all_goals
    have length := congrArg List.length whole
    simp only [length_append, length_drop] at length
    omega

/-- What is read does not take more room than the file has. -/
lemma sum_le_of_readAllFrom (read : readAllFrom fuel off bytes = some (.ok refs)) :
    (refs.map fun ref => 25 + ref.format.toBytes.length).sum ≤ bytes.length := by
  induction fuel generalizing off bytes refs with
  | zero =>
    cases read
    simp
  | succ fuel ih =>
    unfold readAllFrom at read
    split at read
    · cases read
      simp
    rcases readHead_cases off bytes with ⟨error, head, -⟩ | ⟨txnStart, txnEnd, head, held, -⟩
    · simp [head] at read
    generalize readLe 4 (bytes.drop 24) = size at *
    simp only [head] at read
    split at read
    · cases read
    · split at read
      · cases read
      · have rest := ih read
        simp only [length_drop] at rest
        omega
    · rename_i format parsed
      have longer := length_toBytes_le parsed
      rw [length_take, length_drop, min_eq_left held] at longer
      obtain ⟨answer, later, joined⟩ := Option.map_eq_some_iff.mp read
      cases answer with
      | error err => cases joined
      | ok others =>
        cases joined
        have rest := ih later
        simp only [length_drop, map_cons, sum_cons] at rest ⊢
        omega

variable (segId column : String)

/-- The disk after some patches were appended. -/
def appended (patches : List DeltaPatch) : DeltaL2Disk :=
  patches.foldl (fun disk patch => (disk.appendPatch segId column patch none).1) .empty

/-- The patches are read, in their order. -/
def ReadsAs (read : Option (Except ReadFailure (List MergePatchRef)))
    (patches : List DeltaPatch) : Prop :=
  ∃ refs, read = some (.ok refs) ∧
    refs.map (fun ref => (ref.patchId, ref.txnRange, ref.format)) =
      patches.map fun patch => (patch.patchId, patch.txnRange, patch.format)

variable {segId column}

lemma readAllPatches_fileHeader (bytes) :
    readAllPatches (some (fileHeader ++ bytes)) = readAllFrom (64 + bytes.length) 64 bytes := by
  have sized : fileHeader.length = 64 := by simp [fileHeader]
  have magic : checkMagic (fileHeader ++ bytes) = .ok () := by
    have read : readLe 4 (fileHeader ++ bytes) = deltaFileMagic := by
      rw [fileHeader, append_assoc, readLe_leBytes_append]
      rfl
    simp [checkMagic, read]
  simp only [readAllPatches, magic]
  rw [length_append, sized, drop_left' sized]

lemma appended_concat (patches patch) : appended segId column (patches ++ [patch]) =
      ((appended segId column patches).appendPatch segId column patch none).1 := by
  simp [appended]

lemma tmpFiles_appended (patches) :
    (appended segId column patches).tmpFiles.getD (guardKey segId column 0) [] = [] := by
  induction patches using List.reverseRecOn with
  | nil => simp [appended, empty]
  | append_singleton patches patch ih => simp [appended_concat, appendPatch]

/-- The file has the last patch alone, behind a head that is longer than the one the
reader takes. -/
lemma readAllPatchesFromGuard_concat (patches patch) :
    (appended segId column (patches ++ [patch])).readAllPatchesFromGuard (guardKey segId column 0) =
      readAllFrom (64 + (patchBytes patch).length) 64 (patchBytes patch) := by
  have found (disk : DeltaL2Disk) : (disk.findOrCreateGuard segId column).tmpFiles =
      disk.tmpFiles := by
    simp only [findOrCreateGuard]
    split <;> rfl
  rw [← readAllPatches_fileHeader, appended_concat]
  simp [appendPatch, found, tmpFiles_appended, readAllPatchesFromGuard]

/-- The first patch is read where the reader stands, or behind what it passes over. -/
lemma readAllFrom_cons (read : readAllFrom fuel off bytes = some (.ok (ref :: refs))) :
    let size := readLe 4 (bytes.drop 24)
    size ≤ maxPayloadSize ∧
      (DeltaPatchFormat.fromBytes ((bytes.drop 32).take size) = .ok (some ref.format) ∨
        0 < size ∧ ∃ fuel, readAllFrom fuel (off + size) (bytes.drop size) =
          some (.ok (ref :: refs))) := by
  intro size
  cases fuel with
  | zero => simp [readAllFrom] at read
  | succ fuel =>
    unfold readAllFrom at read
    split at read
    · simp at read
    rcases readHead_cases off bytes with ⟨error, head, -⟩ | ⟨txnStart, txnEnd, head, -, bounded⟩
    · simp [head] at read
    refine ⟨bounded, ?_⟩
    simp only [head] at read
    split at read
    · cases read
    · split at read
      · cases read
      · exact .inr ⟨Nat.pos_of_ne_zero ‹_›, fuel, read⟩
    · rename_i format parsed
      obtain ⟨answer, -, joined⟩ := Option.map_eq_some_iff.mp read
      cases answer with
      | error err => cases joined
      | ok others =>
        cases joined
        exact .inl parsed

/-- A patch is not read from in front of its own letters, from its length on or one
byte before: its fields would tell another length. -/
lemma not_read_early {before : Bytes} (bounded : format.toBytes.length ≤ maxPayloadSize + 7)
    (short : before = [] ∧ format.isSparse = false ∨ before.length = 1) (size : Nat) :
    DeltaPatchFormat.fromBytes ((before ++ (leBytes 4 format.toBytes.length ++
      format.toBytes)).take size) ≠ .ok (some format) := by
  intro read
  rw [maxPayloadSize] at bounded
  generalize whole : before ++ (leBytes 4 format.toBytes.length ++ format.toBytes) = bytes at read
  obtain ⟨extra, placed | ⟨letters, -⟩⟩ := toBytes_of_fromBytes read
  · have overlap := take_append_drop size bytes
    rw [placed, append_assoc, ← whole] at overlap
    generalize extra ++ bytes.drop size = extra at overlap
    cases format with
    | sparse positions values =>
      obtain ⟨first, rfl⟩ : ∃ first, before = [first] :=
        length_eq_one_iff.mp (by simpa [isSparse] using short)
      simp only [toBytes, patchMagic, cons_append, nil_append, drop_succ_cons, drop_zero,
        append_assoc, cons.injEq] at overlap
      have lengths := congrArg (readLe 4) (append_inj overlap.2 (by simp)).1
      rw [← append_nil (leBytes 4 _), readLe_leBytes_append, ← append_nil (leBytes 4 _),
        readLe_leBytes_append] at lengths
      simp only [toBytes, patchMagic, length_append, length_cons, length_leBytes, length_nil]
        at lengths bounded
      omega
    | dense values totalRows txnId =>
      have lengths : values.length % 256 ^ 4 = 0x41544C45 ∨ values.length % 256 ^ 4 = 0x4C454452 := by
        have read := readLe_leBytes_append 4 values.length []
        generalize (dense values totalRows txnId).toBytes.length = total at overlap
        rcases short with ⟨rfl, -⟩ | one
        · simp only [toBytes, patchMagic, leBytes, cons_append, nil_append, drop_succ_cons,
            drop_zero, cons.injEq] at overlap
          obtain ⟨-, -, -, -, -, -, t5, t6, t7, r0, -, -, -, -, -, -, -, v0, v1, v2, v3, -⟩ := overlap
          simp only [leBytes, v0, v1, v2, v3, t5, t6, t7, r0] at read
          exact .inl (read.symm.trans (by decide))
        · obtain ⟨first, rfl⟩ := length_eq_one_iff.mp one
          simp only [toBytes, patchMagic, leBytes, cons_append, nil_append, drop_succ_cons,
            drop_zero, cons.injEq] at overlap
          obtain ⟨-, -, -, -, -, t4, t5, t6, t7, -, -, -, -, -, -, -, -, v0, v1, v2, v3, -⟩ := overlap
          simp only [leBytes, v0, v1, v2, v3, t4, t5, t6, t7] at read
          exact .inr (read.symm.trans (by decide))
      simp only [toBytes, patchMagic, length_append, length_cons, length_leBytes, length_nil]
        at bounded
      omega
  · have six : bytes.take 6 = patchMagic := by
      have length := congrArg List.length letters
      simp only [length_take, patchMagic, length_cons, length_nil] at length
      rwa [take_take, min_eq_left (by omega)] at letters
    rw [← whole] at six
    rcases short with ⟨rfl, -⟩ | one
    · cases format <;> simp [toBytes, patchMagic, leBytes] at six
    · obtain ⟨first, rfl⟩ := length_eq_one_iff.mp one
      cases format <;> simp [toBytes, patchMagic, leBytes] at six

/-- What lies behind the place where the reader takes the size of a patch from: the
flag and the number of rows, which it takes for the size, and the size itself. -/
lemma drop_patchBytes (patch : DeltaPatch) :
    (patchBytes patch).drop 24 =
        leBytes 9 ((if patch.format.isSparse then 0 else 1) + 256 * patch.zoneMap.affectedRows) ++
          (leBytes 4 patch.format.toBytes.length ++ patch.format.toBytes) ∧
      (patchBytes patch).drop 25 = leBytes 8 patch.zoneMap.affectedRows ++
          (leBytes 4 patch.format.toBytes.length ++ patch.format.toBytes) := by
  have flag : (if patch.format.isSparse = true then 0 else 1) < 256 := by split <;> decide
  have high : ((if patch.format.isSparse then 0 else 1) + 256 * patch.zoneMap.affectedRows) / 256 =
      patch.zoneMap.affectedRows := by
    omega
  have behind : (patchBytes patch).drop 24 = (if patch.format.isSparse then 0 else 1) ::
      (leBytes 8 patch.zoneMap.affectedRows ++
        (leBytes 4 patch.format.toBytes.length ++ patch.format.toBytes)) := by
    simp [patchBytes, leBytes]
  refine ⟨?_, by rw [← drop_drop (j := 24) (i := 1), behind]; rfl⟩
  rw [behind, leBytes_add 1 8, Nat.pow_one, high, append_assoc]
  split <;> simp [leBytes]

/-- No patch comes back: the head is taken for a shorter one, and what follows
is read from the wrong place. -/
lemma not_readsAs_single (fuel : Nat) (patch : DeltaPatch) :
    ¬ ReadsAs (readAllFrom fuel 64 (patchBytes patch)) [patch] := by
  rintro ⟨refs, read, same⟩
  obtain ⟨ref, rfl⟩ : ∃ ref, refs = [ref] :=
    length_eq_one_iff.mp (by simpa using congrArg length same)
  have format : ref.format = patch.format := by
    simp only [map_cons, map_nil, cons.injEq, Prod.mk.injEq] at same
    exact same.1.2.2
  obtain ⟨head, tail⟩ := drop_patchBytes patch
  have length : (patchBytes patch).length = 37 + patch.format.toBytes.length := by
    simp [patchBytes]
    omega
  have size : readLe 4 ((patchBytes patch).drop 24) = ((if patch.format.isSparse then 0 else 1) +
      256 * patch.zoneMap.affectedRows) % 256 ^ 4 := by
    rw [head, leBytes_add 4 5, append_assoc, readLe_leBytes_append]
  have later : readLe 4 ((patchBytes patch).drop 25) = patch.zoneMap.affectedRows % 256 ^ 4 := by
    rw [tail, leBytes_add 4 4, append_assoc, readLe_leBytes_append]
  obtain ⟨bounded, here | ⟨pos, fuel, behind⟩⟩ := readAllFrom_cons read
  · rw [format] at here
    have held := length_toBytes_le here
    have early : (patchBytes patch).drop 32 =
        leBytes 1 (patch.zoneMap.affectedRows / 256 ^ 7) ++
          (leBytes 4 patch.format.toBytes.length ++ patch.format.toBytes) := by
      rw [← drop_drop (j := 25) (i := 7), tail, leBytes_add 7 1, append_assoc,
        drop_left' (length_leBytes 7 _)]
    rw [early] at here
    refine not_read_early ?_ (.inr rfl) _ here
    simp only [length_take] at held
    omega
  · have room := sum_le_of_readAllFrom behind
    simp only [map_cons, map_nil, sum_cons, sum_nil, length_drop, format, length] at room
    -- Only the flag of a dense patch is passed over, with an empty number of rows.
    have one : readLe 4 ((patchBytes patch).drop 24) = 1 ∧ patch.format.isSparse = false ∧
        patch.zoneMap.affectedRows % 256 ^ 3 = 0 := by
      split at size
      · omega
      · rename_i dense
        refine ⟨by omega, by simpa using dense, by omega⟩
    obtain ⟨one, dense, empty⟩ := one
    rw [one] at behind
    obtain ⟨bounded, here | ⟨pos, fuel, behind⟩⟩ := readAllFrom_cons behind
    · rw [format] at here
      have held := length_toBytes_le here
      have early : ((patchBytes patch).drop 1).drop 32 =
          [] ++ (leBytes 4 patch.format.toBytes.length ++ patch.format.toBytes) := by
        rw [drop_drop, ← drop_drop (j := 25) (i := 8), tail, drop_left' (length_leBytes 8 _),
          nil_append]
      rw [early] at here
      refine not_read_early ?_ (.inl ⟨rfl, dense⟩) _ here
      simp only [length_take] at held
      omega
    · have room := sum_le_of_readAllFrom behind
      simp only [map_cons, map_nil, sum_cons, sum_nil, length_drop, format, length, drop_drop,
        Nat.reduceAdd, later] at room pos
      omega

/-- No patch that is appended comes back. -/
theorem readsBack_iff (patches : List DeltaPatch) :
    ReadsAs ((appended segId column patches).readAllPatchesFromGuard (guardKey segId column 0))
        patches ↔ patches = [] := by
  obtain rfl | ⟨others, patch, rfl⟩ := eq_nil_or_concat patches
  · exact iff_of_true ⟨[], by simp [appended, empty, readAllPatchesFromGuard], rfl⟩ rfl
  refine iff_of_false ?_ (by simp)
  rw [concat_eq_append, readAllPatchesFromGuard_concat]
  cases others with
  | nil => exact not_readsAs_single _ patch
  | cons first others =>
    rintro ⟨refs, read, same⟩
    have sizes := sum_le_of_readAllFrom read
    have formats := congrArg (List.map fun entry => 25 + entry.2.2.toBytes.length) same
    simp only [map_map, Function.comp_def] at formats
    rw [formats] at sizes
    simp only [patchBytes, length_append, length_leBytes, length_singleton,
      map_append, sum_append, map_cons, sum_cons, map_nil,
      sum_nil] at sizes
    omega

def oneRowPatch : DeltaPatch := ⟨1, (1, 1), .dense [] 1 1, ⟨1, 1, 1⟩⟩

theorem oneRowPatch_not_readBack :
    ¬ ReadsAs ((appended "a" "x" [oneRowPatch]).readAllPatchesFromGuard (guardKey "a" "x" 0))
      [oneRowPatch] := by
  rintro ⟨refs, read, -⟩
  have fails : ((appended "a" "x" [oneRowPatch]).readAllPatchesFromGuard
      (guardKey "a" "x" 0)).any Except.isOk = false := by
    decide +kernel
  rw [read] at fails
  cases fails

end DeltaL2Disk

end RockDuck
