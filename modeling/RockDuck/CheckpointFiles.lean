import RockDuck.Checkpointing
import RockDuck.DeleteLog

/-!
# Checkpoint files

The state of a checkpoint lies in an envelope with a checksum of its bytes.
-/

namespace RockDuck

open List

/-- What a serializer makes of the states, and the decoders of the three versions. -/
structure CheckpointCodec where
  toAllocvec : CheckpointState → Option Bytes
  fromBytesV1 : Bytes → Option (Nat × TxnId × Nat)
  fromBytesV2 : Bytes → Option (Nat × TxnId × Nat × Option CheckpointMvccState)
  fromBytes : Bytes → Option CheckpointState
  roundTrip : ∀ state bytes, toAllocvec state = some bytes → fromBytes bytes = some state

/-- The checksum of the payload. -/
def crc32 (bytes : Bytes) : Nat := Deltavis.Crc32.bitwise.checksum 0 bytes

variable (codec : CheckpointCodec) (data : Bytes)

/-- The states of the first two versions are taken without a look at the checksum. -/
def loadCheckpoint : Option CheckpointState :=
  let payload := data.drop 13
  if data.length < 13 ∨ readLe 4 data ≠ 0x434B5054 ∨
      13 + readLe 4 (data.drop 9) ≠ data.length then none
  else if data[4]? = some 1 then
    (codec.fromBytesV1 payload).map fun state => ⟨state.1, state.2.1, state.2.2, 0, none⟩
  else if data[4]? = some 2 then
    (codec.fromBytesV2 payload).map fun state =>
      ⟨state.1, state.2.1, state.2.2.1, 0, state.2.2.2⟩
  else if data[4]? ≠ some 3 ∨ crc32 payload ≠ readLe 4 (data.drop 5) then none
  else codec.fromBytes payload

/-- The files of a directory, with those that do not load left out. -/
def CheckpointManager.ofFiles (latest : Option Nat) (files : Std.ExtTreeMap Nat Bytes) :
    CheckpointManager :=
  ⟨0, latest, files.filterMap fun _ data => loadCheckpoint codec data⟩

/-- The stored checksum is that of the payload. -/
def Intact : Prop := readLe 4 (data.drop 5) = crc32 (data.drop 13)

/-- A file that is loaded is intact, and one that is not is passed over for the one before. -/
structure Checked : Prop where
  intact : ∀ state, loadCheckpoint codec data = some state → Intact data
  fallsBack : ∀ files id, files[id + 1]? = some data → ¬ Intact data → ∀ previous state,
    files[id]? = some previous → loadCheckpoint codec previous = some state →
      (CheckpointManager.ofFiles codec (some (id + 1)) files).loadLatest = .ok (some (id, state))

/-- The decoder of one of the first two versions accepts the payload. -/
def DecodesOld : Prop :=
  data[4]? = some 1 ∧ (codec.fromBytesV1 (data.drop 13)).isSome = true ∨
    data[4]? = some 2 ∧ (codec.fromBytesV2 (data.drop 13)).isSome = true

/-- A corrupted checkpoint is loaded exactly if its head is in order and it is of one of
the first two versions, and decodes. -/
theorem checked_iff (codec : CheckpointCodec) (data : Bytes) :
    Checked codec data ↔
      (13 ≤ data.length → readLe 4 data = 0x434B5054 →
        13 + readLe 4 (data.drop 9) = data.length → DecodesOld codec data → Intact data) := by
  constructor
  · intro checked long magic size decodes
    have loads : ∃ state, loadCheckpoint codec data = some state := by
      rw [loadCheckpoint, if_neg (by simp [magic, size, long])]
      rcases decodes with ⟨version, decoded⟩ | ⟨version, decoded⟩
      all_goals
        obtain ⟨state, decoded⟩ := Option.isSome_iff_exists.mp decoded
        simp [version, decoded]
    obtain ⟨state, loaded⟩ := loads
    exact checked.intact state loaded
  · intro old
    have intact state (loaded : loadCheckpoint codec data = some state) : Intact data := by
      rw [loadCheckpoint] at loaded
      split_ifs at loaded with head first second third
      · obtain ⟨decoded, found, -⟩ := Option.map_eq_some_iff.mp loaded
        exact old (by omega) (by tauto) (by tauto) (.inl ⟨first, by simp [found]⟩)
      · obtain ⟨decoded, found, -⟩ := Option.map_eq_some_iff.mp loaded
        exact old (by omega) (by tauto) (by tauto) (.inr ⟨second, by simp [found]⟩)
      · simp only [not_or, not_not] at third
        exact third.2.symm
    refine ⟨intact, fun files id latest spoiled previous state before loads => ?_⟩
    have passed : loadCheckpoint codec data = none :=
      Option.eq_none_iff_forall_not_mem.mpr fun state loaded => spoiled (intact state loaded)
    simp [CheckpointManager.ofFiles, CheckpointManager.loadLatest, latest, passed, before, loads]

/-- Small numbers as one byte each, and no saved manager. -/
private def smallStates : CheckpointCodec where
  toAllocvec state :=
    match state with
    | ⟨id, committed, time, watermark, none⟩ =>
      if max (max id committed) (max time watermark) < 128 then
        some ([id, committed, time, watermark, 0].map UInt8.ofNat)
      else none
    | _ => none
  fromBytesV1
    | [id, committed, time] => some (id.toNat, committed.toNat, time.toNat)
    | _ => none
  fromBytesV2 _ := none
  fromBytes
    | [id, committed, time, watermark, 0] =>
      some ⟨id.toNat, committed.toNat, time.toNat, watermark.toNat, none⟩
    | _ => none
  roundTrip state bytes encoded := by
    obtain ⟨id, committed, time, watermark, _ | mvcc⟩ := state
    · simp only [Option.ite_none_right_eq_some, Option.some.injEq, max_lt_iff] at encoded
      obtain ⟨⟨⟨_, _⟩, _, _⟩, rfl⟩ := encoded
      simp
      omega
    · cases encoded

/-- A state of the first version with the checksum 0xFF41D912 and another one noted. -/
theorem first_version_unchecked : ¬ Checked smallStates
    [84, 80, 75, 67, 1, 0, 0, 0, 0, 3, 0, 0, 0, 0, 0, 0] := by
  intro checked
  exact absurd (checked.intact ⟨0, 0, 0, 0, none⟩ rfl) (by unfold Intact; decide +kernel)

/-- What a checkpoint writes in front of the bytes of its state. -/
def envelopeHead (payload : Bytes) : Bytes :=
  leBytes 4 0x434B5054 ++ (3 :: (leBytes 4 (crc32 payload) ++ leBytes 4 payload.length))

lemma loadCheckpoint_envelopeHead (short : payload.length < 2 ^ 32)
    (same : found.length = payload.length) :
    loadCheckpoint codec (envelopeHead payload ++ found) =
      if crc32 found = crc32 payload then codec.fromBytes found else none := by
  have fields : envelopeHead payload ++ found = leBytes 4 0x434B5054 ++
      (3 :: (leBytes 4 (crc32 payload) ++ (leBytes 4 payload.length ++ found))) := by
    simp [envelopeHead]
  rw [fields, loadCheckpoint]
  have crc : crc32 payload < 2 ^ 32 := Deltavis.Crc32.checksum_lt _ _ _
  have mod {number : Nat} (small : number < 2 ^ 32) : number % 4294967296 = number :=
    Nat.mod_eq_of_lt small
  have gone {count number : Nat} (past : 4 ≤ count) : (leBytes 4 number).drop count = [] :=
    drop_of_length_le (by simpa)
  have size : 4 + (4 + (4 + payload.length) + 1) = 13 + payload.length := by omega
  simp [drop_append, getElem?_append, gone, readLe_leBytes_append, same, mod crc, mod short, size]

/-- A state that was written is loaded as it was, and other bytes in its place only if
they have its checksum. -/
theorem loadCheckpoint_envelope (codec : CheckpointCodec) (state : CheckpointState)
    (payload found : Bytes)
    (encoded : codec.toAllocvec state = some payload)
    (short : payload.length < 2 ^ 32)
    (same : found.length = payload.length) :
    loadCheckpoint codec (envelopeHead payload ++ payload) = some state ∧
      (crc32 found ≠ crc32 payload →
        loadCheckpoint codec (envelopeHead payload ++ found) = none) := by
  constructor
  · rw [loadCheckpoint_envelopeHead codec short rfl, if_pos rfl]
    exact codec.roundTrip state payload encoded
  · intro altered
    rw [loadCheckpoint_envelopeHead codec short same, if_neg altered]

/-- A state found as it was written, and with another byte for its watermark. -/
theorem loadCheckpoint_envelope_altered :
    loadCheckpoint smallStates (envelopeHead [1, 2, 3, 4, 0] ++ [1, 2, 3, 4, 0]) =
        some ⟨1, 2, 3, 4, none⟩ ∧
      loadCheckpoint smallStates (envelopeHead [1, 2, 3, 4, 0] ++ [1, 2, 3, 5, 0]) = none := by
  obtain ⟨loads, rejects⟩ := loadCheckpoint_envelope smallStates ⟨1, 2, 3, 4, none⟩
    [1, 2, 3, 4, 0] [1, 2, 3, 5, 0] rfl (by decide) rfl
  exact ⟨loads, rejects (by decide +kernel)⟩

end RockDuck
