import RockDuck.GuardStore

/-!
# Statistics of a guard

The counters that a guard keeps beside the bounds of its transactions.
-/

namespace RockDuck

open List

/-- The statistics of a guard. -/
structure GuardStatistics extends GuardZoneMap where
  patchCount : Nat
  totalAffected : Nat

namespace GuardStatistics

def empty : GuardStatistics := ⟨.empty, 0, 0⟩

/-- The statistics after a patch. -/
def update (statistics : GuardStatistics) (patch : PatchZoneMap) (patchCount : Nat) :
    GuardStatistics :=
  ⟨statistics.toGuardZoneMap.update patch, patchCount,
    (statistics.totalAffected + patch.affectedRows) % 2 ^ 64⟩

/-- The rows of the patch are passed as the number of patches. -/
def updateGuardZoneMap (statistics : GuardStatistics) (patch : PatchZoneMap) : GuardStatistics :=
  statistics.update patch patch.affectedRows

def ofPatches (patches : List PatchZoneMap) : GuardStatistics :=
  patches.foldl updateGuardZoneMap empty

/-- The statistics are those of the patches. -/
structure Summarises (statistics : GuardStatistics) (patches : List PatchZoneMap) : Prop where
  minTxn_mem : patches ≠ [] → ∃ patch ∈ patches, patch.minTxn = statistics.minTxn
  minTxn_le : ∀ patch ∈ patches, statistics.minTxn ≤ patch.minTxn
  maxTxn_mem : patches ≠ [] → ∃ patch ∈ patches, patch.maxTxn = statistics.maxTxn
  le_maxTxn : ∀ patch ∈ patches, patch.maxTxn ≤ statistics.maxTxn
  patchCount : statistics.patchCount = patches.length
  totalAffected : statistics.totalAffected = (patches.map PatchZoneMap.affectedRows).sum

lemma ofPatches_concat (patches last) : ofPatches (patches ++ [last]) =
    ⟨(ofPatches patches).toGuardZoneMap.update last, last.affectedRows,
      ((ofPatches patches).totalAffected + last.affectedRows) % 2 ^ 64⟩ :=
  foldl_concat ..

lemma ofPatches_bounds (patches : List PatchZoneMap) : let made := ofPatches patches
    (patches ≠ [] → (∃ patch ∈ patches, patch.minTxn = made.minTxn) ∧
      ∃ patch ∈ patches, patch.maxTxn = made.maxTxn) ∧
    (∀ patch ∈ patches, patch.maxTxn ≤ made.maxTxn) ∧
    ((∀ patch ∈ patches, patch.minTxn ≠ 0) → ∀ patch ∈ patches, made.minTxn ≤ patch.minTxn) ∧
    made.totalAffected = (patches.map PatchZoneMap.affectedRows).sum % 2 ^ 64 := by
  induction patches using reverseRecOn with
  | nil => simp [ofPatches, empty]
  | append_singleton patches last ih =>
    rw [ofPatches_concat]
    simp only [GuardZoneMap.update, mem_append, mem_singleton, map_append, sum_append] at *
    by_cases first : patches = []
    · simp [first, ofPatches, empty, GuardZoneMap.empty]
    · obtain ⟨attained, le, least, total⟩ := ih
      obtain ⟨⟨low, lowMem, lowEq⟩, high, highMem, highEq⟩ := attained first
      refine ⟨fun _ => ⟨?_, ?_⟩, ?_, ?_, by simp [total]⟩ <;> grind

lemma minTxn_le_iff (patches last) :
    (∀ patch ∈ patches ++ [last], (ofPatches (patches ++ [last])).minTxn ≤ patch.minTxn) ↔
      last.minTxn = 0 ∨ ∀ patch ∈ patches ++ [last], patch.minTxn ≠ 0 := by
  have least := (ofPatches_bounds (patches ++ [last])).2.2.1
  have made : (ofPatches (patches ++ [last])).minTxn =
      if (ofPatches patches).minTxn = 0 ∨ last.minTxn < (ofPatches patches).minTxn then last.minTxn
      else (ofPatches patches).minTxn := by
    rw [ofPatches_concat]
    rfl
  constructor
  · intro le
    refine or_iff_not_imp_left.mpr fun nonzero patch mem zero => ?_
    have := le patch mem
    grind
  · rintro (zero | nonzero)
    · grind
    · exact least nonzero

/-- The counts are those of the last patch, and a patch from transaction zero
is forgotten when another follows. -/
theorem summarises_ofPatches_iff (patches : List PatchZoneMap) :
    (ofPatches patches).Summarises patches ↔ ∀ last ∈ patches.getLast?,
      last.affectedRows = patches.length ∧ (patches.map PatchZoneMap.affectedRows).sum < 2 ^ 64 ∧
        (last.minTxn = 0 ∨ ∀ patch ∈ patches, patch.minTxn ≠ 0) := by
  obtain ⟨attained, le, -, total⟩ := ofPatches_bounds patches
  obtain rfl | ⟨others, last, rfl⟩ := eq_nil_or_concat patches
  · exact iff_of_true ⟨by simp, by simp, by simp, by simp, rfl, rfl⟩ (by simp)
  rw [concat_eq_append] at attained le total ⊢
  have count : (ofPatches (others ++ [last])).patchCount = last.affectedRows := by
    rw [ofPatches_concat]
  simp only [getLast?_concat, Option.mem_some_iff, forall_eq', ← minTxn_le_iff, ← count]
  exact ⟨fun summary => ⟨summary.patchCount, summary.totalAffected ▸ total ▸ Nat.mod_lt _ (by simp),
    summary.minTxn_le⟩, fun ⟨counted, fits, least⟩ => ⟨fun ne => (attained ne).1, least,
      fun ne => (attained ne).2, le, counted, total.trans (Nat.mod_eq_of_lt fits)⟩⟩

theorem transaction_zero_forgotten : ¬ (ofPatches [⟨0, 0, 1⟩, ⟨1, 1, 2⟩]).Summarises
    [⟨0, 0, 1⟩, ⟨1, 1, 2⟩] :=
  fun summary => absurd (summary.minTxn_le ⟨0, 0, 1⟩ (by simp)) (by decide)

end GuardStatistics

end RockDuck
