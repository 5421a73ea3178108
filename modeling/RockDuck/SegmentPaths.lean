import RockDuck.StorageErrors

/-!
# Directories of segments

A path is the list of the names on it, as far as they name anything.  Paths are those of Unix,
where a text has no drive letter.
-/

namespace RockDuck

open List

abbrev PathNames := List (List Char)

/-- Empty names and dots do not count. -/
def pathNames (text : List Char) : PathNames :=
  (text.splitOn '/').filter fun name => decide (name ≠ [] ∧ name ≠ ['.'])

/-- A text that starts with a slash replaces what it is joined to. -/
def PathNames.join (path : PathNames) (text : List Char) : PathNames :=
  if text.head? = some '/' then pathNames text else path ++ pathNames text

def segmentsDir (dataDir : PathNames) : PathNames :=
  dataDir.join "segments".toList

/-- The directory of a segment. -/
def segDir (dataDir : PathNames) (segId : List Char) : PathNames :=
  (segmentsDir dataDir).join segId

/-- The check of a segment id. -/
def validateSegId (segId : List Char) (dataDir : PathNames) : Except RockDuckError Unit :=
  let shown := String.ofList segId
  if '/' ∈ segId ∨ '\\' ∈ segId ∨ ['.', '.'] <:+: segId then
    .error (.security s!"invalid seg_id: contains path traversal: {shown}")
  else if ¬ dataDir <+: segDir dataDir segId then
    .error (.security s!"path traversal detected in seg_id: {shown}")
  else .ok ()

/-- The segment has a directory of its own, which the other one does not share. -/
def HasOwnDir (dataDir : PathNames) (segId other : List Char) : Prop :=
  (∃ name, segDir dataDir segId = segmentsDir dataDir ++ [name]) ∧
    (segId ≠ other → segDir dataDir segId ≠ segDir dataDir other)

lemma segDir_of_valid (valid : validateSegId segId dataDir = .ok ()) : segDir dataDir segId =
    if segId ≠ [] ∧ segId ≠ ['.'] then segmentsDir dataDir ++ [segId] else segmentsDir dataDir := by
  have noSlash : '/' ∉ segId := by
    intro slash
    simp [validateSegId, slash] at valid
  have single : segId.splitOn '/' = [segId] :=
    splitOnP_eq_singleton fun character mem => by simpa using ne_of_mem_of_not_mem mem noSlash
  have relative : segId.head? ≠ some '/' := fun slash => noSlash (mem_of_mem_head? slash)
  rw [segDir, PathNames.join, if_neg relative, pathNames, single]
  split
  · rename_i named
    rw [filter_cons_of_pos (by simpa using named), filter_nil]
  · rename_i unnamed
    rw [filter_cons_of_neg (by simpa using unnamed), filter_nil, append_nil]

/-- The ids of no characters and of one dot name the directory of all segments. -/
theorem validateSegId_separates_iff (dataDir : PathNames) (segId other : List Char) :
    (validateSegId segId dataDir = .ok () → validateSegId other dataDir = .ok () →
        HasOwnDir dataDir segId other) ↔
      (validateSegId segId dataDir = .ok () → validateSegId other dataDir = .ok () →
        segId ≠ [] ∧ segId ≠ ['.']) := by
  refine forall_congr' fun valid => forall_congr' fun otherValid => ?_
  rw [HasOwnDir, segDir_of_valid valid, segDir_of_valid otherValid]
  split
  · rename_i named
    refine iff_of_true ⟨⟨segId, rfl⟩, fun differ => ?_⟩ named
    split <;> simp [differ]
  · rename_i unnamed
    simp [unnamed]

theorem dot_removes_segments : ¬ (validateSegId ['.'] [] = .ok () →
    validateSegId ['a'] [] = .ok () → HasOwnDir [] ['.'] ['a']) := by
  intro separated
  obtain ⟨⟨name, own⟩, -⟩ := separated (by decide +kernel) (by decide +kernel)
  have shared : segDir [] ['.'] = segmentsDir [] := by decide +kernel
  simp [shared] at own

/-- An accepted id names the directory of all segments or one name in it, which is not the
parent's, and the check of the path rejects none. -/
theorem validateSegId_confines (dataDir : PathNames) (segId : List Char) :
    (validateSegId segId dataDir = .ok () ↔
      '/' ∉ segId ∧ '\\' ∉ segId ∧ ¬ ['.', '.'] <:+: segId) ∧
    (validateSegId segId dataDir = .ok () →
      segDir dataDir segId = segmentsDir dataDir ∨
        ∃ name, segDir dataDir segId = segmentsDir dataDir ++ [name] ∧
          '/' ∉ name ∧ name ≠ ['.', '.'] ∧ name ≠ ['.']) := by
  have inside : '/' ∉ segId → segmentsDir dataDir <+: segDir dataDir segId := by
    intro plain
    have relative : segId.head? ≠ some '/' := fun slash => plain (mem_of_mem_head? slash)
    rw [segDir, PathNames.join, if_neg relative]
    exact prefix_append ..
  have below : dataDir <+: segmentsDir dataDir := prefix_append ..
  have accepted : validateSegId segId dataDir = .ok () ↔
      '/' ∉ segId ∧ '\\' ∉ segId ∧ ¬ ['.', '.'] <:+: segId := by
    simp only [validateSegId]
    grind [IsPrefix.trans]
  refine ⟨accepted, fun valid => ?_⟩
  obtain ⟨plain, -, noParent⟩ := accepted.mp valid
  rw [segDir_of_valid valid]
  split
  · next named =>
      refine .inr ⟨segId, rfl, plain, ?_, named.2⟩
      rintro rfl
      exact noParent (infix_refl _)
  · exact .inl rfl

end RockDuck
