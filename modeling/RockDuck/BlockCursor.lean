import Mathlib

/-!
# Reading a sequence of blocks by position

A long sequence is stored as a list of blocks.
-/

namespace RockDuck

open List

variable {Block : Type*}

/-- The block of a position and the place in it. -/
def locate (size : Block → Nat) : List Block → Nat → Option (Block × Nat)
  | [], _ => none
  | block :: blocks, position =>
    if position < size block then some (block, position)
    else locate size blocks (position - size block)

lemma locate_lt {size : Block → Nat} {blocks : List Block} {pos : Nat}
    {block : Block} {inside : Nat} (found : locate size blocks pos = some (block, inside)) :
    block ∈ blocks ∧ inside < size block := by
  induction blocks generalizing pos with
  | nil => simp [locate] at found
  | cons first blocks ih =>
    unfold locate at found
    split at found
    · cases found
      exact ⟨mem_cons_self, ‹_›⟩
    · obtain ⟨mem, bound⟩ := ih found
      exact ⟨mem_cons_of_mem _ mem, bound⟩

lemma locate_bind_getElem? (size : Block → Nat) (items : Block → List Item)
    (sized : ∀ block ∈ blocks, (items block).length = size block) (pos : Nat) :
    ((locate size blocks pos).bind fun found =>
        (items found.1)[found.2]?) = (blocks.flatMap items)[pos]? := by
  induction blocks generalizing pos with
  | nil => simp [locate]
  | cons first blocks ih =>
    have firstSized := sized first mem_cons_self
    have restSized : ∀ block ∈ blocks, (items block).length = size block :=
      fun block mem => sized block (mem_cons_of_mem _ mem)
    rw [flatMap_cons, getElem?_append, firstSized, locate]
    split
    · simp
    · exact ih restSized _

/-- A cursor: the blocks it has not passed, and how many positions it has
passed. -/
structure BlockCursor (Block : Type*) where
  remaining : List Block
  before : Nat

namespace BlockCursor

variable (size : Block → Nat)

def start (blocks : List Block) : BlockCursor Block where
  remaining := blocks
  before := 0

/-- Pass over the blocks that end before a position. -/
def skip (position : Nat) : List Block → Nat → BlockCursor Block
  | [], before => ⟨[], before⟩
  | block :: blocks, before =>
    if before + size block ≤ position then
      skip position blocks (before + size block)
    else ⟨block :: blocks, before⟩

/-- Move on to the block of a position. -/
def advance (cursor : BlockCursor Block) (position : Nat) : BlockCursor Block :=
  skip size position cursor.remaining cursor.before

/-- The cursor finds every later position where it is. -/
def Follows (cursor : BlockCursor Block) (blocks : List Block) (position : Nat) : Prop :=
  cursor.before ≤ position ∧
    ∀ later, position ≤ later →
      locate size blocks later =
        locate size cursor.remaining (later - cursor.before)

lemma follows_start (blocks) (position : Nat) : (start blocks).Follows size blocks position :=
  ⟨Nat.zero_le _, fun _ _ => rfl⟩

variable {size}

variable {cursor : BlockCursor Block}

variable {blocks : List Block} {position : Nat}

lemma Follows.mono (follows : cursor.Follows size blocks position)
    (increases : position ≤ later) : cursor.Follows size blocks later :=
  ⟨follows.1.trans increases, fun last bound => follows.2 last (increases.trans bound)⟩

lemma Follows.advance (follows : cursor.Follows size blocks position) :
    (cursor.advance size position).Follows size blocks position := by
  obtain ⟨rest, before⟩ := cursor
  unfold BlockCursor.advance
  induction rest generalizing before with
  | nil => exact follows
  | cons block rest ih =>
    rw [skip]
    split
    · rename_i passed
      refine ih _ ⟨passed, fun later bound => ?_⟩
      rw [follows.2 later bound]
      have beyond : ¬ later - before < size block := by
        dsimp only at passed
        omega
      rw [locate, if_neg beyond, Nat.sub_sub]
    · exact follows

lemma lt_of_advance_remaining (stands : (cursor.advance size position).remaining = block :: blocks)
    : position < (cursor.advance size position).before + size block := by
  obtain ⟨rest, before⟩ := cursor
  unfold BlockCursor.advance at stands ⊢
  induction rest generalizing before with
  | nil => simp [skip] at stands
  | cons first rest ih =>
    rw [skip] at stands ⊢
    split at stands
    · rename_i passed
      rw [if_pos passed]
      exact ih _ stands
    · rename_i ends
      rw [if_neg ends]
      cases stands
      exact Nat.lt_of_not_le ends

lemma Follows.locate_eq (follows : cursor.Follows size blocks position) :
    locate size blocks position = (cursor.advance size position).remaining.head?.map fun block =>
        (block, position - (cursor.advance size position).before) := by
  have advanced := follows.advance
  rw [advanced.2 position le_rfl]
  cases stands : (cursor.advance size position).remaining with
  | nil => simp [locate]
  | cons block rest =>
    have bound := lt_of_advance_remaining stands
    have reached := advanced.1
    have mem : position - (cursor.advance size position).before < size block := by omega
    simp [locate, mem]

end BlockCursor

end RockDuck
