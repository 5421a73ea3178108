import RockDuck.SegmentStore

/-!
# The primary key index as a map

The index keeps two entries for a key in one column family: one under the
segment, the granule and the key, and a reverse entry under the key alone.
-/

namespace RockDuck

open List

def endOfBuffer : RockDuckError :=
  .codec "Decoding error: Hit the end of buffer, expected more data"

/-- A stored location.  A reverse entry has the key of the other entry besides;
decoding reads as many components as are asked for. -/
structure PkValue where
  position : PositionResult
  idxKey : Option Bytes

def PkValue.decodeLookup (value : PkValue) : Except RockDuckError (PositionResult × Bytes) :=
  match value.idxKey with
  | some key => .ok (value.position, key)
  | none => .error endOfBuffer

def pkLookupKey (pk : Bytes) : Bytes :=
  "pk_lookup:".toUTF8.toList ++ pk

/-- An operation of a batch. -/
inductive KVOp where
  | put (key : Bytes) (value : PkValue)
  | delete (key : Bytes)

/-- The column family of the index, and the segments that are redirected. -/
structure PkIndex where
  family : Std.ExtTreeMap Bytes PkValue
  segAliases : Std.ExtTreeMap String String

namespace PkIndex

def empty : PkIndex where
  family := ∅
  segAliases := ∅

def applyOp (index : PkIndex) : KVOp → PkIndex
  | .put key value => { index with family := index.family.insert key value }
  | .delete key => { index with family := index.family.erase key }

/-- All operations are applied, or none. -/
def writeBatch (index : PkIndex) (ops : List KVOp) (fault : Fault) :
    PkIndex × Except RockDuckError Unit :=
  match fault with
  | some error => (index, .error error)
  | none => (ops.foldl applyOp index, .ok ())

/-- Store both entries of a key. -/
def putPkIndexDouble (index : PkIndex) (_table : String) (pk : Bytes)
    (position : PositionResult) (fault : Fault) : PkIndex × Except RockDuckError Unit :=
  let idxKey := pkIndexKey position.segId position.granuleId pk
  index.writeBatch
    [.put idxKey ⟨position, none⟩, .put (pkLookupKey pk) ⟨position, some idxKey⟩] fault

/-- Delete both entries of a key. -/
def deletePkIndexDouble (index : PkIndex) (_table : String) (pk : Bytes) (segId : String)
    (granuleId : Nat) (indexFault lookupFault : Fault) : PkIndex × Except RockDuckError Unit :=
  andThen (index.writeBatch [.delete (pkIndexKey segId granuleId pk)] indexFault) fun index _ =>
  index.writeBatch [.delete (pkLookupKey pk)] lookupFault

/-- Look a key up.  In a segment that is redirected, the location is that of
the other entry. -/
def getPkIndexByPk (index : PkIndex) (_table : String) (pk : Bytes) :
    Except RockDuckError (Option PositionResult) :=
  match index.family[pkLookupKey pk]? with
  | none => .ok none
  | some value =>
    match value.decodeLookup with
    | .error error => .error error
    | .ok (position, idxKey) =>
      match index.segAliases[position.segId]? with
      | none => .ok (some position)
      | some finalSegId =>
        .ok (index.family[idxKey]?.map fun entry => { entry.position with segId := finalSegId })

end PkIndex

/-- A call that changes the index, with what it meets in the store. -/
inductive PkCall where
  | put (table : String) (pk : Bytes) (position : PositionResult)
      (fault : Fault)
  | delete (table : String) (pk : Bytes) (segId : String) (granuleId : Nat)
      (indexFault lookupFault : Fault)

namespace PkCall

def table : PkCall → String
  | put table .. => table
  | delete table .. => table

def pk : PkCall → Bytes
  | put _ pk .. => pk
  | delete _ pk .. => pk

def leaves : PkCall → Option PositionResult
  | put _ _ position _ => some position
  | delete .. => none

/-- The lookup entry that a call leaves. -/
def entry : PkCall → Option PkValue
  | put _ pk position _ => some ⟨position, some (pkIndexKey position.segId position.granuleId pk)⟩
  | delete .. => none

def succeeds : PkCall → Bool
  | put _ _ _ fault => fault.isNone
  | delete _ _ _ _ indexFault lookupFault => indexFault.isNone && lookupFault.isNone

def perform (index : PkIndex) : PkCall → PkIndex × Except RockDuckError Unit
  | put table pk position fault => index.putPkIndexDouble table pk position fault
  | delete table pk segId granuleId indexFault lookupFault =>
    index.deletePkIndexDouble table pk segId granuleId indexFault lookupFault

end PkCall

namespace PkIndex

def afterCalls (calls : List PkCall) : PkIndex :=
  calls.foldl (fun index call => (call.perform index).1) .empty

/-- The last call that succeeded, of those concerned. -/
def lastCall (concerns : PkCall → Bool) (calls : List PkCall) : Option PkCall :=
  (calls.filter fun call => call.succeeds && concerns call).getLast?

/-- Where the calls have left the key. -/
def located (calls : List PkCall) (table : String) (pk : Bytes) : Option PositionResult :=
  (lastCall (fun call => decide (call.table = table ∧ call.pk = pk)) calls).bind PkCall.leaves

lemma pkLookupKey_injective (same : pkLookupKey first = pkLookupKey second) : first = second :=
  append_cancel_left same

/-- The two kinds of keys differ in their fourth byte. -/
lemma pkIdx_ne_pkLookup (first second) :
    "pk_idx:".toUTF8.toList ++ first ≠ "pk_lookup:".toUTF8.toList ++ second := by
  have idx : "pk_idx:".toUTF8.toList = [112, 107, 95, 105, 100, 120, 58] := by
    decide +kernel
  have lookup : "pk_lookup:".toUTF8.toList = [112, 107, 95, 108, 111, 111, 107, 117, 112, 58] := by
    decide +kernel
  rw [idx, lookup]
  simp

lemma pkIndexKey_ne_pkLookupKey (segId) (granule : Nat)
    (pk other) : pkIndexKey segId granule pk ≠ pkLookupKey other := by
  simp only [pkIndexKey, List.append_assoc]
  exact pkIdx_ne_pkLookup _ other

lemma lookup_perform (idx) (call : PkCall) (pk) : (call.perform idx).1.family[pkLookupKey pk]? =
      if call.succeeds && decide (call.pk = pk) then call.entry
      else idx.family[pkLookupKey pk]? := by
  have ne (segId : String) (granule : Nat) (key : Bytes) : pkIndexKey segId granule key ≠ pkLookupKey pk :=
    pkIndexKey_ne_pkLookupKey segId granule key pk
  have sameKey (key : Bytes) : pkLookupKey key = pkLookupKey pk ↔ key = pk :=
    ⟨pkLookupKey_injective, congrArg pkLookupKey⟩
  cases call with
  | put table key pos fault =>
    cases fault with
    | some error => rfl
    | none =>
      simp only [PkCall.perform, putPkIndexDouble, writeBatch, applyOp, foldl_cons, foldl_nil,
        Std.ExtTreeMap.getElem?_insert, Std.compare_eq_iff_eq, sameKey, ne, if_false,
        PkCall.succeeds, PkCall.pk, PkCall.entry]
      by_cases same : key = pk <;> simp [same]
  | delete table key segId granule indexFault lookupFault =>
    cases indexFault with
    | some error => rfl
    | none =>
      cases lookupFault with
      | some error =>
        simp only [PkCall.perform, deletePkIndexDouble, andThen, writeBatch, applyOp, foldl_cons,
          foldl_nil, Std.ExtTreeMap.getElem?_erase, Std.compare_eq_iff_eq, ne, if_false,
          PkCall.succeeds]
        simp
      | none =>
        simp only [PkCall.perform, deletePkIndexDouble, andThen, writeBatch, applyOp, foldl_cons,
          foldl_nil, Std.ExtTreeMap.getElem?_erase, Std.compare_eq_iff_eq, ne, sameKey, if_false,
          PkCall.succeeds, PkCall.pk, PkCall.entry]
        by_cases same : key = pk <;> simp [same]

lemma lastCall_append (concerns calls call) : lastCall concerns (calls ++ [call]) =
      if call.succeeds && concerns call then some call
      else lastCall concerns calls := by
  unfold lastCall
  rw [filter_append]
  by_cases counts : call.succeeds && concerns call <;> simp [counts]

variable (calls : List PkCall)

lemma lookup_afterCalls (pk) : (afterCalls calls).family[pkLookupKey pk]? =
      (lastCall (fun call => decide (call.pk = pk)) calls).bind PkCall.entry := by
  induction calls using List.reverseRecOn with
  | nil => simp [afterCalls, empty, lastCall]
  | append_singleton calls call ih =>
    have last : afterCalls (calls ++ [call]) = (call.perform (afterCalls calls)).1 := by
      simp [afterCalls]
    rw [last, lookup_perform, lastCall_append, ih]
    split <;> rfl

lemma segAliases_afterCalls : (afterCalls calls).segAliases = ∅ := by
  induction calls using List.reverseRecOn with
  | nil => rfl
  | append_singleton calls call ih =>
    have last : afterCalls (calls ++ [call]) = (call.perform (afterCalls calls)).1 := by
      simp [afterCalls]
    rw [last, ← ih]
    cases call with
    | put table key pos fault => cases fault <;> rfl
    | delete table key segId granule indexFault lookupFault =>
      cases indexFault <;> cases lookupFault <;> rfl

lemma getPkIndexByPk_afterCalls (table pk) : (afterCalls calls).getPkIndexByPk table pk =
      .ok ((lastCall (fun call => decide (call.pk = pk)) calls).bind PkCall.leaves) := by
  unfold getPkIndexByPk
  rw [lookup_afterCalls, segAliases_afterCalls]
  cases lastCall (fun call => decide (call.pk = pk)) calls with
  | none => rfl
  | some call =>
    cases call with
    | put table key pos fault => simp [PkCall.entry, PkCall.leaves, PkValue.decodeLookup]
    | delete table key segId granule indexFault lookupFault => rfl

lemma lastCall_own {calls table pk}
    (own : ∀ call, lastCall (fun call => decide (call.pk = pk)) calls =
      some call → call.table = table) :
    lastCall (fun call => decide (call.table = table ∧ call.pk = pk)) calls =
      lastCall (fun call => decide (call.pk = pk)) calls := by
  induction calls using List.reverseRecOn with
  | nil => rfl
  | append_singleton calls call ih =>
    rw [lastCall_append] at own ⊢
    rw [lastCall_append]
    by_cases counts : call.succeeds && decide (call.pk = pk)
    · rw [if_pos counts] at own ⊢
      have sameTable := own call rfl
      have both : call.succeeds = true ∧ call.pk = pk := by simpa using counts
      rw [if_pos (by simp [sameTable, both])]
    · rw [if_neg counts] at own ⊢
      rw [if_neg, ih own]
      intro ours
      refine counts ?_
      have both : call.succeeds = true ∧ call.table = table ∧ call.pk = pk := by simpa using ours
      simp [both]

/-- The index is a map of tables and keys exactly as far as the last call for a
key is one for the table, or leaves the key where the table's own calls do. -/
theorem getPkIndexByPk_located_iff (calls : List PkCall) (table : String) (pk : Bytes) :
    (afterCalls calls).getPkIndexByPk table pk = .ok (located calls table pk) ↔
      ∀ call, lastCall (fun call => decide (call.pk = pk)) calls = some call →
        call.table = table ∨ call.leaves = located calls table pk := by
  rw [getPkIndexByPk_afterCalls, Except.ok.injEq]
  constructor
  · intro answered call last
    rw [last, Option.bind_some] at answered
    exact .inr answered
  · intro agrees
    cases last : lastCall (fun call => decide (call.pk = pk)) calls with
    | none => rw [located, lastCall_own (by simp [last]), last]
    | some call =>
      rcases agrees call last with sameTable | sameLocation
      · rw [located, lastCall_own (by simp [last, sameTable]), last]
      · exact sameLocation

/-- The key of a table is found at the row of another table. -/
theorem other_table_answers : let calls : List PkCall :=
      [.put "orders" [1] ⟨"seg_1", 0, 0⟩ none,
        .put "users" [1] ⟨"seg_2", 0, 5⟩ none]
    located calls "orders" [1] = some ⟨"seg_1", 0, 0⟩ ∧
      (afterCalls calls).getPkIndexByPk "orders" [1] =
        .ok (some ⟨"seg_2", 0, 5⟩) := by
  decide +kernel

end PkIndex

end RockDuck
