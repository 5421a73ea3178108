import Mathlib

/-!
# Traversals in an unspecified order

A hash table visits its entries in an order its documentation does not fix.
-/

namespace RockDuck

open Std

open Std.ExtTreeMap

/-- An order in which a collection hands out its entries. -/
structure Traversal (Entry : Type*) where
  order : List Entry → List Entry
  perm : ∀ entries, (order entries).Perm entries

namespace Traversal

variable {Entry : Type*}

def asStored : Traversal Entry where
  order entries := entries
  perm entries := List.Perm.refl entries

@[simp]
lemma mem_order (traversal : Traversal Entry) : entry ∈ traversal.order entries ↔ entry ∈ entries :=
  (traversal.perm entries).mem_iff

end Traversal

lemma mem_iff_exists_getElem? {Key Value : Type*} [Ord Key]
    [TransOrd Key] {table : ExtTreeMap Key Value} {key : Key} :
    key ∈ table ↔ ∃ value, table[key]? = some value := by
  rw [← isSome_getElem?_iff_mem, Option.isSome_iff_exists]

lemma getElem?_insertMany_of_perm [Ord Key] [TransOrd Key] [LawfulEqOrd Key]
    (table overlay : ExtTreeMap Key Value) {entries : List (Key × Value)}
    (perm : entries.Perm overlay.toList) (key : Key) :
    (table.insertMany entries)[key]? = overlay[key]?.or table[key]? := by
  classical
  cases found : overlay[key]? with
  | some val =>
    have mem : (key, val) ∈ entries :=
      perm.mem_iff.mpr (ExtTreeMap.mem_toList_iff_getElem?_eq_some.mpr found)
    have distinct := perm.symm.pairwise distinct_keys_toList
      fun ne same => ne (OrientedCmp.eq_symm same)
    rw [getElem?_insertMany_list_of_mem ReflCmp.compare_self distinct mem, Option.some_or]
  | none =>
    have absent : (entries.map Prod.fst).contains key = false := by
      rw [← Bool.not_eq_true, List.contains_iff_mem, (perm.map Prod.fst).mem_iff,
        map_fst_toList_eq_keys, ExtTreeMap.mem_keys, ← isSome_getElem?_iff_mem, found]
      simp
    rw [getElem?_insertMany_list_of_contains_eq_false absent, Option.none_or]

end RockDuck
