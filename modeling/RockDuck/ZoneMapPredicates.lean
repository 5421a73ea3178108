import RockDuck.BlockZoneMap
import RockDuck.FilterSemantics
import RockDuck.UnspecifiedOrder

/-!
# Zone map predicates of a filter

The comparisons of a filter become ranges, grouped by column.
-/

namespace RockDuck

open List

/-- A filter whose floating-point constants are given by their bits. -/
abbrev ParsedExpr := Expr UInt64

abbrev ParsedScalar := ScalarVal UInt64

def i64Pattern (value : Int) : Nat :=
  (value % 2 ^ 64).toNat

def textBytes (text : String) : Bytes :=
  text.toUTF8.data.toList

/-- A constant as the zone maps store it. -/
def scalarToBytes : ParsedScalar → Option Bytes
  | .null => none
  | .bool value => some [if value then 1 else 0]
  | .int64 value => some (leBytes 8 (i64Pattern value))
  | .float64 bits => some (leBytes 8 bits.toNat)
  | .string value => some (textBytes value)

/-- The bounds of a comparison.  An absent bound is an empty string of bytes. -/
def predicateRange (op : CompareOp) (val : ParsedScalar) : Option (Bytes × Bytes) := do
  let value ← scalarToBytes val
  match op with
  | .eq => return (value, value)
  | .ge | .gt => return (value, [])
  | .le | .lt => return ([], value)
  | .ne => none

/-- The ranges of a column, any of which may hold. -/
structure ZoneMapOrGroup (Range : Type*) where
  column : String
  ranges : List Range

/-- Groups that must all hold. -/
structure ZoneMapPredicateGroup (Range : Type*) where
  groups : List (ZoneMapOrGroup Range)
  hasCrossColumnOr : Bool

/-- The orders in which hash maps are traversed. -/
abbrev HashOrders := List Bool → Traversal String × Traversal String

def HashOrders.child (orders : HashOrders) (right : Bool) : HashOrders :=
  fun path => orders (right :: path)

section Grouping

variable {Range Target : Type*}

/-- Add a group to that of its column. -/
def addGroup : List (ZoneMapOrGroup Range) → ZoneMapOrGroup Range → List (ZoneMapOrGroup Range)
  | [], added => [added]
  | group :: groups, added =>
    if group.column = added.column then
      { group with ranges := group.ranges ++ added.ranges } :: groups
    else group :: addGroup groups added

def groupColumns (groups : List (ZoneMapOrGroup Range)) : List String :=
  (groups.map ZoneMapOrGroup.column).dedup

/-- The ranges kept for a column when groups are collected into a hash table:
a later group replaces an earlier one. -/
def rangesFor (groups : List (ZoneMapOrGroup Range)) (column : String) : List Range :=
  (groups.reverse.find? fun group => decide (group.column = column)).elim []
    ZoneMapOrGroup.ranges

/-- The columns of both sides, those in common twice. -/
def disjoinGroups (order : Traversal String × Traversal String)
    (left right : List (ZoneMapOrGroup Range)) : List (ZoneMapOrGroup Range) :=
  (order.1.order (groupColumns left) ++ order.2.order (groupColumns right)).filterMap fun column =>
    let ranges := rangesFor left column ++ rangesFor right column
    if ranges.isEmpty then none else some ⟨column, ranges⟩

/-- An `OR` over different columns. -/
def isCrossColumnOr (left right : List (ZoneMapOrGroup Range)) : Bool :=
  !(groupColumns left).any (fun column => decide (column ∈ groupColumns right)) &&
    !(groupColumns left).isEmpty && !(groupColumns right).isEmpty

/-- The groups of a filter. -/
def extractPredicatesGrouped (range : CompareOp → ParsedScalar → Option Range) :
    HashOrders → ParsedExpr → Option (ZoneMapPredicateGroup Range)
  | _, .comparison col op val => (range op val).map fun range => ⟨[⟨col, [range]⟩], false⟩
  | orders, .and left right => do
      let left ← extractPredicatesGrouped range (orders.child false) left
      let right ← extractPredicatesGrouped range (orders.child true) right
      return ⟨right.groups.foldl addGroup left.groups,
        left.hasCrossColumnOr || right.hasCrossColumnOr⟩
  | orders, .or left right => do
      let left ← extractPredicatesGrouped range (orders.child false) left
      let right ← extractPredicatesGrouped range (orders.child true) right
      return ⟨disjoinGroups (orders []) left.groups right.groups,
        isCrossColumnOr left.groups right.groups ||
          left.hasCrossColumnOr || right.hasCrossColumnOr⟩
  | _, .not _ => none

end Grouping

/-- The groups of a filter, with ranges of bytes. -/
def toZoneMapPredicateGroup (orders : HashOrders) (expr : ParsedExpr) :
    Option (ZoneMapPredicateGroup (Bytes × Bytes)) :=
  extractPredicatesGrouped predicateRange orders expr

/-- What a segment finds at the path of the zone map of a column. -/
inductive ZoneMapFile where
  | missing
  | unreadable
  | undecodable
  | decoded (index : GranuleZoneMapIndex)

structure SegmentZoneMaps where
  columns : List String
  zoneMapFile : String → ZoneMapFile

namespace SegmentZoneMaps

/-- The index of a column, if its file can be read. -/
def index? (segment : SegmentZoneMaps) (column : String) : Option GranuleZoneMapIndex :=
  if column ∈ segment.columns then
    match segment.zoneMapFile column with
    | .missing | .unreadable | .undecodable => none
    | .decoded index => some index
  else none

/-- Some range of a group may be in the segment. -/
def evaluateOrGroupForSegment (segment : SegmentZoneMaps)
    (group : ZoneMapOrGroup (Bytes × Bytes)) : Option Bool :=
  match segment.index? group.column with
  | none => some true
  | some index => scanUntil (fun range => index.mayOverlap range.1 range.2) group.ranges

/-- Whether a segment can be left out of a scan, or a panic. -/
def shouldSkipSegmentForZoneMap (segment : SegmentZoneMaps) :
    Option (ZoneMapPredicateGroup (Bytes × Bytes)) → Option Bool
  | none => some false
  | some group =>
    if group.hasCrossColumnOr || group.groups.isEmpty then some false
    else
      (scanUntil segment.evaluateOrGroupForSegment group.groups).map
        fun mayOverlap => !mayOverlap

end SegmentZoneMaps

section Mapping

variable {Range Target : Type*}

def ZoneMapOrGroup.map (f : Range → Target) (group : ZoneMapOrGroup Range) :
    ZoneMapOrGroup Target :=
  ⟨group.column, group.ranges.map f⟩

def ZoneMapPredicateGroup.map (f : Range → Target)
    (group : ZoneMapPredicateGroup Range) : ZoneMapPredicateGroup Target :=
  ⟨group.groups.map (ZoneMapOrGroup.map f), group.hasCrossColumnOr⟩

variable (f : Range → Target) (groups : List (ZoneMapOrGroup Range))

lemma addGroup_map (added : ZoneMapOrGroup Range) :
    addGroup (groups.map (ZoneMapOrGroup.map f)) (added.map f) =
      (addGroup groups added).map (ZoneMapOrGroup.map f) := by
  induction groups with
  | nil => rfl
  | cons group groups ih =>
    simp only [map_cons, addGroup]
    by_cases same : group.column = added.column
    · simp [ZoneMapOrGroup.map, same]
    · have ne : (group.map f).column ≠ (added.map f).column := same
      rw [if_neg ne, if_neg same, ih, map_cons]

lemma foldl_addGroup_map (added groups : List (ZoneMapOrGroup Range)) :
    (added.map (ZoneMapOrGroup.map f)).foldl addGroup (groups.map (ZoneMapOrGroup.map f)) =
      (added.foldl addGroup groups).map (ZoneMapOrGroup.map f) := by
  induction added generalizing groups with
  | nil => rfl
  | cons group added ih => rw [map_cons, foldl_cons, foldl_cons, addGroup_map, ih]

@[simp]
lemma groupColumns_map :
    groupColumns (groups.map (ZoneMapOrGroup.map f)) = groupColumns groups := by
  simp [groupColumns, Function.comp_def, ZoneMapOrGroup.map]

lemma rangesFor_map (col) :
    rangesFor (groups.map (ZoneMapOrGroup.map f)) col = (rangesFor groups col).map f := by
  rw [rangesFor, ← map_reverse, find?_map, rangesFor]
  change (Option.map (ZoneMapOrGroup.map f) (groups.reverse.find? fun group =>
    decide (group.column = col))).elim [] ZoneMapOrGroup.ranges = _
  cases groups.reverse.find? fun group => decide (group.column = col) <;> rfl

lemma disjoinGroups_map (order) (left right : List (ZoneMapOrGroup Range)) :
    disjoinGroups order (left.map (ZoneMapOrGroup.map f)) (right.map (ZoneMapOrGroup.map f)) =
      (disjoinGroups order left right).map (ZoneMapOrGroup.map f) := by
  simp only [disjoinGroups, groupColumns_map, rangesFor_map, map_filterMap]
  congr 1
  funext col
  rw [← map_append, isEmpty_map]
  split <;> rfl

lemma extractPredicatesGrouped_map (range orders expr) :
    extractPredicatesGrouped (fun op val => (range op val).map f) orders expr =
      (extractPredicatesGrouped range orders expr).map (ZoneMapPredicateGroup.map f) := by
  induction expr generalizing orders with
  | comparison col op val =>
    cases found : range op val <;>
      simp [extractPredicatesGrouped, found, ZoneMapPredicateGroup.map, ZoneMapOrGroup.map]
  | and left right leftIh rightIh | or left right leftIh rightIh =>
    rw [extractPredicatesGrouped, leftIh, rightIh, extractPredicatesGrouped]
    cases extractPredicatesGrouped range (orders.child false) left with
    | none => rfl
    | some left =>
      cases extractPredicatesGrouped range (orders.child true) right with
      | none => rfl
      | some right =>
        simp [ZoneMapPredicateGroup.map, foldl_addGroup_map, disjoinGroups_map, isCrossColumnOr]
  | not inner => rfl

end Mapping

section Members

variable {Range : Type*} {range : CompareOp → ParsedScalar → Option Range}
    {groups right : List (ZoneMapOrGroup Range)} {column : String} {member : Range}

/-- The range is in a group of the column. -/
def HasRange (groups : List (ZoneMapOrGroup Range)) (column : String) (member : Range) : Prop :=
  ∃ group ∈ groups, group.column = column ∧ member ∈ group.ranges

structure Covers (groups : List (ZoneMapOrGroup Range)) (column : String)
    (member : Range) : Prop where
  present : ∃ group ∈ groups, group.column = column
  each : ∀ group ∈ groups, group.column = column → member ∈ group.ranges

lemma Covers.hasRange (covers : Covers groups column member) : HasRange groups column member := by
  obtain ⟨group, mem, same⟩ := covers.present
  exact ⟨group, mem, same, covers.each group mem same⟩

variable {added group : ZoneMapOrGroup Range}

lemma addGroup_hasRange (has : HasRange (addGroup groups added) column member) :
    HasRange (added :: groups) column member := by
  induction groups with
  | nil => exact has
  | cons group groups ih =>
    obtain ⟨found, among, same, inRanges⟩ := has
    rw [addGroup] at among
    split at among
    case isTrue together =>
        rcases mem_cons.mp among with rfl | among
        · rcases mem_append.mp inRanges with old | later
          · exact ⟨group, by simp, same, old⟩
          · exact ⟨added, by simp, together ▸ same, later⟩
        · exact ⟨found, by simp [among], same, inRanges⟩
    case isFalse ne =>
        rcases mem_cons.mp among with rfl | among
        · exact ⟨found, by simp, same, inRanges⟩
        · obtain ⟨other, amongOthers, otherSame, otherRanges⟩ := ih ⟨found, among, same, inRanges⟩
          refine ⟨other, ?_, otherSame, otherRanges⟩
          rcases mem_cons.mp amongOthers with rfl | amongOthers <;>
            simp [*]

lemma foldl_addGroup_hasRange (has : HasRange (right.foldl addGroup left) column member) :
    HasRange left column member ∨ HasRange right column member := by
  induction right generalizing left with
  | nil => exact Or.inl has
  | cons added right ih =>
    rcases ih has with old | later
    · obtain ⟨group, among, same, inRanges⟩ := addGroup_hasRange old
      rcases mem_cons.mp among with rfl | among
      · exact Or.inr ⟨group, by simp, same, inRanges⟩
      · exact Or.inl ⟨group, among, same, inRanges⟩
    · obtain ⟨group, among, same, inRanges⟩ := later
      exact Or.inr ⟨group, by simp [among], same, inRanges⟩

lemma hasRange_of_mem_rangesFor (found : member ∈ rangesFor groups column) :
    HasRange groups column member := by
  unfold rangesFor at found
  cases first : groups.reverse.find? fun group => decide (group.column = column) with
  | none => simp [first] at found
  | some group =>
    rw [first] at found
    have among := mem_of_find?_eq_some first
    have same := find?_some first
    exact ⟨group, by simpa using among, by simpa using same, found⟩

lemma ranges_of_mem_disjoinGroups (mem : group ∈ disjoinGroups order left right) :
    group.ranges = rangesFor left group.column ++ rangesFor right group.column := by
  obtain ⟨key, _, made⟩ := mem_filterMap.mp mem
  dsimp only at made
  split at made
  · simp at made
  · cases made
    rfl

lemma disjoinGroups_hasRange (has : HasRange (disjoinGroups order left right) column member) :
    HasRange left column member ∨ HasRange right column member := by
  obtain ⟨group, mem, same, inRanges⟩ := has
  rw [ranges_of_mem_disjoinGroups mem, same] at inRanges
  exact (mem_append.mp inRanges).imp hasRange_of_mem_rangesFor hasRange_of_mem_rangesFor

lemma exists_of_bind_bind {first : Option A} {second : Option B} {combine : A → B → C}
    (made : (do return combine (← first) (← second)) = some whole) :
    ∃ left, first = some left ∧ ∃ right, second = some right ∧ combine left right = whole := by
  simpa [Option.bind_eq_some_iff] using made

lemma exists_comparison_of_hasRange {orders expr group}
    (made : extractPredicatesGrouped range orders expr = some group)
    (has : HasRange group.groups column member) :
    ∃ op val, .comparison column op val ∈ expr.subexpressions ∧ range op val = some member := by
  induction expr generalizing orders group with
  | comparison col op val =>
    obtain ⟨single, found, rfl⟩ := Option.map_eq_some_iff.mp made
    obtain ⟨only, mem, rfl, inRanges⟩ := has
    simp only [mem_singleton] at mem
    subst mem
    simp only [mem_singleton] at inRanges
    subst inRanges
    exact ⟨op, val, by simp [Expr.subexpressions], found⟩
  | and left right leftIh rightIh | or left right leftIh rightIh =>
    obtain ⟨leftGroup, leftFound, rightGroup, rightFound, rfl⟩ := exists_of_bind_bind made
    have part : HasRange leftGroup.groups column member ∨ HasRange rightGroup.groups column member := by
      first
      | exact foldl_addGroup_hasRange has
      | exact disjoinGroups_hasRange has
    rcases part with inLeft | inRight
    · obtain ⟨op, val, sub, found⟩ := leftIh leftFound inLeft
      exact ⟨op, val, by simp [Expr.subexpressions, sub], found⟩
    · obtain ⟨op, val, sub, found⟩ := rightIh rightFound inRight
      exact ⟨op, val, by simp [Expr.subexpressions, sub], found⟩
  | not inner => simp [extractPredicatesGrouped] at made

lemma mem_addGroup (among : group ∈ addGroup groups added) :
    (∃ old ∈ groups, old.column = group.column ∧ ∀ range ∈ old.ranges, range ∈ group.ranges) ∨
      (group = added ∧ ∀ old ∈ groups, old.column ≠ added.column) := by
  induction groups with
  | nil => exact Or.inr ⟨by simpa [addGroup] using among, by simp⟩
  | cons first groups ih =>
    rw [addGroup] at among
    split at among
    case isTrue together =>
        rcases mem_cons.mp among with rfl | among
        · exact Or.inl ⟨first, by simp, rfl, by simp +contextual⟩
        · exact Or.inl ⟨group, by simp [among], rfl, fun _ inRanges => inRanges⟩
    case isFalse ne =>
        rcases mem_cons.mp among with rfl | among
        · exact Or.inl ⟨group, by simp, rfl, fun _ inRanges => inRanges⟩
        · rcases ih among with ⟨old, amongOld, same, kept⟩ | ⟨rfl, fresh⟩
          · exact Or.inl ⟨old, by simp [amongOld], same, kept⟩
          · exact Or.inr ⟨rfl, by simpa [ne] using fresh⟩

lemma exists_mem_addGroup (among : old ∈ groups) (added) :
    ∃ group ∈ addGroup groups added, group.column = old.column := by
  induction groups with
  | nil => simp at among
  | cons first groups ih =>
    rw [addGroup]
    split
    · rcases mem_cons.mp among with rfl | among
      · exact ⟨_, mem_cons_self, rfl⟩
      · exact ⟨old, mem_cons_of_mem _ among, rfl⟩
    · rcases mem_cons.mp among with rfl | among
      · exact ⟨old, mem_cons_self, rfl⟩
      · obtain ⟨group, amongRest, same⟩ := ih among
        exact ⟨group, mem_cons_of_mem _ amongRest, same⟩

lemma foldl_addGroup_covers (covers : Covers left column member)
    (right : List (ZoneMapOrGroup Range)) : Covers (right.foldl addGroup left) column member := by
  induction right generalizing left with
  | nil => exact covers
  | cons added right ih =>
    apply ih
    obtain ⟨old, mem, rfl⟩ := covers.present
    refine ⟨exists_mem_addGroup mem added, ?_⟩
    intro group amongNew same
    rcases mem_addGroup amongNew with ⟨earlier, amongOld, before, kept⟩ | ⟨rfl, fresh⟩
    · exact kept member (covers.each earlier amongOld (before.trans same))
    · exact absurd same.symm (fresh old mem)

lemma Covers.mem_rangesFor (covers : Covers groups column member) :
    member ∈ rangesFor groups column := by
  obtain ⟨group, mem, same⟩ := covers.present
  unfold rangesFor
  cases first : groups.reverse.find? fun group => decide (group.column = column) with
  | none =>
    rw [find?_eq_none] at first
    exact absurd (decide_eq_true same) (first group (by simpa using mem))
  | some last =>
    have amongLast := mem_of_find?_eq_some first
    have sameLast := find?_some first
    exact covers.each last (by simpa using amongLast) (by simpa using sameLast)

lemma Covers.mem_groupColumns (covers : Covers groups column member) :
    column ∈ groupColumns groups := by
  obtain ⟨group, mem, rfl⟩ := covers.present
  simp only [groupColumns, mem_dedup]
  exact mem_map_of_mem mem

lemma disjoinGroups_covers (listed : column ∈ groupColumns left ∨ column ∈ groupColumns right)
    (kept : member ∈ rangesFor left column ∨ member ∈ rangesFor right column) :
    Covers (disjoinGroups order left right) column member := by
  have both : member ∈ rangesFor left column ++ rangesFor right column := mem_append.mpr kept
  have ne : (rangesFor left column ++ rangesFor right column).isEmpty = false := by
    rw [isEmpty_eq_false_iff]
    exact ne_nil_of_mem both
  constructor
  · refine ⟨⟨column, rangesFor left column ++ rangesFor right column⟩, ?_, rfl⟩
    refine mem_filterMap.mpr ⟨column, ?_, by simp [ne]⟩
    simpa using listed
  · intro group mem same
    rwa [ranges_of_mem_disjoinGroups mem, same]

end Members

lemma exists_covers_of_satisfied {Range Column : Type*}
    {range : CompareOp → ParsedScalar → Option Range}
    {kernels : ArrowKernels Column UInt64} {batch : FilterBatch kernels}
    {row : Nat} {orders : HashOrders} {expr : ParsedExpr} {group : ZoneMapPredicateGroup Range}
    (made : extractPredicatesGrouped range orders expr = some group)
    (satisfied : expr.sqlValue batch row = some true) : ∃ column op val member,
      (Expr.comparison column op val).sqlValue batch row = some true ∧
      range op val = some member ∧ Covers group.groups column member := by
  induction expr generalizing orders group with
  | comparison col op val =>
    obtain ⟨single, found, rfl⟩ := Option.map_eq_some_iff.mp made
    exact ⟨col, op, val, single, satisfied, found, by simp, by simp⟩
  | and left right leftIh rightIh =>
    obtain ⟨leftGroup, leftFound, rightGroup, rightFound, rfl⟩ := exists_of_bind_bind made
    have leftTrue : left.sqlValue batch row = some true :=
      ((ThreeValued.and_eq_true_iff _ _).mp satisfied).1
    obtain ⟨column, op, val, member, holds, found, covers⟩ := leftIh leftFound leftTrue
    exact ⟨column, op, val, member, holds, found, foldl_addGroup_covers covers _⟩
  | or left right leftIh rightIh =>
    obtain ⟨leftGroup, leftFound, rightGroup, rightFound, rfl⟩ := exists_of_bind_bind made
    have either : left.sqlValue batch row = some true ∨
        right.sqlValue batch row = some true :=
      (ThreeValued.or_eq_true_iff _ _).mp satisfied
    rcases either with leftTrue | rightTrue
    · obtain ⟨column, op, val, member, holds, found, covers⟩ := leftIh leftFound leftTrue
      exact ⟨column, op, val, member, holds, found, disjoinGroups_covers (Or.inl
        covers.mem_groupColumns) (Or.inl covers.mem_rangesFor)⟩
    · obtain ⟨column, op, val, member, holds, found, covers⟩ := rightIh rightFound rightTrue
      exact ⟨column, op, val, member, holds, found, disjoinGroups_covers (Or.inr
        covers.mem_groupColumns) (Or.inr covers.mem_rangesFor)⟩
  | not inner => simp [extractPredicatesGrouped] at made

end RockDuck
