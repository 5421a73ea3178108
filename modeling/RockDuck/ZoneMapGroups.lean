import RockDuck.SegmentPruning
import RockDuck.ZoneMapOrders

/-!
# What the groups of a filter say about a row

The groups of a filter are documented to be conditions that a matching row
meets all together, and a row meets a group when its value lies in one of the
ranges.
-/

namespace RockDuck

open List

namespace Expr

/-- The filter names the column. -/
def names (column : String) : ParsedExpr → Bool
  | comparison col _ _ => decide (col = column)
  | and left right | or left right => left.names column || right.names column
  | not inner => inner.names column

/-- A filter whose first operand is a disjunction that names the column on both
sides.  Such a column has two groups. -/
def leadsTwice (column : String) : ParsedExpr → Bool
  | comparison _ _ _ | not _ => false
  | and left _ => left.leadsTwice column
  | or left right => left.names column && right.names column

section Counted

variable {Range : Type*} (range : CompareOp → ParsedScalar → Option Range)

/-- The ranges of a column that are counted. -/
def countedRanges (column : String) (anyGroup : Bool) : ParsedExpr → List Range
  | comparison col op val =>
    if col = column then (range op val).toList else []
  | and left right =>
    if anyGroup || !left.leadsTwice column then
      left.countedRanges column true ++ right.countedRanges column true
    else left.countedRanges column false
  | or left right => left.countedRanges column false ++ right.countedRanges column false
  | not _ => []

variable {range}

variable {expr : ParsedExpr}

lemma countedRanges_of_not_names (absent : expr.names column = false) (anyGroup : Bool) :
    expr.countedRanges range column anyGroup = [] := by
  induction expr generalizing anyGroup with
  | comparison col op val =>
    have other : col ≠ column := by simpa [names] using absent
    simp [countedRanges, other]
  | and left right leftIh rightIh | or left right leftIh rightIh =>
    simp only [names, Bool.or_eq_false_iff] at absent
    simp [countedRanges, leftIh absent.1, rightIh absent.2]
  | not inner => rfl

lemma names_of_leadsTwice (twice : expr.leadsTwice column = true) : expr.names column = true := by
  induction expr with
  | comparison col op val => simp [leadsTwice] at twice
  | and left right leftIh => simp [names, leftIh twice]
  | or left right => simp_all [leadsTwice, names]
  | not inner => simp [leadsTwice] at twice

end Counted

end Expr

section ColumnGroups

variable {Range : Type*} (range : CompareOp → ParsedScalar → Option Range)

/-- The groups that a filter makes for a column: none, one, or two of which the
second has fewer ranges. -/
structure ColumnGroups (expr : ParsedExpr) (column : String)
    (own : List (ZoneMapOrGroup Range)) : Prop where
  absent : expr.names column = false → own = []
  single : expr.names column = true → expr.leadsTwice column = false →
    ∃ group, own = [group] ∧ ∀ member,
      (member ∈ group.ranges ↔ member ∈ expr.countedRanges range column false) ∧
      (member ∈ group.ranges ↔ member ∈ expr.countedRanges range column true)
  double : expr.leadsTwice column = true →
    ∃ first second, own = [first, second] ∧ ∀ member,
      (member ∈ second.ranges ↔ member ∈ expr.countedRanges range column false) ∧
      (member ∈ second.ranges → member ∈ first.ranges) ∧
      (member ∈ first.ranges ↔ member ∈ expr.countedRanges range column true)

variable {range} {expr left : ParsedExpr} {column : String}
    {own rightOwn : List (ZoneMapOrGroup Range)}

section

variable (groups : ColumnGroups range expr column own)
include groups

lemma ColumnGroups.cases : (expr.names column = false ∧ expr.leadsTwice column = false ∧ own = []) ∨
    (expr.names column = true ∧ expr.leadsTwice column = false ∧ ∃ group, own = [group] ∧ ∀ mem,
        (mem ∈ group.ranges ↔ mem ∈ expr.countedRanges range column false) ∧
        (mem ∈ group.ranges ↔ mem ∈ expr.countedRanges range column true)) ∨
    (expr.names column = true ∧ expr.leadsTwice column = true ∧
      ∃ first second, own = [first, second] ∧ ∀ mem, (mem ∈ second.ranges ↔
          mem ∈ expr.countedRanges range column false) ∧
        (mem ∈ second.ranges → mem ∈ first.ranges) ∧ (mem ∈ first.ranges ↔
          mem ∈ expr.countedRanges range column true)) := by
  cases named : expr.names column with
  | false =>
    cases twice : expr.leadsTwice column with
    | false => exact Or.inl ⟨rfl, rfl, groups.absent named⟩
    | true => simp [Expr.names_of_leadsTwice twice] at named
  | true =>
    cases twice : expr.leadsTwice column with
    | false => exact Or.inr (Or.inl ⟨rfl, rfl, groups.single named twice⟩)
    | true => exact Or.inr (Or.inr ⟨rfl, rfl, groups.double twice⟩)

lemma ColumnGroups.mem_flatMap_iff (mem) : mem ∈ own.flatMap ZoneMapOrGroup.ranges ↔
      mem ∈ expr.countedRanges range column true := by
  rcases groups.cases with ⟨absent, -, rfl⟩ | ⟨-, -, group, rfl, same⟩ |
    ⟨-, -, first, second, rfl, same⟩
  · simp [Expr.countedRanges_of_not_names absent]
  · simpa using (same mem).2
  · obtain ⟨-, sub, joined⟩ := same mem
    simp only [flatMap_cons, flatMap_nil, append_nil, mem_append, ← joined]
    tauto

lemma ColumnGroups.mem_getLast_iff (mem) : mem ∈ own.getLast?.elim [] ZoneMapOrGroup.ranges ↔
      mem ∈ expr.countedRanges range column false := by
  rcases groups.cases with ⟨absent, -, rfl⟩ | ⟨-, -, group, rfl, same⟩ |
    ⟨-, -, first, second, rfl, same⟩
  · simp [Expr.countedRanges_of_not_names absent]
  · exact (same mem).1
  · exact (same mem).1

lemma ColumnGroups.mem_of_counted (mem : part ∈ own)
    (count : member ∈ expr.countedRanges range column false) : member ∈ part.ranges := by
  rcases groups.cases with ⟨-, -, rfl⟩ | ⟨-, -, group, rfl, same⟩ | ⟨-, -, first, second, rfl, same⟩
  · simp at mem
  · obtain rfl := mem_singleton.mp mem
    exact (same member).1.mpr count
  · have inSecond := (same member).1.mpr count
    simp only [mem_cons, not_mem_nil, or_false] at mem
    rcases mem with rfl | rfl
    · exact (same member).2.1 inSecond
    · exact inSecond

lemma ColumnGroups.names_iff : expr.names column = true ↔ own ≠ [] := by
  rcases groups.cases with ⟨absent, -, rfl⟩ | ⟨named, -, group, rfl, -⟩ |
    ⟨named, -, first, second, rfl, -⟩
  · simp [absent]
  · simp [named]
  · simp [named]

end

lemma foldl_addGroup_of_column {first : ZoneMapOrGroup Range}
    {rest added : List (ZoneMapOrGroup Range)}
    (same : ∀ group ∈ added, group.column = first.column) : added.foldl addGroup (first :: rest) =
      ⟨first.column, first.ranges ++ added.flatMap ZoneMapOrGroup.ranges⟩ :: rest := by
  induction added generalizing first with
  | nil => simp
  | cons group added ih =>
    have column := same group mem_cons_self
    rw [foldl_cons, addGroup, if_pos column.symm, ih]
    · simp
    · intro other mem
      exact same other (mem_cons_of_mem _ mem)

lemma ColumnGroups.and (leftGroups : ColumnGroups range left column leftOwn)
    (rightGroups : ColumnGroups range right column rightOwn)
    (leftColumn : ∀ group ∈ leftOwn, group.column = column)
    (rightColumn : ∀ group ∈ rightOwn, group.column = column) :
    ColumnGroups range (left.and right) column (rightOwn.foldl addGroup leftOwn) := by
  have rightRanges := rightGroups.mem_flatMap_iff
  rcases leftGroups.cases with ⟨absent, once, rfl⟩ |
    ⟨named, once, group, rfl, same⟩ | ⟨named, twice, first, second, rfl, same⟩
  · -- the groups of the right side become one
    have count (member : Range) :
        member ∈ (left.and right).countedRanges range column false ↔
          member ∈ (left.and right).countedRanges range column true := by
      simp [Expr.countedRanges, once]
    have noRanges : left.countedRanges range column true = [] :=
      Expr.countedRanges_of_not_names absent true
    cases rightOwn with
    | nil =>
      have rightAbsent : right.names column = false := by simpa using rightGroups.names_iff
      constructor
      · simp
      · simp [Expr.names, absent, rightAbsent]
      · simp [Expr.leadsTwice, once]
    | cons group rest =>
      have rightNamed : right.names column = true := rightGroups.names_iff.mpr (by simp)
      have groupColumn := rightColumn group mem_cons_self
      rw [foldl_cons, addGroup, foldl_addGroup_of_column
        fun other mem => (rightColumn other (mem_cons_of_mem _ mem)).trans groupColumn.symm]
      constructor
      · simp [Expr.names, rightNamed]
      · intro _ _
        refine ⟨_, rfl, fun member => ?_⟩
        rw [count member]
        have ranges := rightRanges member
        simp only [flatMap_cons] at ranges
        simp [Expr.countedRanges, noRanges, ← ranges]
      · simp [Expr.leadsTwice, once]
  · rw [foldl_addGroup_of_column fun other mem =>
      (rightColumn other mem).trans (leftColumn group (by simp)).symm]
    constructor
    · simp [Expr.names, named]
    · intro _ _
      refine ⟨_, rfl, fun member => ?_⟩
      simp [Expr.countedRanges, once, (same member).2, rightRanges]
    · simp [Expr.leadsTwice, once]
  · rw [foldl_addGroup_of_column fun other mem =>
      (rightColumn other mem).trans (leftColumn first (by simp)).symm]
    constructor
    · simp [Expr.names, named]
    · simp [Expr.leadsTwice, twice]
    · intro _
      refine ⟨_, _, rfl, fun member => ⟨?_, ?_, ?_⟩⟩
      · simp [Expr.countedRanges, twice, (same member).1]
      · intro inSecond
        simp [(same member).2.1 inSecond]
      · simp [Expr.countedRanges, (same member).2.2, rightRanges]

lemma rangesFor_eq_getLast? (groups : List (ZoneMapOrGroup Range)) (column : String) :
    rangesFor groups column = (ofColumn column groups).getLast?.elim [] ZoneMapOrGroup.ranges := by
  rw [rangesFor, ofColumn, getLast?_eq_head?_reverse, ← filter_reverse, head?_filter]

lemma ColumnGroups.or (leftGroups : ColumnGroups range left column (ofColumn column leftPart))
    (rightGroups : ColumnGroups range right column (ofColumn column rightPart))
    (count : (left.or right).names column = true →
      (left.or right).countedRanges range column false ≠ [])
    (order) : ColumnGroups range (left.or right) column
      (ofColumn column (disjoinGroups order leftPart rightPart)) := by
  have ranges (anyGroup : Bool) (member : Range) :
      member ∈ rangesFor leftPart column ++ rangesFor rightPart column ↔
        member ∈ (left.or right).countedRanges range column anyGroup := by
    rw [mem_append, rangesFor_eq_getLast?, rangesFor_eq_getLast?, leftGroups.mem_getLast_iff,
      rightGroups.mem_getLast_iff, Expr.countedRanges, mem_append]
  have ne : (left.or right).names column = true →
      rangesFor leftPart column ++ rangesFor rightPart column ≠ [] := by
    intro named
    obtain ⟨member, mem⟩ := exists_mem_of_ne_nil _ (count named)
    exact ne_nil_of_mem ((ranges false member).mpr mem)
  rw [ofColumn_disjoinGroups]
  simp only [mem_groupColumns_iff, ← leftGroups.names_iff, ← rightGroups.names_iff]
  simp only [Expr.names, Bool.or_eq_true] at ne
  generalize rangesFor leftPart column ++ rangesFor rightPart column = both at ranges ne
  constructor
  · intro absent
    simp only [Expr.names, Bool.or_eq_false_iff] at absent
    simp [absent]
  · intro named once
    refine ⟨⟨column, both⟩, ?_, fun member => ⟨ranges false member, ranges true member⟩⟩
    simp only [Expr.names, Expr.leadsTwice] at named once
    cases inLeft : left.names column <;> cases inRight : right.names column <;>
      simp_all
  · intro twice
    obtain ⟨inLeft, inRight⟩ := Bool.and_eq_true_iff.mp twice
    refine ⟨⟨column, both⟩, ⟨column, both⟩, ?_, fun member =>
      ⟨ranges false member, id, ranges true member⟩⟩
    simp [inLeft, inRight, ne (Or.inl inLeft)]

end ColumnGroups

section Extracted

variable {Range : Type*} {range : CompareOp → ParsedScalar → Option Range} {orders : HashOrders}
    {expr : ParsedExpr} {group : ZoneMapPredicateGroup Range}

section

variable (made : extractPredicatesGrouped range orders expr = some group)
include made

lemma countedRanges_ne_nil (named : expr.names column = true) (anyGroup : Bool) :
    expr.countedRanges range column anyGroup ≠ [] := by
  induction expr generalizing orders group anyGroup with
  | comparison col op val =>
    obtain ⟨single, found, -⟩ := Option.map_eq_some_iff.mp made
    have same : col = column := by simpa [Expr.names] using named
    simp [Expr.countedRanges, same, found]
  | and left right leftIh rightIh =>
    obtain ⟨_, leftFound, _, rightFound, -⟩ := exists_of_bind_bind made
    rw [Expr.countedRanges]
    split
    · rcases Bool.or_eq_true_iff.mp named with inLeft | inRight
      · simp [leftIh leftFound inLeft]
      · simp [rightIh rightFound inRight]
    · rename_i firstOnly
      have twice : left.leadsTwice column = true := by simp_all
      exact leftIh leftFound (Expr.names_of_leadsTwice twice) false
  | or left right leftIh rightIh =>
    obtain ⟨_, leftFound, _, rightFound, -⟩ := exists_of_bind_bind made
    rw [Expr.countedRanges]
    rcases Bool.or_eq_true_iff.mp named with inLeft | inRight
    · simp [leftIh leftFound inLeft]
    · simp [rightIh rightFound inRight]
  | not inner => simp [extractPredicatesGrouped] at made

lemma columnGroups_of_extracted (column) :
    ColumnGroups range expr column (ofColumn column group.groups) := by
  induction expr generalizing orders group with
  | comparison col op val =>
    obtain ⟨single, found, rfl⟩ := Option.map_eq_some_iff.mp made
    constructor
    · intro absent
      have other : col ≠ column := by simpa [Expr.names] using absent
      simp [ofColumn, other]
    · intro named _
      have same : col = column := by simpa [Expr.names] using named
      exact ⟨⟨col, [single]⟩, by simp [ofColumn, same],
        by simp [Expr.countedRanges, same, found]⟩
    · simp [Expr.leadsTwice]
  | and left right leftIh rightIh =>
    obtain ⟨leftGroup, leftFound, rightGroup, rightFound, rfl⟩ := exists_of_bind_bind made
    rw [ofColumn_foldl_addGroup]
    refine (leftIh leftFound).and (rightIh rightFound) ?_ ?_
    · exact fun other mem => (mem_ofColumn_iff.mp mem).2
    · exact fun other mem => (mem_ofColumn_iff.mp mem).2
  | or left right leftIh rightIh =>
    have count (named : (left.or right).names column = true) :=
      countedRanges_ne_nil made named false
    obtain ⟨leftGroup, leftFound, rightGroup, rightFound, rfl⟩ := exists_of_bind_bind made
    exact (leftIh leftFound).or (rightIh rightFound) count _
  | not inner => simp [extractPredicatesGrouped] at made

lemma forall_groups_iff (meets : String → Range → Prop) :
    (∀ part ∈ group.groups, ∃ member ∈ part.ranges, meets part.column member) ↔
      ∀ col, expr.names col = true → ∃ member ∈ expr.countedRanges range col false,
          meets col member := by
  have shape := columnGroups_of_extracted made
  constructor
  · intro all col named
    have some := (shape col).names_iff.mp named
    have last := getLast_mem some
    obtain ⟨mem, same⟩ := mem_ofColumn_iff.mp last
    obtain ⟨member, inRanges, met⟩ := all _ mem
    rw [same] at met
    have counted := (shape col).mem_getLast_iff member
    rw [getLast?_eq_some_getLast some] at counted
    exact ⟨member, counted.mp inRanges, met⟩
  · intro counted part mem
    have own : part ∈ ofColumn part.column group.groups := mem_ofColumn_iff.mpr ⟨mem, rfl⟩
    have named := (shape part.column).names_iff.mpr (ne_nil_of_mem own)
    obtain ⟨member, inCounted, met⟩ := counted part.column named
    exact ⟨member, (shape part.column).mem_of_counted own inCounted, met⟩

end

end Extracted

/-- A value lies between the bounds of a range, in the order of its type.  An
empty bound leaves its side open. -/
def rangeContains (dtype : DataType) (value : Bytes) (range : Bytes × Bytes) : Bool :=
  (range.1.isEmpty || bytesLt value range.1 dtype == some false) &&
    (range.2.isEmpty || bytesLt range.2 value dtype == some false)

/-- The value of the row is in the range. -/
def FilterBatch.inRange {kernels : ArrowKernels ArrowArray UInt64}
    (batch : FilterBatch kernels) (row : Nat) (column : String) (range : Bytes × Bytes) : Bool :=
  (batch.columnByName column).any fun array =>
    (array.valueBytes row).any fun value => rangeContains array.dataType value range

/-- A row meets every group of a filter exactly when, for every column that the
filter names, its value lies in the range of a comparison that counts.  The
comparisons behind the other side of a disjunction are no help. -/
theorem meets_every_group_iff {kernels : ArrowKernels ArrowArray UInt64}
    (batch : FilterBatch kernels) (row : Nat) (orders : HashOrders)
    (expr : ParsedExpr) (group : ZoneMapPredicateGroup (Bytes × Bytes))
    (extracted : toZoneMapPredicateGroup orders expr = some group) :
    (∀ part ∈ group.groups, ∃ range ∈ part.ranges, batch.inRange row part.column range = true) ↔
      ∀ column, expr.names column = true → ∃ range ∈ expr.countedRanges predicateRange column false,
          batch.inRange row column range = true :=
  forall_groups_iff extracted fun column range => batch.inRange row column range = true

private def twoColumns (first second : Nat) : FilterBatch arrowKernels.toArrowKernels where
  numRows := 1
  columns := [("a", .integer .int64 [some first]),
    ("b", .integer .int64 [some second])]
  aligned := by simp [arrowKernels, ArrowArray.length]

private def sharedColumn : ParsedExpr :=
  .or (.and (.comparison "a" .eq (.int64 1)) (.comparison "b" .eq (.int64 2)))
    (.comparison "a" .eq (.int64 3))

private def sharedGroups : ZoneMapPredicateGroup (Bytes × Bytes) :=
  ⟨[⟨"a", [(leBytes 8 1, leBytes 8 1), (leBytes 8 3, leBytes 8 3)]⟩,
    ⟨"b", [(leBytes 8 2, leBytes 8 2)]⟩,
    ⟨"a", [(leBytes 8 1, leBytes 8 1), (leBytes 8 3, leBytes 8 3)]⟩], false⟩

theorem sharedColumn_met : toZoneMapPredicateGroup storedOrder sharedColumn = some sharedGroups ∧
      ∀ part ∈ sharedGroups.groups, ∃ range ∈ part.ranges,
        (twoColumns 1 2).inRange 0 part.column range = true := by
  have extracted : toZoneMapPredicateGroup storedOrder sharedColumn = some sharedGroups := by rfl
  refine ⟨extracted, (meets_every_group_iff (twoColumns 1 2) 0 storedOrder sharedColumn
    sharedGroups extracted).mpr fun column named => ?_⟩
  obtain rfl | rfl : "a" = column ∨ "b" = column := by
    simpa [sharedColumn, Expr.names, or_comm] using named
  · exact ⟨(leBytes 8 1, leBytes 8 1), by decide +kernel⟩
  · exact ⟨(leBytes 8 2, leBytes 8 2), by decide +kernel⟩

/-- The two sides share a column, so that no cross-column disjunction is
reported, but the side that the row satisfies does not restrict the other
column. -/
theorem sharedColumn_not_met :
    toZoneMapPredicateGroup storedOrder sharedColumn = some sharedGroups ∧
      sharedGroups.hasCrossColumnOr = false ∧ sharedColumn.sqlValue (twoColumns 3 5) 0 = some true ∧
      ∃ part ∈ sharedGroups.groups, ∀ range ∈ part.ranges,
        (twoColumns 3 5).inRange 0 part.column range = false := by
  refine ⟨by rfl, rfl, by decide +kernel,
    ⟨"b", [(leBytes 8 2, leBytes 8 2)]⟩, by simp [sharedGroups], ?_⟩
  decide +kernel

/-- The greatest value of a column is below a range.  An empty bound is
skipped. -/
def endsBelow (colMax : Option Bytes) (predMin : Bytes) (dtype : DataType) : Option Bool :=
  if predMin.isEmpty then some false
  else colMax.elim (some false) (bytesLt · predMin dtype)

/-- The column starts above the range. -/
def startsAbove (colMin : Option Bytes) (predMax : Bytes) (dtype : DataType) : Option Bool :=
  if predMax.isEmpty then some false
  else colMin.elim (some false) (bytesLt predMax · dtype)

/-- A range may overlap the column. -/
def orRangeMayOverlap (colMin colMax : Option Bytes) (dtype : DataType)
    (range : Bytes × Bytes) : Option Bool := do
  let below ← endsBelow colMax range.1 dtype
  if below then return false
  let above ← startsAbove colMin range.2 dtype
  return !above

/-- Some range of the group may overlap the column. -/
def checkOrGroupMayOverlap (group : ZoneMapOrGroup (Bytes × Bytes))
    (colMin colMax : Option Bytes) (dtype : DataType) : Option Bool :=
  scanUntil (orRangeMayOverlap colMin colMax dtype) group.ranges

/-- Bounds of a column between which a value lies. -/
structure BoundsCover (dtype : DataType) (value : Bytes)
    (colMin colMax : Option Bytes) : Prop where
  least : ∀ bound ∈ colMin, bytesLt value bound dtype = some false
  greatest : ∀ bound ∈ colMax, bytesLt bound value dtype = some false

namespace ComparesBy

variable {Place : Type*} [LinearOrder Place] {dtype : DataType} {place : Bytes → Option Place}
    {range : Bytes × Bytes}

lemma orRangeMayOverlap_of_contains (compares : ComparesBy dtype place)
    (contains : rangeContains dtype val range = true) (covers : BoundsCover dtype val colMin colMax)
    : orRangeMayOverlap colMin colMax dtype range = some true := by
  simp only [rangeContains, Bool.and_eq_true, Bool.or_eq_true, beq_iff_eq,
    compares.eq_false_iff] at contains
  have below : endsBelow colMax range.1 dtype = some false := by
    unfold endsBelow
    rcases contains.1 with empty | ⟨place, low, placed, lowPlaced, atLeast⟩
    · rw [if_pos empty]
    · split
      · rfl
      · cases colMax with
        | none => rfl
        | some bound =>
          obtain ⟨high, other, highPlaced, same, atMost⟩ :=
            compares.eq_false_iff.mp (covers.greatest bound rfl)
          cases placed.symm.trans same
          exact compares.eq_false_iff.mpr ⟨high, low, highPlaced, lowPlaced, atLeast.trans atMost⟩
  have above : startsAbove colMin range.2 dtype = some false := by
    unfold startsAbove
    rcases contains.2 with empty | ⟨high, place, highPlaced, placed, atMost⟩
    · rw [if_pos empty]
    · split
      · rfl
      · cases colMin with
        | none => rfl
        | some bound =>
          obtain ⟨other, low, same, lowPlaced, atLeast⟩ :=
            compares.eq_false_iff.mp (covers.least bound rfl)
          cases placed.symm.trans same
          exact compares.eq_false_iff.mpr ⟨high, low, highPlaced, lowPlaced, atLeast.trans atMost⟩
  simp [orRangeMayOverlap, below, above]

lemma orRangeMayOverlap_ne_none (compares : ComparesBy dtype place)
    (lower : range.1 = [] ∨ place range.1 ≠ none) (upper : range.2 = [] ∨ place range.2 ≠ none)
    (covers : BoundsCover dtype val colMin colMax) :
    orRangeMayOverlap colMin colMax dtype range ≠ none := by
  have below : endsBelow colMax range.1 dtype ≠ none := by
    unfold endsBelow
    split
    · simp
    · cases colMax with
      | none => simp
      | some bound =>
        obtain ⟨high, _, placed, -⟩ := compares.eq_false_iff.mp (covers.greatest bound rfl)
        exact compares.ne_none (by simp [placed]) (by simp_all)
  have above : startsAbove colMin range.2 dtype ≠ none := by
    unfold startsAbove
    split
    · simp
    · cases colMin with
      | none => simp
      | some bound =>
        obtain ⟨_, low, -, placed, -⟩ := compares.eq_false_iff.mp (covers.least bound rfl)
        exact compares.ne_none (by simp_all) (by simp [placed])
  obtain ⟨isBelow, belowEq⟩ := Option.ne_none_iff_exists'.mp below
  obtain ⟨isAbove, aboveEq⟩ := Option.ne_none_iff_exists'.mp above
  cases isBelow <;> simp [orRangeMayOverlap, belowEq, aboveEq]

section

variable (compares : ComparesBy dtype place) {Value : Type*} {encode : Value → Bytes}
    {placeOf : Value → Place} (placed : ∀ val, place (encode val) = some (placeOf val))
include compares placed

lemma rangeContains_of_holds {op : CompareOp}
    (holds : op.holds (placeOf val) (placeOf constant) = true) : rangeContains dtype (encode val)
      ((op.lower constant).elim [] encode, (op.upper constant).elim [] encode) = true := by
  have atLeast (same : placeOf constant ≤ placeOf val) :
      bytesLt (encode val) (encode constant) dtype = some false :=
    compares.eq_false_iff.mpr ⟨_, _, placed val, placed constant, same⟩
  have atMost (same : placeOf val ≤ placeOf constant) :
      bytesLt (encode constant) (encode val) dtype = some false :=
    compares.eq_false_iff.mpr ⟨_, _, placed constant, placed val, same⟩
  cases op <;> simp only [CompareOp.holds, decide_eq_true_eq] at holds <;>
    simp [rangeContains, CompareOp.lower, CompareOp.upper, atLeast, atMost, holds, le_of_lt]

lemma checkOrGroupMayOverlap_of_contains {part : ZoneMapOrGroup (Bytes × Bytes)}
    (literals : ∀ range ∈ part.ranges, ∃ lower upper : Option Value, range = (lower.elim [] encode,
      upper.elim [] encode)) (mem : range ∈ part.ranges)
    (contains : rangeContains dtype val range = true) (covers : BoundsCover dtype val colMin colMax)
    : checkOrGroupMayOverlap part colMin colMax dtype = some true := by
  have le (bound : Option Value) :
      bound.elim [] encode = [] ∨ place (bound.elim [] encode) ≠ none := by
    cases bound with
    | none => exact Or.inl rfl
    | some constant => exact Or.inr (by simp [placed])
  refine scanUntil_eq_true_of_mem (fun other amongOthers => ?_) mem
    (compares.orRangeMayOverlap_of_contains contains covers)
  obtain ⟨lower, upper, rfl⟩ := literals other amongOthers
  exact compares.orRangeMayOverlap_ne_none (le lower) (le upper) covers

end

end ComparesBy

/-- The literal is of the type of the column. -/
def LiteralOfColumn {kernels : ArrowKernels ArrowArray UInt64}
    (batch : FilterBatch kernels) (col : String) (val : ParsedScalar) : Prop :=
  ∃ array, batch.columnByName col = some array ∧
    ((∃ values value, array = .integer .int64 values ∧ val = .int64 value) ∨
      ∃ values text, array = .utf8 false values ∧ val = .string text)

lemma predicateRange_pair {Value} (encode : Value → Bytes) (value : Value) {op val range}
    (bytes : scalarToBytes val = some (encode value)) (ranged : predicateRange op val = some range)
    : range = ((op.lower value).elim [] encode, (op.upper value).elim [] encode) :=
  Prod.ext_iff.mpr (predicateRange_eq encode value bytes ranged)

lemma exists_value_of_map {Value : Type*} {vals : List (Option Value)}
    {holds : Value → Bool} {row : Nat} (found : (vals.map fun entry => entry.map holds)[row]? =
      some (some true)) : ∃ val, (vals[row]?).join = some val ∧ holds val = true := by
  rw [List.getElem?_map, Option.map_eq_some_iff] at found
  obtain ⟨entry, stored, isTrue⟩ := found
  obtain ⟨val, rfl, passed⟩ := Option.map_eq_some_iff.mp isTrue
  exact ⟨val, by simp [stored], passed⟩

/-- A row that satisfies a filter lies in a range of one of its groups, which
then overlaps all bounds that cover the value of the row. -/
theorem exists_group_covering_row {kernels : DocumentedKernels}
    (batch : FilterBatch kernels.toArrowKernels) (orders : HashOrders)
    (expr : ParsedExpr) (group : ZoneMapPredicateGroup (Bytes × Bytes))
    (extracted : toZoneMapPredicateGroup orders expr = some group)
    (typed : ∀ col op val, .comparison col op val ∈ expr.subexpressions →
      LiteralOfColumn batch col val) (row : Nat) (satisfied : expr.sqlValue batch row = some true) :
    ∃ part ∈ group.groups, ∃ array value, batch.columnByName part.column = some array ∧
      array.valueBytes row = some value ∧ (∃ range ∈ part.ranges,
        rangeContains array.dataType value range = true) ∧
      ∀ colMin colMax, BoundsCover array.dataType value colMin colMax →
        checkOrGroupMayOverlap part colMin colMax array.dataType = some true := by
  obtain ⟨column, op, val, member, holds, found, covers⟩ :=
    exists_covers_of_satisfied extracted satisfied
  obtain ⟨part, mem, rfl⟩ := covers.present
  have inRanges := covers.each part mem rfl
  have literals : ∀ range ∈ part.ranges, ∃ op val,
      predicateRange op val = some range ∧
        LiteralOfColumn batch part.column val := by
    intro range inPart
    obtain ⟨op, val, sub, ranged⟩ := exists_comparison_of_hasRange extracted
      ⟨part, mem, rfl, inPart⟩
    exact ⟨op, val, ranged, typed _ _ _ sub⟩
  obtain ⟨_, _, _, array, named, kind⟩ := literals member inRanges
  obtain ⟨mask, compared, rowHolds⟩ := compareWith_of_holds found named holds
  rcases kind with ⟨values, _, rfl, -⟩ | ⟨values, _, rfl, -⟩
  · cases val with
    | int64 constant =>
      simp only [ArrowArray.compareWith, if_true, Option.some.injEq] at compared
      subst compared
      obtain ⟨pattern, stored, passed⟩ := exists_value_of_map rowHolds
      have places (pattern : Nat) :
          (readBytes IntegerType.int64.width (leBytes 8 pattern)).map
            IntegerType.int64.value = some (IntegerType.int64.value pattern) := by
        rw [show (8 : Nat) = IntegerType.int64.width from rfl,
          readBytes_leBytes, Option.map_some, IntegerType.value_mod]
      have contains : rangeContains (.integer .int64) (leBytes 8 pattern) member = true := by
        rw [predicateRange_pair (leBytes 8) (i64Pattern constant) rfl found]
        exact (ComparesBy.integer .int64).rangeContains_of_holds places passed
      refine ⟨part, mem, _, leBytes 8 pattern, named, ?_,
        ⟨member, inRanges, contains⟩, fun colMin colMax bounds => ?_⟩
      · rw [ArrowArray.valueBytes, stored]
        rfl
      refine (ComparesBy.integer .int64).checkOrGroupMayOverlap_of_contains
        places (fun range inPart => ?_) inRanges contains bounds
      obtain ⟨op, val, ranged, other, otherNamed, kind⟩ := literals range inPart
      cases named.symm.trans otherNamed
      rcases kind with ⟨_, literal, -, rfl⟩ | ⟨_, _, impossible, -⟩
      · exact ⟨_, _, predicateRange_pair (leBytes 8) (i64Pattern literal) rfl ranged⟩
      · cases impossible
    | _ => simp [ArrowArray.compareWith] at compared
  · cases val with
    | string text =>
      simp only [ArrowArray.compareWith, Bool.false_eq_true, if_false,
        Option.some.injEq] at compared
      subst compared
      obtain ⟨bytes, stored, passed⟩ := exists_value_of_map rowHolds
      have places (bytes : Bytes) : some (byteOrder (id bytes)) = some (byteOrder bytes) := rfl
      have contains : rangeContains .bytes bytes member = true := by
        rw [predicateRange_pair id (textBytes text) rfl found]
        exact ComparesBy.text.rangeContains_of_holds places passed
      refine ⟨part, mem, _, bytes, named, stored,
        ⟨member, inRanges, contains⟩, fun colMin colMax bounds => ?_⟩
      refine ComparesBy.text.checkOrGroupMayOverlap_of_contains
        places (fun range inPart => ?_) inRanges contains bounds
      obtain ⟨op, val, ranged, other, otherNamed, kind⟩ := literals range inPart
      cases named.symm.trans otherNamed
      rcases kind with ⟨_, _, impossible, -⟩ | ⟨_, literal, -, rfl⟩
      · cases impossible
      · exact ⟨_, _, predicateRange_pair id (textBytes literal) rfl ranged⟩
    | _ => simp [ArrowArray.compareWith] at compared

/-- `x > 3 AND (x < 9 OR x = 5)`, of which the row with 7 meets two comparisons. -/
def aboveThreeBelowNine : ParsedExpr :=
  .and (.comparison "x" .gt (.int64 3))
    (.or (.comparison "x" .lt (.int64 9)) (.comparison "x" .eq (.int64 5)))

theorem seven_below_nine_covered :
    ∃ group, toZoneMapPredicateGroup storedOrder aboveThreeBelowNine = some group ∧
      ∃ part ∈ group.groups, ∃ array value,
        (oneColumn sevens).batch.columnByName part.column = some array ∧
          array.valueBytes 0 = some value ∧
          (∃ range ∈ part.ranges, rangeContains array.dataType value range = true) ∧
          ∀ colMin colMax, BoundsCover array.dataType value colMin colMax →
            checkOrGroupMayOverlap part colMin colMax array.dataType = some true := by
  refine ⟨⟨_, false⟩, rfl, exists_group_covering_row (oneColumn sevens).batch storedOrder
    aboveThreeBelowNine _ rfl ?_ 0 (by decide +kernel)⟩
  intro col op val sub
  have literal : ∃ number, col = "x" ∧ val = .int64 number := by
    simp only [aboveThreeBelowNine, Expr.subexpressions, List.mem_cons, List.mem_append,
      List.not_mem_nil, or_false, reduceCtorEq, false_or, Expr.comparison.injEq] at sub
    rcases sub with ⟨rfl, -, rfl⟩ | ⟨rfl, -, rfl⟩ | ⟨rfl, -, rfl⟩ <;> exact ⟨_, rfl, rfl⟩
  obtain ⟨number, rfl, rfl⟩ := literal
  exact ⟨sevens, rfl, Or.inl ⟨_, _, rfl, rfl⟩⟩

end RockDuck
