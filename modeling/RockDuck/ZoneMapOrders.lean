import RockDuck.ZoneMapPredicates

/-!
# Zone map predicates and the order of hash tables

The groups of a filter come in the order of the hash tables that are built at
its disjunctions.
-/

namespace RockDuck

open List

section Groups

variable {Range : Type*} {left right left' right' : List (ZoneMapOrGroup Range)}

/-- The groups of a column. -/
def ofColumn (column : String) (groups : List (ZoneMapOrGroup Range)) :
    List (ZoneMapOrGroup Range) :=
  groups.filter fun group => decide (group.column = column)

attribute [local simp] ofColumn

variable {group : ZoneMapOrGroup Range} {column : String}

lemma mem_ofColumn_iff : group ∈ ofColumn column left ↔ group ∈ left ∧ group.column = column := by
  simp

lemma ofColumn_addGroup (column added) : ofColumn column (addGroup left added) =
      if added.column = column then addGroup (ofColumn column left) added
      else ofColumn column left := by
  induction left with
  | nil => by_cases same : added.column = column <;> simp [addGroup, same]
  | cons group groups ih =>
    unfold ofColumn at ih
    by_cases same : added.column = column
    · subst same
      by_cases together : group.column = added.column
      · simp [addGroup, together]
      · simpa [addGroup, together] using ih
    · by_cases together : group.column = added.column
      · simp [addGroup, together, same]
      · simp only [if_neg same] at ih
        simp [addGroup, together, same, filter_cons, ih]

lemma ofColumn_foldl_addGroup (column) : ofColumn column (right.foldl addGroup left) =
      (ofColumn column right).foldl addGroup (ofColumn column left) := by
  induction right generalizing left with
  | nil => rfl
  | cons added right ih =>
    rw [foldl_cons, ih, ofColumn_addGroup]
    by_cases same : added.column = column <;>
      simp [same]

lemma rangesFor_ofColumn (column) :
    rangesFor (ofColumn column left) column = rangesFor left column := by
  simp [rangesFor, ← filter_reverse, find?_filter]

lemma mem_groupColumns_iff : column ∈ groupColumns left ↔ ofColumn column left ≠ [] := by
  simp [groupColumns]

lemma ofColumn_filterMap {cols : List String} (nodup : cols.Nodup) (ranges : String → List Range)
    (column : String) : ofColumn column (cols.filterMap fun column =>
        if (ranges column).isEmpty then none
        else some (⟨column, ranges column⟩ : ZoneMapOrGroup Range)) =
      if column ∈ cols ∧ ranges column ≠ [] then [⟨column, ranges column⟩]
      else [] := by
  induction cols with
  | nil => simp
  | cons first cols ih =>
    obtain ⟨fresh, nodup⟩ := nodup_cons.mp nodup
    have rest := ih nodup
    unfold ofColumn at rest ⊢
    rw [filterMap_cons]
    by_cases same : first = column
    · subst same
      rw [if_neg (by simp [fresh])] at rest
      by_cases empty : ranges first = []
      · simpa [empty] using rest
      · simpa [empty] using rest
    · have ne : column ≠ first := fun equal => same equal.symm
      by_cases empty : ranges first = []
      · simpa [empty, ne] using rest
      · simpa [empty, ne, same] using rest

lemma ofColumn_disjoinGroups (order : Traversal String × Traversal String) (column : String) :
    ofColumn column (disjoinGroups order left right) = (if column ∈ groupColumns left ∧
          rangesFor left column ++ rangesFor right column ≠ [] then
        [⟨column, rangesFor left column ++ rangesFor right column⟩]
      else []) ++ (if column ∈ groupColumns right ∧
          rangesFor left column ++ rangesFor right column ≠ [] then
        [⟨column, rangesFor left column ++ rangesFor right column⟩]
      else []) := by
  have nodup : ∀ (traversal : Traversal String) (groups : List (ZoneMapOrGroup Range)),
      (traversal.order (groupColumns groups)).Nodup := fun traversal groups =>
    (traversal.perm _).nodup_iff.mpr (nodup_dedup _)
  have split : ∀ front back : List (ZoneMapOrGroup Range),
      ofColumn column (front ++ back) =
        ofColumn column front ++ ofColumn column back :=
    fun front back => filter_append ..
  simp only [disjoinGroups, filterMap_append, split,
    ofColumn_filterMap (nodup _ _), Traversal.mem_order]

/-- The same groups for every column. -/
def SameGroups (left right : List (ZoneMapOrGroup Range)) : Prop :=
  ∀ column, ofColumn column left = ofColumn column right

lemma SameGroups.mem_iff (same : SameGroups left right) : group ∈ left ↔ group ∈ right := by
  have listed := congrArg (group ∈ ·) (same group.column)
  simpa [mem_ofColumn_iff] using listed

lemma SameGroups.foldl_addGroup (first : SameGroups left left') (second : SameGroups right right') :
    SameGroups (right.foldl addGroup left) (right'.foldl addGroup left') := by
  intro column
  rw [ofColumn_foldl_addGroup, ofColumn_foldl_addGroup, first column, second column]

lemma SameGroups.groupColumns_iff (same : SameGroups left left') :
    column ∈ groupColumns left ↔ column ∈ groupColumns left' := by
  rw [mem_groupColumns_iff, mem_groupColumns_iff, same column]

lemma SameGroups.rangesFor_eq (same : SameGroups left left') (column) :
    rangesFor left column = rangesFor left' column := by
  rw [← rangesFor_ofColumn, same column, rangesFor_ofColumn]

lemma SameGroups.disjoinGroups (first : SameGroups left left') (second : SameGroups right right')
    (order order') :
    SameGroups (disjoinGroups order left right) (disjoinGroups order' left' right') := by
  intro column
  simp only [ofColumn_disjoinGroups, first.groupColumns_iff,
    second.groupColumns_iff, first.rangesFor_eq, second.rangesFor_eq]

lemma SameGroups.isCrossColumnOr_eq (first : SameGroups left left')
    (second : SameGroups right right') :
    isCrossColumnOr left right = isCrossColumnOr left' right' := by
  have none : ∀ {one other : List (ZoneMapOrGroup Range)}, SameGroups one other →
      (groupColumns one = [] ↔ groupColumns other = []) := by
    intro one other same
    simp only [eq_nil_iff_forall_not_mem, same.groupColumns_iff]
  rw [Bool.eq_iff_iff]
  simp [isCrossColumnOr, first.groupColumns_iff, second.groupColumns_iff, none first, none second]

end Groups

lemma rel_bind {Left Right Left' Right' : Type*} {related : Left → Right → Prop}
    {related' : Left' → Right' → Prop} {left : Option Left} {right : Option Right}
    {first : Left → Option Left'} {second : Right → Option Right'}
    (both : Option.Rel related left right) (next : ∀ one other, related one other →
      Option.Rel related' (first one) (second other)) :
    Option.Rel related' (left.bind first) (right.bind second) := by
  cases both with
  | none => exact .none
  | some holds => exact next _ _ holds

lemma extractPredicatesGrouped_orders {Range : Type*}
    (range : CompareOp → ParsedScalar → Option Range) (orders orders' : HashOrders)
    (expr : ParsedExpr) : Option.Rel (fun group group' => SameGroups group.groups group'.groups ∧
        group.hasCrossColumnOr = group'.hasCrossColumnOr)
      (extractPredicatesGrouped range orders expr)
      (extractPredicatesGrouped range orders' expr) := by
  induction expr generalizing orders orders' with
  | comparison col op val =>
    simp only [extractPredicatesGrouped]
    cases range op val with
    | none => exact .none
    | some bounds => exact .some ⟨fun _ => rfl, rfl⟩
  | and left right leftIh rightIh =>
    simp only [extractPredicatesGrouped]
    exact rel_bind (leftIh _ _) fun one other first =>
      rel_bind (rightIh _ _) fun next following second =>
        .some ⟨first.1.foldl_addGroup second.1, congrArg₂ or first.2 second.2⟩
  | or left right leftIh rightIh =>
    simp only [extractPredicatesGrouped]
    refine rel_bind (leftIh _ _) fun one other first =>
      rel_bind (rightIh _ _) fun next following second =>
        .some ⟨first.1.disjoinGroups second.1 _ _, ?_⟩
    simp only [first.1.isCrossColumnOr_eq second.1, first.2, second.2]
  | not inner => exact .none

lemma scanUntil_eq_of_mem_iff {Item : Type*} {check : Item → Option Bool}
    {items items' : List Item} (same : ∀ item, item ∈ items ↔ item ∈ items')
    {found found' : Bool} (first : scanUntil check items = some found)
    (second : scanUntil check items' = some found') : found = found' := by
  have whole : ∀ {items : List Item}, scanUntil check items = some false →
      ∀ item ∈ items, check item = some false := by
    intro items
    induction items with
    | nil => simp
    | cons item items ih =>
      intro none
      rw [scanUntil] at none
      split at none
      · cases none
      · cases none
      · rename_i failed
        exact forall_mem_cons.mpr ⟨failed, ih none⟩
  have part : ∀ {items : List Item}, scanUntil check items = some true →
      ∃ item ∈ items, check item = some true := by
    intro items
    rw [scanUntil_eq_true_iff]
    rintro ⟨front, item, back, rfl, -, passed⟩
    exact ⟨item, by simp, passed⟩
  cases found with
  | true =>
    cases found' with
    | true => rfl
    | false =>
      obtain ⟨item, mem, passed⟩ := part first
      rw [whole second item ((same item).mp mem)] at passed
      cases passed
  | false =>
    cases found' with
    | true =>
      obtain ⟨item, mem, passed⟩ := part second
      rw [whole first item ((same item).mpr mem)] at passed
      cases passed
    | false => rfl

lemma SegmentZoneMaps.shouldSkip_orders (seg : SegmentZoneMaps) {parsedExpr : Option ParsedExpr}
    {orders orders' skip skip'} (first : seg.shouldSkipSegmentForZoneMap
      (parsedExpr.bind (toZoneMapPredicateGroup orders)) = some skip)
    (second : seg.shouldSkipSegmentForZoneMap
      (parsedExpr.bind (toZoneMapPredicateGroup orders')) = some skip') : skip = skip' := by
  cases parsedExpr with
  | none => exact Option.some.inj (first.symm.trans second)
  | some expr =>
    simp only [Option.bind_some, toZoneMapPredicateGroup] at first second
    have related := extractPredicatesGrouped_orders predicateRange orders orders' expr
    generalize extractPredicatesGrouped predicateRange orders expr = one at *
    generalize extractPredicatesGrouped predicateRange orders' expr = other at *
    cases related with
    | none => exact Option.some.inj (first.symm.trans second)
    | @some group group' same =>
      have empty : group.groups.isEmpty = group'.groups.isEmpty := by
        rw [Bool.eq_iff_iff, List.isEmpty_iff, List.isEmpty_iff]
        simp only [eq_nil_iff_forall_not_mem, same.1.mem_iff]
      simp only [shouldSkipSegmentForZoneMap, same.2, empty] at first second
      split at first
      · rw [if_pos ‹_›] at second
        exact Option.some.inj (first.symm.trans second)
      · rw [if_neg ‹_›] at second
        obtain ⟨found, searched, rfl⟩ := Option.map_eq_some_iff.mp first
        obtain ⟨found', searched', rfl⟩ := Option.map_eq_some_iff.mp second
        rw [scanUntil_eq_of_mem_iff (fun _ => same.1.mem_iff) searched searched']

end RockDuck
