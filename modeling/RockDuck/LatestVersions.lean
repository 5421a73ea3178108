import Mathlib

/-!
# The latest version of every key

Items that carry a key and a version are folded into a map that keeps, for
every key, the first item of the highest version.
-/

namespace RockDuck

open List

instance lawfulEqOrdLex {First Second : Type*} [Ord First] [Ord Second]
    [Std.LawfulEqOrd First] [Std.LawfulEqOrd Second] : Std.LawfulEqOrd (First ×ₗ Second) where
  compare_self := by
    intro pair
    rw [Prod.Lex.compare_def]
    simp [compareLex, compareOn]
  eq_of_compare := by
    intro left right same
    rw [Prod.Lex.compare_def] at same
    simp only [compareLex, compareOn, Ordering.then_eq_eq] at same
    exact Prod.ext (Std.LawfulEqOrd.eq_of_compare same.1) (Std.LawfulEqOrd.eq_of_compare same.2)

variable {Key Item : Type*} (key : Item → Key) (version : Item → Nat)

/-- No item of the same key has a later version. -/
structure IsLatest (items : List Item) (item : Item) : Prop where
  mem : item ∈ items
  le : ∀ other ∈ items, key other = key item → version other ≤ version item

/-- The first of the latest versions of its key. -/
def IsFirstLatest (items : List Item) (item : Item) : Prop :=
  ∃ earlier later, items = earlier ++ item :: later ∧
    (∀ other ∈ earlier, key other = key item → version other < version item) ∧
    ∀ other ∈ later, key other = key item → version other ≤ version item

variable {key version}

variable {items : List Item}

variable {item : Item}

lemma IsFirstLatest.isLatest (first : IsFirstLatest key version items item) :
    IsLatest key version items item := by
  obtain ⟨old, later, rfl, below, atMost⟩ := first
  refine ⟨by simp, fun other mem same => ?_⟩
  rcases mem_append.mp mem with before | after
  · exact (below other before same).le
  · rcases mem_cons.mp after with rfl | after
    · exact le_rfl
    · exact atMost other after same

lemma IsFirstLatest.concat (first : IsFirstLatest key version items item) {next}
    (below : key next = key item → version next ≤ version item) :
    IsFirstLatest key version (items ++ [next]) item := by
  obtain ⟨old, later, rfl, before, after⟩ := first
  refine ⟨old, later ++ [next], by simp, before, ?_⟩
  intro other mem same
  rcases mem_append.mp mem with mem | last
  · exact after other mem same
  · cases mem_singleton.mp last
    exact below same

lemma IsFirstLatest.unique (first : IsFirstLatest key version items one)
    (second : IsFirstLatest key version items two) (same : key one = key two) : one = two := by
  have sameVersion : version one = version two :=
    le_antisymm (second.isLatest.le one first.isLatest.mem same)
      (first.isLatest.le two second.isLatest.mem same.symm)
  obtain ⟨old, later, rfl, below, -⟩ := first
  obtain ⟨earlier', later', split, below', -⟩ := second
  rcases append_eq_append_iff.mp split with ⟨between, rfl, rest⟩ | ⟨between, rfl, rest⟩
  · cases between with
    | nil => exact (List.cons.inj rest).1
    | cons head tail =>
      obtain ⟨rfl, -⟩ := List.cons.inj rest
      exact absurd (below' one (by simp) same) sameVersion.not_lt
  · cases between with
    | nil => exact (List.cons.inj rest).1.symm
    | cons head tail =>
      obtain ⟨rfl, -⟩ := List.cons.inj rest
      exact absurd (below two (by simp) same.symm) sameVersion.symm.not_lt

lemma isFirstLatest_append :
    IsFirstLatest key version (front ++ rest) item ↔ IsFirstLatest key version front item ∧
          (∀ other ∈ rest, key other = key item → version other ≤ version item) ∨
        IsFirstLatest key version rest item ∧ ∀ other ∈ front, key other = key item →
            version other < version item := by
  constructor
  · rintro ⟨old, later, split, below, atMost⟩
    rcases append_eq_append_iff.mp split with ⟨between, rfl, rfl⟩ | ⟨between, rfl, divided⟩
    · exact Or.inr ⟨⟨between, later, rfl,
        fun other mem => below other (by simp [mem]), atMost⟩,
        fun other mem => below other (by simp [mem])⟩
    · cases between with
      | nil =>
        exact Or.inr ⟨⟨[], later, divided.symm, by simp, atMost⟩,
          fun other mem => below other (by simpa using mem)⟩
      | cons head tail =>
        obtain ⟨rfl, rfl⟩ := List.cons.inj divided
        exact Or.inl ⟨⟨old, tail, rfl, below,
          fun other mem => atMost other (by simp [mem])⟩,
          fun other mem => atMost other (by simp [mem])⟩
  · rintro (⟨⟨old, later, rfl, below, atMost⟩, le⟩ | ⟨⟨old, later, rfl, below, atMost⟩, le⟩)
    · refine ⟨old, later ++ rest, by simp, below, fun other mem => ?_⟩
      exact (mem_append.mp mem).elim (atMost other) (le other)
    · refine ⟨front ++ old, later, by simp, fun other mem => ?_, atMost⟩
      exact (mem_append.mp mem).elim (le other) (below other)

lemma isFirstLatest_append_of_covered
    (covered : ∀ item ∈ rest, ∃ other ∈ front, key other = key item ∧ version item ≤ version other) :
    IsFirstLatest key version (front ++ rest) item ↔ IsFirstLatest key version front item := by
  rw [isFirstLatest_append]
  constructor
  · rintro (⟨first, -⟩ | ⟨first, le⟩)
    · exact first
    · obtain ⟨other, listed, otherKey, below⟩ := covered item first.isLatest.mem
      exact absurd (le other listed otherKey) below.not_gt
  · intro first
    refine Or.inl ⟨first, fun other mem equal => ?_⟩
    obtain ⟨above, listed, aboveKey, below⟩ := covered other mem
    exact below.trans (first.isLatest.le above listed (aboveKey.trans equal))

lemma IsLatest.concat (latest : IsLatest key version items item) {next}
    (below : key next = key item → version next ≤ version item) :
    IsLatest key version (items ++ [next]) item where
  mem := mem_append_left _ latest.mem
  le := by
    intro other among same
    rcases mem_append.mp among with old | last
    · exact latest.le other old same
    · cases mem_singleton.mp last
      exact below same

variable [Ord Key] [Std.TransOrd Key]

variable (key version)

/-- Keep the item if it is later than the one of its key. -/
def keepLatest (found : Std.ExtTreeMap Key Item) (item : Item) : Std.ExtTreeMap Key Item :=
  match found[key item]? with
  | none => found.insert (key item) item
  | some existing =>
    if version existing < version item then found.insert (key item) item
    else found

def latestByKey (items : List Item) : Std.ExtTreeMap Key Item :=
  items.foldl (keepLatest key version) ∅

/-- The latest version of each key. -/
def latestVersions (items : List Item) : List Item :=
  (latestByKey key version items).toList.map Prod.snd

structure HoldsLatest (items : List Item) (found : Std.ExtTreeMap Key Item) :
    Prop where
  latest : ∀ {k item}, found[k]? = some item →
    key item = k ∧ IsLatest key version items item
  covered : ∀ item ∈ items, ∃ held, found[key item]? = some held

variable {key version}

variable [Std.LawfulEqOrd Key]

section

variable {found : Std.ExtTreeMap Key Item} (holds : HoldsLatest key version items found)
include holds

lemma HoldsLatest.insert
    (newest : ∀ other ∈ items, key other = key item → version other ≤ version item) :
    HoldsLatest key version (items ++ [item]) (found.insert (key item) item) where
  latest := by
    intro k held stored
    rw [Std.ExtTreeMap.getElem?_insert] at stored
    split at stored
    · rename_i same
      cases stored
      refine ⟨Std.LawfulEqOrd.eq_of_compare same, by simp, ?_⟩
      intro other mem sameKey
      rcases mem_append.mp mem with old | last
      · exact newest other old sameKey
      · exact (mem_singleton.mp last ▸ le_rfl)
    · rename_i ne
      obtain ⟨rfl, latest⟩ := holds.latest stored
      refine ⟨rfl, latest.concat ?_⟩
      intro same
      exact absurd (by rw [same]; exact Std.ReflOrd.compare_self) ne
  covered := by
    intro other mem
    rw [Std.ExtTreeMap.getElem?_insert]
    split
    · exact ⟨item, rfl⟩
    · rename_i ne
      rcases mem_append.mp mem with old | last
      · exact holds.covered other old
      · cases mem_singleton.mp last
        exact absurd Std.ReflOrd.compare_self ne

lemma HoldsLatest.keepLatest (item : Item) :
    HoldsLatest key version (items ++ [item]) (keepLatest key version found item) := by
  unfold RockDuck.keepLatest
  split
  · rename_i absent
    refine holds.insert ?_
    intro other mem same
    obtain ⟨held, stored⟩ := holds.covered other mem
    rw [same, absent] at stored
    cases stored
  · rename_i existing present
    obtain ⟨sameKey, latest⟩ := holds.latest present
    split
    · rename_i newer
      refine holds.insert ?_
      intro other mem same
      exact (latest.le other mem (same.trans sameKey.symm)).trans newer.le
    · rename_i older
      constructor
      · intro k held stored
        obtain ⟨rfl, heldLatest⟩ := holds.latest stored
        refine ⟨rfl, heldLatest.concat ?_⟩
        intro same
        rw [same, stored] at present
        cases present
        omega
      · intro other mem
        rcases mem_append.mp mem with old | last
        · exact holds.covered other old
        · cases mem_singleton.mp last
          exact ⟨existing, present⟩

end

lemma holdsLatest_latestByKey (items) :
    HoldsLatest key version items (latestByKey key version items) := by
  induction items using List.reverseRecOn with
  | nil =>
    constructor
    · intro k item stored
      simp [latestByKey] at stored
    · simp
  | append_singleton items item ih =>
    rw [latestByKey, foldl_append]
    exact ih.keepLatest item

lemma isFirstLatest_of_getElem? {k : Key} (stored : (latestByKey key version items)[k]? = some item)
    : IsFirstLatest key version items item := by
  induction items using List.reverseRecOn generalizing k item with
  | nil => simp [latestByKey] at stored
  | append_singleton items next ih =>
    have holds : HoldsLatest key version items (latestByKey key version items) :=
      holdsLatest_latestByKey items
    -- An item that is put in comes after all rest and is above them.
    have inserted (newest : ∀ other ∈ items, key other = key next → version other < version next)
        (found : ((latestByKey key version items).insert (key next)
          next)[k]? = some item) :
        IsFirstLatest key version (items ++ [next]) item := by
      rw [Std.ExtTreeMap.getElem?_insert] at found
      split at found
      · cases found
        exact ⟨items, [], rfl, newest, by simp⟩
      · rename_i ne
        refine (ih found).concat fun same => ?_
        rw [(holds.latest found).1] at same
        exact absurd (by rw [same]; exact Std.ReflOrd.compare_self) ne
    rw [latestByKey, foldl_append] at stored
    change (keepLatest key version (latestByKey key version items) next)[k]? = some item at stored
    unfold RockDuck.keepLatest at stored
    split at stored
    · rename_i absent
      refine inserted (fun other mem same => ?_) stored
      obtain ⟨held, present⟩ := holds.covered other mem
      rw [same, absent] at present
      cases present
    · rename_i existing present
      obtain ⟨sameKey, latest⟩ := holds.latest present
      split at stored
      · rename_i newer
        exact inserted (fun other mem same =>
          (latest.le other mem (same.trans sameKey.symm)).trans_lt newer)
          stored
      · rename_i older
        refine (ih stored).concat fun same => ?_
        rw [same, (holds.latest stored).1, stored] at present
        cases present
        omega

lemma mem_latestVersions :
    item ∈ latestVersions key version items ↔ IsFirstLatest key version items item := by
  constructor
  · intro mem
    obtain ⟨⟨k, held⟩, listed, rfl⟩ := mem_map.mp mem
    rw [Std.ExtTreeMap.mem_toList_iff_getElem?_eq_some] at listed
    exact isFirstLatest_of_getElem? listed
  · intro first
    have holds : HoldsLatest key version items (latestByKey key version items) :=
      holdsLatest_latestByKey items
    obtain ⟨held, stored⟩ := holds.covered item first.isLatest.mem
    have same : held = item :=
      (isFirstLatest_of_getElem? stored).unique first (holds.latest stored).1
    rw [same] at stored
    exact mem_map.mpr ⟨(key item, item),
      Std.ExtTreeMap.mem_toList_iff_getElem?_eq_some.mpr stored, rfl⟩

lemma isLatest_of_mem_latestVersions (mem : item ∈ latestVersions key version items) :
    IsLatest key version items item :=
  (mem_latestVersions.mp mem).isLatest

lemma exists_mem_latestVersions (mem : item ∈ items) : ∃ held ∈ latestVersions key version items,
      key held = key item ∧ version item ≤ version held := by
  have holds : HoldsLatest key version items (latestByKey key version items) :=
    holdsLatest_latestByKey items
  obtain ⟨held, stored⟩ := holds.covered item mem
  obtain ⟨sameKey, latest⟩ := holds.latest stored
  refine ⟨held, mem_map.mpr ⟨(key item, held), ?_, rfl⟩, sameKey, latest.le item mem sameKey.symm⟩
  exact Std.ExtTreeMap.mem_toList_iff_getElem?_eq_some.mpr stored

lemma exists_isFirstLatest (mem : item ∈ items) :
    ∃ held, IsFirstLatest key version items held ∧ key held = key item ∧
      version item ≤ version held := by
  obtain ⟨held, listed, sameKey, below⟩ :
      ∃ held ∈ latestVersions key version items,
        key held = key item ∧ version item ≤ version held :=
    exists_mem_latestVersions mem
  exact ⟨held, mem_latestVersions.mp listed, sameKey, below⟩

section Views

variable {View : Type*} {view : Item → View}

variable (key version view) in
/-- The lists have the same latest versions, as far as a view shows. -/
def SameLatest (items others : List Item) : Prop :=
  ∀ seen, (∃ item, IsFirstLatest key version items item ∧ view item = seen) ↔
    ∃ item, IsFirstLatest key version others item ∧ view item = seen

omit [Ord Key] [Std.TransOrd Key] [Std.LawfulEqOrd Key] in
lemma SameLatest.symm (same : SameLatest key version view items rest) :
    SameLatest key version view rest items :=
  fun seen => (same seen).symm

lemma exists_isFirstLatest_exchange
    (agree : ∀ first second, IsFirstLatest key version one first → IsFirstLatest key version two
      second → key first = key second → version first = version second → view first = view second)
    (first : IsFirstLatest key version (one ++ two) item) :
    ∃ other, IsFirstLatest key version (two ++ one) other ∧ view other = view item := by
  rcases isFirstLatest_append.mp first with ⟨inOne, le⟩ | ⟨inTwo, le⟩
  · by_cases equal : ∃ other ∈ two, key other = key item ∧ version other = version item
    · obtain ⟨other, mem, otherKey, otherVersion⟩ := equal
      obtain ⟨second, inTwo, secondKey, above⟩ : ∃ second,
          IsFirstLatest key version two second ∧
            key second = key other ∧ version other ≤ version second :=
        exists_isFirstLatest mem
      have sameKey := secondKey.trans otherKey
      have sameVersion : version item = version second :=
        le_antisymm (otherVersion ▸ above)
          (le second inTwo.isLatest.mem sameKey)
      refine ⟨second, isFirstLatest_append.mpr (Or.inl ⟨inTwo, ?_⟩),
        (agree item second inOne inTwo sameKey.symm sameVersion).symm⟩
      intro third listed thirdKey
      exact sameVersion ▸ inOne.isLatest.le third listed (thirdKey.trans sameKey)
    · refine ⟨item, isFirstLatest_append.mpr (Or.inr ⟨inOne, ?_⟩), rfl⟩
      intro other mem sameKey
      refine lt_of_le_of_ne (le other mem sameKey) fun sameVersion => ?_
      exact equal ⟨other, mem, sameKey, sameVersion⟩
  · exact ⟨item, isFirstLatest_append.mpr (Or.inl ⟨inTwo,
      fun other mem sameKey => (le other mem sameKey).le⟩), rfl⟩

variable (telling : ∀ {item other}, view item = view other →
  key item = key other ∧ version item = version other)

include telling in
/-- What comes behind both lists does not tell them apart. -/
lemma SameLatest.append (same : SameLatest key version view items others) (rest) :
    SameLatest key version view (items ++ rest) (others ++ rest) := by
  have oneWay {items others : List Item}
      (same : SameLatest key version view items others) {item : Item}
      (first : IsFirstLatest key version (items ++ rest) item) :
      ∃ other, IsFirstLatest key version (others ++ rest) other ∧
        view other = view item := by
    rcases isFirstLatest_append.mp first with ⟨inFront, le⟩ | ⟨inRest, le⟩
    · obtain ⟨other, latest, seen⟩ := (same (view item)).mp ⟨item, inFront, rfl⟩
      obtain ⟨sameKey, sameVersion⟩ := telling seen
      exact ⟨other, isFirstLatest_append.mpr (Or.inl ⟨latest, by
        rwa [sameKey, sameVersion]⟩), seen⟩
    · refine ⟨item, isFirstLatest_append.mpr (Or.inr ⟨inRest, ?_⟩), rfl⟩
      intro other mem sameKey
      obtain ⟨held, latest, heldKey, below⟩ :
          ∃ held, IsFirstLatest key version others held ∧
            key held = key other ∧ version other ≤ version held :=
        exists_isFirstLatest mem
      obtain ⟨partner, listed, seen⟩ := (same (view held)).mpr ⟨held, latest, rfl⟩
      obtain ⟨partnerKey, partnerVersion⟩ := telling seen
      have above := le partner listed.isLatest.mem (partnerKey.trans (heldKey.trans sameKey))
      omega
  intro seen
  constructor
  · rintro ⟨item, first, rfl⟩
    exact oneWay same first
  · rintro ⟨item, first, rfl⟩
    exact oneWay same.symm first

include telling in
lemma sameLatest_exchange_iff : SameLatest key version view (one ++ two ++ three) (two ++ one) ↔
      (∀ item ∈ three, ∃ other ∈ one ++ two, key other = key item ∧ version item ≤ version other) ∧
        ∀ first second, IsFirstLatest key version one first →
          IsFirstLatest key version two second → key first = key second →
            version first = version second → view first = view second := by
  constructor
  · intro same
    have covered : ∀ item ∈ three, ∃ other ∈ one ++ two,
        key other = key item ∧ version item ≤ version other := by
      intro item mem
      obtain ⟨held, latest, heldKey, below⟩ : ∃ held,
          IsFirstLatest key version (one ++ two ++ three) held ∧
            key held = key item ∧ version item ≤ version held :=
        exists_isFirstLatest (mem_append_right _ mem)
      obtain ⟨other, listed, seen⟩ := (same (view held)).mp ⟨held, latest, rfl⟩
      obtain ⟨otherKey, otherVersion⟩ := telling seen
      refine ⟨other, ?_, otherKey.trans heldKey, otherVersion ▸ below⟩
      simpa [or_comm] using listed.isLatest.mem
    refine ⟨covered, fun first second inOne inTwo sameKey sameVersion => ?_⟩
    have front : IsFirstLatest key version (one ++ two) first :=
      isFirstLatest_append.mpr (Or.inl ⟨inOne, fun other mem equal =>
        sameVersion ▸ inTwo.isLatest.le other mem (equal.trans sameKey)⟩)
    have all : IsFirstLatest key version (one ++ two ++ three) first := by
      refine isFirstLatest_append.mpr (Or.inl ⟨front, fun item mem equal => ?_⟩)
      obtain ⟨other, listed, otherKey, below⟩ := covered item mem
      exact below.trans (front.isLatest.le other listed (otherKey.trans equal))
    have exchanged : IsFirstLatest key version (two ++ one) second :=
      isFirstLatest_append.mpr (Or.inl ⟨inTwo, fun other mem equal =>
        sameVersion ▸ inOne.isLatest.le other mem
          (equal.trans sameKey.symm)⟩)
    obtain ⟨other, latest, seen⟩ := (same (view first)).mp ⟨first, all, rfl⟩
    have found : other = second := latest.unique exchanged ((telling seen).1.trans sameKey)
    rw [← seen, found]
  · rintro ⟨covered, agree⟩
    intro seen
    simp only [isFirstLatest_append_of_covered covered]
    constructor
    · rintro ⟨item, first, rfl⟩
      exact exists_isFirstLatest_exchange agree first
    · rintro ⟨item, first, rfl⟩
      exact exists_isFirstLatest_exchange (fun first second inTwo inOne sameKey sameVersion =>
        (agree second first inOne inTwo sameKey.symm sameVersion.symm).symm)
        first

end Views

lemma pairwise_compare_latestVersions (items) :
    (latestVersions key version items).Pairwise fun first second =>
      compare (key first) (key second) = .lt := by
  rw [latestVersions, pairwise_map]
  refine (Std.ExtTreeMap.ordered_keys_toList (t := latestByKey key version items)).imp_of_mem ?_
  intro first second amongFirst amongSecond ordered
  have holds : HoldsLatest key version items (latestByKey key version items) :=
    holdsLatest_latestByKey items
  have firstKey := (holds.latest (Std.ExtTreeMap.mem_toList_iff_getElem?_eq_some.mp amongFirst)).1
  have secondKey := (holds.latest (Std.ExtTreeMap.mem_toList_iff_getElem?_eq_some.mp amongSecond)).1
  rwa [firstKey, secondKey]

end RockDuck
