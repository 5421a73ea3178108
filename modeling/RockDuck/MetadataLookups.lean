import RockDuck.KeyCompaction

/-!
# Lookups in the metadata store

Segments are looked up through a cache, redirected segments through their
alias, and the keys of a segment by a prefix of the index.
-/

namespace RockDuck

open List

/-- How the description of a segment is stored. -/
structure SegmentMetaCodec where
  encode : SegmentMeta → Except RockDuckError Bytes
  decode : Bytes → Except RockDuckError SegmentMeta
  decode_encode : ∀ {segment bytes}, encode segment = .ok bytes → decode bytes = .ok segment

def segmentMetaKey (segId : String) : Bytes :=
  "seg_meta:".toUTF8.toList ++ segId.toUTF8.toList

/-- The key that is looked up when the cache misses: the name of the column
family stands in front, without a colon. -/
def repopulateKey (segId : String) : Bytes :=
  "seg_meta".toUTF8.toList ++ segId.toUTF8.toList

/-- The KV store and the cache over it. -/
structure MetadataStore where
  kv : Std.ExtTreeMap Bytes Bytes
  cache : SegmentMetaCache

namespace MetadataStore

def empty : MetadataStore where
  kv := ∅
  cache := .empty

variable (codec : SegmentMetaCodec)

def cachePut (store : MetadataStore) (segment : SegmentMeta) :
    MetadataStore × Except RockDuckError Unit :=
  match codec.encode segment with
  | .error error => (store, .error error)
  | .ok _ => ({ store with cache := store.cache.put segment }, .ok ())

/-- Store the metadata; the cache is left as it is. -/
def putSegmentMeta (store : MetadataStore) (segment : SegmentMeta) :
    MetadataStore × Except RockDuckError Unit :=
  match codec.encode segment with
  | .error error => (store, .error error)
  | .ok value => ({ store with kv := store.kv.insert (segmentMetaKey segment.segId) value }, .ok ())

/-- Look in the cache, then in the store, and cache what was found. -/
def getWithRepopulate (store : MetadataStore) (segId : String) :
    MetadataStore × Except RockDuckError (Option SegmentMeta) :=
  match store.cache.cache[segId]? with
  | some segment => (store, .ok (some segment))
  | none =>
    match store.kv[repopulateKey segId]? with
    | none => (store, .ok none)
    | some value =>
      match codec.decode value with
      | .error error => (store, .error error)
      | .ok segment =>
        andThen (store.cachePut codec segment) fun store _ => (store, .ok (some segment))

end MetadataStore

inductive MetadataEvent where
  | cachePut (segment : SegmentMeta)
  | invalidate (segId : String)
  | evict (segIds : List String)
  | putSegmentMeta (segment : SegmentMeta)
  | putSegmentMetaAndInvalidate (segment : SegmentMeta)
  | getWithRepopulate (segId : String)

namespace MetadataStore

variable (codec : SegmentMetaCodec)

def perform (store : MetadataStore) : MetadataEvent → MetadataStore
  | .cachePut segment => (store.cachePut codec segment).1
  | .invalidate segId => { store with cache := store.cache.invalidate segId }
  | .evict segIds => { store with cache := store.cache.evict segIds }
  | .putSegmentMeta segment => (store.putSegmentMeta codec segment).1
  | .putSegmentMetaAndInvalidate segment =>
    (andThen (store.putSegmentMeta codec segment) fun store _ =>
      ({ store with cache := store.cache.invalidate segment.segId }, .ok ())).1
  | .getWithRepopulate segId => (store.getWithRepopulate codec segId).1

def after (events : List MetadataEvent) : MetadataStore :=
  events.foldl (perform codec) .empty

/-- The store has the metadata of the segment. -/
def Holds (store : MetadataStore) (segId : String) (segment : SegmentMeta) : Prop :=
  ∃ value, store.kv[segmentMetaKey segId]? = some value ∧ codec.decode value = .ok segment

/-- Every record lies under the key of the segment it describes. -/
def WellKeyed (store : MetadataStore) : Prop :=
  ∀ key value, store.kv[key]? = some value →
    ∃ segment, codec.decode value = .ok segment ∧ key = segmentMetaKey segment.segId

variable {codec}

lemma kv_cachePut (store : MetadataStore) (seg) : (store.cachePut codec seg).1.kv = store.kv := by
  unfold cachePut
  split <;> rfl

lemma kv_getWithRepopulate (store : MetadataStore) (segId) :
    (store.getWithRepopulate codec segId).1.kv = store.kv := by
  unfold getWithRepopulate
  split
  · rfl
  · split
    · rfl
    · split
      · rfl
      · rename_i seg _
        exact andThen_fst_keeps (fun state : MetadataStore => state.kv = store.kv)
          (kv_cachePut store seg) fun _ _ kept => kept

variable {store : MetadataStore}

lemma WellKeyed.putSegmentMeta (keyed : store.WellKeyed codec) (seg) :
    (store.putSegmentMeta codec seg).1.WellKeyed codec := by
  unfold MetadataStore.putSegmentMeta
  split
  · exact keyed
  · rename_i written encodes
    intro key val found
    simp only [Std.ExtTreeMap.getElem?_insert, Std.compare_eq_iff_eq] at found
    split at found
    · rename_i same
      cases found
      exact ⟨seg, codec.decode_encode encodes, same.symm⟩
    · exact keyed key val found

lemma WellKeyed.perform (keyed : store.WellKeyed codec) (event) :
    (store.perform codec event).WellKeyed codec := by
  cases event with
  | cachePut seg =>
    unfold MetadataStore.perform WellKeyed
    rw [kv_cachePut]
    exact keyed
  | invalidate segId | evict segIds => exact keyed
  | putSegmentMeta seg => exact keyed.putSegmentMeta seg
  | putSegmentMetaAndInvalidate seg =>
    exact andThen_fst_keeps (WellKeyed codec) (keyed.putSegmentMeta seg)
      fun _ _ kept => kept
  | getWithRepopulate segId =>
    unfold MetadataStore.perform WellKeyed
    rw [kv_getWithRepopulate]
    exact keyed

lemma wellKeyed_after (events) : (after codec events).WellKeyed codec := by
  induction events using List.reverseRecOn with
  | nil => simp [after, WellKeyed, empty]
  | append_singleton events event ih =>
    rw [after, foldl_append]
    exact ih.perform event

lemma WellKeyed.cached_of_get (keyed : store.WellKeyed codec) {segId segment}
    (holds : store.Holds codec segId segment)
    (got : (store.getWithRepopulate codec segId).2 = .ok (some segment)) :
    store.cache.cache[segId]? = some segment := by
  obtain ⟨val, found, decoded⟩ := holds
  obtain ⟨own, ownDecoded, ownKey⟩ := keyed _ _ found
  obtain rfl : segment = own := by simpa [decoded] using ownDecoded
  unfold getWithRepopulate at got
  cases cached : store.cache.cache[segId]? with
  | some entry => simpa [cached] using got
  | none =>
    simp only [cached] at got
    cases missed : store.kv[repopulateKey segId]? with
    | none => simp [missed] at got
    | some other =>
      obtain ⟨described, otherDecoded, otherKey⟩ := keyed _ _ missed
      simp only [missed, otherDecoded] at got
      obtain ⟨_, _, -, same⟩ := andThen_eq_ok.mp (Prod.ext rfl got)
      obtain rfl : described = segment := by simpa using congrArg Prod.snd same
      have lengths := congrArg List.length (otherKey.trans ownKey.symm)
      have short : "seg_meta".toUTF8.toList.length = 8 := by decide +kernel
      have long : "seg_meta:".toUTF8.toList.length = 9 := by decide +kernel
      rw [repopulateKey, segmentMetaKey, length_append, length_append, short, long] at lengths
      omega

/-- A record that was written is found exactly when the cache has it: a miss
looks up a key that nothing is written under. -/
theorem getWithRepopulate_finds_iff (codec : SegmentMetaCodec) (events : List MetadataEvent)
    (segId : String) : (∀ segment, (after codec events).Holds codec segId segment →
        ((after codec events).getWithRepopulate codec segId).2 = .ok (some segment)) ↔
      ∀ segment, (after codec events).Holds codec segId segment →
        (after codec events).cache.cache[segId]? = some segment := by
  refine forall_congr' fun segment => imp_congr_right fun holds => ⟨?_, fun cached => ?_⟩
  · exact (wellKeyed_after events).cached_of_get holds
  · simp [getWithRepopulate, cached]

end MetadataStore

deriving instance DecidableEq for SegmentMeta
deriving instance DecidableEq for SkiplistEntry

/-- A codec of a single description. -/
def oneSegmentCodec : SegmentMetaCodec where
  encode segment := if segment = .new "s" "t" [] then .ok [1] else .error (.codec "")
  decode _ := .ok (.new "s" "t" [])
  decode_encode := by
    intro segment bytes encoded
    split at encoded
    · rename_i same
      rw [same]
    · cases encoded

theorem MetadataStore.written_not_found :
    (after oneSegmentCodec [.putSegmentMeta (.new "s" "t" [])]).Holds oneSegmentCodec "s"
        (.new "s" "t" []) ∧
      ((after oneSegmentCodec [.putSegmentMeta (.new "s" "t" [])]).getWithRepopulate
        oneSegmentCodec "s").2 = .ok none := by
  refine ⟨⟨[1], ?_, rfl⟩, ?_⟩
  · simp [after, perform, putSegmentMeta, oneSegmentCodec, SegmentMeta.new]
  · decide +kernel

section Aliases

def segAliasKeyImpl (oldSegId : String) : String :=
  "seg_alias:" ++ oldSegId

def putSegmentAlias (aliases : Std.ExtTreeMap String String) (entry : String × String) :
    Std.ExtTreeMap String String :=
  aliases.insert (segAliasKeyImpl entry.1) entry.2

def resolveSegmentAlias (aliases : Std.ExtTreeMap String String) (segId : String) : Option String :=
  aliases[segAliasKeyImpl segId]?

/-- Follow one alias. -/
def resolveSegId (aliases : Std.ExtTreeMap String String) (segId : String) : String × Bool :=
  match resolveSegmentAlias aliases segId with
  | some redirectedId => (redirectedId, true)
  | none => (segId, false)

def aliasesAfter (compactions : List (String × String)) : Std.ExtTreeMap String String :=
  compactions.foldl putSegmentAlias ∅

/-- Following the aliases from a segment ends at one that has none. -/
inductive AliasesEndAt (aliases : Std.ExtTreeMap String String) : String → String → Prop
  | current {segId : String} (last : resolveSegmentAlias aliases segId = none) :
      AliasesEndAt aliases segId segId
  | redirected {segId next final : String}
      (found : resolveSegmentAlias aliases segId = some next)
      (rest : AliasesEndAt aliases next final) : AliasesEndAt aliases segId final

lemma AliasesEndAt.last
    (ends : AliasesEndAt aliases segId final) : resolveSegmentAlias aliases final = none := by
  induction ends with
  | current last => exact last
  | redirected _ _ ih => exact ih

/-- A segment is resolved to the end of its aliases exactly when there is no
more than one. -/
theorem resolveSegId_follows_iff (compactions : List (String × String)) (segId : String) :
    (∃ final, AliasesEndAt (aliasesAfter compactions) segId final ∧
        resolveSegId (aliasesAfter compactions) segId = (final, decide (final ≠ segId))) ↔
      ∀ next, resolveSegmentAlias (aliasesAfter compactions) segId = some next →
        resolveSegmentAlias (aliasesAfter compactions) next = none := by
  generalize aliasesAfter compactions = aliases
  constructor
  · rintro ⟨final, ends, resolved⟩ next found
    simp only [resolveSegId, found, Prod.mk.injEq] at resolved
    obtain ⟨rfl, -⟩ := resolved
    exact ends.last
  · intro oneStep
    cases found : resolveSegmentAlias aliases segId with
    | none => exact ⟨segId, .current found, by simp [resolveSegId, found]⟩
    | some next =>
      have last := oneStep next found
      have moved : next ≠ segId := by
        rintro rfl
        simp [found] at last
      exact ⟨next, .redirected found (.current last), by simp [resolveSegId, found, moved]⟩

theorem second_alias_not_followed :
    resolveSegId (aliasesAfter [("a", "b"), ("b", "c")]) "a" = ("b", true) ∧
      AliasesEndAt (aliasesAfter [("a", "b"), ("b", "c")]) "a" "c" := by
  have first : resolveSegmentAlias (aliasesAfter [("a", "b"), ("b", "c")]) "a" = some "b" := by
    decide +kernel
  have second : resolveSegmentAlias (aliasesAfter [("a", "b"), ("b", "c")]) "b" = some "c" := by
    decide +kernel
  have last : resolveSegmentAlias (aliasesAfter [("a", "b"), ("b", "c")]) "c" = none := by
    decide +kernel
  exact ⟨by simp [resolveSegId, first], .redirected first (.redirected second (.current last))⟩

end Aliases

namespace PkIndex

/-- The index entries of a segment. -/
def listSkiplistEntries (index : PkIndex) (segId : String) :
    Except RockDuckError (List SkiplistEntry) :=
  ((index.family.toList.filter fun entry =>
      (pkSkiplistKey segId 0).isPrefixOf entry.1).filterMap fun entry =>
        (parsePkIndexKey entry.1).map fun parsed => (parsed.2.2, entry.2)).mapM fun entry => do
    let (position, _) ← entry.2.decodeLookup
    .ok ⟨entry.1, position.segId, position.granuleId, position.rowOffset⟩

def Stores (index : PkIndex) (segId : String) (pk : Bytes) (granuleId rowOffset : Nat) : Prop :=
  ∃ value, index.family[pkIndexKey segId granuleId pk]? = some value ∧
    value.position.granuleId = granuleId ∧ value.position.rowOffset = rowOffset

/-- The listing has exactly the stored entries. -/
def ListsExactly (index : PkIndex) (segId : String) : Prop :=
  ∃ entries, index.listSkiplistEntries segId = .ok entries ∧
    ∀ pk granuleId rowOffset, (∃ entry ∈ entries, entry.pk = pk ∧
      entry.granuleId = granuleId ∧ entry.rowOffset = rowOffset) ↔
        index.Stores segId pk granuleId rowOffset

def ColonFree (segId : String) : Prop :=
  58 ∉ segId.toUTF8.toList

instance (segId : String) : Decidable (ColonFree segId) :=
  inferInstanceAs (Decidable (58 ∉ segId.toUTF8.toList))

/-- An entry is a reverse one, or it lies under its own segment and granule and
has three components. -/
def Sorted (index : PkIndex) : Prop :=
  ∀ key value, index.family[key]? = some value →
    (∃ pk, key = pkLookupKey pk) ∨ (value.idxKey = none ∧ ColonFree value.position.segId ∧
      ∃ pk, key = pkIndexKey value.position.segId value.position.granuleId pk)

variable {index : PkIndex}

lemma Sorted.applyOp (sorted : index.Sorted)
    (fits : ∀ key val, op = .put key val → (∃ pk, key = pkLookupKey pk) ∨ (val.idxKey = none ∧
      ColonFree val.position.segId ∧ ∃ pk, key = pkIndexKey val.position.segId
      val.position.granuleId pk)) : (index.applyOp op).Sorted := by
  intro key val found
  cases op with
  | put written entry =>
    simp only [PkIndex.applyOp, Std.ExtTreeMap.getElem?_insert, Std.compare_eq_iff_eq] at found
    split at found
    · rename_i same
      cases found
      exact same ▸ fits written val rfl
    · exact sorted key val found
  | delete erased =>
    simp only [PkIndex.applyOp, Std.ExtTreeMap.getElem?_erase] at found
    split at found
    · cases found
    · exact sorted key val found

lemma Sorted.perform (sorted : index.Sorted) {call : PkCall}
    (colonFree : ∀ pos, call.leaves = some pos → ColonFree pos.segId) :
    (call.perform index).1.Sorted := by
  have erased (key : Bytes) {index : PkIndex} (sorted : index.Sorted) :
      (index.applyOp (.delete key)).Sorted := sorted.applyOp (by simp)
  cases call with
  | put table pk pos fault =>
    cases fault with
    | some error => exact sorted
    | none =>
      change ((index.applyOp (.put (pkIndexKey pos.segId pos.granuleId pk)
        ⟨pos, none⟩)).applyOp (.put (pkLookupKey pk) ⟨pos, some _⟩)).Sorted
      refine (sorted.applyOp ?_).applyOp ?_
      · rintro _ _ ⟨rfl, rfl⟩
        exact Or.inr ⟨rfl, colonFree pos rfl, pk, rfl⟩
      · rintro _ _ ⟨rfl, rfl⟩
        exact Or.inl ⟨pk, rfl⟩
  | delete table pk segId granule indexFault lookupFault =>
    cases indexFault with
    | some error => exact sorted
    | none =>
      cases lookupFault with
      | some error => exact erased _ sorted
      | none => exact erased _ (erased _ sorted)

lemma sorted_afterCalls (colonFree : ∀ call ∈ calls, ∀ pos, call.leaves = some pos →
      ColonFree pos.segId) : (afterCalls calls).Sorted := by
  induction calls using List.reverseRecOn with
  | nil => simp [afterCalls, Sorted, empty]
  | append_singleton calls call ih =>
    rw [afterCalls, foldl_append]
    exact (ih fun other mem => colonFree other (by simp [mem])).perform
      (colonFree call (by simp))

lemma eq_of_colonFree {seg other rest more : Bytes} (free : 58 ∉ seg) (otherFree : 58 ∉ other)
    (same : seg ++ 58 :: rest = other ++ 58 :: more) : seg = other := by
  have taken (front back : Bytes) (absent : 58 ∉ front) :
      (front ++ 58 :: back).takeWhile (· ≠ 58) = front := by
    rw [takeWhile_append_of_pos fun byte mem => by
      simpa using fun equal : byte = 58 => absent (equal ▸ mem)]
    simp
  rw [← taken seg rest free, same, taken other more otherFree]

/-- What lies under the prefix of a segment is an entry of the segment. -/
lemma Sorted.of_prefix (sorted : index.Sorted) {segId : String} (colonFree : ColonFree segId)
    {key : Bytes} {val : PkValue} (found : index.family[key]? = some val)
    (starts : pkSkiplistKey segId 0 <+: key) :
    val.idxKey = none ∧ ∃ pk, key = pkIndexKey segId val.position.granuleId pk := by
  obtain ⟨more, whole⟩ := starts
  rcases sorted key val found with ⟨pk, rfl⟩ | ⟨single, free, pk, rfl⟩
  · simp only [pkSkiplistKey, append_assoc] at whole
    exact absurd whole (pkIdx_ne_pkLookup _ pk)
  · refine ⟨single, pk, ?_⟩
    simp only [pkSkiplistKey, pkIndexKey, append_assoc, append_cancel_left_eq,
      singleton_append] at whole
    have same := eq_of_colonFree colonFree free whole
    simp only [pkIndexKey, same]

lemma Sorted.listed_nil (sorted : index.Sorted) (colonFree : ColonFree segId)
    (lists : index.listSkiplistEntries segId = .ok entries) : entries = [] := by
  by_contra ne
  obtain ⟨entry, mem⟩ := exists_mem_of_ne_nil _ ne
  obtain ⟨⟨pk, val⟩, taken, reads⟩ := exists_mem_of_mapM_eq_ok lists mem
  obtain ⟨⟨key, stored⟩, inFamily, parsed⟩ := mem_filterMap.mp taken
  obtain ⟨_, -, same⟩ := Option.map_eq_some_iff.mp parsed
  cases same
  rw [mem_filter, isPrefixOf_iff_prefix] at inFamily
  have found := Std.ExtTreeMap.mem_toList_iff_getElem?_eq_some.mp inFamily.1
  obtain ⟨single, -⟩ := sorted.of_prefix colonFree found inFamily.2
  obtain ⟨_, decoded, -⟩ := bind_eq_ok.mp reads
  simp [PkValue.decodeLookup, single] at decoded

/-- The keys of a segment are listed exactly only when there are none: what lies
under the prefix cannot be decoded, and the prefix is that of granule zero. -/
theorem listSkiplistEntries_exact_iff {calls : List PkCall}
    (colonFree : ∀ call ∈ calls, ∀ position, call.leaves = some position → ColonFree position.segId)
    {segId : String} (free : ColonFree segId) : (afterCalls calls).ListsExactly segId ↔
      ∀ pk granuleId rowOffset, ¬ (afterCalls calls).Stores segId pk granuleId rowOffset := by
  have sorted := sorted_afterCalls colonFree
  constructor
  · rintro ⟨entries, lists, exact⟩ pk granuleId rowOffset stores
    obtain rfl := sorted.listed_nil free lists
    simpa using (exact pk granuleId rowOffset).mpr stores
  · intro nothing
    refine ⟨[], ?_, by simpa using nothing⟩
    have none : (afterCalls calls).family.toList.filter (fun entry =>
        (pkSkiplistKey segId 0).isPrefixOf entry.1) = [] := by
      rw [filter_eq_nil_iff]
      rintro ⟨key, value⟩ mem starts
      have found := Std.ExtTreeMap.mem_toList_iff_getElem?_eq_some.mp mem
      obtain ⟨-, pk, rfl⟩ := sorted.of_prefix free found (List.isPrefixOf_iff_prefix.mp starts)
      exact nothing pk _ _ ⟨value, found, rfl, rfl⟩
    rw [listSkiplistEntries, none]
    rfl

/-- A segment without keys next to one with a key. -/
theorem otherSegment_listed : (afterCalls [.put "t" [1] ⟨"a", 0, 5⟩ none]).ListsExactly "b" ↔
      ∀ pk granuleId rowOffset,
        ¬ (afterCalls [.put "t" [1] ⟨"a", 0, 5⟩ none]).Stores "b" pk granuleId rowOffset := by
  refine listSkiplistEntries_exact_iff ?_ ?_
  · simp only [mem_singleton, forall_eq, PkCall.leaves, Option.some.injEq, forall_eq']
    decide +kernel
  · decide +kernel

theorem stored_key_not_listed : (afterCalls [.put "t" [1] ⟨"a", 0, 5⟩ none]).Stores "a" [1] 0 5 ∧
      (afterCalls [.put "t" [1] ⟨"a", 0, 5⟩ none]).listSkiplistEntries "a" =
        .error endOfBuffer ∧
      (afterCalls [.put "t" [1] ⟨"a", 1, 5⟩ none]).Stores "a" [1] 1 5 ∧
      (afterCalls [.put "t" [1] ⟨"a", 1, 5⟩ none]).listSkiplistEntries "a" = .ok [] := by
  have stored (granuleId : Nat) :
      (afterCalls [.put "t" [1] ⟨"a", granuleId, 5⟩ none]).Stores "a" [1] granuleId 5 := by
    refine ⟨⟨⟨"a", granuleId, 5⟩, none⟩, ?_, rfl, rfl⟩
    change ((empty.family.insert (pkIndexKey "a" granuleId [1]) _).insert (pkLookupKey [1])
      _)[pkIndexKey "a" granuleId [1]]? = _
    rw [Std.ExtTreeMap.getElem?_insert, if_neg, Std.ExtTreeMap.getElem?_insert_self]
    simpa using (pkIndexKey_ne_pkLookupKey "a" granuleId [1] [1]).symm
  exact ⟨stored 0, by decide +kernel, stored 1, by decide +kernel⟩

end PkIndex

end RockDuck
