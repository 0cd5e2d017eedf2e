import TableReach.Classification.Cache
import Mathlib.Data.List.Induction
import Mathlib.Data.List.Nodup

/-!
# Histories of a cache

A cache is used by keeping classifications and by looking texts up.  Each time room
has to be made, half of the texts go, and any half may.  After every history of uses
the cache is within its capacity, and what it finds for a text is what was kept for
it last.

The texts of a cache are all different, so finding a text is the same as having an
entry for it.  What an insertion does is said on entries first and then on what can
be found.
-/

namespace TableReach

/-- One use of a cache. -/
inductive CacheUse where
  /-- A classification is kept for a text.  The eviction says what goes if there is no room. -/
  | insert (evict : Eviction) (text : String) (classification : Classification)
  /-- A text is looked up. -/
  | find (text : String)

namespace CacheUse

/-- Something is kept for the text. -/
def Inserts
    (use : CacheUse)
    (text : String) : Prop :=
  ∃ evict classification, use = insert evict text classification

/-- The classification is what was kept for a text last. -/
def IsLatest
    (history : List CacheUse)
    (text : String)
    (classification : Classification) : Prop :=
  ∃ before evict later, history = before ++ insert evict text classification :: later ∧
    ∀ use ∈ later, ¬ use.Inserts text

namespace IsLatest

variable
  {history : List CacheUse}
  {text : String}
  {classification : Classification}

theorem of_insert
    (history : List CacheUse)
    (evict : Eviction)
    (text : String)
    (classification : Classification) :
    IsLatest (history ++ [insert evict text classification]) text classification :=
  ⟨history, evict, [], rfl, by simp⟩

/-- What was kept last stays so until something is kept for the same text. -/
theorem concat
    (latest : IsLatest history text classification)
    {use : CacheUse}
    (other : ¬ use.Inserts text) : IsLatest (history ++ [use]) text classification := by
  obtain ⟨before, evict, later, rfl, untouched⟩ := latest
  refine ⟨before, evict, later ++ [use], by simp, ?_⟩
  intro following present
  rcases List.mem_append.mp present with earlier | last
  · exact untouched following earlier
  · rw [List.mem_singleton] at last
    rwa [last]

end IsLatest
end CacheUse

section Lookup

variable
  [BEq α]
  [LawfulBEq α]
  {entries kept : List (α × β)}
  {key : α}

theorem isSome_lookup_iff : (entries.lookup key).isSome = true ↔ key ∈ entries.map Prod.fst := by
  rw [List.lookup_isSome_iff, List.mem_map]
  apply exists_congr
  intro entry
  rw [beq_iff_eq, eq_comm]

theorem lookup_eq_none_iff_notMem :
    entries.lookup key = none ↔ key ∉ entries.map Prod.fst := by
  rw [← isSome_lookup_iff, Option.not_isSome_iff_eq_none]

/-- Where the keys differ, what is found for a key is its entry. -/
theorem lookup_eq_some_iff_mem
    (different : (entries.map Prod.fst).Nodup)
    {value : β} : entries.lookup key = some value ↔ (key, value) ∈ entries := by
  rw [List.lookup_eq_some_iff]
  constructor
  · rintro ⟨before, behind, rfl, _⟩
    simp
  · intro present
    obtain ⟨before, behind, rfl⟩ := List.append_of_mem present
    refine ⟨before, behind, rfl, ?_⟩
    intro entry earlier
    rw [List.map_append, List.nodup_append] at different
    have apart := different.2.2 entry.1 (List.mem_map_of_mem earlier) key (by simp)
    simpa using apart.symm

/-- What is left of some entries with different keys is found as before. -/
theorem lookup_of_sublist
    (different : (entries.map Prod.fst).Nodup)
    (fewer : kept.Sublist entries)
    [Decidable (key ∈ kept.map Prod.fst)] :
    kept.lookup key = if key ∈ kept.map Prod.fst then entries.lookup key else none := by
  have keptDifferent : (kept.map Prod.fst).Nodup := different.sublist (fewer.map _)
  split
  · next present =>
      obtain ⟨value, found⟩ := Option.isSome_iff_exists.mp (isSome_lookup_iff.mpr present)
      rw [found]
      symm
      rw [lookup_eq_some_iff_mem different]
      exact fewer.subset ((lookup_eq_some_iff_mem keptDifferent).mp found)
  · next absent => exact lookup_eq_none_iff_notMem.mpr absent

theorem lookup_concat_of_ne
    {other : α}
    (different : key ≠ other)
    (value : β) : (entries ++ [(other, value)]).lookup key = entries.lookup key := by
  rw [List.lookup_append, List.lookup_cons, beq_false_of_ne different]
  simp

end Lookup

/-- The values that are not among some of them. -/
theorem length_filter_notMem
    [DecidableEq α]
    {values part : List α}
    (different : values.Nodup)
    (partDifferent : part.Nodup)
    (within : part ⊆ values) :
    (values.filter (· ∉ part)).length = values.length - part.length := by
  have inside : (values.filter (· ∈ part)).Perm part := by
    rw [List.perm_ext_iff_of_nodup (different.filter _) partDifferent]
    intro value
    rw [List.mem_filter, decide_eq_true_iff]
    exact ⟨And.right, fun present => ⟨within present, present⟩⟩
  have split := List.length_eq_length_filter_add (l := values) (decide <| · ∈ part)
  rw [inside.length_eq] at split
  simp only [decide_not]
  omega

/-- The entries of these texts go if that is enough, else the oldest ones. -/
def Eviction.ofTexts (texts : List String) : Eviction where
  kept count entries :=
    let others := entries.filter fun entry => entry.1 ∉ texts
    if others.length = entries.length - count then others else entries.drop count
  kept_sublist count entries := by
    dsimp only
    split
    · exact List.filter_sublist
    · exact List.drop_sublist count entries
  length_kept count entries := by
    dsimp only
    split
    · next enough => exact enough
    · exact List.length_drop

namespace Cache

/-- The texts that have an entry. -/
def texts (cache : Cache) : List String :=
  cache.entries.map Prod.fst

/-- The cache after one more use. -/
def after (cache : Cache) : CacheUse → Cache
  | .insert evict text classification => cache.insert evict text classification
  | .find _ => cache

/-- The cache of a capacity after a history of uses. -/
def ofHistory
    (capacity : Nat)
    (history : List CacheUse) : Cache :=
  history.foldl after (empty capacity)

/-- What a cache of a capacity holds after a history. -/
structure Records
    (capacity : Nat)
    (history : List CacheUse)
    (cache : Cache) : Prop where
  /-- The capacity does not change. -/
  capacity_eq : cache.capacity = capacity
  /-- No text has two entries. -/
  nodup_texts : cache.texts.Nodup
  /-- There are no more entries than the capacity. -/
  size_le : cache.size ≤ capacity
  /-- What is found for a text was kept for it last. -/
  isLatest_of_find? :
    ∀ text found, cache.find? text = some found → CacheUse.IsLatest history text found

/-- There is some capacity, all of it is used, and the text is new. -/
def IsFullFor
    (cache : Cache)
    (text : String) : Prop :=
  0 < cache.capacity ∧ cache.size = cache.capacity ∧ cache.find? text = none

/-- The texts are different ones of the cache, half as many as its capacity, rounded up. -/
def IsHalf
    (cache : Cache)
    (gone : List String) : Prop :=
  gone.Nodup ∧ (∀ text ∈ gone, (cache.find? text).isSome = true) ∧
    gone.length = (cache.capacity + 1) / 2

/-- Some texts go and all others but the given one are found as before. -/
def Loses
    (cache : Cache)
    (gone : List String)
    (text : String)
    (next : Cache) : Prop :=
  ∀ other, other ≠ text → next.find? other = if other ∈ gone then none else cache.find? other

/-- What keeping a classification for a text makes of a cache. -/
structure Insertion
    (cache : Cache)
    (text : String)
    (classification : Classification)
    (next : Cache) : Prop where
  /-- Without capacity nothing is kept. -/
  entries_eq_nil : cache.capacity = 0 → next.entries = []
  /-- Else the classification is found. -/
  find?_self : 0 < cache.capacity → next.find? text = some classification
  /-- Where the text has an entry or there is room, all others are found as before. -/
  find?_other :
    (cache.find? text).isSome = true ∨ cache.size < cache.capacity →
      ∀ other, other ≠ text → next.find? other = cache.find? other
  /-- Where there is no room for a new text, as many entries are left as did not have to go, and
  the new one. -/
  size_of_full :
    cache.IsFullFor text → next.size = cache.capacity - (cache.capacity + 1) / 2 + 1
  /-- Half of the texts go for it, and no other entry changes. -/
  loses_of_full :
    cache.IsFullFor text → ∃ gone, cache.IsHalf gone ∧ cache.Loses gone text next

/-! ## What an insertion does to the entries -/

theorem length_texts (cache : Cache) : cache.texts.length = cache.size :=
  List.length_map _

/-- The entries that stay when a new text is kept. -/
def survivors
    (cache : Cache)
    (evict : Eviction) : List (String × Classification) :=
  if cache.capacity ≤ cache.size then evict.kept cache.evicted cache.entries else cache.entries

section Insert

variable
  {cache : Cache}
  {evict : Eviction}
  {text : String}
  {classification : Classification}

theorem insert_of_capacity_eq_zero
    (nothing : cache.capacity = 0) : cache.insert evict text classification = cache := by
  simp [insert, nothing]

@[simp] theorem capacity_insert :
    (cache.insert evict text classification).capacity = cache.capacity := by
  unfold insert
  split
  · rfl
  · split <;> rfl

theorem entries_insert_of_present
    (positive : 0 < cache.capacity)
    (present : (cache.find? text).isSome = true) :
    (cache.insert evict text classification).entries =
      cache.entries.map fun entry =>
        if entry.1 == text then (text, classification) else entry := by
  simp [insert, Nat.ne_of_gt positive, present]

theorem entries_insert_of_absent
    (positive : 0 < cache.capacity)
    (absent : cache.find? text = none) :
    (cache.insert evict text classification).entries =
      cache.survivors evict ++ [(text, classification)] := by
  simp [insert, Nat.ne_of_gt positive, absent, survivors]

theorem survivors_of_lt
    (room : cache.size < cache.capacity) : cache.survivors evict = cache.entries :=
  if_neg (Nat.not_le.mpr room)

/-- No entry is added or changed by what stays. -/
theorem survivors_sublist : (cache.survivors evict).Sublist cache.entries := by
  unfold survivors
  split
  · exact evict.kept_sublist _ _
  · exact List.Sublist.refl _

theorem length_survivors_of_full
    (full : cache.size = cache.capacity) :
    (cache.survivors evict).length = cache.capacity - (cache.capacity + 1) / 2 := by
  rw [survivors, if_pos (Nat.le_of_eq full.symm), evict.length_kept]
  exact congrArg (· - (cache.capacity + 1) / 2) full

theorem length_survivors_lt
    (positive : 0 < cache.capacity)
    (bounded : cache.size ≤ cache.capacity) :
    (cache.survivors evict).length < cache.capacity := by
  rcases Nat.lt_or_eq_of_le bounded with room | full
  · rwa [survivors_of_lt room]
  · rw [length_survivors_of_full full]
    omega

/-- A replaced entry keeps its text. -/
theorem texts_insert_of_present
    (positive : 0 < cache.capacity)
    (present : (cache.find? text).isSome = true) :
    (cache.insert evict text classification).texts = cache.texts := by
  rw [texts, entries_insert_of_present positive present, List.map_map]
  apply List.map_congr_left
  intro entry _
  by_cases same : entry.1 = text
  · simp [same]
  · simp [same]

/-- An insertion into a cache of different texts makes a cache of different texts. -/
theorem nodup_texts_insert
    (different : cache.texts.Nodup) :
    (cache.insert evict text classification).texts.Nodup := by
  rcases Nat.eq_zero_or_pos cache.capacity with nothing | positive
  · rwa [insert_of_capacity_eq_zero nothing]
  cases found : cache.find? text with
  | some value =>
      rw [texts_insert_of_present positive (by rw [found]; rfl)]
      exact different
  | none =>
      rw [texts, entries_insert_of_absent positive found, List.map_append, List.map_singleton,
        List.nodup_append]
      have kept : ((cache.survivors evict).map Prod.fst).Sublist cache.texts :=
        survivors_sublist.map _
      refine ⟨different.sublist kept, List.nodup_singleton _, ?_⟩
      have fresh : text ∉ cache.texts := lookup_eq_none_iff_notMem.mp found
      intro other stays new equal same
      rw [List.mem_singleton] at equal
      rw [same, equal] at stays
      exact fresh (kept.subset stays)

/-- An insertion stays within the capacity. -/
theorem size_insert_le
    (bounded : cache.size ≤ cache.capacity) :
    (cache.insert evict text classification).size ≤ cache.capacity := by
  rcases Nat.eq_zero_or_pos cache.capacity with nothing | positive
  · rwa [insert_of_capacity_eq_zero nothing]
  cases found : cache.find? text with
  | some value =>
      rw [size, entries_insert_of_present positive (by rw [found]; rfl), List.length_map]
      exact bounded
  | none =>
      rw [size, entries_insert_of_absent positive found, List.length_append]
      exact length_survivors_lt positive bounded

/-! ## What is found after an insertion -/

/-- What was just kept is found. -/
theorem find?_insert_self
    (different : cache.texts.Nodup)
    (positive : 0 < cache.capacity) :
    (cache.insert evict text classification).find? text = some classification := by
  rw [find?, lookup_eq_some_iff_mem (nodup_texts_insert different)]
  cases found : cache.find? text with
  | some value =>
      rw [entries_insert_of_present positive (by rw [found]; rfl), List.mem_map]
      have entry : (text, value) ∈ cache.entries :=
        (lookup_eq_some_iff_mem different).mp found
      exact ⟨(text, value), entry, by simp⟩
  | none =>
      rw [entries_insert_of_absent positive found]
      simp

/-- Replacing an entry changes nothing for other texts. -/
theorem find?_insert_of_present
    (different : cache.texts.Nodup)
    (positive : 0 < cache.capacity)
    (present : (cache.find? text).isSome = true)
    {other : String}
    (distinct : other ≠ text) :
    (cache.insert evict text classification).find? other = cache.find? other := by
  apply Option.ext
  intro found
  rw [find?, find?, lookup_eq_some_iff_mem (nodup_texts_insert different),
    lookup_eq_some_iff_mem different, entries_insert_of_present positive present, List.mem_map]
  constructor
  · rintro ⟨entry, listed, replaced⟩
    by_cases same : entry.1 = text
    · simp only [same, beq_self_eq_true, if_true, Prod.mk.injEq] at replaced
      exact absurd replaced.1.symm distinct
    · simp only [beq_iff_eq, same, if_false] at replaced
      rwa [← replaced]
  · intro listed
    exact ⟨(other, found), listed, by simp [distinct]⟩

theorem find?_insert_of_absent
    (positive : 0 < cache.capacity)
    (absent : cache.find? text = none)
    {other : String}
    (distinct : other ≠ text) :
    (cache.insert evict text classification).find? other =
      (cache.survivors evict).lookup other := by
  rw [find?, entries_insert_of_absent positive absent, lookup_concat_of_ne distinct]

/-- For other texts an insertion finds what was found before, or nothing. -/
theorem find?_of_find?_insert
    (different : cache.texts.Nodup)
    {other : String}
    (distinct : other ≠ text)
    {found : Classification}
    (hit : (cache.insert evict text classification).find? other = some found) :
    cache.find? other = some found := by
  rcases Nat.eq_zero_or_pos cache.capacity with nothing | positive
  · rwa [insert_of_capacity_eq_zero nothing] at hit
  cases earlier : cache.find? text with
  | some value =>
      rwa [find?_insert_of_present different positive (by rw [earlier]; rfl) distinct] at hit
  | none =>
      rw [find?_insert_of_absent positive earlier distinct,
        lookup_of_sublist different survivors_sublist] at hit
      split at hit
      · exact hit
      · cases hit

/-- The texts that do not stay are lost, and no others. -/
theorem loses_insert
    (different : cache.texts.Nodup)
    (full : cache.IsFullFor text)
    {gone : List String}
    (stays : ∀ other, other ∈ (cache.survivors evict).map Prod.fst ↔
      other ∈ cache.texts ∧ other ∉ gone) :
    cache.Loses gone text (cache.insert evict text classification) := by
  intro other distinct
  rw [find?_insert_of_absent full.1 full.2.2 distinct,
    lookup_of_sublist different survivors_sublist]
  by_cases goes : other ∈ gone
  · simp [stays, goes]
  · by_cases present : other ∈ cache.texts
    · simp [stays, present, goes, find?]
    · have missed : cache.find? other = none := lookup_eq_none_iff_notMem.mpr present
      simp [stays, present, missed]

/-- The texts that go for a new one are half of a full cache. -/
theorem exists_isHalf
    (different : cache.texts.Nodup)
    (full : cache.IsFullFor text) :
    ∃ gone, cache.IsHalf gone ∧
      cache.Loses gone text (cache.insert evict text classification) := by
  have kept : ((cache.survivors evict).map Prod.fst).Sublist cache.texts :=
    survivors_sublist.map _
  -- An eviction says what stays; what goes are the other texts.
  refine ⟨cache.texts.filter (· ∉ (cache.survivors evict).map Prod.fst), ⟨?_, ?_, ?_⟩, ?_⟩
  · exact different.filter _
  · intro other present
    exact isSome_lookup_iff.mpr (List.mem_of_mem_filter present)
  · rw [length_filter_notMem different (different.sublist kept) kept.subset, List.length_map,
      length_survivors_of_full full.2.1, length_texts, full.2.1]
    omega
  · apply loses_insert different full
    intro other
    have listed : other ∈ (cache.survivors evict).map Prod.fst → other ∈ cache.texts :=
      fun stays => kept.subset stays
    simp only [List.mem_filter, decide_eq_true_eq]
    tauto

/-- Any half of a full cache may go for a new text. -/
theorem exists_eviction
    (different : cache.texts.Nodup)
    (full : cache.IsFullFor text)
    (classification : Classification)
    {gone : List String}
    (half : cache.IsHalf gone) :
    ∃ evict, cache.Loses gone text (cache.insert evict text classification) := by
  obtain ⟨goneDifferent, present, length⟩ := half
  have others : (cache.entries.filter fun entry => entry.1 ∉ gone).map Prod.fst =
      cache.texts.filter (· ∉ gone) := by
    rw [texts, List.filter_map]
    rfl
  have enough : (cache.entries.filter fun entry => entry.1 ∉ gone).length =
      cache.entries.length - cache.evicted := by
    rw [← List.length_map Prod.fst, others, length_filter_notMem different goneDifferent
      fun other goes => isSome_lookup_iff.mp (present other goes), length, length_texts]
    rfl
  -- The others are as many as must stay, so the eviction keeps just them.
  have kept : cache.survivors (Eviction.ofTexts gone) =
      cache.entries.filter fun entry => entry.1 ∉ gone := by
    rw [survivors, if_pos (Nat.le_of_eq full.2.1.symm)]
    exact if_pos enough
  refine ⟨Eviction.ofTexts gone, loses_insert different full ?_⟩
  intro other
  rw [kept, others, List.mem_filter, decide_eq_true_iff]

end Insert

/-! ## Every history -/

/-- What an insertion makes of a cache of different texts within its capacity. -/
theorem insertion_insert
    {cache : Cache}
    (different : cache.texts.Nodup)
    (bounded : cache.size ≤ cache.capacity)
    (evict : Eviction)
    (text : String)
    (classification : Classification) :
    cache.Insertion text classification (cache.insert evict text classification) where
  entries_eq_nil nothing := by
    rw [insert_of_capacity_eq_zero nothing]
    exact List.eq_nil_of_length_eq_zero (Nat.le_zero.mp (nothing ▸ bounded))
  find?_self positive := find?_insert_self different positive
  find?_other calm other distinct := by
    rcases Nat.eq_zero_or_pos cache.capacity with nothing | positive
    · rw [insert_of_capacity_eq_zero nothing]
    by_cases present : (cache.find? text).isSome = true
    · exact find?_insert_of_present different positive present distinct
    · have absent := Option.not_isSome_iff_eq_none.mp present
      rw [find?_insert_of_absent positive absent distinct,
        survivors_of_lt (calm.resolve_left present)]
      rfl
  size_of_full full := by
    rw [size, entries_insert_of_absent full.1 full.2.2, List.length_append,
      length_survivors_of_full full.2.1]
    rfl
  loses_of_full full := exists_isHalf different full

namespace Records

variable
  {capacity : Nat}
  {history : List CacheUse}
  {cache : Cache}

/-- A cache without entries has no history. -/
theorem empty (capacity : Nat) : (Cache.empty capacity).Records capacity [] where
  capacity_eq := rfl
  nodup_texts := List.nodup_nil
  size_le := Nat.zero_le capacity
  isLatest_of_find? text found hit := by
    simp [find?, Cache.empty] at hit

/-- One more use is recorded. -/
theorem after
    (records : cache.Records capacity history)
    (use : CacheUse) : (cache.after use).Records capacity (history ++ [use]) := by
  cases use with
  | find text =>
      refine { records with isLatest_of_find? := fun other found hit => ?_ }
      apply (records.isLatest_of_find? other found hit).concat
      rintro ⟨evict, classification, equal⟩
      cases equal
  | insert evict text classification =>
      have different := records.nodup_texts
      have bounded : cache.size ≤ cache.capacity := records.capacity_eq ▸ records.size_le
      refine
        { capacity_eq := capacity_insert.trans records.capacity_eq
          nodup_texts := nodup_texts_insert different
          size_le := records.capacity_eq ▸ size_insert_le bounded
          isLatest_of_find? := fun other found hit => ?_ }
      change (cache.insert evict text classification).find? other = some found at hit
      by_cases same : other = text
      · -- The text was just kept; without capacity it would not be found.
        subst same
        have made := insertion_insert different bounded evict other classification
        rcases Nat.eq_zero_or_pos cache.capacity with nothing | positive
        · simp [find?, made.entries_eq_nil nothing] at hit
        · rw [made.find?_self positive] at hit
          rw [← Option.some.inj hit]
          exact CacheUse.IsLatest.of_insert history evict other classification
      · have earlier := find?_of_find?_insert different same hit
        apply (records.isLatest_of_find? other found earlier).concat
        rintro ⟨_, _, equal⟩
        injection equal with _ sameText
        exact same sameText.symm

/-- Every history is recorded. -/
theorem ofHistory
    (capacity : Nat)
    (history : List CacheUse) : (Cache.ofHistory capacity history).Records capacity history := by
  induction history using List.reverseRecOn with
  | nil => exact empty capacity
  | append_singleton history use inductionHypothesis =>
      rw [Cache.ofHistory, List.foldl_append]
      exact inductionHypothesis.after use

end Records

/-- After every history of uses a cache is within its capacity and finds only what was kept last.
One more insertion is found at once and leaves the other entries alone, unless there is no room for
it: then half of the texts go, and each half goes for some eviction. -/
theorem ofHistory_bounded_and_latest
    (capacity : Nat)
    (history : List CacheUse) :
    (ofHistory capacity history).Records capacity history ∧
      (∀ evict text classification,
        (ofHistory capacity history).Insertion text classification
          (ofHistory capacity (history ++ [.insert evict text classification]))) ∧
      ∀ text classification gone,
        (ofHistory capacity history).IsFullFor text → (ofHistory capacity history).IsHalf gone →
          ∃ evict, (ofHistory capacity history).Loses gone text
            (ofHistory capacity (history ++ [.insert evict text classification])) := by
  have records := Records.ofHistory capacity history
  have next (evict : Eviction) (text : String) (classification : Classification) :
      ofHistory capacity (history ++ [.insert evict text classification]) =
        (ofHistory capacity history).insert evict text classification := by
    rw [ofHistory, List.foldl_append]
    rfl
  refine ⟨records, ?_, ?_⟩
  · intro evict text classification
    rw [next]
    apply insertion_insert records.nodup_texts
    rw [records.capacity_eq]
    exact records.size_le
  · intro text classification gone full half
    simp only [next]
    exact exists_eviction records.nodup_texts full classification half

/-- Three texts are kept, and one of them is looked up. -/
def threeTexts : List CacheUse :=
  [.insert .oldest "SELECT 1" .ofBlank, .insert .oldest "SELECT 2" .ofBlank, .find "SELECT 1",
    .insert .oldest "SELECT 3" .ofBlank]

/-- For a fourth text the first and the last of three may go, although the second is older than
the last. -/
theorem first_and_last_of_three_go :
    (ofHistory 3 threeTexts).IsFullFor "SELECT 4" ∧
      (ofHistory 3 threeTexts).IsHalf ["SELECT 1", "SELECT 3"] ∧
      ∃ evict, (ofHistory 3 threeTexts).Loses ["SELECT 1", "SELECT 3"] "SELECT 4"
        (ofHistory 3 (threeTexts ++ [.insert evict "SELECT 4" .ofBlank])) := by
  have full : (ofHistory 3 threeTexts).IsFullFor "SELECT 4" := by
    refine ⟨?_, ?_, ?_⟩ <;> decide
  have half : (ofHistory 3 threeTexts).IsHalf ["SELECT 1", "SELECT 3"] := by
    refine ⟨?_, ?_, ?_⟩ <;> decide
  exact ⟨full, half,
    (ofHistory_bounded_and_latest 3 threeTexts).2.2 "SELECT 4" .ofBlank _ full half⟩

end Cache
end TableReach
