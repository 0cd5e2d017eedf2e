import TableReach.Classification.Basic

/-!
# Cache of classifications

The cache keeps the classification of texts up to a capacity.  A new text that
finds it full makes half of the entries go; which ones is a choice of the
`Eviction`.
-/

namespace TableReach

/-- Classifications by text. -/
structure Cache where
  /-- How many entries there can be. -/
  capacity : Nat
  /-- The entries, each text once. -/
  entries : List (String × Classification)

/-- A choice of the entries that stay when the given number of them has to go. -/
structure Eviction where
  /-- The entries that stay. -/
  kept : Nat → List (String × Classification) → List (String × Classification)
  /-- No entry is added or changed. -/
  kept_sublist (count : Nat) (entries : List (String × Classification)) :
    (kept count entries).Sublist entries
  /-- No more entries go than have to. -/
  length_kept (count : Nat) (entries : List (String × Classification)) :
    (kept count entries).length = entries.length - count

/-- The oldest entries go first. -/
def Eviction.oldest : Eviction where
  kept count entries := entries.drop count
  kept_sublist count entries := List.drop_sublist count entries
  length_kept _ _ := List.length_drop

namespace Cache

/-- The cache without entries. -/
def empty (capacity : Nat) : Cache :=
  { capacity := capacity, entries := [] }

/-- How many entries there are. -/
def size (cache : Cache) : Nat :=
  cache.entries.length

/-- The classification kept for a text. -/
def find? (cache : Cache) (text : String) : Option Classification :=
  cache.entries.lookup text

/-- How many entries go when the cache is full: half of the capacity, rounded up. -/
def evicted (cache : Cache) : Nat :=
  (cache.capacity + 1) / 2

/-- Keep the classification of a text. -/
def insert
    (evict : Eviction)
    (cache : Cache)
    (text : String)
    (classification : Classification) : Cache :=
  if cache.capacity == 0 then cache
  else if (cache.find? text).isSome then
    { cache with
      entries := cache.entries.map fun entry =>
        if entry.1 == text then (text, classification) else entry }
  else
    let kept :=
      if cache.capacity ≤ cache.size then evict.kept cache.evicted cache.entries
      else cache.entries
    { cache with entries := kept ++ [(text, classification)] }

end Cache
end TableReach
