import TableReach.Classification.Classifier

/-!
# Coherence of the cache

A cache is coherent when every entry is what its text is classified as.  Looking
up and keeping classifications keep a cache coherent, whatever is evicted, and a
classifier with a coherent cache answers as one that has classified nothing.
-/

namespace TableReach

/-- What a text is classified as, whatever was classified before. -/
def Classification.ofRaw
    (dialect : Sql.Dialect)
    (raw : String) : Classification :=
  if Text.allBlank raw.toList then ofBlank else (ofText dialect raw.toList).value

namespace Cache

/-- Every entry is what its text is classified as. -/
def Coherent
    (dialect : Sql.Dialect)
    (cache : Cache) : Prop :=
  ∀ entry ∈ cache.entries, entry.2 = (Classification.ofText dialect entry.1.toList).value

namespace Coherent

variable
  {dialect : Sql.Dialect}
  {cache : Cache}

theorem empty (capacity : Nat) : (Cache.empty capacity).Coherent dialect := by
  intro entry present
  simp [Cache.empty] at present

theorem of_find?
    {text : String}
    {found : Classification}
    (coherent : cache.Coherent dialect)
    (hit : cache.find? text = some found) :
    found = (Classification.ofText dialect text.toList).value := by
  obtain ⟨before, after, split, _⟩ := List.lookup_eq_some_iff.mp hit
  apply coherent (text, found)
  rw [split]
  simp

/-- Keeping what a text is classified as keeps a cache coherent, whatever goes for it. -/
theorem insert
    (coherent : cache.Coherent dialect)
    (evict : Eviction)
    (text : String) :
    (cache.insert evict text
      (Classification.ofText dialect text.toList).value).Coherent dialect := by
  unfold Cache.insert
  split
  · exact coherent
  · split
    · intro entry present
      obtain ⟨old, oldPresent, rfl⟩ := List.mem_map.mp present
      by_cases same : old.1 == text
      · simp [same]
      · simpa [same] using coherent old oldPresent
    · have keptCoherent (entry : String × Classification)
          (present : entry ∈
            if cache.capacity ≤ cache.size then evict.kept cache.evicted cache.entries
            else cache.entries) :
          entry.2 = (Classification.ofText dialect entry.1.toList).value := by
        split at present
        · exact coherent entry ((evict.kept_sublist _ _).subset present)
        · exact coherent entry present
      intro entry present
      rcases List.mem_append.mp present with old | new
      · exact keptCoherent entry old
      · rw [List.mem_singleton] at new
        rw [new]

end Coherent
end Cache

namespace Classifier

/-- The cache of a classifier is coherent. -/
def Coherent (classifier : Classifier) : Prop :=
  classifier.cache.Coherent classifier.dialect

@[simp] theorem dialect_classifyText
    (evict : Eviction)
    (classifier : Classifier)
    (raw : String) :
    (classifier.classifyText evict raw).value.2.dialect = classifier.dialect := by
  unfold classifyText
  split
  · rfl
  · split <;> rfl

namespace Coherent

variable {classifier : Classifier}

theorem fresh
    (dialect : Sql.Dialect)
    (capacity : Nat) : (Classifier.fresh dialect capacity).Coherent :=
  Cache.Coherent.empty capacity

/-- A coherent classifier answers as if it had classified nothing. -/
theorem classifyText_fst
    (coherent : classifier.Coherent)
    (evict : Eviction)
    (raw : String) :
    (classifier.classifyText evict raw).value.1 =
      Classification.ofRaw classifier.dialect raw := by
  unfold classifyText Classification.ofRaw
  split
  · rfl
  · split
    · next found hit => exact coherent.of_find? hit
    · simp only [Logged.value_bind, Logged.value_pure]

/-- Classifying a text keeps a classifier coherent. -/
theorem classifyText_snd
    (coherent : classifier.Coherent)
    (evict : Eviction)
    (raw : String) : (classifier.classifyText evict raw).value.2.Coherent := by
  unfold classifyText
  split
  · exact coherent
  · split
    · exact coherent
    · exact Cache.Coherent.insert coherent evict raw

end Coherent
end Classifier
end TableReach
