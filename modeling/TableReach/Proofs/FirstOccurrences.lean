import Mathlib.Data.List.Induction
import Mathlib.Data.List.Nodup
import Mathlib.Data.List.Perm.Subperm

/-!
# First occurrences

`List.eraseDups` keeps the first occurrence of every value, in order, so the result
holds no value twice, and how many there are depends on the set of values alone.
-/

namespace TableReach

/-- The first occurrences are different values. -/
theorem nodup_eraseDups
    [BEq α]
    [LawfulBEq α]
    (values : List α) : values.eraseDups.Nodup := by
  induction size : values.length using Nat.strongRecOn generalizing values with
  | ind length inductionHypothesis =>
      subst size
      cases values with
      | nil => simp
      | cons first others =>
          rw [List.eraseDups_cons, List.nodup_cons]
          constructor
          · simp
          · apply inductionHypothesis _ _ _ rfl
            exact Nat.lt_succ_of_le (List.length_filter_le _ others)

/-- The first occurrences of different values are the values themselves. -/
theorem eraseDups_of_nodup
    [BEq α]
    [LawfulBEq α]
    {values : List α}
    (different : values.Nodup) : values.eraseDups = values := by
  induction values with
  | nil => rfl
  | cons first others inductionHypothesis =>
      obtain ⟨fresh, othersDifferent⟩ := List.nodup_cons.mp different
      have kept : others.filter (fun other => !other == first) = others := by
        refine List.filter_eq_self.mpr fun other present => ?_
        have distinct : other ≠ first := fun same => fresh (same ▸ present)
        simpa using distinct
      rw [List.eraseDups_cons, kept, inductionHypothesis othersDifferent]

section Order

variable [DecidableEq β]

theorem eraseDups_concat
    (values : List β)
    (value : β) :
    (values ++ [value]).eraseDups =
      if value ∈ values then values.eraseDups else values.eraseDups ++ [value] := by
  rw [List.eraseDups_append]
  split
  · next present => simp [List.removeAll, present]
  · next absent => simp [List.removeAll, absent, List.eraseDups_cons]

/-- What values have as their part is first found in the order of the first occurrences. -/
theorem pairwise_eraseDups_filterMap
    (part : α → Option β)
    (values : List α) :
    (values.filterMap part).eraseDups.Pairwise fun earlier later =>
      values.findIdx (fun value => part value = some earlier) <
        values.findIdx (fun value => part value = some later) := by
  induction values using List.reverseRecOn with
  | nil => simp
  | append_singleton values value inductionHypothesis =>
      -- Where a part is found in the front, the value behind does not matter.
      have found (known : β) (present : known ∈ (values.filterMap part).eraseDups) :
          values.findIdx (fun value => part value = some known) < values.length := by
        obtain ⟨source, listed, equal⟩ := List.mem_filterMap.mp (List.mem_eraseDups.mp present)
        exact List.findIdx_lt_length_of_exists ⟨source, listed, decide_eq_true equal⟩
      have front : (values.filterMap part).eraseDups.Pairwise fun earlier later =>
          (values ++ [value]).findIdx (fun value => part value = some earlier) <
            (values ++ [value]).findIdx (fun value => part value = some later) := by
        apply inductionHypothesis.imp_of_mem
        intro earlier later first second less
        rw [List.findIdx_append, if_pos (found earlier first), List.findIdx_append,
          if_pos (found later second)]
        exact less
      cases new : part value with
      | none => simpa [List.filterMap_append, new] using front
      | some last =>
          rw [List.filterMap_append, List.filterMap_cons_some new, List.filterMap_nil,
            eraseDups_concat]
          split
          · exact front
          · next absent =>
              have missed : ¬ values.findIdx (fun value => part value = some last) <
                  values.length := by
                rw [List.findIdx_lt_length]
                rintro ⟨source, listed, equal⟩
                exact absent (List.mem_filterMap.mpr ⟨source, listed, of_decide_eq_true equal⟩)
              rw [List.pairwise_append]
              refine ⟨front, List.pairwise_singleton _ _, ?_⟩
              intro earlier first later second
              rw [List.mem_singleton] at second
              rw [second, List.findIdx_append, if_pos (found earlier first), List.findIdx_append,
                if_neg missed]
              exact Nat.lt_of_lt_of_le (found earlier first) (Nat.le_add_left _ _)

end Order

section Count

variable
  [BEq α]
  [LawfulBEq α]
  {values others : List α}

theorem length_eraseDups_le_of_subset
    (subset : values ⊆ others) : values.eraseDups.length ≤ others.length := by
  apply List.Subperm.length_le
  apply (nodup_eraseDups values).subperm
  intro value present
  exact subset (List.mem_eraseDups.mp present)

end Count

end TableReach
