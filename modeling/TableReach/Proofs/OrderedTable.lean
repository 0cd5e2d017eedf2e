import TableReach.OrderedTable
import TableReach.Proofs.FirstOccurrences

/-!
# Laws of ordered tables

Filled item by item, a table lists the keys in the order of their first items, each
with what its own items make.
-/

namespace TableReach

variable [DecidableEq κ]

/-- Fill a table item by item. -/
def tabulate
    (key : ι → κ)
    (start : ν)
    (add : ν → ι → ν)
    (items : List ι) : List (κ × ν) :=
  items.foldl (fun table item => upsert start (add · item) (key item) table) []

section Upsert

variable
  (start : ν)
  (change : ν → ν)

/-- In a table of different keys the value of the one key is changed. -/
theorem upsert_map_of_mem
    {keys : List κ}
    (different : keys.Nodup)
    {key : κ}
    (present : key ∈ keys)
    (value : κ → ν) :
    upsert start change key (keys.map fun other => (other, value other)) =
      keys.map fun other => (other, if other = key then change (value other) else value other) := by
  induction keys with
  | nil => cases present
  | cons first others inductionHypothesis =>
      obtain ⟨fresh, othersDifferent⟩ := List.nodup_cons.mp different
      rw [List.map_cons, upsert, List.map_cons]
      by_cases same : first = key
      · subst same
        simp only [if_true, List.cons.injEq, true_and]
        apply List.map_congr_left
        intro other listed
        rw [if_neg (ne_of_mem_of_not_mem listed fresh)]
      · rw [if_neg same, if_neg same,
          inductionHypothesis othersDifferent ((List.mem_cons.mp present).resolve_left
            (Ne.symm same))]

/-- A new key comes last. -/
theorem upsert_of_notMem
    {table : List (κ × ν)}
    {key : κ}
    (absent : key ∉ table.map Prod.fst) :
    upsert start change key table = table ++ [(key, change start)] := by
  induction table with
  | nil => rfl
  | cons entry others inductionHypothesis =>
      rw [List.map_cons, List.mem_cons, not_or] at absent
      rw [upsert, if_neg (Ne.symm absent.1), inductionHypothesis absent.2, List.cons_append]

/-- Where the value of a key is not changed, the table is not. -/
theorem upsert_of_lookup
    {table : List (κ × ν)}
    {key : κ}
    {value : ν}
    (present : table.lookup key = some value)
    (unchanged : change value = value) : upsert start change key table = table := by
  induction table with
  | nil => cases present
  | cons entry others inductionHypothesis =>
      rw [List.lookup_cons] at present
      rw [upsert]
      by_cases same : key = entry.1
      · obtain rfl : entry.2 = value := by simpa [same] using present
        rw [if_pos same.symm, unchanged]
      · rw [beq_eq_false_iff_ne.mpr same] at present
        rw [if_neg (Ne.symm same), inductionHypothesis present]

/-- Keys that stay different may be renamed before or after a change. -/
theorem upsert_map_key
    [DecidableEq μ]
    {rename : κ → μ}
    (injective : Function.Injective rename)
    (key : κ)
    (table : List (κ × ν)) :
    upsert start change (rename key) (table.map fun entry => (rename entry.1, entry.2)) =
      (upsert start change key table).map fun entry => (rename entry.1, entry.2) := by
  induction table with
  | nil => rfl
  | cons entry others inductionHypothesis =>
      rw [List.map_cons, upsert, upsert]
      by_cases same : entry.1 = key
      · rw [if_pos (congrArg rename same), if_pos same, List.map_cons]
      · rw [if_neg (injective.ne same), if_neg same, inductionHypothesis, List.map_cons]

end Upsert

section Tabulate

variable
  (key : ι → κ)
  (start : ν)
  (add : ν → ι → ν)

theorem tabulate_concat
    (items : List ι)
    (item : ι) :
    tabulate key start add (items ++ [item]) =
      upsert start (add · item) (key item) (tabulate key start add items) := by
  rw [tabulate, List.foldl_append]
  rfl

/-- A table lists the keys in the order of their first items, each with what its items make. -/
theorem tabulate_eq
    (items : List ι) :
    tabulate key start add items =
      (items.map key).eraseDups.map fun value =>
        (value, (items.filter fun item => key item = value).foldl add start) := by
  -- The induction is on the last item, since the table is filled from the front.
  induction items using List.reverseRecOn with
  | nil => rfl
  | append_singleton items item inductionHypothesis =>
      have later (value : κ) :
          ((items ++ [item]).filter fun item => key item = value).foldl add start =
            if value = key item then
              add ((items.filter fun item => key item = value).foldl add start) item
            else (items.filter fun item => key item = value).foldl add start := by
        rw [List.filter_append, List.foldl_append]
        by_cases same : value = key item
        · simp [same]
        · simp [same, Ne.symm same]
      simp only [tabulate_concat, inductionHypothesis, List.map_append, List.map_singleton,
        eraseDups_concat, later]
      split
      · next present =>
          exact upsert_map_of_mem start (add · item) (nodup_eraseDups _)
            (List.mem_eraseDups.mpr present) _
      · next absent =>
          -- No earlier item has the key, so its value is made of this item alone.
          have unlisted : key item ∉ (items.map key).eraseDups :=
            fun listed => absent (List.mem_eraseDups.mp listed)
          have empty : items.filter (fun other => key other = key item) = [] := by
            rw [List.filter_eq_nil_iff]
            intro other listed equal
            exact absent (of_decide_eq_true equal ▸ List.mem_map_of_mem listed)
          rw [upsert_of_notMem, List.map_append, List.map_singleton, if_pos rfl, empty]
          · congr 1
            apply List.map_congr_left
            intro other listed
            rw [if_neg (ne_of_mem_of_not_mem listed unlisted)]
          · simpa [Function.comp_def] using unlisted

/-- Counting item by item counts the items of each key. -/
theorem tabulate_count
    (items : List ι) :
    tabulate key 0 (fun count _ => count + 1) items =
      (items.map key).eraseDups.map fun value => (value, (items.map key).count value) := by
  have counted (items : List ι) (start : Nat) :
      items.foldl (fun count _ => count + 1) start = start + items.length := by
    induction items generalizing start with
    | nil => rfl
    | cons item others inductionHypothesis =>
        rw [List.foldl_cons, inductionHypothesis, List.length_cons]
        omega
  rw [tabulate_eq]
  apply List.map_congr_left
  intro value _
  rw [counted, Nat.zero_add, ← List.countP_eq_length_filter, List.count, List.countP_map]
  rfl

end Tabulate

section Group

variable (key : ι → κ)

/-- Put each item behind the earlier ones of its key. -/
def group (items : List ι) : List (κ × List ι) :=
  tabulate key [] (fun earlier item => earlier ++ [item]) items

/-- A group holds the items of its key, in order. -/
theorem group_eq
    (items : List ι) :
    group key items =
      (items.map key).eraseDups.map fun value =>
        (value, items.filter fun item => key item = value) := by
  have appended (items earlier : List ι) :
      items.foldl (fun earlier item => earlier ++ [item]) earlier = earlier ++ items := by
    induction items generalizing earlier with
    | nil => simp
    | cons item others inductionHypothesis =>
        rw [List.foldl_cons, inductionHypothesis, List.append_assoc, List.singleton_append]
  rw [group, tabulate_eq]
  apply List.map_congr_left
  intro value _
  rw [appended, List.nil_append]

/-- Of groups of different keys only one holds the items of a key. -/
theorem filter_flatMap_filter
    {keys : List κ}
    (different : keys.Nodup)
    (items : List ι)
    (value : κ) :
    (keys.flatMap fun other => items.filter fun item => key item = other).filter
        (fun item => key item = value) =
      if value ∈ keys then items.filter fun item => key item = value else [] := by
  induction keys with
  | nil => simp
  | cons first others inductionHypothesis =>
      obtain ⟨fresh, othersDifferent⟩ := List.nodup_cons.mp different
      rw [List.flatMap_cons, List.filter_append, inductionHypothesis othersDifferent,
        List.filter_filter]
      by_cases same : value = first
      · simp [same, fresh]
      · have none : items.filter (fun item => key item = value && key item = first) = [] := by
          rw [List.filter_eq_nil_iff]
          intro item _ both
          simp only [Bool.and_eq_true, decide_eq_true_eq] at both
          exact same (both.1.symm.trans both.2)
        simp [none, same]

/-- Grouping keeps the items of each key in order. -/
theorem filter_flatMap_group
    (items : List ι)
    (value : κ) :
    ((group key items).flatMap Prod.snd).filter (fun item => key item = value) =
      items.filter fun item => key item = value := by
  rw [group_eq, List.flatMap_map, filter_flatMap_filter key (nodup_eraseDups _)]
  split
  · rfl
  · next absent =>
      symm
      rw [List.filter_eq_nil_iff]
      intro item listed equal
      apply absent
      rw [List.mem_eraseDups, ← of_decide_eq_true equal]
      exact List.mem_map_of_mem listed

/-- Lists that agree on the items of every key are rearrangements of each other. -/
theorem perm_of_filter_key
    [DecidableEq ι]
    {left right : List ι}
    (same : ∀ value, (left.filter fun item => key item = value) =
      right.filter fun item => key item = value) : left.Perm right := by
  rw [List.perm_iff_count]
  intro item
  have count := congrArg (List.count item) (same (key item))
  rwa [List.count_filter (by simp), List.count_filter (by simp)] at count

end Group
end TableReach
