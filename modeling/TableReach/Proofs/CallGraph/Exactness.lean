import TableReach.Proofs.CallGraph.Layers
import TableReach.Proofs.MethodId
import Mathlib.Data.Set.Card

/-!
# Exactness of a search

What a search gives, said by distances: it visits the methods whose distance its
limit allows, its terminals are those of them that belong to the data-access
layer, and it was cut off exactly if a method at the greatest distance calls
another.
-/

namespace TableReach

/-- The class of an identifier ends with one of the endings, empty ones left out. -/
def InDataAccessLayer
    (suffixes : List String)
    (id : MethodId) : Prop :=
  ∃ className method, id.HasParts className method ∧
    ∃ suffix ∈ suffixes, suffix ≠ "" ∧ suffix.toList <:+ className.toList

namespace Convention

theorem isDataAccess_ofSuffixes_iff
    (suffixes : List String)
    (name : String) :
    (ofSuffixes suffixes).isDataAccess name = true ↔
      ∃ suffix ∈ suffixes, suffix ≠ "" ∧ suffix.toList <:+ name.toList := by
  simp [isDataAccess, ofSuffixes]

/-- The class of an identifier belongs to the data-access layer. -/
theorem isDataAccess_className_iff
    (suffixes : List String)
    (id : MethodId) :
    (ofSuffixes suffixes).isDataAccess id.className = true ↔ InDataAccessLayer suffixes id := by
  rw [isDataAccess_ofSuffixes_iff]
  constructor
  · intro ending
    exact ⟨id.className, id.method, MethodId.hasParts_iff.mpr rfl, ending⟩
  · rintro ⟨className, method, parts, ending⟩
    have equal : id.className = className := congrArg Prod.fst (MethodId.hasParts_iff.mp parts)
    rw [equal]
    exact ending

end Convention

namespace CallGraph

variable
  (edges : List CallEdge)
  (maxDepth : Nat)
  (entry : MethodId)

/-- The methods that a search meets are those whose distance is positive and at most the number
of layers. -/
theorem mem_discoveries_iff
    (id : MethodId) :
    id ∈ ((ofEdges edges).reach maxDepth entry).discoveries.map Prod.snd ↔
      ∃ distance, 0 < distance ∧
        distance ≤ ((ofEdges edges).reach maxDepth entry).layers.length ∧
        IsDistance edges entry id distance := by
  simp only [Reach.discoveries, List.mem_map, List.mem_flatten]
  constructor
  · rintro ⟨call, ⟨layer, layerPresent, callPresent⟩, rfl⟩
    obtain ⟨index, position⟩ := List.mem_iff_getElem?.mp layerPresent
    have distance := (Frontier.initial.mem_layer position call.2).mp
      (List.mem_map_of_mem callPresent)
    rw [Nat.zero_add] at distance
    obtain ⟨inside, _⟩ := List.getElem?_eq_some_iff.mp position
    exact ⟨index + 1, Nat.succ_pos index, inside, distance⟩
  · rintro ⟨distance, positive, inside, shortest⟩
    obtain ⟨index, rfl⟩ : ∃ index, distance = index + 1 := ⟨distance - 1, by omega⟩
    have position := List.getElem?_eq_getElem (Nat.lt_of_succ_le inside)
    have found := (Frontier.initial.mem_layer position id).mpr (by simpa using shortest)
    obtain ⟨call, callPresent, equal⟩ := List.mem_map.mp found
    exact ⟨call, ⟨_, List.mem_of_getElem? position, callPresent⟩, equal⟩

theorem nodup_discoveries :
    (((ofEdges edges).reach maxDepth entry).discoveries.map Prod.snd).Nodup :=
  Frontier.initial.nodup_layers

/-- Every layer holds a method that is called, and no method is in two layers, so there are no
more layers than calls. -/
theorem length_layers_le_edgeCount :
    ((ofEdges edges).reach maxDepth entry).layers.length ≤ (ofEdges edges).edgeCount := by
  have called :
      ((ofEdges edges).reach maxDepth entry).discoveries.map Prod.snd ⊆
        (ofEdges edges).adjacency.flatMap Prod.snd := by
    intro id found
    rw [mem_discoveries_iff] at found
    obtain ⟨distance, positive, _, shortest⟩ := found
    obtain ⟨before, rfl⟩ : ∃ before, distance = before + 1 := ⟨distance - 1, by omega⟩
    obtain ⟨caller, _, edge, listed, _, rfl⟩ := shortest.exists_predecessor
    exact (mem_called_ofEdges edges).mpr (List.mem_map_of_mem listed)
  have bound := ((nodup_discoveries edges maxDepth entry).subperm called).length_le
  rw [List.length_map, ← isCounted_ofEdges] at bound
  exact Nat.le_trans (length_layersFrom_le_length_flatten _ _ _ _) bound

/-- A method lies within the layers of a search exactly if the limit allows its distance. -/
theorem le_length_layers_iff
    {id : MethodId}
    {distance : Nat}
    (shortest : IsDistance edges entry id distance) :
    distance ≤ ((ofEdges edges).reach maxDepth entry).layers.length ↔
      WithinLimit maxDepth distance := by
  have fewCalls := length_layers_le_edgeCount edges maxDepth entry
  have fewLayers :
      ((ofEdges edges).reach maxDepth entry).layers.length ≤
        if maxDepth == 0 then (ofEdges edges).layerBound
        else min maxDepth (ofEdges edges).layerBound :=
    length_layersFrom_le _ _ _ _
  have complete
      (few : ((ofEdges edges).reach maxDepth entry).layers.length <
        if maxDepth == 0 then (ofEdges edges).layerBound
        else min maxDepth (ofEdges edges).layerBound) :
      distance ≤ ((ofEdges edges).reach maxDepth entry).layers.length := by
    by_contra beyond
    obtain ⟨next, nextDistance⟩ := shortest.exists_of_le (Nat.lt_of_not_le beyond)
    have none := Frontier.initial.not_isDistance_of_length_lt few next
    rw [Nat.zero_add] at none
    exact none nextDistance
  simp only [beq_iff_eq, layerBound] at fewLayers complete
  unfold WithinLimit
  split at fewLayers
  · next unlimited =>
      constructor
      · intro _
        exact Or.inl unlimited
      · intro _
        apply complete
        rw [if_pos unlimited]
        omega
  · next limited =>
      simp only [limited, false_or]
      rw [if_neg limited] at complete
      constructor
      · omega
      · intro inside
        by_contra beyond
        exact beyond (complete (by omega))

/-- The methods that a search meets are those other than the entry whose distance the limit
allows. -/
theorem mem_discoveries_iff_withinLimit
    (id : MethodId) :
    id ∈ ((ofEdges edges).reach maxDepth entry).discoveries.map Prod.snd ↔
      id ≠ entry ∧
        ∃ distance, IsDistance edges entry id distance ∧ WithinLimit maxDepth distance := by
  rw [mem_discoveries_iff]
  constructor
  · rintro ⟨distance, positive, inside, shortest⟩
    refine ⟨?_, distance, shortest, (le_length_layers_iff edges maxDepth entry shortest).mp inside⟩
    intro equal
    have zero := shortest.unique (IsDistance.zero_iff.mpr equal)
    omega
  · rintro ⟨different, distance, shortest, inside⟩
    refine ⟨distance, ?_, (le_length_layers_iff edges maxDepth entry shortest).mpr inside, shortest⟩
    apply Nat.pos_of_ne_zero
    intro equal
    subst equal
    exact different (IsDistance.zero_iff.mp shortest)

/-- The last layer of a search that used up its limit holds the methods at the greatest distance;
where it did not, there is no method that far away. -/
theorem mem_last_iff
    (limited : maxDepth ≠ 0)
    (id : MethodId) :
    id ∈ (if ((ofEdges edges).reach maxDepth entry).layers.length == maxDepth then
        (((ofEdges edges).reach maxDepth entry).layers.getLast?.getD []).map Prod.snd
      else []) ↔
      IsDistance edges entry id maxDepth := by
  obtain ⟨index, rfl⟩ : ∃ index, maxDepth = index + 1 := ⟨maxDepth - 1, by omega⟩
  split
  · next full =>
      rw [beq_iff_eq] at full
      have position := List.getElem?_eq_getElem (show index <
        ((ofEdges edges).reach (index + 1) entry).layers.length by omega)
      rw [List.getLast?_eq_getElem?, full, Nat.add_sub_cancel, position, Option.getD_some,
        Frontier.initial.mem_layer position, Nat.zero_add]
  · next unfilled =>
      simp only [beq_iff_eq] at unfilled
      simp only [List.not_mem_nil, false_iff]
      intro shortest
      have inside := (le_length_layers_iff edges (index + 1) entry shortest).mpr
        (Or.inr (Nat.le_refl _))
      have bound : ((ofEdges edges).reach (index + 1) entry).layers.length ≤
          min (index + 1) (ofEdges edges).layerBound :=
        length_layersFrom_le _ _ _ _
      omega

/-- A search was cut off exactly if a method at the greatest distance calls another. -/
theorem truncated_iff :
    ((ofEdges edges).reach maxDepth entry).truncated = true ↔
      0 < maxDepth ∧
        ∃ id, IsDistance edges entry id maxDepth ∧ ∃ callee, Calls edges id callee := by
  have calls (id : MethodId) :
      ((ofEdges edges).successors id).isEmpty = false ↔ ∃ callee, Calls edges id callee := by
    rw [List.isEmpty_eq_false_iff_exists_mem]
    simp only [mem_successors_ofEdges]
  unfold reach
  simp only [Bool.and_eq_true, bne_iff_ne, List.any_eq_true, Bool.not_eq_true', calls]
  rw [Nat.pos_iff_ne_zero]
  constructor
  · rintro ⟨limited, id, last, callee⟩
    exact ⟨limited, id, (mem_last_iff edges maxDepth entry limited id).mp last, callee⟩
  · rintro ⟨limited, id, distance, callee⟩
    exact ⟨limited, id, (mem_last_iff edges maxDepth entry limited id).mpr distance, callee⟩

/-- The entry and the methods that a search meets are as many as the methods whose distance the
limit allows. -/
theorem visited_eq_encard :
    (((ofEdges edges).reach maxDepth entry).visited : ℕ∞) =
      Set.encard {id | ∃ distance,
        IsDistance edges entry id distance ∧ WithinLimit maxDepth distance} := by
  classical
  let met := entry :: ((ofEdges edges).reach maxDepth entry).discoveries.map Prod.snd
  have nodup : met.Nodup := by
    rw [List.nodup_cons]
    refine ⟨?_, nodup_discoveries edges maxDepth entry⟩
    rw [mem_discoveries_iff_withinLimit]
    exact fun found => found.1 rfl
  have same : {id | ∃ distance,
      IsDistance edges entry id distance ∧ WithinLimit maxDepth distance} =
        (met.toFinset : Set MethodId) := by
    ext id
    rw [Set.mem_ofPred_eq, Finset.mem_coe, List.mem_toFinset, List.mem_cons,
      mem_discoveries_iff_withinLimit]
    constructor
    · intro reached
      exact (eq_or_ne id entry).imp_right fun different => ⟨different, reached⟩
    · rintro (rfl | ⟨_, reached⟩)
      · exact ⟨0, IsDistance.zero_iff.mpr rfl, Or.inr (Nat.zero_le _)⟩
      · exact reached
  rw [same, Set.encard_coe_eq_coe_finsetCard, List.toFinset_card_of_nodup nodup]
  simp [met, Reach.visited]

end CallGraph

/-- A search is exact at every depth.  It visits as many methods as have a distance that its limit
allows.  Its terminals are, each once, those of them that are not the entry and belong to the
data-access layer.  It was cut off exactly if a method at the greatest distance calls another. -/
theorem Search.run_exact
    (edges : List CallEdge)
    (suffixes : List String)
    (maxDepth : Nat)
    (entry : MethodId) :
    let search : Search :=
      { convention := Convention.ofSuffixes suffixes, maxDepth := maxDepth }
    let reach := (search.run (CallGraph.build edges).value entry).value
    (reach.visited : ℕ∞) =
        Set.encard {id | ∃ distance,
          IsDistance edges entry id distance ∧ WithinLimit maxDepth distance} ∧
      (reach.terminals search.convention).Nodup ∧
      (∀ id, id ∈ reach.terminals search.convention ↔
        id ≠ entry ∧
          (∃ distance, IsDistance edges entry id distance ∧ WithinLimit maxDepth distance) ∧
          InDataAccessLayer suffixes id) ∧
      (reach.truncated = true ↔
        0 < maxDepth ∧
          ∃ id, IsDistance edges entry id maxDepth ∧ ∃ callee, Calls edges id callee) := by
  intro search reach
  refine ⟨CallGraph.visited_eq_encard edges maxDepth entry, ?_, ?_,
    CallGraph.truncated_iff edges maxDepth entry⟩
  · exact (CallGraph.nodup_discoveries edges maxDepth entry).filter _
  · intro id
    rw [Reach.terminals, List.mem_filter, Convention.isDataAccess_className_iff, ← and_assoc]
    exact and_congr_left fun _ =>
      CallGraph.mem_discoveries_iff_withinLimit edges maxDepth entry id

end TableReach
