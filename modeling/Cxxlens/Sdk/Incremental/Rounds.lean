import Cxxlens.Sdk.Incremental.Paths

set_option autoImplicit false

/-! # The rounds of a closure

The loop of `bounded_transitive_closure` runs the rounds of its graph: the map of the reached rows is
a table of what each key has collected, and the frontier is what waits. -/

namespace Cxxlens.Sdk.Incremental

open Sorting Saturation

/-- A row whose sets are in order. -/
structure ClosureRow.Ordered (row : ClosureRow) : Prop where
  condition : row.conditionFragments.Pairwise (· < ·)
  evidence : row.evidence.Pairwise (· < ·)

theorem ClosureRow.Ordered.canonical {row : ClosureRow} (h : row.Ordered) : row.canonical = row := by
  rw [ClosureRow.canonical, canonicalStrings_of_pairwise h.condition,
    canonicalStrings_of_pairwise h.evidence]

theorem extendRow_ordered {row next : ClosureRow} {edge : ClosureEdge}
    (h : extendRow row edge = some next) : next.Ordered := by
  obtain ⟨-, -, -, rfl⟩ := extendRow_eq_some.1 h
  exact ⟨intersection_pairwise _ _, canonicalStrings_pairwise _⟩

theorem initialFrontier_ordered {roots : List Bytes} {edges : List ClosureEdge} {row : ClosureRow}
    (h : row ∈ initialFrontier roots (sortedEdges edges)) : row.Ordered := by
  obtain ⟨edge, hedge, -, rfl⟩ := mem_initialFrontier.1 h
  obtain ⟨held, -, rfl⟩ := mem_sortedEdges.1 hedge
  exact ⟨canonicalStrings_pairwise _, canonicalStrings_pairwise _⟩

/-- A map of rows stands for what its keys have collected. -/
structure Mirrors (reached : OrderedMap Key ClosureRow) (table : Graph.Table Key Bytes) : Prop where
  collected : ∀ key, table key = (reached.find key).map fun row => row.evidence.toFinset
  keyed : ∀ key row, reached.find key = some row → row.key = key ∧ row.Ordered

theorem Mirrors.empty : Mirrors OrderedMap.empty fun _ => none :=
  ⟨fun _ => rfl, fun _ _ h => by cases h⟩

theorem Mirrors.find_eq_none {reached : OrderedMap Key ClosureRow} {table : Graph.Table Key Bytes}
    (h : Mirrors reached table) {key : Key} (hfind : reached.find key = none) : table key = none := by
  rw [h.collected, hfind]
  rfl

theorem Mirrors.find_eq_some {reached : OrderedMap Key ClosureRow} {table : Graph.Table Key Bytes}
    (h : Mirrors reached table) {key : Key} {row : ClosureRow}
    (hfind : reached.find key = some row) : table key = some row.evidence.toFinset := by
  rw [h.collected, hfind]
  rfl

/-- A row that is written for its key. -/
theorem Mirrors.assign {reached : OrderedMap Key ClosureRow} {table : Graph.Table Key Bytes}
    (h : Mirrors reached table) {row : ClosureRow} (hrow : row.Ordered) {evidence : Finset Bytes}
    (hevidence : row.evidence.toFinset = evidence) :
    Mirrors (reached.assign row.key row) (Function.update table row.key (some evidence)) := by
  constructor
  · intro key
    rw [OrderedMap.find_assign]
    by_cases hkey : row.key = key
    · subst hkey
      rw [Function.update_self, if_pos rfl, Option.map_some, hevidence]
    · rw [Function.update_of_ne (Ne.symm hkey), if_neg hkey, h.collected]
  · intro key held hheld
    rw [OrderedMap.find_assign] at hheld
    by_cases hkey : row.key = key
    · rw [if_pos hkey, Option.some_inj] at hheld
      exact hheld ▸ ⟨hkey, hrow⟩
    · rw [if_neg hkey] at hheld
      exact h.keyed key held hheld

/-! ## One row -/

section Visit

variable (roots : List Bytes) (edges : List ClosureEdge)

/-- A row sends on what the graph sends on. -/
theorem expand_waiting (row : ClosureRow) :
    (closureGraph roots edges).expand row.waiting =
      (edges.filterMap (extendRow row)).map ClosureRow.waiting := by
  rw [Graph.expand, List.map_filterMap]
  refine List.filterMap_congr fun edge _ => ?_
  rw [ClosureRow.waiting, follow_key, Option.map_map]
  refine Option.map_congr fun next hnext => ?_
  obtain ⟨-, -, -, rfl⟩ := extendRow_eq_some.1 hnext
  have hevidence : (canonicalStrings (row.evidence ++ edge.evidence)).toFinset =
      row.evidence.toFinset ∪ edge.evidence.toFinset := by
    ext x
    simp
  rw [ClosureRow.waiting, hevidence]
  rfl

/-- A row brings nothing new when the merged evidence is as long as before. -/
theorem fresh_iff {reached : OrderedMap Key ClosureRow} {table : Graph.Table Key Bytes}
    (h : Mirrors reached table) {row known : ClosureRow} (hfind : reached.find row.key = some known) :
    Graph.Fresh table row.waiting ↔
      (canonicalStrings (known.evidence ++ row.evidence)).length ≠ known.evidence.length := by
  have hknown := (h.keyed _ _ hfind).2.evidence
  have hfresh : Graph.Fresh table row.waiting ↔
      ¬ row.evidence.toFinset ⊆ known.evidence.toFinset := by
    constructor
    · intro hfresh
      exact hfresh _ (h.find_eq_some hfind)
    · intro hnot other hother
      have hsame := (h.find_eq_some hfind).symm.trans hother
      exact Option.some.inj hsame ▸ hnot
  rw [hfresh, not_iff_not]
  constructor
  · intro hsub
    congr 1
    refine pairwise_lt_ext (canonicalStrings_pairwise _) hknown fun x => ?_
    rw [mem_canonicalStrings, List.mem_append]
    constructor
    · rintro (hold | hnew)
      · exact hold
      · exact List.mem_toFinset.1 (hsub (List.mem_toFinset.2 hnew))
    · exact Or.inl
  · intro hlength
    -- Two ascending lists of one length, the one within the other, hold the same.
    have hnodup : ∀ {values : List Bytes}, values.Pairwise (· < ·) →
        values.toFinset.card = values.length := fun hvalues =>
      List.toFinset_card_of_nodup (hvalues.imp fun hlt => hlt.ne)
    have hsub : known.evidence.toFinset ⊆
        (canonicalStrings (known.evidence ++ row.evidence)).toFinset := by
      intro x hx
      simp [List.mem_toFinset.1 hx]
    have hsame := Finset.eq_of_subset_of_card_le hsub (by
      rw [hnodup (canonicalStrings_pairwise _), hnodup hknown, hlength])
    rw [hsame]
    intro x hx
    simp [List.mem_toFinset.1 hx]

/-- One row is visited as in the graph. -/
theorem visitRow_mirrors {reached : OrderedMap Key ClosureRow} {table : Graph.Table Key Bytes}
    (h : Mirrors reached table) {row : ClosureRow} (hrow : row.Ordered) (next : List ClosureRow) :
    ∃ after, (closureGraph roots edges).visit (table, next.map ClosureRow.waiting) row.waiting =
        (after, (visitRow edges (reached, next) row).2.map ClosureRow.waiting) ∧
      Mirrors (visitRow edges (reached, next) row).1 after := by
  rw [visitRow, hrow.canonical]
  dsimp only
  cases hfind : reached.find row.key with
  | none =>
      have hnone := h.find_eq_none hfind
      have hfresh : Graph.Fresh table row.waiting := by
        intro known hknown
        exact absurd (hnone.symm.trans hknown) (by simp)
      rw [Graph.visit_of_fresh _ hfresh, expand_waiting roots edges, ← List.map_append]
      refine ⟨_, rfl, h.assign hrow ?_⟩
      rw [ClosureRow.waiting]
      simp [hnone]
  | some known =>
      obtain ⟨hkey, hknown⟩ := h.keyed _ _ hfind
      have hmerged : (canonicalStrings (known.evidence ++ row.evidence)).toFinset =
          known.evidence.toFinset ∪ row.evidence.toFinset := by
        ext x
        simp
      have hordered : ClosureRow.Ordered
          { known with evidence := canonicalStrings (known.evidence ++ row.evidence) } :=
        ⟨hknown.condition, canonicalStrings_pairwise _⟩
      have hassigned := h.assign hordered hmerged
      have hrowKey : ClosureRow.key
          { known with evidence := canonicalStrings (known.evidence ++ row.evidence) } = row.key :=
        hkey
      rw [hrowKey] at hassigned
      by_cases hlength : (canonicalStrings (known.evidence ++ row.evidence)).length =
          known.evidence.length
      · have hstale : ¬ Graph.Fresh table row.waiting := by
          rw [fresh_iff h hfind]
          exact not_not.2 hlength
        obtain ⟨held, hheld, hsub⟩ := Graph.not_fresh hstale
        have hsame := Option.some.inj ((h.find_eq_some hfind).symm.trans hheld)
        rw [Graph.visit_of_not_fresh _ hstale]
        dsimp only
        rw [if_pos hlength]
        refine ⟨table, rfl, ?_⟩
        rwa [Finset.union_eq_left.2 (hsame ▸ hsub), ← h.find_eq_some hfind,
          Function.update_eq_self] at hassigned
      · have hfresh := (fresh_iff h hfind).2 hlength
        rw [Graph.visit_of_fresh _ hfresh, expand_waiting roots edges, ← List.map_append]
        dsimp only
        rw [if_neg hlength]
        refine ⟨_, rfl, ?_⟩
        rw [Graph.merge, ClosureRow.waiting]
        dsimp only
        rw [h.find_eq_some hfind, Option.getD_some]
        exact hassigned

theorem visitRow_ordered {state : Visited} (h : ∀ row ∈ state.2, row.Ordered) (row : ClosureRow) :
    ∀ next ∈ (visitRow edges state row).2, next.Ordered := by
  have hsent : ∀ next ∈ state.2 ++ edges.filterMap (extendRow row.canonical), next.Ordered := by
    intro next hnext
    rcases List.mem_append.1 hnext with hold | hnew
    · exact h next hold
    · obtain ⟨edge, -, hextend⟩ := List.mem_filterMap.1 hnew
      exact extendRow_ordered hextend
  rw [visitRow]
  dsimp only
  split
  · exact hsent
  · split_ifs
    · exact h
    · exact hsent

theorem foldl_visitRow_mirrors {frontier : List ClosureRow} :
    ∀ {reached : OrderedMap Key ClosureRow} {table : Graph.Table Key Bytes} {next : List ClosureRow},
      Mirrors reached table → (∀ row ∈ frontier, row.Ordered) → (∀ row ∈ next, row.Ordered) →
      ∃ after, (frontier.map ClosureRow.waiting).foldl (closureGraph roots edges).visit
          (table, next.map ClosureRow.waiting) =
          (after, (frontier.foldl (visitRow edges) (reached, next)).2.map ClosureRow.waiting) ∧
        Mirrors (frontier.foldl (visitRow edges) (reached, next)).1 after ∧
        ∀ row ∈ (frontier.foldl (visitRow edges) (reached, next)).2, row.Ordered := by
  induction frontier with
  | nil => exact fun hmirrors _ hnext => ⟨_, rfl, hmirrors, hnext⟩
  | cons row rest ih =>
      intro reached table next hmirrors hfrontier hnext
      have hrest := fun other hother => hfrontier other (List.mem_cons_of_mem row hother)
      obtain ⟨visited, hvisit, hvisited⟩ := visitRow_mirrors roots edges hmirrors
        (hfrontier row List.mem_cons_self) next
      rw [List.map_cons, List.foldl_cons, List.foldl_cons, hvisit]
      exact ih hvisited hrest (visitRow_ordered edges hnext row)

end Visit

/-! ## The loop -/

/-- The state of the loop after some rounds. -/
def Explores (roots : List Bytes) (edges : List ClosureEdge) (state : Exploration) : Prop :=
  ∃ table, (closureGraph roots edges).Rounds state.iterations.toNat table
      (state.frontier.map ClosureRow.waiting) ∧
    Mirrors state.reached table ∧ ∀ row ∈ state.frontier, row.Ordered

theorem Explores.round {roots : List Bytes} {edges : List ClosureEdge} {state : Exploration}
    (h : Explores roots edges state) (hroom : state.iterations.toNat + 1 < 2 ^ 64) :
    Explores roots edges (state.round edges) := by
  obtain ⟨table, hrounds, hmirrors, hordered⟩ := h
  have hnone : ∀ row ∈ ([] : List ClosureRow), row.Ordered := by simp
  obtain ⟨after, hvisit, hafter, hnext⟩ := foldl_visitRow_mirrors roots edges hmirrors hordered hnone
  have hcount : (state.iterations + 1).toNat = state.iterations.toNat + 1 := by
    rw [UInt64.toNat_add]
    exact Nat.mod_eq_of_lt hroom
  have hperm := (sortBy_perm rowLess
    (state.frontier.foldl (visitRow edges) (state.reached, [])).2).map ClosureRow.waiting
  have hround : (closureGraph roots edges).Rounds (state.iterations.toNat + 1) after
      ((sortBy rowLess (state.frontier.foldl (visitRow edges) (state.reached, [])).2).map
        ClosureRow.waiting) := by
    rw [List.map_nil] at hvisit
    obtain ⟨hfirst, hsecond⟩ := Prod.ext_iff.1 hvisit
    dsimp only at hfirst hsecond
    rw [← hsecond] at hperm
    rw [← hfirst]
    exact hrounds.round hperm
  refine ⟨after, ?_, hafter, ?_⟩
  · rw [Exploration.round, hcount]
    exact hround
  · intro row hrow
    exact hnext row ((mem_sortBy _ _ _).1 hrow)

theorem explore_explores {roots : List Bytes} {edges : List ClosureEdge} {maxIterations : UInt64} :
    ∀ {fuel : Nat} {state : Exploration}, Explores roots edges state →
      fuel + state.iterations.toNat = maxIterations.toNat →
      Explores roots edges (explore edges maxIterations fuel state)
  | 0, _, h, _ => h
  | fuel + 1, state, h, hfuel => by
      rw [explore]
      have hlt := maxIterations.toNat_lt
      split_ifs with hdone
      · exact h
      · have hcount : (state.round edges).iterations.toNat = state.iterations.toNat + 1 := by
          rw [Exploration.round, UInt64.toNat_add]
          exact Nat.mod_eq_of_lt (by simp only [UInt64.toNat_one]; omega)
        exact explore_explores (h.round (by omega)) (by omega)

end Cxxlens.Sdk.Incremental
