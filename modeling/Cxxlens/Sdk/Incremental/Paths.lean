import Cxxlens.Foundation.Saturation
import Cxxlens.Sdk.Incremental.Closure

set_option autoImplicit false

/-! # Paths

What the rows of a closure stand for: paths along edges of one interpretation, with the fragments all
their edges share and the evidence of any of them. The rounds of `bounded_transitive_closure` are
those of a `Saturation.Graph` whose keys are the keys of the rows. -/

namespace Cxxlens.Sdk.Incremental

open Sorting Saturation

/-- The edges of a path from a root to a target, all of one interpretation. -/
inductive Walk (edges : List ClosureEdge) (root interpretation : Bytes) :
    List ClosureEdge → Bytes → Prop
  | edge {edge : ClosureEdge} (hmem : edge ∈ edges) (hfrom : edge.from = root)
      (hinterpretation : edge.interpretation = interpretation) :
      Walk edges root interpretation [edge] edge.to
  | step {path : List ClosureEdge} {target : Bytes} {edge : ClosureEdge}
      (walk : Walk edges root interpretation path target) (hmem : edge ∈ edges)
      (hfrom : edge.from = target) (hinterpretation : edge.interpretation = interpretation) :
      Walk edges root interpretation (path ++ [edge]) edge.to

/-- The fragments all edges of a path share. -/
def sharedFragments (path : List ClosureEdge) : List Bytes :=
  canonicalStrings ((path.flatMap ClosureEdge.conditionFragments).filter fun fragment =>
    path.all fun edge => edge.conditionFragments.contains fragment)

/-- The evidence of any edge of a path. -/
def collectedEvidence (path : List ClosureEdge) : Finset Bytes :=
  (path.flatMap ClosureEdge.evidence).toFinset

/-- A path of a request from a root to a target with a condition that is not empty. -/
structure PathOf (request : ClosureRequest) (root target interpretation : Bytes)
    (condition : List Bytes) (path : List ClosureEdge) : Prop where
  isRoot : root ∈ request.roots
  walk : Walk request.edges root interpretation path target
  shared : condition = sharedFragments path
  nonempty : condition ≠ []

theorem Walk.ne_nil {edges path : List ClosureEdge} {root interpretation target : Bytes}
    (h : Walk edges root interpretation path target) : path ≠ [] := by
  cases h <;> simp

theorem mem_sharedFragments {path : List ClosureEdge} (h : path ≠ []) (fragment : Bytes) :
    fragment ∈ sharedFragments path ↔ ∀ edge ∈ path, fragment ∈ edge.conditionFragments := by
  simp only [sharedFragments, mem_canonicalStrings, List.mem_filter, List.mem_flatMap,
    List.all_eq_true, List.contains_iff_mem]
  constructor
  · exact And.right
  · intro hall
    obtain ⟨edge, hedge⟩ := List.exists_mem_of_ne_nil path h
    exact ⟨⟨edge, hedge, hall edge hedge⟩, hall⟩

theorem sharedFragments_eq {path : List ClosureEdge} (h : path ≠ []) {condition : List Bytes}
    (hordered : condition.Pairwise (· < ·))
    (hmem : ∀ fragment, fragment ∈ condition ↔ ∀ edge ∈ path, fragment ∈ edge.conditionFragments) :
    condition = sharedFragments path :=
  pairwise_lt_ext hordered (canonicalStrings_pairwise _) fun fragment =>
    (hmem fragment).trans (mem_sharedFragments h fragment).symm

theorem mem_intersection (left right : List Bytes) (fragment : Bytes) :
    fragment ∈ intersection left right ↔ fragment ∈ left ∧ fragment ∈ right := by
  rw [intersection, setIntersection_eq (canonicalStrings_pairwise _) (canonicalStrings_pairwise _)]
  simp

theorem intersection_pairwise (left right : List Bytes) :
    (intersection left right).Pairwise (· < ·) := by
  rw [intersection, setIntersection_eq (canonicalStrings_pairwise _) (canonicalStrings_pairwise _)]
  exact (canonicalStrings_pairwise left).filter _

/-! ## The graph -/

/-- The row of a key, without evidence. -/
def rowOf (key : Key) : ClosureRow where
  root := (ofLex key).1
  target := (ofLex (ofLex key).2).1
  interpretation := (ofLex (ofLex (ofLex key).2).2).1
  conditionFragments := (ofLex (ofLex (ofLex key).2).2).2
  evidence := []

/-- A row of the frontier, as the graph has it. -/
def ClosureRow.waiting (row : ClosureRow) : Row Key Bytes :=
  (row.key, row.evidence.toFinset)

/-- The graph the rounds explore. -/
def closureGraph (roots : List Bytes) (edges : List ClosureEdge) :
    Graph Key Bytes ClosureEdge where
  start := (initialFrontier roots edges).map ClosureRow.waiting
  edges := edges
  follow edge key := (extendRow (rowOf key) edge).map ClosureRow.key
  evidence edge := edge.evidence.toFinset

theorem key_inj {left right : ClosureRow} : left.key = right.key ↔
    left.root = right.root ∧ left.target = right.target ∧
      left.interpretation = right.interpretation ∧
      left.conditionFragments = right.conditionFragments := by
  simp [ClosureRow.key, Prod.ext_iff]

theorem mem_initialFrontier {roots : List Bytes} {edges : List ClosureEdge} {row : ClosureRow} :
    row ∈ initialFrontier roots edges ↔ ∃ edge ∈ edges, edge.from ∈ roots ∧
      row = ⟨edge.from, edge.to, edge.conditionFragments, edge.interpretation, edge.evidence⟩ := by
  simp only [initialFrontier, List.mem_flatMap, List.mem_filterMap, startRow, Option.ite_none_right_eq_some,
    Option.some.injEq]
  constructor
  · rintro ⟨root, hroot, edge, hedge, rfl, rfl⟩
    exact ⟨edge, hedge, hroot, rfl⟩
  · rintro ⟨edge, hedge, hroot, rfl⟩
    exact ⟨edge.from, hroot, edge, hedge, rfl, rfl⟩

theorem extendRow_eq_some {row next : ClosureRow} {edge : ClosureEdge} :
    extendRow row edge = some next ↔ edge.from = row.target ∧
      edge.interpretation = row.interpretation ∧
      intersection row.conditionFragments edge.conditionFragments ≠ [] ∧
      next = ⟨row.root, edge.to, intersection row.conditionFragments edge.conditionFragments,
        row.interpretation, canonicalStrings (row.evidence ++ edge.evidence)⟩ := by
  unfold extendRow
  by_cases hmeets : edge.from = row.target ∧ edge.interpretation = row.interpretation
  · obtain ⟨hfrom, hinterpretation⟩ := hmeets
    by_cases hcondition : intersection row.conditionFragments edge.conditionFragments = []
    · simp [hfrom, hinterpretation, hcondition]
    · simp [hfrom, hinterpretation, hcondition, eq_comm]
  · rw [if_pos (not_and_or.1 hmeets)]
    simp only [reduceCtorEq, false_iff]
    exact fun h => hmeets ⟨h.1, h.2.1⟩

/-- What a path is followed to depends on the key only. -/
theorem follow_key (roots : List Bytes) (edges : List ClosureEdge) (row : ClosureRow)
    (edge : ClosureEdge) :
    (closureGraph roots edges).follow edge row.key = (extendRow row edge).map ClosureRow.key := by
  refine Option.ext fun key => ?_
  simp only [closureGraph, Option.map_eq_some_iff, extendRow_eq_some]
  constructor
  · rintro ⟨next, ⟨hfrom, hinterpretation, hcondition, rfl⟩, rfl⟩
    exact ⟨_, ⟨hfrom, hinterpretation, hcondition, rfl⟩, rfl⟩
  · rintro ⟨next, ⟨hfrom, hinterpretation, hcondition, rfl⟩, rfl⟩
    exact ⟨_, ⟨hfrom, hinterpretation, hcondition, rfl⟩, rfl⟩

/-! ## Paths of the graph -/

theorem mem_sortedEdges {edges : List ClosureEdge} {edge : ClosureEdge} :
    edge ∈ sortedEdges edges ↔ ∃ held ∈ edges, held.canonical = edge := by
  rw [sortedEdges, mem_sortBy, List.mem_map]

/-- The key of a row with what a path has. -/
def pathKey (root target interpretation : Bytes) (condition : List Bytes) : Key :=
  toLex (root, toLex (target, toLex (interpretation, condition)))

section Paths

variable (request : ClosureRequest)

/-- The graph of a request all of whose edges are explored. -/
def requestGraph : Graph Key Bytes ClosureEdge :=
  closureGraph (canonicalStrings request.roots) (sortedEdges request.edges)

variable {request}

theorem pathOf_of_path (hconditions : ∀ edge ∈ request.edges, edge.conditionFragments ≠ []) {n : Nat}
    {key : Key} {evidence : Finset Bytes} (h : (requestGraph request).Path n key evidence) :
    ∃ root target interpretation condition path,
      key = pathKey root target interpretation condition ∧ path.length = n ∧
        PathOf request root target interpretation condition path ∧
        evidence = collectedEvidence path := by
  induction h with
  | @start row hrow =>
      obtain ⟨first, hfirst, rfl⟩ := List.mem_map.1 hrow
      obtain ⟨edge, hedge, hroot, rfl⟩ := mem_initialFrontier.1 hfirst
      obtain ⟨held, hheld, rfl⟩ := mem_sortedEdges.1 hedge
      have hcondition : held.canonical.conditionFragments = sharedFragments [held] := by
        refine sharedFragments_eq (by simp) (canonicalStrings_pairwise _) fun fragment => ?_
        simp [ClosureEdge.canonical]
      refine ⟨held.from, held.to, held.interpretation, _, [held], rfl, rfl,
        ⟨(mem_canonicalStrings _ _).1 hroot, Walk.edge hheld rfl rfl, hcondition, ?_⟩, ?_⟩
      · obtain ⟨fragment, hfragment⟩ := List.exists_mem_of_ne_nil _ (hconditions held hheld)
        exact List.ne_nil_of_mem ((mem_canonicalStrings _ _).2 hfragment)
      · ext x
        simp [ClosureRow.waiting, collectedEvidence, ClosureEdge.canonical]
  | @step n key next evidence edge before hedge hnext ih =>
      obtain ⟨root, target, interpretation, condition, path, rfl, rfl, hpath, rfl⟩ := ih
      obtain ⟨held, hheld, rfl⟩ := mem_sortedEdges.1 hedge
      obtain ⟨row, hrow, rfl⟩ := Option.map_eq_some_iff.1 hnext
      obtain ⟨hfrom, hinterpretation, hne, rfl⟩ := extendRow_eq_some.1 hrow
      have hnil := hpath.walk.ne_nil
      have hcondition : intersection condition held.canonical.conditionFragments =
          sharedFragments (path ++ [held]) := by
        refine sharedFragments_eq (by simp) (intersection_pairwise _ _) fun fragment => ?_
        rw [mem_intersection, hpath.shared, mem_sharedFragments hnil]
        simp [ClosureEdge.canonical, or_imp, forall_and]
      refine ⟨root, held.to, interpretation, _, path ++ [held], rfl, by simp,
        ⟨hpath.isRoot, hpath.walk.step hheld hfrom hinterpretation, hcondition, hne⟩, ?_⟩
      ext x
      simp [collectedEvidence, requestGraph, closureGraph, ClosureEdge.canonical]

theorem path_of_pathOf {root target interpretation : Bytes} {condition : List Bytes}
    {path : List ClosureEdge} (h : PathOf request root target interpretation condition path) :
    (requestGraph request).Path path.length (pathKey root target interpretation condition)
      (collectedEvidence path) := by
  obtain ⟨hroot, hwalk, rfl, hne⟩ := h
  induction hwalk with
  | @edge edge hmem hfrom hinterpretation =>
      have hcondition : sharedFragments [edge] = edge.canonical.conditionFragments := by
        refine (sharedFragments_eq (by simp) (canonicalStrings_pairwise _) fun fragment => ?_).symm
        simp
      have hevidence : collectedEvidence [edge] = edge.canonical.evidence.toFinset := by
        ext x
        simp [collectedEvidence, ClosureEdge.canonical]
      rw [hcondition, hevidence]
      subst hfrom hinterpretation
      have hfirst := mem_initialFrontier.2 ⟨edge.canonical, mem_sortedEdges.2 ⟨edge, hmem, rfl⟩,
        (mem_canonicalStrings request.roots _).2 hroot, rfl⟩
      exact Graph.Path.start (G := requestGraph request) (List.mem_map_of_mem hfirst)
  | @step path target edge walk hmem hfrom hinterpretation ih =>
      have hnil := walk.ne_nil
      have hcondition : sharedFragments (path ++ [edge]) =
          intersection (sharedFragments path) edge.canonical.conditionFragments := by
        refine (sharedFragments_eq (by simp) (intersection_pairwise _ _) fun fragment => ?_).symm
        rw [mem_intersection, mem_sharedFragments hnil]
        simp [ClosureEdge.canonical, or_imp, forall_and]
      have hevidence : collectedEvidence (path ++ [edge]) =
          collectedEvidence path ∪ edge.canonical.evidence.toFinset := by
        ext x
        simp [collectedEvidence, ClosureEdge.canonical]
      rw [hcondition] at hne
      -- a path that shares a fragment shares it up to its last edge
      have hstarts : sharedFragments path ≠ [] := by
        obtain ⟨fragment, hfragment⟩ := List.exists_mem_of_ne_nil _ hne
        exact List.ne_nil_of_mem ((mem_intersection _ _ _).1 hfragment).1
      rw [hcondition, hevidence, List.length_append]
      refine Graph.Path.step (ih hstarts) (mem_sortedEdges.2 ⟨edge, hmem, rfl⟩) ?_
      rw [requestGraph, closureGraph]
      refine Option.map_eq_some_iff.2 ⟨_, extendRow_eq_some.2 ⟨?_, ?_, hne, rfl⟩, rfl⟩
      · exact hfrom
      · exact hinterpretation

end Paths

end Cxxlens.Sdk.Incremental
