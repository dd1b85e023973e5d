import Mathlib

set_option autoImplicit false

/-! # Depth-first search for cycles

The recursive search that colours a vertex while it is under way and once it is done, and fails where
it meets one that is under way. It fails exactly on the graphs that have a cycle. -/

namespace DepthFirst

open Relation (TransGen ReflTransGen)

universe u v

/-- What the search knows of a vertex. -/
inductive Color where
  | unvisited
  | visiting
  | visited
  deriving DecidableEq, Repr

variable {V : Type u} {ε : Type v}

section Search

variable [DecidableEq V] (edges : V → List V) (cycle : V → ε)

/-- One vertex, with what is behind it, in a recursion of at most this depth. -/
def visit : Nat → (V → Color) → V → Except ε (V → Color)
  | 0, _, vertex => .error (cycle vertex)
  | depth + 1, colors, vertex =>
    match colors vertex with
    | .visiting => .error (cycle vertex)
    | .visited => .ok colors
    | .unvisited =>
      match (edges vertex).foldlM (visit depth) (Function.update colors vertex .visiting) with
      | .error error => .error error
      | .ok colors => .ok (Function.update colors vertex .visited)

/-- Every vertex in turn. No path of vertices that are under way is longer than there are vertices. -/
def search (vertices : List V) : Except ε (V → Color) :=
  vertices.foldlM (visit edges cycle (vertices.length + 1)) fun _ => .unvisited

end Search

/-- An edge of the graph. -/
def Edge (edges : V → List V) (source target : V) : Prop :=
  target ∈ edges source

variable {edges : V → List V} {cycle : V → ε}

/-! ## Loops -/

/-- The step a failed loop failed at. -/
theorem exists_of_foldlM_error {σ : Type u} {step : σ → V → Except ε σ} (vertices : List V) :
    ∀ {state : σ} {error : ε}, vertices.foldlM step state = .error error →
      ∃ front vertex back reached, vertices = front ++ vertex :: back ∧
        front.foldlM step state = .ok reached ∧ step reached vertex = .error error := by
  induction vertices with
  | nil =>
      intro state error h
      cases h
  | cons vertex rest ih =>
      intro state error h
      rw [List.foldlM_cons] at h
      cases hstep : step state vertex with
      | error fault =>
          rw [hstep] at h
          cases h
          exact ⟨[], vertex, rest, state, rfl, rfl, hstep⟩
      | ok next =>
          rw [hstep] at h
          obtain ⟨front, failed, back, reached, rfl, hfront, hfailed⟩ := ih h
          refine ⟨vertex :: front, failed, back, reached, rfl, ?_, hfailed⟩
          rw [List.foldlM_cons, hstep]
          exact hfront

/-! ## What a search explores -/

/-- Done vertices stay done, and those under way are the same. -/
structure Explored (before after : V → Color) : Prop where
  visited : ∀ vertex, before vertex = .visited → after vertex = .visited
  visiting : ∀ vertex, after vertex = .visiting ↔ before vertex = .visiting

theorem Explored.refl (colors : V → Color) : Explored colors colors :=
  ⟨fun _ h => h, fun _ => Iff.rfl⟩

theorem Explored.trans {first second third : V → Color} (h : Explored first second)
    (h' : Explored second third) : Explored first third :=
  ⟨fun vertex hfirst => h'.visited vertex (h.visited vertex hfirst),
    fun vertex => (h'.visiting vertex).trans (h.visiting vertex)⟩

theorem Explored.unvisited {before after : V → Color} (h : Explored before after) {vertex : V}
    (hafter : after vertex = .unvisited) : before vertex = .unvisited := by
  cases hbefore : before vertex with
  | unvisited => rfl
  | visiting =>
      rw [(h.visiting vertex).2 hbefore] at hafter
      cases hafter
  | visited =>
      rw [h.visited vertex hbefore] at hafter
      cases hafter

theorem explored_foldlM {step : (V → Color) → V → Except ε (V → Color)}
    (hstep : ∀ {before after vertex}, step before vertex = .ok after → Explored before after)
    (vertices : List V) : ∀ {before after : V → Color},
      vertices.foldlM step before = .ok after → Explored before after := by
  induction vertices with
  | nil =>
      intro before after h
      cases h
      exact Explored.refl _
  | cons vertex rest ih =>
      intro before after h
      rw [List.foldlM_cons] at h
      cases hfirst : step before vertex with
      | error fault =>
          rw [hfirst] at h
          cases h
      | ok next =>
          rw [hfirst] at h
          exact (hstep hfirst).trans (ih h)

variable [DecidableEq V]

/-- A vertex that was open when what is behind it was explored. -/
theorem Explored.close {before after : V → Color} {vertex : V} (hopen : before vertex = .unvisited)
    (h : Explored (Function.update before vertex .visiting) after) :
    Explored before (Function.update after vertex .visited) where
  visited other hother := by
    have hne : other ≠ vertex := by
      rintro rfl
      rw [hopen] at hother
      cases hother
    rw [Function.update_of_ne hne]
    refine h.visited other ?_
    rwa [Function.update_of_ne hne]
  visiting other := by
    by_cases heq : other = vertex
    · subst heq
      simp [hopen]
    · rw [Function.update_of_ne heq, h.visiting other, Function.update_of_ne heq]

theorem explored_visit (depth : Nat) : ∀ {before after : V → Color} {vertex : V},
    visit edges cycle depth before vertex = .ok after → Explored before after := by
  induction depth with
  | zero =>
      intro before after vertex h
      cases h
  | succ depth ih =>
      intro before after vertex h
      rw [visit] at h
      split at h
      · cases h
      · cases h
        exact Explored.refl _
      · rename_i hopen
        split at h
        · cases h
        · rename_i colors hbehind
          cases h
          exact (explored_foldlM ih _ hbehind).close hopen

/-! ## A search that succeeds -/

/-- No infinite path leaves a vertex that is done. -/
def Settled (edges : V → List V) (colors : V → Color) : Prop :=
  ∀ vertex, colors vertex = .visited → Acc (fun target source => Edge edges source target) vertex

omit [DecidableEq V] in
theorem settled_foldlM {step : (V → Color) → V → Except ε (V → Color)}
    (hexplored : ∀ {before after vertex}, step before vertex = .ok after → Explored before after)
    (hstep : ∀ {before after vertex}, step before vertex = .ok after → Settled edges before →
      Settled edges after ∧ after vertex = .visited) (vertices : List V) :
    ∀ {before after : V → Color}, vertices.foldlM step before = .ok after → Settled edges before →
      Settled edges after ∧ ∀ vertex ∈ vertices, after vertex = .visited := by
  induction vertices with
  | nil =>
      intro before after h hsettled
      cases h
      exact ⟨hsettled, by simp⟩
  | cons vertex rest ih =>
      intro before after h hsettled
      rw [List.foldlM_cons] at h
      cases hfirst : step before vertex with
      | error fault =>
          rw [hfirst] at h
          cases h
      | ok next =>
          rw [hfirst] at h
          obtain ⟨hnext, hdone⟩ := hstep hfirst hsettled
          obtain ⟨hafter, hrest⟩ := ih h hnext
          have hkept := (explored_foldlM hexplored rest h).visited vertex hdone
          exact ⟨hafter, List.forall_mem_cons.2 ⟨hkept, hrest⟩⟩

/-- A vertex is done when all behind it is, so what is done stays settled. -/
theorem settled_visit (depth : Nat) : ∀ {before after : V → Color} {vertex : V},
    visit edges cycle depth before vertex = .ok after → Settled edges before →
      Settled edges after ∧ after vertex = .visited := by
  induction depth with
  | zero =>
      intro before after vertex h
      cases h
  | succ depth ih =>
      intro before after vertex h hsettled
      rw [visit] at h
      split at h
      · cases h
      · rename_i hdone
        cases h
        exact ⟨hsettled, hdone⟩
      · rename_i hopen
        split at h
        · cases h
        · rename_i colors hbehind
          cases h
          have hmarked : Settled edges (Function.update before vertex .visiting) := by
            intro other hother
            by_cases heq : other = vertex
            · rw [heq, Function.update_self] at hother
              cases hother
            · rw [Function.update_of_ne heq] at hother
              exact hsettled other hother
          obtain ⟨hcolors, hedges⟩ := settled_foldlM (explored_visit depth) ih _ hbehind hmarked
          refine ⟨fun other hother => ?_, Function.update_self ..⟩
          by_cases heq : other = vertex
          · -- Everything behind the vertex is done, and so has no infinite path.
            rw [heq]
            exact Acc.intro vertex fun target hedge => hcolors target (hedges target hedge)
          · rw [Function.update_of_ne heq] at hother
            exact hcolors other hother

omit [DecidableEq V] in
theorem not_transGen_of_acc {vertex : V}
    (h : Acc (fun target source => Edge edges source target) vertex) :
    ¬ TransGen (Edge edges) vertex vertex := by
  induction h with
  | intro vertex _ ih =>
      intro hcycle
      obtain ⟨next, hedge, hback⟩ := TransGen.head'_iff.1 hcycle
      exact ih next hedge (TransGen.tail' hback hedge)

/-! ## A search that fails -/

/-- How many of the vertices are unvisited. -/
def unvisitedCount (vertices : List V) (colors : V → Color) : Nat :=
  vertices.countP fun vertex => colors vertex == .unvisited

omit [DecidableEq V] in
theorem Explored.unvisitedCount_le {before after : V → Color} (h : Explored before after)
    (vertices : List V) : unvisitedCount vertices after ≤ unvisitedCount vertices before := by
  refine List.countP_mono_left fun vertex _ hafter => ?_
  exact beq_iff_eq.2 (h.unvisited (beq_iff_eq.1 hafter))

theorem unvisitedCount_visiting_lt {vertices : List V} {colors : V → Color} {vertex : V}
    (hmem : vertex ∈ vertices) (hopen : colors vertex = .unvisited) :
    unvisitedCount vertices (Function.update colors vertex .visiting) <
      unvisitedCount vertices colors := by
  obtain ⟨front, back, rfl⟩ := List.append_of_mem hmem
  have hmono : ∀ items : List V,
      unvisitedCount items (Function.update colors vertex .visiting) ≤
        unvisitedCount items colors := by
    intro items
    refine List.countP_mono_left fun other _ hother => ?_
    by_cases heq : other = vertex
    · simp [heq, hopen]
    · simpa [Function.update_of_ne heq] using hother
  have hfront := hmono front
  have hback := hmono back
  simp only [unvisitedCount, List.countP_append, List.countP_cons] at hfront hback ⊢
  simp only [Function.update_self, hopen]
  simp
  omega

/-- Vertices under way lead to the next one, so the search fails on a cycle only. -/
theorem exists_cycle_of_visit {vertices : List V}
    (hclosed : ∀ vertex ∈ vertices, ∀ target ∈ edges vertex, target ∈ vertices) (depth : Nat) :
    ∀ {colors : V → Color} {vertex : V} {error : ε}, vertex ∈ vertices →
      unvisitedCount vertices colors < depth →
      (∀ other, colors other = .visiting → TransGen (Edge edges) other vertex) →
      visit edges cycle depth colors vertex = .error error →
        ∃ other ∈ vertices, TransGen (Edge edges) other other := by
  induction depth with
  | zero => exact fun _ hcount => absurd hcount (Nat.not_lt_zero _)
  | succ depth ih =>
      intro colors vertex error hmem hcount hpath h
      rw [visit] at h
      split at h
      · rename_i hopen
        exact ⟨vertex, hmem, hpath vertex hopen⟩
      · cases h
      · rename_i hopen
        split at h
        · rename_i fault hbehind
          obtain ⟨front, target, back, reached, hedges, hfront, hfailed⟩ :=
            exists_of_foldlM_error _ hbehind
          have hedge : target ∈ edges vertex := by
            rw [hedges]
            simp
          have hexplored := explored_foldlM (explored_visit depth) front hfront
          have hless := unvisitedCount_visiting_lt hmem hopen
          have hle := hexplored.unvisitedCount_le vertices
          refine ih (hclosed vertex hmem target hedge) (by omega) ?_ hfailed
          intro other hother
          rw [hexplored.visiting other] at hother
          by_cases heq : other = vertex
          · exact heq ▸ TransGen.single hedge
          · rw [Function.update_of_ne heq] at hother
            exact (hpath other hother).tail hedge
        · cases h

/-! ## The search -/

/-- **The search succeeds exactly where no vertex is on a cycle.** -/
theorem search_isOk_iff {vertices : List V}
    (hclosed : ∀ vertex ∈ vertices, ∀ target ∈ edges vertex, target ∈ vertices) :
    (search edges cycle vertices).isOk = true ↔
      ∀ vertex ∈ vertices, ¬ TransGen (Edge edges) vertex vertex := by
  have hstart : Settled edges fun _ => .unvisited := fun vertex h => by cases h
  cases hsearch : search edges cycle vertices with
  | ok after =>
      obtain ⟨hsettled, hdone⟩ := settled_foldlM (explored_visit _) (settled_visit _) _ hsearch hstart
      refine iff_of_true rfl fun vertex hmem => ?_
      exact not_transGen_of_acc (hsettled vertex (hdone vertex hmem))
  | error error =>
      obtain ⟨front, vertex, back, reached, hsplit, hfront, hfailed⟩ :=
        exists_of_foldlM_error _ hsearch
      have hexplored := explored_foldlM (explored_visit _) front hfront
      have hmem : vertex ∈ vertices := by
        rw [hsplit]
        simp
      have hcount : unvisitedCount vertices reached < vertices.length + 1 :=
        Nat.lt_succ_of_le List.countP_le_length
      have hcycle := exists_cycle_of_visit hclosed _ hmem hcount (fun other hother => by
        rw [hexplored.visiting other] at hother
        cases hother) hfailed
      obtain ⟨other, hother, hpath⟩ := hcycle
      exact iff_of_false Bool.false_ne_true fun h => h other hother hpath

end DepthFirst
