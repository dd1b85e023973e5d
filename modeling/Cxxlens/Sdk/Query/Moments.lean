import Cxxlens.Sdk.Query.Accounting
import Cxxlens.Sdk.Query.Execution

set_option autoImplicit false

/-! # The moments of an execution

What a run passes through between its start and its result: a moment behind every row, annotation and
key, every node, and every row of the implicit projection. -/

namespace Cxxlens.Sdk.Query

open Trails Stopping Fallible

/-- The moment of a run without keys. -/
def Run.moment (held : List Evaluation) (run : Run) : Moment where
  held := held
  run := run

/-- The moment behind a step, if the step has a result. -/
def behind {σ : Type} (view : σ → Moment) (result : Result σ) : List Moment :=
  andThen result fun state => [view state]

/-- What is behind a computation that goes on from the result of another. -/
theorem behind_bind {σ τ : Type} {view : τ → Moment} (result : Result σ) (next : σ → Result τ) :
    behind view (result >>= next) = andThen result fun state => behind view (next state) := by
  cases result <;> rfl

theorem behind_reaches {σ : Type} {budget : ExecutionBudget} {start : Moment} {view : σ → Moment}
    {result : Result σ} (h : ∀ state, result = .ok state → Linked budget start (view state)) :
    Reaches (Linked budget) start (behind view result) (result.map view) := by
  cases result with
  | error e => exact reaches_error
  | ok state => exact reaches_ok_iff.2 (leads_singleton (h state rfl))

/-- A last step behind a computation. -/
theorem Reaches.behind {σ τ : Type} {budget : ExecutionBudget} {start : Moment}
    {trail : List Moment} {result : Result σ} {next : σ → Result τ} {view : σ → Moment}
    {view' : τ → Moment} (h : Reaches (Linked budget) start trail (result.map view))
    (hnext : ∀ before after, next before = .ok after →
      Linked budget (view before) (view' after)) :
    Reaches (Linked budget) start (trail ++ behind view' (result >>= next))
      ((result >>= next).map view') := by
  rw [behind_bind]
  exact h.bind fun before _ => behind_reaches fun after hafter => hnext before after hafter

section Loops

variable (budget : ExecutionBudget) (subject : Bytes) (held : List Evaluation)

/-! ## Rows that are appended -/

theorem linked_appendRow (run : Run) (row : AnnotatedRow) (h : run.failed = false) :
    Linked budget (run.moment held) ((appendRow budget subject run row).moment held) :=
  linked_append (run.moment held) subject row h

theorem linked_replaceRow (run : Run) {index : Nat} {previous : AnnotatedRow} (row : AnnotatedRow)
    (h : run.failed = false) (hprevious : run.output.rows[index]? = some previous) :
    Linked budget (run.moment held) ((replaceRow budget subject run index row).moment held) :=
  linked_replace (run.moment held) subject row h hprevious

/-- The body of the loop of `appendEach`. -/
def appendStep {α : Type} (make : α → Result (Option AnnotatedRow)) (run : Run) (item : α) :
    Result Run := do
  match ← make item with
  | none => .ok run
  | some row => .ok (appendRow budget subject run row)

/-- The moments of `appendEach`. -/
def appendMoments {α : Type} (make : α → Result (Option AnnotatedRow)) (run : Run)
    (items : List α) : List Moment :=
  visits Run.failed (appendStep budget subject make)
    (fun run item => behind (Run.moment held) (appendStep budget subject make run item)) run items

theorem appendMoments_reaches {α : Type} (make : α → Result (Option AnnotatedRow)) (run : Run)
    (items : List α) :
    Reaches (Linked budget) (run.moment held) (appendMoments budget subject held make run items)
      ((appendEach budget subject make run items).map (Run.moment held)) := by
  refine visits_reaches (fun before item hbefore => behind_reaches fun after hafter => ?_) items run
  obtain ⟨row, -, hrow⟩ := bind_eq_ok_iff.1 hafter
  cases row with
  | none =>
      rw [Except.ok.injEq] at hrow
      exact hrow ▸ Linked.refl _
  | some row =>
      rw [Except.ok.injEq] at hrow
      exact hrow ▸ linked_appendRow budget subject held before row hbefore

/-! ## Scans -/

/-- The moment of a scan. -/
def ScanRun.moment (scan : ScanRun) : Moment :=
  scan.run.moment held

@[simp] theorem ScanRun.moment_mk (run : Run) (semanticRows : List (Bytes × Nat)) :
    ({ run := run, semanticRows := semanticRows } : ScanRun).moment held = run.moment held := rfl

/-- The moments of the body of a scan: the annotation is counted, it has its row, and it is kept. -/
def scanStepMoments (descriptorId : Bytes) (preserveMultiplicity : Bool) (scanAlias : Bytes)
    (scan : ScanRun) (annotated : SnapshotClaimAnnotation) : List Moment :=
  (if budget.maxMemoryBytes ≤ scan.run.state.retainedMemoryBytes ∨
      scan.run.state.scanned = budget.maxRowsScanned then []
    else
      [scan.run.scanned.moment held,
        ( recordAnnotation budget subject preserveMultiplicity scanAlias scan annotated).moment
          held]) ++
    behind (ScanRun.moment held)
      (scanStep budget subject descriptorId preserveMultiplicity scanAlias scan annotated)

/-- The moments of a scan. -/
def scanMoments (snapshot : Snapshot) (descriptors : List (Bytes × RelationDescriptor))
    (descriptorId scanAlias : Bytes) (run : Run) : List Moment :=
  let preserveMultiplicity :=
    (descriptors.lookup descriptorId).any fun descriptor => descriptor.merge == .multiset
  andThen (snapshot.openClaims descriptorId) fun annotations =>
    visits (fun scan : ScanRun => scan.run.failed)
      (scanStep budget subject descriptorId preserveMultiplicity scanAlias)
      (scanStepMoments budget subject held descriptorId preserveMultiplicity scanAlias)
      { run := run } annotations

theorem failed_scanned (run : Run) : run.scanned.failed = run.failed := by
  simp only [Run.failed, Run.scanned, RuntimeState.failed]

theorem linked_scanned (run : Run) :
    Linked budget (run.moment held) (run.scanned.moment held) :=
  linked_run rfl rfl rfl id ⟨List.Perm.refl _, rfl⟩

theorem linked_recorded (preserveMultiplicity : Bool) (scanAlias : Bytes) (scan : ScanRun)
    (annotated : SnapshotClaimAnnotation) (h : scan.run.failed = false) :
    Linked budget (scan.run.scanned.moment held)
      (( recordAnnotation budget subject preserveMultiplicity scanAlias scan annotated).moment
        held) := by
  have hscanned : scan.run.scanned.failed = false := (failed_scanned scan.run).trans h
  unfold recordAnnotation
  cases existingRow preserveMultiplicity scan annotated with
  | none =>
      rw [ScanRun.moment_mk]
      exact linked_appendRow budget subject held scan.run.scanned _ hscanned
  | some index =>
      dsimp only
      cases hrow : scan.run.output.rows[index]? with
      | none =>
          rw [ScanRun.moment_mk]
          exact Linked.refl _
      | some row =>
          rw [ScanRun.moment_mk]
          exact linked_replaceRow budget subject held scan.run.scanned _ hscanned hrow

theorem scanStep_reaches (descriptorId : Bytes) (preserveMultiplicity : Bool) (scanAlias : Bytes)
    (scan : ScanRun) (annotated : SnapshotClaimAnnotation) (h : scan.run.failed = false) :
    Reaches (Linked budget) (scan.moment held)
      (scanStepMoments budget subject held descriptorId preserveMultiplicity scanAlias scan
        annotated)
      ((scanStep budget subject descriptorId preserveMultiplicity scanAlias scan annotated).map
        (ScanRun.moment held)) := by
  unfold scanStepMoments scanStep
  by_cases hmemory : budget.maxMemoryBytes ≤ scan.run.state.retainedMemoryBytes
  · rw [if_pos hmemory, if_pos (Or.inl hmemory)]
    exact reaches_ok_iff.2 (leads_singleton (linked_fail _ _ _))
  · by_cases hscan : scan.run.state.scanned = budget.maxRowsScanned
    · rw [if_neg hmemory, if_pos hscan, if_pos (Or.inr hscan)]
      exact reaches_ok_iff.2 (leads_singleton (linked_fail _ _ _))
    · rw [if_neg hmemory, if_neg hscan, if_neg (not_or.2 ⟨hmemory, hscan⟩)]
      refine reaches_ok_iff.2 ⟨linked_scanned budget held scan.run,
        linked_recorded budget subject held preserveMultiplicity scanAlias scan annotated h, ?_, rfl⟩
      unfold scanAnnotation
      by_cases hrecorded : ( recordAnnotation budget subject preserveMultiplicity scanAlias scan
          annotated).run.failed = true
      · rw [if_pos hrecorded]
        exact Linked.refl _
      · rw [if_neg hrecorded]
        exact linked_annotate _ subject annotated (Bool.eq_false_iff.2 hrecorded)

theorem scanMoments_reaches (snapshot : Snapshot) (descriptors : List (Bytes × RelationDescriptor))
    (descriptorId scanAlias : Bytes) (run : Run) :
    Reaches (Linked budget) (run.moment held)
      (scanMoments budget subject held snapshot descriptors descriptorId scanAlias run)
      ((runScan budget subject snapshot descriptors descriptorId scanAlias run).map
        (Run.moment held)) := by
  unfold scanMoments runScan
  cases hclaims : snapshot.openClaims descriptorId with
  | error e => exact reaches_error
  | ok annotations =>
      have hloop := @visits_reaches Moment (Linked budget) Error ScanRun _ _ _ _
        (ScanRun.moment held) (fun scan annotated h => scanStep_reaches budget subject held descriptorId
          ((descriptors.lookup descriptorId).any fun descriptor => descriptor.merge == .multiset)
          scanAlias scan annotated h) annotations { run := run }
      have hmap : ∀ loop : Result ScanRun,
          ((do let scan ← loop; .ok scan.run : Result Run).map (Run.moment held)) =
            loop.map (ScanRun.moment held) := by
        intro loop
        cases loop <;> rfl
      exact (hmap _).symm ▸ hloop

/-! ## Distinct -/

/-- The moment of the loop of `distinct`. -/
def DistinctRun.moment (distinct : DistinctRun) : Moment where
  held := held
  run := distinct.run
  keys := distinct.groups.map Prod.fst
  scratchBytes := distinct.scratchBytes

/-- The run behind the loop, which gives the bytes of the keys back. -/
def DistinctRun.released (distinct : DistinctRun) : Run :=
  { distinct.run with
    state := { distinct.run.state with
      retainedMemoryBytes := distinct.run.state.retainedMemoryBytes - distinct.scratchBytes } }

/-- The moments of the body of the loop: a new key is charged behind its row. -/
def distinctStepMoments (distinct : DistinctRun) (row : AnnotatedRow) : List Moment :=
  (match distinct.groups.lookup (distinctKey row) with
    | none =>
      [({ distinct with
          run := appendRow budget subject distinct.run { row with multiplicity := 1 } } :
            DistinctRun).moment held]
    | some _ => []) ++
    behind (DistinctRun.moment held) (distinctStep budget subject distinct row)

/-- The rows of `distinct`, behind its loop. -/
def distinctRows (input : Evaluation) (run : Run) : Result Run := do
  let distinct ← untilFailed (fun distinct : DistinctRun => distinct.run.failed)
    (distinctStep budget subject) { run := run } input.rows
  .ok distinct.released

/-- The moments of `distinct`. -/
def distinctMoments (input : Evaluation) (run : Run) : List Moment :=
  visits (fun distinct : DistinctRun => distinct.run.failed) (distinctStep budget subject)
      (distinctStepMoments budget subject held) { run := run } input.rows ++
    behind (Run.moment held) (distinctRows budget subject input run)

theorem linked_distinctInsert (key : Bytes) (distinct : DistinctRun) (row : AnnotatedRow) :
    Linked budget
      (({ distinct with
        run := appendRow budget subject distinct.run { row with multiplicity := 1 } } :
          DistinctRun).moment held)
      ((distinctInsert budget subject key distinct row).moment held) := by
  unfold distinctInsert
  generalize appendRow budget subject distinct.run { row with multiplicity := 1 } = run
  dsimp only
  by_cases hfailed : run.failed = true
  · rw [if_pos hfailed]
    exact Linked.refl _
  · rw [if_neg hfailed]
    rcases reserveMemory_cases budget subject run.state (UInt64.ofNat key.length) with
      hfails | ⟨hcharged, hroom⟩
    · rw [hfails, if_pos (RuntimeState.failed_fail ..)]
      exact linked_fail (({ distinct with run := run } : DistinctRun).moment held) _ _
    · rw [hcharged, if_neg (by rwa [RuntimeState.failed_charge])]
      have hkey := linked_key (({ distinct with run := run } : DistinctRun).moment held) hroom
      simpa only [DistinctRun.moment, List.map_append, List.map_cons, List.map_nil] using hkey

theorem distinctStep_reaches (distinct : DistinctRun) (row : AnnotatedRow)
    (h : distinct.run.failed = false) :
    Reaches (Linked budget) (distinct.moment held)
      (distinctStepMoments budget subject held distinct row)
      ((distinctStep budget subject distinct row).map (DistinctRun.moment held)) := by
  unfold distinctStepMoments distinctStep
  dsimp only
  cases distinct.groups.lookup (distinctKey row) with
  | none =>
      refine reaches_ok_iff.2 ⟨?_, linked_distinctInsert budget subject held _ distinct row, rfl⟩
      exact linked_append (distinct.moment held) subject _ h
  | some index =>
      dsimp only
      cases hrow : distinct.run.output.rows[index]? with
      | none => exact reaches_ok_iff.2 (leads_singleton (Linked.refl _))
      | some current =>
          refine reaches_ok_iff.2 (leads_singleton ?_)
          simpa only [DistinctRun.moment] using
            linked_replace (distinct.moment held) subject (mergeRow current row) h hrow

theorem distinctMoments_reaches (input : Evaluation) (run : Run) :
    Reaches (Linked budget) (run.moment held) (distinctMoments budget subject held input run)
      ((distinctRows budget subject input run).map (Run.moment held)) := by
  have hloop := @visits_reaches Moment (Linked budget) Error DistinctRun _ _ _ _
    (DistinctRun.moment held)
    (fun distinct row h => distinctStep_reaches budget subject held distinct row h) input.rows
    { run := run }
  refine Reaches.behind hloop fun before after hafter => ?_
  rw [Except.ok.injEq] at hafter
  exact hafter ▸ linked_release (before.moment held)

/-! ## Joins -/

variable (columnTypes : ColumnTypes) (predicate : DecodedPredicate)

/-- The rows of an inner join. -/
def innerJoinRows (left right : Evaluation) (run : Run) : Result Run :=
  untilFailed Run.failed (fun run row =>
    appendEach budget subject (joinRow columnTypes predicate row) run right.rows) run left.rows

/-- The moments of an inner join. -/
def innerJoinMoments (left right : Evaluation) (run : Run) : List Moment :=
  visits Run.failed (fun run row =>
      appendEach budget subject (joinRow columnTypes predicate row) run right.rows)
    (fun run row =>
      appendMoments budget subject held (joinRow columnTypes predicate row) run right.rows)
    run left.rows

theorem innerJoinMoments_reaches (left right : Evaluation) (run : Run) :
    Reaches (Linked budget) (run.moment held)
      (innerJoinMoments budget subject held columnTypes predicate left right run)
      ((innerJoinRows budget subject columnTypes predicate left right run).map
        (Run.moment held)) :=
  visits_reaches (fun run row _ =>
    appendMoments_reaches budget subject held (joinRow columnTypes predicate row) run right.rows)
    left.rows run

/-- The moment of the loop of a semi-join over the right rows. -/
def SemiRun.moment (semi : SemiRun) : Moment :=
  semi.run.moment held

/-- The moments of the body of the loop over the left rows. -/
def semiRowMoments (right : Evaluation) (run : Run) (left : AnnotatedRow) : List Moment :=
  visits (fun semi : SemiRun => semi.run.failed)
      (semiStep budget subject columnTypes predicate left)
      (fun semi row => behind (SemiRun.moment held)
        (semiStep budget subject columnTypes predicate left semi row))
      { run := run } right.rows ++
    behind (Run.moment held) (semiRow budget subject columnTypes predicate right run left)

/-- The moments of a semi-join. -/
def semiJoinMoments (left right : Evaluation) (run : Run) : List Moment :=
  visits Run.failed (semiRow budget subject columnTypes predicate right)
    (semiRowMoments budget subject held columnTypes predicate right) run left.rows

theorem linked_candidate (run : Run) (row : AnnotatedRow) :
    Linked budget (run.moment held) ((candidateFitsMemory budget subject run row).moment held) := by
  unfold candidateFitsMemory
  split_ifs
  · exact linked_fail (run.moment held) _ _
  · exact Linked.refl _

/-- A right row charges nothing, since the row that is selected is not held yet. -/
theorem linked_semiStep {left right : AnnotatedRow} {before after : SemiRun}
    (h : semiStep budget subject columnTypes predicate left before right = .ok after) :
    Linked budget (before.moment held) (after.moment held) := by
  obtain ⟨joined, -, hjoined⟩ := bind_eq_ok_iff.1 h
  cases joined with
  | none =>
      rw [Except.ok.injEq] at hjoined
      exact hjoined ▸ Linked.refl _
  | some witness =>
      dsimp only at hjoined
      split_ifs at hjoined
      · rw [Except.ok.injEq] at hjoined
        exact hjoined ▸ linked_fail (before.moment held) _ _
      · rw [Except.ok.injEq] at hjoined
        subst hjoined
        simpa only [SemiRun.moment] using linked_candidate budget subject held before.run
          (mergeRow (before.selected.getD (unwitnessed left)) witness)

theorem semiRowMoments_reaches (right : Evaluation) (run : Run) (left : AnnotatedRow) :
    Reaches (Linked budget) (run.moment held)
      (semiRowMoments budget subject held columnTypes predicate right run left)
      ((semiRow budget subject columnTypes predicate right run left).map (Run.moment held)) := by
  refine Reaches.behind (visits_reaches (fun semi row _ => behind_reaches fun after hafter =>
    linked_semiStep budget subject held columnTypes predicate hafter) right.rows { run := run })
    fun before after hafter => ?_
  by_cases hfailed : before.run.failed = true
  · rw [if_pos hfailed, Except.ok.injEq] at hafter
    exact hafter ▸ Linked.refl _
  · rw [if_neg hfailed] at hafter
    cases hselected : before.selected with
    | none =>
        rw [hselected, Except.ok.injEq] at hafter
        exact hafter ▸ Linked.refl _
    | some selected =>
        rw [hselected, Except.ok.injEq] at hafter
        exact hafter ▸ linked_appendRow budget subject held before.run _
          (Bool.eq_false_iff.2 hfailed)

theorem semiJoinMoments_reaches (left right : Evaluation) (run : Run) :
    Reaches (Linked budget) (run.moment held)
      (semiJoinMoments budget subject held columnTypes predicate left right run)
      ((untilFailed Run.failed (semiRow budget subject columnTypes predicate right) run
        left.rows).map (Run.moment held)) :=
  visits_reaches (fun run row _ =>
    semiRowMoments_reaches budget subject held columnTypes predicate right run row) left.rows run

end Loops

end Cxxlens.Sdk.Query
