import Cxxlens.Sdk.Query.Plan

set_option autoImplicit false

/-! # The state of a run

Budgets, and what a run keeps account of (`runtime_state`, `append_row`, `replace_row`,
`append_source_annotation` of `query_execution.cpp`). Memory is counted in the bytes of canonical
forms. A budget that does not suffice is a failure in the state, and ends the loops of the run. -/

namespace Cxxlens.Sdk.Query

open Stopping

/-- The greatest `std::uint64_t`. -/
def maxCount : UInt64 :=
  0xffffffffffffffff

/-- `execution_budget` -/
structure ExecutionBudget where
  maxRowsScanned : UInt64 := maxCount
  maxRowsOutput : UInt64 := maxCount
  maxIntermediateRows : UInt64 := maxCount
  maxMemoryBytes : UInt64 := maxCount
  deriving DecidableEq, Repr

/-- `failure_code` and `failure_subject` of a state that failed -/
structure RuntimeFailure where
  code : Bytes
  subject : Bytes
  deriving DecidableEq, Repr

/-- `runtime_state` without the budget, which does not change -/
structure RuntimeState where
  scanned : UInt64 := 0
  retainedMemoryBytes : UInt64 := 0
  peakMemoryBytes : UInt64 := 0
  peakIntermediateRows : UInt64 := 0
  failure : Option RuntimeFailure := none
  sourceAnnotations : List SnapshotClaimAnnotation := []
  deriving DecidableEq

/-- `runtime_state::failed` -/
def RuntimeState.failed (state : RuntimeState) : Bool :=
  state.failure.isSome

/-- The state with a failure. -/
def RuntimeState.fail (state : RuntimeState) (code subject : Bytes) : RuntimeState :=
  { state with failure := some { code := code, subject := subject } }

/-- `evaluation` -/
structure Evaluation where
  rows : List AnnotatedRow := []
  memoryBytes : UInt64 := 0
  ordered : Bool := false
  orderKeys : List OrderKey := []
  limited : Bool := false
  deriving DecidableEq

/-- The state, and the evaluation of the node that runs. -/
structure Run where
  state : RuntimeState
  output : Evaluation
  deriving DecidableEq

/-- The state failed. -/
def Run.failed (run : Run) : Bool :=
  run.state.failed

/-- The run with a failure. -/
def Run.fail (run : Run) (code subject : Bytes) : Run :=
  { run with state := run.state.fail code subject }

@[simp] theorem RuntimeState.failed_fail (state : RuntimeState) (code subject : Bytes) :
    (state.fail code subject).failed = true := rfl

@[simp] theorem Run.failed_fail (run : Run) (code subject : Bytes) :
    (run.fail code subject).failed = true := rfl

section Budget

variable (budget : ExecutionBudget) (subject : Bytes)

/-- There is no room for that many bytes. -/
def exceedsMemory (retained bytes : UInt64) : Bool :=
  decide (maxCount - retained < bytes) || decide (budget.maxMemoryBytes < retained + bytes)

/-- `runtime_state::reserve_memory` -/
def reserveMemory (state : RuntimeState) (bytes : UInt64) : RuntimeState :=
  if exceedsMemory budget state.retainedMemoryBytes bytes = true then
    state.fail "sdk.query-memory-budget" subject
  else
    { state with
      retainedMemoryBytes := state.retainedMemoryBytes + bytes
      peakMemoryBytes := max state.peakMemoryBytes (state.retainedMemoryBytes + bytes) }

/-- `row_accounting_bytes` -/
def rowAccountingBytes (row : AnnotatedRow) : UInt64 :=
  UInt64.ofNat row.canonicalForm.length

/-- The number of rows as it is compared with a budget. -/
def rowsExceed (rows : List AnnotatedRow) (limit : UInt64) : Bool :=
  decide (limit.toNat ≤ rows.length)

/-- `append_row` -/
def appendRow (run : Run) (row : AnnotatedRow) : Run :=
  if rowsExceed run.output.rows budget.maxIntermediateRows = true then
    run.fail "sdk.query-intermediate-budget" subject
  else
    let bytes := rowAccountingBytes row
    let state := reserveMemory budget subject run.state bytes
    if state.failed = true then { run with state := state }
    else
      let rows := run.output.rows ++ [row]
      { state :=
          { state with
            peakIntermediateRows := max state.peakIntermediateRows (UInt64.ofNat rows.length) }
        output :=
          { run.output with rows := rows, memoryBytes := run.output.memoryBytes + bytes } }

/-- `replace_row` -/
def replaceRow (run : Run) (index : Nat) (row : AnnotatedRow) : Run :=
  let previous := (run.output.rows[index]?.map rowAccountingBytes).getD 0
  let replacement := rowAccountingBytes row
  let state :=
    if previous < replacement then reserveMemory budget subject run.state (replacement - previous)
    else run.state
  if state.failed = true then { run with state := state }
  else
    let state :=
      if replacement < previous then
        { state with
          retainedMemoryBytes := state.retainedMemoryBytes - (previous - replacement) }
      else state
    { state := state
      output :=
        { run.output with
          rows := run.output.rows.set index row
          memoryBytes := run.output.memoryBytes - previous + replacement } }

/-- `candidate_fits_memory` -/
def candidateFitsMemory (run : Run) (row : AnnotatedRow) : Run :=
  if exceedsMemory budget run.state.retainedMemoryBytes (rowAccountingBytes row) = true then
    run.fail "sdk.query-memory-budget" subject
  else run

/-- The sum of `annotation_accounting_bytes`. -/
def annotationBytes (annotated : SnapshotClaimAnnotation) : Nat :=
  annotated.row.canonicalForm.length + annotated.assertion.length +
    annotated.semanticKey.length + annotated.interpretation.length +
    annotated.producer.id.length + annotated.producer.semanticContract.length +
    annotated.content.length + annotated.provenanceRoot.length +
    annotated.presence.universe.length + annotated.guarantee.approximation.length +
    annotated.guarantee.scope.length + annotated.guarantee.assumptions.length +
    (annotated.presence.fragments.map List.length).sum +
    (annotated.guarantee.verificationModalities.map List.length).sum

/-- `annotation_accounting_bytes` -/
def annotationAccountingBytes (annotated : SnapshotClaimAnnotation) : Option UInt64 :=
  if annotationBytes annotated ≤ maxCount.toNat then some (UInt64.ofNat (annotationBytes annotated))
  else none

/-- `append_source_annotation` -/
def appendSourceAnnotation (run : Run) (annotated : SnapshotClaimAnnotation) : Run :=
  match annotationAccountingBytes annotated with
  | none => run.fail "sdk.query-memory-budget" subject
  | some bytes =>
    let state := reserveMemory budget subject run.state bytes
    if state.failed = true then { run with state := state }
    else
      { run with
        state := { state with sourceAnnotations := state.sourceAnnotations ++ [annotated] } }

end Budget

end Cxxlens.Sdk.Query
