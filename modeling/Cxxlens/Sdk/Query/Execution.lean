import Cxxlens.Sdk.Query.Operators

set_option autoImplicit false

/-! # Execution

`reference_engine::execute` (`query_execution.cpp`): the checks before a query runs, the nodes in the
order of the plan, and the publication of the rows with what is known about them. -/

namespace Cxxlens.Sdk.Query

open Sorting Collections Stopping

/-! ## Requests and results -/

/-- `execution_checkpoint` -/
inductive ExecutionCheckpoint where
  | beforeExecution
  | beforePublishRow (ordinal : Nat)
  deriving DecidableEq, Repr

/-- `execution_request`; without a probe no stop is requested. -/
structure ExecutionRequest where
  budget : ExecutionBudget := {}
  stopRequested : ExecutionCheckpoint → Bool := fun _ => false

/-- `execution_status` -/
inductive ExecutionStatus where
  | complete
  | truncated
  | cancelledWithPartial
  | failedBeforeResult
  deriving DecidableEq, Repr

/-- `query_explanation` -/
structure QueryExplanation where
  id : Bytes
  text : Bytes
  deriving DecidableEq, Repr

/-- `query_result::data` -/
structure QueryResult where
  irDigest : Bytes
  snapshot : Bytes
  publication : Bytes
  logical : QueryExplanation
  physical : QueryExplanation
  coverage : List SnapshotQueryCoverage
  unresolved : List QueryUnresolved
  inputComplete : Bool
  closedWorld : Bool
  closures : List Bytes
  conflicts : List ClaimConflict := []
  disagreements : List DifferentialDisagreement := []
  producers : List ClaimProducer := []
  rows : List AnnotatedRow := []
  ordered : Bool := false
  status : ExecutionStatus
  guarantee : SummaryGuarantee
  deriving DecidableEq

/-! ## Conflicts of the annotations that were read -/

section Conflicts

variable (hash : Bytes → Bytes) (descriptors : List (Bytes × RelationDescriptor))

/-- What `annotation_order` compares. -/
def annotationTie (annotated : SnapshotClaimAnnotation) :
    Bytes ×ₗ Bytes ×ₗ Bytes ×ₗ Bytes ×ₗ Bytes :=
  toLex (annotated.row.descriptorId, toLex (annotated.semanticKey,
    toLex (annotated.interpretation, toLex (annotated.assertion, annotated.content))))

/-- The descriptor of an annotation, if it has a functional payload. -/
def functionalDescriptor (annotated : SnapshotClaimAnnotation) : Option RelationDescriptor :=
  (descriptors.lookup annotated.row.descriptorId).filter fun descriptor =>
    descriptor.merge == .functionalAssertion

/-- The groups of the loops over the annotations, in the order of their keys. -/
def annotationGroups (key : SnapshotClaimAnnotation → Bytes)
    (annotations : List SnapshotClaimAnnotation) : List (List SnapshotClaimAnnotation) :=
  let functional := annotations.filter fun annotated =>
    (functionalDescriptor descriptors annotated).isSome
  let groups := sortBy
    (fun left right : Bytes × List SnapshotClaimAnnotation => bytesLess left.1 right.1)
    (groupBy key functional)
  groups.map fun group =>
    sortBy (fun left right => decide (annotationTie left < annotationTie right)) group.2

/-- The overlap of two annotations whose payloads differ; a failed overlap is none. -/
def differingOverlap (descriptor : RelationDescriptor)
    (pair : SnapshotClaimAnnotation × SnapshotClaimAnnotation) : Result (List Bytes) := do
  let left ← functionalPayloadDigest hash descriptor pair.1.row
  let right ← functionalPayloadDigest hash descriptor pair.2.row
  if left = right then .ok []
  else .ok ((pair.1.presence.overlap pair.2.presence).toOption.getD [])

/-- The body of the inner loop of `conflicts_for`. -/
def conflictOf (pair : SnapshotClaimAnnotation × SnapshotClaimAnnotation) :
    Result (List ClaimConflict) :=
  match functionalDescriptor descriptors pair.1 with
  | none => .ok []
  | some descriptor => do
    let overlap ← differingOverlap hash descriptor pair
    if overlap = [] then .ok []
    else
      .ok [{ relation := descriptor.name
             semanticKey := pair.1.semanticKey
             interpretation := pair.1.interpretation
             overlapFragments := overlap
             assertions := [pair.1.assertion, pair.2.assertion]
             contents := [pair.1.content, pair.2.content] }]

/-- `conflicts_for` -/
def conflictsFor (annotations : List SnapshotClaimAnnotation) : Result (List ClaimConflict) := do
  let key (annotated : SnapshotClaimAnnotation) : Bytes :=
    annotated.row.descriptorId ++ 0x0a :: annotated.semanticKey ++
      0x0a :: annotated.interpretation
  let conflicts ← collect (fun group => collect (conflictOf hash descriptors) (pairs group))
    (annotationGroups descriptors key annotations)
  .ok (canonicalizeClaimConflicts conflicts)

/-- The body of the inner loop of `disagreements_for`. -/
def disagreementOf (pair : SnapshotClaimAnnotation × SnapshotClaimAnnotation) :
    Result (List DifferentialDisagreement) :=
  if pair.1.interpretation = pair.2.interpretation then .ok []
  else
    match functionalDescriptor descriptors pair.1 with
    | none => .ok []
    | some descriptor => do
      let overlap ← differingOverlap hash descriptor pair
      if overlap = [] then .ok []
      else
        .ok [{ relation := descriptor.name
               semanticKey := pair.1.semanticKey
               leftInterpretation := pair.1.interpretation
               rightInterpretation := pair.2.interpretation
               leftContent := pair.1.content
               rightContent := pair.2.content
               overlapFragments := overlap }]

/-- What the sort of `disagreements_for` compares, which is all but the fragments. -/
def disagreementTie (value : DifferentialDisagreement) :
    Bytes ×ₗ Bytes ×ₗ Bytes ×ₗ Bytes ×ₗ Bytes ×ₗ Bytes :=
  toLex (value.relation, toLex (value.semanticKey, toLex (value.leftInterpretation,
    toLex (value.rightInterpretation, toLex (value.leftContent, value.rightContent)))))

/-- `disagreements_for` -/
def disagreementsFor (annotations : List SnapshotClaimAnnotation) :
    Result (List DifferentialDisagreement) := do
  let key (annotated : SnapshotClaimAnnotation) : Bytes :=
    annotated.row.descriptorId ++ 0x0a :: annotated.semanticKey
  let disagreements ← collect (fun group => collect (disagreementOf hash descriptors) (pairs group))
    (annotationGroups descriptors key annotations)
  .ok (sortUnique (fun left right => decide (disagreementTie left < disagreementTie right))
    (· == ·) disagreements)

end Conflicts

/-! ## The nodes -/

/-- The names of `operator_strategy`. -/
def operatorStrategies : List (Bytes × Bytes) :=
  [("query.condition_restrict.v1", "canonical-condition-intersection"),
    ("query.distinct.v1", "canonical-key-reduction"), ("query.filter.v1", "typed-predicate"),
    ("query.inner_join.v1", "bounded-reference-nested-loop"),
    ("query.interpretation_restrict.v1", "exact-interpretation-filter"),
    ("query.limit.v1", "sealed-total-order-prefix"), ("query.order_by.v1", "stable-total-order"),
    ("query.project.v1", "lossless-column-projection"),
    ("query.scan.v1", "canonical-claim-content-scan"),
    ("query.semi_join.v1", "all-compatible-witness-reduction"),
    ("query.anti_join.v1", "closure-proven-absence-filter"), ("query.union.v1", "bag-addition")]

/-- What the nodes of a run read. -/
structure RunInputs where
  snapshot : Snapshot
  descriptors : List (Bytes × RelationDescriptor)
  budget : ExecutionBudget
  readyAntiJoins : List Bytes

/-- The loop over the plan: the state, the types of the columns, the evaluations by node, and the
    physical explanation. -/
structure PlanRun where
  state : RuntimeState := {}
  columnTypes : ColumnTypes
  evaluations : List (Bytes × Evaluation) := []
  physical : Bytes

section Nodes

variable (inputs : RunInputs)

/-- `evaluations.at(id)` -/
def PlanRun.evaluation (run : PlanRun) (id : Bytes) : Evaluation :=
  (run.evaluations.lookup id).getD {}

/-- The branches of the operators that take a predicate. -/
def runPredicate (planned : PlannedNode) (columnTypes : ColumnTypes) (predicate : DecodedPredicate)
    (left right : Evaluation) (run : Run) : Result Run :=
  if planned.node.operatorId = "query.inner_join.v1" then
    runInnerJoin inputs.budget planned.stableId columnTypes predicate left right run
  else if planned.node.operatorId = "query.semi_join.v1" then
    runSemiJoin inputs.budget planned.stableId columnTypes predicate left right run
  else if planned.node.operatorId = "query.anti_join.v1" then
    runAntiJoin inputs.budget planned.stableId columnTypes predicate
      (inputs.readyAntiJoins.contains planned.stableId) left right run
  else runFilter inputs.budget planned.stableId columnTypes predicate left run

/-- The branches of the operators without arguments. -/
def runEmpty (planned : PlannedNode) (left right : Evaluation) (run : Run) : Result Run :=
  if planned.node.operatorId = "query.union.v1" then
    runUnion inputs.budget planned.stableId left right run
  else runDistinct inputs.budget planned.stableId left run

/-- The branches of the operators; the types of the columns grow with a projection. -/
def runOperator (planned : PlannedNode) (columnTypes : ColumnTypes) (left right : Evaluation)
    (run : Run) : OperatorArguments → Result (ColumnTypes × Run)
  | .scan descriptorId scanAlias => do
    let run ← runScan inputs.budget planned.stableId inputs.snapshot inputs.descriptors descriptorId
      scanAlias run
    .ok (columnTypes, run)
  | .predicate predicate => do
    let run ← runPredicate inputs planned columnTypes predicate left right run
    .ok (columnTypes, run)
  | .project items => runProject inputs.budget planned.stableId columnTypes items left run
  | .empty => do
    let run ← runEmpty inputs planned left right run
    .ok (columnTypes, run)
  | .order keys => do
    let run ← runOrder inputs.budget planned.stableId columnTypes keys left run
    .ok (columnTypes, run)
  | .limit count => do
    let run ← runLimit inputs.budget planned.stableId count left run
    .ok (columnTypes, run)
  | .condition conditionUniverse alternatives => do
    let run ← runCondition inputs.budget planned.stableId conditionUniverse alternatives left run
    .ok (columnTypes, run)
  | .interpretation interpretation => do
    let run ← runInterpretation inputs.budget planned.stableId interpretation left run
    .ok (columnTypes, run)

/-- What the physical explanation says of a node that ran. -/
def nodeExplanation (planned : PlannedNode) (run : Run) : Bytes :=
  ascii ";node=" ++ planned.stableId ++ ascii ":" ++ planned.node.operatorId ++ ascii ":" ++
    (operatorStrategies.lookup planned.node.operatorId).getD [] ++ ascii ",rows=" ++
    CanonicalValue.decimal run.output.rows.length ++ ascii ",retained-bytes=" ++
    CanonicalValue.decimal run.state.retainedMemoryBytes.toNat

/-- The run with the evaluation of a node. -/
def PlanRun.record (run : PlanRun) (planned : PlannedNode) (columnTypes : ColumnTypes) (ran : Run) :
    PlanRun where
  state := ran.state
  columnTypes := columnTypes
  evaluations := run.evaluations ++ [(planned.node.id, ran.output)]
  physical := run.physical ++ nodeExplanation planned ran

/-- The body of the loop over the plan. -/
def runNode (run : PlanRun) (planned : PlannedNode) : Result PlanRun := do
  let arguments ← decodeArguments planned.node.operatorId planned.node.arguments
  let left := run.evaluation (planned.inputs.headD [])
  let right := run.evaluation (planned.inputs.tail.headD [])
  let (columnTypes, ran) ←
    runOperator inputs planned run.columnTypes left right { state := run.state, output := {} }
      arguments
  .ok (run.record planned columnTypes ran)

/-- The loop over the plan. -/
def runPlan (run : PlanRun) (plan : List PlannedNode) : Result PlanRun :=
  untilFailed (fun run : PlanRun => run.state.failed) (runNode inputs) run plan

end Nodes

/-! ## Before the run -/

/-- The loop over the scans: the types of the columns as the query expects them. -/
def scanColumnTypes (requirements : List RelationDescriptor) (columnTypes : ColumnTypes) :
    List IrNode → Result ColumnTypes
  | [] => .ok columnTypes
  | node :: rest =>
    if node.operatorId ≠ "query.scan.v1" then scanColumnTypes requirements columnTypes rest
    else do
      let arguments ← decodeArguments node.operatorId node.arguments
      match arguments with
      | .scan descriptorId scanAlias =>
        let columns := ((requirements.find? fun descriptor => descriptor.id == descriptorId).map
          RelationDescriptor.columns).getD []
        scanColumnTypes requirements
          (columns.foldl (fun columnTypes column =>
            columnTypes.emplace (occurrenceColumnId scanAlias column.id) column.type) columnTypes)
          rest
      | _ => scanColumnTypes requirements columnTypes rest

/-- What the coverage is sorted by. -/
def coverageTie (coverage : SnapshotQueryCoverage) :
    Bytes ×ₗ Bytes ×ₗ Bytes ×ₗ Bytes ×ₗ Bytes :=
  toLex (coverage.relationDescriptorId, toLex (coverage.unit.domain, toLex (coverage.unit.key,
    toLex (coverage.unit.state, coverage.unit.reason))))

/-- The coverage of the relations that are required. -/
def requiredCoverage (snapshot : Snapshot) (requirements : List Bytes) :
    List SnapshotQueryCoverage :=
  sortBy (fun left right => decide (coverageTie left < coverageTie right))
    (snapshot.coverage.filter fun coverage => requirements.contains coverage.relationDescriptorId)

/-- The unresolved references of the relations that are required. -/
def requiredUnresolved (snapshot : Snapshot) (requirements : List Bytes) : List QueryUnresolved :=
  (snapshot.unresolved.filter fun unresolved =>
    requirements.contains unresolved.sourceRelation).map fun unresolved =>
      { code := "sdk.query-input-unresolved", subject := unresolved.sourceAssertion,
        detail := unresolved.reason }

/-- `input_complete` -/
def inputsComplete (coverage : List SnapshotQueryCoverage) (unresolved : List QueryUnresolved)
    (requirements : List Bytes) : Bool :=
  !requirements.isEmpty &&
    requirements.all (fun relation =>
      (coverage.any fun unit => unit.relationDescriptorId == relation) &&
        coverage.all fun unit =>
          unit.relationDescriptorId != relation || unit.unit.state == ascii "covered") &&
    unresolved.isEmpty

/-- What is settled before a query runs. -/
structure Preparation where
  query : LogicalQueryIr
  plan : List PlannedNode
  columnTypes : ColumnTypes
  inputs : RunInputs
  implicitProjection : Bool
  emptyProofs : List ContributorEdge
  /-- The result so far: without rows, and not summarized. -/
  base : QueryResult

/-- A guarantee for a result that is not summarized yet. -/
def noGuarantee : SummaryGuarantee where
  approximation := []
  scope := []
  conditionPartition := { «universe» := [], fragments := [] }
  interpretationPartitions := []
  assumptions := []
  verificationModalities := []
  fragmentCount := 0
  fragmentSetDigest := []
  drillDownRef := []
  fragments := []

section Hash

variable (hash : Bytes → Bytes)

/-- The part of `execute` before the first checkpoint. -/
def prepare (snapshot : Snapshot) (query : LogicalQueryIr) (budget : ExecutionBudget) :
    Result Preparation := do
  query.validate hash
  let schemaPlan ← schemaCompatibilityPlan query
  let plan := executionPlan hash query
  let descriptors ← checkRequirements snapshot schemaPlan query.relationRequirements
  let requirements := canonicalSet (query.relationRequirements.map RelationDescriptor.id)
  let columnTypes ← scanColumnTypes query.relationRequirements OrderedMap.empty query.nodes
  let coverage := requiredCoverage snapshot requirements
  let unresolved := requiredUnresolved snapshot requirements
  let complete := inputsComplete coverage unresolved requirements
  let closures ← applicableClosures query snapshot requirements query.root
  let (ready, applied, missing) ← readyAntiJoins query snapshot plan query.nodes
  let emptyProofs ← emptyResultProofs query
  .ok
    { query := query
      plan := plan
      columnTypes := columnTypes
      inputs :=
        { snapshot := snapshot, descriptors := descriptors, budget := budget,
          readyAntiJoins := ready }
      implicitProjection := !hasProjection query.nodes
      emptyProofs := emptyProofs
      base :=
        { irDigest := query.digest hash
          snapshot := snapshot.id
          publication := snapshot.publicationId
          logical := { id := query.digest hash, text := query.canonicalForm hash }
          physical := { id := "cxxlens.reference-query-planner.v1", text := [] }
          coverage := coverage
          unresolved := unresolved ++ missing
          inputComplete := complete
          closedWorld := complete && closures.isSome
          closures := canonicalSet (closures.getD [] ++ applied)
          status := .complete
          guarantee := noGuarantee } }

/-! ## Behind the run -/

/-- What a result is summarized from. -/
def summaryInputs (result : QueryResult) (emptyProofs : List ContributorEdge) (limited : Bool) :
    SummaryInputs where
  emptyResultProofs := emptyProofs
  coverage := result.coverage
  closures := result.closures
  unresolved := result.unresolved
  conflicts := result.conflicts
  inputsComplete := result.inputComplete
  executionComplete := result.status == .complete
  closedWorld := result.closedWorld
  limited := limited

/-- The result with its guarantee. -/
def summarized (result : QueryResult) (emptyProofs : List ContributorEdge) (limited : Bool) :
    QueryResult :=
  { result with
    guarantee :=
      summarizeGuarantee (summaryInputs result emptyProofs limited) hash result.rows }

/-- `unresolved.push_back` -/
def QueryResult.report (result : QueryResult) (code subject detail : Bytes) : QueryResult :=
  { result with
    unresolved := result.unresolved ++ [{ code := code, subject := subject, detail := detail }] }

/-- The result of a run that failed: no rows, and an item that says so. -/
def failedResult (result : QueryResult) (emptyProofs : List ContributorEdge)
    (code subject : Bytes) : QueryResult :=
  summarized hash
    ({ result with status := .failedBeforeResult }.report code subject "no sealed rows")
    emptyProofs false

/-- The failure of a state. -/
def RuntimeState.failureOf (state : RuntimeState) : RuntimeFailure :=
  state.failure.getD { code := [], subject := [] }

/-- The loop over the rows of the implicit projection. -/
def projectRows (budget : ExecutionBudget) (outputSchema : List ColumnRef)
    (columnTypes : ColumnTypes) (run : Run) : Result Run :=
  untilFailed Run.failed (fun run index =>
    match run.output.rows[index]? with
    | none => .ok run
    | some row =>
      .ok (replaceRow budget "implicit-terminal-project" run index
        (projectTerminalRow outputSchema columnTypes row))) run
    (List.range run.output.rows.length)

/-- The implicit projection, where a query has none of its own. Nothing reads the keys of the order
    behind it. -/
def terminalRun (preparation : Preparation) (run : PlanRun) : Result Run :=
  let evaluated : Run := { state := run.state, output := run.evaluation preparation.query.root }
  if preparation.implicitProjection = true then
    projectRows preparation.inputs.budget preparation.query.outputSchema run.columnTypes evaluated
  else .ok evaluated

/-- The loop that publishes the rows, up to the first checkpoint where a stop is requested: the rows,
    and whether there was one. -/
def publishRows (stopRequested : ExecutionCheckpoint → Bool) :
    Nat → List AnnotatedRow → List AnnotatedRow × Bool
  | _, [] => ([], false)
  | index, row :: rest =>
    if stopRequested (.beforePublishRow index) = true then ([], true)
    else
      let (published, stopped) := publishRows stopRequested (index + 1) rest
      (row :: published, stopped)

/-- The rows as they are published, in the order of their canonical forms if they have none. -/
def sealedRows (output : Evaluation) : List AnnotatedRow :=
  if output.ordered = true then output.rows else sortBy canonicalRowLess output.rows

/-- The rows of the root within the budget. -/
def truncate (maxRowsOutput : UInt64) (normalizedRoot : Bytes) (result : QueryResult)
    (output : Evaluation) : QueryResult :=
  let rows := sealedRows output
  if maxRowsOutput.toNat < rows.length then
    { result with
      rows := rows.take maxRowsOutput.toNat
      ordered := output.ordered
      status := .truncated }.report "sdk.query-output-budget" normalizedRoot
        "canonical sealed prefix returned"
  else { result with rows := rows, ordered := output.ordered, status := .complete }

/-- The rows up to the checkpoint where a stop is requested. -/
def cancel (stopRequested : ExecutionCheckpoint → Bool) (normalizedRoot : Bytes)
    (result : QueryResult) : QueryResult :=
  let published := publishRows stopRequested 0 result.rows
  if published.2 = false then result
  else if published.1 = [] then
    { result with rows := [], status := .failedBeforeResult }.report "sdk.query-cancelled"
      normalizedRoot "no sealed rows"
  else
    { result with rows := published.1, status := .cancelledWithPartial }.report
      "sdk.query-cancelled" normalizedRoot "sealed canonical prefix returned"

/-- The publication of the rows of the root. -/
def publish (request : ExecutionRequest) (preparation : Preparation) (normalizedRoot : Bytes)
    (result : QueryResult) (output : Evaluation) : QueryResult :=
  let result :=
    cancel request.stopRequested normalizedRoot
      (truncate request.budget.maxRowsOutput normalizedRoot result output)
  summarized hash result preparation.emptyProofs (output.limited || result.status != .complete)

/-- The start of the loop over the plan. -/
def startRun (preparation : Preparation) : PlanRun where
  columnTypes := preparation.columnTypes
  physical :=
    ascii "backend=" ++ preparation.inputs.snapshot.physicalBackend ++
      (if preparation.implicitProjection = true then ascii ";terminal=canonical-implicit-project"
        else [])

/-- What the physical explanation says of a run that ended. -/
def explained (result : QueryResult) (physical : Bytes) (state : RuntimeState) : QueryResult :=
  { result with
    physical := { result.physical with
      text := physical ++ ascii ";peak-logical-bytes=" ++
        CanonicalValue.decimal state.peakMemoryBytes.toNat ++ ascii ";peak-intermediate-rows=" ++
        CanonicalValue.decimal state.peakIntermediateRows.toNat } }

/-- The part of `execute` behind the loop over the plan. -/
def finish (request : ExecutionRequest) (preparation : Preparation) (run : PlanRun) :
    Result QueryResult :=
  if run.state.failed = true then
    .ok (failedResult hash (explained preparation.base run.physical run.state)
      preparation.emptyProofs run.state.failureOf.code run.state.failureOf.subject)
  else do
    let descriptors := preparation.inputs.descriptors
    let conflicts ← conflictsFor hash descriptors run.state.sourceAnnotations
    let disagreements ← disagreementsFor hash descriptors run.state.sourceAnnotations
    let terminal ← terminalRun preparation run
    let result :=
      explained
        { preparation.base with
          conflicts := conflicts
          disagreements := disagreements
          producers :=
            canonicalProducers (run.state.sourceAnnotations.map SnapshotClaimAnnotation.producer) }
        run.physical terminal.state
    if terminal.failed = true then
      .ok (failedResult hash result preparation.emptyProofs terminal.state.failureOf.code
        terminal.state.failureOf.subject)
    else
      .ok (publish hash request preparation (stableId preparation.plan preparation.query.root) result
        terminal.output)

/-- `reference_engine::execute` -/
def execute (snapshot : Snapshot) (query : LogicalQueryIr) (request : ExecutionRequest) :
    Result QueryResult := do
  let preparation ← prepare hash snapshot query request.budget
  if request.stopRequested .beforeExecution = true then
    .ok (failedResult hash
      { preparation.base with
        physical := { preparation.base.physical with
          text := ascii "backend=" ++ snapshot.physicalBackend ++
            ascii ";cancelled=before-execution" } }
      preparation.emptyProofs "sdk.query-cancelled" "before-execution")
  else do
    let run ← runPlan preparation.inputs (startRun preparation) preparation.plan
    finish hash request preparation run

end Hash

end Cxxlens.Sdk.Query
