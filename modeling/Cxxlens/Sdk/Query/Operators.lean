import Cxxlens.Sdk.Query.Runtime

set_option autoImplicit false

/-! # Operators

The branches of `reference_engine::execute` (`query_execution.cpp`): the rows of a node from the rows
of its inputs. -/

namespace Cxxlens.Sdk.Query

open Sorting Stopping

/-! ## Loops -/

section Loops

variable (budget : ExecutionBudget) (subject : Bytes)

/-- A loop that appends the row that `make` gives for an item, if it gives one. -/
def appendEach {α : Type} (make : α → Result (Option AnnotatedRow)) (run : Run) (items : List α) :
    Result Run :=
  untilFailed Run.failed (fun run item => do
    match ← make item with
    | none => .ok run
    | some row => .ok (appendRow budget subject run row)) run items

/-- A row that is kept where a test holds. -/
def keepIf (test : AnnotatedRow → Bool) (row : AnnotatedRow) : Result (Option AnnotatedRow) :=
  .ok (if test row = true then some row else none)

/-- The evaluation keeps the order of its input, and what is known of limits. -/
def Run.likeInput (run : Run) (input : Evaluation) : Run :=
  { run with
    output := { run.output with
      ordered := input.ordered
      orderKeys := input.orderKeys
      limited := input.limited } }

/-- The evaluation has no order. -/
def Run.limitedBy (run : Run) (limited : Bool) : Run :=
  { run with output := { run.output with limited := limited } }

/-! ## Scan -/

/-- The edge of an annotation. -/
def annotationEdge (annotated : SnapshotClaimAnnotation) : ContributorEdge where
  claimContributor := annotated.assertion
  producer := annotated.producer
  provenance := annotated.provenanceRoot
  guarantee := annotated.guarantee
  condition := annotated.presence
  interpretation := annotated.interpretation

/-- The row of an annotation. -/
def scanRow (scanAlias : Bytes) (annotated : SnapshotClaimAnnotation) : AnnotatedRow where
  values := annotated.row.cells.foldl (fun values entry =>
    values.emplace (occurrenceColumnId scanAlias entry.1) entry.2) OrderedMap.empty
  presence := annotated.presence
  interpretation := annotated.interpretation
  claimContributors := [annotated.assertion]
  producerContracts := [annotated.producer]
  provenance := [annotated.provenanceRoot]
  contributorGuarantees := [annotated.guarantee]
  contributorEdges := [annotationEdge annotated]

/-- A row with the edge of another annotation of its content. -/
def addAnnotation (row : AnnotatedRow) (annotated : SnapshotClaimAnnotation) : AnnotatedRow :=
  canonicalizeContributorEdges
    { row with contributorEdges := row.contributorEdges ++ [annotationEdge annotated] }

/-- A scan, and `semantic_rows`: the index of the row of each content. -/
structure ScanRun where
  run : Run
  semanticRows : List (Bytes × Nat) := []

/-- The run with one more row scanned. -/
def Run.scanned (run : Run) : Run :=
  { run with state := { run.state with scanned := run.state.scanned + 1 } }

/-- The index of the row with the content of an annotation; a multiset keeps every row. -/
def existingRow (preserveMultiplicity : Bool) (scan : ScanRun)
    (annotated : SnapshotClaimAnnotation) : Option Nat :=
  if preserveMultiplicity = true then none else scan.semanticRows.lookup annotated.content

/-- The scan with the row of an annotation, which is a new one or one that is there. -/
def recordAnnotation (preserveMultiplicity : Bool) (scanAlias : Bytes) (scan : ScanRun)
    (annotated : SnapshotClaimAnnotation) : ScanRun :=
  match existingRow preserveMultiplicity scan annotated with
  | some index =>
    match scan.run.output.rows[index]? with
    | some row =>
      { scan with
        run := replaceRow budget subject scan.run.scanned index ( addAnnotation row annotated) }
    | none => { scan with run := scan.run.scanned }
  | none =>
    { run := appendRow budget subject scan.run.scanned (scanRow scanAlias annotated)
      semanticRows :=
        if preserveMultiplicity = true then scan.semanticRows
        else scan.semanticRows ++ [(annotated.content, scan.run.output.rows.length)] }

/-- The body of the loop of a scan behind the budgets of the cursor. -/
def scanAnnotation (preserveMultiplicity : Bool) (scanAlias : Bytes) (scan : ScanRun)
    (annotated : SnapshotClaimAnnotation) : ScanRun :=
  let scanned := recordAnnotation budget subject preserveMultiplicity scanAlias scan annotated
  if scanned.run.failed = true then scanned
  else { scanned with run := appendSourceAnnotation budget subject scanned.run annotated }

/-- The body of the loop of a scan. -/
def scanStep (descriptorId : Bytes) (preserveMultiplicity : Bool) (scanAlias : Bytes)
    (scan : ScanRun) (annotated : SnapshotClaimAnnotation) : Result ScanRun :=
  if budget.maxMemoryBytes ≤ scan.run.state.retainedMemoryBytes then
    .ok { scan with run := scan.run.fail "sdk.query-memory-budget" subject }
  else if scan.run.state.scanned = budget.maxRowsScanned then
    .ok { scan with run := scan.run.fail "sdk.query-scan-budget" descriptorId }
  else .ok ( scanAnnotation budget subject preserveMultiplicity scanAlias scan annotated)

/-- `query.scan.v1` -/
def runScan (snapshot : Snapshot) (descriptors : List (Bytes × RelationDescriptor))
    (descriptorId scanAlias : Bytes) (run : Run) : Result Run := do
  let preserveMultiplicity :=
    (descriptors.lookup descriptorId).any fun descriptor => descriptor.merge == .multiset
  let annotations ← snapshot.openClaims descriptorId
  let scan ← untilFailed (fun scan : ScanRun => scan.run.failed)
    (scanStep budget subject descriptorId preserveMultiplicity scanAlias) { run := run } annotations
  .ok scan.run

/-! ## Rows of one input -/

/-- `query.filter.v1` -/
def runFilter (columnTypes : ColumnTypes) (predicate : DecodedPredicate) (input : Evaluation)
    (run : Run) : Result Run := do
  let run ← appendEach budget subject
    (keepIf fun row => evaluatePredicate row columnTypes predicate) run input.rows
  .ok (run.likeInput input)

/-- The columns of a projection before it: the identifier of each in the input. -/
def projectMapping (columnTypes : ColumnTypes) (mapping : OrderedMap Bytes Bytes) :
    List ProjectionItem → Result (ColumnTypes × OrderedMap Bytes Bytes)
  | [] => .ok (columnTypes, mapping)
  | item :: rest =>
    match resolveOccurrence columnTypes item.column with
    | none => .error (queryError "sdk.query-column-mismatch" item.column.columnId)
    | some source =>
      projectMapping
        (columnTypes.emplace item.output
          ((columnTypes.find source).getD { scalar := .utf8String }))
        (mapping.emplace source item.output) rest

/-- The key of an order behind a projection. -/
def projectKey (columnTypes : ColumnTypes) (mapping : OrderedMap Bytes Bytes) (key : OrderKey) :
    Option OrderKey := do
  let source ← resolveOccurrence columnTypes key.column
  let output ← mapping.find source
  some { key with column := { key.column with columnId := output, sourceAlias := [] } }

/-- `query.project.v1` -/
def runProject (columnTypes : ColumnTypes) (items : List ProjectionItem) (input : Evaluation)
    (run : Run) : Result (ColumnTypes × Run) := do
  let (columnTypes, mapping) ← projectMapping columnTypes OrderedMap.empty items
  let columns := items.map fun item => (item.column, item.output)
  let run ← appendEach budget subject (fun row => .ok (some (projectRow columnTypes columns row)))
    run input.rows
  let keys := input.orderKeys.filterMap (projectKey columnTypes mapping)
  let ordered := input.ordered &&
    input.orderKeys.all fun key => (projectKey columnTypes mapping key).isSome
  .ok (columnTypes,
    { run with
      output := { run.output with
        ordered := ordered
        orderKeys := if ordered = true then keys else []
        limited := input.limited } })

/-- `query.order_by.v1` -/
def runOrder (columnTypes : ColumnTypes) (keys : List OrderKey) (input : Evaluation) (run : Run) :
    Result Run := do
  let run ← appendEach budget subject (keepIf fun _ => true) run input.rows
  let rows :=
    if run.failed = true then run.output.rows
    else sortBy (rowLess columnTypes keys) run.output.rows
  .ok { run with
    output := { run.output with
      rows := rows, ordered := true, orderKeys := keys, limited := input.limited } }

/-- `query.limit.v1` -/
def runLimit (count : UInt64) (input : Evaluation) (run : Run) : Result Run := do
  let run ← appendEach budget subject (keepIf fun _ => true) run (input.rows.take count.toNat)
  .ok ((run.likeInput input).limitedBy (input.limited || decide (count.toNat < input.rows.length)))

/-- A row under a restriction. -/
def restrictCondition (restriction : ClaimCondition) (row : AnnotatedRow) :
    Result (Option AnnotatedRow) := do
  let presence ← intersectCondition row.presence restriction
  .ok (presence.map fun presence =>
    bindContributorCondition { row with presence := presence } presence)

/-- `query.condition_restrict.v1` -/
def runCondition (conditionUniverse : Bytes) (alternatives : List Bytes) (input : Evaluation)
    (run : Run) : Result Run := do
  let run ← appendEach budget subject
    (restrictCondition { «universe» := conditionUniverse, fragments := alternatives }) run input.rows
  .ok (run.likeInput input)

/-- `query.interpretation_restrict.v1` -/
def runInterpretation (interpretation : Bytes) (input : Evaluation) (run : Run) : Result Run := do
  let run ← appendEach budget subject (keepIf fun row => row.interpretation == interpretation) run
    input.rows
  .ok (run.likeInput input)

/-! ## Distinct -/

/-- The loop of `distinct`: the index of the row of each key, and the bytes of the keys. -/
structure DistinctRun where
  run : Run
  groups : List (Bytes × Nat) := []
  scratchBytes : UInt64 := 0

/-- The body of the loop for a key that is not there yet. -/
def distinctInsert (key : Bytes) (distinct : DistinctRun) (row : AnnotatedRow) : DistinctRun :=
  let run := appendRow budget subject distinct.run { row with multiplicity := 1 }
  if run.failed = true then { distinct with run := run }
  else
    let keyBytes := UInt64.ofNat key.length
    let state := reserveMemory budget subject run.state keyBytes
    if state.failed = true then { distinct with run := { run with state := state } }
    else
      { run := { run with state := state }
        groups := distinct.groups ++ [(key, run.output.rows.length - 1)]
        scratchBytes := distinct.scratchBytes + keyBytes }

/-- The body of the loop. -/
def distinctStep (distinct : DistinctRun) (row : AnnotatedRow) : Result DistinctRun :=
  let key := distinctKey row
  match distinct.groups.lookup key with
  | none => .ok (distinctInsert budget subject key distinct row)
  | some index =>
    match distinct.run.output.rows[index]? with
    | none => .ok distinct
    | some current =>
      .ok { distinct with
        run := replaceRow budget subject distinct.run index (mergeRow current row) }

/-- `query.distinct.v1` -/
def runDistinct (input : Evaluation) (run : Run) : Result Run := do
  let distinct ← untilFailed (fun distinct : DistinctRun => distinct.run.failed)
    (distinctStep budget subject) { run := run } input.rows
  let state := distinct.run.state
  .ok ({ distinct.run with
    state := { state with
      retainedMemoryBytes := state.retainedMemoryBytes - distinct.scratchBytes } }.limitedBy
    input.limited)

/-! ## Joins -/

variable (columnTypes : ColumnTypes) (predicate : DecodedPredicate)

/-- The row of two rows that join. -/
def joinRow (left right : AnnotatedRow) : Result (Option AnnotatedRow) := do
  let combined ← combine left right
  .ok (combined.filter fun row => evaluatePredicate row columnTypes predicate)

/-- `query.inner_join.v1` -/
def runInnerJoin (left right : Evaluation) (run : Run) : Result Run := do
  let run ← untilFailed Run.failed (fun run row =>
    appendEach budget subject (joinRow columnTypes predicate row) run right.rows) run left.rows
  .ok (run.limitedBy (left.limited || right.limited))

/-- The loop of a semi-join over the right rows: the row that is selected so far. -/
structure SemiRun where
  run : Run
  selected : Option AnnotatedRow := none

/-- The row before its first witness. -/
def unwitnessed (row : AnnotatedRow) : AnnotatedRow :=
  { row with presence := { row.presence with fragments := [] }, contributorEdges := [] }

/-- The body of the loop over the right rows. -/
def semiStep (left : AnnotatedRow) (semi : SemiRun) (right : AnnotatedRow) : Result SemiRun := do
  match ← joinRow columnTypes predicate left right with
  | none => .ok semi
  | some witness =>
    if semi.selected.isNone = true ∧
        rowsExceed semi.run.output.rows budget.maxIntermediateRows = true then
      .ok { semi with run := semi.run.fail "sdk.query-intermediate-budget" subject }
    else
      let selected := mergeRow (semi.selected.getD (unwitnessed left)) witness
      .ok { run := candidateFitsMemory budget subject semi.run selected, selected := some selected }

/-- The selected row as it is appended. -/
def selectRow (row : AnnotatedRow) : AnnotatedRow :=
  canonicalizeContributorEdges
    { row with presence := { row.presence with fragments := canonicalSet row.presence.fragments } }

/-- The body of the loop over the left rows. -/
def semiRow (right : Evaluation) (run : Run) (left : AnnotatedRow) : Result Run := do
  let semi ← untilFailed (fun semi : SemiRun => semi.run.failed)
    (semiStep budget subject columnTypes predicate left) { run := run } right.rows
  if semi.run.failed = true then .ok semi.run
  else
    match semi.selected with
    | none => .ok semi.run
    | some selected => .ok (appendRow budget subject semi.run (selectRow selected))

/-- The order is the one of the left input, a limit of either counts. -/
def Run.likeLeft (run : Run) (left right : Evaluation) : Run :=
  (run.likeInput left).limitedBy (left.limited || right.limited)

/-- `query.semi_join.v1` -/
def runSemiJoin (left right : Evaluation) (run : Run) : Result Run := do
  let run ← untilFailed Run.failed (semiRow budget subject columnTypes predicate right) run left.rows
  .ok (run.likeLeft left right)

/-- The loop of an anti-join over the right rows. -/
def witnessed (left : AnnotatedRow) : List AnnotatedRow → Result Bool
  | [] => .ok false
  | right :: rest => do
    match ← joinRow columnTypes predicate left right with
    | some _ => .ok true
    | none => witnessed left rest

/-- A left row without a witness. -/
def keepUnwitnessed (right : Evaluation) (left : AnnotatedRow) : Result (Option AnnotatedRow) := do
  let found ← witnessed columnTypes predicate left right.rows
  .ok (if found = true then none else some left)

/-- `query.anti_join.v1` -/
def runAntiJoin (ready : Bool) (left right : Evaluation) (run : Run) : Result Run :=
  if ready = false then .ok (run.likeLeft left right)
  else do
    let run ← appendEach budget subject (keepUnwitnessed columnTypes predicate right) run left.rows
    .ok (run.likeLeft left right)

/-- `query.union.v1` -/
def runUnion (left right : Evaluation) (run : Run) : Result Run := do
  let run ← appendEach budget subject (keepIf fun _ => true) run (left.rows ++ right.rows)
  .ok (run.limitedBy (left.limited || right.limited))

end Loops

end Cxxlens.Sdk.Query
