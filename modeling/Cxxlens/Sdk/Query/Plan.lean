import Cxxlens.Foundation.Stopping
import Cxxlens.Sdk.Query.Requirements
import Cxxlens.Sdk.Query.RowAlgebra
import Cxxlens.Sdk.Query.Snapshot

set_option autoImplicit false

/-! # Plans and closures

What is settled before a query runs (`query_execution.cpp`): the order of its nodes, the columns it
needs of the snapshot, and the closures that prove what is not there. -/

namespace Cxxlens.Sdk.Query

open Sorting Collections Stopping

/-! ## The execution plan -/

/-- A node of `canonical_execution_plan`, with its entries in `inputs` and `stable_ids`. -/
structure PlannedNode where
  node : IrNode
  inputs : List Bytes
  stableId : Bytes
  deriving DecidableEq, Repr

section Hash

variable (hash : Bytes → Bytes) (nodes : List IrNode)

/-- `canonical_inputs` -/
def canonicalInputs (node : IrNode) : List Bytes :=
  if node.operatorId = "query.union.v1" then
    sortBy (fun left right => operandLess hash (canonicalSubtreeForm hash nodes left)
      (canonicalSubtreeForm hash nodes right)) node.inputs
  else node.inputs

/-- The plan has the node. -/
def planned (plan : List PlannedNode) (id : Bytes) : Bool :=
  plan.any fun entry => entry.node.id == id

/-- `append_canonical_execution_node`. The fuel is for the depth, as in `nestedNodeJson`. -/
def appendPlannedNode : Nat → List PlannedNode → Bytes → List PlannedNode
  | 0, plan, _ => plan
  | fuel + 1, plan, id =>
    if planned plan id = true then plan
    else
      match findNode nodes id with
      | none => plan
      | some node =>
        let inputs := canonicalInputs hash nodes node
        let plan := inputs.foldl (appendPlannedNode fuel) plan
        plan ++ [{ node := node
                   inputs := inputs
                   stableId := ascii "n" ++ CanonicalValue.decimal plan.length }]

end Hash

/-- `make_canonical_execution_plan` -/
def executionPlan (hash : Bytes → Bytes) (query : LogicalQueryIr) : List PlannedNode :=
  appendPlannedNode hash query.nodes query.nodes.length [] query.root

/-- `stable_ids.at(id)` -/
def stableId (plan : List PlannedNode) (id : Bytes) : Bytes :=
  ((plan.find? fun entry => entry.node.id == id).map PlannedNode.stableId).getD []

/-! ## Compatibility of the schemas -/

/-- `schema_column_access` -/
structure SchemaColumnAccess where
  descriptorId : Bytes
  expected : ColumnDescriptor
  availability : ColumnAvailability := .absentIfSchemaMissing
  deriving DecidableEq, Repr

/-- The columns that a query reads, by their identifiers. -/
abbrev SchemaPlan := OrderedMap Bytes SchemaColumnAccess

/-- The body of `add`: one relation has the column. -/
def addReference (requirements : List RelationDescriptor) (plan : SchemaPlan)
    (reference : IrColumnRef) : Result SchemaPlan :=
  let owners := requirements.filterMap fun descriptor =>
    (findColumn descriptor.columns reference.columnId).map fun expected => (descriptor.id, expected)
  match owners with
  | [(descriptorId, expected)] =>
    match plan.find reference.columnId with
    | none => .ok (plan.assign reference.columnId
        { descriptorId := descriptorId, expected := expected,
          availability := reference.availability })
    | some access =>
      if reference.availability = .require then
        .ok (plan.assign reference.columnId { access with availability := .require })
      else .ok plan
  | _ => .error (queryError "sdk.query-snapshot-schema-mismatch" reference.columnId)

/-- The references of a node, for `make_schema_compatibility_plan`. -/
def schemaReferences : OperatorArguments → List IrColumnRef
  | .predicate predicate => collectColumns predicate
  | .project columns => columns.map ProjectionItem.column
  | .order keys => keys.map OrderKey.column
  | _ => []

/-- The loop over the nodes. -/
def addNodes (requirements : List RelationDescriptor) (plan : SchemaPlan) :
    List IrNode → Result SchemaPlan
  | [] => .ok plan
  | node :: rest => do
    let arguments ← decodeArguments node.operatorId node.arguments
    let plan ← (schemaReferences arguments).foldlM (addReference requirements) plan
    addNodes requirements plan rest

/-- `make_schema_compatibility_plan` -/
def schemaCompatibilityPlan (query : LogicalQueryIr) : Result SchemaPlan := do
  let plan ← addNodes query.relationRequirements OrderedMap.empty query.nodes
  if hasProjection query.nodes = false then
    -- `column_ref` gives no alias to the reference
    (query.outputSchema.map fun column => ({ columnId := column.columnId } : IrColumnRef)).foldlM
      (addReference query.relationRequirements) plan
  else .ok plan

/-- A column of the plan against the relation as the snapshot has it. -/
def checkColumn (descriptor : RelationDescriptor) (entry : Bytes × SchemaColumnAccess) :
    Result Unit :=
  let mismatch := queryError "sdk.query-snapshot-schema-mismatch" entry.1
  let expected := entry.2.expected
  match descriptor.column entry.1 with
  | .error _ =>
    reject (!(entry.2.availability == .absentIfSchemaMissing && !expected.required &&
      expected.type.optional)) mismatch
  | .ok column =>
    reject (column.type != expected.type || column.required != expected.required ||
      column.role != expected.role) mismatch

/-- The body of the loop over the requirements: the relation as the snapshot has it. -/
def checkRequirement (snapshot : Snapshot) (plan : SchemaPlan) (requirement : RelationDescriptor) :
    Result RelationDescriptor :=
  let mismatch := queryError "sdk.query-snapshot-schema-mismatch" requirement.id
  match snapshot.descriptor requirement.id with
  | .error _ => .error mismatch
  | .ok descriptor =>
    if descriptor.semanticMajor ≠ requirement.semanticMajor ∨
        descriptor.version.minor < requirement.version.minor then .error mismatch
    else do
      firstError (checkColumn descriptor)
        (plan.entries.filter fun entry => entry.2.descriptorId == requirement.id)
      .ok descriptor

/-- The loop over the requirements. -/
def checkRequirements (snapshot : Snapshot) (plan : SchemaPlan)
    (requirements : List RelationDescriptor) : Result (List (Bytes × RelationDescriptor)) :=
  requirements.mapM fun requirement => do
    let descriptor ← checkRequirement snapshot plan requirement
    .ok (requirement.id, descriptor)

/-! ## Selectors -/

/-- `closure_selector` -/
structure ClosureSelector where
  condition : Option ClaimCondition := none
  interpretation : Option Bytes := none
  deriving DecidableEq, Repr

/-- A selector below a node; nothing is left below a contradiction. -/
def narrowSelector (selector : ClosureSelector) : OperatorArguments → Result (Option ClosureSelector)
  | .condition conditionUniverse alternatives => do
    let requested : ClaimCondition := { «universe» := conditionUniverse, fragments := alternatives }
    match selector.condition with
    | none => .ok (some { selector with condition := some requested })
    | some condition => do
      let intersection ← intersectCondition condition requested
      .ok (intersection.map fun condition => { selector with condition := some condition })
  | .interpretation requested =>
    match selector.interpretation with
    | none => .ok (some { selector with interpretation := some requested })
    | some interpretation =>
      if interpretation ≠ requested then .ok none
      else .ok (some { selector with interpretation := some requested })
  | _ => .ok (some selector)

/-- `collect_closure_selectors`: the selectors in the order they are appended, each with its
    relation. The fuel is for the depth, as in `nestedNodeJson`. -/
def collectClosureSelectors (nodes : List IrNode) :
    Nat → ClosureSelector → Bytes → Result (List (Bytes × ClosureSelector))
  | 0, _, _ => .ok []
  | fuel + 1, selector, id =>
    match findNode nodes id with
    | none => .ok []
    | some node => do
      let arguments ← decodeArguments node.operatorId node.arguments
      match ← narrowSelector selector arguments with
      | none => .ok []
      | some selector =>
        match arguments with
        | .scan descriptorId _ => .ok [(descriptorId, selector)]
        | _ => collect (collectClosureSelectors nodes fuel selector) node.inputs

/-- The selectors of the scans below a node. -/
def closureSelectors (query : LogicalQueryIr) (root : Bytes) :
    Result (List (Bytes × ClosureSelector)) :=
  collectClosureSelectors query.nodes query.nodes.length {} root

/-- The selectors of a relation. -/
def selectorsOf (selectors : List (Bytes × ClosureSelector)) (relation : Bytes) :
    List ClosureSelector :=
  (selectors.filter fun entry => entry.1 == relation).map Prod.snd

/-- The edge of `empty_result_proofs` for a selector. -/
def emptyProof (selector : ClosureSelector) : ContributorEdge where
  claimContributor := []
  producer := { id := [], semanticContract := [] }
  provenance := []
  guarantee :=
    { approximation := [], scope := [], assumptions := [], verificationModalities := [] }
  condition :=
    selector.condition.getD { «universe» := ascii "query-empty", fragments := [ascii "empty"] }
  interpretation := selector.interpretation.getD (ascii "query-empty")

/-- `empty_result_proofs` -/
def emptyResultProofs (query : LogicalQueryIr) : Result (List ContributorEdge) := do
  let selectors ← closureSelectors query query.root
  let relations := canonicalSet (selectors.map Prod.fst)
  let proofs := relations.flatMap fun relation => (selectorsOf selectors relation).map emptyProof
  if proofs = [] then .ok (canonicalContributorEdges [emptyProof {}])
  else .ok (canonicalContributorEdges proofs)

/-- `subtree_requirements` -/
def subtreeRequirements (query : LogicalQueryIr) (root : Bytes) : Result (List Bytes) := do
  let selectors ← closureSelectors query root
  .ok (canonicalSet (selectors.map Prod.fst))

/-! ## Closures -/

/-- The certificate that a binding needs. -/
def certifies (relation : Bytes) (binding : SnapshotPartitionBinding) (value : ClosureCertificate) :
    Bool :=
  value.subject.subjectPartitionId == binding.partitionId &&
    value.subject.relationDescriptorId == relation &&
    value.subject.condition == binding.condition &&
    value.subject.interpretation == binding.interpretation &&
    value.subject.assumptionSetId == binding.assumptionSetId &&
    value.subject.producerSemantics == binding.producerSemantics &&
    value.subject.closureKind == ascii "relation-key-enumeration"

/-- The fragments that a binding covers of a selector, if the binding is relevant. -/
def relevantFragments (relation : Bytes) (selector : ClosureSelector)
    (binding : SnapshotPartitionBinding) : Result (Option (List Bytes)) :=
  if binding.relationDescriptorId ≠ relation ∨
      selector.interpretation.any (fun value => binding.interpretation != value) = true then .ok none
  else
    match selector.condition with
    | none => .ok (some [])
    | some condition => do
      let overlap ← binding.condition.overlap condition
      if overlap = [] then .ok none else .ok (some overlap)

/-- The body of the loop over the bindings: the fragments and the certificate of a relevant binding;
    without a certificate there is no closure. -/
def bindingClosure (snapshot : Snapshot) (relation : Bytes) (selector : ClosureSelector)
    (binding : SnapshotPartitionBinding) : Result (Option (List (List Bytes × Bytes))) := do
  match ← relevantFragments relation selector binding with
  | none => .ok (some [])
  | some fragments =>
    match snapshot.closureCertificates.find? (certifies relation binding) with
    | none => .ok none
    | some certificate => .ok (some [(fragments, certificate.id)])

/-- The body of the loop over the selectors: the certificates that close what a selector asks
    for. -/
def selectorClosures (snapshot : Snapshot) (relation : Bytes) (selector : ClosureSelector) :
    Result (Option (List Bytes)) := do
  match ← collectSome (bindingClosure snapshot relation selector) snapshot.partitionBindings with
  | none => .ok none
  | some relevant =>
    if relevant = [] then .ok none
    else
      match selector.condition with
      | none => .ok (some (relevant.map Prod.snd))
      | some condition =>
        if includes (canonicalSet (relevant.flatMap Prod.fst)) condition.fragments = true then
          .ok (some (relevant.map Prod.snd))
        else .ok none

/-- The body of the loop over the relations. -/
def relationClosures (snapshot : Snapshot) (selectors : List (Bytes × ClosureSelector))
    (relation : Bytes) : Result (Option (List Bytes)) :=
  if selectorsOf selectors relation = [] then .ok none
  else collectSome (selectorClosures snapshot relation) (selectorsOf selectors relation)

/-- `applicable_closures`; nothing stands for the pair of `false` and no closures. -/
def applicableClosures (query : LogicalQueryIr) (snapshot : Snapshot) (requirements : List Bytes)
    (root : Bytes) : Result (Option (List Bytes)) := do
  let selectors ← closureSelectors query root
  let applied ← collectSome (relationClosures snapshot selectors) requirements
  .ok (applied.map canonicalSet)

/-! ## Anti-joins -/

/-- The right input of an anti-join is complete. -/
def relationCovered (snapshot : Snapshot) (relation : Bytes) : Bool :=
  let total := snapshot.coverage.countP fun coverage => coverage.relationDescriptorId == relation
  let covered := snapshot.coverage.countP fun coverage =>
    coverage.relationDescriptorId == relation && coverage.unit.state == ascii "covered"
  decide (0 < covered) && covered == total &&
    snapshot.unresolved.all fun unresolved => unresolved.sourceRelation != relation

/-- The loop over the anti-joins: those that are ready with their closures, and the items for the
    others. -/
def readyAntiJoins (query : LogicalQueryIr) (snapshot : Snapshot) (plan : List PlannedNode) :
    List IrNode → Result (List Bytes × List Bytes × List QueryUnresolved)
  | [] => .ok ([], [], [])
  | node :: rest =>
    if node.operatorId ≠ "query.anti_join.v1" then readyAntiJoins query snapshot plan rest
    else do
      let right := node.inputs.tail.headD []
      let requirements ← subtreeRequirements query right
      let complete := !requirements.isEmpty && requirements.all (relationCovered snapshot)
      let closures ← applicableClosures query snapshot requirements right
      let (ready, applied, missing) ← readyAntiJoins query snapshot plan rest
      let subject := stableId plan node.id
      match closures with
      | some closures =>
        if complete = true then .ok (subject :: ready, closures ++ applied, missing)
        else
          .ok (ready, applied,
            { code := "sdk.query-closure-missing", subject := subject,
              detail := "right coverage incomplete" } :: missing)
      | none =>
        .ok (ready, applied,
          { code := "sdk.query-closure-missing", subject := subject,
            detail :=
              if complete = true then "right closure unavailable"
              else "right coverage incomplete" } :: missing)

end Cxxlens.Sdk.Query
