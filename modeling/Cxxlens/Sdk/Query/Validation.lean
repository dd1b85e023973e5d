import Cxxlens.Sdk.Query.LogicalIr

set_option autoImplicit false

/-! # Validation of a query

`logical_query_ir::validate` (`query.cpp`). The first loop over the nodes is about their identifiers
and arguments, the second one gives every node the columns and the order of its rows. -/

namespace Cxxlens.Sdk.Query

open Collections

/-! ## Structure -/

/-- `arities` -/
def arities : List (Bytes × Nat) :=
  [("query.scan.v1", 0), ("query.filter.v1", 1), ("query.project.v1", 1),
    ("query.inner_join.v1", 2), ("query.semi_join.v1", 2), ("query.anti_join.v1", 2),
    ("query.union.v1", 2), ("query.distinct.v1", 1), ("query.order_by.v1", 1),
    ("query.limit.v1", 1), ("query.condition_restrict.v1", 1),
    ("query.interpretation_restrict.v1", 1)]

/-- The checks of a node that both loops make; `seen` has the nodes before it. -/
def validateNode (seen : List Bytes) (node : IrNode) : Result OperatorArguments := do
  firstError (fun input => reject (!seen.contains input)
    (queryError "sdk.query-nontopological-node" node.id input)) node.inputs
  reject (node.id.isEmpty || arities.lookup node.operatorId != some node.inputs.length ||
    seen.contains node.id) (queryError "sdk.query-node-invalid" node.id)
  decodeArguments node.operatorId node.arguments

/-- The alias of a scan. -/
def scanAlias? : OperatorArguments → List Bytes
  | .scan _ scanAlias => [scanAlias]
  | _ => []

/-- The first loop: the aliases of the scans. -/
def structuralScanAliases (version : SemanticVersion) (seen : List Bytes) :
    List IrNode → Result (List Bytes)
  | [] => .ok []
  | node :: rest => do
    reject (node.operatorId == ascii "query.anti_join.v1" && decide (version.minor < 1))
      (queryError "sdk.query-operator-version" node.operatorId version.string)
    let arguments ← validateNode seen node
    let aliases ← structuralScanAliases version (seen ++ [node.id]) rest
    .ok (scanAlias? arguments ++ aliases)

/-- The loop over the pending nodes; the last of them is the next one. Every node adds its inputs
    once, so that the fuel of `reachableNodes` is not used up. -/
def reach (nodes : List IrNode) : Nat → List Bytes → List Bytes → List Bytes
  | 0, reachable, _ => reachable
  | fuel + 1, reachable, pending =>
    match pending.getLast? with
    | none => reachable
    | some current =>
      if reachable.contains current = true then reach nodes fuel reachable pending.dropLast
      else
        reach nodes fuel (reachable ++ [current])
          (pending.dropLast ++ ((findNode nodes current).map IrNode.inputs).getD [])

/-- The nodes below the root. -/
def reachableNodes (nodes : List IrNode) (root : Bytes) : List Bytes :=
  reach nodes ((nodes.map fun node => node.inputs.length).sum + 2) [] [root]

/-- The root is there, and every node is below it. -/
def validateReachable (nodes : List IrNode) (root : Bytes) : Result Unit := do
  reject (!nodes.any fun node => node.id == root) (queryError "sdk.query-root-missing" root)
  let reachable := reachableNodes nodes root
  match nodes.find? fun node => !reachable.contains node.id with
  | none => .ok ()
  | some unreachable => .error (queryError "sdk.query-unreachable-node" unreachable.id)

/-- The first text that is there twice. -/
def firstDuplicate (seen : List Bytes) : List Bytes → Option Bytes
  | [] => none
  | text :: rest =>
    if seen.contains text = true then some text else firstDuplicate (seen ++ [text]) rest

/-- No text twice. -/
def rejectDuplicate (code : Bytes) (texts : List Bytes) : Result Unit :=
  match firstDuplicate [] texts with
  | none => .ok ()
  | some text => .error (queryError code text)

/-! ## Predicates -/

/-- The keys that end in the identifier of a column. -/
def occurrences (columns : ColumnTypes) (columnId : Bytes) : List Bytes :=
  (columns.entries.map Prod.fst).filter fun key => (0x1f :: columnId).isSuffixOf key

/-- `resolve_occurrence` of `query.cpp` -/
def resolveColumn (columns : ColumnTypes) (reference : IrColumnRef) : Option Bytes :=
  if reference.sourceAlias ≠ [] then
    let key := occurrenceColumnId reference.sourceAlias reference.columnId
    if columns.contains key = true then some key else none
  else
    match occurrences columns reference.columnId with
    | [key] => some key
    | _ => none

mutual

/-- `collect_columns`, and `collect_schema_references` of `query_execution.cpp` -/
def collectColumns : DecodedPredicate → List IrColumnRef
  | .equalsPresent column _ => [column]
  | .columnEqualsPresent left right => [left, right]
  | .isPresent column => [column]
  | .isAbsent column => [column]
  | .isUnknown column => [column]
  | .all operands => collectOperands operands
  | .any operands => collectOperands operands

/-- The loop over the operands. -/
def collectOperands : List DecodedPredicate → List IrColumnRef
  | [] => []
  | operand :: rest => collectColumns operand ++ collectOperands rest

end

/-- The scalar kinds by name, for `validate_literal_value`. -/
def validatedScalars : List (Bytes × ScalarKind) :=
  ("bool", .boolean) :: ("bytes", .bytes) :: ("int64", .signedInteger) ::
    ("uint64", .unsignedInteger) :: literalScalars

/-- `validate_literal_value` -/
def validateLiteralValue (literal : IrLiteral) : Result Unit :=
  let base := literal.type.takeWhile fun byte => byte != 0x3c
  let typed := base.length < literal.type.length ∧ literal.type.getLast? = some 0x3e
  let name := if typed then base else literal.type
  let parameter :=
    if typed then (literal.type.drop (base.length + 1)).take (literal.type.length - base.length - 2)
    else []
  match validatedScalars.lookup name with
  | none => .error (queryError "sdk.query-literal-type-mismatch" literal.type)
  | some scalar =>
    DetachedCell.validate
      { type := { scalar := scalar, parameter := parameter }, state := .present,
        value := some literal.value }

/-- `literal_comparison_type` -/
def literalComparisonType (column : ValueType) : Bytes :=
  let canonical := column.canonicalName
  if (ascii "optional<").isPrefixOf canonical = true ∧ canonical.getLast? = some 0x3e then
    (canonical.drop 9).dropLast
  else canonical

/-- `node_shape` -/
structure NodeShape where
  columns : ColumnTypes := OrderedMap.empty
  ordered : Bool := false
  orderKeys : List Bytes := []
  deriving DecidableEq

/-- `insert` of the entries of a map: what is there stays. -/
def insertColumns (columns additions : ColumnTypes) : ColumnTypes :=
  additions.entries.foldl (fun columns entry => columns.emplace entry.1 entry.2) columns

/-- `inputs.front()` -/
def frontShape (inputs : List NodeShape) : NodeShape :=
  inputs.headD {}

/-- `inputs[1]` -/
def secondShape (inputs : List NodeShape) : NodeShape :=
  inputs.tail.headD {}

/-- The columns that a predicate may name. -/
def availableColumns (inputs : List NodeShape) : ColumnTypes :=
  if inputs.length = 2 then insertColumns (frontShape inputs).columns (secondShape inputs).columns
  else (frontShape inputs).columns

/-- The operators that join. -/
def isJoin (operatorId : Bytes) : Bool :=
  operatorId == ascii "query.inner_join.v1" || operatorId == ascii "query.semi_join.v1" ||
    operatorId == ascii "query.anti_join.v1"

/-- The kind `column_equals_present`. -/
def DecodedPredicate.isColumnEquality : DecodedPredicate → Bool
  | .columnEqualsPresent _ _ => true
  | _ => false

/-- The loop over the references of a predicate. -/
def validateReference (available : ColumnTypes) (reference : IrColumnRef) : Result Unit :=
  if reference.sourceAlias = [] then
    .error (queryError "sdk.query-column-occurrence-missing" reference.columnId)
  else
    reject ((resolveColumn available reference).isNone && reference.availability == .require)
      (queryError "sdk.query-column-not-in-input" reference.columnId)

/-- A literal has the type of its column. Operands are not looked at. -/
def validateComparison (available : ColumnTypes) : DecodedPredicate → Result Unit
  | .equalsPresent column literalValue => do
    validateLiteralValue literalValue
    let mismatch := queryError "sdk.query-literal-type-mismatch" column.columnId
    match (resolveColumn available column).bind available.find with
    | none => .error mismatch
    | some type => reject (literalComparisonType type != literalValue.type) mismatch
  | _ => .ok ()

/-- The branch of the nodes that take a predicate. -/
def validatePredicate (node : IrNode) (inputs : List NodeShape) (predicate : DecodedPredicate) :
    Result Unit := do
  reject (isJoin node.operatorId && !predicate.isColumnEquality)
    (queryError "sdk.query-join-present-equality-required" node.id)
  reject (node.operatorId == ascii "query.filter.v1" && predicate.isColumnEquality)
    (queryError "sdk.query-filter-join-predicate" node.id)
  firstError (validateReference (availableColumns inputs)) (collectColumns predicate)
  validateComparison (availableColumns inputs) predicate

/-! ## Shapes -/

/-- The columns of a scan. -/
def scanShape (requirements : List RelationDescriptor) (descriptorId scanAlias : Bytes) :
    Result NodeShape :=
  match requirements.find? fun descriptor => descriptor.id == descriptorId with
  | none => .error (queryError "sdk.query-scan-requirement-missing" descriptorId)
  | some descriptor =>
    .ok { columns := descriptor.columns.foldl (fun columns column =>
            columns.emplace (occurrenceColumnId scanAlias column.id) column.type)
            OrderedMap.empty }

/-- A node that does not keep the order of its first input. -/
def unorderedShape (shape : NodeShape) : NodeShape :=
  { shape with ordered := false, orderKeys := [] }

/-- A filter passes its input on, a join has the columns of both of its inputs or of the first. -/
def predicateShape (operatorId : Bytes) (inputs : List NodeShape) : NodeShape :=
  let front := frontShape inputs
  if operatorId = "query.inner_join.v1" then
    unorderedShape { front with
      columns := insertColumns front.columns (secondShape inputs).columns }
  else if operatorId = "query.semi_join.v1" ∨ operatorId = "query.anti_join.v1" then
    if front.ordered = true then front else unorderedShape front
  else front

/-- The loop over the columns of a projection: the columns by their new names, and the new name of
    each old one. -/
def projectColumns (input projected : ColumnTypes) (mapping : OrderedMap Bytes Bytes) :
    List ProjectionItem → Result (ColumnTypes × OrderedMap Bytes Bytes)
  | [] => .ok (projected, mapping)
  | item :: rest =>
    if item.column.sourceAlias = [] then
      .error (queryError "sdk.query-column-occurrence-missing" item.column.columnId)
    else
      match resolveColumn input item.column with
      | none =>
        if item.column.availability = .require then
          .error (queryError "sdk.query-column-not-in-input" item.column.columnId)
        else .error (queryError "sdk.query-output-schema-mismatch" item.column.columnId)
      | some source =>
        if projected.contains item.output = true then
          .error (queryError "sdk.query-output-schema-mismatch" item.output)
        else
          projectColumns input
            (projected.emplace item.output ((input.find source).getD { scalar := .utf8String }))
            (mapping.emplace source item.output) rest

/-- A projection keeps an order whose keys it keeps. -/
def projectShape (input : NodeShape) (items : List ProjectionItem) : Result NodeShape := do
  let (columns, mapping) ← projectColumns input.columns OrderedMap.empty OrderedMap.empty items
  if input.ordered = true ∧ input.orderKeys.all mapping.contains = true then
    .ok { columns := columns
          ordered := true
          orderKeys := input.orderKeys.map fun key => (mapping.find key).getD [] }
  else .ok { columns := columns }

/-- The loop over the keys of an order. -/
def orderColumns (columns : ColumnTypes) : List OrderKey → Result (List Bytes)
  | [] => .ok []
  | key :: rest =>
    if key.column.sourceAlias = [] then
      .error (queryError "sdk.query-column-occurrence-missing" key.column.columnId)
    else
      match resolveColumn columns key.column with
      | none => .error (queryError "sdk.query-column-not-in-input" key.column.columnId)
      | some source => do
        let sources ← orderColumns columns rest
        .ok (source :: sources)

/-- The body of the second loop: the shape of a node from the shapes of its inputs. -/
def nodeShape (requirements : List RelationDescriptor) (node : IrNode) (inputs : List NodeShape) :
    OperatorArguments → Result NodeShape
  | .scan descriptorId scanAlias => scanShape requirements descriptorId scanAlias
  | .predicate predicate => do
    validatePredicate node inputs predicate
    .ok (predicateShape node.operatorId inputs)
  | .project items => projectShape (frontShape inputs) items
  | .empty =>
    if node.operatorId = "query.union.v1" ∧
        (frontShape inputs).columns ≠ (secondShape inputs).columns then
      .error (queryError "sdk.query-union-schema-mismatch" node.id)
    else .ok (unorderedShape (frontShape inputs))
  | .order keys => do
    let sources ← orderColumns (frontShape inputs).columns keys
    .ok { columns := (frontShape inputs).columns, ordered := true, orderKeys := sources }
  | .limit _ => do
    reject (!(frontShape inputs).ordered) (queryError "sdk.query-limit-unordered" node.id)
    .ok (frontShape inputs)
  | .condition _ _ => .ok (frontShape inputs)
  | .interpretation _ => .ok (frontShape inputs)

/-- The relation of a scan. -/
def scanDescriptor? : OperatorArguments → List Bytes
  | .scan descriptorId _ => [descriptorId]
  | _ => []

/-- `shapes` by the identifiers of the nodes. -/
abbrev NodeShapes := List (Bytes × NodeShape)

/-- `shapes.at(input)` of every input. -/
def inputShapes (shapes : NodeShapes) (node : IrNode) : List NodeShape :=
  node.inputs.map fun input => (shapes.lookup input).getD {}

/-- The second loop: the shapes of the nodes, and the relations that are scanned. -/
def nodeShapes (requirements : List RelationDescriptor) (seen : List Bytes) (shapes : NodeShapes) :
    List IrNode → Result (NodeShapes × List Bytes)
  | [] => .ok (shapes, [])
  | node :: rest => do
    let arguments ← validateNode seen node
    let shape ← nodeShape requirements node (inputShapes shapes node) arguments
    let (shapes, scanned) ←
      nodeShapes requirements (seen ++ [node.id]) (shapes ++ [(node.id, shape)]) rest
    .ok (shapes, scanDescriptor? arguments ++ scanned)

/-! ## The query -/

/-- The loop over the output schema. -/
def validateOutputColumn (requirements : List RelationDescriptor) (column : ColumnRef) :
    Result Unit :=
  if column.sourceAlias = [] then
    .error (queryError "sdk.query-column-occurrence-missing" column.columnId)
  else
    match requirements.find? fun descriptor => descriptor.id == column.descriptorId with
    | none => .error (queryError "sdk.query-output-column-foreign" column.columnId)
    | some descriptor =>
      match descriptor.column column.columnId with
      | .error _ => .error (queryError "sdk.query-output-schema-mismatch" column.columnId)
      | .ok declared =>
        reject (declared.type != column.type)
          (queryError "sdk.query-output-schema-mismatch" column.columnId)

/-- The names that the columns of the root have. -/
def outputNames (ir : LogicalQueryIr) : List Bytes :=
  if hasProjection ir.nodes = true then (outputAliases ir.outputSchema).map outputName
  else ir.outputSchema.map fun column => occurrenceColumnId column.sourceAlias column.columnId

/-- The loop that fills `expected`. -/
def expectedColumns (expected : ColumnTypes) : List (ColumnRef × Bytes) → Result ColumnTypes
  | [] => .ok expected
  | (column, name) :: rest =>
    if expected.contains name = true then
      .error (queryError "sdk.query-output-schema-mismatch" column.columnId)
    else expectedColumns (expected.emplace name column.type) rest

section Hash

variable (hash : Bytes → Bytes)

/-- The requirements are valid, and no two have one identifier. -/
def validateRequirements (seen : List Bytes) : List RelationDescriptor → Result Unit
  | [] => .ok ()
  | descriptor :: rest => do
    descriptor.validate hash
    reject (seen.contains descriptor.id) (queryError "sdk.query-duplicate-relation" descriptor.id)
    validateRequirements (seen ++ [descriptor.id]) rest

/-- `logical_query_ir::validate` -/
def LogicalQueryIr.validate (ir : LogicalQueryIr) : Result Unit := do
  reject (ir.version.major != 1 || decide (1 < ir.version.minor) || ir.version.patch != 0 ||
      ir.relationRequirements.isEmpty || ir.nodes.isEmpty || ir.root.isEmpty ||
      ir.outputSchema.isEmpty) (queryError "sdk.query-ir-invalid" "structure")
  validateRequirements hash [] ir.relationRequirements
  let aliases ← structuralScanAliases ir.version [] ir.nodes
  validateReachable ir.nodes ir.root
  rejectDuplicate "sdk.query-duplicate-scan-alias" aliases
  let (shapes, scanned) ← nodeShapes ir.relationRequirements [] [] ir.nodes
  validateReachable ir.nodes ir.root
  firstError (validateOutputColumn ir.relationRequirements) ir.outputSchema
  let expected ← expectedColumns OrderedMap.empty (ir.outputSchema.zip (outputNames ir))
  let root := (shapes.lookup ir.root).getD {}
  reject (decide (root.columns ≠ expected))
    (queryError "sdk.query-output-schema-mismatch" ir.root)
  firstError (fun descriptor : RelationDescriptor => reject (!scanned.contains descriptor.id)
    (queryError "sdk.query-unused-relation-requirement" descriptor.id)) ir.relationRequirements

end Hash

end Cxxlens.Sdk.Query
