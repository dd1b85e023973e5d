import Cxxlens.Sdk.Query.Contributors

set_option autoImplicit false

/-! # The canonical form of a query

The logical IR (`query.hpp`) and the text that identifies it: a tree of the nodes below the root,
with sorted inputs of unions and sorted operands of predicates (`query.cpp`,
`query_internal.hpp`). -/

namespace Cxxlens.Sdk.Query

open Json Sorting Collections

/-- `logical_query_ir` -/
structure LogicalQueryIr where
  version : SemanticVersion := { major := 1, minor := 1, patch := 0 }
  relationRequirements : List RelationDescriptor
  nodes : List IrNode
  root : Bytes
  outputSchema : List ColumnRef
  deriving DecidableEq

/-- The index of the nodes by their identifiers. -/
def findNode (nodes : List IrNode) (id : Bytes) : Option IrNode :=
  nodes.find? fun node => node.id == id

/-- There is a node that projects. -/
def hasProjection (nodes : List IrNode) : Bool :=
  nodes.any fun node => node.operatorId == ascii "query.project.v1"

/-! ## Output aliases -/

/-- The part of the identifier of a column behind the last dot. -/
def leafName (columnId : Bytes) : Bytes :=
  (columnId.reverse.takeWhile fun byte => byte != 0x2e).reverse

/-- The loop that numbers an alias until it is unused. One more name than there are used ones is
    enough to find one. -/
def numberedAlias (used : List Bytes) (base : Bytes) : Nat → Nat → Bytes → Bytes
  | 0, _, candidate => candidate
  | fuel + 1, suffix, candidate =>
    if used.contains candidate = true then
      numberedAlias used base fuel (suffix + 1) (base ++ 0x5f :: CanonicalValue.decimal suffix)
    else candidate

/-- The body of the loop of `output_aliases`: the alias of a column behind the ones in `used`. -/
def outputAlias (columns : List ColumnRef) (used : List Bytes) (column : ColumnRef) : Bytes :=
  let leaf := leafName column.columnId
  let shared := 1 < columns.countP fun other => leafName other.columnId == leaf
  let named :=
    if shared ∧ column.sourceAlias ≠ [] then column.sourceAlias ++ 0x5f :: leaf else leaf
  let base :=
    if used.contains named = true then
      column.columnId.map fun byte => if byte = 0x2e ∨ byte = 0x2d then 0x5f else byte
    else named
  numberedAlias used base (used.length + 1) 2 base

/-- `output_aliases` -/
def outputAliases (columns : List ColumnRef) : List Bytes :=
  columns.foldl (fun aliases column => aliases ++ [outputAlias columns aliases column]) []

/-- The name of a column in the output. -/
def outputName (name : Bytes) : Bytes :=
  ascii "output." ++ name

/-! ## Arguments -/

/-- The reference that the JSON of a `column_ref` has. -/
def ColumnRef.reference (column : ColumnRef) : IrColumnRef where
  columnId := column.columnId
  sourceAlias := column.sourceAlias

/-- `projections_json`; the aliases are not escaped. -/
def projectionsJson (columns : List ColumnRef) : Bytes :=
  ascii "[" ++ commaSeparated ((columns.zip (outputAliases columns)).map fun item =>
    ascii "\x7b\"column\":" ++ columnJson item.1.reference ++ ascii ",\"output\":\"output." ++
      item.2 ++ ascii "\"\x7d") ++ ascii "]"

/-- `state_name` -/
def stateName : CellState → Bytes
  | .present => "present"
  | .absent => "absent"
  | .unknown => "unknown"
  | .unnamed _ => "unknown"

/-- The JSON of a key of `order_by`. -/
def orderKeyJson (key : OrderKey) : Bytes :=
  ascii "\x7b\"cell_state_order\":" ++ stringsJson (key.cellStateOrder.map stateName) ++
    ascii ",\"column\":" ++ columnJson key.column ++ ascii ",\"direction\":" ++
    canonicalJsonString (if key.ascending = true then "ascending" else "descending") ++ ascii "\x7d"

/-- The JSON of a column of `project`. -/
def projectionItemJson (item : ProjectionItem) : Bytes :=
  ascii "\x7b\"column\":" ++ columnJson item.column ++ ascii ",\"output\":" ++
    canonicalJsonString item.output ++ ascii "\x7d"

section Hash

variable (hash : Bytes → Bytes)

/-- The alternatives of `canonical_arguments`. -/
def canonicalArgumentsJson : OperatorArguments → Bytes
  | .scan descriptorId scanAlias =>
    ascii "\x7b\"alias\":" ++ canonicalJsonString scanAlias ++ ascii ",\"descriptor_id\":" ++
      canonicalJsonString descriptorId ++ ascii "\x7d"
  | .predicate predicate => predicateArgumentsText (predicateJson hash predicate)
  | .project columns =>
    ascii "\x7b\"columns\":[" ++ commaSeparated (columns.map projectionItemJson) ++ ascii "]\x7d"
  | .empty => "\x7b\x7d"
  | .order keys => ascii "\x7b\"keys\":[" ++ commaSeparated (keys.map orderKeyJson) ++ ascii "]\x7d"
  | .limit count => ascii "\x7b\"count\":" ++ CanonicalValue.decimal count.toNat ++ ascii "\x7d"
  | .condition conditionUniverse alternatives =>
    ascii "\x7b\"alternatives\":" ++ stringsJson alternatives ++ ascii ",\"universe\":" ++
      canonicalJsonString conditionUniverse ++ ascii "\x7d"
  | .interpretation interpretation =>
    ascii "\x7b\"interpretation\":" ++ canonicalJsonString interpretation ++ ascii "\x7d"

/-- `canonical_arguments` -/
def canonicalArguments (node : IrNode) : Bytes :=
  match decodeArguments node.operatorId node.arguments with
  | .error _ => "\x7b\x7d"
  | .ok arguments => canonicalArgumentsJson hash arguments

/-! ## Nodes -/

/-- The inputs of a union are sorted like operands. -/
def sortedInputs (operatorId : Bytes) (inputs : List Bytes) : List Bytes :=
  if operatorId = "query.union.v1" then sortBy (operandLess hash) inputs else inputs

/-- The JSON of a node behind the JSON of its inputs. -/
def nodeJson (node : IrNode) (inputs : List Bytes) : Bytes :=
  ascii "\x7b\"arguments\":" ++ canonicalArguments hash node ++ ascii ",\"inputs\":[" ++
    commaSeparated (sortedInputs hash node.operatorId inputs) ++ ascii "],\"operator\":" ++
    canonicalJsonString node.operatorId ++ ascii "\x7d"

/-- `nested_node_json`. The fuel is for the depth: a chain of inputs in topological order is not
    longer than the list of the nodes. -/
def nestedNodeJson (nodes : List IrNode) : Nat → Bytes → Bytes
  | 0, _ => "\x7b\x7d"
  | fuel + 1, id =>
    match findNode nodes id with
    | none => "\x7b\x7d"
    | some node => nodeJson hash node (node.inputs.map (nestedNodeJson nodes fuel))

/-- `canonical_subtree_form` -/
def canonicalSubtreeForm (nodes : List IrNode) (id : Bytes) : Bytes :=
  nestedNodeJson hash nodes nodes.length id

/-- `canonical_subtree_digest` -/
def canonicalSubtreeDigest (nodes : List IrNode) (id : Bytes) : Bytes :=
  plainDigest hash (canonicalSubtreeForm hash nodes id)

/-! ## The query -/

/-- The root, below the projection that a query without one gets. -/
def rootJson (ir : LogicalQueryIr) : Bytes :=
  let root := canonicalSubtreeForm hash ir.nodes ir.root
  if hasProjection ir.nodes = true then root
  else
    ascii "\x7b\"arguments\":\x7b\"columns\":" ++ projectionsJson ir.outputSchema ++
      ascii "\x7d,\"inputs\":[" ++ root ++ ascii "],\"operator\":\"query.project.v1\"\x7d"

/-- A column of the output schema under its alias, which is not escaped. -/
def outputColumnJson (column : ColumnRef) (name : Bytes) : Bytes :=
  ascii "\x7b\"id\":\"output." ++ name ++ ascii "\",\"required\":" ++
    (if column.type.optional = true then ascii "false" else ascii "true") ++ ascii ",\"type\":" ++
    canonicalJsonString column.type.canonicalName ++ ascii "\x7d"

/-- A requirement: any later minor of the relation will do. -/
def requirementJson (descriptor : RelationDescriptor) : Bytes :=
  ascii "\x7b\"descriptor_id\":" ++ canonicalJsonString descriptor.id ++
    ascii ",\"maximum_minor\":\"any-compatible\",\"minimum_minor\":" ++
    CanonicalValue.decimal descriptor.version.minor.toNat ++ ascii "\x7d"

/-- `logical_query_ir::canonical_form` -/
def LogicalQueryIr.canonicalForm (ir : LogicalQueryIr) : Bytes :=
  let descriptors :=
    sortBy (fun left right : RelationDescriptor => bytesLess left.id right.id)
      ir.relationRequirements
  ascii "\x7b\"condition_policy\":\x7b\"empty_intersection\":\"discard\"," ++
    ascii "\"require_same_universe\":true\x7d,\"interpretation_policy\":\x7b" ++
    ascii "\"join_compatibility\":\"exact-id-equality\"\x7d,\"ir_version\":\"" ++ ir.version.string ++
    ascii "\",\"output_schema\":[" ++
    commaSeparated ((ir.outputSchema.zip (outputAliases ir.outputSchema)).map fun item =>
      outputColumnJson item.1 item.2) ++
    ascii "],\"relation_requirements\":[" ++ commaSeparated (descriptors.map requirementJson) ++
    ascii "],\"root\":" ++ rootJson hash ir ++
    ascii ",\"schema\":\"cxxlens.logical-query-ir.v1\"\x7d"

/-- `*semantic_digest(domain, bytes)` -/
def semanticDigestValue (domain bytes : Bytes) : Bytes :=
  (semanticDigest hash domain bytes).toOption.getD []

/-- `logical_query_ir::digest` -/
def LogicalQueryIr.digest (ir : LogicalQueryIr) : Bytes :=
  semanticDigestValue hash "cxxlens.logical-query-ir.v1" (ir.canonicalForm hash)

end Hash

end Cxxlens.Sdk.Query
