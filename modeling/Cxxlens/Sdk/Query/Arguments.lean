import Cxxlens.Foundation.Collections
import Cxxlens.Sdk.Json.Parser
import Cxxlens.Sdk.Query.Model

set_option autoImplicit false

/-! # Arguments of the operators

The typed arguments of a node, decoded from its JSON with exact keys and without coercions
(`query_ir_decoder.cpp`). -/

namespace Cxxlens.Sdk.Query

open Json Sorting Collections

/-- `decode_error` -/
def decodeError (field detail : Bytes) : Error :=
  { code := "sdk.query-argument-invalid", field := field, detail := detail }

/-! ## Reading a value -/

/-- `as_object` -/
def asObject (field : Bytes) : JsonValue → Result Members
  | .object members => .ok members
  | _ => .error (decodeError field "object-required")

/-- `as_array` -/
def asArray (field : Bytes) : JsonValue → Result (List JsonValue)
  | .array items => .ok items
  | _ => .error (decodeError field "array-required")

/-- `as_string` -/
def asString (field : Bytes) : JsonValue → Result Bytes
  | .string value => .ok value
  | _ => .error (decodeError field "string-required")

/-- `as_unsigned` -/
def asUnsigned (field : Bytes) : JsonValue → Result UInt64
  | .unsignedInteger value => .ok value
  | _ => .error (decodeError field "unsigned-required")

/-- `required` -/
def required (object : Members) (name : Bytes) : Result JsonValue :=
  match object.lookup name with
  | none => .error (decodeError name "missing")
  | some value => .ok value

/-- The members have the names `keys`, and no others. -/
def hasKeys (object : Members) (keys : List Bytes) : Bool :=
  keys.all (containsName object) && object.all fun member => keys.contains member.1

/-- `exact_keys` -/
def exactKeys (object : Members) (keys : List Bytes) (field : Bytes) : Result Unit :=
  if hasKeys object keys = false then .error (decodeError field "key-set") else .ok ()

/-- The value of a step, under another error where it fails. -/
def orElse {α : Type} (failure : Error) : Result α → Result α
  | .ok value => .ok value
  | .error _ => .error failure

/-! ## Columns and literals -/

/-- The last check of `column`. -/
def columnAvailability (availability : Bytes) : Result ColumnAvailability :=
  if availability = "require" then .ok .require
  else if availability = "absent_if_schema_missing" then .ok .absentIfSchemaMissing
  else .error (decodeError "availability" availability)

/-- `column` -/
def column (value : JsonValue) : Result IrColumnRef := do
  let object ← orElse (decodeError "column" "shape") (asObject "column" value)
  orElse (decodeError "column" "shape")
    (exactKeys object ["availability", "column_id", "source_alias"] "column")
  let missing := decodeError "column" "missing"
  let identifierValue ← orElse missing (required object "column_id")
  let availabilityValue ← orElse missing (required object "availability")
  let aliasValue ← orElse missing (required object "source_alias")
  let failure := decodeError "column" "value"
  let identifier ← orElse failure (asString "column_id" identifierValue)
  let availability ← orElse failure (asString "availability" availabilityValue)
  let sourceAlias ← orElse failure (asString "source_alias" aliasValue)
  if identifier = [] then .error failure
  else do
    let availability ← columnAvailability availability
    .ok { columnId := identifier, availability := availability, sourceAlias := sourceAlias }

/-- `nibble` -/
def nibble (byte : UInt8) : Option UInt8 :=
  if 0x30 ≤ byte ∧ byte ≤ 0x39 then some (byte - 0x30)
  else if 0x61 ≤ byte ∧ byte ≤ 0x66 then some (byte - 0x61 + 10)
  else none

/-- The loop of `hex_bytes`. -/
def hexPairs : Bytes → Result Bytes
  | high :: low :: rest =>
    match nibble high, nibble low with
    | some high, some low => do
      let output ← hexPairs rest
      .ok ((high <<< 4 ||| low) :: output)
    | _, _ => .error (decodeError "literal.value" "hex")
  | _ => .ok []

/-- `hex_bytes` -/
def hexBytes (value : Bytes) : Result Bytes :=
  if value.length % 2 ≠ 0 then .error (decodeError "literal.value" "odd-hex") else hexPairs value

/-- The types whose literals are written as bytes. -/
def byteBacked (type : Bytes) : Bool :=
  type == ascii "bytes" || type == ascii "set" ||
    ((ascii "set<").isPrefixOf type && type.getLast? == some 0x3e)

/-- The value of a literal of a type. -/
def literalValue (type : Bytes) (scalar : JsonValue) : Result ScalarValue :=
  if type = "bool" then
    match scalar with
    | .boolean value => .ok (.boolean value)
    | _ => .error (decodeError "literal.value" "bool")
  else if type = "int64" then
    match scalar with
    | .signedInteger value => .ok (.signedInteger value)
    | .unsignedInteger value =>
      if value.toNat ≤ 0x7fffffffffffffff then .ok (.signedInteger value.toInt64)
      else .error (decodeError "literal.value" "int64")
    | _ => .error (decodeError "literal.value" "int64")
  else if type = "uint64" then
    match scalar with
    | .unsignedInteger value => .ok (.unsignedInteger value)
    | _ => .error (decodeError "literal.value" "uint64")
  else do
    let text ← asString "literal.value" scalar
    if byteBacked type = true then do
      let bytes ← hexBytes text
      .ok (.bytes bytes)
    else .ok (.string text)

/-- `typed_literal` -/
def typedLiteral (value : JsonValue) : Result IrLiteral := do
  let object ← orElse (decodeError "literal" "shape") (asObject "literal" value)
  orElse (decodeError "literal" "shape") (exactKeys object ["type", "value"] "literal")
  let typeValue ← orElse (decodeError "literal" "missing") (required object "type")
  let scalar ← orElse (decodeError "literal" "missing") (required object "value")
  let failure := decodeError "literal.type" "present-type-required"
  let type ← orElse failure (asString "literal.type" typeValue)
  if type = [] ∨ (ascii "optional<").isPrefixOf type = true then .error failure
  else do
    let decoded ← literalValue type scalar
    .ok { type := type, value := decoded }

/-! ## Predicates -/

/-- The branch `equals_present`. -/
def equalsPredicate (object : Members) : Result DecodedPredicate := do
  orElse (decodeError "predicate" "equals-shape")
    (exactKeys object ["column", "kind", "literal"] "predicate")
  let columnValue ← orElse (decodeError "predicate" "equals-missing") (required object "column")
  let literalValue ← orElse (decodeError "predicate" "equals-missing") (required object "literal")
  let failure := decodeError "predicate" "equals-value"
  let decodedColumn ← orElse failure (column columnValue)
  let decodedLiteral ← orElse failure (typedLiteral literalValue)
  .ok (.equalsPresent decodedColumn decodedLiteral)

/-- The branch `column_equals_present`. -/
def columnEqualsPredicate (object : Members) : Result DecodedPredicate := do
  orElse (decodeError "predicate" "column-equals-shape")
    (exactKeys object ["kind", "left", "right"] "predicate")
  let leftValue ← orElse (decodeError "predicate" "column-equals-missing") (required object "left")
  let rightValue ←
    orElse (decodeError "predicate" "column-equals-missing") (required object "right")
  let failure := decodeError "predicate" "column-equals-value"
  let left ← orElse failure (column leftValue)
  let right ← orElse failure (column rightValue)
  .ok (.columnEqualsPresent left right)

/-- The error for an array of fewer than two operands, or none. -/
def minimumTwo : Error :=
  decodeError "predicate.operands" "minimum-two"

/-- The branches `and` and `or`; `children` is the loop over the operands. -/
def booleanPredicate (conjunction : Bool) (object : Members)
    (children : Result (List DecodedPredicate)) : Result DecodedPredicate := do
  orElse (decodeError "predicate" "boolean-shape")
    (exactKeys object ["kind", "operands"] "predicate")
  let operandsValue ← required object "operands"
  let operands ← orElse minimumTwo (asArray "predicate.operands" operandsValue)
  if operands.length < 2 then .error minimumTwo
  else do
    let operands ← children
    if conjunction = true then .ok (.all operands) else .ok (.any operands)

/-- The branches of one column and a state. -/
def statePredicate (kind : Bytes) (object : Members) : Result DecodedPredicate := do
  orElse (decodeError "predicate" "state-shape") (exactKeys object ["column", "kind"] "predicate")
  let columnValue ← required object "column"
  let decodedColumn ← column columnValue
  if kind = "is_present" then .ok (.isPresent decodedColumn)
  else if kind = "is_absent" then .ok (.isAbsent decodedColumn)
  else if kind = "is_unknown" then .ok (.isUnknown decodedColumn)
  else .error (decodeError "predicate.kind" kind)

/-- The branches of `predicate` over the kinds. -/
def predicateOfKind (kind : Bytes) (object : Members)
    (children : Result (List DecodedPredicate)) : Result DecodedPredicate :=
  if kind = "equals_present" then equalsPredicate object
  else if kind = "column_equals_present" then columnEqualsPredicate object
  else if kind = "and" ∨ kind = "or" then
    booleanPredicate (decide (kind = "and")) object children
  else statePredicate kind object

mutual

/-- `predicate` -/
def predicate : JsonValue → Result DecodedPredicate
  | .object object => do
    let kindValue ← required object "kind"
    let kind ← asString "predicate.kind" kindValue
    predicateOfKind kind object (operandPredicates object)
  | _ => .error (decodeError "predicate" "object-required")

/-- The loop over the elements of the member `operands`. -/
def operandPredicates : List (Bytes × JsonValue) → Result (List DecodedPredicate)
  | [] => .ok []
  | (name, .array items) :: rest =>
    if name = "operands" then predicates items else operandPredicates rest
  | _ :: rest => operandPredicates rest

/-- `predicate` of each element. -/
def predicates : List JsonValue → Result (List DecodedPredicate)
  | [] => .ok []
  | item :: rest => do
    let child ← predicate item
    let children ← predicates rest
    .ok (child :: children)

end

/-! ## Arguments -/

/-- `maximum_arguments_bytes` -/
def maximumArgumentsBytes : SizeT := 4194304

/-- The limits of `parse_object`. -/
def argumentsLimits : JsonLimits where
  maxInputBytes := maximumArgumentsBytes
  maxDepth := 64
  maxArrayElements := maximumArgumentsBytes
  maxObjectMembers := maximumArgumentsBytes
  maxStringBytes := maximumArgumentsBytes
  maxTotalStringBytes := maximumArgumentsBytes
  maxTotalValues := maximumArgumentsBytes

/-- The contract of `parse_object`. -/
def argumentsContract : JsonParseContract where
  errorCode := "sdk.query-argument-invalid"
  errorField := "arguments"
  includeByteOffset := false
  requireTopLevelObject := false
  rejectUtf8Bom := true
  numbers := .integerTokens
  depth := .allValues

/-- `parse_object` -/
def parseObject (arguments : Bytes) : Result Members := do
  let parsed ← parseJsonValue arguments argumentsLimits argumentsContract
  asObject "arguments" parsed

def scanArguments (object : Members) : Result OperatorArguments := do
  orElse (decodeError "scan" "shape") (exactKeys object ["alias", "descriptor_id"] "scan")
  let descriptorValue ← orElse (decodeError "scan" "missing") (required object "descriptor_id")
  let aliasValue ← orElse (decodeError "scan" "missing") (required object "alias")
  let failure := decodeError "scan" "value"
  let descriptor ← orElse failure (asString "descriptor_id" descriptorValue)
  let sourceAlias ← orElse failure (asString "alias" aliasValue)
  if descriptor = [] ∨ sourceAlias = [] then .error failure else .ok (.scan descriptor sourceAlias)

def predicateArguments (object : Members) : Result OperatorArguments := do
  orElse (decodeError "predicate" "shape")
    (exactKeys object ["predicate"] "predicate-arguments")
  let value ← required object "predicate"
  let decoded ← predicate value
  .ok (.predicate decoded)

/-- One element of `project.columns`, behind the outputs that came before it. -/
def projectionItem (outputs : List Bytes) (value : JsonValue) : Result ProjectionItem := do
  let item ← orElse (decodeError "projection" "shape") (asObject "projection" value)
  orElse (decodeError "projection" "shape")
    (exactKeys item ["column", "output"] "projection")
  let columnValue ← orElse (decodeError "projection" "missing") (required item "column")
  let outputValue ← orElse (decodeError "projection" "missing") (required item "output")
  let failure := decodeError "projection" "value"
  let decodedColumn ← orElse failure (column columnValue)
  let outputName ← orElse failure (asString "projection.output" outputValue)
  if outputName = [] ∨ outputs.contains outputName = true then .error failure
  else .ok { column := decodedColumn, output := outputName }

/-- The loop over `project.columns`. -/
def projectionItems (outputs : List Bytes) : List JsonValue → Result (List ProjectionItem)
  | [] => .ok []
  | value :: rest => do
    let item ← projectionItem outputs value
    let items ← projectionItems (item.output :: outputs) rest
    .ok (item :: items)

def projectArguments (object : Members) : Result OperatorArguments := do
  orElse (decodeError "project" "shape") (exactKeys object ["columns"] "project")
  let value ← required object "columns"
  let failure := decodeError "project.columns" "empty"
  let columns ← orElse failure (asArray "project.columns" value)
  if columns = [] then .error failure
  else do
    let items ← projectionItems [] columns
    .ok (.project items)

def emptyArguments (object : Members) : Result OperatorArguments :=
  if object.isEmpty = false then .error (decodeError "arguments" "empty-required") else .ok .empty

/-- The states of an order key. -/
def cellStates : List JsonValue → Result (List CellState)
  | [] => .ok []
  | value :: rest => do
    let state ← asString "order.cell-state" value
    let decoded ←
      if state = "present" then .ok .present
      else if state = "absent" then .ok .absent
      else if state = "unknown" then .ok .unknown
      else .error (decodeError "order.cell-state" state)
    let states ← cellStates rest
    .ok (decoded :: states)

/-- One element of `order.keys`. -/
def orderKey (value : JsonValue) : Result OrderKey := do
  let key ← orElse (decodeError "order.key" "shape") (asObject "order.key" value)
  orElse (decodeError "order.key" "shape")
    (exactKeys key ["cell_state_order", "column", "direction"] "order.key")
  let missing := decodeError "order.key" "missing"
  let columnValue ← orElse missing (required key "column")
  let directionValue ← orElse missing (required key "direction")
  let statesValue ← orElse missing (required key "cell_state_order")
  let failure := decodeError "order.key" "value"
  let decodedColumn ← orElse failure (column columnValue)
  let direction ← orElse failure (asString "order.direction" directionValue)
  let states ← orElse failure (asArray "order.cell_state_order" statesValue)
  if (direction ≠ "ascending" ∧ direction ≠ "descending") ∨ states.length ≠ 3 then .error failure
  else do
    let decodedStates ← cellStates states
    if decodedStates.Nodup then
      .ok { column := decodedColumn, ascending := decide (direction = "ascending"),
            cellStateOrder := decodedStates }
    else .error (decodeError "order.cell-state" "duplicate")

/-- The loop over `order.keys`. -/
def orderKeys : List JsonValue → Result (List OrderKey)
  | [] => .ok []
  | value :: rest => do
    let key ← orderKey value
    let keys ← orderKeys rest
    .ok (key :: keys)

def orderArguments (object : Members) : Result OperatorArguments := do
  orElse (decodeError "order" "shape") (exactKeys object ["keys"] "order")
  let value ← required object "keys"
  let failure := decodeError "order.keys" "empty"
  let keys ← orElse failure (asArray "order.keys" value)
  if keys = [] then .error failure
  else do
    let keys ← orderKeys keys
    .ok (.order keys)

def limitArguments (object : Members) : Result OperatorArguments := do
  orElse (decodeError "limit" "shape") (exactKeys object ["count"] "limit")
  let value ← required object "count"
  let count ← asUnsigned "limit.count" value
  .ok (.limit count)

/-- The loop over `condition.alternatives`. -/
def conditionAlternatives : List JsonValue → Result (List Bytes)
  | [] => .ok []
  | value :: rest => do
    let failure := decodeError "condition.alternative" "value"
    let alternative ← orElse failure (asString "condition.alternative" value)
    if alternative = [] then .error failure
    else do
      let alternatives ← conditionAlternatives rest
      .ok (alternative :: alternatives)

def conditionArguments (object : Members) : Result OperatorArguments := do
  orElse (decodeError "condition" "shape")
    (exactKeys object ["alternatives", "universe"] "condition")
  let universeValue ← orElse (decodeError "condition" "missing") (required object "universe")
  let alternativesValue ←
    orElse (decodeError "condition" "missing") (required object "alternatives")
  let failure := decodeError "condition" "value"
  let conditionUniverse ← orElse failure (asString "condition.universe" universeValue)
  let alternatives ← orElse failure (asArray "condition.alternatives" alternativesValue)
  if conditionUniverse = [] ∨ alternatives = [] then .error failure
  else do
    let decoded ← conditionAlternatives alternatives
    .ok (.condition conditionUniverse (sortUnique bytesLess (fun a b => a == b) decoded))

def interpretationArguments (object : Members) : Result OperatorArguments := do
  orElse (decodeError "interpretation" "shape")
    (exactKeys object ["interpretation"] "interpretation")
  let value ← required object "interpretation"
  let failure := decodeError "interpretation" "value"
  let interpretation ← orElse failure (asString "interpretation" value)
  if interpretation = [] then .error failure else .ok (.interpretation interpretation)

/-- The operators that take a predicate. -/
def takesPredicate (operatorId : Bytes) : Bool :=
  operatorId == ascii "query.filter.v1" || operatorId == ascii "query.inner_join.v1" ||
    operatorId == ascii "query.semi_join.v1" || operatorId == ascii "query.anti_join.v1"

/-- `decode_arguments`, which reads the operator and the arguments of a node. -/
def decodeArguments (operatorId arguments : Bytes) : Result OperatorArguments := do
  let object ← parseObject arguments
  if operatorId = "query.scan.v1" then scanArguments object
  else if takesPredicate operatorId = true then predicateArguments object
  else if operatorId = "query.project.v1" then projectArguments object
  else if operatorId = "query.union.v1" ∨ operatorId = "query.distinct.v1" then
    emptyArguments object
  else if operatorId = "query.order_by.v1" then orderArguments object
  else if operatorId = "query.limit.v1" then limitArguments object
  else if operatorId = "query.condition_restrict.v1" then conditionArguments object
  else if operatorId = "query.interpretation_restrict.v1" then interpretationArguments object
  else .error (decodeError "operator" operatorId)

end Cxxlens.Sdk.Query
