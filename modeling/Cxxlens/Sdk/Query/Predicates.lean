import Cxxlens.Foundation.Collections
import Cxxlens.Sdk.Json.Canonical
import Cxxlens.Sdk.Query.Arguments
import Cxxlens.Sdk.Query.Rows

set_option autoImplicit false

/-! # Predicates

A predicate as it is printed into the arguments of a node (`query.cpp`) and as it is evaluated on a
row (`query_execution.cpp`). -/

namespace Cxxlens.Sdk.Query

open Json Sorting Collections

/-! ## Printing -/

/-- The name of an availability in `column_json`. -/
def ColumnAvailability.name : ColumnAvailability → Bytes
  | .require => "require"
  | .absentIfSchemaMissing => "absent_if_schema_missing"

/-- `column_json` -/
def columnJson (column : IrColumnRef) : Bytes :=
  ascii "\x7b\"availability\":" ++ canonicalJsonString column.availability.name ++
    ascii ",\"column_id\":" ++ canonicalJsonString column.columnId ++
    ascii ",\"source_alias\":" ++ canonicalJsonString column.sourceAlias ++ ascii "\x7d"

/-- `scalar_json` -/
def scalarJson : ScalarValue → Bytes
  | .boolean value => if value = true then "true" else "false"
  | .signedInteger value => signedText value
  | .unsignedInteger value => CanonicalValue.decimal value.toNat
  | .string value => canonicalJsonString value
  | .bytes value => ascii "\"" ++ hex value ++ ascii "\""

/-- The branch of `predicate_json` for a column and a state. -/
def stateJson (kind : Bytes) (column : IrColumnRef) : Bytes :=
  ascii "\x7b\"column\":" ++ columnJson column ++ ascii ",\"kind\":" ++ canonicalJsonString kind ++
    ascii "\x7d"

section Hash

variable (hash : Bytes → Bytes)

/-- `plain_digest` -/
def plainDigest (value : Bytes) : Bytes :=
  contentDigest hash value

/-- The order of operands: by their digests, texts of one digest by themselves. -/
def operandLess (left right : Bytes) : Bool :=
  if plainDigest hash left ≠ plainDigest hash right then
    decide (plainDigest hash left < plainDigest hash right)
  else decide (left < right)

/-- The operands as they are printed: sorted, and each once. -/
def canonicalOperands (operands : List Bytes) : List Bytes :=
  sortUnique (operandLess hash) (fun left right => left == right) operands

/-- The branches of `predicate_json` for `and` and `or`. -/
def booleanJson (kind : Bytes) (operands : List Bytes) : Bytes :=
  ascii "\x7b\"kind\":" ++ canonicalJsonString kind ++ ascii ",\"operands\":[" ++
    List.intercalate [0x2c] (canonicalOperands hash operands) ++ ascii "]\x7d"

mutual

/-- `predicate_json` -/
def predicateJson : DecodedPredicate → Bytes
  | .equalsPresent column literalValue =>
    ascii "\x7b\"column\":" ++ columnJson column ++
      ascii ",\"kind\":\"equals_present\",\"literal\":\x7b\"type\":" ++
      canonicalJsonString literalValue.type ++ ascii ",\"value\":" ++
      scalarJson literalValue.value ++ ascii "\x7d\x7d"
  | .columnEqualsPresent left right =>
    ascii "\x7b\"kind\":\"column_equals_present\",\"left\":" ++ columnJson left ++
      ascii ",\"right\":" ++ columnJson right ++ ascii "\x7d"
  | .isPresent column => stateJson "is_present" column
  | .isAbsent column => stateJson "is_absent" column
  | .isUnknown column => stateJson "is_unknown" column
  | .all operands => booleanJson hash "and" (operandTexts operands)
  | .any operands => booleanJson hash "or" (operandTexts operands)

/-- The loop over the operands. -/
def operandTexts : List DecodedPredicate → List Bytes
  | [] => []
  | operand :: rest => predicateJson operand :: operandTexts rest

end

theorem operandTexts_eq (operands : List DecodedPredicate) :
    operandTexts hash operands = operands.map (predicateJson hash) := by
  induction operands with
  | nil => rfl
  | cons operand rest ih => rw [operandTexts, ih, List.map_cons]

/-- The arguments of a node that takes a predicate. -/
def predicateArgumentsText (text : Bytes) : Bytes :=
  ascii "\x7b\"predicate\":" ++ text ++ ascii "\x7d"

end Hash

/-! ## Binding -/

/-- `bind` of `bind_predicate_occurrences` -/
def bindReference (columns : List ColumnRef) (reference : IrColumnRef) : Result IrColumnRef :=
  let matching := columns.filter fun column => decide (column.columnId = reference.columnId ∧
    (reference.sourceAlias = [] ∨ column.sourceAlias = reference.sourceAlias))
  match matching with
  | [] => .error (queryError "sdk.query-column-mismatch" reference.columnId)
  | [column] => .ok { reference with sourceAlias := column.sourceAlias }
  | _ => .error (queryError "sdk.query-column-ambiguous" reference.columnId)

mutual

/-- `bind_predicate_occurrences` -/
def bindPredicate (columns : List ColumnRef) : DecodedPredicate → Result DecodedPredicate
  | .equalsPresent column literalValue => do
    let column ← bindReference columns column
    .ok (.equalsPresent column literalValue)
  | .columnEqualsPresent left right => do
    let left ← bindReference columns left
    let right ← bindReference columns right
    .ok (.columnEqualsPresent left right)
  | .isPresent column => do
    let column ← bindReference columns column
    .ok (.isPresent column)
  | .isAbsent column => do
    let column ← bindReference columns column
    .ok (.isAbsent column)
  | .isUnknown column => do
    let column ← bindReference columns column
    .ok (.isUnknown column)
  | .all operands => do
    let operands ← bindPredicates columns operands
    .ok (.all operands)
  | .any operands => do
    let operands ← bindPredicates columns operands
    .ok (.any operands)

/-- The loop over the operands. -/
def bindPredicates (columns : List ColumnRef) :
    List DecodedPredicate → Result (List DecodedPredicate)
  | [] => .ok []
  | operand :: rest => do
    let operand ← bindPredicate columns operand
    let rest ← bindPredicates columns rest
    .ok (operand :: rest)

end

/-- `expression` -/
structure Expression where
  canonical : Bytes
  referencedColumns : List ColumnRef
  deriving DecidableEq, Repr

/-- The predicate that `bound_predicate_json` prints. -/
def boundPredicate (predicate : Expression) (columns : List ColumnRef) (operatorId : Bytes) :
    Result DecodedPredicate := do
  let arguments ← decodeArguments operatorId (predicateArgumentsText predicate.canonical)
  match arguments with
  | .predicate decoded => bindPredicate columns decoded
  -- `std::get` on another alternative; the operator takes a predicate
  | _ => .error (queryError "std.bad-variant-access" operatorId)

/-- `bound_predicate_json` -/
def boundPredicateJson (hash : Bytes → Bytes) (predicate : Expression) (columns : List ColumnRef)
    (operatorId : Bytes) : Result Bytes := do
  let bound ← boundPredicate predicate columns operatorId
  .ok (predicateJson hash bound)

/-! ## Evaluation -/

/-- The scalar kinds by name, for `literal_cell`. -/
def literalScalars : List (Bytes × ScalarKind) :=
  [("closed_symbol", .closedSymbol), ("condition_ref", .conditionRef), ("digest", .digest),
    ("evidence_id", .evidenceId), ("relation_name", .relationName),
    ("semantic_key_id", .semanticKeyId), ("assertion_id", .assertionId),
    ("content_digest", .contentDigest), ("interpretation_domain_id", .interpretationDomainId),
    ("open_symbol", .openSymbol), ("semantic_version", .semanticVersion), ("set", .set),
    ("source_span_id", .sourceSpanId), ("typed_id", .typedId), ("utf8_string", .utf8String)]

/-- The type that `literal_cell` reads from the text of a type. -/
def literalType (type : Bytes) : ValueType :=
  if type = "bool" then { scalar := .boolean }
  else if type = "int64" then { scalar := .signedInteger }
  else if type = "uint64" then { scalar := .unsignedInteger }
  else if type = "bytes" then { scalar := .bytes }
  else
    let base := type.takeWhile fun byte => byte != 0x3c
    -- `base.find('<')` found one, and the text ends with the other bracket
    if base.length < type.length ∧ type.getLast? = some 0x3e then
      { scalar := (literalScalars.lookup base).getD .utf8String,
        parameter := (type.drop (base.length + 1)).take (type.length - base.length - 2) }
    else { scalar := (literalScalars.lookup type).getD .utf8String }

/-- `literal_cell` -/
def literalCell (literal : IrLiteral) : DetachedCell where
  type := literalType literal.type
  state := .present
  value := some literal.value

mutual

/-- `evaluate_predicate` -/
def evaluatePredicate (row : AnnotatedRow) (columnTypes : ColumnTypes) : DecodedPredicate → Bool
  | .all operands => allOperands row columnTypes operands
  | .any operands => anyOperand row columnTypes operands
  | .equalsPresent column literalValue =>
    presentEqual (cellFor row column columnTypes) (literalCell literalValue)
  | .columnEqualsPresent left right =>
    presentEqual (cellFor row left columnTypes) (cellFor row right columnTypes)
  | .isPresent column => decide ((cellFor row column columnTypes).state = .present)
  | .isAbsent column => decide ((cellFor row column columnTypes).state = .absent)
  | .isUnknown column => decide ((cellFor row column columnTypes).state = .unknown)

/-- `std::ranges::all_of` -/
def allOperands (row : AnnotatedRow) (columnTypes : ColumnTypes) : List DecodedPredicate → Bool
  | [] => true
  | operand :: rest =>
    evaluatePredicate row columnTypes operand && allOperands row columnTypes rest

/-- `std::ranges::any_of` -/
def anyOperand (row : AnnotatedRow) (columnTypes : ColumnTypes) : List DecodedPredicate → Bool
  | [] => false
  | operand :: rest =>
    evaluatePredicate row columnTypes operand || anyOperand row columnTypes rest

end

theorem allOperands_eq (row : AnnotatedRow) (columnTypes : ColumnTypes)
    (operands : List DecodedPredicate) :
    allOperands row columnTypes operands = operands.all (evaluatePredicate row columnTypes) := by
  induction operands with
  | nil => rfl
  | cons operand rest ih => rw [allOperands, ih, List.all_cons]

theorem anyOperand_eq (row : AnnotatedRow) (columnTypes : ColumnTypes)
    (operands : List DecodedPredicate) :
    anyOperand row columnTypes operands = operands.any (evaluatePredicate row columnTypes) := by
  induction operands with
  | nil => rfl
  | cons operand rest ih => rw [anyOperand, ih, List.any_cons]

end Cxxlens.Sdk.Query
