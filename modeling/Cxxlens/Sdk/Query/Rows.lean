import Cxxlens.Foundation.OrderedMap
import Cxxlens.Sdk.Claim.Model
import Cxxlens.Sdk.Query.Model

set_option autoImplicit false

/-! # Rows of a query

The rows between the operators (`annotated_row`), and how an operator reads a cell of one
(`query_execution.cpp`). -/

namespace Cxxlens.Sdk.Query

/-- `query_contributor_edge` -/
structure ContributorEdge where
  claimContributor : Bytes
  producer : ClaimProducer
  provenance : Bytes
  guarantee : ClaimGuarantee
  condition : ClaimCondition
  interpretation : Bytes
  deriving DecidableEq, Repr

/-- `annotated_row` -/
structure AnnotatedRow where
  values : OrderedMap Bytes DetachedCell := OrderedMap.empty
  multiplicity : UInt64 := 1
  presence : ClaimCondition
  interpretation : Bytes
  claimContributors : List Bytes := []
  producerContracts : List ClaimProducer := []
  provenance : List Bytes := []
  contributorGuarantees : List ClaimGuarantee := []
  contributorEdges : List ContributorEdge := []
  deriving DecidableEq

/-- The types of the columns of a node. -/
abbrev ColumnTypes := OrderedMap Bytes ValueType

/-- `detail::occurrence_column_id`; the separator is `\x1f`. -/
def occurrenceColumnId (sourceAlias columnId : Bytes) : Bytes :=
  sourceAlias ++ 0x1f :: columnId

/-- The loop over the keys that end in the identifier of a column: the one of them, if it is the
    only one. -/
def uniqueOccurrence (suffix : Bytes) : Option Bytes → List Bytes → Option Bytes
  | found, [] => found
  | found, key :: rest =>
    if suffix.isSuffixOf key = false then uniqueOccurrence suffix found rest
    else
      match found with
      | some _ => none
      | none => uniqueOccurrence suffix (some key) rest

/-- `resolve_occurrence` -/
def resolveOccurrence (columnTypes : ColumnTypes) (reference : IrColumnRef) : Option Bytes :=
  if reference.sourceAlias ≠ [] then
    let key := occurrenceColumnId reference.sourceAlias reference.columnId
    if columnTypes.contains key = true then some key else none
  else if columnTypes.contains reference.columnId = true then some reference.columnId
  else uniqueOccurrence (0x1f :: reference.columnId) none (columnTypes.entries.map Prod.fst)

/-- `detached_cell::absent` -/
def DetachedCell.absent (type : ValueType) : DetachedCell where
  type := { type with optional := true }
  state := .absent

/-- `cell_for` -/
def cellFor (row : AnnotatedRow) (reference : IrColumnRef) (columnTypes : ColumnTypes) :
    DetachedCell :=
  match resolveOccurrence columnTypes reference with
  | none => DetachedCell.absent { scalar := .utf8String, optional := true }
  | some column =>
    match row.values.find column with
    | some cell => cell
    | none =>
      match columnTypes.find column with
      | some type => DetachedCell.absent type
      | none => DetachedCell.absent { scalar := .utf8String, optional := true }

/-- `present_equal` -/
def presentEqual (left right : DetachedCell) : Bool :=
  if left.state ≠ .present ∨ right.state ≠ .present ∨ left.type.scalar ≠ right.type.scalar ∨
      left.type.parameter ≠ right.type.parameter then false
  else
    match left.value, right.value with
    | some left, some right => left == right
    | _, _ => false

end Cxxlens.Sdk.Query
