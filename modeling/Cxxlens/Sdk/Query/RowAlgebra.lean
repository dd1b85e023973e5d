import Cxxlens.Sdk.Query.Validation

set_option autoImplicit false

/-! # Operations on rows

How two rows are joined, told apart, ordered and projected (`query_execution.cpp`). -/

namespace Cxxlens.Sdk.Query

open Sorting

/-- `intersect_condition` -/
def intersectCondition (left right : ClaimCondition) : Result (Option ClaimCondition) := do
  let overlap ← left.overlap right
  if overlap = [] then .ok none
  else .ok (some { «universe» := left.universe, fragments := overlap })

/-- The loop of `combine` over the values of the right row; a column that both have has one cell. -/
def combineValues (left : OrderedMap Bytes DetachedCell) :
    List (Bytes × DetachedCell) → Option (OrderedMap Bytes DetachedCell)
  | [] => some left
  | (column, cell) :: rest =>
    match left.find column with
    | none => combineValues (left.assign column cell) rest
    | some found =>
      if found.canonicalForm ≠ cell.canonicalForm then none
      else combineValues (left.assign column cell) rest

/-- The product of the multiplicities is not a `std::uint64_t`. -/
def productOverflows (left right : UInt64) : Bool :=
  right != 0 && decide (0xffffffffffffffff / right < left)

/-- `combine` -/
def combine (left right : AnnotatedRow) : Result (Option AnnotatedRow) :=
  if left.interpretation ≠ right.interpretation then .ok none
  else do
    match ← intersectCondition left.presence right.presence with
    | none => .ok none
    | some presence =>
      if productOverflows left.multiplicity right.multiplicity = true then
        .error (queryError "sdk.query-multiplicity-overflow" "inner_join")
      else
        match combineValues left.values right.values.entries with
        | none => .ok none
        | some values =>
          .ok (some (bindContributorCondition
            { left with
              values := values
              multiplicity := left.multiplicity * right.multiplicity
              presence := presence
              contributorEdges := left.contributorEdges ++ right.contributorEdges } presence))

/-- `distinct_key` -/
def distinctKey (row : AnnotatedRow) : Bytes :=
  (row.values.entries.flatMap fun entry =>
      entry.1 ++ 0x3d :: entry.2.canonicalForm ++ [0x0a]) ++
    ascii "universe=" ++ row.presence.universe ++ 0x0a ::
    ascii "interpretation=" ++ row.interpretation ++ [0x0a]

/-- The rows have more contributors and conditions: those of another one as well. -/
def mergeRow (current row : AnnotatedRow) : AnnotatedRow :=
  canonicalizeContributorEdges
    { current with
      presence :=
        { current.presence with
          fragments := canonicalSet (current.presence.fragments ++ row.presence.fragments) }
      contributorEdges := current.contributorEdges ++ row.contributorEdges }

/-- The rank of the state of a cell, and its text. -/
def orderValue (key : OrderKey) (cell : DetachedCell) : Nat ×ₗ Bytes :=
  toLex (key.cellStateOrder.idxOf cell.state, cell.canonicalForm)

/-- `compare_rows`; a negative value is `lt`. -/
def compareRows (columnTypes : ColumnTypes) (left right : AnnotatedRow) : List OrderKey → Ordering
  | [] =>
    if left.canonicalForm = right.canonicalForm then .eq
    else if left.canonicalForm < right.canonicalForm then .lt
    else .gt
  | key :: keys =>
    let leftValue := orderValue key (cellFor left key.column columnTypes)
    let rightValue := orderValue key (cellFor right key.column columnTypes)
    if leftValue ≠ rightValue then
      let comparison := if leftValue < rightValue then Ordering.lt else Ordering.gt
      if key.ascending = true then comparison else comparison.swap
    else compareRows columnTypes left right keys

/-- The order of `order_by`. -/
def rowLess (columnTypes : ColumnTypes) (keys : List OrderKey) (left right : AnnotatedRow) : Bool :=
  compareRows columnTypes left right keys == .lt

/-- The order of a result whose rows have none. -/
def canonicalRowLess (left right : AnnotatedRow) : Bool :=
  bytesLess left.canonicalForm right.canonicalForm

/-- The row with the cells of a projection only; a name that is there twice has the first cell. -/
def projectRow (columnTypes : ColumnTypes) (columns : List (IrColumnRef × Bytes))
    (row : AnnotatedRow) : AnnotatedRow :=
  { row with
    values := columns.foldl (fun values column =>
      values.emplace column.2 (cellFor row column.1 columnTypes)) OrderedMap.empty }

/-- The columns of the output under their names. -/
def terminalColumns (outputSchema : List ColumnRef) : List (IrColumnRef × Bytes) :=
  (outputSchema.map ColumnRef.reference).zip ((outputAliases outputSchema).map outputName)

/-- `project_terminal_row` -/
def projectTerminalRow (outputSchema : List ColumnRef) (columnTypes : ColumnTypes)
    (row : AnnotatedRow) : AnnotatedRow :=
  projectRow columnTypes (terminalColumns outputSchema) row

end Cxxlens.Sdk.Query
