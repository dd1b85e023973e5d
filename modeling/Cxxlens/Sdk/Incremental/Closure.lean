import Cxxlens.Foundation.OrderedMap
import Cxxlens.Sdk.Claim.Disagreement

set_option autoImplicit false

/-! # Bounded transitive closure

`bounded_transitive_closure` of `incremental.cpp`: a frontier of rows moves along the edges in
rounds, and a row that brings no new evidence to its key is not sent on. -/

namespace Cxxlens.Sdk.Incremental

open Sorting

/-- `closure_edge` -/
structure ClosureEdge where
  «from» : Bytes
  «to» : Bytes
  conditionFragments : List Bytes
  interpretation : Bytes
  evidence : List Bytes
  deriving DecidableEq, Repr

/-- `closure_request` -/
structure ClosureRequest where
  roots : List Bytes
  closureKind : Bytes
  edges : List ClosureEdge
  maxIterations : UInt64
  maxEdges : UInt64
  deriving Repr

/-- `closure_row` -/
structure ClosureRow where
  root : Bytes
  target : Bytes
  conditionFragments : List Bytes
  interpretation : Bytes
  evidence : List Bytes
  deriving DecidableEq, Repr

/-- `closure_result` -/
structure ClosureResult where
  closureKind : Bytes
  rows : List ClosureRow
  iterations : UInt64
  closureCertified : Bool
  unresolved : List Error
  resultDigest : Bytes
  deriving DecidableEq, Repr

/-! ## Validation -/

/-- `!validate_strong_id(value)` -/
def notStrongId (value : Bytes) : Bool :=
  !(validateStrongId value).isOk

/-- `closure_edge::validate` -/
def ClosureEdge.validate (edge : ClosureEdge) : Result Unit := do
  reject (notStrongId edge.from) ⟨"sdk.closure-edge-invalid", "from", []⟩
  reject (notStrongId edge.to) ⟨"sdk.closure-edge-invalid", "to", []⟩
  reject (edge.conditionFragments.isEmpty || notStrongId edge.interpretation ||
    edge.evidence.isEmpty) ⟨"sdk.closure-edge-incomplete", edge.from, edge.to⟩
  firstError (fun fragment =>
    reject (notStrongId fragment) ⟨"sdk.closure-condition-invalid", edge.from, fragment⟩)
    edge.conditionFragments
  firstError (fun item =>
    reject (notStrongId item) ⟨"sdk.closure-evidence-invalid", edge.from, item⟩) edge.evidence

/-- `derived_kinds` -/
def derivedKinds : List Bytes :=
  ["call-target-set", "inheritance-subtype-set", "include-provider-set"]

/-- `closure_request::validate` -/
def ClosureRequest.validate (request : ClosureRequest) : Result Unit := do
  reject (request.roots.isEmpty || request.maxIterations == 0 || request.maxEdges == 0)
    ⟨"sdk.closure-request-invalid", "budget", []⟩
  reject (!derivedKinds.contains request.closureKind)
    ⟨"sdk.closure-kind-invalid", "closure_kind", request.closureKind⟩
  firstError (fun root => reject (notStrongId root) ⟨"sdk.closure-root-invalid", "roots", root⟩)
    request.roots
  firstError ClosureEdge.validate request.edges

/-! ## Rows in order -/

/-- What the map of the reached rows is keyed by. -/
abbrev Key := Bytes ×ₗ Bytes ×ₗ Bytes ×ₗ List Bytes

def ClosureRow.key (row : ClosureRow) : Key :=
  toLex (row.root, toLex (row.target, toLex (row.interpretation, row.conditionFragments)))

/-- What `row_less` compares. -/
def ClosureRow.tie (row : ClosureRow) : Bytes ×ₗ Bytes ×ₗ Bytes ×ₗ List Bytes ×ₗ List Bytes :=
  toLex (row.root, toLex (row.target, toLex (row.interpretation,
    toLex (row.conditionFragments, row.evidence))))

/-- `row_less` -/
def rowLess (left right : ClosureRow) : Bool :=
  decide (left.tie < right.tie)

/-- What the comparator of the edges compares. -/
def ClosureEdge.tie (edge : ClosureEdge) : Bytes ×ₗ Bytes ×ₗ Bytes ×ₗ List Bytes ×ₗ List Bytes :=
  toLex (edge.from, toLex (edge.to, toLex (edge.interpretation,
    toLex (edge.conditionFragments, edge.evidence))))

/-- `intersection` -/
def intersection (left right : List Bytes) : List Bytes :=
  setIntersection (canonicalStrings left) (canonicalStrings right)

/-! ## Digest -/

def ClosureRow.encoded (row : ClosureRow) : CanonicalValue :=
  .fromTuple [.fromString row.root, .fromString row.target, stringTuple row.conditionFragments,
    .fromString row.interpretation, stringTuple row.evidence]

def errorEncoded (item : Error) : CanonicalValue :=
  .fromTuple [.fromString item.code, .fromString item.field, .fromString item.detail]

/-- The fields `digest_closure` digests. -/
def ClosureResult.fields (value : ClosureResult) : List CanonicalValue :=
  [.fromString value.closureKind, .fromTuple (value.rows.map ClosureRow.encoded),
    .fromInteger value.iterations.toInt64, .fromBoolean value.closureCertified,
    .fromTuple (value.unresolved.map errorEncoded)]

section Digest

variable (hash : Bytes → Bytes)

/-- `digest_closure` -/
def digestClosure (value : ClosureResult) : Result Bytes :=
  canonicalIdentityDigest hash "bounded-closure-result" value.fields

/-- The condition on a row in `closure_result::validate`. -/
def ClosureRow.incomplete (row : ClosureRow) : Bool :=
  notStrongId row.root || notStrongId row.target || row.conditionFragments.isEmpty ||
    notStrongId row.interpretation || row.evidence.isEmpty ||
    row.conditionFragments.any notStrongId || row.evidence.any notStrongId

/-- The condition on what is unresolved in `closure_result::validate`. -/
def unknownBudget (item : Error) : Bool :=
  (item.code != ascii "sdk.closure-edge-budget" || item.field != ascii "max_edges") &&
    (item.code != ascii "sdk.closure-iteration-budget" || item.field != ascii "max_iterations")

/-- `std::ranges::is_sorted(rows, row_less)` -/
def rowsSorted : List ClosureRow → Bool
  | left :: right :: rest => !rowLess right left && rowsSorted (right :: rest)
  | _ => true

/-- `std::ranges::adjacent_find(rows) != rows.end()` -/
def rowsRepeat : List ClosureRow → Bool
  | left :: right :: rest => left == right || rowsRepeat (right :: rest)
  | _ => false

/-- `closure_result::validate` -/
def ClosureResult.validate (value : ClosureResult) : Result Unit := do
  reject (value.closureKind != ascii "call-target-set" &&
    value.closureKind != ascii "inheritance-subtype-set" &&
    value.closureKind != ascii "include-provider-set")
    ⟨"sdk.closure-kind-invalid", "closure_kind", value.closureKind⟩
  reject (!rowsSorted value.rows) ⟨"sdk.closure-result-order", "rows", []⟩
  reject (value.closureCertified == !value.unresolved.isEmpty)
    ⟨"sdk.closure-certification-invalid", "unresolved", []⟩
  firstError (fun row =>
    reject row.incomplete ⟨"sdk.closure-row-incomplete", row.root, row.target⟩) value.rows
  firstError (fun item =>
    reject (unknownBudget item) ⟨"sdk.closure-certification-invalid", "unresolved", []⟩)
    value.unresolved
  reject (rowsRepeat value.rows) ⟨"sdk.closure-result-duplicate", "rows", []⟩
  reject (decide ((digestClosure hash value).toOption ≠ some value.resultDigest))
    ⟨"sdk.closure-result-digest", "result_digest", []⟩

end Digest

/-! ## The worklist -/

/-- An edge with its sets in order. -/
def ClosureEdge.canonical (edge : ClosureEdge) : ClosureEdge :=
  { edge with
    conditionFragments := canonicalStrings edge.conditionFragments
    evidence := canonicalStrings edge.evidence }

/-- A row with its sets in order. -/
def ClosureRow.canonical (row : ClosureRow) : ClosureRow :=
  { row with
    conditionFragments := canonicalStrings row.conditionFragments
    evidence := canonicalStrings row.evidence }

/-- The edges, sorted by all they hold. -/
def sortedEdges (edges : List ClosureEdge) : List ClosureEdge :=
  sortBy (fun left right => decide (left.tie < right.tie)) (edges.map ClosureEdge.canonical)

/-- The row an edge starts from a root. -/
def startRow (root : Bytes) (edge : ClosureEdge) : Option ClosureRow :=
  if edge.from = root then
    some ⟨root, edge.to, edge.conditionFragments, edge.interpretation, edge.evidence⟩
  else none

/-- The frontier before the first round. -/
def initialFrontier (roots : List Bytes) (edges : List ClosureEdge) : List ClosureRow :=
  roots.flatMap fun root => edges.filterMap (startRow root)

/-- The row an edge sends a row on to. -/
def extendRow (row : ClosureRow) (edge : ClosureEdge) : Option ClosureRow :=
  if edge.from ≠ row.target ∨ edge.interpretation ≠ row.interpretation then none
  else
    let condition := intersection row.conditionFragments edge.conditionFragments
    if condition = [] then none
    else
      some ⟨row.root, edge.to, condition, row.interpretation,
        canonicalStrings (row.evidence ++ edge.evidence)⟩

/-- The rows that are reached and the rows of the next round. -/
abbrev Visited := OrderedMap Key ClosureRow × List ClosureRow

/-- One row of the frontier. -/
def visitRow (edges : List ClosureEdge) (state : Visited) (row : ClosureRow) : Visited :=
  let row := row.canonical
  let next := state.2 ++ edges.filterMap (extendRow row)
  match state.1.find row.key with
  | none => (state.1.assign row.key row, next)
  | some known =>
    let evidence := canonicalStrings (known.evidence ++ row.evidence)
    let reached := state.1.assign row.key { known with evidence := evidence }
    if evidence.length = known.evidence.length then (reached, state.2) else (reached, next)

/-- What the loop of `bounded_transitive_closure` changes. -/
structure Exploration where
  iterations : UInt64
  reached : OrderedMap Key ClosureRow
  frontier : List ClosureRow

/-- One round. -/
def Exploration.round (edges : List ClosureEdge) (state : Exploration) : Exploration :=
  let visited := state.frontier.foldl (visitRow edges) (state.reached, [])
  ⟨state.iterations + 1, visited.1, sortBy rowLess visited.2⟩

/-- The loop, in at most `fuel` rounds. -/
def explore (edges : List ClosureEdge) (maxIterations : UInt64) :
    Nat → Exploration → Exploration
  | 0, state => state
  | fuel + 1, state =>
    if state.frontier = [] ∨ ¬ state.iterations < maxIterations then state
    else explore edges maxIterations fuel (state.round edges)

/-- The loop of `bounded_transitive_closure`; every round counts towards the budget. -/
def explored (roots : List Bytes) (edges : List ClosureEdge) (maxIterations : UInt64) :
    Exploration :=
  explore edges maxIterations maxIterations.toNat
    ⟨0, OrderedMap.empty, initialFrontier roots edges⟩

/-- The errors of the edge budget. -/
def edgeBudget (edges : List ClosureEdge) (maxEdges : UInt64) : List Error :=
  if maxEdges.toNat < edges.length then
    [⟨"sdk.closure-edge-budget", "max_edges", CanonicalValue.decimal maxEdges.toNat⟩]
  else []

/-- The errors of the iteration budget. -/
def iterationBudget (frontier : List ClosureRow) (maxIterations : UInt64) : List Error :=
  if frontier = [] then []
  else
    [⟨"sdk.closure-iteration-budget", "max_iterations",
      CanonicalValue.decimal maxIterations.toNat⟩]

/-- The output of `bounded_transitive_closure` before its digest. -/
def closureOutput (request : ClosureRequest) : ClosureResult :=
  let sorted := sortedEdges request.edges
  -- `resize` drops edges only where there are more than the budget has
  let edges := sorted.take request.maxEdges.toNat
  let state := explored (canonicalStrings request.roots) edges request.maxIterations
  let unresolved := edgeBudget sorted request.maxEdges ++
    iterationBudget state.frontier request.maxIterations
  { closureKind := request.closureKind
    rows := sortBy rowLess (state.reached.entries.map Prod.snd)
    iterations := state.iterations
    closureCertified := state.frontier.isEmpty && unresolved.isEmpty
    unresolved := unresolved
    resultDigest := [] }

/-- `bounded_transitive_closure` -/
def boundedTransitiveClosure (hash : Bytes → Bytes) (request : ClosureRequest) :
    Result ClosureResult := do
  request.validate
  let output := closureOutput request
  let digest ← digestClosure hash output
  .ok { output with resultDigest := digest }

end Cxxlens.Sdk.Incremental
