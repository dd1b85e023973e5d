import Cxxlens.Sdk.Claim.Batch
import Cxxlens.Sdk.Query.LogicalIr

set_option autoImplicit false

/-! # The summary guarantee

What a result says about all of its fragments at once (`summarize_guarantee` of
`query_execution.cpp`). Each contributor edge of a row gives a fragment; the summary is a meet over
the fragments, so that it never claims more than the weakest of them. -/

namespace Cxxlens.Sdk.Query

open Json Sorting Collections

/-- `snapshot_coverage_unit` -/
structure SnapshotCoverageUnit where
  domain : Bytes
  key : Bytes
  state : Bytes
  reason : Bytes := []
  deriving DecidableEq, Repr

/-- `snapshot_query_coverage` -/
structure SnapshotQueryCoverage where
  relationDescriptorId : Bytes
  unit : SnapshotCoverageUnit
  deriving DecidableEq, Repr

/-- `query_unresolved` -/
structure QueryUnresolved where
  code : Bytes
  subject : Bytes
  detail : Bytes
  deriving DecidableEq, Repr

/-- `query_guarantee_fragment` -/
structure GuaranteeFragment where
  guarantee : ClaimGuarantee
  condition : ClaimCondition
  interpretation : Bytes
  assumptions : List Bytes
  claimContributors : List Bytes
  producerContracts : List ClaimProducer
  provenance : List Bytes
  coverageStates : List Bytes
  closureIds : List Bytes
  conditionPartitionComplete : Bool
  conflicting : Bool
  unresolved : Bool
  requiresClosure : Bool
  deriving DecidableEq, Repr

/-- `query_summary_guarantee` -/
structure SummaryGuarantee where
  approximation : Bytes
  scope : Bytes
  conditionPartition : ClaimCondition
  interpretationPartitions : List Bytes
  assumptions : List Bytes
  verificationModalities : List Bytes
  fragmentCount : UInt64
  fragmentSetDigest : Bytes
  drillDownRef : Bytes
  fragments : List GuaranteeFragment
  deriving DecidableEq, Repr

/-! ## Fragments -/

/-- `assumption_ids` -/
def assumptionIds (value : Bytes) : List Bytes :=
  canonicalSet ((value.splitOn 0x2c).filter fun item => !item.isEmpty)

/-- The modalities that imply `schema_validated`. -/
def implyingModalities : List Bytes :=
  ["frontend_replayed", "compiler_verified", "link_verified", "runtime_observed",
    "differentially_verified"]

/-- `modality_closure` -/
def modalityClosure (values : List Bytes) : List Bytes :=
  canonicalSet (if values.any implyingModalities.contains = true then
    values ++ [ascii "schema_validated"] else values)

/-- A flag as it is printed. -/
def flagJson (value : Bool) : Bytes :=
  if value = true then "true" else "false"

/-- `fragment_json` -/
def fragmentJson (fragment : GuaranteeFragment) : Bytes :=
  ascii "\x7b\"assumptions\":" ++ stringsJson fragment.assumptions ++
    ascii ",\"claim_contributors\":" ++ stringsJson fragment.claimContributors ++
    ascii ",\"closure_ids\":" ++ stringsJson fragment.closureIds ++
    ascii ",\"condition_fragments\":" ++ stringsJson fragment.condition.fragments ++
    ascii ",\"condition_partition_complete\":" ++ flagJson fragment.conditionPartitionComplete ++
    ascii ",\"condition_universe\":" ++ canonicalJsonString fragment.condition.universe ++
    ascii ",\"conflicting\":" ++ flagJson fragment.conflicting ++
    ascii ",\"coverage_states\":" ++ stringsJson fragment.coverageStates ++
    ascii ",\"guarantee\":" ++ guaranteeJson fragment.guarantee ++
    ascii ",\"interpretation\":" ++ canonicalJsonString fragment.interpretation ++
    ascii ",\"producer_contracts\":[" ++
    commaSeparated (fragment.producerContracts.map producerJson) ++ ascii "]" ++
    ascii ",\"provenance\":" ++ stringsJson fragment.provenance ++
    ascii ",\"requires_closure\":" ++ flagJson fragment.requiresClosure ++
    ascii ",\"unresolved\":" ++ flagJson fragment.unresolved ++ ascii "\x7d"

/-- `fragment_conflicts`; the searched ranges are sorted. -/
def fragmentConflicts (fragment : GuaranteeFragment) (conflicts : List ClaimConflict) : Bool :=
  conflicts.any fun conflict =>
    conflict.interpretation == fragment.interpretation &&
    (fragment.claimContributors.any fun contributor => conflict.assertions.contains contributor) &&
    fragment.condition.fragments.any fun condition => conflict.overlapFragments.contains condition

/-- An unresolved item that is about the fragment: every one that is not about a single claim, and
    those about a contributor. -/
def concernsFragment (fragment : GuaranteeFragment) (item : QueryUnresolved) : Bool :=
  item.code != ascii "sdk.query-input-unresolved" ||
    fragment.claimContributors.contains item.subject

/-- What `summarize_guarantee` is given besides the rows. -/
structure SummaryInputs where
  emptyResultProofs : List ContributorEdge
  coverage : List SnapshotQueryCoverage
  closures : List Bytes
  unresolved : List QueryUnresolved
  conflicts : List ClaimConflict
  inputsComplete : Bool
  executionComplete : Bool
  closedWorld : Bool
  limited : Bool
  deriving DecidableEq, Repr

section Summary

variable (inputs : SummaryInputs)

/-- `append_fragment`: the fragment that is appended. -/
def makeFragment (guarantee : ClaimGuarantee) (condition : ClaimCondition) (interpretation : Bytes)
    (contributors : List Bytes) (producers : List ClaimProducer) (provenance : List Bytes) :
    GuaranteeFragment :=
  let fragment : GuaranteeFragment :=
    { guarantee := guarantee
      condition := condition
      interpretation := interpretation
      assumptions := assumptionIds guarantee.assumptions
      claimContributors := contributors
      producerContracts := producers
      provenance := provenance
      coverageStates := canonicalSet (inputs.coverage.map fun item => item.unit.state)
      closureIds := inputs.closures
      conditionPartitionComplete := !condition.fragments.isEmpty
      conflicting := false
      unresolved := false
      requiresClosure := true }
  { fragment with
    conflicting := fragmentConflicts fragment inputs.conflicts
    unresolved := inputs.unresolved.any (concernsFragment fragment) }

/-- The fragment of a contributor edge. -/
def edgeFragment (edge : ContributorEdge) : GuaranteeFragment :=
  makeFragment inputs edge.guarantee edge.condition edge.interpretation [edge.claimContributor]
    [edge.producer] [edge.provenance]

/-- An empty result is certified: nothing was left out, and the closures prove it. -/
def certified : Bool :=
  inputs.inputsComplete && inputs.executionComplete && inputs.closedWorld && !inputs.limited &&
    inputs.unresolved.isEmpty && !inputs.closures.isEmpty

/-- The fragment of a proof that a result is empty. -/
def proofFragment (proof : ContributorEdge) : GuaranteeFragment :=
  makeFragment inputs
    (if certified inputs = true then
      { approximation := "exact", scope := "query-empty", assumptions := "assumptions:none",
        verificationModalities := ["schema_validated"] }
    else
      { approximation := "unknown", scope := "query-empty", assumptions := "assumptions:unknown",
        verificationModalities := [] })
    proof.condition proof.interpretation [] [] []

/-- The fragment where there is neither an edge nor a proof. -/
def unknownFragment : GuaranteeFragment :=
  makeFragment inputs
    { approximation := "unknown", scope := "query-empty", assumptions := "assumptions:unknown",
      verificationModalities := [] }
    { «universe» := "query-empty", fragments := [] } "query-empty" [] [] []

/-- The fragments as they are appended. -/
def appendedFragments (rows : List AnnotatedRow) : List GuaranteeFragment :=
  let edges := rows.flatMap fun row => row.contributorEdges.map (edgeFragment inputs)
  if edges.isEmpty = false then edges
  else if inputs.emptyResultProofs.isEmpty = false then
    inputs.emptyResultProofs.map (proofFragment inputs)
  else [unknownFragment inputs]

/-- The fragments of a result. -/
def summaryFragments (rows : List AnnotatedRow) : List GuaranteeFragment :=
  canonicalBy fragmentJson (appendedFragments inputs rows)

/-! ## The meet -/

/-- The coverage states that keep a fragment from being exact. -/
def blockingStates : List Bytes :=
  ["failed", "unresolved", "unsupported", "stale", "truncated"]

/-- What the loop over the fragments keeps of the guarantees. -/
structure Standing where
  sound : Bool
  complete : Bool
  exactly : Bool
  deriving DecidableEq, Repr

/-- Before the loop. -/
def initialStanding : Standing :=
  let complete := inputs.inputsComplete && inputs.executionComplete && !inputs.limited
  { sound := true, complete := complete, exactly := complete && inputs.closedWorld }

/-- The body of the loop. -/
def Standing.meet (standing : Standing) (fragment : GuaranteeFragment) : Standing :=
  let approximation := fragment.guarantee.approximation
  let sound := standing.sound &&
    (approximation == ascii "exact" || approximation == ascii "under_approximation")
  let complete := standing.complete &&
    (approximation == ascii "exact" || approximation == ascii "over_approximation")
  let exactly := standing.exactly && approximation == ascii "exact" &&
    fragment.conditionPartitionComplete && !fragment.conflicting && !fragment.unresolved &&
    (!fragment.requiresClosure || !fragment.closureIds.isEmpty) &&
    !fragment.coverageStates.any blockingStates.contains
  if fragment.conflicting = true ∨ fragment.unresolved = true then
    { sound := false, complete := false, exactly := exactly }
  else { sound := sound, complete := complete, exactly := exactly }

/-- The name of what is known. -/
def Standing.approximation (standing : Standing) : Bytes :=
  if standing.exactly = true then "exact"
  else if standing.sound = true then "under_approximation"
  else if standing.complete = true then "over_approximation"
  else "unknown"

/-- The modalities that every fragment has: the intersection is over the closures, and starts with
    the closure of the first fragment. -/
def commonModalities : List GuaranteeFragment → List Bytes
  | [] => []
  | first :: rest =>
    (first :: rest).foldl
      (fun modalities fragment =>
        setIntersection modalities (modalityClosure fragment.guarantee.verificationModalities))
      (modalityClosure first.guarantee.verificationModalities)

/-- The standing behind the loop, lowered where the scopes or the universes are not one. -/
def finalStanding (fragments : List GuaranteeFragment) : Standing :=
  let standing := fragments.foldl Standing.meet (initialStanding inputs)
  let scopes := canonicalSet (fragments.map fun fragment => fragment.guarantee.scope)
  let universes := canonicalSet (fragments.map fun fragment => fragment.condition.universe)
  if scopes.length ≠ 1 ∨ universes.length ≠ 1 then
    { standing with exactly := false, complete := false }
  else standing

/-- `summarize_guarantee` -/
def summarizeGuarantee (hash : Bytes → Bytes) (rows : List AnnotatedRow) : SummaryGuarantee :=
  let fragments := summaryFragments inputs rows
  let scopes := canonicalSet (fragments.map fun fragment => fragment.guarantee.scope)
  let universes := canonicalSet (fragments.map fun fragment => fragment.condition.universe)
  let projection := fragments.flatMap fun fragment => fragmentJson fragment ++ [0x0a]
  let digest := semanticDigestValue hash "cxxlens.query-guarantee-fragment-set.v1" projection
  let scope :=
    if scopes.length ≠ 1 then
      ascii "query:" ++
        semanticDigestValue hash "query.scope.v1" (scopes.flatMap fun scope => scope ++ [0x0a])
    else scopes.headD []
  let conditionUniverse :=
    if universes.length ≠ 1 then
      ascii "query:" ++ semanticDigestValue hash "query.condition-universe.v1" projection
    else universes.headD []
  { approximation := (finalStanding inputs fragments).approximation
    scope := scope
    conditionPartition :=
      { «universe» := conditionUniverse
        fragments := canonicalSet (fragments.flatMap fun fragment => fragment.condition.fragments) }
    interpretationPartitions := canonicalSet (fragments.map GuaranteeFragment.interpretation)
    assumptions := canonicalSet (fragments.flatMap GuaranteeFragment.assumptions)
    verificationModalities := commonModalities fragments
    fragmentCount := UInt64.ofNat fragments.length
    fragmentSetDigest := digest
    drillDownRef := ascii "fragments:" ++ digest
    fragments := fragments }

end Summary

end Cxxlens.Sdk.Query
