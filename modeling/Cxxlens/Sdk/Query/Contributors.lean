import Cxxlens.Sdk.Claim.Disagreement
import Cxxlens.Sdk.Json.Delimited
import Cxxlens.Sdk.Query.Predicates

set_option autoImplicit false

/-! # Contributors of a row

The edges from a row to the claims it rests on, with the projections of them that a row carries, and
the canonical form of a row (`query_execution.cpp`, `query_projected_row_encoding_internal.hpp`). -/

namespace Cxxlens.Sdk.Query

open Json Sorting Collections

/-- Texts with commas between them. -/
def commaSeparated (texts : List Bytes) : Bytes :=
  List.intercalate [0x2c] texts

/-- `strings_json` -/
def stringsJson (values : List Bytes) : Bytes :=
  ascii "[" ++ commaSeparated (values.map canonicalJsonString) ++ ascii "]"

/-- `guarantee_json` -/
def guaranteeJson (value : ClaimGuarantee) : Bytes :=
  ascii "\x7b\"approximation\":" ++ canonicalJsonString value.approximation ++
    ascii ",\"assumptions\":" ++ canonicalJsonString value.assumptions ++
    ascii ",\"scope\":" ++ canonicalJsonString value.scope ++
    ascii ",\"verification_modalities\":" ++ stringsJson value.verificationModalities ++ ascii "\x7d"

/-- The JSON object of a producer. -/
def producerJson (value : ClaimProducer) : Bytes :=
  ascii "\x7b\"id\":" ++ canonicalJsonString value.id ++ ascii ",\"semantic_contract\":" ++
    canonicalJsonString value.semanticContract ++ ascii "\x7d"

/-- `query_contributor_edge::canonical_form` -/
def ContributorEdge.canonicalForm (edge : ContributorEdge) : Bytes :=
  ascii "\x7b\"claim_contributor\":" ++ canonicalJsonString edge.claimContributor ++
    ascii ",\"condition_fragments\":" ++ stringsJson edge.condition.fragments ++
    ascii ",\"condition_universe\":" ++ canonicalJsonString edge.condition.universe ++
    ascii ",\"guarantee\":" ++ guaranteeJson edge.guarantee ++
    ascii ",\"interpretation\":" ++ canonicalJsonString edge.interpretation ++
    ascii ",\"producer\":" ++ producerJson edge.producer ++
    ascii ",\"provenance\":" ++ canonicalJsonString edge.provenance ++ ascii "\x7d"

/-! ## Canonical lists -/

/-- Sorted by a text, and each text once. -/
def canonicalBy {α : Type} (text : α → Bytes) (values : List α) : List α :=
  sortUnique (fun left right => bytesLess (text left) (text right))
    (fun left right => text left == text right) values

/-- `canonical_guarantees` -/
def canonicalGuarantees (values : List ClaimGuarantee) : List ClaimGuarantee :=
  canonicalBy guaranteeJson values

/-- `producer_key` -/
def producerKey (value : ClaimProducer) : Bytes :=
  value.id ++ 0x0a :: value.semanticContract

/-- `canonical_producers` -/
def canonicalProducers (values : List ClaimProducer) : List ClaimProducer :=
  canonicalBy producerKey values

/-- `canonical_contributor_edges` -/
def canonicalContributorEdges (values : List ContributorEdge) : List ContributorEdge :=
  canonicalBy ContributorEdge.canonicalForm values

/-- `canonical_set` of strings -/
def canonicalSet (values : List Bytes) : List Bytes :=
  canonicalStrings values

@[simp] theorem mem_canonicalSet (values : List Bytes) (item : Bytes) :
    item ∈ canonicalSet values ↔ item ∈ values :=
  mem_canonicalStrings values item

theorem canonicalSet_pairwise (values : List Bytes) : (canonicalSet values).Pairwise (· < ·) :=
  canonicalStrings_pairwise values

/-! ## Projections of the edges -/

/-- `refresh_contributor_projections` -/
def refreshContributorProjections (row : AnnotatedRow) : AnnotatedRow :=
  { row with
    claimContributors := canonicalSet (row.contributorEdges.map ContributorEdge.claimContributor)
    producerContracts := canonicalProducers (row.contributorEdges.map ContributorEdge.producer)
    provenance := canonicalSet (row.contributorEdges.map ContributorEdge.provenance)
    contributorGuarantees :=
      canonicalGuarantees (row.contributorEdges.map ContributorEdge.guarantee) }

/-- `canonicalize_contributor_edges` -/
def canonicalizeContributorEdges (row : AnnotatedRow) : AnnotatedRow :=
  refreshContributorProjections
    { row with contributorEdges := canonicalContributorEdges row.contributorEdges }

/-- `bind_contributor_condition` -/
def bindContributorCondition (row : AnnotatedRow) (condition : ClaimCondition) : AnnotatedRow :=
  canonicalizeContributorEdges
    { row with
      contributorEdges := row.contributorEdges.map fun edge => { edge with condition := condition } }

section Frame

variable (row : AnnotatedRow) (condition : ClaimCondition)

@[simp] theorem canonicalizeContributorEdges_values :
    (canonicalizeContributorEdges row).values = row.values := rfl

@[simp] theorem canonicalizeContributorEdges_multiplicity :
    (canonicalizeContributorEdges row).multiplicity = row.multiplicity := rfl

@[simp] theorem canonicalizeContributorEdges_presence :
    (canonicalizeContributorEdges row).presence = row.presence := rfl

@[simp] theorem canonicalizeContributorEdges_interpretation :
    (canonicalizeContributorEdges row).interpretation = row.interpretation := rfl

@[simp] theorem bindContributorCondition_values :
    (bindContributorCondition row condition).values = row.values := rfl

@[simp] theorem bindContributorCondition_multiplicity :
    (bindContributorCondition row condition).multiplicity = row.multiplicity := rfl

@[simp] theorem bindContributorCondition_presence :
    (bindContributorCondition row condition).presence = row.presence := rfl

@[simp] theorem bindContributorCondition_interpretation :
    (bindContributorCondition row condition).interpretation = row.interpretation := rfl

end Frame

/-! ## The canonical form of a row -/

/-- `emit_row_cell`; the value of a present cell and the reason of an unknown one are there. -/
def rowCellJson (cell : DetachedCell) : Bytes :=
  match cell.state with
  | .present =>
    ascii "\x7b\"state\":\"present\",\"type\":" ++ canonicalJsonString cell.type.canonicalName ++
      ascii ",\"value\":" ++ (cell.value.map scalarJson).getD [] ++ ascii "\x7d"
  | .absent => ascii "\x7b\"state\":\"absent\"\x7d"
  | .unknown =>
    ascii "\x7b\"reason\":" ++ (cell.unknownReason.map canonicalJsonString).getD [] ++
      ascii ",\"state\":\"unknown\"\x7d"
  | .unnamed _ => ascii "\x7b\x7d"

/-- `emit_projected_row` -/
def projectedRowJson (row : AnnotatedRow) (guarantees : List ClaimGuarantee)
    (edges : List ContributorEdge) : Bytes :=
  ascii "\x7b\"claim_contributors\":" ++ stringsJson row.claimContributors ++
    ascii ",\"condition_fragments\":" ++ stringsJson row.presence.fragments ++
    ascii ",\"condition_universe\":" ++ canonicalJsonString row.presence.universe ++
    ascii ",\"contributor_guarantees\":[" ++ commaSeparated (guarantees.map guaranteeJson) ++
    ascii "],\"interpretation\":" ++ canonicalJsonString row.interpretation ++
    ascii ",\"contributor_edges\":[" ++
    commaSeparated (edges.map ContributorEdge.canonicalForm) ++
    ascii "],\"multiplicity\":" ++ CanonicalValue.decimal row.multiplicity.toNat ++
    ascii ",\"producer_contracts\":[" ++ commaSeparated (row.producerContracts.map producerJson) ++
    ascii "],\"provenance\":" ++ stringsJson row.provenance ++
    ascii ",\"values\":\x7b" ++
    commaSeparated (row.values.entries.map fun entry =>
      canonicalJsonString entry.1 ++ ascii ":" ++ rowCellJson entry.2) ++ ascii "\x7d\x7d"

/-- `annotated_row::canonical_form` -/
def AnnotatedRow.canonicalForm (row : AnnotatedRow) : Bytes :=
  projectedRowJson row (canonicalGuarantees row.contributorGuarantees)
    (canonicalContributorEdges row.contributorEdges)

end Cxxlens.Sdk.Query
