import Cxxlens.Foundation.Collections
import Cxxlens.Sdk.Claim.Model

set_option autoImplicit false

/-! # Claim batches

`claim_batch::commit` of `claim.cpp`: validation, resolution of references through lazily built
indexes, deduplication, and the classification of disagreeing pairs. Pointers to claims are the
claims themselves. -/

namespace Cxxlens.Sdk

open Sorting Collections

/-- `unresolved_reference` -/
structure UnresolvedReference where
  sourceAssertion : Bytes
  sourceRelation : Bytes
  targetRelation : Bytes
  sourceColumns : List Bytes
  reason : Bytes
  deriving DecidableEq, Repr

/-- `claim_conflict` -/
structure ClaimConflict where
  relation : Bytes
  semanticKey : Bytes
  interpretation : Bytes
  overlapFragments : List Bytes
  assertions : List Bytes
  contents : List Bytes
  deriving DecidableEq, Repr

/-- `differential_disagreement` -/
structure DifferentialDisagreement where
  relation : Bytes
  semanticKey : Bytes
  leftInterpretation : Bytes
  rightInterpretation : Bytes
  leftContent : Bytes
  rightContent : Bytes
  overlapFragments : List Bytes
  deriving DecidableEq, Repr

/-- `claim_batch_result` -/
structure ClaimBatchResult where
  claims : List Claim
  unresolved : List UnresolvedReference
  conflicts : List ClaimConflict
  differentialDisagreements : List DifferentialDisagreement
  contentDigest : Bytes
  deriving Repr

/-! ## Canonical order of the records -/

/-- What `std::tie` compares of an unresolved reference. -/
def UnresolvedReference.tie (value : UnresolvedReference) :
    Bytes ×ₗ Bytes ×ₗ Bytes ×ₗ List Bytes ×ₗ Bytes :=
  toLex (value.sourceAssertion, toLex (value.sourceRelation, toLex (value.targetRelation,
    toLex (value.sourceColumns, value.reason))))

/-- What `std::tie` compares of a conflict. -/
def ClaimConflict.tie (value : ClaimConflict) :
    Bytes ×ₗ Bytes ×ₗ Bytes ×ₗ List Bytes ×ₗ List Bytes ×ₗ List Bytes :=
  toLex (value.relation, toLex (value.semanticKey, toLex (value.interpretation,
    toLex (value.overlapFragments, toLex (value.assertions, value.contents)))))

/-- What `std::tie` compares of a differential disagreement. -/
def DifferentialDisagreement.tie (value : DifferentialDisagreement) :
    Bytes ×ₗ Bytes ×ₗ Bytes ×ₗ Bytes ×ₗ Bytes ×ₗ Bytes ×ₗ List Bytes :=
  toLex (value.relation, toLex (value.semanticKey, toLex (value.leftInterpretation,
    toLex (value.rightInterpretation, toLex (value.leftContent, toLex (value.rightContent,
      value.overlapFragments))))))

/-- Sorted and without duplicates, for strings. -/
def canonicalStrings (values : List Bytes) : List Bytes :=
  sortUnique bytesLess (· == ·) values

def canonicalUnresolved (values : List UnresolvedReference) : List UnresolvedReference :=
  sortUnique (fun a b => decide (a.tie < b.tie)) (· == ·) values

/-- The first loop of `canonicalize_claim_conflicts`. -/
def ClaimConflict.canonical (value : ClaimConflict) : ClaimConflict :=
  { value with
    overlapFragments := canonicalStrings value.overlapFragments
    assertions := canonicalStrings value.assertions
    contents := canonicalStrings value.contents }

/-- `canonicalize_claim_conflicts` -/
def canonicalizeClaimConflicts (values : List ClaimConflict) : List ClaimConflict :=
  sortUnique (fun a b => decide (a.tie < b.tie)) (· == ·) (values.map ClaimConflict.canonical)

def canonicalDifferential (values : List DifferentialDisagreement) :
    List DifferentialDisagreement :=
  sortUnique (fun a b => decide (a.tie < b.tie)) (· == ·) values

/-! ## Occurrences in order -/

/-- The claims with their projections. -/
def projectOccurrences (values : List Claim) : Result (List (Bytes × Claim)) :=
  collect (fun value => do
    let encoded ← claimOccurrenceProjection value
    .ok [(encoded, value)]) values

/-- `sort_claim_occurrences` -/
def sortClaimOccurrences (values : List Claim) : Result (List Claim) := do
  let keys ← projectOccurrences values
  .ok ((sortBy (fun a b => bytesLess a.1 b.1) keys).map Prod.snd)

/-! ## Content digest -/

/-- A tuple of strings. -/
def stringTuple (values : List Bytes) : CanonicalValue :=
  .fromTuple (values.map .fromString)

/-- `claim_batch_content_encoding` -/
def claimBatchContentEncoding (claims : List Claim) (unresolved : List UnresolvedReference)
    (conflicts : List ClaimConflict) (differential : List DifferentialDisagreement) :
    Result Bytes := do
  let keys ← projectOccurrences claims
  let claimRecords := (sortBy (fun a b => bytesLess a.1 b.1) keys).map fun (occurrence, value) =>
    CanonicalValue.fromTuple
      [.fromString "claim", .fromString value.content, .fromBytes occurrence]
  let unresolvedRecords := (canonicalUnresolved unresolved).map fun value =>
    CanonicalValue.fromTuple
      [.fromString "unresolved", .fromString value.sourceAssertion,
        .fromString value.sourceRelation, .fromString value.targetRelation,
        stringTuple value.sourceColumns, .fromString value.reason]
  let conflictRecords := (canonicalizeClaimConflicts conflicts).map fun value =>
    CanonicalValue.fromTuple
      [.fromString "conflict", .fromString value.relation, .fromString value.semanticKey,
        .fromString value.interpretation, stringTuple value.overlapFragments,
        stringTuple value.assertions, stringTuple value.contents]
  let differentialRecords := (canonicalDifferential differential).map fun value =>
    CanonicalValue.fromTuple
      [.fromString "differential", .fromString value.relation, .fromString value.semanticKey,
        .fromString value.leftInterpretation, .fromString value.rightInterpretation,
        .fromString value.leftContent, .fromString value.rightContent,
        stringTuple value.overlapFragments]
  CanonicalValue.canonicalBinary (.fromTuple
    [.fromString "cxxlens.claim-batch.v2", .fromTuple claimRecords, .fromTuple unresolvedRecords,
      .fromTuple conflictRecords, .fromTuple differentialRecords])

section Commit

variable {hash : Bytes → Bytes} (engine : RelationEngine hash)

/-- `claim_batch_content_digest` -/
def claimBatchContentDigest (hash : Bytes → Bytes) (claims : List Claim)
    (unresolved : List UnresolvedReference) (conflicts : List ClaimConflict)
    (differential : List DifferentialDisagreement) : Result Bytes := do
  let encoded ← claimBatchContentEncoding claims unresolved conflicts differential
  semanticDigest hash "cxxlens.claim-batch.v2" encoded

/-! ## References -/

/-- The key of an index: interpretation, universe, and the values of the target columns. -/
abbrev ReferenceKey := Bytes × Bytes × List ScalarValue

/-- `reference_index` -/
abbrev ReferenceIndex := List (ReferenceKey × List Claim)

/-- `reference_indexes`, by target relation and target columns -/
abbrev ReferenceIndexes := List ((Bytes × List Bytes) × ReferenceIndex)

/-- `projected_values` -/
def projectedValues (value : Claim) : List Bytes → Option (List ScalarValue)
  | [] => some []
  | column :: columns =>
    match value.row.find column with
    | none => none
    | some found =>
      if found.state ≠ .present then none
      else
        match found.value with
        | none => none
        | some item => (projectedValues value columns).map (item :: ·)

/-- The key a target is filed under, if all of its columns have values. -/
def targetKey (columns : List Bytes) (target : Claim) : Option ReferenceKey :=
  (projectedValues target columns).map fun key =>
    (target.interpretation, target.presence.universe, key)

/-- The loop that builds an index. -/
def buildIndex (columns : List Bytes) (targets : List Claim) : ReferenceIndex :=
  targets.foldl (fun index target =>
    match targetKey columns target with
    | none => index
    | some key => pushBack key target index) []

/-- `canonical_set_elements` -/
def canonicalSetElements (cell : DetachedCell) : Option (List Bytes) :=
  match cell.value with
  | some (.bytes encoded) => setElements encoded.length encoded
  | _ => none

/-- One pair of columns in `reference_match`. -/
def columnsMatch (source target : Claim) (containerElements : Bool) (element : Option Bytes)
    (columns : Bytes × Bytes) : Bool :=
  match source.row.find columns.1, target.row.find columns.2 with
  | some left, some right =>
    if left.state ≠ .present ∨ right.state ≠ .present ∨ left.value = none ∨ right.value = none then
      false
    else if containerElements = true then
      match element, right.value with
      | some wanted, some (.string value) => value == wanted
      | _, _ => false
    else left.value == right.value
  | _, _ => false

/-- `reference_match` -/
def referenceMatch (source : Claim) (reference : RelationReferenceDescriptor) (target : Claim)
    (element : Option Bytes) : Bool :=
  if source.interpretation ≠ target.interpretation ∨
      source.presence.universe ≠ target.presence.universe ∨
      includes target.presence.fragments source.presence.fragments = false then false
  else
    (reference.sourceColumns.zip reference.targetColumns).all
      (columnsMatch source target reference.containerElements element)

/-- `reference_absent` -/
def referenceAbsent (source : Claim) (reference : RelationReferenceDescriptor) : Bool :=
  reference.sourceColumns.any fun column =>
    match source.row.find column with
    | none => true
    | some found => found.state == .absent

/-- The index for a reference, built when it is asked for the first time. -/
def findIndex (targets : List (Bytes × List Claim)) (indexes : ReferenceIndexes)
    (reference : RelationReferenceDescriptor) : ReferenceIndex × ReferenceIndexes :=
  let projection := (reference.targetRelation, reference.targetColumns)
  match indexes.lookup projection with
  | some index => (index, indexes)
  | none =>
    let index := buildIndex reference.targetColumns (findGroup reference.targetRelation targets)
    (index, indexes ++ [(projection, index)])

/-- `target_resolves` -/
def targetResolves (targets : List (Bytes × List Claim)) (value : Claim)
    (reference : RelationReferenceDescriptor) (indexes : ReferenceIndexes)
    (element : Option Bytes) : Bool × ReferenceIndexes :=
  let (index, indexes) := findIndex targets indexes reference
  let key :=
    match element with
    | some element => some (List.replicate reference.sourceColumns.length (.string element))
    | none => projectedValues value reference.sourceColumns
  match key with
  | none => (false, indexes)
  | some key =>
    let candidates := findGroup (value.interpretation, value.presence.universe, key) index
    (candidates.any fun target => referenceMatch value reference target element, indexes)

/-- `std::ranges::all_of` over the elements of a set; the first that does not resolve ends it. -/
def allResolve (targets : List (Bytes × List Claim)) (value : Claim)
    (reference : RelationReferenceDescriptor) :
    ReferenceIndexes → List Bytes → Bool × ReferenceIndexes
  | indexes, [] => (true, indexes)
  | indexes, element :: rest =>
    match targetResolves targets value reference indexes (some element) with
    | (false, indexes) => (false, indexes)
    | (true, indexes) => allResolve targets value reference indexes rest

/-- `resolved` -/
def resolveReference (targets : List (Bytes × List Claim)) (value : Claim)
    (reference : RelationReferenceDescriptor) (indexes : ReferenceIndexes) :
    Bool × ReferenceIndexes :=
  if reference.containerElements = true then
    match (value.row.find (reference.sourceColumns.headD [])).bind canonicalSetElements with
    | none => (false, indexes)
    | some elements => allResolve targets value reference indexes elements
  else targetResolves targets value reference indexes none

/-- The inner loop, over the references of a claim. -/
def resolveReferences (targets : List (Bytes × List Claim)) (value : Claim) :
    ReferenceIndexes → List RelationReferenceDescriptor →
      Result (List UnresolvedReference × ReferenceIndexes)
  | indexes, [] => .ok ([], indexes)
  | indexes, reference :: rest =>
    if referenceAbsent value reference = true then resolveReferences targets value indexes rest
    else
      let (resolved, indexes) := resolveReference targets value reference indexes
      if resolved = false ∧ reference.strength = .hard then
        .error (claimError "sdk.hard-reference-missing" value.assertion reference.targetRelation)
      else do
        let (unresolved, indexes) ← resolveReferences targets value indexes rest
        if resolved = false then
          .ok ({ sourceAssertion := value.assertion, sourceRelation := value.descriptor,
                 targetRelation := reference.targetRelation,
                 sourceColumns := reference.sourceColumns,
                 reason := "soft-reference-missing" } :: unresolved, indexes)
        else .ok (unresolved, indexes)

/-- The outer loop, over the new claims. -/
def resolveClaims (targets : List (Bytes × List Claim)) :
    ReferenceIndexes → List Claim → Result (List UnresolvedReference)
  | _, [] => .ok []
  | indexes, value :: rest => do
    let descriptor ← engine.requireId value.descriptor
    let (unresolved, indexes) ← resolveReferences targets value indexes descriptor.references
    let others ← resolveClaims targets indexes rest
    .ok (unresolved ++ others)

/-- `descriptors_by_id.at(id)->name`; the map has every descriptor of a validated claim. -/
def relationOf (value : Claim) : Bytes :=
  match engine.requireId value.descriptor with
  | .ok descriptor => descriptor.name
  | .error _ => []

/-! ## Pairs -/

/-- Whether the last claim that was kept has this occurrence; a multiset relation keeps them all. -/
def isDuplicate (descriptor : RelationDescriptor) (last : Option Claim) (value : Claim) :
    Result Bool :=
  match last with
  | none => .ok false
  | some last =>
    if descriptor.merge = .multiset then .ok false else sameClaimOccurrence last value

/-- The loop that fills `output.claims` from the sorted claims, behind the last one it kept. -/
def keepOccurrences : Option Claim → List Claim → Result (List Claim)
  | _, [] => .ok []
  | last, value :: rest => do
    let descriptor ← engine.requireId value.descriptor
    let duplicate ← isDuplicate descriptor last value
    if duplicate = true then keepOccurrences last rest
    else do
      let kept ← keepOccurrences (some value) rest
      .ok (value :: kept)

/-- What `classify_pair` adds to the output. -/
inductive Disagreement where
  | conflict (value : ClaimConflict)
  | differential (value : DifferentialDisagreement)
  deriving DecidableEq, Repr

/-- `functional_payload_digest` -/
def functionalPayloadDigest (hash : Bytes → Bytes) (descriptor : RelationDescriptor)
    (row : DetachedRow) : Result Bytes :=
  canonicalIdentityDigest hash "conflict-payload" [rowTuple row descriptor.conflictColumns]

/-- `classify_pair` behind the swap -/
def classifyOrdered (first second : Claim) : Result (List Disagreement) :=
  if first.content = second.content ∨ first.descriptor ≠ second.descriptor ∨
      first.semanticKey ≠ second.semanticKey then .ok []
  else do
    let descriptor ← engine.requireId first.descriptor
    if descriptor.merge ≠ .functionalAssertion then .ok []
    else do
      let firstPayload ← functionalPayloadDigest hash descriptor first.row
      let secondPayload ← functionalPayloadDigest hash descriptor second.row
      if firstPayload = secondPayload then .ok []
      else do
        let overlap ← first.presence.overlap second.presence
        if overlap = [] then .ok []
        else if first.interpretation = second.interpretation then
          .ok [.conflict
            { relation := descriptor.name, semanticKey := first.semanticKey,
              interpretation := first.interpretation, overlapFragments := overlap,
              assertions := [first.assertion, second.assertion],
              contents := [first.content, second.content] }]
        else
          .ok [.differential
            { relation := descriptor.name, semanticKey := first.semanticKey,
              leftInterpretation := first.interpretation,
              rightInterpretation := second.interpretation, leftContent := first.content,
              rightContent := second.content, overlapFragments := overlap }]

/-- `classify_pair` -/
def classifyPair (left right : Claim) : Result (List Disagreement) := do
  let swapped ← claimOccurrenceLess right left
  if swapped = true then classifyOrdered engine right left else classifyOrdered engine left right

/-- `functional_key` -/
def functionalKey (value : Claim) : Bytes × Bytes :=
  (value.descriptor, value.semanticKey)

/-- `descriptors_by_id.at(id)->merge == merge_mode::functional_assertion` -/
def isFunctional (value : Claim) : Bool :=
  match engine.requireId value.descriptor with
  | .ok descriptor => descriptor.merge == .functionalAssertion
  | .error _ => false

/-- `added_by_key`, in the order of its keys -/
def addedByKey (claims : List Claim) : List ((Bytes × Bytes) × List Claim) :=
  sortBy (fun a b => decide (toLex a.1 < toLex b.1))
    (groupBy functionalKey (claims.filter (isFunctional engine)))

/-- The sort of `ordered_existing`. A comparison encodes both of its claims, but a single claim is
    compared with none. -/
def sortExisting (existing : List Claim) : Result (List Claim) :=
  if existing.length < 2 then .ok existing else sortClaimOccurrences existing

/-- `ordered_existing`. Of claims with one content the first is kept. -/
def orderedExisting (existing : List Claim) : Result (List Claim) := do
  let ordered ← sortExisting existing
  .ok (unique (fun left right => left.content == right.content) ordered)

/-- The loops over the pairs of new claims. -/
def classifyAdded (added : List ((Bytes × Bytes) × List Claim)) : Result (List Disagreement) :=
  collect (fun group =>
    collect (fun pair => classifyPair engine pair.1 pair.2) (pairs group.2)) added

/-- The loops over the pairs of a new and an existing claim. -/
def classifyExisting (added : List ((Bytes × Bytes) × List Claim)) (existing : List Claim) :
    Result (List Disagreement) :=
  collect (fun group =>
    collect (fun value =>
      collect (fun previous => classifyPair engine value previous)
        (findGroup group.1 (groupBy functionalKey existing))) group.2) added

/-- The conflicts among the disagreements. -/
def conflictsOf (found : List Disagreement) : List ClaimConflict :=
  found.filterMap fun
    | .conflict value => some value
    | .differential _ => none

/-- The differential disagreements among them. -/
def differentialOf (found : List Disagreement) : List DifferentialDisagreement :=
  found.filterMap fun
    | .conflict _ => none
    | .differential value => some value

/-- `claim_batch::commit`, for a batch with the claims `added` -/
def commit (added existing : List Claim) : Result ClaimBatchResult := do
  firstError (validateClaim engine) added
  firstError (validateClaim engine) existing
  let referenceSpace := existing ++ added
  let unresolved ← resolveClaims engine (groupBy (relationOf engine) referenceSpace) [] added
  let ordered ← sortClaimOccurrences added
  let claims ← keepOccurrences engine none ordered
  let addedByKey := addedByKey engine claims
  let among ← classifyAdded engine addedByKey
  let prior ← orderedExisting existing
  let against ← classifyExisting engine addedByKey prior
  let conflicts := canonicalizeClaimConflicts (conflictsOf (among ++ against))
  let differential := canonicalDifferential (differentialOf (among ++ against))
  let unresolved := canonicalUnresolved unresolved
  let contentDigest ← claimBatchContentDigest hash claims unresolved conflicts differential
  .ok { claims, unresolved, conflicts, differentialDisagreements := differential, contentDigest }

end Commit

end Cxxlens.Sdk
