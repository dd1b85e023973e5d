import Cxxlens.Sdk.Incremental.Closure

set_option autoImplicit false

/-! # Materialization plans

`make_materialization_plan` of `incremental.cpp`: every partition is reused or recomputed, with the
first of its inputs that changed as the reason. -/

namespace Cxxlens.Sdk.Incremental

open Sorting

/-- `input_fingerprint` -/
structure InputFingerprint where
  sourceDigest : Bytes
  dependencyDigest : Bytes
  invocationDigest : Bytes
  toolchainDigest : Bytes
  conditionUniverseDigest : Bytes
  variantDigest : Bytes
  providerSetDigest : Bytes
  registryDigest : Bytes
  interpretationPolicyDigest : Bytes
  refreshPolicyDigest : Bytes
  environmentDigest : Bytes
  providerBinaryDigest : Bytes
  providerSemanticsDigest : Bytes
  relationDescriptorDigest : Bytes
  normalizerVersion : Bytes
  modelDigest : Bytes
  assumptionDigest : Bytes
  precisionProfile : Bytes
  deriving DecidableEq, Repr

/-- `partition_state` -/
structure PartitionState where
  partitionId : Bytes
  input : InputFingerprint
  coverageDigest : Bytes
  closureDigest : Bytes
  corruptionDetected : Bool
  deriving DecidableEq, Repr

/-- `partition_candidate` -/
structure PartitionCandidate where
  current : PartitionState
  prior : Option PartitionState
  deriving DecidableEq, Repr

/-- `action` -/
inductive Action where
  | reuse
  | recompute
  deriving DecidableEq, Repr

/-- `plan_entry` -/
structure PlanEntry where
  partitionId : Bytes
  decision : Action
  reason : Bytes
  deriving DecidableEq, Repr

/-- `materialization_plan` -/
structure MaterializationPlan where
  entries : List PlanEntry
  frontendProviderExecutions : Nat
  warmZero : Bool
  planDigest : Bytes
  deriving DecidableEq, Repr

/-! ## Digests in text -/

/-- `value.rfind(pattern)` -/
def rfind (pattern : Bytes) : Bytes → Option Nat
  | [] => if pattern = [] then some 0 else none
  | byte :: rest =>
    match rfind pattern rest with
    | some position => some (position + 1)
    | none => if pattern.isPrefixOf (byte :: rest) then some 0 else none

/-- Where the hexadecimal part of a digest starts. -/
def hexOffset (value : Bytes) : Option Nat :=
  if (ascii "sha256:").isPrefixOf value then some 7
  else
    match rfind (ascii ":sha256:") value with
    | none => none
    | some marker =>
      if marker = 0 then none
      else if (value.take marker).all isSymbolByte then some (marker + 8)
      else none

/-- `digest_like` -/
def digestLike (value : Bytes) : Bool :=
  match hexOffset value with
  | none => false
  | some offset => (value.drop offset).length == 64 && (value.drop offset).all isLowerHex

/-! ## Fingerprints -/

/-- The `digest_fields` of `input_fingerprint::validate`. -/
def digestFields : List ((InputFingerprint → Bytes) × Bytes) :=
  [(InputFingerprint.sourceDigest, "source_digest"),
    (InputFingerprint.dependencyDigest, "dependency_digest"),
    (InputFingerprint.invocationDigest, "invocation_digest"),
    (InputFingerprint.toolchainDigest, "toolchain_digest"),
    (InputFingerprint.conditionUniverseDigest, "condition_universe_digest"),
    (InputFingerprint.variantDigest, "variant_digest"),
    (InputFingerprint.providerSetDigest, "provider_set_digest"),
    (InputFingerprint.registryDigest, "registry_digest"),
    (InputFingerprint.interpretationPolicyDigest, "interpretation_policy_digest"),
    (InputFingerprint.refreshPolicyDigest, "refresh_policy_digest"),
    (InputFingerprint.environmentDigest, "environment_digest"),
    (InputFingerprint.providerBinaryDigest, "provider_binary_digest"),
    (InputFingerprint.providerSemanticsDigest, "provider_semantics_digest"),
    (InputFingerprint.relationDescriptorDigest, "relation_descriptor_digest"),
    (InputFingerprint.modelDigest, "model_digest"),
    (InputFingerprint.assumptionDigest, "assumption_digest")]

/-- `input_fingerprint::validate` -/
def InputFingerprint.validate (input : InputFingerprint) : Result Unit := do
  firstError (fun field =>
    reject (!digestLike (field.1 input)) ⟨"sdk.incremental-digest-invalid", field.2, []⟩)
    digestFields
  reject (input.normalizerVersion.isEmpty || input.precisionProfile.isEmpty)
    ⟨"sdk.incremental-input-omitted",
      if input.normalizerVersion.isEmpty then "normalizer_version" else "precision_profile", []⟩

/-- The fields `input_fingerprint::digest` digests. -/
def InputFingerprint.fields (input : InputFingerprint) : List CanonicalValue :=
  [.fromString input.sourceDigest, .fromString input.dependencyDigest,
    .fromString input.invocationDigest, .fromString input.toolchainDigest,
    .fromString input.conditionUniverseDigest, .fromString input.variantDigest,
    .fromString input.providerSetDigest, .fromString input.registryDigest,
    .fromString input.interpretationPolicyDigest, .fromString input.refreshPolicyDigest,
    .fromString input.environmentDigest, .fromString input.providerBinaryDigest,
    .fromString input.providerSemanticsDigest, .fromString input.relationDescriptorDigest,
    .fromString input.normalizerVersion, .fromString input.modelDigest,
    .fromString input.assumptionDigest, .fromString input.precisionProfile]

/-- `input_fingerprint::digest` -/
def InputFingerprint.digest (hash : Bytes → Bytes) (input : InputFingerprint) : Result Bytes := do
  input.validate
  canonicalIdentityDigest hash "incremental-input" input.fields

/-- The `comparisons` of `changed_reason`. -/
def comparisons : List ((InputFingerprint → Bytes) × Bytes) :=
  [(InputFingerprint.sourceDigest, "sdk.incremental-source-changed"),
    (InputFingerprint.dependencyDigest, "sdk.incremental-dependency-changed"),
    (InputFingerprint.invocationDigest, "sdk.incremental-invocation-changed"),
    (InputFingerprint.toolchainDigest, "sdk.incremental-toolchain-changed"),
    (InputFingerprint.conditionUniverseDigest, "sdk.incremental-condition-universe-changed"),
    (InputFingerprint.variantDigest, "sdk.incremental-variant-changed"),
    (InputFingerprint.providerSetDigest, "sdk.incremental-provider-set-changed"),
    (InputFingerprint.registryDigest, "sdk.incremental-registry-changed"),
    (InputFingerprint.interpretationPolicyDigest, "sdk.incremental-interpretation-policy-changed"),
    (InputFingerprint.refreshPolicyDigest, "sdk.incremental-refresh-policy-changed"),
    (InputFingerprint.environmentDigest, "sdk.incremental-environment-changed"),
    (InputFingerprint.providerBinaryDigest, "sdk.incremental-provider-binary-changed"),
    (InputFingerprint.providerSemanticsDigest, "sdk.incremental-provider-semantics-changed"),
    (InputFingerprint.relationDescriptorDigest, "sdk.incremental-relation-descriptor-changed"),
    (InputFingerprint.normalizerVersion, "sdk.incremental-normalizer-changed"),
    (InputFingerprint.modelDigest, "sdk.incremental-model-changed"),
    (InputFingerprint.assumptionDigest, "sdk.incremental-assumption-changed"),
    (InputFingerprint.precisionProfile, "sdk.incremental-precision-changed")]

/-- `changed_reason`; an empty reason says that nothing changed. -/
def changedReason (prior current : InputFingerprint) : Bytes :=
  match comparisons.find? fun comparison => comparison.1 prior != comparison.1 current with
  | some comparison => comparison.2
  | none => []

/-- `partition_state::validate` -/
def PartitionState.validate (state : PartitionState) : Result Unit := do
  reject (notStrongId state.partitionId) ⟨"sdk.incremental-partition-invalid", "partition_id", []⟩
  state.input.validate
  reject (!digestLike state.coverageDigest || !digestLike state.closureDigest)
    ⟨"sdk.incremental-digest-invalid",
      if !digestLike state.coverageDigest then "coverage_digest" else "closure_digest", []⟩

/-! ## Plans -/

/-- The word `digest_plan` writes for a decision. -/
def Action.word : Action → Bytes
  | .reuse => "reuse"
  | .recompute => "recompute"

def PlanEntry.encoded (entry : PlanEntry) : CanonicalValue :=
  .fromTuple [.fromString entry.partitionId, .fromString entry.decision.word,
    .fromString entry.reason]

/-- `digest_plan` -/
def digestPlan (hash : Bytes → Bytes) (entries : List PlanEntry) (executions : Nat)
    (warmZero : Bool) : Result Bytes :=
  canonicalIdentityDigest hash "materialization-plan"
    [.fromTuple (entries.map PlanEntry.encoded), .fromInteger (UInt64.ofNat executions).toInt64,
      .fromBoolean warmZero]

/-- `std::ranges::is_sorted(entries, {}, &plan_entry::partition_id)` -/
def entriesSorted : List PlanEntry → Bool
  | left :: right :: rest =>
    !decide (right.partitionId < left.partitionId) && entriesSorted (right :: rest)
  | _ => true

/-- `std::ranges::adjacent_find(entries, {}, &plan_entry::partition_id) != entries.end()` -/
def entriesRepeat : List PlanEntry → Bool
  | left :: right :: rest =>
    left.partitionId == right.partitionId || entriesRepeat (right :: rest)
  | _ => false

/-- `recompute_reasons` -/
def recomputeReasons : List Bytes :=
  ["sdk.incremental-no-prior", "sdk.incremental-corruption-detected",
    "sdk.incremental-source-changed", "sdk.incremental-dependency-changed",
    "sdk.incremental-invocation-changed", "sdk.incremental-toolchain-changed",
    "sdk.incremental-condition-universe-changed", "sdk.incremental-variant-changed",
    "sdk.incremental-provider-set-changed", "sdk.incremental-registry-changed",
    "sdk.incremental-interpretation-policy-changed", "sdk.incremental-refresh-policy-changed",
    "sdk.incremental-environment-changed", "sdk.incremental-provider-binary-changed",
    "sdk.incremental-provider-semantics-changed", "sdk.incremental-relation-descriptor-changed",
    "sdk.incremental-normalizer-changed", "sdk.incremental-model-changed",
    "sdk.incremental-assumption-changed", "sdk.incremental-precision-changed",
    "sdk.incremental-coverage-changed", "sdk.incremental-closure-changed"]

/-- The condition on an entry in `materialization_plan::validate`, after the ids `seen`. -/
def PlanEntry.invalid (seen : List Bytes) (entry : PlanEntry) : Bool :=
  notStrongId entry.partitionId || seen.contains entry.partitionId ||
    (entry.decision == .reuse && entry.reason != ascii "sdk.incremental-exact-reuse") ||
    (entry.decision == .recompute && !recomputeReasons.contains entry.reason)

/-- The loop of `materialization_plan::validate` over the entries. -/
def checkEntries (seen : List Bytes) : List PlanEntry → Result Unit
  | [] => .ok ()
  | entry :: rest => do
    reject (entry.invalid seen) ⟨"sdk.incremental-plan-entry-invalid", entry.partitionId, []⟩
    checkEntries (entry.partitionId :: seen) rest

/-- How many entries are recomputed. -/
def recomputed (entries : List PlanEntry) : Nat :=
  entries.countP fun entry => entry.decision == .recompute

/-- `materialization_plan::validate` -/
def MaterializationPlan.validate (hash : Bytes → Bytes) (plan : MaterializationPlan) :
    Result Unit := do
  reject plan.entries.isEmpty ⟨"sdk.incremental-plan-empty", "entries", []⟩
  reject (!entriesSorted plan.entries) ⟨"sdk.incremental-plan-order", "entries", []⟩
  checkEntries [] plan.entries
  reject (plan.frontendProviderExecutions != recomputed plan.entries ||
    plan.warmZero != (recomputed plan.entries == 0))
    ⟨"sdk.incremental-plan-accounting", "warm_zero", []⟩
  reject (decide ((digestPlan hash plan.entries plan.frontendProviderExecutions
    plan.warmZero).toOption ≠ some plan.planDigest))
    ⟨"sdk.incremental-plan-digest", "plan_digest", []⟩

/-- The decision on a partition whose prior is valid and its own. -/
def planAgainst (prior current : PartitionState) : PlanEntry :=
  if prior.corruptionDetected || current.corruptionDetected then
    ⟨current.partitionId, .recompute, "sdk.incremental-corruption-detected"⟩
  else if changedReason prior.input current.input ≠ [] then
    ⟨current.partitionId, .recompute, changedReason prior.input current.input⟩
  else if prior.coverageDigest ≠ current.coverageDigest then
    ⟨current.partitionId, .recompute, "sdk.incremental-coverage-changed"⟩
  else if prior.closureDigest ≠ current.closureDigest then
    ⟨current.partitionId, .recompute, "sdk.incremental-closure-changed"⟩
  else ⟨current.partitionId, .reuse, "sdk.incremental-exact-reuse"⟩

/-- The body of the loop of `make_materialization_plan`. -/
def planEntry (candidate : PartitionCandidate) : Result PlanEntry := do
  candidate.current.validate
  match candidate.prior with
  | none => .ok ⟨candidate.current.partitionId, .recompute, "sdk.incremental-no-prior"⟩
  | some prior => do
    prior.validate
    reject (prior.partitionId != candidate.current.partitionId)
      ⟨"sdk.incremental-partition-mismatch", candidate.current.partitionId, []⟩
    .ok (planAgainst prior candidate.current)

/-- The loop of `make_materialization_plan`. -/
def planEntries : List PartitionCandidate → Result (List PlanEntry)
  | [] => .ok []
  | candidate :: rest => do
    let entry ← planEntry candidate
    let entries ← planEntries rest
    .ok (entry :: entries)

/-- What the entries of a plan are sorted by. -/
def entryLess (left right : PlanEntry) : Bool :=
  decide (left.partitionId < right.partitionId)

/-- `make_materialization_plan` -/
def makeMaterializationPlan (hash : Bytes → Bytes) (candidates : List PartitionCandidate) :
    Result MaterializationPlan := do
  reject candidates.isEmpty ⟨"sdk.incremental-candidates-empty", "candidates", []⟩
  let planned ← planEntries candidates
  let entries := sortBy entryLess planned
  reject (entriesRepeat entries) ⟨"sdk.incremental-duplicate-partition", "candidates", []⟩
  let executions := recomputed entries
  let warmZero := executions == 0
  let digest ← digestPlan hash entries executions warmZero
  .ok ⟨entries, executions, warmZero, digest⟩

end Cxxlens.Sdk.Incremental
