import Cxxlens.Sdk.Relation.Descriptor

set_option autoImplicit false

/-! # Values of the NG1 session

Bindings, samples, controls, tokens and receipts with their validation
(`provider_ng1_validation.cpp`, `provider_ng1_transport.cpp`, `provider_runtime_internal.hpp`). Texts are
byte strings, and the digests are computed with the hash function of `Digest`. -/

namespace Cxxlens.Sdk.Provider

/-! ## Bindings -/

/-- `ng1_session_binding` -/
structure SessionBinding where
  providerId : Bytes
  providerVersion : SemanticVersion
  protocolSessionId : Bytes
  taskId : Bytes
  streamId : UInt64
  deriving DecidableEq, Repr

/-- `ng1_resume_binding` -/
structure ResumeBinding where
  providerId : Bytes
  providerVersion : SemanticVersion
  providerBinaryDigest : Bytes
  providerSemanticContractDigest : Bytes
  protocolSessionId : Bytes
  taskId : Bytes
  taskInputDigest : Bytes
  normalizedInvocationDigest : Bytes
  toolchainDigest : Bytes
  environmentDigest : Bytes
  sandboxPolicyDigest : Bytes
  dependencyGroupId : Bytes
  atomicOutputGroupId : Bytes
  batchId : Bytes
  streamId : UInt64
  deriving DecidableEq, Repr

/-- `ng1_spill_binding` -/
structure SpillBinding where
  providerId : Bytes
  protocolSessionId : Bytes
  taskId : Bytes
  dependencyGroupId : Bytes
  atomicOutputGroupId : Bytes
  batchId : Bytes
  streamId : UInt64
  deriving DecidableEq, Repr

/-- `provider_runtime_provenance` -/
structure RuntimeProvenance where
  providerId : Bytes
  providerVersion : SemanticVersion
  providerBinaryDigest : Bytes
  providerSemanticContractDigest : Bytes
  protocolSessionId : Bytes
  taskId : Bytes
  taskInputDigest : Bytes
  normalizedInvocationDigest : Bytes
  toolchainDigest : Bytes
  environmentDigest : Bytes
  sandboxPolicyDigest : Bytes
  dependencyGroupId : Bytes
  atomicOutputGroupId : Bytes
  batchId : Bytes
  streamId : UInt64
  deriving DecidableEq, Repr

/-! ## Heartbeats and progress -/

/-- `ng1_heartbeat_kind` -/
inductive HeartbeatKind where
  | probe
  | ack
  | unnamed (value : UInt8)
  deriving DecidableEq, Repr

/-- `ng1_heartbeat_sample` -/
structure HeartbeatSample where
  schema : Bytes
  binding : SessionBinding
  kind : HeartbeatKind
  heartbeatSequence : UInt64
  providerMonotonicTimeNs : UInt64
  hostReceiptTimeNs : UInt64
  highestContiguousAckedSequence : UInt64
  stagedDigest : Bytes
  deriving DecidableEq, Repr

/-- `ng1_heartbeat_control` -/
structure HeartbeatControl where
  schema : Bytes
  kind : HeartbeatKind
  providerId : Bytes
  providerVersion : SemanticVersion
  protocolSessionId : Bytes
  taskId : Bytes
  streamId : UInt64
  heartbeatSequence : UInt64
  monotonicTimeNs : UInt64
  highestContiguousAckedSequence : UInt64
  stagedDigest : Bytes
  deriving DecidableEq, Repr

/-- `ng1_progress_sample` -/
structure ProgressSample where
  schema : Bytes
  taskId : Bytes
  dependencyGroupId : Bytes
  progressSequence : UInt64
  providerMonotonicTimeNs : UInt64
  hostReceiptTimeNs : UInt64
  completedUnits : UInt64
  totalUnits : UInt64
  deriving DecidableEq, Repr

/-- `ng1_progress_control` -/
structure ProgressControl where
  schema : Bytes
  taskId : Bytes
  dependencyGroupId : Bytes
  progressSequence : UInt64
  monotonicTimeNs : UInt64
  completedUnits : UInt64
  totalUnits : UInt64
  deriving DecidableEq, Repr

/-- `task_accepted_metadata` -/
structure TaskAcceptedMetadata where
  providerId : Bytes
  providerVersion : Bytes
  taskId : Bytes
  deriving DecidableEq, Repr

/-! ## Resume tokens and receipts -/

/-- `ng1_resume_kind` -/
inductive ResumeKind where
  | request
  | accepted
  | rejected
  | unnamed (value : UInt8)
  deriving DecidableEq, Repr

/-- `ng1_resume_token`; `ng1_resume_control` has the same fields. -/
structure ResumeToken where
  schema : Bytes
  kind : ResumeKind
  binding : ResumeBinding
  highestContiguousAckedSequence : UInt64
  stagedDigest : Bytes
  tokenGeneration : UInt64
  tokenDigest : Bytes
  deriving DecidableEq, Repr

/-- `ng1_spill_fsync_receipt` -/
structure SpillFsyncReceipt where
  schema : Bytes
  providerId : Bytes
  protocolSessionId : Bytes
  taskId : Bytes
  streamId : UInt64
  highestContiguousAckedSequence : UInt64
  stagedDigest : Bytes
  spillDigest : Bytes
  totalBytes : UInt64
  totalRecords : UInt64
  fsyncSequence : UInt64
  deriving DecidableEq, Repr

/-- `ng1_spill_resume_frontier` -/
structure SpillResumeFrontier where
  receipt : SpillFsyncReceipt
  resumeGeneration : UInt64
  deriving DecidableEq, Repr

/-- `provider_runtime_receipt` -/
structure RuntimeReceipt where
  rawStdoutByteCount : UInt64
  rawStdoutSha256 : Bytes
  decodedFrameCount : UInt64
  firstFrameSequence : UInt64
  frameTranscriptDigest : Bytes
  sealedTranscriptDigest : Bytes
  provenance : RuntimeProvenance
  deriving DecidableEq, Repr

/-- `ng1_output_validation_receipt` -/
structure OutputValidationReceipt where
  taskId : Bytes
  sealedTranscriptDigest : Bytes
  deriving DecidableEq, Repr

/-- `ng1_replay_validation_receipt` -/
structure ReplayValidationReceipt where
  taskId : Bytes
  sealedTranscriptDigest : Bytes
  runtimeReceipt : RuntimeReceipt
  deriving DecidableEq, Repr

/-! ## Texts -/

/-- `ng1_error` -/
def ng1Error (suffix field : Bytes) (detail : Bytes := []) : Error :=
  { code := ascii "provider." ++ suffix, field := field, detail := detail }

/-- A prefix and 64 digits. -/
def prefixedDigest (marker value : Bytes) : Bool :=
  marker.isPrefixOf value && decide (value.length = marker.length + 64) &&
    (value.drop marker.length).all isLowerHex

/-- `valid_semantic_digest` -/
def validSemanticDigest (value : Bytes) : Bool :=
  prefixedDigest "semantic-v2:sha256:" value

/-- `valid_manifest_content_digest`, and `canonical_digest` of `provider_runtime.cpp` -/
def validManifestContentDigest (value : Bytes) : Bool :=
  prefixedDigest "sha256:" value

/-- `valid_id` -/
def validId (failureCode value field : Bytes) : Result Unit :=
  match validateStrongId value with
  | .error _ => .error (ng1Error failureCode field "strong-id")
  | .ok () => .ok ()

/-- `valid_digest` -/
def validDigest (failureCode value field : Bytes) : Result Unit :=
  reject (!validSemanticDigest value) (ng1Error failureCode field "semantic-v2")

/-- `heartbeat_schema` -/
def heartbeatSchema : Bytes := "cxxlens.provider-control.heartbeat.v1"

/-- `progress_schema` -/
def progressSchema : Bytes := "cxxlens.provider-control.progress.v2"

/-- `resume_schema` -/
def resumeSchema : Bytes := "cxxlens.provider-control.resume.v2"

/-- `spill_fsync_receipt_schema` -/
def spillFsyncReceiptSchema : Bytes := "cxxlens.provider-spill-fsync-receipt.v1"

/-! ## Validation -/

/-- `ng1_session_binding::validate` -/
def SessionBinding.validate (binding : SessionBinding) : Result Unit := do
  reject (binding.providerVersion.major == 0)
    (ng1Error "heartbeat-clock-invalid" "provider_version" "major-zero")
  firstError (fun entry : Bytes × Bytes => validId "heartbeat-clock-invalid" entry.1 entry.2)
    [(binding.providerId, "provider_id"), (binding.protocolSessionId, "protocol_session_id"),
      (binding.taskId, "task_id")]

/-- `ng1_resume_binding::validate` -/
def ResumeBinding.validate (binding : ResumeBinding) : Result Unit := do
  reject (binding.providerVersion.major == 0)
    (ng1Error "resume-token-stale" "provider_version" "major-zero")
  firstError (fun entry : Bytes × Bytes => validId "resume-token-stale" entry.1 entry.2)
    [(binding.providerId, "provider_id"), (binding.protocolSessionId, "protocol_session_id"),
      (binding.taskId, "task_id"), (binding.dependencyGroupId, "dependency_group_id"),
      (binding.atomicOutputGroupId, "atomic_output_group_id"), (binding.batchId, "batch_id")]
  firstError (fun entry : Bytes × Bytes => reject (!validManifestContentDigest entry.1)
      (ng1Error "resume-token-stale" entry.2 "sha256"))
    [(binding.providerBinaryDigest, "provider_binary_digest"),
      (binding.providerSemanticContractDigest, "provider_semantic_contract_digest")]
  firstError (fun entry : Bytes × Bytes => validDigest "resume-token-stale" entry.1 entry.2)
    [(binding.taskInputDigest, "task_input_digest"),
      (binding.normalizedInvocationDigest, "normalized_invocation_digest"),
      (binding.toolchainDigest, "toolchain_digest"),
      (binding.environmentDigest, "environment_digest"),
      (binding.sandboxPolicyDigest, "sandbox_policy_digest")]

/-- `ng1_spill_binding::validate` -/
def SpillBinding.validate (binding : SpillBinding) : Result Unit :=
  firstError (fun entry : Bytes × Bytes => validId "spill-corrupt" entry.1 entry.2)
    [(binding.providerId, "provider_id"), (binding.protocolSessionId, "protocol_session_id"),
      (binding.taskId, "task_id"), (binding.dependencyGroupId, "dependency_group_id"),
      (binding.atomicOutputGroupId, "atomic_output_group_id"), (binding.batchId, "batch_id")]

/-- `ng1_spill_fsync_receipt::validate` -/
def SpillFsyncReceipt.validate (receipt : SpillFsyncReceipt) : Result Unit := do
  reject (receipt.schema != spillFsyncReceiptSchema)
    (ng1Error "resume-token-stale" "schema" "unexpected")
  firstError (fun entry : Bytes × Bytes =>
      reject (!(validId "resume-token-stale" entry.1 entry.2).isOk)
        (ng1Error "resume-token-stale" entry.2 "identity"))
    [(receipt.providerId, "provider_id"), (receipt.protocolSessionId, "protocol_session_id"),
      (receipt.taskId, "task_id")]
  validDigest "resume-token-stale" receipt.stagedDigest "staged_digest"
  validDigest "resume-token-stale" receipt.spillDigest "spill_digest"
  reject (receipt.fsyncSequence == 0) (ng1Error "resume-token-stale" "fsync_sequence" "zero")

/-- `ng1_spill_resume_frontier::validate` -/
def SpillResumeFrontier.validate (frontier : SpillResumeFrontier) : Result Unit := do
  frontier.receipt.validate
  reject (frontier.resumeGeneration == 0)
    (ng1Error "resume-token-stale" "resume_generation" "zero")

/-- `transport_error` -/
def transportError (field detail : Bytes) : Error :=
  { code := "provider.protocol-state-invalid", field := field, detail := detail }

/-- `validate_heartbeat_control` -/
def HeartbeatControl.validate (control : HeartbeatControl) : Result Unit := do
  reject (control.schema != heartbeatSchema) (transportError "schema" "heartbeat-schema")
  reject (control.kind != .probe && control.kind != .ack) (transportError "kind" "heartbeat-enum")
  SessionBinding.validate ⟨control.providerId, control.providerVersion, control.protocolSessionId,
    control.taskId, control.streamId⟩
  reject (!validSemanticDigest control.stagedDigest)
    (transportError "staged_digest" "semantic-digest")

/-- `ng1_heartbeat_control::to_validation_sample` -/
def HeartbeatControl.toValidationSample (control : HeartbeatControl) (hostReceiptTimeNs : UInt64) :
    Result HeartbeatSample := do
  control.validate
  .ok { schema := control.schema
        binding := ⟨control.providerId, control.providerVersion, control.protocolSessionId,
          control.taskId, control.streamId⟩
        kind := control.kind
        heartbeatSequence := control.heartbeatSequence
        providerMonotonicTimeNs := control.monotonicTimeNs
        hostReceiptTimeNs := hostReceiptTimeNs
        highestContiguousAckedSequence := control.highestContiguousAckedSequence
        stagedDigest := control.stagedDigest }

/-- `validate_id` -/
def validateTransportId (value field : Bytes) : Result Unit :=
  match validateStrongId value with
  | .error _ => .error (transportError field "typed-id")
  | .ok () => .ok ()

/-- `validate_progress_control` -/
def ProgressControl.validate (control : ProgressControl) : Result Unit := do
  reject (control.schema != progressSchema) (transportError "schema" "progress-schema")
  validateTransportId control.taskId "task_id"
  validateTransportId control.dependencyGroupId "dependency_group_id"
  reject (control.totalUnits == 0 || decide (control.completedUnits > control.totalUnits))
    (transportError "completed_units" "progress-range")

/-- `ng1_progress_control::to_validation_sample` -/
def ProgressControl.toValidationSample (control : ProgressControl) (hostReceiptTimeNs : UInt64) :
    Result ProgressSample := do
  control.validate
  .ok { schema := control.schema
        taskId := control.taskId
        dependencyGroupId := control.dependencyGroupId
        progressSequence := control.progressSequence
        providerMonotonicTimeNs := control.monotonicTimeNs
        hostReceiptTimeNs := hostReceiptTimeNs
        completedUnits := control.completedUnits
        totalUnits := control.totalUnits }

/-- `provider_runtime_receipt::validate` -/
def RuntimeReceipt.validate (receipt : RuntimeReceipt) : Result Unit :=
  reject (receipt.rawStdoutByteCount == 0 || !validManifestContentDigest receipt.rawStdoutSha256 ||
      receipt.decodedFrameCount == 0 || !validSemanticDigest receipt.frameTranscriptDigest ||
      !validSemanticDigest receipt.sealedTranscriptDigest || receipt.provenance.taskId.isEmpty ||
      receipt.provenance.taskId.contains 0)
    (transportError "runtime-receipt" "identity-incomplete")

/-! ## Token digests -/

section Digests

variable (hash : Bytes → Bytes)

/-- `resume_kind_text` -/
def resumeKindText : ResumeKind → Bytes
  | .request => "request"
  | .accepted => "accepted"
  | .rejected => "rejected"
  | .unnamed _ => []

/-- `canonical_u64` -/
def canonicalU64 (value : UInt64) : CanonicalValue :=
  .fromBytes (BigEndian.encode 8 value.toNat)

/-- `semantic_tuple_digest` -/
def semanticTupleDigest (domain : Bytes) (fields : List CanonicalValue) : Result Bytes := do
  let encoded ← CanonicalValue.canonicalBinary (.fromTuple fields)
  semanticDigest hash domain encoded

/-- The fields a token digest covers. -/
def ResumeToken.fields (token : ResumeToken) : List CanonicalValue :=
  [.fromString token.schema, .fromString (resumeKindText token.kind),
    .fromString token.binding.providerId, .fromString token.binding.providerVersion.string,
    .fromString token.binding.providerBinaryDigest,
    .fromString token.binding.providerSemanticContractDigest,
    .fromString token.binding.protocolSessionId, .fromString token.binding.taskId,
    .fromString token.binding.taskInputDigest, .fromString token.binding.normalizedInvocationDigest,
    .fromString token.binding.toolchainDigest, .fromString token.binding.environmentDigest,
    .fromString token.binding.sandboxPolicyDigest, .fromString token.binding.dependencyGroupId,
    .fromString token.binding.atomicOutputGroupId, .fromString token.binding.batchId,
    canonicalU64 token.binding.streamId, canonicalU64 token.highestContiguousAckedSequence,
    .fromString token.stagedDigest, canonicalU64 token.tokenGeneration]

/-- `ng1_resume_token_digest` -/
def resumeTokenDigest (token : ResumeToken) : Result Bytes := do
  reject (token.schema != resumeSchema) (ng1Error "resume-replay-invalid" "schema" "unexpected")
  token.binding.validate
  reject (token.kind != .request && token.kind != .accepted && token.kind != .rejected)
    (ng1Error "resume-replay-invalid" "kind" "unknown")
  validDigest "resume-replay-invalid" token.stagedDigest "staged_digest"
  reject (token.tokenGeneration == 0) (ng1Error "resume-replay-invalid" "token_generation" "zero")
  semanticTupleDigest hash "cxxlens.provider-resume-token.v1" token.fields

/-- `ng1_resume_control::to_validation_token` -/
def ResumeToken.toValidationToken (control : ResumeToken) : Result ResumeToken := do
  let expected ← resumeTokenDigest hash control
  if control.tokenDigest ≠ expected then
    .error (ng1Error "resume-replay-invalid" "token_digest" "projection-mismatch")
  else .ok control

end Digests

end Cxxlens.Sdk.Provider
