import Cxxlens.ProtocolV2.Guards

set_option autoImplicit false

/-! # Source-closure controls

The typed controls of the messages 24 to 29 (`closure.hpp`), their validators and the map each of
them is written as. The source has every control twice, once with owned strings and once as views
into a control buffer; a view is its bytes here, so the two differ in the counters of a reject only,
which are a map in the owning control and the bytes of a map in the view. -/

namespace Cxxlens.ProtocolV2

/-- `message_type::source_closure_manifest` -/
def MessageType.sourceClosureManifest : MessageType := ⟨24⟩
/-- `message_type::source_closure_blob` -/
def MessageType.sourceClosureBlob : MessageType := ⟨25⟩
/-- `message_type::source_closure_chunk` -/
def MessageType.sourceClosureChunk : MessageType := ⟨26⟩
/-- `message_type::source_closure_seal` -/
def MessageType.sourceClosureSeal : MessageType := ⟨27⟩
/-- `message_type::source_closure_ack` -/
def MessageType.sourceClosureAck : MessageType := ⟨28⟩
/-- `message_type::source_closure_reject` -/
def MessageType.sourceClosureReject : MessageType := ⟨29⟩

end Cxxlens.ProtocolV2

namespace Cxxlens.ProtocolV2.Closure

open Sdk (Error Result)
open Fallible

/-! ## Limits and controls -/

/-- `max_closure_chunk_payload_bytes` -/
def maxClosureChunkPayloadBytes : SizeT := 1048576
/-- `max_closure_resident_transport_bytes` -/
def maxClosureResidentTransportBytes : SizeT := 1310720

/-- `closure_limits` -/
structure ClosureLimits where
  maximumMembers : SizeT := 4096
  maximumBlobs : SizeT := 4096
  maximumManifestBytes : SizeT := 41943040
  maximumBlobBytes : SizeT := 16777216
  maximumUniqueBlobBytes : SizeT := 50331648
  maximumChunkPayloadBytes : SizeT := maxClosureChunkPayloadBytes
  maximumManifestChunks : SizeT := 40
  maximumChunksPerBlob : SizeT := 16
  maximumBlobChunkFrames : SizeT := 4144
  maximumTaskSpoolBytes : SizeT := 92274688
  maximumResidentTransportBytes : SizeT := maxClosureResidentTransportBytes
  deriving DecidableEq, Repr

/-- `manifest_kind` -/
inductive ManifestKind where
  | descriptor
  | chunk
  deriving DecidableEq, Repr

/-- `source_closure_manifest_descriptor` -/
structure SourceClosureManifestDescriptor where
  kind : ManifestKind := .descriptor
  sessionId : Bytes
  taskId : Bytes
  taskV4Digest : Bytes
  closureId : Bytes
  closureDigest : Bytes
  manifestDigest : Bytes
  totalBytes : UInt64
  chunkBytes : UInt64
  chunkCount : UInt64
  deriving DecidableEq, Repr

/-- `source_closure_manifest_chunk` -/
structure SourceClosureManifestChunk where
  kind : ManifestKind := .chunk
  sessionId : Bytes
  taskId : Bytes
  manifestDigest : Bytes
  chunkIndex : UInt64
  offset : UInt64
  byteCount : UInt64
  deriving DecidableEq, Repr

/-- `source_closure_manifest` -/
inductive SourceClosureManifest where
  | descriptor (item : SourceClosureManifestDescriptor)
  | chunk (item : SourceClosureManifestChunk)
  deriving DecidableEq, Repr

/-- `source_closure_blob_descriptor` -/
structure SourceClosureBlobDescriptor where
  sessionId : Bytes
  taskId : Bytes
  closureDigest : Bytes
  blobOrdinal : UInt64
  blobDigest : Bytes
  totalBytes : UInt64
  chunkBytes : UInt64
  chunkCount : UInt64
  deriving DecidableEq, Repr

/-- `source_closure_chunk` -/
structure SourceClosureChunk where
  sessionId : Bytes
  taskId : Bytes
  blobOrdinal : UInt64
  blobDigest : Bytes
  chunkIndex : UInt64
  offset : UInt64
  byteCount : UInt64
  deriving DecidableEq, Repr

/-- `source_closure_seal` -/
structure SourceClosureSeal where
  sessionId : Bytes
  taskId : Bytes
  taskV4Digest : Bytes
  manifestDigest : Bytes
  blobReceiptsDigest : Bytes
  blobCount : UInt64
  totalBytes : UInt64
  closureDigest : Bytes
  transferDigest : Bytes
  deriving DecidableEq, Repr

/-- `source_closure_ack` -/
structure SourceClosureAck where
  sessionId : Bytes
  taskId : Bytes
  closureDigest : Bytes
  transferDigest : Bytes
  spoolReceipt : Bytes
  cleanupOwner : Bytes
  deriving DecidableEq, Repr

/-- `source_closure_reject` and `source_closure_reject_view`: the counters are a map in the one and
    the bytes of a map in the other. -/
structure SourceClosureReject (Counters : Type) where
  sessionId : Bytes
  taskId : Bytes
  failurePhase : Bytes
  reasonCode : Bytes
  observedCounters : Counters
  cleanupReceipt : Bytes

/-- The alternatives of a closure control, owned or viewed. -/
inductive ControlOf (Counters : Type) where
  | manifest (item : SourceClosureManifest)
  | blob (item : SourceClosureBlobDescriptor)
  | chunk (item : SourceClosureChunk)
  | sealed (item : SourceClosureSeal)
  | ack (item : SourceClosureAck)
  | reject (item : SourceClosureReject Counters)

/-- `closure_control` -/
abbrev ClosureControl := ControlOf Cbor.Fields

/-- `closure_control_view` -/
abbrev ClosureControlView := ControlOf Bytes

/-- The message type whose controls hold this alternative. -/
def ControlOf.type {Counters : Type} : ControlOf Counters → MessageType
  | .manifest _ => .sourceClosureManifest
  | .blob _ => .sourceClosureBlob
  | .chunk _ => .sourceClosureChunk
  | .sealed _ => .sourceClosureSeal
  | .ack _ => .sourceClosureAck
  | .reject _ => .sourceClosureReject

/-! ## Field checks -/

/-- The code `failure` falls back to. -/
def protocolStateInvalid : Bytes := "source-closure.protocol-state-invalid"
/-- The code of a malformed control. -/
def manifestInvalid : Bytes := "source-closure.manifest-invalid"
/-- The code of a digest that is malformed or not the expected one. -/
def digestMismatch : Bytes := "source-closure.digest-mismatch"
/-- The code of an exceeded bound. -/
def limitExceeded : Bytes := "source-closure.limit-exceeded"
/-- The code of a chunk out of order. -/
def chunkOrderInvalid : Bytes := "source-closure.chunk-order-invalid"

/-- `failure` of `closure.cpp` -/
def failure (field detail : Bytes) (code : Bytes := protocolStateInvalid) : Error :=
  { code := code, field := field, detail := detail }

/-- `byte_value < 0x20U || byte_value == 0x7fU` -/
def controlCharacter (byte : UInt8) : Bool :=
  decide (byte < 0x20) || decide (byte = 0x7f)

/-- `valid_text` -/
def validText (value field : Bytes) (maximum : Nat := 4096) : Result Unit :=
  if value.isEmpty = true ∨ value.length > maximum ∨ Cbor.validUtf8 value = false then
    .error (failure field "typed-id-or-text" manifestInvalid)
  else if value.any controlCharacter then .error (failure field "control-character" manifestInvalid)
  else .ok ()

/-- One character of `hex64`. -/
def hexDigit (byte : UInt8) : Bool :=
  (decide (0x30 ≤ byte) && decide (byte ≤ 0x39)) || (decide (0x61 ≤ byte) && decide (byte ≤ 0x66))

/-- `hex64` -/
def hex64 (value : Bytes) : Bool :=
  decide (value.length = 64) && value.all hexDigit

/-- A fixed text and 64 hexadecimal digits behind it. -/
def prefixedHex64 (lead value : Bytes) : Bool :=
  lead.isPrefixOf value && hex64 (value.drop lead.length)

/-- `semantic_digest` -/
def semanticDigest : Bytes → Bool := prefixedHex64 "semantic-v2:sha256:"

/-- `closure_id` -/
def closureId : Bytes → Bool := prefixedHex64 "source-closure:semantic-v2:sha256:"

/-- `content_digest` -/
def contentDigest : Bytes → Bool := prefixedHex64 "sha256:"

/-- `valid_semantic` -/
def validSemantic (value field : Bytes) : Result Unit :=
  if semanticDigest value = false then .error (failure field "semantic-digest" digestMismatch)
  else .ok ()

/-- `valid_content` -/
def validContent (value field : Bytes) : Result Unit :=
  if contentDigest value = false then .error (failure field "content-digest" digestMismatch)
  else .ok ()

/-- The loops of the validators over pairs of a field's name and its value. -/
def checkAll (check : Bytes → Bytes → Result Unit) : List (Bytes × Bytes) → Result Unit
  | [] => .ok ()
  | (field, value) :: rest => do
    check value field
    checkAll check rest

/-- `valid_text` at its default maximum. -/
def validId (value field : Bytes) : Result Unit :=
  validText value field

/-- `valid_shape` -/
def validShape (totalBytes chunkBytes chunkCount : UInt64) (maxChunkBytes maxChunks : SizeT)
    (field : Bytes) : Result Unit :=
  if chunkBytes = 0 ∨ chunkBytes > maxChunkBytes then
    .error (failure field "chunk-size" limitExceeded)
  else
    let expected :=
      if totalBytes = 0 then 0
      else totalBytes / chunkBytes + (if totalBytes % chunkBytes = 0 then 0 else 1)
    if expected ≠ chunkCount ∨ chunkCount > maxChunks then
      .error (failure field "chunk-shape" chunkOrderInvalid)
    else .ok ()

/-! ## Validators -/

/-- `validate_manifest_descriptor` -/
def validateManifestDescriptor (value : SourceClosureManifestDescriptor) (bound : ClosureLimits) :
    Result Unit :=
  if value.kind ≠ .descriptor then .error (failure "kind" "descriptor-required" manifestInvalid)
  else do
    checkAll validId [("session_id", value.sessionId), ("task_id", value.taskId),
      ("task_v4_digest", value.taskV4Digest), ("closure_id", value.closureId)]
    if closureId value.closureId = false then
      .error (failure "closure_id" "typed-closure-id" manifestInvalid)
    else do
      checkAll validSemantic [("task_v4_digest", value.taskV4Digest),
        ("closure_digest", value.closureDigest), ("manifest_digest", value.manifestDigest)]
      if value.totalBytes > bound.maximumManifestBytes then
        .error (failure "total_bytes" "limit-exceeded" limitExceeded)
      else
        validShape value.totalBytes value.chunkBytes value.chunkCount
          bound.maximumChunkPayloadBytes bound.maximumManifestChunks "manifest"

/-- `validate_manifest_chunk` -/
def validateManifestChunk (value : SourceClosureManifestChunk) (bound : ClosureLimits) :
    Result Unit :=
  if value.kind ≠ .chunk then .error (failure "kind" "chunk-required" manifestInvalid)
  else do
    checkAll validId [("session_id", value.sessionId), ("task_id", value.taskId)]
    validSemantic value.manifestDigest "manifest_digest"
    if value.byteCount = 0 ∨ value.byteCount > bound.maximumChunkPayloadBytes then
      .error (failure "byte_count" "limit-exceeded" limitExceeded)
    else if value.offset > bound.maximumManifestBytes ∨
        value.byteCount > bound.maximumManifestBytes - value.offset then
      .error (failure "offset" "limit-exceeded" limitExceeded)
    else .ok ()

/-- `validate_blob_descriptor` -/
def validateBlobDescriptor (value : SourceClosureBlobDescriptor) (bound : ClosureLimits) :
    Result Unit := do
  checkAll validId [("session_id", value.sessionId), ("task_id", value.taskId)]
  validSemantic value.closureDigest "closure_digest"
  validContent value.blobDigest "blob_digest"
  if value.blobOrdinal ≥ bound.maximumBlobs ∨ value.totalBytes > bound.maximumBlobBytes ∨
      value.totalBytes > bound.maximumUniqueBlobBytes then
    .error (failure "blob_ordinal" "limit-exceeded" limitExceeded)
  else
    validShape value.totalBytes value.chunkBytes value.chunkCount bound.maximumChunkPayloadBytes
      bound.maximumChunksPerBlob "blob"

/-- `validate_blob_chunk` -/
def validateBlobChunk (value : SourceClosureChunk) (bound : ClosureLimits) : Result Unit := do
  checkAll validId [("session_id", value.sessionId), ("task_id", value.taskId)]
  validContent value.blobDigest "blob_digest"
  if value.blobOrdinal ≥ bound.maximumBlobs ∨ value.byteCount = 0 ∨
      value.byteCount > bound.maximumChunkPayloadBytes ∨ value.offset > bound.maximumBlobBytes ∨
      value.byteCount > bound.maximumBlobBytes - value.offset then
    .error (failure "chunk" "limit-exceeded" limitExceeded)
  else .ok ()

/-- `validate_seal` -/
def validateSeal (value : SourceClosureSeal) (bound : ClosureLimits) : Result Unit := do
  checkAll validId [("session_id", value.sessionId), ("task_id", value.taskId)]
  checkAll validSemantic [("task_v4_digest", value.taskV4Digest),
    ("manifest_digest", value.manifestDigest), ("blob_receipts_digest", value.blobReceiptsDigest),
    ("closure_digest", value.closureDigest), ("transfer_digest", value.transferDigest)]
  if value.blobCount > bound.maximumBlobs ∨ value.totalBytes > bound.maximumTaskSpoolBytes then
    .error (failure "seal" "limit-exceeded" limitExceeded)
  else .ok ()

/-- `validate_ack` -/
def validateAck (value : SourceClosureAck) : Result Unit := do
  checkAll validId [("session_id", value.sessionId), ("task_id", value.taskId),
    ("spool_receipt", value.spoolReceipt), ("cleanup_owner", value.cleanupOwner)]
  checkAll validSemantic [("closure_digest", value.closureDigest),
    ("transfer_digest", value.transferDigest)]

/-- The phases `valid_phase` admits. -/
def failurePhases : List Bytes :=
  ["before-manifest", "manifest-streaming", "manifest-validated", "blob-streaming",
    "closure-sealed", "acknowledged", "local-only"]

/-- The table of `valid_reason`. -/
def reasonCodes : List Bytes :=
  ["source-closure.required-feature-missing", "source-closure.protocol-state-invalid",
    "source-closure.manifest-invalid", "source-closure.blob-order-invalid",
    "source-closure.chunk-order-invalid", "source-closure.chunk-overlap",
    "source-closure.chunk-gap", "source-closure.digest-mismatch", "source-closure.limit-exceeded",
    "source-closure.task-binding-mismatch", "source-closure.session-binding-mismatch",
    "source-closure.replay-invalid", "source-closure.cancelled",
    "source-closure.transfer-timeout", "source-closure.spool-io", "source-closure.cleanup-failed",
    "source-closure.ambient-fallback-denied"]

/-- `validate_reject_view`, which `validate_reject` starts with as well. -/
def validateRejectView {Counters : Type} (value : SourceClosureReject Counters) : Result Unit := do
  checkAll validId [("session_id", value.sessionId), ("task_id", value.taskId),
    ("failure_phase", value.failurePhase), ("reason_code", value.reasonCode),
    ("cleanup_receipt", value.cleanupReceipt)]
  if value.failurePhase ∉ failurePhases ∨ value.reasonCode ∉ reasonCodes then
    .error (failure "failure" "unknown-phase-or-reason" protocolStateInvalid)
  else .ok ()

/-- `std::get_if<std::uint64_t>(&item.second.data) != nullptr` -/
def isUnsigned : Cbor.Value → Bool
  | .unsigned _ => true
  | _ => false

/-- The loop of `validate_reject` over the counters; `keys` are the keys met so far. -/
def validateCounters : List Bytes → Cbor.Fields → Result Unit
  | _, [] => .ok ()
  | keys, (key, value) :: rest =>
    if key ∈ keys ∨ (validText key "observed_counters.key" 128).toBool = false then
      .error (failure "observed_counters" "invalid-key" manifestInvalid)
    else if isUnsigned value = false then
      .error (failure "observed_counters" "uint-required" manifestInvalid)
    else validateCounters (key :: keys) rest

/-- `validate_reject` -/
def validateReject (value : SourceClosureReject Cbor.Fields) : Result Unit := do
  validateRejectView value
  if value.observedCounters.length > 32 then
    .error (failure "observed_counters" "limit-exceeded" limitExceeded)
  else validateCounters [] value.observedCounters

/-! ## Writing a control -/

/-- `map_for` -/
def mapFor (type : MessageType) (control : ClosureControl) (bound : ClosureLimits) :
    Result Cbor.Fields :=
  if type = .sourceClosureManifest then
    match control with
    | .manifest (.descriptor descriptor) => do
      validateManifestDescriptor descriptor bound
      .ok [("kind", .text "descriptor"), ("session_id", .text descriptor.sessionId),
        ("task_id", .text descriptor.taskId), ("task_v4_digest", .text descriptor.taskV4Digest),
        ("closure_id", .text descriptor.closureId),
        ("closure_digest", .text descriptor.closureDigest),
        ("manifest_digest", .text descriptor.manifestDigest),
        ("total_bytes", .unsigned descriptor.totalBytes),
        ("chunk_bytes", .unsigned descriptor.chunkBytes),
        ("chunk_count", .unsigned descriptor.chunkCount)]
    | .manifest (.chunk chunk) => do
      validateManifestChunk chunk bound
      .ok [("kind", .text "chunk"), ("session_id", .text chunk.sessionId),
        ("task_id", .text chunk.taskId), ("manifest_digest", .text chunk.manifestDigest),
        ("chunk_index", .unsigned chunk.chunkIndex), ("offset", .unsigned chunk.offset),
        ("byte_count", .unsigned chunk.byteCount)]
    | _ => .error (failure "control" "type-mismatch")
  else if type = .sourceClosureBlob then
    match control with
    | .blob item => do
      validateBlobDescriptor item bound
      .ok [("session_id", .text item.sessionId), ("task_id", .text item.taskId),
        ("closure_digest", .text item.closureDigest), ("blob_ordinal", .unsigned item.blobOrdinal),
        ("blob_digest", .text item.blobDigest), ("total_bytes", .unsigned item.totalBytes),
        ("chunk_bytes", .unsigned item.chunkBytes), ("chunk_count", .unsigned item.chunkCount)]
    | _ => .error (failure "control" "type-mismatch")
  else if type = .sourceClosureChunk then
    match control with
    | .chunk item => do
      validateBlobChunk item bound
      .ok [("session_id", .text item.sessionId), ("task_id", .text item.taskId),
        ("blob_ordinal", .unsigned item.blobOrdinal), ("blob_digest", .text item.blobDigest),
        ("chunk_index", .unsigned item.chunkIndex), ("offset", .unsigned item.offset),
        ("byte_count", .unsigned item.byteCount)]
    | _ => .error (failure "control" "type-mismatch")
  else if type = .sourceClosureSeal then
    match control with
    | .sealed item => do
      validateSeal item bound
      .ok [("session_id", .text item.sessionId), ("task_id", .text item.taskId),
        ("task_v4_digest", .text item.taskV4Digest),
        ("manifest_digest", .text item.manifestDigest),
        ("blob_receipts_digest", .text item.blobReceiptsDigest),
        ("blob_count", .unsigned item.blobCount), ("total_bytes", .unsigned item.totalBytes),
        ("closure_digest", .text item.closureDigest),
        ("transfer_digest", .text item.transferDigest)]
    | _ => .error (failure "control" "type-mismatch")
  else if type = .sourceClosureAck then
    match control with
    | .ack item => do
      validateAck item
      .ok [("session_id", .text item.sessionId), ("task_id", .text item.taskId),
        ("closure_digest", .text item.closureDigest),
        ("transfer_digest", .text item.transferDigest),
        ("spool_receipt", .text item.spoolReceipt), ("cleanup_owner", .text item.cleanupOwner)]
    | _ => .error (failure "control" "type-mismatch")
  else if type = .sourceClosureReject then
    match control with
    | .reject item => do
      validateReject item
      .ok [("session_id", .text item.sessionId), ("task_id", .text item.taskId),
        ("failure_phase", .text item.failurePhase), ("reason_code", .text item.reasonCode),
        ("observed_counters", .map item.observedCounters),
        ("cleanup_receipt", .text item.cleanupReceipt)]
    | _ => .error (failure "control" "type-mismatch")
  else .error (failure "message_type" "not-closure")

/-- `encode_closure_control` -/
def encodeClosureControl (type : MessageType) (control : ClosureControl) (bound : ClosureLimits) :
    Result Bytes := do
  let fields ← mapFor type control bound
  Cbor.encode (.map fields) {}

end Cxxlens.ProtocolV2.Closure
