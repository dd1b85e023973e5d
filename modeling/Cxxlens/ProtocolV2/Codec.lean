import Cxxlens.ProtocolV2.Cbor.ScanReads
import Cxxlens.ProtocolV2.Cbor.RoundTrip
import Cxxlens.ProtocolV2.Sha256

set_option autoImplicit false

/-! # The frame codec

`codec.cpp`: a frame is a fixed header of 104 big-endian bytes, a control in canonical CBOR and a
payload. The encoder and the decoder share the checks of the header values and of the control;
`finalize` checks both digests. Allocation failures are not modelled. -/

namespace Cxxlens.ProtocolV2

open Sdk (Error Result)

/-! ## Registry and limits -/

/-- `protocol_major` -/
def protocolMajor : UInt16 := 2
/-- `fixed_header_bytes` -/
def fixedHeaderBytes : Nat := 104
/-- `max_control_bytes` -/
def maxControlBytes : SizeT := 65536
/-- `max_payload_bytes` -/
def maxPayloadBytes : SizeT := 16777216
/-- `max_closure_payload_bytes` -/
def maxClosurePayloadBytes : SizeT := 1048576
/-- `max_frame_bytes` -/
def maxFrameBytes : SizeT := 104 + 65536 + 16777216
/-- `heartbeat_message_id` -/
def heartbeatMessageId : UInt16 := 23
/-- `closure_first_message_id` -/
def closureFirstMessageId : UInt16 := 24
/-- `closure_last_message_id` -/
def closureLastMessageId : UInt16 := 29

/-- `message_type`: an enumeration over `std::uint16_t`. The decoder casts every id to it, so a
    message type is an id; the registry gives names to 1 through 29. -/
structure MessageType where
  id : UInt16
  deriving DecidableEq, Repr

/-- `message_type::hello` -/
def MessageType.hello : MessageType := ⟨1⟩
/-- `message_type::task_complete` -/
def MessageType.taskComplete : MessageType := ⟨20⟩
/-- `message_type::task_failed` -/
def MessageType.taskFailed : MessageType := ⟨21⟩

/-- `is_closure_message` -/
def isClosureMessage (type : MessageType) : Bool :=
  decide (closureFirstMessageId ≤ type.id) && decide (type.id ≤ closureLastMessageId)

/-- `is_known_message_id` -/
def isKnownMessageId (id : UInt16) : Bool :=
  decide (1 ≤ id) && decide (id ≤ closureLastMessageId)

/-- `flag_required_extension` -/
def flagRequiredExtension : UInt16 := 1
/-- `flag_optional_extension` -/
def flagOptionalExtension : UInt16 := 2
/-- `flag_compressed_payload` -/
def flagCompressedPayload : UInt16 := 4
/-- `flag_end_of_stream` -/
def flagEndOfStream : UInt16 := 8
/-- `known_flags` -/
def knownFlags : UInt16 :=
  flagRequiredExtension ||| flagOptionalExtension ||| flagCompressedPayload ||| flagEndOfStream

/-- `limits`: "Negotiated limits are checked before any wire allocation." -/
structure Limits where
  minimumMinor : UInt16 := 0
  maximumMinor : UInt16 := 0
  supportedFlags : UInt16 := flagEndOfStream
  maxControlBytes : SizeT := ProtocolV2.maxControlBytes
  maxPayloadBytes : SizeT := ProtocolV2.maxPayloadBytes
  maxFrameBytes : SizeT := ProtocolV2.maxFrameBytes
  deriving DecidableEq, Repr

/-- `frame` -/
structure Frame where
  type : MessageType := .hello
  protocolMajor : UInt16 := ProtocolV2.protocolMajor
  protocolMinor : UInt16 := 0
  flags : UInt16 := 0
  streamId : UInt64 := 1
  sequence : UInt64 := 0
  control : Bytes := []
  payload : Bytes := []
  controlDigest : Digest32 := .zero
  payloadDigest : Digest32 := .zero
  deriving DecidableEq, Repr

/-- `failure` of `codec.cpp` -/
def failure (field detail : Bytes) (code : Bytes := "protocol-v2.header-invalid") : Error :=
  { code := code, field := field, detail := detail }

/-! ## Checks shared by both directions -/

/-- `std::numeric_limits<std::size_t>::max()` -/
def sizeMax : Nat := 2 ^ 64 - 1

/-- `validate_limits` -/
def validateLimits (bound : Limits) : Result Unit :=
  if bound.minimumMinor ≠ 0 ∨ bound.maximumMinor ≠ 0 then
    .error (failure "protocol_minor" "protocol-2.0-only" "protocol-v2.downgrade-rejected")
  else if bound.maxControlBytes = 0 ∨ bound.maxPayloadBytes = 0 ∨
      bound.maxFrameBytes.toNat < fixedHeaderBytes ∨ bound.maxControlBytes > maxControlBytes ∨
      bound.maxPayloadBytes > maxPayloadBytes ∨ bound.maxFrameBytes > maxFrameBytes then
    .error (failure "limits" "outside-protocol-2-bounds" "protocol-v2.resource-limit")
  else if bound.supportedFlags &&& ~~~flagEndOfStream ≠ 0 then
    .error (failure "flags" "unsupported-negotiation" "protocol-v2.unknown-extension")
  else .ok ()

/-- `validate_header_values` -/
def validateHeaderValues (major minor typeId flags : UInt16) (controlSize payloadSize : Nat)
    (bound : Limits) : Result Unit := do
  validateLimits bound
  if major ≠ protocolMajor then
    .error (failure "protocol_major" "downgrade-or-unsupported" "protocol-v2.downgrade-rejected")
  else if minor ≠ 0 then
    .error (failure "protocol_minor" "downgrade-or-unnegotiated" "protocol-v2.downgrade-rejected")
  else
    let knownType := isKnownMessageId typeId
    let requiredExtension := decide (flags &&& flagRequiredExtension ≠ 0)
    let optionalExtension := decide (flags &&& flagOptionalExtension ≠ 0)
    let compressedPayload := decide (flags &&& flagCompressedPayload ≠ 0)
    let endOfStream := decide (flags &&& flagEndOfStream ≠ 0)
    if typeId = heartbeatMessageId ∧ (flags ≠ 0 ∨ payloadSize ≠ 0) then
      .error (failure "payload" "heartbeat-flags-or-payload" "protocol-v2.header-invalid")
    else if requiredExtension then
      .error (failure "flags" "required-extension" "protocol-v2.unknown-required-extension")
    else if flags &&& ~~~knownFlags ≠ 0 then
      .error (failure "flags" "reserved-bit" "protocol-v2.unknown-extension")
    else if compressedPayload then
      .error (failure "flags" "compression-unimplemented" "protocol-v2.unsupported-compression")
    else if optionalExtension ∧ (knownType ∨ endOfStream) then
      .error (failure "flags"
        (if knownType then "optional-known-type" else "optional-end-of-stream"))
    else if typeId = 0 ∨ (¬ knownType ∧ ¬ optionalExtension) then
      .error (failure "message_type" "unknown" "protocol-v2.unknown-message")
    else if endOfStream ∧ bound.supportedFlags &&& flagEndOfStream = 0 then
      .error (failure "flags" "end-of-stream-not-negotiated" "protocol-v2.unknown-extension")
    else if endOfStream ∧ typeId ≠ MessageType.taskComplete.id ∧
        typeId ≠ MessageType.taskFailed.id then
      .error (failure "flags" "end-of-stream-message" "protocol-v2.header-invalid")
    else if controlSize = 0 then
      .error (failure "control" "empty" "protocol-v2.cbor-invalid")
    else if controlSize > bound.maxControlBytes.toNat then
      .error (failure "control" "limit-exceeded" "protocol-v2.resource-limit")
    else if payloadSize > bound.maxPayloadBytes.toNat then
      .error (failure "payload" "limit-exceeded" "protocol-v2.resource-limit")
    else if typeId ≥ closureFirstMessageId ∧ typeId ≤ closureLastMessageId ∧
        payloadSize > maxClosurePayloadBytes.toNat then
      .error (failure "payload" "closure-limit-exceeded" "protocol-v2.resource-limit")
    else if controlSize > 2 ^ 32 - 1 then
      .error (failure "control" "wire-length-overflow" "protocol-v2.resource-limit")
    else if payloadSize > sizeMax - fixedHeaderBytes ∨
        controlSize > sizeMax - fixedHeaderBytes - payloadSize then
      .error (failure "length" "overflow" "protocol-v2.resource-limit")
    else if fixedHeaderBytes + controlSize + payloadSize > bound.maxFrameBytes.toNat then
      .error (failure "frame" "limit-exceeded" "protocol-v2.resource-limit")
    else .ok ()

/-- `scan_error_detail` -/
def scanErrorDetail : Cbor.ScanError → Bytes
  | .none => "none"
  | .emptyOrLimit => "empty-or-limit-exceeded"
  | .truncated => "truncated"
  | .nonShortest => "non-shortest"
  | .indefiniteOrReserved => "indefinite-or-reserved"
  | .depthLimit => "depth-limit"
  | .itemLimit => "item-limit"
  | .arrayShapeLimit => "array-shape-limit"
  | .mapShapeLimit => "map-shape-limit"
  | .textLimitOrUtf8 => "text-limit-or-utf8"
  | .byteStringLimit => "byte-string-limit"
  | .mapKeyNotText => "map-key-not-text"
  | .mapOrderOrDuplicate => "map-order-or-duplicate"
  | .unsupported => "unsupported"
  | .trailingBytes => "trailing-bytes"

/-- `scan_bound` of `validate_canonical_control`: the bounds on closure controls. -/
def closureScanBound (bound : Limits) : Cbor.ScanLimits where
  maxBytes := bound.maxControlBytes
  maxDepth := 2
  maxItems := 96
  maxArrayItems := 0
  maxMapItems := 32
  maxTextBytes := 4096
  maxByteStringBytes := 0
  requireRootMap := true

/-- `cbor_bound` of `validate_canonical_control`: the bounds on all other controls. -/
def controlBound (bound : Limits) : Cbor.Limits where
  maxBytes := bound.maxControlBytes
  maxTextBytes := bound.maxControlBytes
  maxByteStringBytes := bound.maxControlBytes
  maxItems := 65536

/-- `validate_canonical_control` -/
def validateCanonicalControl (type : MessageType) (control : Bytes) (bound : Limits) :
    Result Unit :=
  if isClosureMessage type then
    let scanned := Cbor.scanCanonical control (closureScanBound bound)
    if scanned.error ≠ .none then
      .error (failure "control" (scanErrorDetail scanned.error) "protocol-v2.cbor-invalid")
    else .ok ()
  else
    match Cbor.decode control (controlBound bound) with
    | .error error => .error (failure "control" error.detail "protocol-v2.cbor-invalid")
    | .ok decoded =>
      match Cbor.encode decoded (controlBound bound) with
      | .ok encoded =>
        if encoded.length ≠ control.length ∨ encoded ≠ control then
          .error (failure "control" "non-canonical" "protocol-v2.cbor-invalid")
        else .ok ()
      | .error _ => .error (failure "control" "non-canonical" "protocol-v2.cbor-invalid")

/-- `check_digest` -/
def checkDigest (actual : Bytes) (expected : Digest32) (field : Bytes) : Result Unit :=
  if !digestEqual (sha256 actual) expected then
    .error (failure field "mismatch" "protocol-v2.digest-mismatch")
  else .ok ()

/-! ## Encoding -/

/-- The bytes `CXXP` that start every frame. -/
def magic : Bytes := ascii "CXXP"

/-- `encode_frame` -/
def encodeFrame (value : Frame) (bound : Limits) : Result Bytes := do
  validateHeaderValues value.protocolMajor value.protocolMinor value.type.id value.flags
    value.control.length value.payload.length bound
  validateCanonicalControl value.type value.control bound
  let controlDigest := sha256 value.control
  let payloadDigest := sha256 value.payload
  if (!digestIsZero value.controlDigest && !digestEqual value.controlDigest controlDigest) ||
      (!digestIsZero value.payloadDigest && !digestEqual value.payloadDigest payloadDigest) then
    .error (failure "digest" "caller-supplied-mismatch" "protocol-v2.digest-mismatch")
  else
    .ok (magic ++ BigEndian.encode 2 value.protocolMajor.toNat ++
      BigEndian.encode 2 value.protocolMinor.toNat ++ BigEndian.encode 2 value.type.id.toNat ++
      BigEndian.encode 2 value.flags.toNat ++ BigEndian.encode 8 value.streamId.toNat ++
      BigEndian.encode 8 value.sequence.toNat ++ BigEndian.encode 4 value.control.length ++
      BigEndian.encode 8 value.payload.length ++ controlDigest.bytes ++ payloadDigest.bytes ++
      value.control ++ value.payload)

/-! ## Decoding -/

/-- `read_be` -/
def readBe (input : Bytes) (offset width : Nat) : Nat :=
  BigEndian.decode (Span.slice input offset (offset + width))

/-- `decoded_header` -/
structure DecodedHeader where
  major : UInt16
  minor : UInt16
  typeId : UInt16
  flags : UInt16
  streamId : UInt64
  sequence : UInt64
  controlSize : Nat
  payloadSize : Nat
  totalSize : Nat
  deriving DecidableEq, Repr

/-- `inspect_header` -/
def inspectHeader (input : Bytes) (bound : Limits) : Result DecodedHeader :=
  if input.length < fixedHeaderBytes then .error (failure "header" "truncated")
  else if Span.slice input 0 4 ≠ magic then .error (failure "magic" "mismatch")
  else
    let controlLength := readBe input 28 4
    let payloadLength := readBe input 32 8
    if controlLength > sizeMax - fixedHeaderBytes ∨
        payloadLength > sizeMax - fixedHeaderBytes - controlLength then
      .error (failure "length" "overflow" "protocol-v2.resource-limit")
    else do
      let output : DecodedHeader := {
        major := UInt16.ofNat (readBe input 4 2)
        minor := UInt16.ofNat (readBe input 6 2)
        typeId := UInt16.ofNat (readBe input 8 2)
        flags := UInt16.ofNat (readBe input 10 2)
        streamId := UInt64.ofNat (readBe input 12 8)
        sequence := UInt64.ofNat (readBe input 20 8)
        controlSize := controlLength
        payloadSize := payloadLength
        totalSize := fixedHeaderBytes + controlLength + payloadLength }
      validateHeaderValues output.major output.minor output.typeId output.flags output.controlSize
        output.payloadSize bound
      .ok output

/-- The 32 bytes at an offset as a digest. -/
def digestAt (input : Bytes) (offset : Nat) : Digest32 :=
  if h : (Span.slice input offset (offset + 32)).length = 32 then ⟨_, h⟩ else .zero

/-- `prepared_frame_decode` -/
structure PreparedFrameDecode where
  header : Frame
  controlBytes : Nat
  payloadBytes : Nat
  bound : Limits
  consumed : Bool := false
  deriving DecidableEq, Repr

/-- `prepared_frame_decode::encoded_bytes` -/
def PreparedFrameDecode.encodedBytes (prepared : PreparedFrameDecode) : Nat :=
  fixedHeaderBytes + (prepared.controlBytes + prepared.payloadBytes)

/-- `prepare_frame_header` -/
def prepareFrameHeader (header : Bytes) (bound : Limits) : Result PreparedFrameDecode := do
  let inspected ← inspectHeader header bound
  .ok {
    header := {
      protocolMajor := inspected.major
      protocolMinor := inspected.minor
      type := ⟨inspected.typeId⟩
      flags := inspected.flags
      streamId := inspected.streamId
      sequence := inspected.sequence
      controlDigest := digestAt header 40
      payloadDigest := digestAt header 72 }
    controlBytes := inspected.controlSize
    payloadBytes := inspected.payloadSize
    bound := bound }

/-- `prepared_frame_decode::finalize` -/
def PreparedFrameDecode.finalize (prepared : PreparedFrameDecode) (control payload : Bytes) :
    Result Frame :=
  let header := prepared.header
  if prepared.consumed then .error (failure "prepared-frame" "already-consumed")
  else if control.length ≠ prepared.controlBytes ∨ payload.length ≠ prepared.payloadBytes then
    .error (failure "frame" "body-length-mismatch")
  else do
    validateHeaderValues header.protocolMajor header.protocolMinor header.type.id header.flags
      control.length payload.length prepared.bound
    checkDigest control header.controlDigest "control"
    checkDigest payload header.payloadDigest "payload"
    validateCanonicalControl header.type control prepared.bound
    .ok { header with control := control, payload := payload }

/-- `decode_frame` -/
def decodeFrame (input : Bytes) (bound : Limits) : Result Frame :=
  if input.length < fixedHeaderBytes then .error (failure "header" "truncated")
  else do
    let prepared ← prepareFrameHeader (Span.slice input 0 fixedHeaderBytes) bound
    if prepared.encodedBytes ≠ input.length then .error (failure "frame" "length-mismatch")
    else
      let controlBegin := fixedHeaderBytes
      let payloadBegin := controlBegin + prepared.controlBytes
      prepared.finalize (Span.slice input controlBegin payloadBegin)
        (Span.slice input payloadBegin input.length)

/-- The body of the loop in `decode_frame_stream`: the frame at an offset and the offset behind
    it. -/
def decodeFrameAt (input : Bytes) (bound : Limits) (offset : Nat) : Result (Frame × Nat) :=
  if input.length - offset < fixedHeaderBytes then .error (failure "header" "truncated")
  else do
    let prepared ← prepareFrameHeader (Span.slice input offset (offset + fixedHeaderBytes)) bound
    if prepared.encodedBytes > input.length - offset then
      .error (failure "frame" "length-mismatch")
    else do
      let controlBegin := offset + fixedHeaderBytes
      let payloadBegin := controlBegin + prepared.controlBytes
      let frameEnd := offset + prepared.encodedBytes
      let decoded ← prepared.finalize (Span.slice input controlBegin payloadBegin)
        (Span.slice input payloadBegin frameEnd)
      .ok (decoded, frameEnd)

/-- The loop in `decode_frame_stream`; `budget` is `maximum_frames - output.size()`. -/
def decodeFrames (input : Bytes) (bound : Limits) : Nat → Nat → Result (List Frame)
  | budget, offset =>
    if offset < input.length then
      match budget with
      | 0 => .error (failure "transcript" "frame-count" "protocol-v2.resource-limit")
      | budget + 1 => do
        let (decoded, offset) ← decodeFrameAt input bound offset
        let output ← decodeFrames input bound budget offset
        .ok (decoded :: output)
    else .ok []

/-- `decode_frame_stream` -/
def decodeFrameStream (input : Bytes) (bound : Limits) (maximumFrames : UInt64 := 65536) :
    Result (List Frame) := do
  validateLimits bound
  if maximumFrames = 0 then
    .error (failure "maximum_frames" "zero" "protocol-v2.resource-limit")
  else if input.isEmpty then .error (failure "transcript" "empty")
  else decodeFrames input bound maximumFrames.toNat 0

end Cxxlens.ProtocolV2
