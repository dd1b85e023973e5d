import Cxxlens.ProtocolV2.Cbor.Head
import Cxxlens.Sdk.Provider.Values

set_option autoImplicit false

/-! # Spill records and prefixes

The records of a spill object, their wire form (`provider_ng1_spill_port_internal.cpp`) and the
prefix state that admits them in order (`provider_ng1_validation.cpp`). A record on the wire is a
deterministic CBOR map of eleven fields behind its length in eight bytes. -/

namespace Cxxlens.Sdk.Provider

open Sorting (sortBy shortlexLess)
open ProtocolV2 (Cbor.head Cbor.headAt)

/-! ## Records -/

/-- `ng1_spill_record` -/
structure SpillRecord where
  schema : Bytes
  recordOrdinal : UInt64
  taskId : Bytes
  dependencyGroupId : Bytes
  atomicOutputGroupId : Bytes
  batchId : Bytes
  streamId : UInt64
  sequence : UInt64
  payloadBytes : Bytes
  payloadDigest : Bytes
  recordDigest : Bytes
  deriving DecidableEq, Repr

/-- `spill_schema` -/
def spillSchema : Bytes := "cxxlens.provider-spill-record.v1"

/-- `ng1_spill_maximum_record_bytes` -/
def spillMaximumRecordBytes : Nat := 16 * 1024 * 1024

/-- `ng1_spill_maximum_total_bytes` -/
def spillMaximumTotalBytes : Nat := 64 * 1024 * 1024

/-- `ng1_spill_maximum_records` -/
def spillMaximumRecords : Nat := 65536

/-- `spill_length_prefix_bytes` -/
def spillLengthPrefixBytes : Nat := 8

/-- `port_error` -/
def portError (field detail : Bytes) : Error :=
  { code := "provider.recovery-failed", field := field, detail := detail }

/-- `corrupt_error` -/
def corruptError (field detail : Bytes) : Error :=
  { code := "provider.spill-corrupt", field := field, detail := detail }

/-- `decoded_scalar`: a field value on the wire. -/
inductive WireScalar where
  | uint (value : UInt64)
  | text (value : Bytes)
  | bytes (value : Bytes)
  deriving DecidableEq, Repr

/-- The eleven fields of a record, as the source lists them three times. -/
def SpillRecord.wireFields (record : SpillRecord) : List (Bytes × WireScalar) :=
  [("schema", .text record.schema), ("record_ordinal", .uint record.recordOrdinal),
    ("task_id", .text record.taskId), ("dependency_group_id", .text record.dependencyGroupId),
    ("atomic_output_group_id", .text record.atomicOutputGroupId),
    ("batch_id", .text record.batchId), ("stream_id", .uint record.streamId),
    ("sequence", .uint record.sequence), ("payload_bytes", .bytes record.payloadBytes),
    ("payload_digest", .text record.payloadDigest), ("record_digest", .text record.recordDigest)]

/-! ## Sizes -/

/-- `cbor_head_bytes` and `encoded_cbor_head_bytes` -/
def cborHeadBytes (value : Nat) : Nat :=
  if value < 24 then 1 else if value ≤ 0xff then 2 else if value ≤ 0xffff then 3
  else if value ≤ 0xffffffff then 5 else 9

/-- `checked_spill_size_add` and `checked_wire_add` -/
def checkedSizeAdd (left right : Nat) (field : Bytes) : Result Nat :=
  if right > 2 ^ 64 - 1 - left then .error (corruptError field "size-overflow")
  else .ok (left + right)

/-- `cbor_text_bytes`, `cbor_bytes_bytes` and `encoded_string_wire_bytes` -/
def cborTextBytes (value field : Bytes) : Result Nat :=
  checkedSizeAdd (cborHeadBytes value.length) value.length field

/-- The wire size of a field value. -/
def WireScalar.wireBytes (field : Bytes) : WireScalar → Result Nat
  | .uint value => .ok (cborHeadBytes value.toNat)
  | .text value => cborTextBytes value field
  | .bytes value => cborTextBytes value field

/-- `add_text_pair`, `add_uint_pair` and `add_bytes_pair` -/
def addPair (total : Nat) (field : Bytes × WireScalar) : Result Nat := do
  let keyBytes ← cborTextBytes field.1 "record-key"
  let valueBytes ← field.2.wireBytes field.1
  let total ← checkedSizeAdd total keyBytes field.1
  checkedSizeAdd total valueBytes field.1

/-- `spill_record_wire_bytes` -/
def spillRecordWireBytes (record : SpillRecord) : Result Nat :=
  record.wireFields.foldlM addPair (cborHeadBytes 11 + spillLengthPrefixBytes)

/-- `validate_spill_record_wire_quota` -/
def validateSpillRecordWireQuota (record : SpillRecord) : Result Unit := do
  let total ← record.wireFields.foldlM addPair (spillLengthPrefixBytes + cborHeadBytes 11)
  reject (decide (total > spillMaximumRecordBytes)) (corruptError "record_bytes" "record-quota")

/-! ## Digests -/

section Digests

variable (hash : Bytes → Bytes)

/-- `ng1_spill_payload_digest` -/
def spillPayloadDigest (payload : Bytes) : Result Bytes :=
  semanticDigest hash "cxxlens.provider-spill-payload.v1" payload

/-- The fields a record digest covers. -/
def SpillRecord.digestFields (record : SpillRecord) : List CanonicalValue :=
  [.fromString record.schema, canonicalU64 record.recordOrdinal, .fromString record.taskId,
    .fromString record.dependencyGroupId, .fromString record.atomicOutputGroupId,
    .fromString record.batchId, canonicalU64 record.streamId, canonicalU64 record.sequence,
    .fromBytes record.payloadBytes, .fromString record.payloadDigest]

/-- `ng1_spill_record_digest` -/
def spillRecordDigest (record : SpillRecord) : Result Bytes := do
  reject (record.schema != spillSchema) (ng1Error "spill-corrupt" "schema" "unexpected")
  firstError (fun entry : Bytes × Bytes => validId "spill-corrupt" entry.1 entry.2)
    [(record.taskId, "task_id"), (record.dependencyGroupId, "dependency_group_id"),
      (record.atomicOutputGroupId, "atomic_output_group_id"), (record.batchId, "batch_id")]
  let expected ← spillPayloadDigest hash record.payloadBytes
  reject (record.payloadDigest != expected) (ng1Error "spill-corrupt" "payload_digest" "mismatch")
  semanticTupleDigest hash "cxxlens.provider-spill-record.v1" record.digestFields

end Digests

/-! ## Prefixes -/

/-- `ng1_spill_prefix_state` -/
structure SpillPrefixState where
  binding : SpillBinding
  recordDigests : List Bytes := []
  totalBytes : UInt64 := 0
  nextRecordOrdinal : UInt64 := 0
  nextSequence : UInt64 := 0
  deriving DecidableEq, Repr

/-- `ng1_spill_prefix_state::total_records` -/
def SpillPrefixState.totalRecords (state : SpillPrefixState) : UInt64 :=
  UInt64.ofNat state.recordDigests.length

/-- `ng1_spill_prefix_state::create` -/
def SpillPrefixState.create (binding : SpillBinding) : Result SpillPrefixState := do
  binding.validate
  .ok { binding := binding }

section Prefix

variable (hash : Bytes → Bytes)

/-- `ng1_spill_prefix_state::append` -/
def SpillPrefixState.append (state : SpillPrefixState) (record : SpillRecord) :
    Result SpillPrefixState := do
  reject (decide (state.recordDigests.length ≥ spillMaximumRecords))
    (ng1Error "spill-corrupt" "record_ordinal" "record-quota")
  reject (record.recordOrdinal != state.nextRecordOrdinal)
    (ng1Error "spill-corrupt" "record_ordinal" "non-contiguous")
  reject (record.sequence != state.nextSequence)
    (ng1Error "spill-corrupt" "sequence" "non-contiguous")
  reject (record.taskId != state.binding.taskId ||
      record.dependencyGroupId != state.binding.dependencyGroupId ||
      record.atomicOutputGroupId != state.binding.atomicOutputGroupId ||
      record.batchId != state.binding.batchId || record.streamId != state.binding.streamId)
    (ng1Error "spill-corrupt" "binding" "mismatch")
  let expected ← spillRecordDigest hash record
  reject (record.recordDigest != expected) (ng1Error "spill-corrupt" "record_digest" "mismatch")
  let wireBytes ← spillRecordWireBytes record
  reject (decide (wireBytes > spillMaximumRecordBytes))
    (ng1Error "spill-corrupt" "record_bytes" "record-quota")
  reject (decide (UInt64.ofNat wireBytes > UInt64.ofNat spillMaximumTotalBytes - state.totalBytes))
    (ng1Error "spill-corrupt" "total_bytes" "total-quota")
  .ok { state with
    recordDigests := state.recordDigests ++ [record.recordDigest]
    totalBytes := state.totalBytes + UInt64.ofNat wireBytes
    nextRecordOrdinal := state.nextRecordOrdinal + 1
    nextSequence := state.nextSequence + 1 }

/-- `ng1_spill_prefix_state::validate_ack_frontier` -/
def SpillPrefixState.validateAckFrontier (state : SpillPrefixState)
    (highestContiguousAckedSequence : UInt64) : Result Unit :=
  reject (state.recordDigests.isEmpty || decide (highestContiguousAckedSequence ≥ state.nextSequence))
    (ng1Error "spill-corrupt" "highest_contiguous_acked_sequence" "not-in-prefix")

/-- `ng1_spill_prefix_state::spill_digest` -/
def SpillPrefixState.spillDigest (state : SpillPrefixState) : Result Bytes :=
  semanticTupleDigest hash "cxxlens.provider-spill-prefix.v1"
    (state.recordDigests.map .fromString)

/-- `ng1_spill_prefix_state::observe_host_fsync` -/
def SpillPrefixState.observeHostFsync (state : SpillPrefixState)
    (highestContiguousAckedSequence : UInt64) (stagedDigest : Bytes) (fsyncSequence : UInt64) :
    Result SpillFsyncReceipt := do
  reject (!validSemanticDigest stagedDigest) (ng1Error "spill-corrupt" "staged_digest" "semantic-v2")
  state.validateAckFrontier highestContiguousAckedSequence
  reject (fsyncSequence == 0) (ng1Error "spill-corrupt" "fsync_sequence" "zero")
  let prefixDigest ← state.spillDigest hash
  let receipt : SpillFsyncReceipt :=
    { schema := spillFsyncReceiptSchema
      providerId := state.binding.providerId
      protocolSessionId := state.binding.protocolSessionId
      taskId := state.binding.taskId
      streamId := state.binding.streamId
      highestContiguousAckedSequence := highestContiguousAckedSequence
      stagedDigest := stagedDigest
      spillDigest := prefixDigest
      totalBytes := state.totalBytes
      totalRecords := state.totalRecords
      fsyncSequence := fsyncSequence }
  reject (!receipt.validate.isOk) (ng1Error "spill-corrupt" "receipt" "invalid")
  .ok receipt

end Prefix

/-! ## Encoding -/

/-- `encoded_field` -/
structure EncodedField where
  key : Bytes
  value : Bytes
  deriving DecidableEq, Repr

/-- `cbor_text` -/
def cborText (value field : Bytes) : Result Bytes :=
  if (validateUtf8Text value).isOk then .ok (ProtocolV2.Cbor.encodedText value)
  else .error (corruptError field "invalid-utf8")

/-- `cbor_bytes` -/
def cborBytes (value : Bytes) : Bytes :=
  ProtocolV2.Cbor.head .byteString value.length ++ value

/-- `add_text`, `add_uint` and `add_bytes` -/
def encodeField (field : Bytes × WireScalar) : Result EncodedField := do
  let key ← cborText field.1 "record-key"
  match field.2 with
  | .uint value => .ok ⟨key, ProtocolV2.Cbor.head .unsignedInteger value.toNat⟩
  | .text value => do
    let encoded ← cborText value field.1
    .ok ⟨key, encoded⟩
  | .bytes value => .ok ⟨key, cborBytes value⟩

/-- The CBOR map the encoder writes for a list of fields. -/
def recordBody (fields : List EncodedField) : Bytes :=
  let sorted := sortBy (fun left right => shortlexLess left.key right.key) fields
  ProtocolV2.Cbor.head .map sorted.length ++ sorted.flatMap fun field => field.key ++ field.value

section Codec

variable (hash : Bytes → Bytes)

/-- `encode_spill_record` -/
def encodeSpillRecord (record : SpillRecord) : Result Bytes := do
  reject (record.schema != spillSchema) (corruptError "schema" "unexpected")
  validateSpillRecordWireQuota record
  let _ ← spillRecordDigest hash record
  let fields ← record.wireFields.mapM encodeField
  let body := recordBody fields
  reject (decide (body.length > spillMaximumRecordBytes - spillLengthPrefixBytes))
    (corruptError "record_bytes" "record-quota")
  .ok (BigEndian.encode spillLengthPrefixBytes body.length ++ body)

/-! ## Decoding -/

/-- `decode_argument`, with the initial byte read in front of it. -/
def decodeHead (input : Bytes) (offset : Nat) : Result ProtocolV2.Cbor.Head :=
  (ProtocolV2.Cbor.headAt true input offset).mapError fun
    | .truncatedHead => corruptError "cbor" "truncated"
    | .indefiniteOrReserved => corruptError "cbor" "truncated-or-indefinite"
    | .truncatedArgument => corruptError "cbor" "truncated-or-indefinite"
    | .nonShortest => corruptError "cbor" "non-shortest"

/-- `decode_scalar` -/
def decodeScalar (input : Bytes) (offset : Nat) : Result (WireScalar × Nat) := do
  let parsed ← decodeHead input offset
  if parsed.kind = .unsignedInteger then .ok (.uint (UInt64.ofNat parsed.argument), parsed.next)
  else do
    reject (decide (parsed.argument > input.length - parsed.next))
      (corruptError "cbor" "value-length")
    let last := parsed.next + parsed.argument
    let value := Span.slice input parsed.next last
    match parsed.kind with
    | .text => do
      reject (!(validateUtf8Text value).isOk) (corruptError "cbor" "invalid-utf8")
      .ok (.text value, last)
    | .byteString => .ok (.bytes value, last)
    | _ => .error (corruptError "cbor" "scalar-type")

/-- `decoded_map` -/
abbrev DecodedMap := List (Bytes × WireScalar)

/-- `decoded_map::find` -/
def DecodedMap.find (fields : DecodedMap) (name : Bytes) : Option WireScalar :=
  (fields.find? fun field => field.1 == name).map Prod.snd

/-- The loop of `decode_map`: the fields so far and the encoded key before them. -/
def decodeEntries (input : Bytes) :
    Nat → Nat → Bytes → DecodedMap → Result (DecodedMap × Nat)
  | 0, offset, _, output => .ok (output, offset)
  | count + 1, offset, previousKey, output =>
    match decodeScalar input offset with
    | .ok (.text key, valueOffset) => do
      let encodedKey := Span.slice input offset valueOffset
      reject (!previousKey.isEmpty && !shortlexLess previousKey encodedKey)
        (corruptError "cbor" "map-order-or-duplicate")
      let (value, next) ← decodeScalar input valueOffset
      reject (output.find key).isSome (corruptError key "duplicate-key")
      decodeEntries input count next encodedKey (output ++ [(key, value)])
    | _ => .error (corruptError "cbor" "map-key-type")

/-- `decode_map` -/
def decodeMap (input : Bytes) : Result DecodedMap := do
  reject input.isEmpty (corruptError "cbor" "empty")
  -- The major type is checked before the argument is read.
  reject (input.head?.any fun initial => ProtocolV2.Cbor.Major.ofInitial initial != .map)
    (corruptError "cbor" "map-type")
  let count ← decodeHead input 0
  reject (count.argument != 11) (corruptError "cbor" "field-count")
  let (output, offset) ← decodeEntries input count.argument count.next [] []
  reject (offset != input.length) (corruptError "cbor" "trailing")
  .ok output

/-- `map_field<std::uint64_t>` -/
def uintField (fields : DecodedMap) (name : Bytes) : Result UInt64 :=
  match fields.find name with
  | none => .error (corruptError name "missing-field")
  | some (.uint value) => .ok value
  | some _ => .error (corruptError name "field-type")

/-- `map_field<std::string>` -/
def textField (fields : DecodedMap) (name : Bytes) : Result Bytes :=
  match fields.find name with
  | none => .error (corruptError name "missing-field")
  | some (.text value) => .ok value
  | some _ => .error (corruptError name "field-type")

/-- `map_field<std::span<const std::byte>>` -/
def bytesField (fields : DecodedMap) (name : Bytes) : Result Bytes :=
  match fields.find name with
  | none => .error (corruptError name "missing-field")
  | some (.bytes value) => .ok value
  | some _ => .error (corruptError name "field-type")

/-- `decode_spill_record` -/
def decodeSpillRecord (body : Bytes) : Result SpillRecord := do
  let fields ← decodeMap body
  let schema ← textField fields "schema"
  let recordOrdinal ← uintField fields "record_ordinal"
  let taskId ← textField fields "task_id"
  let dependencyGroupId ← textField fields "dependency_group_id"
  let atomicOutputGroupId ← textField fields "atomic_output_group_id"
  let batchId ← textField fields "batch_id"
  let streamId ← uintField fields "stream_id"
  let sequence ← uintField fields "sequence"
  let payloadBytes ← bytesField fields "payload_bytes"
  let payloadDigest ← textField fields "payload_digest"
  let recordDigest ← textField fields "record_digest"
  reject (schema != spillSchema) (corruptError "schema" "unexpected")
  reject (spillPayloadDigest hash payloadBytes != .ok payloadDigest)
    (corruptError "payload_digest" "mismatch")
  let output : SpillRecord :=
    { schema, recordOrdinal, taskId, dependencyGroupId, atomicOutputGroupId, batchId, streamId,
      sequence, payloadBytes, payloadDigest, recordDigest }
  reject (spillRecordDigest hash output != .ok recordDigest)
    (corruptError "record_digest" "mismatch")
  .ok output

/-- `decode_framed_record`: the record and the offset after it. -/
def decodeFramedRecord (bytes : Bytes) (offset : Nat) : Result (SpillRecord × Nat) := do
  reject (decide (offset > bytes.length) || decide (bytes.length - offset < spillLengthPrefixBytes))
    (corruptError "framing" "truncated-length-prefix")
  let length := BigEndian.decode (Span.slice bytes offset (offset + spillLengthPrefixBytes))
  reject (length == 0 || decide (length > spillMaximumRecordBytes - spillLengthPrefixBytes))
    (corruptError "record_bytes" "record-quota")
  let begins := offset + spillLengthPrefixBytes
  reject (decide (length > bytes.length - begins)) (corruptError "framing" "torn-last-record")
  let record ← decodeSpillRecord hash (Span.slice bytes begins (begins + length))
  .ok (record, begins + length)

/-- The loop of `ng1_spill_staging_session::recover`. A record takes nine bytes at least, so the
    bytes that are left bound the rounds. -/
def recoverRecords (bytes : Bytes) : Nat → Nat → SpillPrefixState → Result SpillPrefixState
  | rounds, offset, recovered =>
    if offset < bytes.length then
      match rounds with
      | 0 => .error (corruptError "framing" "torn-last-record")
      | rounds + 1 => do
        let (record, next) ← decodeFramedRecord hash bytes offset
        let recovered ← recovered.append hash record
        recoverRecords bytes rounds next recovered
    else .ok recovered

/-- What `ng1_spill_staging_session::recover` makes of the bytes of an object. -/
def recoverPrefix (binding : SpillBinding) (raw : Bytes) : Result SpillPrefixState := do
  let recovered ← SpillPrefixState.create binding
  let recovered ← recoverRecords hash raw raw.length 0 recovered
  reject (recovered.totalBytes != UInt64.ofNat raw.length)
    (corruptError "total_bytes" "framing-mismatch")
  .ok recovered

end Codec

end Cxxlens.Sdk.Provider
