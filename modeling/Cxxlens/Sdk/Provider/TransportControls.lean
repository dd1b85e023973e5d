import Cxxlens.Sdk.Provider.ColumnChunk
import Cxxlens.Sdk.Provider.TransportMap
import Cxxlens.Sdk.Provider.TransportVersion

set_option autoImplicit false

/-! # Controls of the NG1 transport

Heartbeats, progress and resume controls as CBOR maps (`provider_ng1_transport.cpp`). A control is
decoded from what it encodes to, and from nothing else; its identifiers and digests are short enough
for the bound the decoder puts on its input. -/

namespace Cxxlens.Sdk.Provider.Transport

open Fallible Sorting ProtocolV2.Cbor
open ProtocolV2 (Digest32)

/-! ## Encoding -/

/-- A string as a scalar; none is longer than its size can say. -/
def textOf (value : Bytes) : Text :=
  ⟨value.take (2 ^ 64 - 1), by rw [List.length_take]; omega⟩

/-- `text_value` -/
def textValue (key value : Bytes) : Bytes × CborScalar :=
  (key, .text (textOf value))

/-- `uint_value` -/
def uintValue (key : Bytes) (value : UInt64) : Bytes × CborScalar :=
  (key, .number value)

/-- `heartbeat_kind_text` -/
def heartbeatKindText : HeartbeatKind → Bytes
  | .probe => "probe"
  | .ack => "ack"
  | .unnamed _ => []

/-- The eleven fields of a heartbeat. -/
def heartbeatFields (value : HeartbeatControl) : CborFields :=
  [textValue "schema" value.schema,
    textValue "kind" (heartbeatKindText value.kind),
    textValue "provider_id" value.providerId,
    textValue "provider_version" value.providerVersion.string,
    textValue "protocol_session_id" value.protocolSessionId,
    textValue "task_id" value.taskId,
    uintValue "stream_id" value.streamId,
    uintValue "heartbeat_sequence" value.heartbeatSequence,
    uintValue "monotonic_time_ns" value.monotonicTimeNs,
    uintValue "highest_contiguous_acked_sequence" value.highestContiguousAckedSequence,
    textValue "staged_digest" value.stagedDigest]

/-- `encode_ng1_heartbeat_control` -/
def encodeHeartbeatControl (value : HeartbeatControl) : Result Bytes := do
  value.validate
  encodeCborMap (heartbeatFields value)

/-- The seven fields of a progress control. -/
def progressFields (value : ProgressControl) : CborFields :=
  [textValue "schema" value.schema,
    textValue "task_id" value.taskId,
    textValue "dependency_group_id" value.dependencyGroupId,
    uintValue "progress_sequence" value.progressSequence,
    uintValue "monotonic_time_ns" value.monotonicTimeNs,
    uintValue "completed_units" value.completedUnits,
    uintValue "total_units" value.totalUnits]

/-- `encode_ng1_progress_control` -/
def encodeProgressControl (value : ProgressControl) : Result Bytes := do
  value.validate
  encodeCborMap (progressFields value)

/-- The twenty-one fields of a resume control. -/
def resumeFields (value : ResumeToken) : CborFields :=
  [textValue "schema" value.schema,
    textValue "kind" (resumeKindText value.kind),
    textValue "provider_id" value.binding.providerId,
    textValue "provider_version" value.binding.providerVersion.string,
    textValue "provider_binary_digest" value.binding.providerBinaryDigest,
    textValue "provider_semantic_contract_digest" value.binding.providerSemanticContractDigest,
    textValue "protocol_session_id" value.binding.protocolSessionId,
    textValue "task_id" value.binding.taskId,
    textValue "task_input_digest" value.binding.taskInputDigest,
    textValue "normalized_invocation_digest" value.binding.normalizedInvocationDigest,
    textValue "toolchain_digest" value.binding.toolchainDigest,
    textValue "environment_digest" value.binding.environmentDigest,
    textValue "sandbox_policy_digest" value.binding.sandboxPolicyDigest,
    textValue "dependency_group_id" value.binding.dependencyGroupId,
    textValue "atomic_output_group_id" value.binding.atomicOutputGroupId,
    textValue "batch_id" value.binding.batchId,
    uintValue "stream_id" value.binding.streamId,
    uintValue "highest_contiguous_acked_sequence" value.highestContiguousAckedSequence,
    textValue "staged_digest" value.stagedDigest,
    uintValue "token_generation" value.tokenGeneration,
    textValue "token_digest" value.tokenDigest]

/-- `encode_ng1_resume_control` -/
def encodeResumeControl (hash : Bytes → Digest32) (value : ResumeToken) : Result Bytes := do
  let _ ← value.toValidationToken (digestBytes hash)
  encodeCborMap (resumeFields value)

/-! ## Decoding -/

/-- `parse_heartbeat_kind` -/
def parseHeartbeatKind (value : Bytes) : Result HeartbeatKind :=
  if value = "probe" then .ok .probe
  else if value = "ack" then .ok .ack
  else .error (transportError "kind" "heartbeat-enum")

/-- `decode_ng1_heartbeat_control` -/
def decodeHeartbeatControl (control : Bytes) : Result HeartbeatControl := do
  let fields ← decodeCborMap control 11
  let schema ← mapText fields "schema"
  let kindText ← mapText fields "kind"
  let providerId ← mapText fields "provider_id"
  let providerVersionText ← mapText fields "provider_version"
  let sessionId ← mapText fields "protocol_session_id"
  let taskId ← mapText fields "task_id"
  let streamId ← mapNumber fields "stream_id"
  let heartbeatSequence ← mapNumber fields "heartbeat_sequence"
  let monotonicTime ← mapNumber fields "monotonic_time_ns"
  let highestAcked ← mapNumber fields "highest_contiguous_acked_sequence"
  let stagedDigest ← mapText fields "staged_digest"
  let kind ← parseHeartbeatKind kindText.bytes
  let providerVersion ← parseSemanticVersion providerVersionText.bytes
  let output : HeartbeatControl :=
    { schema := schema.bytes, kind := kind, providerId := providerId.bytes,
      providerVersion := providerVersion, protocolSessionId := sessionId.bytes,
      taskId := taskId.bytes, streamId := streamId, heartbeatSequence := heartbeatSequence,
      monotonicTimeNs := monotonicTime, highestContiguousAckedSequence := highestAcked,
      stagedDigest := stagedDigest.bytes }
  output.validate
  .ok output

/-- `decode_ng1_progress_control` -/
def decodeProgressControl (control : Bytes) : Result ProgressControl := do
  let fields ← decodeCborMap control 7
  let schema ← mapText fields "schema"
  let taskId ← mapText fields "task_id"
  let dependencyGroupId ← mapText fields "dependency_group_id"
  let progressSequence ← mapNumber fields "progress_sequence"
  let monotonicTime ← mapNumber fields "monotonic_time_ns"
  let completedUnits ← mapNumber fields "completed_units"
  let totalUnits ← mapNumber fields "total_units"
  let output : ProgressControl :=
    { schema := schema.bytes, taskId := taskId.bytes, dependencyGroupId := dependencyGroupId.bytes,
      progressSequence := progressSequence, monotonicTimeNs := monotonicTime,
      completedUnits := completedUnits, totalUnits := totalUnits }
  output.validate
  .ok output

/-- `parse_resume_kind` -/
def parseResumeKind (value : Bytes) : Result ResumeKind :=
  if value = "request" then .ok .request
  else if value = "accepted" then .ok .accepted
  else if value = "rejected" then .ok .rejected
  else .error (transportError "kind" "resume-enum")

/-- `decode_ng1_resume_control` -/
def decodeResumeControl (hash : Bytes → Digest32) (control : Bytes) : Result ResumeToken := do
  let fields ← decodeCborMap control 21
  let schema ← mapText fields "schema"
  let kindText ← mapText fields "kind"
  let providerId ← mapText fields "provider_id"
  let providerVersionText ← mapText fields "provider_version"
  let providerBinaryDigest ← mapText fields "provider_binary_digest"
  let providerContractDigest ← mapText fields "provider_semantic_contract_digest"
  let sessionId ← mapText fields "protocol_session_id"
  let taskId ← mapText fields "task_id"
  let inputDigest ← mapText fields "task_input_digest"
  let invocationDigest ← mapText fields "normalized_invocation_digest"
  let toolchainDigest ← mapText fields "toolchain_digest"
  let environmentDigest ← mapText fields "environment_digest"
  let sandboxDigest ← mapText fields "sandbox_policy_digest"
  let dependencyGroupId ← mapText fields "dependency_group_id"
  let atomicGroupId ← mapText fields "atomic_output_group_id"
  let batchId ← mapText fields "batch_id"
  let streamId ← mapNumber fields "stream_id"
  let highestAcked ← mapNumber fields "highest_contiguous_acked_sequence"
  let stagedDigest ← mapText fields "staged_digest"
  let tokenGeneration ← mapNumber fields "token_generation"
  let tokenDigest ← mapText fields "token_digest"
  let kind ← parseResumeKind kindText.bytes
  let providerVersion ← parseSemanticVersion providerVersionText.bytes
  let binding : ResumeBinding :=
    { providerId := providerId.bytes, providerVersion := providerVersion,
      providerBinaryDigest := providerBinaryDigest.bytes,
      providerSemanticContractDigest := providerContractDigest.bytes,
      protocolSessionId := sessionId.bytes, taskId := taskId.bytes,
      taskInputDigest := inputDigest.bytes, normalizedInvocationDigest := invocationDigest.bytes,
      toolchainDigest := toolchainDigest.bytes, environmentDigest := environmentDigest.bytes,
      sandboxPolicyDigest := sandboxDigest.bytes, dependencyGroupId := dependencyGroupId.bytes,
      atomicOutputGroupId := atomicGroupId.bytes, batchId := batchId.bytes, streamId := streamId }
  let output : ResumeToken :=
    { schema := schema.bytes, kind := kind, binding := binding,
      highestContiguousAckedSequence := highestAcked, stagedDigest := stagedDigest.bytes,
      tokenGeneration := tokenGeneration, tokenDigest := tokenDigest.bytes }
  let _ ← output.toValidationToken (digestBytes hash)
  .ok output

/-! ## Fields -/

theorem textOf_bytes (text : Text) : textOf text.bytes = text := by
  apply Text.ext
  have hsize := text.size
  exact List.take_of_length_le (by omega)

theorem bytes_textOf {value : Bytes} (h : value.length < 2 ^ 64) : (textOf value).bytes = value :=
  List.take_of_length_le (by omega)

theorem mapText_eq_ok_iff {fields : CborFields} {name : Bytes} {value : Text}
    (hnodup : (fields.map Prod.fst).Nodup) :
    mapText fields name = .ok value ↔ (name, .text value) ∈ fields := by
  rw [← lookup_eq_some_iff_mem hnodup, mapText]
  generalize fields.lookup name = found
  rcases found with _ | number | text <;> simp

theorem mapNumber_eq_ok_iff {fields : CborFields} {name : Bytes} {value : UInt64}
    (hnodup : (fields.map Prod.fst).Nodup) :
    mapNumber fields name = .ok value ↔ (name, .number value) ∈ fields := by
  rw [← lookup_eq_some_iff_mem hnodup, mapNumber]
  generalize fields.lookup name = found
  rcases found with _ | number | text <;> simp

theorem parseHeartbeatKind_eq_ok_iff {value : Bytes} {kind : HeartbeatKind} :
    parseHeartbeatKind value = .ok kind ↔
      (kind = .probe ∨ kind = .ack) ∧ value = heartbeatKindText kind := by
  rw [parseHeartbeatKind]
  constructor
  · intro h
    split_ifs at h with hprobe hack
    · obtain rfl := Except.ok.inj h
      exact ⟨.inl rfl, hprobe⟩
    · obtain rfl := Except.ok.inj h
      exact ⟨.inr rfl, hack⟩
  · rintro ⟨rfl | rfl, rfl⟩
    · rfl
    · rfl

theorem parseResumeKind_eq_ok_iff {value : Bytes} {kind : ResumeKind} :
    parseResumeKind value = .ok kind ↔
      (kind = .request ∨ kind = .accepted ∨ kind = .rejected) ∧ value = resumeKindText kind := by
  rw [parseResumeKind]
  constructor
  · intro h
    split_ifs at h with hrequest haccepted hrejected
    · obtain rfl := Except.ok.inj h
      exact ⟨.inl rfl, hrequest⟩
    · obtain rfl := Except.ok.inj h
      exact ⟨.inr (.inl rfl), haccepted⟩
    · obtain rfl := Except.ok.inj h
      exact ⟨.inr (.inr rfl), hrejected⟩
  · rintro ⟨rfl | rfl | rfl, rfl⟩
    · rfl
    · rfl
    · rfl

/-! ## Sizes -/

theorem length_le_of_strongIdScalars (fuel : Nat) : ∀ {count total : Nat} {value : Bytes},
    value.length ≤ fuel → strongIdScalars fuel count value = .ok total →
      value.length + 4 * count ≤ 4 * total := by
  induction fuel with
  | zero =>
      intro count total value hfuel h
      obtain rfl := List.length_eq_zero_iff.1 (Nat.le_zero.1 hfuel)
      obtain rfl := Except.ok.inj h
      simp
  | succ fuel ih =>
      intro count total value hfuel h
      cases value with
      | nil =>
          obtain rfl := Except.ok.inj h
          simp
      | cons first rest =>
          rw [List.length_cons] at hfuel ⊢
          rw [strongIdScalars, guard_eq_ok_iff] at h
          obtain ⟨-, h⟩ := h
          -- A scalar is one byte and at most three bytes behind it.
          split_ifs at h
          · have hrest := ih (by omega) h
            omega
          all_goals
            have hrest := ih (by rw [List.length_drop]; omega) h
            rw [List.length_drop] at hrest
            omega

theorem length_le_of_validateStrongId {value : Bytes} (h : validateStrongId value = .ok ()) :
    value.length ≤ 2048 := by
  rw [validateStrongId, guard_eq_ok_iff] at h
  obtain ⟨-, h⟩ := h
  simp only [bind_eq_ok_iff, guard_eq_ok_iff, not_lt] at h
  obtain ⟨-, -, scalarCount, hscalars, hcount, -⟩ := h
  have hlength := length_le_of_strongIdScalars value.length le_rfl hscalars
  omega

theorem length_le_of_validId {failureCode value field : Bytes}
    (h : validId failureCode value field = .ok ()) : value.length ≤ 2048 := by
  rw [validId] at h
  split at h
  · cases h
  · rename_i hvalid
    exact length_le_of_validateStrongId hvalid

theorem length_le_of_prefixedDigest {marker value : Bytes} (hmarker : marker.length ≤ 19)
    (h : prefixedDigest marker value = true) : value.length ≤ 2048 := by
  rw [prefixedDigest, Bool.and_eq_true, Bool.and_eq_true, decide_eq_true_iff] at h
  have hlength := h.1.2
  omega

theorem length_string_le (version : SemanticVersion) : version.string.length ≤ 2048 := by
  have hdecimal : ∀ value : UInt32, (CanonicalValue.decimal value.toNat).length ≤ 10 := by
    intro value
    have hlt := value.toNat_lt
    exact length_decimal_le (by decide) (hlt.trans (by decide))
  have hmajor := hdecimal version.major
  have hminor := hdecimal version.minor
  have hpatch := hdecimal version.patch
  rw [string_eq]
  simp only [List.length_append, List.length_cons]
  omega

/-- A field whose key and text are within the bounds of all controls. -/
def ShortField (field : Bytes × CborScalar) : Prop :=
  field.1.length ≤ 33 ∧ ∀ text, field.2 = .text text → text.bytes.length ≤ 2048

theorem shortField_textValue {key value : Bytes} (hkey : key.length ≤ 33)
    (hvalue : value.length ≤ 2048) : ShortField (textValue key value) := by
  refine ⟨hkey, fun text htext => ?_⟩
  obtain rfl := CborScalar.text.inj htext
  rw [bytes_textOf (by omega)]
  exact hvalue

/-- A short text is kept whole. -/
theorem ShortField.bytes {key value : Bytes} (h : ShortField (textValue key value)) :
    (textOf value).bytes = value := by
  have hlength := h.2 _ rfl
  refine bytes_textOf ?_
  rw [textOf, List.length_take] at hlength
  omega

theorem shortField_uintValue {key : Bytes} (hkey : key.length ≤ 33) (value : UInt64) :
    ShortField (uintValue key value) :=
  ⟨hkey, fun _ htext => by cases htext⟩

theorem length_fieldBytes_le {field : Bytes × CborScalar} (h : ShortField field) :
    (fieldBytes field).length ≤ 2099 := by
  obtain ⟨key, value⟩ := field
  obtain ⟨hkey, htext⟩ := h
  have hkeyHead := head_length_le .text key.length
  rw [fieldBytes, List.length_append, encodedText, List.length_append]
  dsimp only at hkey hkeyHead ⊢
  cases value with
  | number value =>
      have hhead := head_length_le .unsignedInteger value.toNat
      rw [CborScalar.encoded]
      omega
  | text value =>
      have hhead := head_length_le .text value.bytes.length
      have hvalue := htext value rfl
      rw [CborScalar.encoded, encodedText, List.length_append]
      omega

/-- Twenty-one short fields do not reach the bound of a control. -/
theorem length_mapBytes_le {fields : CborFields} (hcount : fields.length ≤ 21)
    (hshort : ∀ field ∈ fields, ShortField field) :
    (mapBytes fields).length ≤ maxControlBytes := by
  have hsum : ((fields.map fun field => (fieldBytes field).length).sum) ≤ fields.length * 2099 := by
    have hall : ∀ length ∈ fields.map fun field => (fieldBytes field).length, length ≤ 2099 := by
      intro length hlength
      obtain ⟨field, hfield, rfl⟩ := List.mem_map.1 hlength
      exact length_fieldBytes_le (hshort field hfield)
    have hcard := List.sum_le_card_nsmul _ 2099 hall
    rwa [List.length_map, smul_eq_mul] at hcard
  have hhead := head_length_le .map fields.length
  rw [mapBytes, List.length_append, List.length_flatMap, maxControlBytes]
  omega

/-! ## Round trips -/

/-- What encoding and decoding have in common: the bytes are a map of the fields, in some order. -/
def Carries (input : Bytes) (fields : CborFields) : Prop :=
  ∃ entries : CborFields, entries.Perm fields ∧ Sdk.decodeCborMap input = .ok entries

theorem encodeCborMap_iff_carries {fields : CborFields} {output : Bytes}
    (hcount : fields.length ≤ 21) (hkeys : ∀ field ∈ fields, field.1.length ≤ 33) :
    encodeCborMap fields = .ok output ↔ Carries output fields := by
  rw [encodeCborMap_eq_ok_iff, Sdk.encodeCborMap_eq_ok_iff, Carries]
  · intro field hfield
    have hkey := hkeys field hfield
    omega
  · omega

theorem Carries.length_le {input : Bytes} {fields : CborFields} (h : Carries input fields)
    (hcount : fields.length ≤ 21) (hshort : ∀ field ∈ fields, ShortField field) :
    input.length ≤ maxControlBytes := by
  obtain ⟨entries, hperm, hdecode⟩ := h
  obtain ⟨-, rfl, -⟩ := Sdk.decodeCborMap_eq_ok_iff.1 hdecode
  refine length_mapBytes_le (hperm.length_eq.trans_le hcount) ?_
  exact fun field hfield => hshort field (hperm.mem_iff.1 hfield)

/-- The decoder finds the fields it asks for, and no other. -/
theorem carries_iff {input : Bytes} {fields : CborFields} (hnodup : (fields.map Prod.fst).Nodup) :
    Carries input fields ↔ ∃ entries : CborFields, Sdk.decodeCborMap input = .ok entries ∧
      (entries.map Prod.fst).Nodup ∧ entries.length = fields.length ∧
        ∀ field ∈ fields, field ∈ entries := by
  constructor
  · rintro ⟨entries, hperm, hdecode⟩
    have hkeys := (Sdk.decodeCborMap_eq_ok_iff.1 hdecode).2.2.2.2
    exact ⟨entries, hdecode, hkeys, (perm_iff_of_nodup hnodup).1 hperm⟩
  · rintro ⟨entries, hdecode, -, hfields⟩
    exact ⟨entries, (perm_iff_of_nodup hnodup).2 hfields, hdecode⟩

/-! ### Heartbeats -/

theorem heartbeatFields_nodup (value : HeartbeatControl) :
    ((heartbeatFields value).map Prod.fst).Nodup := by
  simp only [heartbeatFields, textValue, uintValue, List.map_cons, List.map_nil]
  decide

theorem heartbeatFields_short {value : HeartbeatControl} (h : value.validate = .ok ()) :
    ∀ field ∈ heartbeatFields value, ShortField field := by
  simp only [HeartbeatControl.validate, SessionBinding.validate, seq_eq_ok_iff, reject_eq_ok_iff,
    firstError_eq_ok_iff, List.forall_mem_cons, bne_eq_false_iff_eq, Bool.not_eq_false'] at h
  obtain ⟨hschema, -, ⟨-, hprovider, hsession, htask, -⟩, hdigest⟩ := h
  have hkind : ∀ kind, (heartbeatKindText kind).length ≤ 2048 := by
    intro kind
    cases kind with
    | probe => decide
    | ack => decide
    | unnamed value => exact Nat.zero_le _
  simp only [heartbeatFields, List.forall_mem_cons]
  exact ⟨shortField_textValue (by decide) (by rw [hschema]; decide),
    shortField_textValue (by decide) (hkind _),
    shortField_textValue (by decide) (length_le_of_validId hprovider),
    shortField_textValue (by decide) (length_string_le _),
    shortField_textValue (by decide) (length_le_of_validId hsession),
    shortField_textValue (by decide) (length_le_of_validId htask),
    shortField_uintValue (by decide) _, shortField_uintValue (by decide) _,
    shortField_uintValue (by decide) _, shortField_uintValue (by decide) _,
    shortField_textValue (by decide) (length_le_of_prefixedDigest (by decide) hdigest), by simp⟩

theorem decodeHeartbeatControl_eq_ok_iff {input : Bytes} {value : HeartbeatControl} :
    decodeHeartbeatControl input = .ok value ↔
      value.validate = .ok () ∧ Carries input (heartbeatFields value) := by
  have hcarries := @carries_iff input _ (heartbeatFields_nodup value)
  constructor
  · intro h
    simp only [decodeHeartbeatControl, bind_eq_ok_iff, Unique.exists_iff, PUnit.default_eq_unit,
      Except.ok.injEq, decodeCborMap_eq_ok_iff, parseHeartbeatKind_eq_ok_iff,
      parseSemanticVersion_eq_ok_iff] at h
    obtain ⟨fields, ⟨-, hlength, hfields⟩, h⟩ := h
    have hkeys := (Sdk.decodeCborMap_eq_ok_iff.1 hfields).2.2.2.2
    simp only [mapText_eq_ok_iff hkeys, mapNumber_eq_ok_iff hkeys] at h
    obtain ⟨schema, hschema, kindText, hkindText, providerId, hprovider, versionText, hversionText,
      sessionId, hsession, taskId, htask, streamId, hstream, sequence, hsequence, time, htime, acked,
      hacked, digest, hdigest, kind, ⟨-, hkind⟩, version, hversion, hvalid, rfl⟩ := h
    refine ⟨hvalid, hcarries.2 ⟨fields, hfields, hkeys, hlength, ?_⟩⟩
    simp only [heartbeatFields, textValue, uintValue, ← hkind, ← hversion, textOf_bytes,
      List.forall_mem_cons]
    exact ⟨hschema, hkindText, hprovider, hversionText, hsession, htask, hstream, hsequence, htime,
      hacked, hdigest, by simp⟩
  · rintro ⟨hvalid, h⟩
    have hshort := heartbeatFields_short hvalid
    have hsize := h.length_le (by simp [heartbeatFields]) hshort
    obtain ⟨fields, hfields, hkeys, hlength, hmem⟩ := hcarries.1 h
    have hkind : value.kind = .probe ∨ value.kind = .ack := by
      simp only [HeartbeatControl.validate, seq_eq_ok_iff, reject_eq_ok_iff,
        Bool.and_eq_false_iff, bne_eq_false_iff_eq] at hvalid
      exact hvalid.2.1
    simp only [heartbeatFields, List.forall_mem_cons] at hshort hmem
    obtain ⟨hschema, hkindText, hprovider, hversion, hsession, htask, hstream, hsequence, htime,
      hacked, hdigest, -⟩ := hmem
    obtain ⟨sschema, skind, sprovider, sversion, ssession, stask, -, -, -, -, sdigest, -⟩ := hshort
    simp only [decodeHeartbeatControl, bind_eq_ok_iff, Unique.exists_iff, PUnit.default_eq_unit,
      Except.ok.injEq, decodeCborMap_eq_ok_iff, parseHeartbeatKind_eq_ok_iff,
      parseSemanticVersion_eq_ok_iff]
    refine ⟨fields, ⟨hsize, hlength, hfields⟩, ?_⟩
    simp only [mapText_eq_ok_iff hkeys, mapNumber_eq_ok_iff hkeys]
    refine ⟨_, hschema, _, hkindText, _, hprovider, _, hversion, _, hsession, _, htask, _, hstream, _,
      hsequence, _, htime, _, hacked, _, hdigest, value.kind, ⟨hkind, skind.bytes⟩,
      value.providerVersion, sversion.bytes, ?_⟩
    rw [sschema.bytes, sprovider.bytes, ssession.bytes, stask.bytes, sdigest.bytes]
    exact ⟨hvalid, rfl⟩

theorem encodeHeartbeatControl_eq_ok_iff {value : HeartbeatControl} {output : Bytes} :
    encodeHeartbeatControl value = .ok output ↔
      value.validate = .ok () ∧ Carries output (heartbeatFields value) := by
  rw [encodeHeartbeatControl, seq_eq_ok_iff]
  refine and_congr_right fun hvalid => ?_
  exact encodeCborMap_iff_carries (by simp [heartbeatFields])
    fun field hfield => (heartbeatFields_short hvalid field hfield).1

/-! ### Progress -/

theorem progressFields_nodup (value : ProgressControl) :
    ((progressFields value).map Prod.fst).Nodup := by
  simp only [progressFields, textValue, uintValue, List.map_cons, List.map_nil]
  decide

theorem length_le_of_validateTransportId {value field : Bytes}
    (h : validateTransportId value field = .ok ()) : value.length ≤ 2048 := by
  rw [validateTransportId] at h
  split at h
  · cases h
  · rename_i hvalid
    exact length_le_of_validateStrongId hvalid

theorem progressFields_short {value : ProgressControl} (h : value.validate = .ok ()) :
    ∀ field ∈ progressFields value, ShortField field := by
  simp only [ProgressControl.validate, seq_eq_ok_iff, reject_eq_ok_iff, bne_eq_false_iff_eq] at h
  obtain ⟨hschema, htask, hgroup, -⟩ := h
  simp only [progressFields, List.forall_mem_cons]
  exact ⟨shortField_textValue (by decide) (by rw [hschema]; decide),
    shortField_textValue (by decide) (length_le_of_validateTransportId htask),
    shortField_textValue (by decide) (length_le_of_validateTransportId hgroup),
    shortField_uintValue (by decide) _, shortField_uintValue (by decide) _,
    shortField_uintValue (by decide) _, shortField_uintValue (by decide) _, by simp⟩

theorem decodeProgressControl_eq_ok_iff {input : Bytes} {value : ProgressControl} :
    decodeProgressControl input = .ok value ↔
      value.validate = .ok () ∧ Carries input (progressFields value) := by
  have hcarries := @carries_iff input _ (progressFields_nodup value)
  constructor
  · intro h
    simp only [decodeProgressControl, bind_eq_ok_iff, Unique.exists_iff, PUnit.default_eq_unit,
      Except.ok.injEq, decodeCborMap_eq_ok_iff] at h
    obtain ⟨fields, ⟨-, hlength, hfields⟩, h⟩ := h
    have hkeys := (Sdk.decodeCborMap_eq_ok_iff.1 hfields).2.2.2.2
    simp only [mapText_eq_ok_iff hkeys, mapNumber_eq_ok_iff hkeys] at h
    obtain ⟨schema, hschema, taskId, htask, groupId, hgroup, sequence, hsequence, time, htime,
      completed, hcompleted, total, htotal, hvalid, rfl⟩ := h
    refine ⟨hvalid, hcarries.2 ⟨fields, hfields, hkeys, hlength, ?_⟩⟩
    simp only [progressFields, textValue, uintValue, textOf_bytes, List.forall_mem_cons]
    exact ⟨hschema, htask, hgroup, hsequence, htime, hcompleted, htotal, by simp⟩
  · rintro ⟨hvalid, h⟩
    have hshort := progressFields_short hvalid
    have hsize := h.length_le (by simp [progressFields]) hshort
    obtain ⟨fields, hfields, hkeys, hlength, hmem⟩ := hcarries.1 h
    simp only [progressFields, List.forall_mem_cons] at hshort hmem
    obtain ⟨hschema, htask, hgroup, hsequence, htime, hcompleted, htotal, -⟩ := hmem
    obtain ⟨sschema, stask, sgroup, -⟩ := hshort
    simp only [decodeProgressControl, bind_eq_ok_iff, Unique.exists_iff, PUnit.default_eq_unit,
      Except.ok.injEq, decodeCborMap_eq_ok_iff]
    refine ⟨fields, ⟨hsize, hlength, hfields⟩, ?_⟩
    simp only [mapText_eq_ok_iff hkeys, mapNumber_eq_ok_iff hkeys]
    refine ⟨_, hschema, _, htask, _, hgroup, _, hsequence, _, htime, _, hcompleted, _, htotal, ?_⟩
    rw [sschema.bytes, stask.bytes, sgroup.bytes]
    exact ⟨hvalid, rfl⟩

theorem encodeProgressControl_eq_ok_iff {value : ProgressControl} {output : Bytes} :
    encodeProgressControl value = .ok output ↔
      value.validate = .ok () ∧ Carries output (progressFields value) := by
  rw [encodeProgressControl, seq_eq_ok_iff]
  refine and_congr_right fun hvalid => ?_
  exact encodeCborMap_iff_carries (by simp [progressFields])
    fun field hfield => (progressFields_short hvalid field hfield).1

/-! ### Resume controls -/

section Resume

variable {hash : Bytes → Digest32}

theorem resumeFields_nodup (value : ResumeToken) : ((resumeFields value).map Prod.fst).Nodup := by
  simp only [resumeFields, textValue, uintValue, List.map_cons, List.map_nil]
  decide

/-- A control is checked against the digest of its own fields. -/
theorem toValidationToken_eq_ok_iff {value token : ResumeToken} :
    value.toValidationToken (digestBytes hash) = .ok token ↔
      resumeTokenDigest (digestBytes hash) value = .ok value.tokenDigest ∧ token = value := by
  simp only [ResumeToken.toValidationToken, bind_eq_ok_iff, guard_eq_ok_iff, not_not,
    Except.ok.injEq]
  constructor
  · rintro ⟨_, hexpected, rfl, rfl⟩
    exact ⟨hexpected, rfl⟩
  · rintro ⟨hexpected, rfl⟩
    exact ⟨_, hexpected, rfl, rfl⟩

theorem length_semanticTupleDigest {domain digest : Bytes} {fields : List CanonicalValue}
    (h : semanticTupleDigest (digestBytes hash) domain fields = .ok digest) :
    digest.length ≤ 2048 := by
  rw [semanticTupleDigest, bind_eq_ok_iff] at h
  obtain ⟨encoded, -, h⟩ := h
  rw [semanticDigest, guard_eq_ok_iff, bind_eq_ok_iff] at h
  obtain ⟨-, framed, -, h⟩ := h
  obtain rfl := Except.ok.inj h
  rw [List.length_append, length_hex_digest]
  decide

theorem kind_of_resumeTokenDigest {value : ResumeToken} {digest : Bytes}
    (h : resumeTokenDigest (digestBytes hash) value = .ok digest) :
    value.kind = .request ∨ value.kind = .accepted ∨ value.kind = .rejected := by
  simp only [resumeTokenDigest, bind_eq_ok_iff, Unique.exists_iff, PUnit.default_eq_unit,
    reject_eq_ok_iff, Bool.and_eq_false_iff, bne_eq_false_iff_eq] at h
  exact or_assoc.1 h.2.2.1

theorem resumeFields_short {value : ResumeToken}
    (h : resumeTokenDigest (digestBytes hash) value = .ok value.tokenDigest) :
    ∀ field ∈ resumeFields value, ShortField field := by
  simp only [resumeTokenDigest, ResumeBinding.validate, validDigest, bind_eq_ok_iff,
    Unique.exists_iff, PUnit.default_eq_unit, reject_eq_ok_iff, firstError_eq_ok_iff,
    List.forall_mem_cons, bne_eq_false_iff_eq, Bool.not_eq_false'] at h
  obtain ⟨hschema, ⟨-, ⟨hprovider, hsession, htask, hgroup, houtput, hbatch, -⟩,
    ⟨hbinary, hcontract, -⟩, hinput, hinvocation, htoolchain, henvironment, hsandbox, -⟩, -, hstaged,
    -, htoken⟩ := h
  have hkind : ∀ kind, (resumeKindText kind).length ≤ 2048 := by
    intro kind
    cases kind with
    | request => decide
    | accepted => decide
    | rejected => decide
    | unnamed value => exact Nat.zero_le _
  have hdigest : ∀ {key value : Bytes}, key.length ≤ 33 → validSemanticDigest value = true →
      ShortField (textValue key value) := fun hkey hvalue =>
    shortField_textValue hkey (length_le_of_prefixedDigest (by decide) hvalue)
  have hcontent : ∀ {key value : Bytes}, key.length ≤ 33 → validManifestContentDigest value = true →
      ShortField (textValue key value) := fun hkey hvalue =>
    shortField_textValue hkey (length_le_of_prefixedDigest (by decide) hvalue)
  have hid : ∀ {key failureCode value field : Bytes}, key.length ≤ 33 →
      validId failureCode value field = .ok () → ShortField (textValue key value) :=
    fun hkey hvalue => shortField_textValue hkey (length_le_of_validId hvalue)
  simp only [resumeFields, List.forall_mem_cons]
  exact ⟨shortField_textValue (by decide) (by rw [hschema]; decide),
    shortField_textValue (by decide) (hkind _), hid (by decide) hprovider,
    shortField_textValue (by decide) (length_string_le _), hcontent (by decide) hbinary,
    hcontent (by decide) hcontract, hid (by decide) hsession, hid (by decide) htask,
    hdigest (by decide) hinput, hdigest (by decide) hinvocation, hdigest (by decide) htoolchain,
    hdigest (by decide) henvironment, hdigest (by decide) hsandbox, hid (by decide) hgroup,
    hid (by decide) houtput, hid (by decide) hbatch, shortField_uintValue (by decide) _,
    shortField_uintValue (by decide) _, hdigest (by decide) hstaged,
    shortField_uintValue (by decide) _,
    shortField_textValue (by decide) (length_semanticTupleDigest htoken), by simp⟩

theorem decodeResumeControl_eq_ok_iff {input : Bytes} {value : ResumeToken} :
    decodeResumeControl hash input = .ok value ↔
      resumeTokenDigest (digestBytes hash) value = .ok value.tokenDigest ∧
        Carries input (resumeFields value) := by
  have hcarries := @carries_iff input _ (resumeFields_nodup value)
  constructor
  · intro h
    simp only [decodeResumeControl, bind_eq_ok_iff, Except.ok.injEq, decodeCborMap_eq_ok_iff,
      parseResumeKind_eq_ok_iff, parseSemanticVersion_eq_ok_iff, toValidationToken_eq_ok_iff] at h
    obtain ⟨fields, ⟨-, hlength, hfields⟩, h⟩ := h
    have hkeys := (Sdk.decodeCborMap_eq_ok_iff.1 hfields).2.2.2.2
    simp only [mapText_eq_ok_iff hkeys, mapNumber_eq_ok_iff hkeys] at h
    obtain ⟨_, hschema, _, hkindText, _, hprovider, _, hversionText, _, hbinary, _, hcontract, _,
      hsession, _, htask, _, hinput, _, hinvocation, _, htoolchain, _, henvironment, _, hsandbox, _,
      hgroup, _, houtput, _, hbatch, _, hstream, _, hacked, _, hstaged, _, hgeneration, _, hdigest, _,
      ⟨-, hkind⟩, _, hversion, _, ⟨hvalid, -⟩, rfl⟩ := h
    refine ⟨hvalid, hcarries.2 ⟨fields, hfields, hkeys, hlength, ?_⟩⟩
    simp only [resumeFields, textValue, uintValue, ← hkind, ← hversion, textOf_bytes,
      List.forall_mem_cons]
    exact ⟨hschema, hkindText, hprovider, hversionText, hbinary, hcontract, hsession, htask, hinput,
      hinvocation, htoolchain, henvironment, hsandbox, hgroup, houtput, hbatch, hstream, hacked,
      hstaged, hgeneration, hdigest, by simp⟩
  · rintro ⟨hvalid, h⟩
    have hkind := kind_of_resumeTokenDigest hvalid
    have hshort := resumeFields_short hvalid
    have hsize := h.length_le (by simp [resumeFields]) hshort
    obtain ⟨fields, hfields, hkeys, hlength, hmem⟩ := hcarries.1 h
    simp only [resumeFields, List.forall_mem_cons] at hshort hmem
    obtain ⟨hschema, hkindText, hprovider, hversionText, hbinary, hcontract, hsession, htask, hinput,
      hinvocation, htoolchain, henvironment, hsandbox, hgroup, houtput, hbatch, hstream, hacked,
      hstaged, hgeneration, hdigest, -⟩ := hmem
    obtain ⟨sschema, skind, sprovider, sversion, sbinary, scontract, ssession, stask, sinput,
      sinvocation, stoolchain, senvironment, ssandbox, sgroup, soutput, sbatch, -, -, sstaged, -,
      sdigest, -⟩ := hshort
    simp only [decodeResumeControl, bind_eq_ok_iff, Except.ok.injEq, decodeCborMap_eq_ok_iff,
      parseResumeKind_eq_ok_iff, parseSemanticVersion_eq_ok_iff, toValidationToken_eq_ok_iff]
    refine ⟨fields, ⟨hsize, hlength, hfields⟩, ?_⟩
    simp only [mapText_eq_ok_iff hkeys, mapNumber_eq_ok_iff hkeys]
    refine ⟨_, hschema, _, hkindText, _, hprovider, _, hversionText, _, hbinary, _, hcontract, _,
      hsession, _, htask, _, hinput, _, hinvocation, _, htoolchain, _, henvironment, _, hsandbox, _,
      hgroup, _, houtput, _, hbatch, _, hstream, _, hacked, _, hstaged, _, hgeneration, _, hdigest,
      value.kind, ⟨hkind, skind.bytes⟩, value.binding.providerVersion, sversion.bytes, value, ?_⟩
    rw [sschema.bytes, sprovider.bytes, sbinary.bytes, scontract.bytes, ssession.bytes, stask.bytes,
      sinput.bytes, sinvocation.bytes, stoolchain.bytes, senvironment.bytes, ssandbox.bytes,
      sgroup.bytes, soutput.bytes, sbatch.bytes, sstaged.bytes, sdigest.bytes]
    exact ⟨⟨hvalid, rfl⟩, rfl⟩

theorem encodeResumeControl_eq_ok_iff {value : ResumeToken} {output : Bytes} :
    encodeResumeControl hash value = .ok output ↔
      resumeTokenDigest (digestBytes hash) value = .ok value.tokenDigest ∧
        Carries output (resumeFields value) := by
  simp only [encodeResumeControl, bind_eq_ok_iff, toValidationToken_eq_ok_iff]
  constructor
  · rintro ⟨_, ⟨hvalid, rfl⟩, h⟩
    exact ⟨hvalid, (encodeCborMap_iff_carries (by simp [resumeFields])
      fun field hfield => (resumeFields_short hvalid field hfield).1).1 h⟩
  · rintro ⟨hvalid, h⟩
    exact ⟨value, ⟨hvalid, rfl⟩, (encodeCborMap_iff_carries (by simp [resumeFields])
      fun field hfield => (resumeFields_short hvalid field hfield).1).2 h⟩

end Resume

/-! ### All controls -/

/-- **Control codecs are inverse**: a control is decoded from what it encodes to and from nothing
else, its encoding is within the bound of the decoder, and versions are parsed from their texts and
from nothing else. -/
theorem controlCodecs_inverse (hash : Bytes → Digest32) :
    (∀ (value : HeartbeatControl) (bytes : Bytes), encodeHeartbeatControl value = .ok bytes ↔
        decodeHeartbeatControl bytes = .ok value) ∧
      (∀ (value : ProgressControl) (bytes : Bytes), encodeProgressControl value = .ok bytes ↔
        decodeProgressControl bytes = .ok value) ∧
      (∀ (value : ResumeToken) (bytes : Bytes), encodeResumeControl hash value = .ok bytes ↔
        decodeResumeControl hash bytes = .ok value) ∧
      (∀ bytes : Bytes, (∃ value, encodeHeartbeatControl value = .ok bytes) ∨
          (∃ value, encodeProgressControl value = .ok bytes) ∨
          (∃ value, encodeResumeControl hash value = .ok bytes) → bytes.length ≤ maxControlBytes) ∧
      ∀ (text : Bytes) (version : SemanticVersion),
        parseSemanticVersion text = .ok version ↔ text = version.string := by
  refine ⟨fun value bytes => ?_, fun value bytes => ?_, fun value bytes => ?_, ?_,
    fun text version => parseSemanticVersion_eq_ok_iff⟩
  · rw [encodeHeartbeatControl_eq_ok_iff, decodeHeartbeatControl_eq_ok_iff]
  · rw [encodeProgressControl_eq_ok_iff, decodeProgressControl_eq_ok_iff]
  · rw [encodeResumeControl_eq_ok_iff, decodeResumeControl_eq_ok_iff]
  · rintro bytes (⟨value, h⟩ | ⟨value, h⟩ | ⟨value, h⟩)
    · obtain ⟨hvalid, hcarries⟩ := encodeHeartbeatControl_eq_ok_iff.1 h
      exact hcarries.length_le (by simp [heartbeatFields]) (heartbeatFields_short hvalid)
    · obtain ⟨hvalid, hcarries⟩ := encodeProgressControl_eq_ok_iff.1 h
      exact hcarries.length_le (by simp [progressFields]) (progressFields_short hvalid)
    · obtain ⟨hvalid, hcarries⟩ := encodeResumeControl_eq_ok_iff.1 h
      exact hcarries.length_le (by simp [resumeFields]) (resumeFields_short hvalid)

end Cxxlens.Sdk.Provider.Transport
