import Cxxlens.ProtocolV2.Closure.Control

set_option autoImplicit false

/-! # Parsing a control in place

`parse_closure_control`: after the canonical scan the control is walked once more by offsets. Every
field name stands for a bit of a mask and for a slot of the parsed control, which holds ranges of
the buffer and numbers; the view of the control is put together from the slots. -/

namespace Cxxlens.ProtocolV2.Closure

open Sdk (Error Result)
open Fallible

/-! ## Fields and slots -/

/-- `wire_field` -/
inductive WireField where
  | kind
  | sessionId
  | taskId
  | taskV4Digest
  | closureId
  | closureDigest
  | manifestDigest
  | totalBytes
  | chunkBytes
  | chunkCount
  | chunkIndex
  | offset
  | byteCount
  | blobOrdinal
  | blobDigest
  | blobReceiptsDigest
  | blobCount
  | transferDigest
  | spoolReceipt
  | cleanupOwner
  | failurePhase
  | reasonCode
  | observedCounters
  | cleanupReceipt
  | unknown
  deriving DecidableEq, Repr

/-- `text_slot` -/
inductive TextSlot where
  | sessionText
  | taskText
  | taskV4Text
  | closureIdText
  | closureDigestText
  | manifestDigestText
  | blobDigestText
  | blobReceiptsText
  | transferDigestText
  | spoolReceiptText
  | cleanupOwnerText
  | failurePhaseText
  | reasonCodeText
  | cleanupReceiptText
  deriving DecidableEq, Repr

/-- `number_slot` -/
inductive NumberSlot where
  | totalNumber
  | chunkBytesNumber
  | chunkCountNumber
  | blobOrdinalNumber
  | chunkIndexNumber
  | offsetNumber
  | byteCountNumber
  | blobCountNumber
  deriving DecidableEq, Repr

/-- `static_cast<std::uint8_t>(field)` -/
def WireField.index : WireField → Nat
  | .kind => 0
  | .sessionId => 1
  | .taskId => 2
  | .taskV4Digest => 3
  | .closureId => 4
  | .closureDigest => 5
  | .manifestDigest => 6
  | .totalBytes => 7
  | .chunkBytes => 8
  | .chunkCount => 9
  | .chunkIndex => 10
  | .offset => 11
  | .byteCount => 12
  | .blobOrdinal => 13
  | .blobDigest => 14
  | .blobReceiptsDigest => 15
  | .blobCount => 16
  | .transferDigest => 17
  | .spoolReceipt => 18
  | .cleanupOwner => 19
  | .failurePhase => 20
  | .reasonCode => 21
  | .observedCounters => 22
  | .cleanupReceipt => 23
  | .unknown => 24

/-- `field_bit`; the mask is a `std::uint32_t`. -/
def fieldBit (field : WireField) : BitVec 32 :=
  BitVec.twoPow 32 field.index

/-- `identify_field` -/
def identifyField (key : Bytes) : WireField :=
  if key = "kind" then .kind
  else if key = "session_id" then .sessionId
  else if key = "task_id" then .taskId
  else if key = "task_v4_digest" then .taskV4Digest
  else if key = "closure_id" then .closureId
  else if key = "closure_digest" then .closureDigest
  else if key = "manifest_digest" then .manifestDigest
  else if key = "total_bytes" then .totalBytes
  else if key = "chunk_bytes" then .chunkBytes
  else if key = "chunk_count" then .chunkCount
  else if key = "chunk_index" then .chunkIndex
  else if key = "offset" then .offset
  else if key = "byte_count" then .byteCount
  else if key = "blob_ordinal" then .blobOrdinal
  else if key = "blob_digest" then .blobDigest
  else if key = "blob_receipts_digest" then .blobReceiptsDigest
  else if key = "blob_count" then .blobCount
  else if key = "transfer_digest" then .transferDigest
  else if key = "spool_receipt" then .spoolReceipt
  else if key = "cleanup_owner" then .cleanupOwner
  else if key = "failure_phase" then .failurePhase
  else if key = "reason_code" then .reasonCode
  else if key = "observed_counters" then .observedCounters
  else if key = "cleanup_receipt" then .cleanupReceipt
  else .unknown

/-- What the switch of `parse_field_value` does with a field. -/
inductive FieldShape where
  | kind
  | text (slot : TextSlot)
  | number (slot : NumberSlot)
  | counters
  | unknown
  deriving DecidableEq, Repr

/-- The switch of `parse_field_value`. -/
def WireField.shape : WireField → FieldShape
  | .kind => .kind
  | .sessionId => .text .sessionText
  | .taskId => .text .taskText
  | .taskV4Digest => .text .taskV4Text
  | .closureId => .text .closureIdText
  | .closureDigest => .text .closureDigestText
  | .manifestDigest => .text .manifestDigestText
  | .blobDigest => .text .blobDigestText
  | .blobReceiptsDigest => .text .blobReceiptsText
  | .transferDigest => .text .transferDigestText
  | .spoolReceipt => .text .spoolReceiptText
  | .cleanupOwner => .text .cleanupOwnerText
  | .failurePhase => .text .failurePhaseText
  | .reasonCode => .text .reasonCodeText
  | .cleanupReceipt => .text .cleanupReceiptText
  | .totalBytes => .number .totalNumber
  | .chunkBytes => .number .chunkBytesNumber
  | .chunkCount => .number .chunkCountNumber
  | .blobOrdinal => .number .blobOrdinalNumber
  | .chunkIndex => .number .chunkIndexNumber
  | .offset => .number .offsetNumber
  | .byteCount => .number .byteCountNumber
  | .blobCount => .number .blobCountNumber
  | .observedCounters => .counters
  | .unknown => .unknown

/-! ## Reading in place

A `read_wire_head` is `headAt false`. The readers return what they store together with the offset
behind it. -/

/-- `closure_text_range` -/
structure ClosureTextRange where
  offset : UInt32 := 0
  size : UInt32 := 0
  deriving DecidableEq, Repr

/-- `closure_parsed_control`: the arrays are indexed by the slots, whose numbers are all below the
    array sizes. -/
structure ClosureParsedControl where
  kind : ManifestKind := .descriptor
  text : TextSlot → ClosureTextRange := fun _ => {}
  number : NumberSlot → UInt64 := fun _ => 0
  observedCounters : ClosureTextRange := {}

/-- `std::numeric_limits<std::uint32_t>::max()` -/
def rangeMax : Nat := 2 ^ 32 - 1

/-- `text_view`, and the `subspan` of the counters. -/
def textView (input : Bytes) (range : ClosureTextRange) : Bytes :=
  Span.slice input range.offset.toNat (range.offset.toNat + range.size.toNat)

/-- `parse_text_range` -/
def parseTextRange (input : Bytes) (offset : Nat) : Option (ClosureTextRange × Nat) :=
  match Cbor.headAt false input offset with
  | .error _ => none
  | .ok head =>
    if head.kind ≠ .text ∨ head.argument > input.length - head.next ∨ head.argument > rangeMax ∨
        head.next > rangeMax then none
    else
      some (⟨UInt32.ofNat head.next, UInt32.ofNat head.argument⟩, head.next + head.argument)

/-- `parse_uint` -/
def parseUint (input : Bytes) (offset : Nat) : Option (UInt64 × Nat) :=
  match Cbor.headAt false input offset with
  | .error _ => none
  | .ok head =>
    if head.kind ≠ .unsignedInteger then none else some (UInt64.ofNat head.argument, head.next)

/-- The loop of `parse_counter_map`: the offset behind this many counters. -/
def parseCounters (input : Bytes) : Nat → Nat → Option Nat
  | 0, cursor => some cursor
  | count + 1, cursor => do
    let (keyRange, cursor) ← parseTextRange input cursor
    if (validText (textView input keyRange) "observed_counters.key" 128).toBool = false then none
    else do
      let (_, cursor) ← parseUint input cursor
      parseCounters input count cursor

/-- `parse_counter_map` -/
def parseCounterMap (input : Bytes) (offset : Nat) : Option (ClosureTextRange × Nat) :=
  match Cbor.headAt false input offset with
  | .error _ => none
  | .ok head =>
    if head.kind ≠ .map ∨ head.argument > 32 then none
    else do
      let cursor ← parseCounters input head.argument head.next
      if offset > rangeMax ∨ cursor - offset > rangeMax then none
      else some (⟨UInt32.ofNat offset, UInt32.ofNat (cursor - offset)⟩, cursor)

/-- `parse_field_value` -/
def parseFieldValue (field : WireField) (input : Bytes) (offset : Nat)
    (output : ClosureParsedControl) : Option (ClosureParsedControl × Nat) :=
  match field.shape with
  | .kind => do
    let (range, next) ← parseTextRange input offset
    let kind := textView input range
    if kind = "descriptor" then some ({ output with kind := .descriptor }, next)
    else if kind = "chunk" then some ({ output with kind := .chunk }, next)
    else none
  | .text slot => do
    let (range, next) ← parseTextRange input offset
    some ({ output with text := Function.update output.text slot range }, next)
  | .number slot => do
    let (argument, next) ← parseUint input offset
    some ({ output with number := Function.update output.number slot argument }, next)
  | .counters => do
    let (encoded, next) ← parseCounterMap input offset
    some ({ output with observedCounters := encoded }, next)
  | .unknown => none

/-! ## Views -/

/-- What the slots of a parsed control hold. -/
structure Slots where
  kind : ManifestKind := .descriptor
  text : TextSlot → Bytes := fun _ => []
  number : NumberSlot → UInt64 := fun _ => 0
  counters : Bytes := []

/-- The body of `make_control_view`, whose lambdas `text` and `number` look into the slots. -/
def Slots.view (slots : Slots) (type : MessageType) : ClosureControlView :=
  if type = .sourceClosureManifest ∧ slots.kind = .descriptor then
    .manifest (.descriptor {
      kind := slots.kind
      sessionId := slots.text .sessionText
      taskId := slots.text .taskText
      taskV4Digest := slots.text .taskV4Text
      closureId := slots.text .closureIdText
      closureDigest := slots.text .closureDigestText
      manifestDigest := slots.text .manifestDigestText
      totalBytes := slots.number .totalNumber
      chunkBytes := slots.number .chunkBytesNumber
      chunkCount := slots.number .chunkCountNumber })
  else if type = .sourceClosureManifest then
    .manifest (.chunk {
      kind := slots.kind
      sessionId := slots.text .sessionText
      taskId := slots.text .taskText
      manifestDigest := slots.text .manifestDigestText
      chunkIndex := slots.number .chunkIndexNumber
      offset := slots.number .offsetNumber
      byteCount := slots.number .byteCountNumber })
  else if type = .sourceClosureBlob then
    .blob {
      sessionId := slots.text .sessionText
      taskId := slots.text .taskText
      closureDigest := slots.text .closureDigestText
      blobOrdinal := slots.number .blobOrdinalNumber
      blobDigest := slots.text .blobDigestText
      totalBytes := slots.number .totalNumber
      chunkBytes := slots.number .chunkBytesNumber
      chunkCount := slots.number .chunkCountNumber }
  else if type = .sourceClosureChunk then
    .chunk {
      sessionId := slots.text .sessionText
      taskId := slots.text .taskText
      blobOrdinal := slots.number .blobOrdinalNumber
      blobDigest := slots.text .blobDigestText
      chunkIndex := slots.number .chunkIndexNumber
      offset := slots.number .offsetNumber
      byteCount := slots.number .byteCountNumber }
  else if type = .sourceClosureSeal then
    .sealed {
      sessionId := slots.text .sessionText
      taskId := slots.text .taskText
      taskV4Digest := slots.text .taskV4Text
      manifestDigest := slots.text .manifestDigestText
      blobReceiptsDigest := slots.text .blobReceiptsText
      blobCount := slots.number .blobCountNumber
      totalBytes := slots.number .totalNumber
      closureDigest := slots.text .closureDigestText
      transferDigest := slots.text .transferDigestText }
  else if type = .sourceClosureAck then
    .ack {
      sessionId := slots.text .sessionText
      taskId := slots.text .taskText
      closureDigest := slots.text .closureDigestText
      transferDigest := slots.text .transferDigestText
      spoolReceipt := slots.text .spoolReceiptText
      cleanupOwner := slots.text .cleanupOwnerText }
  else
    .reject {
      sessionId := slots.text .sessionText
      taskId := slots.text .taskText
      failurePhase := slots.text .failurePhaseText
      reasonCode := slots.text .reasonCodeText
      observedCounters := slots.counters
      cleanupReceipt := slots.text .cleanupReceiptText }

/-- The slots of a parsed control, its ranges resolved in the control buffer. -/
def ClosureParsedControl.slots (parsed : ClosureParsedControl) (control : Bytes) : Slots where
  kind := parsed.kind
  text slot := textView control (parsed.text slot)
  number slot := parsed.number slot
  counters := textView control parsed.observedCounters

/-- `make_control_view` -/
def makeControlView (type : MessageType) (control : Bytes) (parsed : ClosureParsedControl) :
    ClosureControlView :=
  (parsed.slots control).view type

/-- The validator `parse_closure_control` applies to the view. -/
def validateView {Counters : Type} (view : ControlOf Counters) (bound : ClosureLimits) :
    Result Unit :=
  match view with
  | .manifest (.descriptor item) => validateManifestDescriptor item bound
  | .manifest (.chunk item) => validateManifestChunk item bound
  | .blob item => validateBlobDescriptor item bound
  | .chunk item => validateBlobChunk item bound
  | .sealed item => validateSeal item bound
  | .ack item => validateAck item
  | .reject item => validateRejectView item

/-! ## The closed schema -/

/-- The initializer lists of `expected_mask`. -/
def expectedFields (type : MessageType) (kind : ManifestKind) : List WireField :=
  if type = .sourceClosureManifest ∧ kind = .descriptor then
    [.kind, .sessionId, .taskId, .taskV4Digest, .closureId, .closureDigest, .manifestDigest,
      .totalBytes, .chunkBytes, .chunkCount]
  else if type = .sourceClosureManifest then
    [.kind, .sessionId, .taskId, .manifestDigest, .chunkIndex, .offset, .byteCount]
  else if type = .sourceClosureBlob then
    [.sessionId, .taskId, .closureDigest, .blobOrdinal, .blobDigest, .totalBytes, .chunkBytes,
      .chunkCount]
  else if type = .sourceClosureChunk then
    [.sessionId, .taskId, .blobOrdinal, .blobDigest, .chunkIndex, .offset, .byteCount]
  else if type = .sourceClosureSeal then
    [.sessionId, .taskId, .taskV4Digest, .manifestDigest, .blobReceiptsDigest, .blobCount,
      .totalBytes, .closureDigest, .transferDigest]
  else if type = .sourceClosureAck then
    [.sessionId, .taskId, .closureDigest, .transferDigest, .spoolReceipt, .cleanupOwner]
  else if type = .sourceClosureReject then
    [.sessionId, .taskId, .failurePhase, .reasonCode, .observedCounters, .cleanupReceipt]
  else []

@[simp] theorem expectedFields_descriptor :
    expectedFields .sourceClosureManifest .descriptor =
      [.kind, .sessionId, .taskId, .taskV4Digest, .closureId, .closureDigest, .manifestDigest,
        .totalBytes, .chunkBytes, .chunkCount] := rfl

@[simp] theorem expectedFields_manifestChunk :
    expectedFields .sourceClosureManifest .chunk =
      [.kind, .sessionId, .taskId, .manifestDigest, .chunkIndex, .offset, .byteCount] := rfl

@[simp] theorem expectedFields_blob (kind : ManifestKind) :
    expectedFields .sourceClosureBlob kind =
      [.sessionId, .taskId, .closureDigest, .blobOrdinal, .blobDigest, .totalBytes, .chunkBytes,
        .chunkCount] := rfl

@[simp] theorem expectedFields_chunk (kind : ManifestKind) :
    expectedFields .sourceClosureChunk kind =
      [.sessionId, .taskId, .blobOrdinal, .blobDigest, .chunkIndex, .offset, .byteCount] := rfl

@[simp] theorem expectedFields_seal (kind : ManifestKind) :
    expectedFields .sourceClosureSeal kind =
      [.sessionId, .taskId, .taskV4Digest, .manifestDigest, .blobReceiptsDigest, .blobCount,
        .totalBytes, .closureDigest, .transferDigest] := rfl

@[simp] theorem expectedFields_ack (kind : ManifestKind) :
    expectedFields .sourceClosureAck kind =
      [.sessionId, .taskId, .closureDigest, .transferDigest, .spoolReceipt, .cleanupOwner] := rfl

@[simp] theorem expectedFields_reject (kind : ManifestKind) :
    expectedFields .sourceClosureReject kind =
      [.sessionId, .taskId, .failurePhase, .reasonCode, .observedCounters, .cleanupReceipt] := rfl

/-- `mask` -/
def mask (fields : List WireField) : BitVec 32 :=
  fields.foldl (fun output field => output ||| fieldBit field) 0

/-- `expected_mask` -/
def expectedMask (type : MessageType) (kind : ManifestKind) : BitVec 32 :=
  mask (expectedFields type kind)

/-- `scan_bound` of `parse_closure_control` -/
def controlScanBound : Cbor.ScanLimits where
  maxBytes := maxControlBytes
  maxDepth := 2
  maxItems := 96
  maxArrayItems := 0
  maxMapItems := 32
  maxTextBytes := 4096
  maxByteStringBytes := 0
  requireRootMap := true

/-- The loop of `parse_closure_control` over this many fields. -/
def parseFields (control : Bytes) :
    Nat → Nat → BitVec 32 → ClosureParsedControl → Result (Nat × BitVec 32 × ClosureParsedControl)
  | 0, cursor, seen, output => .ok (cursor, seen, output)
  | count + 1, cursor, seen, output =>
    match parseTextRange control cursor with
    | none => .error (failure "control" "map-key" manifestInvalid)
    | some (keyRange, cursor) =>
      let field := identifyField (textView control keyRange)
      if field = .unknown ∨ seen &&& fieldBit field ≠ 0 then
        .error (failure "control" "unknown-or-duplicate" manifestInvalid)
      else
        match parseFieldValue field control cursor output with
        | none => .error (failure "control" "field-type" manifestInvalid)
        | some (output, cursor) => parseFields control count cursor (seen ||| fieldBit field) output

/-- `parse_closure_control` -/
def parseClosureControl (type : MessageType) (control : Bytes) (bound : ClosureLimits) :
    Result ClosureParsedControl :=
  if isClosureMessage type = false then .error (failure "message_type" "not-closure")
  else if (Cbor.scanCanonical control controlScanBound).error ≠ .none then
    .error (failure "control" "canonical-shape" manifestInvalid)
  else
    match Cbor.headAt false control 0 with
    | .error _ => .error (failure "control" "map-shape" manifestInvalid)
    | .ok root =>
      if root.kind ≠ .map ∨ root.argument > 10 then
        .error (failure "control" "map-shape" manifestInvalid)
      else do
        let (cursor, seen, output) ← parseFields control root.argument root.next 0 {}
        if cursor ≠ control.length ∨ seen ≠ expectedMask type output.kind then
          .error (failure "control" "closed-map-shape" manifestInvalid)
        else do
          validateView (makeControlView type control output) bound
          .ok output

/-! ## Owning a view -/

/-- The loop of `own_reject` over this many counters; it stops at the first it cannot read. -/
def ownCounters (encoded : Bytes) : Nat → Nat → Cbor.Fields
  | 0, _ => []
  | count + 1, cursor =>
    match parseTextRange encoded cursor with
    | none => []
    | some (keyRange, cursor) =>
      match parseUint encoded cursor with
      | none => []
      | some (counter, cursor) =>
        (textView encoded keyRange, .unsigned counter) :: ownCounters encoded count cursor

/-- The counters `own_reject` reads. The head of an empty or malformed span has argument zero. -/
def ownObservedCounters (encoded : Bytes) : Cbor.Fields :=
  match Cbor.headAt false encoded 0 with
  | .error _ => []
  | .ok root => ownCounters encoded root.argument root.next

/-- `own_control_view` with `own_reject` -/
def ownControlView : ClosureControlView → ClosureControl
  | .manifest item => .manifest item
  | .blob item => .blob item
  | .chunk item => .chunk item
  | .sealed item => .sealed item
  | .ack item => .ack item
  | .reject item => .reject {
      sessionId := item.sessionId
      taskId := item.taskId
      failurePhase := item.failurePhase
      reasonCode := item.reasonCode
      observedCounters := ownObservedCounters item.observedCounters
      cleanupReceipt := item.cleanupReceipt }

end Cxxlens.ProtocolV2.Closure
