import Cxxlens.ProtocolV2.Closure.Token

set_option autoImplicit false

/-! # The closure transfer

`closure_transfer` of `closure.cpp`: a fail-closed state machine over the frames of one transfer.
`prepare_transition` computes the next state from a copy of the current one, so a refused frame
leaves the transfer as it was; the operations that change a transfer return the new one. -/

namespace Cxxlens.ProtocolV2.Closure

open Sdk (Error Result)

/-! ## State -/

/-- `closure_phase` -/
inductive ClosurePhase where
  | taskV4Sealed
  | manifestOpen
  | manifestStreaming
  | manifestValidated
  | blobStreaming
  | closureSealed
  | acknowledged
  | rejected
  deriving DecidableEq, Repr

/-- `closure_session` -/
structure ClosureSession where
  sessionId : Bytes
  taskId : Bytes
  taskV4Digest : Bytes := []
  closureDigest : Bytes := []
  manifestDigest : Bytes := []
  streamId : UInt64 := 1
  initialCredit : Credit := { bytes := 92274688, frames := 4144 }
  limits : ClosureLimits := {}
  firstSequence : UInt64 := 0
  deriving DecidableEq, Repr

/-- `closure_transfer::fixed_text`: a text that fits its 96 bytes of storage. -/
structure FixedText where
  view : Bytes := []
  bounded : view.length ≤ 96 := by decide
  deriving DecidableEq, Repr

/-- A `fixed_text` as it is made. -/
def FixedText.empty : FixedText := {}

/-- `fixed_text::assign` -/
def FixedText.assign (value : Bytes) : Option FixedText :=
  if h : value.length ≤ 96 then some ⟨value, h⟩ else none

/-- `closure_transfer::mutable_state` -/
structure MutableState where
  sequence : SequenceGuard
  credit : CreditWindow
  phase : ClosurePhase := .taskV4Sealed
  manifestTotal : UInt64 := 0
  manifestChunkBytes : UInt64 := 0
  manifestChunkCount : UInt64 := 0
  manifestNextChunk : UInt64 := 0
  manifestObserved : UInt64 := 0
  nextBlobOrdinal : UInt64 := 0
  currentBlobOrdinal : UInt64 := 0
  currentBlobDigest : FixedText := .empty
  currentBlobTotal : UInt64 := 0
  currentBlobChunkBytes : UInt64 := 0
  currentBlobChunkCount : UInt64 := 0
  currentBlobNextChunk : UInt64 := 0
  currentBlobObserved : UInt64 := 0
  blobObservedTotal : UInt64 := 0
  sealedTransferDigest : FixedText := .empty
  deriving DecidableEq, Repr

/-- `closure_transfer` -/
structure ClosureTransfer where
  session : ClosureSession
  state : MutableState
  generation : UInt64 := 1
  active : Bool := true
  deriving DecidableEq, Repr

/-- `closure_transfer::manifest_bytes` -/
def ClosureTransfer.manifestBytes (transfer : ClosureTransfer) : UInt64 :=
  transfer.state.manifestObserved

/-- `closure_transfer::blob_bytes` -/
def ClosureTransfer.blobBytes (transfer : ClosureTransfer) : UInt64 :=
  transfer.state.blobObservedTotal

/-- `closure_transfer::create` -/
def ClosureTransfer.create (session : ClosureSession) : Result ClosureTransfer :=
  if session.sessionId.isEmpty = true ∨ session.taskId.isEmpty = true ∨ session.streamId = 0 then
    .error (failure "session" "binding-invalid" "source-closure.session-binding-mismatch")
  else do
    checkAll validId [("session_id", session.sessionId), ("task_id", session.taskId)]
    checkAll (fun value field => if value.isEmpty = true then .ok () else validSemantic value field)
      [("task_v4_digest", session.taskV4Digest), ("closure_digest", session.closureDigest),
        ("manifest_digest", session.manifestDigest)]
    if session.initialCredit.bytes = 0 ∨ session.initialCredit.frames = 0 then
      .error (failure "credit" "zero" limitExceeded)
    else
      .ok {
        session := session
        state := {
          sequence := { streamId := session.streamId, nextSequence := session.firstSequence }
          credit := ⟨session.initialCredit⟩ } }

/-! ## Transitions

`prepare_transition` branch by branch. Each branch sees the copy of the state whose sequence and
credit have been advanced. -/

/-- `bind_common`; an empty closure digest is the default argument. -/
def ClosureSession.bindCommon (session : ClosureSession) (sessionId taskId : Bytes)
    (closureDigest : Bytes := []) : Result Unit :=
  if sessionId ≠ session.sessionId then
    .error (failure "session_id" "mismatch" "source-closure.session-binding-mismatch")
  else if taskId ≠ session.taskId then
    .error (failure "task_id" "mismatch" "source-closure.task-binding-mismatch")
  else if closureDigest ≠ [] ∧ session.closureDigest ≠ [] ∧
      closureDigest ≠ session.closureDigest then
    .error (failure "closure_digest" "mismatch" "source-closure.task-binding-mismatch")
  else .ok ()

/-- The branch for a manifest descriptor. -/
def onManifestDescriptor (session : ClosureSession) (next : MutableState)
    (descriptor : SourceClosureManifestDescriptor) : Result MutableState :=
  if next.phase ≠ .taskV4Sealed then
    .error (failure "phase" "manifest-reopen" protocolStateInvalid)
  else do
    session.bindCommon descriptor.sessionId descriptor.taskId descriptor.closureDigest
    if session.taskV4Digest ≠ [] ∧ descriptor.taskV4Digest ≠ session.taskV4Digest then
      .error (failure "task_v4_digest" "mismatch" "source-closure.task-binding-mismatch")
    else if session.manifestDigest ≠ [] ∧ descriptor.manifestDigest ≠ session.manifestDigest then
      .error (failure "manifest_digest" "mismatch" digestMismatch)
    else
      .ok { next with
        manifestTotal := descriptor.totalBytes
        manifestChunkBytes := descriptor.chunkBytes
        manifestChunkCount := descriptor.chunkCount
        manifestNextChunk := 0
        manifestObserved := 0
        phase := if descriptor.chunkCount = 0 then .manifestValidated else .manifestStreaming }

/-- The branch for a manifest chunk. -/
def onManifestChunk (session : ClosureSession) (next : MutableState)
    (chunk : SourceClosureManifestChunk) : Result MutableState :=
  if next.phase ≠ .manifestStreaming ∧ next.phase ≠ .manifestOpen then
    .error (failure "phase" "manifest-chunk-order" protocolStateInvalid)
  else do
    session.bindCommon chunk.sessionId chunk.taskId
    if chunk.manifestDigest ≠ session.manifestDigest ∧ session.manifestDigest ≠ [] then
      .error (failure "manifest_digest" "mismatch" digestMismatch)
    else if next.manifestObserved > next.manifestTotal ∨
        chunk.chunkIndex ≠ next.manifestNextChunk ∨ chunk.offset ≠ next.manifestObserved ∨
        chunk.byteCount > next.manifestTotal - next.manifestObserved ∨
        (chunk.chunkIndex + 1 < next.manifestChunkCount ∧
          chunk.byteCount ≠ next.manifestChunkBytes) ∨
        (chunk.chunkIndex + 1 = next.manifestChunkCount ∧
          chunk.byteCount ≠ next.manifestTotal - next.manifestObserved) then
      .error (failure "chunk" "gap-overlap-or-reorder" chunkOrderInvalid)
    else
      let next := { next with
        manifestObserved := next.manifestObserved + chunk.byteCount
        manifestNextChunk := next.manifestNextChunk + 1 }
      .ok (if next.manifestNextChunk = next.manifestChunkCount then
        { next with phase := .manifestValidated } else next)

/-- The branch for a blob descriptor. -/
def onBlobDescriptor (session : ClosureSession) (next : MutableState)
    (item : SourceClosureBlobDescriptor) : Result MutableState :=
  if next.phase ≠ .manifestValidated then
    .error (failure "phase" "blob-before-manifest" protocolStateInvalid)
  else do
    session.bindCommon item.sessionId item.taskId item.closureDigest
    if item.blobOrdinal ≠ next.nextBlobOrdinal then
      .error (failure "blob_ordinal" "gap-or-replay" "source-closure.blob-order-invalid")
    else
      match FixedText.assign item.blobDigest with
      | none => .error (failure "blob_digest" "fixed-bound" limitExceeded)
      | some digest =>
        let next := { next with
          currentBlobDigest := digest
          currentBlobOrdinal := item.blobOrdinal
          currentBlobTotal := item.totalBytes
          currentBlobChunkBytes := item.chunkBytes
          currentBlobChunkCount := item.chunkCount
          currentBlobNextChunk := 0
          currentBlobObserved := 0
          phase := if item.chunkCount = 0 then .manifestValidated else .blobStreaming }
        if item.chunkCount = 0 then
          if item.totalBytes > session.limits.maximumUniqueBlobBytes ∨
              next.blobObservedTotal > session.limits.maximumUniqueBlobBytes - item.totalBytes then
            .error (failure "blob_bytes" "limit-exceeded" limitExceeded)
          else
            .ok { next with
              nextBlobOrdinal := next.nextBlobOrdinal + 1
              blobObservedTotal := next.blobObservedTotal + item.totalBytes }
        else .ok next

/-- The branch for a blob chunk. -/
def onBlobChunk (session : ClosureSession) (next : MutableState) (item : SourceClosureChunk) :
    Result MutableState :=
  if next.phase ≠ .blobStreaming then
    .error (failure "phase" "blob-chunk-order" protocolStateInvalid)
  else do
    session.bindCommon item.sessionId item.taskId
    if next.currentBlobObserved > next.currentBlobTotal ∨
        item.blobOrdinal ≠ next.currentBlobOrdinal ∨
        item.blobDigest ≠ next.currentBlobDigest.view ∨
        item.chunkIndex ≠ next.currentBlobNextChunk ∨ item.offset ≠ next.currentBlobObserved ∨
        item.byteCount > next.currentBlobTotal - next.currentBlobObserved ∨
        (item.chunkIndex + 1 < next.currentBlobChunkCount ∧
          item.byteCount ≠ next.currentBlobChunkBytes) ∨
        (item.chunkIndex + 1 = next.currentBlobChunkCount ∧
          item.byteCount ≠ next.currentBlobTotal - next.currentBlobObserved) then
      .error (failure "chunk" "gap-overlap-or-reorder" chunkOrderInvalid)
    else if item.byteCount > session.limits.maximumUniqueBlobBytes ∨
        item.byteCount > session.limits.maximumTaskSpoolBytes ∨
        next.blobObservedTotal > session.limits.maximumUniqueBlobBytes - item.byteCount ∨
        next.blobObservedTotal > session.limits.maximumTaskSpoolBytes - item.byteCount then
      .error (failure "blob_bytes" "limit-exceeded" limitExceeded)
    else
      let next := { next with
        currentBlobObserved := next.currentBlobObserved + item.byteCount
        currentBlobNextChunk := next.currentBlobNextChunk + 1
        blobObservedTotal := next.blobObservedTotal + item.byteCount }
      if next.currentBlobNextChunk = next.currentBlobChunkCount then
        if next.nextBlobOrdinal ≥ session.limits.maximumBlobs then
          .error (failure "blob_count" "limit-exceeded" limitExceeded)
        else
          .ok { next with
            nextBlobOrdinal := next.nextBlobOrdinal + 1
            phase := .manifestValidated }
      else .ok next

/-- The branch for a seal. -/
def onSeal (session : ClosureSession) (next : MutableState) (item : SourceClosureSeal) :
    Result MutableState :=
  if next.phase ≠ .manifestValidated ∨ next.currentBlobNextChunk ≠ next.currentBlobChunkCount then
    .error (failure "phase" "seal-order" protocolStateInvalid)
  else do
    session.bindCommon item.sessionId item.taskId item.closureDigest
    if (session.taskV4Digest ≠ [] ∧ item.taskV4Digest ≠ session.taskV4Digest) ∨
        (session.manifestDigest ≠ [] ∧ item.manifestDigest ≠ session.manifestDigest) ∨
        item.blobCount ≠ next.nextBlobOrdinal ∨ item.totalBytes ≠ next.blobObservedTotal then
      .error (failure "seal" "binding-or-counter-mismatch" digestMismatch)
    else
      match FixedText.assign item.transferDigest with
      | none => .error (failure "transfer_digest" "fixed-bound" limitExceeded)
      | some digest => .ok { next with sealedTransferDigest := digest, phase := .closureSealed }

/-- The branch for an acknowledgement. -/
def onAck (session : ClosureSession) (next : MutableState) (item : SourceClosureAck) :
    Result MutableState :=
  if next.phase ≠ .closureSealed then .error (failure "phase" "ack-order" protocolStateInvalid)
  else do
    session.bindCommon item.sessionId item.taskId item.closureDigest
    if item.transferDigest ≠ next.sealedTransferDigest.view then
      .error (failure "transfer_digest" "mismatch" "source-closure.replay-invalid")
    else .ok { next with phase := .acknowledged }

/-- The branch for a reject. -/
def onReject (session : ClosureSession) (next : MutableState) (item : SourceClosureReject Bytes) :
    Result MutableState :=
  if next.phase = .acknowledged ∨ next.phase = .rejected then
    .error (failure "phase" "terminal-replay" "source-closure.replay-invalid")
  else do
    session.bindCommon item.sessionId item.taskId
    .ok { next with phase := .rejected }

/-- The branch of `prepare_transition` for a decoded control. The source looks at the type of the
    frame, which is the type the view was made for. -/
def onControl (session : ClosureSession) (next : MutableState) :
    ClosureControlView → Result MutableState
  | .manifest (.descriptor item) => onManifestDescriptor session next item
  | .manifest (.chunk item) => onManifestChunk session next item
  | .blob item => onBlobDescriptor session next item
  | .chunk item => onBlobChunk session next item
  | .sealed item => onSeal session next item
  | .ack item => onAck session next item
  | .reject item => onReject session next item

/-- The checks of `prepare_transition` before the state is looked at. -/
def ClosureTransfer.admitFrame (transfer : ClosureTransfer) (value : Frame)
    (decoded : ClosureControlView) (controlBytes : Nat) (controlDigest : Digest32) :
    Result Unit :=
  if transfer.active = false then
    .error (failure "transfer" "moved-from" "source-closure.replay-invalid")
  else if value.protocolMajor ≠ protocolMajor ∨ value.protocolMinor ≠ 0 then
    .error (failure "protocol" "downgrade-or-unnegotiated" "source-closure.replay-invalid")
  else if value.flags ≠ 0 then
    .error (failure "flags" "closure-flags-must-be-zero" protocolStateInvalid)
  else if isClosureMessage value.type = false then .error (failure "message_type" "not-closure")
  else if controlBytes > sizeMax - value.payload.length ∨ controlBytes + value.payload.length >
      transfer.session.limits.maximumResidentTransportBytes.toNat then
    .error (failure "resident_transport_bytes" "limit-exceeded" limitExceeded)
  else if (digestIsZero value.controlDigest = false ∧
        digestEqual value.controlDigest controlDigest = false) ∨
      (digestIsZero value.payloadDigest = false ∧
        digestEqual value.payloadDigest (sha256 value.payload) = false) then
    .error (failure "digest" "mismatch" digestMismatch)
  else validateClosurePayloadView value.type decoded value.payload transfer.session.limits

/-- The copy of the state with the frame's sequence number and credit taken. -/
def MutableState.advance (state : MutableState) (value : Frame) (controlBytes : Nat)
    (consumeCredit : Bool) : Result MutableState := do
  let sequence ← state.sequence.accept value
  if consumeCredit then do
    let credit ← state.credit.consumeEncoded controlBytes value.payload.length
    .ok { state with sequence := sequence, credit := credit }
  else .ok { state with sequence := sequence }

/-- `closure_transfer::prepare_transition` -/
def ClosureTransfer.prepareTransition (transfer : ClosureTransfer) (value : Frame)
    (decoded : ClosureControlView) (controlBytes : Nat) (controlDigest : Digest32)
    (consumeCredit : Bool) : Result MutableState := do
  transfer.admitFrame value decoded controlBytes controlDigest
  let next ← transfer.state.advance value controlBytes consumeCredit
  if decoded.type = value.type then onControl transfer.session next decoded
  else
    -- `std::get` would throw; a view is always of the type of its frame
    .error (failure "control" "type-mismatch")

/-! ## Accepting frames -/

/-- The capacities of the buffers of a frame and of the copy `accept` makes of its control. -/
structure FrameCapacities where
  control : Nat
  payload : Nat
  adopted : Nat
  deriving DecidableEq, Repr

/-- `state_ = *next; ++generation_;` -/
def ClosureTransfer.enter (transfer : ClosureTransfer) (next : MutableState) : ClosureTransfer :=
  { transfer with state := next, generation := transfer.generation + 1 }

/-- `closure_transfer::accept` -/
def ClosureTransfer.accept (layout : Layout) (transfer : ClosureTransfer) (value : Frame)
    (capacities : FrameCapacities) : Result ClosureTransfer := do
  let token ← decodeClosureControlToken layout value.type value.control capacities.adopted
    value.payload capacities.payload transfer.session.limits (layout.frame + capacities.control)
  let view ← token.consume
  let next ← transfer.prepareTransition value view token.control.length token.controlDigest true
  .ok (transfer.enter next)

/-- A token after `consume` succeeded. -/
def ClosureControlToken.spent (token : ClosureControlToken) : ClosureControlToken where
  type := token.type
  control := token.control
  parsed := token.parsed
  residentBytes := token.residentBytes
  controlDigest := token.controlDigest
  consumed := true
  admitted h := absurd h (by simp)
  digest_eq h := absurd h (by simp)

/-- `closure_transfer::accept_decoded`, with the token it leaves behind. -/
def ClosureTransfer.acceptDecoded (transfer : ClosureTransfer) (value : Frame)
    (token : ClosureControlToken) : Result ClosureTransfer × ClosureControlToken :=
  if value.control.isEmpty = false then
    (.error (failure "control" "must-be-adopted" protocolStateInvalid), token)
  else if token.type ≠ value.type then
    (.error (failure "control" "type-mismatch" protocolStateInvalid), token)
  else
    match token.consume with
    | .error error => (.error error, token)
    | .ok view =>
      (do
        let next ← transfer.prepareTransition value view token.control.length token.controlDigest
          true
        .ok (transfer.enter next), token.spent)

/-! ## Prepared acknowledgements -/

/-- `closure_transfer::prepared_ack_transition`; a transfer is known by its address. -/
structure PreparedAckTransition where
  owner : Option Nat
  generation : UInt64
  next : MutableState
  wire : Bytes
  consumed : Bool := false
  deriving DecidableEq, Repr

/-- `prepared_ack_transition::abort` -/
def PreparedAckTransition.abort (transition : PreparedAckTransition) : PreparedAckTransition :=
  { transition with owner := none, generation := 0, consumed := true, wire := [] }

/-- `fixed_workspace` of `prepare_acknowledgement` -/
def Layout.ackFixedWorkspace (layout : Layout) : Nat :=
  layout.decodeFixedWorkspaceBytes + layout.frame + layout.controlView + layout.digest32 +
    2 * layout.resultBytes + layout.resultMutableState + layout.preparedAckTransition +
    layout.resultPreparedAckTransition

/-- `closure_transfer::prepare_acknowledgement` of the transfer at `self`; the last two arguments are
    the capacities of the encoded control and of the wire bytes. -/
def ClosureTransfer.prepareAcknowledgement (layout : Layout) (transfer : ClosureTransfer)
    (self : Nat) (value : SourceClosureAck) (sequence : UInt64)
    (controlCapacity wireCapacity : Nat) : Result PreparedAckTransition :=
  if transfer.active = false ∨ transfer.state.phase ≠ .closureSealed then
    .error (failure "phase" "ack-order" protocolStateInvalid)
  else do
    admitResident transfer.session.limits (residentSum layout.ackFixedWorkspace
      [4 * maxControlBytes.toNat + fixedHeaderBytes + 2 * 32 * layout.mapEntry])
    let control ← encodeClosureControl .sourceClosureAck (.ack value) transfer.session.limits
    let acknowledgement : Frame := {
      type := .sourceClosureAck
      streamId := transfer.session.streamId
      sequence := sequence
      control := control }
    let next ← transfer.prepareTransition acknowledgement (.ack value) control.length
      (sha256 control) false
    let wire ← encodeFrame acknowledgement {}
    admitResident transfer.session.limits
      (residentSum layout.ackFixedWorkspace [controlCapacity, wireCapacity])
    .ok { owner := some self, generation := transfer.generation, next := next, wire := wire }

/-- `closure_transfer::commit_acknowledgement` on the transfer at `self` -/
def ClosureTransfer.commitAcknowledgement (transfer : ClosureTransfer) (self : Nat)
    (transition : PreparedAckTransition) : ClosureTransfer × PreparedAckTransition :=
  if transfer.active = false ∨ transition.owner ≠ some self ∨ transition.consumed = true ∨
      transition.generation ≠ transfer.generation ∨ transfer.state.phase ≠ .closureSealed ∨
      transition.next.phase ≠ .acknowledged then
    (transfer, transition)
  else (transfer.enter transition.next, transition.abort)

/-! ## Moves

A moved-from `std::string` holds an unspecified value, so a move takes the session it leaves
behind as an argument. -/

/-- The source of a move: inactive, and its generation has changed. -/
def ClosureTransfer.movedFrom (other : ClosureTransfer) (leftover : ClosureSession) :
    ClosureTransfer :=
  { other with session := leftover, active := false, generation := other.generation + 1 }

/-- `closure_transfer::closure_transfer(closure_transfer&&)`: the new transfer. -/
def ClosureTransfer.moveConstruct (other : ClosureTransfer) : ClosureTransfer :=
  other

/-- `closure_transfer::operator=(closure_transfer&&)` from another transfer: the target. -/
def ClosureTransfer.moveAssign (target other : ClosureTransfer) : ClosureTransfer :=
  { session := other.session
    state := other.state
    generation := target.generation + 1
    active := other.active }

end Cxxlens.ProtocolV2.Closure
