import Cxxlens.ProtocolV2.Closure.Parse

set_option autoImplicit false

/-! # Control tokens and resident accounting

`decode_closure_control_token`, `decode_closure_control` and `validate_closure_payload`. Decoding
adds up what it keeps resident before it allocates. The sizes of the types are a parameter
(`Layout`), and so are the capacities the allocator gives (`Allocation` and the arguments named
after a `capacity()`). Allocation failures are not modelled. -/

namespace Cxxlens.ProtocolV2.Closure

open Sdk (Error Result)
open Fallible

/-! ## Resident bytes -/

/-- The `sizeof`s and fixed workspaces the accounting adds up. -/
structure Layout where
  canonicalScanWorkspaceBytes : Nat
  sha256WorkspaceBytes : Nat
  scanResult : Nat
  digest32 : Nat
  parsedControl : Nat
  controlView : Nat
  optionalControlView : Nat
  resultVoid : Nat
  resultParsedControl : Nat
  resultControlView : Nat
  resultControlToken : Nat
  frame : Nat
  mapEntry : Nat
  control : Nat
  resultControl : Nat
  resultBytes : Nat
  resultMutableState : Nat
  preparedAckTransition : Nat
  resultPreparedAckTransition : Nat
  deriving DecidableEq, Repr

/-- Sizes of the order of a 64-bit build. -/
def sampleLayout : Layout where
  canonicalScanWorkspaceBytes := 2048
  sha256WorkspaceBytes := 512
  scanResult := 24
  digest32 := 32
  parsedControl := 200
  controlView := 184
  optionalControlView := 192
  resultVoid := 104
  resultParsedControl := 208
  resultControlView := 192
  resultControlToken := 320
  frame := 160
  mapEntry := 80
  control := 288
  resultControl := 296
  resultBytes := 104
  resultMutableState := 424
  preparedAckTransition := 480
  resultPreparedAckTransition := 488

/-- `closure_control_decode_fixed_workspace_bytes` -/
def Layout.decodeFixedWorkspaceBytes (layout : Layout) : Nat :=
  layout.canonicalScanWorkspaceBytes + layout.scanResult + layout.sha256WorkspaceBytes +
    layout.digest32 + layout.parsedControl + layout.controlView + layout.optionalControlView +
    layout.resultVoid + layout.resultParsedControl + layout.resultControlView +
    layout.resultControlToken

/-- The capacities of what one call of `decode_closure_control` allocates. -/
structure Allocation where
  /-- `adopted.capacity()` -/
  adopted : Nat
  /-- The capacity of a `std::string` made of these bytes. -/
  string : Bytes → Nat
  /-- `observed_counters.capacity()` -/
  counters : Nat

/-- A chain of the checked additions `add(total, value)`. -/
def residentSum : Nat → List Nat → Option Nat
  | total, [] => some total
  | total, value :: rest =>
    if value > sizeMax - total then none else residentSum (total + value) rest

/-- `resident_limit` -/
def residentLimit (bound : ClosureLimits) : Nat :=
  min bound.maximumResidentTransportBytes.toNat maxClosureResidentTransportBytes.toNat

/-- The two checks that follow a chain of additions. -/
def admitResident (bound : ClosureLimits) : Option Nat → Result Unit
  | none => .error (failure "resident" "overflow" limitExceeded)
  | some resident =>
    if resident > residentLimit bound then
      .error (failure "resident" "limit-exceeded" limitExceeded)
    else .ok ()

/-- The strings of a control that `owned_control_resident` adds, in its order. -/
def ownedStrings : ClosureControl → List Bytes
  | .manifest (.descriptor item) => [item.sessionId, item.taskId, item.manifestDigest,
      item.taskV4Digest, item.closureId, item.closureDigest]
  | .manifest (.chunk item) => [item.sessionId, item.taskId, item.manifestDigest]
  | .blob item => [item.sessionId, item.taskId, item.closureDigest, item.blobDigest]
  | .chunk item => [item.sessionId, item.taskId, item.blobDigest]
  | .sealed item => [item.sessionId, item.taskId, item.taskV4Digest, item.manifestDigest,
      item.blobReceiptsDigest, item.closureDigest, item.transferDigest]
  | .ack item => [item.sessionId, item.taskId, item.closureDigest, item.transferDigest,
      item.spoolReceipt, item.cleanupOwner]
  | .reject item => [item.sessionId, item.taskId, item.failurePhase, item.reasonCode,
      item.cleanupReceipt]

/-- The addition of `owned_control_resident`, which saturates. -/
def addSaturating (total value : Nat) : Nat :=
  if value > sizeMax - total then sizeMax else total + value

/-- `owned_control_resident` -/
def ownedControlResident (layout : Layout) (alloc : Allocation) (control : ClosureControl) : Nat :=
  let strings := (ownedStrings control).foldl (fun total item => addSaturating total
    (alloc.string item)) layout.control
  match control with
  | .reject item =>
    item.observedCounters.foldl (fun total counter => addSaturating total
      (alloc.string counter.1)) (addSaturating strings (alloc.counters * layout.mapEntry))
  | _ => strings

/-! ## Tokens -/

/-- `closure_control_token`: "Move-only owner of one canonical, schema-validated closure control."
    Its constructor is private to the decoder, so a token that can still be consumed holds a control
    the parser admitted. -/
@[ext]
structure ClosureControlToken where
  type : MessageType
  control : Bytes
  parsed : ClosureParsedControl
  residentBytes : Nat
  controlDigest : Digest32
  consumed : Bool
  admitted : consumed = false → ∃ bound, parseClosureControl type control bound = .ok parsed
  digest_eq : consumed = false → controlDigest = sha256 control

/-- `closure_control_token::value` -/
def ClosureControlToken.value (token : ClosureControlToken) : Option ClosureControlView :=
  if token.consumed = true ∨ token.control.isEmpty = true then none
  else some (makeControlView token.type token.control token.parsed)

/-- `closure_control_token::consume`; the token is consumed when this succeeds. -/
def ClosureControlToken.consume (token : ClosureControlToken) : Result ClosureControlView :=
  if token.consumed = true then
    .error (failure "control" "already-consumed" "source-closure.replay-invalid")
  else
    match token.value with
    | none => .error (failure "control" "moved-from" "source-closure.replay-invalid")
    | some output => .ok output

/-- `token_resident` -/
def tokenResident (layout : Layout) (controlCapacity : Nat) : Option Nat :=
  residentSum 0 [controlCapacity, layout.decodeFixedWorkspaceBytes]

/-- `peak_resident` -/
def peakResident (layout : Layout) (controlCapacity payloadCapacity callerFixed : Nat) :
    Option Nat := do
  let token ← tokenResident layout controlCapacity
  residentSum 0 [fixedHeaderBytes, callerFixed, payloadCapacity, token]

/-- `decode_closure_control_token` -/
def decodeClosureControlToken (layout : Layout) (type : MessageType) (control : Bytes)
    (controlCapacity : Nat) (payload : Bytes) (payloadCapacity : Nat) (bound : ClosureLimits)
    (callerFixedResidentBytes : Nat) : Result ClosureControlToken :=
  if control.isEmpty = true ∨ control.length > maxControlBytes.toNat then
    .error (failure "control" "empty-or-limit-exceeded" limitExceeded)
  else if payload.length >
      min bound.maximumChunkPayloadBytes.toNat maxClosureChunkPayloadBytes.toNat then
    .error (failure "payload" "limit-exceeded" limitExceeded)
  else do
    admitResident bound (peakResident layout controlCapacity payloadCapacity
      callerFixedResidentBytes)
    match h : parseClosureControl type control bound with
    | .error error => .error error
    | .ok parsed => .ok {
        type := type
        control := control
        parsed := parsed
        residentBytes := (tokenResident layout controlCapacity).getD 0
        controlDigest := sha256 control
        consumed := false
        admitted := fun _ => ⟨bound, h⟩
        digest_eq := fun _ => rfl }

/-- **What a token is made of.** -/
theorem decodeClosureControlToken_eq_ok_iff {layout : Layout} {type : MessageType}
    {control payload : Bytes} {controlCapacity payloadCapacity callerFixed : Nat}
    {bound : ClosureLimits} {token : ClosureControlToken} :
    decodeClosureControlToken layout type control controlCapacity payload payloadCapacity bound
        callerFixed = .ok token ↔
      ¬ (control.isEmpty = true ∨ control.length > maxControlBytes.toNat) ∧
        ¬ payload.length >
          min bound.maximumChunkPayloadBytes.toNat maxClosureChunkPayloadBytes.toNat ∧
        admitResident bound (peakResident layout controlCapacity payloadCapacity callerFixed)
          = .ok () ∧
        parseClosureControl type control bound = .ok token.parsed ∧ token.type = type ∧
        token.control = control ∧
        token.residentBytes = (tokenResident layout controlCapacity).getD 0 ∧
        token.controlDigest = sha256 control ∧ token.consumed = false := by
  rw [decodeClosureControlToken, guard_eq_ok_iff, guard_eq_ok_iff, seq_eq_ok_iff]
  refine and_congr_right fun _ => and_congr_right fun _ => and_congr_right fun _ => ?_
  constructor
  · intro h
    split at h
    · exact absurd h (by simp)
    · rename_i parsed hparse
      obtain rfl := Except.ok.inj h
      exact ⟨hparse, rfl, rfl, rfl, rfl, rfl⟩
  · rintro ⟨hparse, htype, hcontrol, hresident, hdigest, hconsumed⟩
    split
    · rename_i error herror
      exact absurd (herror.symm.trans hparse) (by simp)
    · rename_i parsed hparse'
      have hparsed := Except.ok.inj (hparse'.symm.trans hparse)
      congr 1
      exact ClosureControlToken.ext htype.symm hcontrol.symm hparsed hresident.symm hdigest.symm
        hconsumed.symm

/-- Consuming a fresh token shows the view of its control. -/
theorem consume_eq_ok {token : ClosureControlToken} (hconsumed : token.consumed = false)
    (hcontrol : token.control.isEmpty = false) :
    token.consume = .ok (makeControlView token.type token.control token.parsed) := by
  simp [ClosureControlToken.consume, ClosureControlToken.value, hconsumed, hcontrol]

/-! ## Owning decode -/

/-- `projected_resident` of `decode_closure_control` -/
def projectedResident (layout : Layout) (control : Bytes) : Option Nat :=
  residentSum (fixedHeaderBytes + layout.frame) [control.length, layout.decodeFixedWorkspaceBytes,
    4 * maxControlBytes.toNat + 2 * 32 * layout.mapEntry, layout.control, layout.resultControl]

/-- `resident` of `decode_closure_control` -/
def decodedResident (layout : Layout) (alloc : Allocation) (control : Bytes) (tokenBytes : Nat)
    (output : ClosureControl) : Option Nat :=
  residentSum (fixedHeaderBytes + layout.frame + control.length)
    [tokenBytes, ownedControlResident layout alloc output, layout.resultControl]

/-- `decode_closure_control` -/
def decodeClosureControl (layout : Layout) (alloc : Allocation) (type : MessageType)
    (control : Bytes) (bound : ClosureLimits) : Result ClosureControl :=
  if isClosureMessage type = false then .error (failure "message_type" "not-closure")
  else if control.isEmpty = true ∨ control.length > maxControlBytes.toNat then
    .error (failure "control" "empty-or-limit-exceeded" limitExceeded)
  else do
    admitResident bound (projectedResident layout control)
    let token ← decodeClosureControlToken layout type control alloc.adopted [] 0 bound
      (layout.frame + control.length)
    let view ← token.consume
    let output := ownControlView view
    admitResident bound (decodedResident layout alloc control token.residentBytes output)
    .ok output

/-! ## Payloads -/

/-- `validate_closure_payload`, whose two overloads have the same text. -/
def validateClosurePayloadOf {Counters : Type} (type : MessageType) (control : ControlOf Counters)
    (payload : Bytes) (bound : ClosureLimits) : Result Unit :=
  if isClosureMessage type = false then .error (failure "message_type" "not-closure")
  else if type = .sourceClosureManifest then
    match control with
    | .manifest (.chunk chunk) =>
      if payload.length ≠ chunk.byteCount.toNat ∨
          payload.length > bound.maximumChunkPayloadBytes.toNat then
        .error (failure "payload" "byte-count-mismatch" chunkOrderInvalid)
      else .ok ()
    | .manifest (.descriptor _) => .ok ()
    | _ => .error (failure "control" "type-mismatch")
  else if type = .sourceClosureChunk then
    match control with
    | .chunk item =>
      if payload.length ≠ item.byteCount.toNat ∨
          payload.length > bound.maximumChunkPayloadBytes.toNat then
        .error (failure "payload" "byte-count-mismatch" chunkOrderInvalid)
      else .ok ()
    | _ => .error (failure "control" "type-mismatch")
  else if payload.isEmpty = false then
    .error (failure "payload" "must-be-empty" protocolStateInvalid)
  else .ok ()

/-- `validate_closure_payload` on an owning control -/
def validateClosurePayload (type : MessageType) (control : ClosureControl) (payload : Bytes)
    (bound : ClosureLimits) : Result Unit :=
  validateClosurePayloadOf type control payload bound

/-- `validate_closure_payload` on a view -/
def validateClosurePayloadView (type : MessageType) (control : ClosureControlView)
    (payload : Bytes) (bound : ClosureLimits) : Result Unit :=
  validateClosurePayloadOf type control payload bound

end Cxxlens.ProtocolV2.Closure
