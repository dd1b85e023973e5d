import Cxxlens.ProtocolV2.Codec

set_option autoImplicit false

/-! # Sequence and credit guards

`sequence_guard` and `credit_window` of `codec.cpp`: the two counters that admit the next frame of a
stream. A guard that refuses a frame is left as it was, so an admission is a function to the new
guard or to the fault. -/

namespace Cxxlens.ProtocolV2

open Sdk (Error Result)
open Fallible

/-! ## The sequence guard -/

/-- `sequence_guard` -/
structure SequenceGuard where
  streamId : UInt64 := 1
  nextSequence : UInt64 := 0
  exhausted : Bool := false
  deriving DecidableEq, Repr

/-- `sequence_guard::accept` -/
def SequenceGuard.accept (guard : SequenceGuard) (value : Frame) : Result SequenceGuard :=
  if value.streamId ≠ guard.streamId then
    .error (failure "stream_id" "mismatch" "protocol-v2.sequence-invalid")
  else if guard.exhausted = true ∨ value.sequence < guard.nextSequence then
    .error (failure "sequence" "replay" "protocol-v2.replay-rejected")
  else if value.sequence ≠ guard.nextSequence then
    .error (failure "sequence" "gap-or-reorder" "protocol-v2.sequence-invalid")
  else if guard.nextSequence.toNat = 2 ^ 64 - 1 then .ok { guard with exhausted := true }
  else .ok { guard with nextSequence := guard.nextSequence + 1 }

/-! ## The credit window -/

/-- `credit` -/
structure Credit where
  bytes : UInt64 := 0
  frames : UInt64 := 0
  deriving DecidableEq, Repr

/-- `credit_window` -/
structure CreditWindow where
  available : Credit := {}
  deriving DecidableEq, Repr

/-- `credit_window::consume_encoded`: one frame and all its bytes, the header included. -/
def CreditWindow.consumeEncoded (window : CreditWindow) (controlBytes payloadBytes : Nat) :
    Result CreditWindow :=
  if window.available.frames = 0 then
    .error (failure "credit.frames" "exceeded" "protocol-v2.credit-exceeded")
  else if payloadBytes > sizeMax - fixedHeaderBytes ∨
      controlBytes > sizeMax - fixedHeaderBytes - payloadBytes then
    .error (failure "credit.bytes" "overflow" "protocol-v2.credit-exceeded")
  else
    let bytesUsed := fixedHeaderBytes + controlBytes + payloadBytes
    if bytesUsed > window.available.bytes.toNat then
      .error (failure "credit.bytes" "exceeded" "protocol-v2.credit-exceeded")
    else .ok ⟨{
      bytes := window.available.bytes - UInt64.ofNat bytesUsed
      frames := window.available.frames - 1 }⟩

/-- `credit_window::consume` -/
def CreditWindow.consume (window : CreditWindow) (value : Frame) : Result CreditWindow :=
  window.consumeEncoded value.control.length value.payload.length

/-- `credit_window::grant` -/
def CreditWindow.grant (window : CreditWindow) (increment : Credit) : Result CreditWindow :=
  if increment.bytes = 0 ∨ increment.frames = 0 then
    .error (failure "credit" "zero" "protocol-v2.credit-invalid")
  else if increment.bytes.toNat > sizeMax - window.available.bytes.toNat ∨
      increment.frames.toNat > sizeMax - window.available.frames.toNat then
    .error (failure "credit" "overflow" "protocol-v2.credit-invalid")
  else .ok ⟨{
    bytes := window.available.bytes + increment.bytes
    frames := window.available.frames + increment.frames }⟩

/-! ## The transcript guard -/

/-- `transcript_guard` -/
structure TranscriptGuard where
  sequence : SequenceGuard := {}
  credit : CreditWindow := {}
  deriving DecidableEq, Repr

/-- `transcript_guard::accept`: both guards are copied, and the copies are kept together. -/
def TranscriptGuard.accept (guard : TranscriptGuard) (value : Frame) (consumeCredit : Bool) :
    Result Unit × TranscriptGuard :=
  match guard.sequence.accept value with
  | .error e => (.error e, guard)
  | .ok sequenceCopy =>
    if consumeCredit then
      match guard.credit.consume value with
      | .error e => (.error e, guard)
      | .ok creditCopy => (.ok (), { sequence := sequenceCopy, credit := creditCopy })
    else (.ok (), { guard with sequence := sequenceCopy })

end Cxxlens.ProtocolV2
