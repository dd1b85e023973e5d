import Cxxlens.ProtocolV2.Closure.Grammar

set_option autoImplicit false

/-! # Payload bytes

Which payload belongs to a control, and what becomes of the payload bytes of a transfer. A chunk is
counted byte by byte and everything else should be empty, but `validate_closure_payload` lets a
manifest descriptor through with any payload: these bytes are counted nowhere
(`run_payload_bytes`). -/

namespace Cxxlens.ProtocolV2.Closure

open Sdk (Error Result)
open Fallible
open Chunking (Shape)

/-! ## The rule -/

/-- The payload that `closure.hpp` documents for a control: exactly the bytes of a chunk, and nothing
    for a descriptor, a seal, an acknowledgement or a reject. -/
def PayloadRule {Counters : Type} (control : ControlOf Counters) (payload : Bytes)
    (bound : ClosureLimits) : Prop :=
  match control with
  | .manifest (.chunk chunk) => payload.length = chunk.byteCount.toNat ∧
      payload.length ≤ bound.maximumChunkPayloadBytes.toNat
  | .chunk item => payload.length = item.byteCount.toNat ∧
      payload.length ≤ bound.maximumChunkPayloadBytes.toNat
  | _ => payload = []

/-- The control is the descriptor of a manifest. -/
def IsManifestDescriptor {Counters : Type} (control : ControlOf Counters) : Prop :=
  ∃ descriptor, control = .manifest (.descriptor descriptor)

theorem validateClosurePayloadOf_eq_ok_iff {Counters : Type} (control : ControlOf Counters)
    (payload : Bytes) (bound : ClosureLimits) :
    validateClosurePayloadOf control.type control payload bound = .ok () ↔
      IsManifestDescriptor control ∨ PayloadRule control payload bound := by
  have hchunk : ∀ {byteCount : UInt64} (error : Error),
      (if payload.length ≠ byteCount.toNat ∨
          payload.length > bound.maximumChunkPayloadBytes.toNat then Except.error error
        else .ok ()) = .ok () ↔
        payload.length = byteCount.toNat ∧
          payload.length ≤ bound.maximumChunkPayloadBytes.toNat := by
    intro byteCount error
    rw [guard_eq_ok_iff, not_or, not_not, not_lt]
    exact and_iff_left rfl
  have hempty : ∀ error : Error,
      (if payload.isEmpty = false then Except.error error else .ok ()) = .ok () ↔
        payload = [] := by
    intro error
    rw [guard_eq_ok_iff, Bool.not_eq_false, List.isEmpty_iff]
    exact and_iff_left rfl
  have hnot : ∀ {other : ControlOf Counters}, other.type ≠ .sourceClosureManifest →
      ¬ IsManifestDescriptor other := by
    intro other htype hdescriptor
    obtain ⟨descriptor, rfl⟩ := hdescriptor
    exact htype rfl
  cases control with
  | manifest item =>
      cases item with
      | descriptor item => exact iff_of_true rfl (.inl ⟨item, rfl⟩)
      | chunk item =>
          have hother : ¬ IsManifestDescriptor (.manifest (.chunk item) : ControlOf Counters) := by
            intro hdescriptor
            obtain ⟨descriptor, h⟩ := hdescriptor
            cases h
          rw [or_iff_right hother]
          exact hchunk _
  | chunk item =>
      rw [or_iff_right (hnot (by simp only [ControlOf.type]; decide))]
      exact hchunk _
  | blob item | sealed item | ack item | reject item =>
      rw [or_iff_right (hnot (by simp only [ControlOf.type]; decide))]
      exact hempty _

/-- The code obeys the rule wherever it does not let the payload of a manifest descriptor through. -/
theorem validateClosurePayloadOf_rule_iff {Counters : Type} (control : ControlOf Counters)
    (payload : Bytes) (bound : ClosureLimits) :
    (validateClosurePayloadOf control.type control payload bound = .ok () ↔
        PayloadRule control payload bound) ↔
      ¬ (IsManifestDescriptor control ∧ payload ≠ []) := by
  rw [validateClosurePayloadOf_eq_ok_iff]
  by_cases hdescriptor : IsManifestDescriptor control
  · obtain ⟨descriptor, rfl⟩ := hdescriptor
    have hrule : PayloadRule (.manifest (.descriptor descriptor) : ControlOf Counters) payload bound ↔
        payload = [] := Iff.rfl
    have hself : IsManifestDescriptor (.manifest (.descriptor descriptor) : ControlOf Counters) :=
      ⟨descriptor, rfl⟩
    simp [hself, hrule]
  · simp [hdescriptor]

/-! ## One accepted frame -/

/-- The bytes that an accepted control with this payload leaves uncounted. -/
def strayBytes (view : ClosureControlView) (payload : Bytes) : Nat :=
  match view with
  | .manifest (.descriptor _) => payload.length
  | _ => 0

theorem strayBytes_eq_zero_iff (view : ClosureControlView) (payload : Bytes) :
    strayBytes view payload = 0 ↔ ¬ (IsManifestDescriptor view ∧ payload ≠ []) := by
  rcases view with (item | item) | item | item | item | item | item
  · simp [strayBytes, IsManifestDescriptor]
  all_goals simp [strayBytes, IsManifestDescriptor]

/-- The bytes a state has counted. -/
def countedBytes (state : MutableState) : Nat :=
  state.manifestObserved.toNat + state.blobObservedTotal.toNat

/-- Every payload byte of an accepted control is counted or stray. -/
theorem counted_step {session : ClosureSession} {state next : MutableState}
    {controls : List ClosureControlView} (h : Follows state controls) {view : ClosureControlView}
    {payload : Bytes} {bound : ClosureLimits} (hvalid : validateView view bound = .ok ())
    (hpayload : IsManifestDescriptor view ∨ PayloadRule view payload session.limits)
    (hstep : onControl session state view = .ok next) :
    countedBytes next + strayBytes view payload = countedBytes state + payload.length := by
  have hrule : ¬ IsManifestDescriptor view → PayloadRule view payload session.limits :=
    fun hnot => hpayload.resolve_left hnot
  unfold countedBytes strayBytes
  rcases view with (item | item) | item | item | item | item | item
  · -- the descriptor resets a counter that is still zero
    obtain ⟨hphase, -, -, rfl⟩ := onManifestDescriptor_eq_ok hstep
    cases h with
    | fresh _ hobserved hordinal htotal => simp [hobserved]
    | manifest h | blobs h | blob h | done h | acknowledged h | rejected h =>
        exact absurd (h.symm.trans hphase) (by simp)
  · obtain ⟨-, -, -, hobserved, -, -, hfits, -, rfl⟩ := onManifestChunk_eq_ok hstep
    have hcount := (hrule (by simp [IsManifestDescriptor])).1
    have hsum := (toNat_add_of_le_sub hobserved hfits).1
    dsimp only
    omega
  · obtain ⟨-, -, -, digest, -, -, rfl⟩ := onBlobDescriptor_eq_ok hstep
    have hnone : payload = [] := hrule (by simp [IsManifestDescriptor])
    subst hnone
    dsimp only
    split_ifs with hcount
    · -- a blob without chunks has no bytes
      have hzero : (BlobPart.shape ⟨item, []⟩).chunkCount = 0 := by
        simp [BlobPart.shape, hcount]
      have hempty : item.totalBytes.toNat = 0 := (shape_of_blob hvalid).1.total_eq_zero hzero
      rw [UInt64.toNat_inj.1 (show item.totalBytes.toNat = (0 : UInt64).toNat from hempty),
        UInt64.add_zero]
      rfl
    · rfl
  · obtain ⟨-, -, -, -, -, -, -, -, -, hunique, hroom, -, rfl⟩ := onBlobChunk_eq_ok hstep
    have hcount := (hrule (by simp [IsManifestDescriptor])).1
    -- the limit keeps the sum over all blobs from wrapping
    have hsum : (state.blobObservedTotal + item.byteCount).toNat =
        state.blobObservedTotal.toNat + item.byteCount.toNat := by
      rw [UInt64.add_comm, Nat.add_comm]
      exact (toNat_add_of_le_sub hunique hroom).1
    dsimp only
    omega
  · obtain ⟨-, -, -, -, -, -, digest, -, rfl⟩ := onSeal_eq_ok hstep
    have hnone : payload = [] := hrule (by simp [IsManifestDescriptor])
    rw [hnone]
    rfl
  · obtain ⟨-, -, rfl⟩ := onAck_eq_ok hstep
    have hnone : payload = [] := hrule (by simp [IsManifestDescriptor])
    rw [hnone]
    rfl
  · obtain ⟨-, -, -, rfl⟩ := onReject_eq_ok hstep
    have hnone : payload = [] := hrule (by simp [IsManifestDescriptor])
    rw [hnone]
    rfl

theorem counted_accepts {transfer : ClosureTransfer} {next : MutableState}
    {controls : List ClosureControlView} (h : Follows transfer.state controls) {value : Frame}
    {view : ClosureControlView} (haccepts : Accepts transfer value view next) :
    countedBytes next + strayBytes view value.payload =
      countedBytes transfer.state + value.payload.length := by
  obtain ⟨bound, hvalid⟩ := haccepts.valid
  obtain ⟨sequence, credit, hstep⟩ := haccepts.step
  have hpayload := haccepts.payload
  rw [← haccepts.type, validateClosurePayloadView, validateClosurePayloadOf_eq_ok_iff] at hpayload
  exact counted_step (h.advance sequence credit) hvalid hpayload hstep

/-! ## Runs -/

/-- A frame that carries a manifest descriptor and a payload. -/
def HasStrayPayload (bound : ClosureLimits) (value : Frame) : Prop :=
  ∃ view, frameControl bound value = some view ∧ IsManifestDescriptor view ∧ value.payload ≠ []

/-- In the end the counters lack what manifest descriptors brought along. -/
theorem counted_run (layout : Layout) {transfer : ClosureTransfer}
    {controls : List ClosureControlView} (h : Follows transfer.state controls)
    (frames : List (Frame × FrameCapacities)) :
    countedBytes (transfer.run layout frames).1.state ≤
        countedBytes transfer.state +
          ((transfer.run layout frames).2.map fun value => value.payload.length).sum ∧
      (countedBytes (transfer.run layout frames).1.state =
          countedBytes transfer.state +
            ((transfer.run layout frames).2.map fun value => value.payload.length).sum ↔
        ∀ value ∈ (transfer.run layout frames).2,
          ¬ HasStrayPayload transfer.session.limits value) := by
  induction frames generalizing transfer controls with
  | nil =>
      rw [ClosureTransfer.run]
      simp
  | cons head rest ih =>
      obtain ⟨value, capacities⟩ := head
      rw [ClosureTransfer.run]
      rcases haccept : transfer.accept layout value capacities with error | transfer'
      · exact ih h
      · obtain ⟨view, next, hview, -, haccepts, rfl⟩ := accept_eq_ok haccept
        have hstep : Follows (transfer.enter next).state (controls ++ [view]) := h.accepts haccepts
        have hcounted := counted_accepts h haccepts
        obtain ⟨hle, hiff⟩ := ih hstep
        have hstray : ¬ HasStrayPayload transfer.session.limits value ↔
            strayBytes view value.payload = 0 := by
          rw [strayBytes_eq_zero_iff, HasStrayPayload, hview]
          simp
        have hnext : countedBytes (transfer.enter next).state = countedBytes next := rfl
        have hlimits : (transfer.enter next).session.limits = transfer.session.limits := rfl
        dsimp only
        rw [hnext] at hle hiff
        rw [List.map_cons, List.sum_cons, List.forall_mem_cons, hstray, ← hlimits, ← hiff,
          ← Nat.add_assoc, ← hcounted]
        refine ⟨by omega, ?_⟩
        omega

/-- **When payloads are accounted for.** Both overloads of `validate_closure_payload` accept exactly
    what the rule allows, and the accepted frames of a run carry exactly the payload bytes that the
    transfer has counted, if and only if no manifest descriptor comes with a payload. -/
theorem run_payload_bytes (layout : Layout) :
    (∀ (control : ClosureControl) (payload : Bytes) (bound : ClosureLimits),
      (validateClosurePayload control.type control payload bound = .ok () ↔
          PayloadRule control payload bound) ↔
        ¬ (IsManifestDescriptor control ∧ payload ≠ [])) ∧
    (∀ (control : ClosureControlView) (payload : Bytes) (bound : ClosureLimits),
      (validateClosurePayloadView control.type control payload bound = .ok () ↔
          PayloadRule control payload bound) ↔
        ¬ (IsManifestDescriptor control ∧ payload ≠ [])) ∧
    ∀ (session : ClosureSession) (transfer : ClosureTransfer)
      (frames : List (Frame × FrameCapacities)),
      ClosureTransfer.create session = .ok transfer →
      (((transfer.run layout frames).2.map fun value => value.payload.length).sum =
          (transfer.run layout frames).1.manifestBytes.toNat +
            (transfer.run layout frames).1.blobBytes.toNat ↔
        ∀ value ∈ (transfer.run layout frames).2, ¬ HasStrayPayload session.limits value) := by
  refine ⟨fun control payload bound => validateClosurePayloadOf_rule_iff control payload bound,
    fun control payload bound => validateClosurePayloadOf_rule_iff control payload bound, ?_⟩
  intro session transfer frames hcreate
  obtain ⟨hfresh, hsession⟩ := follows_create hcreate
  have hzero : countedBytes transfer.state = 0 := by
    rw [ClosureTransfer.create, guard_eq_ok_iff, seq_eq_ok_iff, seq_eq_ok_iff,
      guard_eq_ok_iff] at hcreate
    obtain rfl := Except.ok.inj hcreate.2.2.2.2
    rfl
  obtain ⟨-, hiff⟩ := counted_run layout hfresh frames
  rw [hzero, Nat.zero_add, hsession] at hiff
  rw [← hiff]
  exact eq_comm

/-- A manifest descriptor with one byte of payload. -/
def strayFrames : List (Frame × FrameCapacities) :=
  [({ sampleFrame sampleDescriptor 0 with payload := [0x78] }, ⟨600, 1, 600⟩)]

/-- The transfer accepts the frame and counts nothing. -/
theorem run_strayFrames :
    ((sampleTransfer.run sampleLayout strayFrames).2.map fun value => value.payload.length).sum = 1 ∧
      (sampleTransfer.run sampleLayout strayFrames).1.manifestBytes = 0 ∧
      (sampleTransfer.run sampleLayout strayFrames).1.blobBytes = 0 := by
  decide +kernel

theorem run_payload_bytes_sample :
    ∃ value ∈ (sampleTransfer.run sampleLayout strayFrames).2,
      HasStrayPayload sampleSession.limits value := by
  have hcreate : ClosureTransfer.create sampleSession = .ok sampleTransfer := by decide
  obtain ⟨hsum, hmanifest, hblob⟩ := run_strayFrames
  have hiff := (run_payload_bytes sampleLayout).2.2 sampleSession sampleTransfer strayFrames hcreate
  rw [hsum, hmanifest, hblob] at hiff
  by_contra hnone
  refine absurd (hiff.2 fun value hvalue hstray => hnone ⟨value, hvalue, hstray⟩) ?_
  decide

/-- The rule is broken by a manifest descriptor with a payload, which is accepted by the check and
    by the transfer. -/
theorem payloadRule_fails :
    validateClosurePayload .sourceClosureManifest sampleDescriptor [0x78] {} = .ok () ∧
      ¬ PayloadRule sampleDescriptor [0x78] {} ∧
      ((sampleTransfer.run sampleLayout strayFrames).2.map fun value => value.payload.length).sum ≠
        (sampleTransfer.run sampleLayout strayFrames).1.manifestBytes.toNat +
          (sampleTransfer.run sampleLayout strayFrames).1.blobBytes.toNat := by
  refine ⟨rfl, List.cons_ne_nil _ _, ?_⟩
  obtain ⟨hsum, hmanifest, hblob⟩ := run_strayFrames
  rw [hsum, hmanifest, hblob]
  decide

end Cxxlens.ProtocolV2.Closure
