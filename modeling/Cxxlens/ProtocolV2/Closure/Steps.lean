import Cxxlens.Foundation.Chunking
import Cxxlens.ProtocolV2.Closure.Entries
import Cxxlens.ProtocolV2.Closure.Transfer

set_option autoImplicit false

/-! # What one step of a transfer can do

One inversion lemma for each branch of `prepare_transition`, and one for each way a frame reaches
it. Everything about runs of a transfer is derived from these. -/

namespace Cxxlens.ProtocolV2.Closure

open Sdk (Error Result)
open Fallible
open Chunking (Shape Place)

/-! ## Checks -/

theorem checkAll_eq_ok_iff (check : Bytes → Bytes → Result Unit) (items : List (Bytes × Bytes)) :
    checkAll check items = .ok () ↔ ∀ item ∈ items, check item.2 item.1 = .ok () := by
  induction items with
  | nil => simp [checkAll]
  | cons item rest ih =>
      obtain ⟨field, value⟩ := item
      rw [checkAll, seq_eq_ok_iff, ih]
      simp

theorem validSemantic_eq_ok_iff (value field : Bytes) :
    validSemantic value field = .ok () ↔ semanticDigest value = true := by
  rw [validSemantic, guard_eq_ok_iff]
  simp

theorem ne_nil_of_semanticDigest {value : Bytes} (h : semanticDigest value = true) :
    value ≠ [] := by
  rintro rfl
  exact absurd h (by decide)

/-- `valid_shape` checks that the chunk count is the total divided by the chunk size, rounded
    up. -/
theorem shape_of_validShape {totalBytes chunkBytes chunkCount : UInt64}
    {maxChunkBytes maxChunks : SizeT} {field : Bytes}
    (h : validShape totalBytes chunkBytes chunkCount maxChunkBytes maxChunks field = .ok ()) :
    Shape.Valid ⟨totalBytes.toNat, chunkBytes.toNat, chunkCount.toNat⟩ := by
  rw [validShape, guard_eq_ok_iff, guard_eq_ok_iff, not_or, not_or, not_not] at h
  obtain ⟨⟨hzero, -⟩, ⟨hcount, -⟩, -⟩ := h
  have hpos : 0 < chunkBytes.toNat := by
    rw [← UInt64.toNat_inj, UInt64.toNat_zero] at hzero
    omega
  refine ⟨hpos, ?_⟩
  show chunkCount.toNat = (totalBytes.toNat + chunkBytes.toNat - 1) / chunkBytes.toNat
  rw [Chunking.roundUp_eq _ hpos, ← hcount]
  have hmod : totalBytes % chunkBytes = 0 ↔ totalBytes.toNat % chunkBytes.toNat = 0 := by
    rw [← UInt64.toNat_inj, UInt64.toNat_mod, UInt64.toNat_zero]
  have htotal : totalBytes = 0 ↔ totalBytes.toNat = 0 := by
    rw [← UInt64.toNat_inj, UInt64.toNat_zero]
  have hlt := totalBytes.toNat_lt
  by_cases hnone : totalBytes.toNat = 0
  · simp [htotal.2 hnone]
  · rw [if_neg (fun heq => hnone (htotal.1 heq)), UInt64.toNat_add, UInt64.toNat_div]
    by_cases hrest : totalBytes.toNat % chunkBytes.toNat = 0
    · have hle := Nat.div_le_self totalBytes.toNat chunkBytes.toNat
      rw [if_pos (hmod.2 hrest), if_pos hrest, UInt64.toNat_zero, Nat.mod_eq_of_lt (by omega)]
    · -- a remainder needs a chunk size of at least two, so one more chunk does not overflow
      have htwo : 1 < chunkBytes.toNat := by
        by_contra hone
        exact hrest (by rw [show chunkBytes.toNat = 1 by omega, Nat.mod_one])
      have hdiv := Nat.div_lt_self (Nat.pos_of_ne_zero hnone) htwo
      rw [if_neg (fun heq => hrest (hmod.1 heq)), if_neg hrest, UInt64.toNat_one,
        Nat.mod_eq_of_lt (by omega)]

theorem bindCommon_eq_ok_iff (session : ClosureSession) (sessionId taskId closureDigest : Bytes) :
    session.bindCommon sessionId taskId closureDigest = .ok () ↔
      sessionId = session.sessionId ∧ taskId = session.taskId ∧
        (closureDigest = [] ∨ session.closureDigest = [] ∨
          closureDigest = session.closureDigest) := by
  rw [ClosureSession.bindCommon, guard_eq_ok_iff, guard_eq_ok_iff, guard_eq_ok_iff]
  tauto

theorem assign_eq_some {value : Bytes} {text : FixedText} (h : FixedText.assign value = some text) :
    text.view = value := by
  unfold FixedText.assign at h
  split_ifs at h
  obtain rfl := Option.some.inj h
  rfl

/-! ## Branches -/

variable {session : ClosureSession} {next next' : MutableState}

theorem onManifestDescriptor_eq_ok {descriptor : SourceClosureManifestDescriptor}
    (h : onManifestDescriptor session next descriptor = .ok next') :
    next.phase = .taskV4Sealed ∧
      session.bindCommon descriptor.sessionId descriptor.taskId descriptor.closureDigest = .ok () ∧
      (session.manifestDigest = [] ∨ descriptor.manifestDigest = session.manifestDigest) ∧
      next' = { next with
        manifestTotal := descriptor.totalBytes
        manifestChunkBytes := descriptor.chunkBytes
        manifestChunkCount := descriptor.chunkCount
        manifestNextChunk := 0
        manifestObserved := 0
        phase := if descriptor.chunkCount = 0 then .manifestValidated else .manifestStreaming } := by
  rw [onManifestDescriptor, guard_eq_ok_iff, seq_eq_ok_iff, guard_eq_ok_iff, guard_eq_ok_iff,
    not_not] at h
  obtain ⟨hphase, hbind, -, hmanifest, hnext⟩ := h
  exact ⟨hphase, hbind, by tauto, (Except.ok.inj hnext).symm⟩

theorem onManifestChunk_eq_ok {chunk : SourceClosureManifestChunk}
    (h : onManifestChunk session next chunk = .ok next') :
    (next.phase = .manifestStreaming ∨ next.phase = .manifestOpen) ∧
      session.bindCommon chunk.sessionId chunk.taskId = .ok () ∧
      (session.manifestDigest = [] ∨ chunk.manifestDigest = session.manifestDigest) ∧
      next.manifestObserved ≤ next.manifestTotal ∧ chunk.chunkIndex = next.manifestNextChunk ∧
      chunk.offset = next.manifestObserved ∧
      chunk.byteCount ≤ next.manifestTotal - next.manifestObserved ∧
      (chunk.chunkIndex + 1 = next.manifestChunkCount →
        chunk.byteCount = next.manifestTotal - next.manifestObserved) ∧
      next' = { next with
        manifestObserved := next.manifestObserved + chunk.byteCount
        manifestNextChunk := next.manifestNextChunk + 1
        phase := if next.manifestNextChunk + 1 = next.manifestChunkCount then .manifestValidated
          else next.phase } := by
  rw [onManifestChunk, guard_eq_ok_iff, seq_eq_ok_iff, guard_eq_ok_iff, guard_eq_ok_iff] at h
  obtain ⟨hphase, hbind, hmanifest, hplace, hnext⟩ := h
  simp only [not_or, not_and, not_not, gt_iff_lt, UInt64.not_lt] at hplace
  obtain ⟨hobserved, hindex, hoffset, hfits, -, hlast⟩ := hplace
  refine ⟨by tauto, hbind, by tauto, hobserved, hindex, hoffset, hfits, hlast, ?_⟩
  rw [← Except.ok.inj hnext]
  split_ifs <;> rfl

theorem onBlobDescriptor_eq_ok {item : SourceClosureBlobDescriptor}
    (h : onBlobDescriptor session next item = .ok next') :
    next.phase = .manifestValidated ∧
      session.bindCommon item.sessionId item.taskId item.closureDigest = .ok () ∧
      item.blobOrdinal = next.nextBlobOrdinal ∧
      ∃ digest : FixedText, digest.view = item.blobDigest ∧
        ((item.chunkCount = 0 ∧ item.totalBytes ≤ session.limits.maximumUniqueBlobBytes ∧
            next.blobObservedTotal ≤ session.limits.maximumUniqueBlobBytes - item.totalBytes) ∨
          item.chunkCount ≠ 0) ∧
        next' = { next with
          currentBlobDigest := digest
          currentBlobOrdinal := item.blobOrdinal
          currentBlobTotal := item.totalBytes
          currentBlobChunkBytes := item.chunkBytes
          currentBlobChunkCount := item.chunkCount
          currentBlobNextChunk := 0
          currentBlobObserved := 0
          phase := if item.chunkCount = 0 then .manifestValidated else .blobStreaming
          nextBlobOrdinal :=
            if item.chunkCount = 0 then next.nextBlobOrdinal + 1 else next.nextBlobOrdinal
          blobObservedTotal :=
            if item.chunkCount = 0 then next.blobObservedTotal + item.totalBytes
            else next.blobObservedTotal } := by
  rw [onBlobDescriptor, guard_eq_ok_iff, seq_eq_ok_iff, guard_eq_ok_iff, not_not, not_not] at h
  obtain ⟨hphase, hbind, hordinal, h⟩ := h
  refine ⟨hphase, hbind, hordinal, ?_⟩
  rcases hassign : FixedText.assign item.blobDigest with _ | digest
  · rw [hassign] at h
    exact absurd h (by simp)
  · rw [hassign] at h
    refine ⟨digest, assign_eq_some hassign, ?_⟩
    by_cases hcount : item.chunkCount = 0
    · simp only [hcount, if_true, guard_eq_ok_iff, not_or, gt_iff_lt, UInt64.not_lt] at h
      obtain ⟨hlimits, hnext⟩ := h
      exact ⟨.inl ⟨hcount, hlimits⟩, by simp [hcount, ← Except.ok.inj hnext]⟩
    · simp only [hcount, if_false] at h
      exact ⟨.inr hcount, by simp [hcount, ← Except.ok.inj h]⟩

theorem onBlobChunk_eq_ok {item : SourceClosureChunk}
    (h : onBlobChunk session next item = .ok next') :
    next.phase = .blobStreaming ∧ session.bindCommon item.sessionId item.taskId = .ok () ∧
      next.currentBlobObserved ≤ next.currentBlobTotal ∧
      item.blobOrdinal = next.currentBlobOrdinal ∧
      item.blobDigest = next.currentBlobDigest.view ∧
      item.chunkIndex = next.currentBlobNextChunk ∧ item.offset = next.currentBlobObserved ∧
      item.byteCount ≤ next.currentBlobTotal - next.currentBlobObserved ∧
      (item.chunkIndex + 1 = next.currentBlobChunkCount →
        item.byteCount = next.currentBlobTotal - next.currentBlobObserved) ∧
      item.byteCount ≤ session.limits.maximumUniqueBlobBytes ∧
      next.blobObservedTotal ≤ session.limits.maximumUniqueBlobBytes - item.byteCount ∧
      (next.currentBlobNextChunk + 1 = next.currentBlobChunkCount →
        next.nextBlobOrdinal < session.limits.maximumBlobs) ∧
      next' = { next with
        currentBlobObserved := next.currentBlobObserved + item.byteCount
        currentBlobNextChunk := next.currentBlobNextChunk + 1
        blobObservedTotal := next.blobObservedTotal + item.byteCount
        nextBlobOrdinal :=
          if next.currentBlobNextChunk + 1 = next.currentBlobChunkCount then
            next.nextBlobOrdinal + 1
          else next.nextBlobOrdinal
        phase := if next.currentBlobNextChunk + 1 = next.currentBlobChunkCount then
          .manifestValidated else .blobStreaming } := by
  rw [onBlobChunk, guard_eq_ok_iff, seq_eq_ok_iff, guard_eq_ok_iff, guard_eq_ok_iff, not_not] at h
  obtain ⟨hphase, hbind, hplace, hlimits, h⟩ := h
  simp only [not_or, not_and, not_not, gt_iff_lt, UInt64.not_lt] at hplace hlimits
  obtain ⟨hobserved, hordinal, hdigest, hindex, hoffset, hfits, -, hlast⟩ := hplace
  refine ⟨hphase, hbind, hobserved, hordinal, hdigest, hindex, hoffset, hfits, hlast, hlimits.1,
    hlimits.2.2.1, ?_⟩
  by_cases hdone : next.currentBlobNextChunk + 1 = next.currentBlobChunkCount
  · simp only [hdone, if_true, guard_eq_ok_iff, ge_iff_le, UInt64.not_le] at h
    exact ⟨fun _ => h.1, by simp [hdone, ← Except.ok.inj h.2]⟩
  · simp only [hdone, if_false] at h
    exact ⟨fun heq => absurd heq hdone, by simp [hdone, ← hphase, ← Except.ok.inj h]⟩

theorem onSeal_eq_ok {item : SourceClosureSeal} (h : onSeal session next item = .ok next') :
    next.phase = .manifestValidated ∧ next.currentBlobNextChunk = next.currentBlobChunkCount ∧
      session.bindCommon item.sessionId item.taskId item.closureDigest = .ok () ∧
      (session.manifestDigest = [] ∨ item.manifestDigest = session.manifestDigest) ∧
      item.blobCount = next.nextBlobOrdinal ∧ item.totalBytes = next.blobObservedTotal ∧
      ∃ digest : FixedText, digest.view = item.transferDigest ∧
        next' = { next with sealedTransferDigest := digest, phase := .closureSealed } := by
  rw [onSeal, guard_eq_ok_iff, seq_eq_ok_iff, guard_eq_ok_iff] at h
  obtain ⟨hphase, hbind, hcounters, h⟩ := h
  simp only [not_or, not_and, not_not] at hphase hcounters
  refine ⟨hphase.1, hphase.2, hbind, by tauto, hcounters.2.2.1, hcounters.2.2.2, ?_⟩
  rcases hassign : FixedText.assign item.transferDigest with _ | digest
  · rw [hassign] at h
    exact absurd h (by simp)
  · rw [hassign] at h
    exact ⟨digest, assign_eq_some hassign, (Except.ok.inj h).symm⟩

theorem onAck_eq_ok {item : SourceClosureAck} (h : onAck session next item = .ok next') :
    next.phase = .closureSealed ∧
      session.bindCommon item.sessionId item.taskId item.closureDigest = .ok () ∧
      next' = { next with phase := .acknowledged } := by
  rw [onAck, guard_eq_ok_iff, seq_eq_ok_iff, guard_eq_ok_iff, not_not] at h
  exact ⟨h.1, h.2.1, (Except.ok.inj h.2.2.2).symm⟩

theorem onReject_eq_ok {item : SourceClosureReject Bytes}
    (h : onReject session next item = .ok next') :
    next.phase ≠ .acknowledged ∧ next.phase ≠ .rejected ∧
      session.bindCommon item.sessionId item.taskId = .ok () ∧
      next' = { next with phase := .rejected } := by
  rw [onReject, guard_eq_ok_iff, seq_eq_ok_iff, not_or] at h
  exact ⟨h.1.1, h.1.2, h.2.1, (Except.ok.inj h.2.2).symm⟩

/-! ## Accepted frames -/

theorem advance_eq_ok {state : MutableState} {value : Frame} {controlBytes : Nat}
    {consumeCredit : Bool} (h : state.advance value controlBytes consumeCredit = .ok next) :
    ∃ sequence credit, next = { state with sequence := sequence, credit := credit } := by
  obtain ⟨sequence, -, h⟩ := bind_eq_ok_iff.1 h
  cases consumeCredit with
  | true =>
      obtain ⟨credit, -, h⟩ := bind_eq_ok_iff.1 h
      exact ⟨sequence, credit, (Except.ok.inj h).symm⟩
  | false => exact ⟨sequence, state.credit, (Except.ok.inj h).symm⟩

theorem type_view (slots : Slots) {type : MessageType} (hclosure : isClosureMessage type = true) :
    (slots.view type).type = type := by
  have htype := (expectedFields_ownControlView hclosure slots).1
  generalize slots.view type = view at htype
  cases view <;> exact htype

/-- What a transfer has checked of a frame with this control when it accepts it, and the state it
    enters. -/
structure Accepts (transfer : ClosureTransfer) (value : Frame) (view : ClosureControlView)
    (next : MutableState) : Prop where
  active : transfer.active = true
  type : view.type = value.type
  closure : isClosureMessage value.type = true
  valid : ∃ bound, validateView view bound = .ok ()
  payload : validateClosurePayloadView value.type view value.payload transfer.session.limits
    = .ok ()
  step : ∃ sequence credit, onControl transfer.session
    { transfer.state with sequence := sequence, credit := credit } view = .ok next

theorem accepts_of_prepareTransition {transfer : ClosureTransfer} {value : Frame}
    {view : ClosureControlView} {controlBytes : Nat} {controlDigest : Digest32}
    {consumeCredit : Bool} (hvalid : ∃ bound, validateView view bound = .ok ())
    (h : transfer.prepareTransition value view controlBytes controlDigest consumeCredit
      = .ok next) : Accepts transfer value view next := by
  rw [ClosureTransfer.prepareTransition, seq_eq_ok_iff, bind_eq_ok_iff] at h
  obtain ⟨hadmission, advanced, hadvance, hcontrol⟩ := h
  rw [ClosureTransfer.admitFrame] at hadmission
  simp only [guard_eq_ok_iff] at hadmission
  obtain ⟨hactive, -, -, hclosure, -, -, hpayload⟩ := hadmission
  obtain ⟨sequence, credit, rfl⟩ := advance_eq_ok hadvance
  split_ifs at hcontrol with htype
  exact ⟨by simpa using hactive, htype, by simpa using hclosure, hvalid, hpayload, sequence,
    credit, hcontrol⟩

/-- The control a frame carries, read under these limits. -/
def frameControl (bound : ClosureLimits) (value : Frame) : Option ClosureControlView :=
  (parseClosureControl value.type value.control bound).toOption.map
    (makeControlView value.type value.control)

theorem validateView_of_parse {type : MessageType} {control : Bytes} {bound : ClosureLimits}
    {parsed : ClosureParsedControl} (h : parseClosureControl type control bound = .ok parsed) :
    validateView (makeControlView type control parsed) bound = .ok () := by
  obtain ⟨fields, hparses⟩ := exists_parseClosureControl_iff.1 ⟨parsed, h, rfl⟩
  exact hparses.valid

/-- **An accepted frame** carries a valid control that passes the checks of its branch; the
    generation moves on. -/
theorem accept_eq_ok {layout : Layout} {transfer transfer' : ClosureTransfer} {value : Frame}
    {capacities : FrameCapacities}
    (h : transfer.accept layout value capacities = .ok transfer') :
    ∃ view next, frameControl transfer.session.limits value = some view ∧
      validateView view transfer.session.limits = .ok () ∧ Accepts transfer value view next ∧
      transfer' = transfer.enter next := by
  rw [ClosureTransfer.accept, bind_eq_ok_iff] at h
  obtain ⟨token, htoken, h⟩ := h
  obtain ⟨hsized, -, -, hparse, htype, hcontrol, -, -, hconsumed⟩ :=
    decodeClosureControlToken_eq_ok_iff.1 htoken
  rw [not_or, Bool.not_eq_true] at hsized
  rw [consume_eq_ok hconsumed (hcontrol ▸ hsized.1), ok_bind, bind_eq_ok_iff, htype, hcontrol] at h
  obtain ⟨next, hprepare, htransfer⟩ := h
  have hvalid := validateView_of_parse hparse
  refine ⟨_, next, ?_, hvalid, accepts_of_prepareTransition ⟨_, hvalid⟩ hprepare,
    (Except.ok.inj htransfer).symm⟩
  rw [frameControl, hparse]
  rfl

/-- A frame accepted with a token is accepted with the token's control. -/
theorem acceptDecoded_eq_ok {transfer transfer' : ClosureTransfer} {value : Frame}
    {token : ClosureControlToken} (h : (transfer.acceptDecoded value token).1 = .ok transfer') :
    ∃ next, token.consumed = false ∧
      Accepts transfer value (makeControlView token.type token.control token.parsed) next ∧
      transfer' = transfer.enter next := by
  rw [ClosureTransfer.acceptDecoded] at h
  split_ifs at h with hempty htype
  rcases hconsume : token.consume with error | view
  · rw [hconsume] at h
    exact absurd h (by simp)
  · rw [hconsume] at h
    obtain ⟨next, hprepare, htransfer⟩ := bind_eq_ok_iff.1 h
    rw [ClosureControlToken.consume] at hconsume
    split_ifs at hconsume with hconsumed
    rw [Bool.not_eq_true] at hconsumed
    obtain rfl : makeControlView token.type token.control token.parsed = view := by
      rw [ClosureControlToken.value] at hconsume
      split_ifs at hconsume
      exact Except.ok.inj hconsume
    obtain ⟨bound, hparse⟩ := token.admitted hconsumed
    exact ⟨next, hconsumed,
      accepts_of_prepareTransition ⟨bound, validateView_of_parse hparse⟩ hprepare,
      (Except.ok.inj htransfer).symm⟩

/-- A prepared acknowledgement carries the state the acknowledgement leads to. -/
theorem prepareAcknowledgement_eq_ok {layout : Layout} {transfer : ClosureTransfer} {self : Nat}
    {value : SourceClosureAck} {sequence : UInt64} {controlCapacity wireCapacity : Nat}
    {transition : PreparedAckTransition}
    (h : transfer.prepareAcknowledgement layout self value sequence controlCapacity wireCapacity
      = .ok transition) :
    transfer.state.phase = .closureSealed ∧ transition.owner = some self ∧
      transition.generation = transfer.generation ∧ transition.consumed = false ∧
      ∃ frame, Accepts transfer frame (.ack value) transition.next := by
  rw [ClosureTransfer.prepareAcknowledgement, guard_eq_ok_iff, seq_eq_ok_iff, bind_eq_ok_iff] at h
  obtain ⟨hphase, -, control, hencode, h⟩ := h
  obtain ⟨next, hprepare, h⟩ := bind_eq_ok_iff.1 h
  obtain ⟨wire, -, h⟩ := bind_eq_ok_iff.1 h
  rw [seq_eq_ok_iff] at h
  obtain rfl := Except.ok.inj h.2
  rw [not_or, not_not] at hphase
  obtain ⟨entries, hmap, -⟩ := bind_eq_ok_iff.1 hencode
  have hvalid : validateView (.ack value : ClosureControlView) transfer.session.limits = .ok () :=
    (mapFor_eq_ok_iff.1 hmap).2.1
  exact ⟨hphase.2, rfl, rfl, rfl, _, accepts_of_prepareTransition ⟨_, hvalid⟩ hprepare⟩

end Cxxlens.ProtocolV2.Closure
