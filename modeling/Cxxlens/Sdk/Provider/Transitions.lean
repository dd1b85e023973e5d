import Cxxlens.Sdk.Provider.Coordinator

set_option autoImplicit false

/-! # What one operation can do

Every public operation of the coordinator, and the one lemma about all of them: the recovery state
moves along an entry of the matrix or not at all, the three entries that need an authority have it,
and the evidence a coordinator holds was put there by an accepted operation. -/

namespace Cxxlens.Sdk.Provider

open Fallible

/-! ## Operations -/

/-- The public operations of `ng1_session_coordinator` other than its move constructor. -/
inductive Operation (S : Type) where
  | observeTaskAccepted (metadata : TaskAcceptedMetadata) (hostReceiptTimeNs : UInt64)
  | observeHostProbe (control : HeartbeatControl) (hostReceiptTimeNs highestObserved : UInt64)
      (hostStagedDigest : Bytes)
  | observeProviderAck (control : HeartbeatControl) (hostReceiptTimeNs highestObserved : UInt64)
      (hostStagedDigest : Bytes)
  | checkLiveness (nowNs : UInt64)
  | observeProgress (control : ProgressControl) (hostReceiptTimeNs : UInt64) (terminalSample : Bool)
  | appendSpill (record : SpillRecord)
  | fsyncSpill (highestAcked highestObserved : UInt64) (stagedDigest : Bytes)
      (resumeGeneration : UInt64)
  | observeWorkerExit
  | observeHeartbeatTimeout
  | observeProgressRateFailure
  | requestCancel
  | acknowledgeCancel
  | timeoutCancel
  | confirmWorkerKill
  | failBeforeWorkerStart
  | acceptDurableResume (control : ResumeToken) (receipt : SpillFsyncReceipt)
      (openDependencyGroup terminal : Bool) (highestObserved : UInt64)
  | restoreDurableResume (control : ResumeToken) (receipt : SpillFsyncReceipt)
      (openDependencyGroup terminal : Bool) (highestObserved : UInt64)
  | replaceSpillForResume (replacement : SpillSession S) (receipt : SpillFsyncReceipt)
      (resumeGeneration : UInt64)
  | replayStartSequence
  | acceptReplayFrontier (firstSequence : UInt64)
  | acceptReplay (replayReceipt : ReplayValidationReceipt)
  | sealOutput (outputReceipt : OutputValidationReceipt)
  | rejectOutput
  | cleanup
  deriving DecidableEq, Repr

/-- The first sequence of a replay, where the operation presents one. -/
def Operation.firstSequence? {S : Type} : Operation S → Option UInt64
  | .acceptReplayFrontier firstSequence => some firstSequence
  | .acceptReplay replayReceipt => some replayReceipt.firstSequence
  | _ => none

/-- The entries of the matrix that need no authority. -/
def RecoveryEvent.ordinary : RecoveryEvent → Bool
  | .outputSealed | .durableTokenValid | .replayValid => false
  | _ => true

/-- The control and the receipt of a resume, where the operation presents them. -/
def Operation.resume? {S : Type} : Operation S → Option (ResumeToken × SpillFsyncReceipt)
  | .acceptDurableResume control receipt _ _ _ => some (control, receipt)
  | .restoreDurableResume control receipt _ _ _ => some (control, receipt)
  | _ => none

namespace Coordinator

variable {S ω : Type}

/-- An operation that does not reach the storage port. -/
def inWorld (world : ω) (answer : Result Unit × Coordinator S) : Result Unit × Coordinator S × ω :=
  (answer.1, answer.2, world)

section Perform

variable (hash : Bytes → Bytes) (port : SpillStoragePort S ω)

/-- One operation, whatever it returns. -/
def perform (coordinator : Coordinator S) (operation : Operation S) (world : ω) :
    Result Unit × Coordinator S × ω :=
  match operation with
  | .observeTaskAccepted metadata time =>
    inWorld world (coordinator.observeTaskAccepted metadata time)
  | .observeHostProbe control time highest digest =>
    inWorld world (coordinator.observeHostProbe control time highest digest)
  | .observeProviderAck control time highest digest =>
    inWorld world (coordinator.observeProviderAck control time highest digest)
  | .checkLiveness now => inWorld world (coordinator.checkLiveness now)
  | .observeProgress control time terminal =>
    inWorld world (coordinator.observeProgress control time terminal)
  | .appendSpill record => coordinator.appendSpill hash port record world
  | .fsyncSpill acked highest digest generation =>
    let (answer, coordinator, world) :=
      coordinator.fsyncSpill hash port acked highest digest generation world
    (answer.map fun _ => (), coordinator, world)
  | .observeWorkerExit => inWorld world coordinator.observeWorkerExit
  | .observeHeartbeatTimeout => inWorld world coordinator.observeHeartbeatTimeout
  | .observeProgressRateFailure => inWorld world coordinator.observeProgressRateFailure
  | .requestCancel => inWorld world coordinator.requestCancel
  | .acknowledgeCancel => inWorld world coordinator.acknowledgeCancel
  | .timeoutCancel => inWorld world coordinator.timeoutCancel
  | .confirmWorkerKill => inWorld world coordinator.confirmWorkerKill
  | .failBeforeWorkerStart => (.ok (), coordinator.failBeforeWorkerStart, world)
  | .acceptDurableResume control receipt openGroup terminal highest =>
    coordinator.acceptDurableResume hash port control receipt openGroup terminal highest world
  | .restoreDurableResume control receipt openGroup terminal highest =>
    coordinator.restoreDurableResume hash port control receipt openGroup terminal highest world
  | .replaceSpillForResume replacement receipt generation =>
    coordinator.replaceSpillForResume hash port replacement receipt generation world
  | .replayStartSequence => (coordinator.replayStartSequence.map fun _ => (), coordinator, world)
  | .acceptReplayFrontier first => inWorld world (coordinator.acceptReplayFrontier first)
  | .acceptReplay receipt => inWorld world (coordinator.acceptReplay receipt)
  | .sealOutput receipt => inWorld world (coordinator.sealOutput receipt)
  | .rejectOutput => inWorld world coordinator.rejectOutput
  | .cleanup => coordinator.cleanup port world

end Perform

/-! ## Authority -/

/-- `ensure_open` succeeds. -/
structure IsOpen (coordinator : Coordinator S) : Prop where
  movedFrom : coordinator.movedFrom = false
  cleaned : coordinator.cleaned = false
  spillCleaned : coordinator.spill.cleaned = false
  poisoned : coordinator.poisoned = false
  spillPoisoned : coordinator.spill.poisoned = false

/-- `ng1_session_coordinator::poisoned()`: the reported state is `failed`, whatever the matrix
    says. -/
def broken (coordinator : Coordinator S) : Bool :=
  coordinator.movedFrom || coordinator.poisoned || coordinator.spill.poisoned

/-- `ng1_session_coordinator::cleaned()` -/
def disposed (coordinator : Coordinator S) : Bool :=
  coordinator.movedFrom || coordinator.cleaned || coordinator.spill.cleaned

/-- What the port gave back for a session: bytes that are the prefix of the receipt, and then the
    frontier of the receipt. -/
def ReadBack (hash : Bytes → Bytes) (port : SpillStoragePort S ω) (session : SpillSession S)
    (receipt : SpillFsyncReceipt) (resumeGeneration : UInt64) (world : ω) : Prop :=
  ∃ handle raw recovered after final, session.storage = some handle ∧
    port.readAll handle world = (some (.ok raw), after) ∧
    recoverPrefix hash session.binding raw = .ok recovered ∧
    recovered.spillDigest hash = .ok receipt.spillDigest ∧
    recovered.totalBytes = receipt.totalBytes ∧ recovered.totalRecords = receipt.totalRecords ∧
    port.readResumeFrontier handle after = (some (.ok (some ⟨receipt, resumeGeneration⟩)), final)

section Step

variable (hash : Bytes → Bytes) (port : SpillStoragePort S ω)

/-- What an entry of the matrix needs: a seal the progress or the replay, a resume the receipt and
    the storage, a replay the resume. -/
def Authority (coordinator : Coordinator S) (operation : Operation S) (world : ω)
    (after : Coordinator S) : RecoveryEvent → Prop
  | .outputSealed => ∃ outputReceipt, operation = .sealOutput outputReceipt ∧
      (coordinator.recovery.state = .running → coordinator.progress.terminalObserved = true) ∧
      (coordinator.recovery.state = .resumed →
        coordinator.replayOutputDigest = some outputReceipt.sealedTranscriptDigest)
  | .durableTokenValid => ∃ control receipt, operation.resume? = some (control, receipt) ∧
      after.latestFsyncReceipt = some receipt ∧
      control.highestContiguousAckedSequence = receipt.highestContiguousAckedSequence ∧
      control.stagedDigest = receipt.stagedDigest ∧
      ReadBack hash port coordinator.spill receipt control.tokenGeneration world
  | .replayValid => ∃ firstSequence, operation.firstSequence? = some firstSequence ∧
      coordinator.recovery.resumeState.replayStartSequence = .ok firstSequence
  | _ => True

/-- What one operation can do. -/
structure Step (coordinator : Coordinator S) (operation : Operation S) (world : ω)
    (answer : Result Unit) (after : Coordinator S) : Prop where
  movedFrom : after.movedFrom = coordinator.movedFrom
  cleaned : coordinator.cleaned = true → after.cleaned = true
  broken : coordinator.broken = true → after.broken = true
  recovery : after.recovery.state = coordinator.recovery.state ∨
    coordinator.IsOpen ∧ ∃ event,
      recoveryMatrix coordinator.recovery.state event = some after.recovery.state ∧
        Authority hash port coordinator operation world after event
  progress : after.progress.terminalObserved = true →
    coordinator.progress.terminalObserved = true ∨ answer = .ok () ∧
      ∃ control time, operation = .observeProgress control time true ∧
        control.completedUnits = control.totalUnits
  replay : after.replayOutputDigest = coordinator.replayOutputDigest ∨ answer = .ok () ∧
    ∃ replayReceipt, operation = .acceptReplay replayReceipt ∧
      after.replayOutputDigest = some replayReceipt.sealedTranscriptDigest
  resume : after.recovery.resumeState = coordinator.recovery.resumeState ∨ answer = .ok () ∧
    ∃ control receipt, operation.resume? = some (control, receipt) ∧
      after.recovery.resumeState.lastAckedSequence = control.highestContiguousAckedSequence

end Step

/-! ## Ordinary changes -/

/-- A change that gives a coordinator no evidence and takes no entry that needs one. -/
structure Ordinary (coordinator after : Coordinator S) : Prop where
  movedFrom : after.movedFrom = coordinator.movedFrom
  cleaned : after.cleaned = coordinator.cleaned
  progress : after.progress.terminalObserved = true →
    coordinator.progress.terminalObserved = true
  replay : after.replayOutputDigest = coordinator.replayOutputDigest
  resumeState : after.recovery.resumeState = coordinator.recovery.resumeState
  recovery : after.recovery.state = coordinator.recovery.state ∨ ∃ event : RecoveryEvent,
    event.ordinary = true ∧
      recoveryMatrix coordinator.recovery.state event = some after.recovery.state

theorem Ordinary.refl (coordinator : Coordinator S) : Ordinary coordinator coordinator :=
  ⟨rfl, rfl, id, rfl, rfl, Or.inl rfl⟩

/-- A change of other fields in front of an ordinary change. -/
theorem Ordinary.of_fields {coordinator mid after : Coordinator S} (h : Ordinary mid after)
    (hmoved : mid.movedFrom = coordinator.movedFrom) (hcleaned : mid.cleaned = coordinator.cleaned)
    (hprogress : mid.progress = coordinator.progress)
    (hreplay : mid.replayOutputDigest = coordinator.replayOutputDigest)
    (hrecovery : mid.recovery = coordinator.recovery) : Ordinary coordinator after where
  movedFrom := h.movedFrom.trans hmoved
  cleaned := h.cleaned.trans hcleaned
  progress := hprogress ▸ h.progress
  replay := h.replay.trans hreplay
  resumeState := hrecovery ▸ h.resumeState
  recovery := hrecovery ▸ h.recovery

theorem ensureOpen_eq_ok {coordinator : Coordinator S} {operation : Bytes} :
    coordinator.ensureOpen operation = .ok () ↔ coordinator.IsOpen := by
  simp only [ensureOpen, seq_eq_ok_iff, reject_eq_ok_iff, Bool.or_eq_false_iff]
  constructor
  · rintro ⟨hmoved, ⟨hcleaned, hspill⟩, hpoisoned, hspillPoisoned⟩
    exact ⟨hmoved, hcleaned, hspill, hpoisoned, hspillPoisoned⟩
  · rintro ⟨hmoved, hcleaned, hspill, hpoisoned, hspillPoisoned⟩
    exact ⟨hmoved, ⟨hcleaned, hspill⟩, hpoisoned, hspillPoisoned⟩

theorem IsOpen.not_broken {coordinator : Coordinator S} (h : coordinator.IsOpen) :
    coordinator.broken = false := by
  simp [broken, h.movedFrom, h.poisoned, h.spillPoisoned]

section Steps

variable {hash : Bytes → Bytes} {port : SpillStoragePort S ω} {coordinator : Coordinator S}
  {operation : Operation S} {world : ω} {answer : Result Unit} {after : Coordinator S}

theorem Step.refl : Step hash port coordinator operation world answer coordinator :=
  ⟨rfl, id, id, Or.inl rfl, Or.inl, Or.inl rfl, Or.inl rfl⟩

theorem Authority.of_ordinary {event : RecoveryEvent} (h : event.ordinary = true) :
    Authority hash port coordinator operation world after event := by
  cases event <;> first | trivial | cases h

theorem Ordinary.step (h : Ordinary coordinator after) (hopen : coordinator.IsOpen) :
    Step hash port coordinator operation world answer after where
  movedFrom := h.movedFrom
  cleaned := fun hcleaned => h.cleaned.trans hcleaned
  broken := fun hbroken => absurd hbroken (by simp [hopen.not_broken])
  recovery := h.recovery.imp_right fun ⟨event, hordinary, hnext⟩ =>
    ⟨hopen, event, hnext, Authority.of_ordinary hordinary⟩
  progress := fun hterminal => Or.inl (h.progress hterminal)
  replay := Or.inl h.replay
  resume := Or.inl h.resumeState

/-- An operation behind `ensure_open` either is refused there or starts from an open coordinator. -/
theorem step_whenOpen {name : Bytes} {rest : Result Unit × Coordinator S}
    (h : coordinator.IsOpen → Step hash port coordinator operation world rest.1 rest.2) :
    Step hash port coordinator operation world (coordinator.whenOpen name rest).1
      (coordinator.whenOpen name rest).2 := by
  unfold whenOpen
  cases hopen : coordinator.ensureOpen name with
  | error fault => exact Step.refl
  | ok => exact h (ensureOpen_eq_ok.1 hopen)

end Steps

/-! ## Rejections -/

theorem onRecovery_transition (coordinator : Coordinator S) {event : RecoveryEvent}
    (h : event.ordinary = true) :
    Ordinary coordinator (coordinator.onRecovery (coordinator.recovery.transition event)).2 := by
  unfold onRecovery
  rcases coordinator.recovery.transition_cases event with ⟨fault, heq⟩ | ⟨next, hnext, heq⟩
  · rw [heq]
    exact Ordinary.refl coordinator
  · rw [heq]
    exact ⟨rfl, rfl, id, rfl, rfl, Or.inr ⟨event, h, hnext⟩⟩

theorem onRecovery_failFrom (coordinator : Coordinator S) {event : RecoveryEvent}
    (h : event.ordinary = true) (fault : Error) :
    Ordinary coordinator (coordinator.onRecovery (coordinator.recovery.failFrom event fault)).2 := by
  unfold onRecovery
  rcases coordinator.recovery.failFrom_cases event fault with ⟨other, heq⟩ | ⟨next, hnext, heq⟩
  · rw [heq]
    exact Ordinary.refl coordinator
  · rw [heq]
    exact ⟨rfl, rfl, id, rfl, rfl, Or.inr ⟨event, h, hnext⟩⟩

theorem poison_ordinary (coordinator : Coordinator S) (fault : Error) :
    Ordinary coordinator (coordinator.poison fault).2 :=
  ⟨rfl, rfl, id, rfl, rfl, Or.inl rfl⟩

theorem rejectObservation_ordinary (coordinator : Coordinator S) {code : Bytes}
    {timeout : RecoveryAdapter → Result Unit × RecoveryAdapter} {event : RecoveryEvent}
    (htimeout : ∀ adapter, timeout adapter = adapter.transition event)
    (h : event.ordinary = true) (fault : Error) :
    Ordinary coordinator (coordinator.rejectObservation code timeout fault).2 := by
  unfold rejectObservation
  split_ifs with hrunning hcode
  · have hordinary := onRecovery_transition coordinator h
    rw [htimeout]
    dsimp only
    split <;> exact hordinary
  · have hordinary := onRecovery_transition coordinator
      (show RecoveryEvent.invalidHeartbeatClock.ordinary = true from rfl)
    unfold RecoveryAdapter.rejectHeartbeatClock
    dsimp only
    split <;> exact hordinary
  · exact Ordinary.refl coordinator

theorem rejectHeartbeat_ordinary (coordinator : Coordinator S) (fault : Error) :
    Ordinary coordinator (coordinator.rejectHeartbeat fault).2 :=
  rejectObservation_ordinary coordinator (fun _ => rfl) rfl fault

theorem rejectProgress_ordinary (coordinator : Coordinator S) (fault : Error) :
    Ordinary coordinator (coordinator.rejectProgress fault).2 :=
  rejectObservation_ordinary coordinator (fun _ => rfl) rfl fault

theorem rejectResume_ordinary (coordinator : Coordinator S) (fault : Error) :
    Ordinary coordinator (coordinator.rejectResume fault).2 := by
  unfold rejectResume RecoveryAdapter.rejectDurableResume
  split_ifs
  · exact Ordinary.refl coordinator
  · exact onRecovery_failFrom coordinator rfl fault

theorem rejectReplay_ordinary (coordinator : Coordinator S) (fault : Error) :
    Ordinary coordinator (coordinator.rejectReplay fault).2 := by
  unfold rejectReplay RecoveryAdapter.rejectReplay
  split_ifs
  · exact Ordinary.refl coordinator
  · exact onRecovery_failFrom coordinator rfl fault

theorem rejectOutputWith_ordinary (coordinator : Coordinator S) (fault : Error) :
    Ordinary coordinator (coordinator.rejectOutputWith fault).2 := by
  unfold rejectOutputWith
  split_ifs
  · have hordinary := onRecovery_transition coordinator
      (show RecoveryEvent.outputInvalid.ordinary = true from rfl)
    unfold RecoveryAdapter.rejectOutput
    split <;> simp_all
  · exact poison_ordinary coordinator fault

/-! ## Observations -/

section Observations

variable {hash : Bytes → Bytes} {port : SpillStoragePort S ω} {coordinator : Coordinator S}
  {operation : Operation S} {world : ω}

theorem step_observeTaskAccepted (metadata : TaskAcceptedMetadata) (time : UInt64) :
    Step hash port coordinator operation world
      (coordinator.observeTaskAccepted metadata time).1
      (coordinator.observeTaskAccepted metadata time).2 := by
  refine step_whenOpen fun hopen => Ordinary.step ?_ hopen
  dsimp only
  split
  · exact poison_ordinary coordinator _
  · -- The rebased progress has seen no terminal sample.
    exact ⟨rfl, rfl, fun h => by simp at h, rfl, rfl, Or.inl rfl⟩

theorem step_observeHeartbeat (control : HeartbeatControl) (kind : HeartbeatKind)
    (time highest : UInt64) (digest : Bytes) :
    Step hash port coordinator operation world
      (coordinator.observeHeartbeat control kind time highest digest).1
      (coordinator.observeHeartbeat control kind time highest digest).2 := by
  refine step_whenOpen fun hopen => Ordinary.step ?_ hopen
  split_ifs
  · exact Ordinary.refl coordinator
  · dsimp only
    split
    · exact rejectHeartbeat_ordinary coordinator _
    · exact ⟨rfl, rfl, id, rfl, rfl, Or.inl rfl⟩

theorem step_checkLiveness (now : UInt64) :
    Step hash port coordinator operation world (coordinator.checkLiveness now).1
      (coordinator.checkLiveness now).2 := by
  refine step_whenOpen fun hopen => Ordinary.step ?_ hopen
  split_ifs
  · exact Ordinary.refl coordinator
  · split
    · exact rejectHeartbeat_ordinary coordinator _
    · split
      · split_ifs
        · exact (rejectHeartbeat_ordinary _ _).of_fields rfl rfl rfl rfl rfl
        · exact rejectHeartbeat_ordinary coordinator _
      · exact ⟨rfl, rfl, id, rfl, rfl, Or.inl rfl⟩

theorem step_observeProgress (control : ProgressControl) (time : UInt64) (terminal : Bool) :
    Step hash port coordinator (.observeProgress control time terminal) world
      (coordinator.observeProgress control time terminal).1
      (coordinator.observeProgress control time terminal).2 := by
  refine step_whenOpen fun hopen => ?_
  split_ifs
  · exact Step.refl
  · dsimp only
    split
    · exact (rejectProgress_ordinary coordinator _).step hopen
    · rename_i progress hobserved
      obtain ⟨sample, hsample, hobserved⟩ := bind_eq_ok_iff.1 hobserved
      obtain ⟨-, hobserved⟩ := seq_eq_ok_iff.1 hobserved
      obtain ⟨hterminal, hunits⟩ := ProgressState.observe_ok hobserved
      obtain rfl := control.toValidationSample_eq hsample
      refine ⟨rfl, id, id, Or.inl rfl, fun h => ?_, Or.inl rfl, Or.inl rfl⟩
      rw [hterminal] at h
      subst h
      exact Or.inr ⟨rfl, control, time, rfl, hunits rfl⟩

end Observations

/-! ## The spill -/

section Spill

variable {hash : Bytes → Bytes} {port : SpillStoragePort S ω} {coordinator : Coordinator S}
  {operation : Operation S} {world : ω}

theorem SpillSession.storage_of_open {session : SpillSession S} {handle : S}
    (h : session.open? = some handle) : session.storage = some handle := by
  unfold SpillSession.open? at h
  split_ifs at h
  exact h

/-- A session that is read leaves what it was. -/
theorem recover_ok {session after : SpillSession S} {recovered : SpillPrefixState} {final : ω}
    (h : session.recover hash port world = (.ok recovered, after, final)) :
    after = session ∧ ∃ handle raw, session.storage = some handle ∧
      port.readAll handle world = (some (.ok raw), final) ∧
      recoverPrefix hash session.binding raw = .ok recovered := by
  unfold SpillSession.recover at h
  cases hopen : session.open? with
  | none => simp [hopen] at h
  | some handle =>
      have hstorage := SpillSession.storage_of_open hopen
      rcases hread : port.readAll handle world with ⟨answer, read⟩
      simp only [hopen, hread] at h
      split at h
      · simp at h
      · rename_i hrecovered
        obtain ⟨raw, hraw, hrecovered⟩ := bind_eq_ok_iff.1 hrecovered
        obtain ⟨heq, rfl, rfl⟩ : _ ∧ session = after ∧ read = final := by simpa using h
        obtain rfl := heq
        cases answer with
        | none => simp [SpillSession.answered] at hraw
        | some answered =>
            obtain rfl : answered = .ok raw := by simpa [SpillSession.answered] using hraw
            exact ⟨rfl, handle, raw, hstorage, hread, hrecovered⟩

theorem validatePersistedFrontier_ok {session after : SpillSession S} {receipt : SpillFsyncReceipt}
    {generation : UInt64} {final : ω}
    (h : session.validatePersistedFrontier port receipt generation world = (.ok (), after, final)) :
    after = session ∧ ∃ handle, session.storage = some handle ∧
      port.readResumeFrontier handle world = (some (.ok (some ⟨receipt, generation⟩)), final) := by
  unfold SpillSession.validatePersistedFrontier at h
  cases hopen : session.open? with
  | none => simp [hopen] at h
  | some handle =>
      have hstorage := SpillSession.storage_of_open hopen
      rcases hread : port.readResumeFrontier handle world with ⟨answer, read⟩
      simp only [hopen, hread] at h
      split at h
      · simp at h
      · split at h
        · simp at h
        · rename_i hcompared
          obtain ⟨persisted, hpersisted, hcompared⟩ := bind_eq_ok_iff.1 hcompared
          obtain ⟨rfl, rfl⟩ : session = after ∧ read = final := by simpa using h
          cases persisted with
          | none => simp at hcompared
          | some frontier =>
              simp only [seq_eq_ok_iff, reject_eq_ok_iff, bne_eq_false_iff_eq] at hcompared
              obtain ⟨-, rfl⟩ := hcompared
              cases answer with
              | none => simp [SpillSession.answered] at hpersisted
              | some answered =>
                  obtain rfl : answered = .ok _ := by
                    simpa [SpillSession.answered] using hpersisted
                  exact ⟨rfl, handle, hstorage, hread⟩

theorem observeHostFsync_ok {recovered : SpillPrefixState} {acked fsyncSequence : UInt64}
    {stagedDigest : Bytes} {receipt : SpillFsyncReceipt}
    (h : recovered.observeHostFsync hash acked stagedDigest fsyncSequence = .ok receipt) :
    recovered.spillDigest hash = .ok receipt.spillDigest ∧
      recovered.totalBytes = receipt.totalBytes ∧
      recovered.totalRecords = receipt.totalRecords := by
  simp only [SpillPrefixState.observeHostFsync, seq_eq_ok_iff] at h
  obtain ⟨-, -, -, h⟩ := h
  obtain ⟨digest, hdigest, h⟩ := bind_eq_ok_iff.1 h
  obtain rfl := Except.ok.inj (seq_eq_ok_iff.1 h).2
  exact ⟨hdigest, rfl, rfl⟩

/-- A restored session was read back, and so was its frontier. -/
theorem restoreFromFsyncReceipt_ok {session after : SpillSession S} {receipt : SpillFsyncReceipt}
    {generation : UInt64} {final : ω}
    (h : session.restoreFromFsyncReceipt hash port receipt generation world =
      (.ok (), after, final)) :
    ReadBack hash port session receipt generation world := by
  unfold SpillSession.restoreFromFsyncReceipt at h
  cases hopen : session.open? with
  | none => simp [hopen] at h
  | some handle =>
      simp only [hopen] at h
      split at h
      · simp at h
      · split at h
        · simp at h
        · rename_i hrecover
          obtain ⟨rfl, handle, raw, hstorage, hread, hstarts⟩ := recover_ok hrecover
          split at h
          · simp at h
          · rename_i hcompared
            obtain ⟨expected, hexpected, hcompared⟩ := bind_eq_ok_iff.1 hcompared
            rw [reject_eq_ok_iff, bne_eq_false_iff_eq] at hcompared
            subst hcompared
            obtain ⟨hdigest, hbytes, hrecords⟩ := observeHostFsync_ok hexpected
            split at h
            · simp at h
            · rename_i hfrontier
              obtain ⟨rfl, other, hother, hreadFrontier⟩ := validatePersistedFrontier_ok hfrontier
              rw [hstorage] at hother
              obtain rfl := Option.some.inj hother
              exact ⟨handle, raw, _, _, _, hstorage, hread, hstarts, hdigest, hbytes, hrecords,
                hreadFrontier⟩

theorem prefixMatches_ok {receipt : SpillFsyncReceipt} {recovered : SpillPrefixState}
    (h : prefixMatches hash receipt recovered = .ok ()) :
    recovered.spillDigest hash = .ok receipt.spillDigest ∧
      recovered.totalBytes = receipt.totalBytes ∧
      recovered.totalRecords = receipt.totalRecords := by
  obtain ⟨digest, hdigest, h⟩ := bind_eq_ok_iff.1 h
  rw [reject_eq_ok_iff] at h
  simp only [Bool.or_eq_false_iff, bne_eq_false_iff_eq] at h
  obtain ⟨⟨rfl, hbytes⟩, hrecords⟩ := h
  exact ⟨hdigest, hbytes.symm, hrecords.symm⟩

theorem toValidationToken_eq {control token : ResumeToken}
    (h : control.toValidationToken hash = .ok token) : token = control := by
  obtain ⟨expected, -, h⟩ := bind_eq_ok_iff.1 h
  exact (Except.ok.inj (guard_eq_ok_iff.1 h).2).symm

/-- A resume that was accepted. -/
structure Accepts (hash : Bytes → Bytes) (port : SpillStoragePort S ω)
    (coordinator : Coordinator S) (control : ResumeToken) (receipt : SpillFsyncReceipt) (world : ω)
    (after : Coordinator S) : Prop where
  movedFrom : after.movedFrom = coordinator.movedFrom
  cleaned : after.cleaned = coordinator.cleaned
  progress : after.progress = coordinator.progress
  replay : after.replayOutputDigest = coordinator.replayOutputDigest
  state : recoveryMatrix coordinator.recovery.state .durableTokenValid = some after.recovery.state
  resumeState :
    after.recovery.resumeState.lastAckedSequence = control.highestContiguousAckedSequence
  latest : after.latestFsyncReceipt = some receipt
  acked : control.highestContiguousAckedSequence = receipt.highestContiguousAckedSequence
  stagedDigest : control.stagedDigest = receipt.stagedDigest
  readBack : ReadBack hash port coordinator.spill receipt control.tokenGeneration world

theorem Accepts.step {control : ResumeToken} {receipt : SpillFsyncReceipt}
    {after : Coordinator S} (h : Accepts hash port coordinator control receipt world after)
    (hopen : coordinator.IsOpen) (hresume : operation.resume? = some (control, receipt)) :
    Step hash port coordinator operation world (.ok ()) after where
  movedFrom := h.movedFrom
  cleaned := fun hcleaned => h.cleaned.trans hcleaned
  broken := fun hbroken => absurd hbroken (by simp [hopen.not_broken])
  recovery := Or.inr ⟨hopen, _, h.state, control, receipt, hresume, h.latest, h.acked,
    h.stagedDigest, h.readBack⟩
  progress := fun hterminal => Or.inl (h.progress ▸ hterminal)
  replay := Or.inl h.replay
  resume := Or.inr ⟨rfl, control, receipt, hresume, h.resumeState⟩

theorem acceptDurableResume_cases (coordinator : Coordinator S) (control : ResumeToken)
    (receipt : SpillFsyncReceipt) (openGroup terminal : Bool) (highest : UInt64) (world : ω)
    {answer : Result Unit} {after : Coordinator S} {final : ω}
    (h : coordinator.acceptDurableResume hash port control receipt openGroup terminal highest world
      = (answer, after, final)) :
    Ordinary coordinator after ∨
      answer = .ok () ∧ Accepts hash port coordinator control receipt world after := by
  have hrejected {mid : Coordinator S} {fault : Error} {world : ω} :
      ((mid.rejectResume fault).1, (mid.rejectResume fault).2, world) = (answer, after, final) →
        Ordinary mid after := by
    rintro ⟨⟩
    exact rejectResume_ordinary mid fault
  unfold acceptDurableResume at h
  dsimp only at h
  split at h
  · obtain ⟨-, rfl, -⟩ : _ ∧ coordinator = after ∧ _ := by simpa using h
    exact Or.inl (Ordinary.refl _)
  · split_ifs at h with hkilled
    · obtain ⟨-, rfl, -⟩ : _ ∧ coordinator = after ∧ _ := by simpa using h
      exact Or.inl (Ordinary.refl _)
    · split at h
      · exact Or.inl (hrejected h)
      · rename_i latest hlatest
        split_ifs at h with hreceipt
        · exact Or.inl (hrejected h)
        · split at h
          · exact Or.inl ((hrejected h).of_fields rfl rfl rfl rfl rfl)
          · rename_i hrecover
            obtain ⟨rfl, handle, raw, hstorage, hread, hstarts⟩ := recover_ok hrecover
            split at h
            · exact Or.inl ((hrejected h).of_fields rfl rfl rfl rfl rfl)
            · rename_i token htoken
              obtain ⟨hmatches, htoken⟩ := seq_eq_ok_iff.1 htoken
              split at h
              · exact Or.inl ((hrejected h).of_fields rfl rfl rfl rfl rfl)
              · rename_i hfrontier
                obtain ⟨rfl, other, hother, hfrontier⟩ := validatePersistedFrontier_ok hfrontier
                obtain rfl := Option.some.inj (hstorage.symm.trans hother)
                obtain rfl := toValidationToken_eq htoken
                obtain ⟨hdigest, hbytes, hrecords⟩ := prefixMatches_ok hmatches
                obtain ⟨rfl, rfl, rfl⟩ : _ = answer ∧ _ = after ∧ _ = final := by
                  simpa using h
                rw [ne_eq, not_not] at hkilled hreceipt
                rcases RecoveryAdapter.acceptDurableResume_cases hash hkilled token receipt openGroup
                    terminal highest with ⟨fault, hfail⟩ | ⟨resumeState, haccept, heq⟩
                · rw [hfail]
                  exact Or.inl (onRecovery_failFrom coordinator rfl fault)
                · rw [heq]
                  obtain ⟨hlast, hacked, hstaged⟩ := ResumeState.accept_ok hash haccept
                  exact Or.inr ⟨rfl, rfl, rfl, rfl, rfl, by rw [hkilled]; rfl, hlast,
                    hlatest.trans (congrArg some hreceipt), hacked, hstaged, handle, raw, _, _, _,
                    hstorage, hread, hstarts, hdigest, hbytes, hrecords, hfrontier⟩

theorem step_acceptDurableResume (control : ResumeToken) (receipt : SpillFsyncReceipt)
    (openGroup terminal : Bool) (highest : UInt64)
    (hresume : operation.resume? = some (control, receipt)) :
    let r := coordinator.acceptDurableResume hash port control receipt openGroup terminal highest
      world
    Step hash port coordinator operation world r.1 r.2.1 := by
  intro r
  cases hopen : coordinator.ensureOpen "resume" with
  | error fault =>
      have hr : r = (.error fault, coordinator, world) := by
        simp only [r, acceptDurableResume, hopen]
      rw [hr]
      exact Step.refl
  | ok =>
      have hopen := ensureOpen_eq_ok.1 hopen
      rcases acceptDurableResume_cases coordinator control receipt openGroup terminal highest world
        (show r = (r.1, r.2.1, r.2.2) from rfl) with hordinary | ⟨hanswer, haccepts⟩
      · exact hordinary.step hopen
      · rw [hanswer]
        exact haccepts.step hopen hresume

theorem step_restoreDurableResume (control : ResumeToken) (receipt : SpillFsyncReceipt)
    (openGroup terminal : Bool) (highest : UInt64)
    (hresume : operation.resume? = some (control, receipt)) :
    let r := coordinator.restoreDurableResume hash port control receipt openGroup terminal highest
      world
    Step hash port coordinator operation world r.1 r.2.1 := by
  intro r
  cases hopen : coordinator.ensureOpen "restore-resume" with
  | error fault =>
      have hr : r = (.error fault, coordinator, world) := by
        simp only [r, restoreDurableResume, hopen]
      rw [hr]
      exact Step.refl
  | ok =>
      have hisOpen := ensureOpen_eq_ok.1 hopen
      simp only [r, restoreDurableResume, hopen]
      split_ifs with hkilled hlatest
      · exact Step.refl
      · exact (rejectResume_ordinary coordinator _).step hisOpen
      · split
        · refine Ordinary.step ?_ hisOpen
          exact (rejectResume_ordinary _ _).of_fields rfl rfl rfl rfl rfl
        · rename_i spill restored hrestored
          have hreadBack := restoreFromFsyncReceipt_ok hrestored
          set mid : Coordinator S :=
            { coordinator with spill := spill, latestFsyncReceipt := some receipt }
          generalize haccepted : mid.acceptDurableResume hash port control receipt openGroup terminal
            highest restored = accepted
          obtain ⟨answer, after, final⟩ := accepted
          rcases acceptDurableResume_cases mid control receipt openGroup terminal highest restored
            haccepted with hordinary | ⟨rfl, haccepts⟩
          · refine Ordinary.step ?_ hisOpen
            exact hordinary.of_fields rfl rfl rfl rfl rfl
          · -- The bytes and the frontier were already read back by the restoration.
            have haccepts' : Accepts hash port coordinator control receipt world after :=
              ⟨haccepts.movedFrom, haccepts.cleaned, haccepts.progress, haccepts.replay,
                haccepts.state, haccepts.resumeState, haccepts.latest, haccepts.acked,
                haccepts.stagedDigest, hreadBack⟩
            exact haccepts'.step hisOpen hresume

theorem step_appendSpill (record : SpillRecord) :
    let r := coordinator.appendSpill hash port record world
    Step hash port coordinator operation world r.1 r.2.1 := by
  intro r
  simp only [r, appendSpill]
  split
  · exact Step.refl
  · rename_i hopen
    have hopen := ensureOpen_eq_ok.1 hopen
    split_ifs
    · exact Step.refl
    · split <;> exact Ordinary.step ⟨rfl, rfl, id, rfl, rfl, Or.inl rfl⟩ hopen

theorem step_fsyncSpill (acked highest : UInt64) (digest : Bytes) (generation : UInt64)
    (answer : Result Unit) :
    Step hash port coordinator operation world answer
      (coordinator.fsyncSpill hash port acked highest digest generation world).2.1 := by
  unfold fsyncSpill
  split
  · exact Step.refl
  · rename_i hopen
    have hopen := ensureOpen_eq_ok.1 hopen
    split_ifs
    · exact Step.refl
    · split <;> exact Ordinary.step ⟨rfl, rfl, id, rfl, rfl, Or.inl rfl⟩ hopen

theorem step_replaceSpillForResume (replacement : SpillSession S) (receipt : SpillFsyncReceipt)
    (generation : UInt64) :
    let r := coordinator.replaceSpillForResume hash port replacement receipt generation world
    Step hash port coordinator operation world r.1 r.2.1 := by
  intro r
  have hspill {spill : SpillSession S} : Ordinary coordinator { coordinator with spill := spill } :=
    ⟨rfl, rfl, id, rfl, rfl, Or.inl rfl⟩
  simp only [r, replaceSpillForResume]
  split
  · exact Step.refl
  · rename_i hadmitted
    have hopen := ensureOpen_eq_ok.1 (seq_eq_ok_iff.1 hadmitted).1
    refine Ordinary.step ?_ hopen
    split
    · exact hspill
    · split
      · exact hspill
      · split
        · exact hspill
        · split
          · exact hspill
          · split <;> exact hspill

end Spill

/-! ## The replay and the output -/

section Output

variable {hash : Bytes → Bytes} {port : SpillStoragePort S ω} {coordinator : Coordinator S}
  {operation : Operation S} {world : ω}

theorem acceptReplayValidated_step {first : UInt64} (hopen : coordinator.IsOpen)
    (hreplay : coordinator.recovery.state = .resumeReplay)
    (hfirst : operation.firstSequence? = some first) (answer : Result Unit) :
    let r := coordinator.onRecovery (coordinator.recovery.acceptReplayValidated first)
    Step hash port coordinator operation world answer r.2 := by
  intro r
  simp only [r, RecoveryAdapter.acceptReplayValidated, if_neg (not_not.2 hreplay)]
  split
  · exact (onRecovery_failFrom coordinator rfl _).step hopen
  · rename_i expected hexpected
    split_ifs with hne
    · exact (onRecovery_failFrom coordinator rfl _).step hopen
    · rw [not_not] at hne
      subst hne
      rcases coordinator.recovery.transition_cases .replayValid with
        ⟨fault, heq⟩ | ⟨next, hnext, heq⟩
      · rw [heq]
        exact Step.refl
      · rw [heq]
        exact ⟨rfl, id, id, Or.inr ⟨hopen, _, hnext, first, hfirst, hexpected⟩, Or.inl,
          Or.inl rfl, Or.inl rfl⟩

theorem step_acceptReplayFrontier (first : UInt64) :
    let r := coordinator.acceptReplayFrontier first
    Step hash port coordinator (.acceptReplayFrontier first) world r.1 r.2 := by
  refine step_whenOpen fun hopen => ?_
  split_ifs with hreplay
  · exact Step.refl
  · exact acceptReplayValidated_step hopen (not_not.1 hreplay) rfl _

theorem step_acceptReplay (receipt : ReplayValidationReceipt) :
    let r := coordinator.acceptReplay receipt
    Step hash port coordinator (.acceptReplay receipt) world r.1 r.2 := by
  refine step_whenOpen fun hopen => ?_
  split_ifs with hreplay
  · exact Step.refl
  · split
    · exact (rejectReplay_ordinary coordinator _).step hopen
    · have hstep (answer : Result Unit) : Step hash port coordinator (.acceptReplay receipt) world
          answer (coordinator.onRecovery
            (coordinator.recovery.acceptReplayValidated receipt.firstSequence)).2 :=
        acceptReplayValidated_step hopen (not_not.1 hreplay) rfl answer
      split
      · rename_i heq
        rw [heq] at hstep
        exact hstep _
      · rename_i heq
        rw [heq] at hstep
        have haccepted := hstep (.ok ())
        exact ⟨haccepted.movedFrom, haccepted.cleaned, haccepted.broken, haccepted.recovery,
          haccepted.progress, Or.inr ⟨rfl, receipt, rfl, rfl⟩, haccepted.resume⟩

/-- A seal with its authority. -/
theorem sealed_step {receipt : OutputValidationReceipt} (hopen : coordinator.IsOpen)
    (hauthority : Authority hash port coordinator (.sealOutput receipt) world coordinator
      .outputSealed) :
    let r : Result Unit × Coordinator S :=
      match coordinator.onRecovery coordinator.recovery.sealOutput with
      | (.error fault, coordinator) => (.error fault, coordinator)
      | (.ok (), coordinator) =>
        (.ok (), { coordinator with heartbeat := coordinator.heartbeat.markTerminal })
    Step hash port coordinator (.sealOutput receipt) world r.1 r.2 := by
  unfold onRecovery RecoveryAdapter.sealOutput
  rcases coordinator.recovery.transition_cases .outputSealed with
    ⟨fault, heq⟩ | ⟨next, hnext, heq⟩
  · rw [heq]
    exact Step.refl
  · rw [heq]
    exact ⟨rfl, id, id, Or.inr ⟨hopen, _, hnext, hauthority⟩, Or.inl, Or.inl rfl, Or.inl rfl⟩

theorem step_sealOutput (receipt : OutputValidationReceipt) :
    let r := coordinator.sealOutput receipt
    Step hash port coordinator (.sealOutput receipt) world r.1 r.2 := by
  refine step_whenOpen fun hopen => ?_
  dsimp only
  split_ifs with hstate htask hresumed hdigest hterminal hrunning
  · exact Step.refl
  · exact (rejectOutputWith_ordinary coordinator _).step hopen
  · exact (poison_ordinary coordinator _).step hopen
  · exact (rejectOutputWith_ordinary coordinator _).step hopen
  · exact (poison_ordinary coordinator _).step hopen
  · split
    · exact (poison_ordinary coordinator _).step hopen
    · rename_i hfinish
      refine sealed_step hopen ⟨receipt, rfl, fun _ => ProgressState.finish_eq_ok hfinish, ?_⟩
      rw [hrunning]
      nofun
  · refine sealed_step hopen ⟨receipt, rfl, fun h => absurd h hrunning, fun hresumed => ?_⟩
    simp only [hresumed, true_and, not_or, ne_eq, not_not] at hdigest
    exact hdigest.1

theorem step_rejectOutput :
    let r := coordinator.rejectOutput
    Step hash port coordinator operation world r.1 r.2 :=
  step_whenOpen fun hopen => (rejectOutputWith_ordinary coordinator _).step hopen

/-- Cleanup disposes of the spill once: it asks for a coordinator that is not cleaned. -/
theorem cleanup_cases (coordinator : Coordinator S) (world : ω) :
    (∃ fault, coordinator.cleanup port world = (.error fault, coordinator, world)) ∨
      coordinator.cleaned = false ∧ ∃ answer spill final,
        coordinator.spill.cleanup port world = (answer, spill, final) ∧
        coordinator.cleanup port world = (answer,
          { coordinator with
            spill := spill
            cleaned := true
            poisoned := coordinator.poisoned || !answer.isOk }, final) := by
  unfold cleanup
  dsimp only
  split
  · exact Or.inl ⟨_, rfl⟩
  · rename_i hadmitted
    obtain ⟨-, hcleaned, -⟩ := by
      simpa only [seq_eq_ok_iff, reject_eq_ok_iff] using hadmitted
    rcases hspill : coordinator.spill.cleanup port world with ⟨answer, spill, final⟩
    refine Or.inr ⟨hcleaned, answer, spill, final, rfl, ?_⟩
    cases answer with
    | error fault => simp [Except.isOk, Except.toBool]
    | ok => simp [Except.isOk, Except.toBool]

theorem cleanup_spill_poisoned {session after : SpillSession S} {answer : Result Unit} {final : ω}
    (h : session.cleanup port world = (answer, after, final)) (hpoisoned : session.poisoned = true) :
    after.poisoned = true := by
  unfold SpillSession.cleanup at h
  split at h
  · obtain ⟨-, rfl, -⟩ : _ ∧ session = after ∧ _ := by simpa using h
    exact hpoisoned
  · dsimp only at h
    split at h
    · obtain ⟨-, rfl, -⟩ : _ ∧ _ = after ∧ _ := by simpa using h
      rfl
    · obtain ⟨-, rfl, -⟩ : _ ∧ _ = after ∧ _ := by simpa using h
      exact hpoisoned

theorem step_cleanup :
    let r := coordinator.cleanup port world
    Step hash port coordinator operation world r.1 r.2.1 := by
  rcases cleanup_cases coordinator world with ⟨fault, heq⟩ | ⟨-, answer, spill, final, hspill, heq⟩
  · rw [heq]
    exact Step.refl
  · rw [heq]
    refine ⟨rfl, fun _ => rfl, fun hbroken => ?_, Or.inl rfl, Or.inl, Or.inl rfl, Or.inl rfl⟩
    simp only [broken, Bool.or_eq_true] at hbroken ⊢
    rcases hbroken with (hmoved | hpoisoned) | hpoisoned
    · exact Or.inl (Or.inl hmoved)
    · exact Or.inl (Or.inr (Or.inl hpoisoned))
    · exact Or.inr (cleanup_spill_poisoned hspill hpoisoned)

/-- **What one operation can do**, for each of them. -/
theorem perform_step (coordinator : Coordinator S) (operation : Operation S) (world : ω) :
    let r := coordinator.perform hash port operation world
    Step hash port coordinator operation world r.1 r.2.1 := by
  cases operation with
  | observeTaskAccepted metadata time => exact step_observeTaskAccepted metadata time
  | observeHostProbe control time highest digest =>
      exact step_observeHeartbeat control .probe time highest digest
  | observeProviderAck control time highest digest =>
      exact step_observeHeartbeat control .ack time highest digest
  | checkLiveness now => exact step_checkLiveness now
  | observeProgress control time terminal => exact step_observeProgress control time terminal
  | appendSpill record => exact step_appendSpill record
  | fsyncSpill acked highest digest generation =>
      exact step_fsyncSpill acked highest digest generation _
  | observeWorkerExit =>
      exact step_whenOpen fun hopen => (onRecovery_transition coordinator rfl).step hopen
  | observeHeartbeatTimeout =>
      exact step_whenOpen fun hopen => (onRecovery_transition coordinator rfl).step hopen
  | observeProgressRateFailure =>
      exact step_whenOpen fun hopen => (onRecovery_transition coordinator rfl).step hopen
  | requestCancel =>
      exact step_whenOpen fun hopen => (onRecovery_transition coordinator rfl).step hopen
  | acknowledgeCancel =>
      exact step_whenOpen fun hopen => (onRecovery_transition coordinator rfl).step hopen
  | timeoutCancel =>
      exact step_whenOpen fun hopen => (onRecovery_transition coordinator rfl).step hopen
  | confirmWorkerKill =>
      exact step_whenOpen fun hopen => (onRecovery_transition coordinator rfl).step hopen
  | failBeforeWorkerStart =>
      exact ⟨rfl, id, fun _ => by simp [perform, failBeforeWorkerStart, broken], Or.inl rfl, Or.inl,
        Or.inl rfl, Or.inl rfl⟩
  | acceptDurableResume control receipt openGroup terminal highest =>
      exact step_acceptDurableResume control receipt openGroup terminal highest rfl
  | restoreDurableResume control receipt openGroup terminal highest =>
      exact step_restoreDurableResume control receipt openGroup terminal highest rfl
  | replaceSpillForResume replacement receipt generation =>
      exact step_replaceSpillForResume replacement receipt generation
  | replayStartSequence => exact Step.refl
  | acceptReplayFrontier first => exact step_acceptReplayFrontier first
  | acceptReplay receipt => exact step_acceptReplay receipt
  | sealOutput receipt => exact step_sealOutput receipt
  | rejectOutput => exact step_rejectOutput
  | cleanup => exact step_cleanup

end Output

end Coordinator

end Cxxlens.Sdk.Provider
