import Cxxlens.Sdk.Provider.Values

set_option autoImplicit false

/-! # Recovery

The recovery matrix and the resume state (`provider_ng1_validation.cpp`), and the adapter that owns
the two (`provider_ng1_recovery.cpp`). -/

namespace Cxxlens.Sdk.Provider

open Fallible

/-! ## The matrix -/

/-- `ng1_recovery_state` -/
inductive RecoveryState where
  | running
  | heartbeatTimeout
  | progressRateFailure
  | cancelRequested
  | workerKilled
  | resumeReplay
  | resumed
  | completed
  | failed
  deriving DecidableEq, Repr

/-- `ng1_recovery_event` -/
inductive RecoveryEvent where
  | heartbeatTimeout
  | progressRateFailure
  | cancelRequested
  | cancelAcknowledged
  | cancelTimeout
  | workerExit
  | workerKillConfirmed
  | durableTokenValid
  | durableTokenInvalid
  | replayValid
  | replayInvalid
  | outputSealed
  | outputInvalid
  | invalidHeartbeatClock
  deriving DecidableEq, Repr

/-- The entries of the matrix. -/
def recoveryMatrix : RecoveryState → RecoveryEvent → Option RecoveryState
  | .running, .heartbeatTimeout => some .heartbeatTimeout
  | .running, .progressRateFailure => some .progressRateFailure
  | .running, .cancelRequested => some .cancelRequested
  | .running, .workerExit => some .workerKilled
  | .running, .outputSealed => some .completed
  | .running, .invalidHeartbeatClock => some .failed
  | .heartbeatTimeout, .workerKillConfirmed => some .workerKilled
  | .progressRateFailure, .workerKillConfirmed => some .workerKilled
  | .cancelRequested, .cancelAcknowledged => some .failed
  | .cancelRequested, .cancelTimeout => some .workerKilled
  | .workerKilled, .durableTokenValid => some .resumeReplay
  | .workerKilled, .durableTokenInvalid => some .failed
  | .resumeReplay, .replayValid => some .resumed
  | .resumeReplay, .replayInvalid => some .failed
  | .resumed, .outputSealed => some .completed
  | .resumed, .outputInvalid => some .failed
  | _, _ => none

theorem recoveryMatrix_completed {state : RecoveryState} {event : RecoveryEvent}
    (h : recoveryMatrix state event = some .completed) :
    event = .outputSealed ∧ (state = .running ∨ state = .resumed) := by
  cases state <;> cases event <;> simp [recoveryMatrix] at h ⊢

theorem recoveryMatrix_resumed {state : RecoveryState} {event : RecoveryEvent}
    (h : recoveryMatrix state event = some .resumed) :
    event = .replayValid ∧ state = .resumeReplay := by
  cases state <;> cases event <;> simp [recoveryMatrix] at h ⊢

theorem recoveryMatrix_resumeReplay {state : RecoveryState} {event : RecoveryEvent}
    (h : recoveryMatrix state event = some .resumeReplay) :
    event = .durableTokenValid ∧ state = .workerKilled := by
  cases state <;> cases event <;> simp [recoveryMatrix] at h ⊢

theorem recoveryMatrix_terminal {state : RecoveryState} (event : RecoveryEvent)
    (h : state = .completed ∨ state = .failed) : recoveryMatrix state event = none := by
  rcases h with rfl | rfl <;> cases event <;> rfl

/-- `ng1_recovery_transition` -/
def recoveryTransition (state : RecoveryState) (event : RecoveryEvent) : Result RecoveryState :=
  match recoveryMatrix state event with
  | some next => .ok next
  | none => .error (ng1Error "recovery-failed" "transition" "transition-not-in-matrix")

/-! ## The resume state -/

/-- `ng1_resume_state` -/
structure ResumeState where
  binding : ResumeBinding
  lastGeneration : Option UInt64 := none
  lastAckedSequence : UInt64 := 0
  lastFsyncSequence : Option UInt64 := none
  lastReceipt : Option SpillFsyncReceipt := none
  accepted : Bool := false
  deriving DecidableEq, Repr

/-- `std::numeric_limits<std::uint64_t>::max()` -/
def maxU64 : UInt64 := UInt64.ofNat (2 ^ 64 - 1)

/-- `ng1_resume_state::create` -/
def ResumeState.create (binding : ResumeBinding) : Result ResumeState := do
  binding.validate
  .ok { binding := binding }

/-- The comparison of a token and its receipt with the receipt accepted last. -/
def ResumeState.notBehind (state : ResumeState) (token : ResumeToken)
    (receipt last : SpillFsyncReceipt) : Result Unit := do
  let invalid := fun field detail => ng1Error "resume-replay-invalid" field detail
  let acked := token.highestContiguousAckedSequence
  reject (decide (acked < state.lastAckedSequence))
    (invalid "highest_contiguous_acked_sequence" "backwards")
  reject (acked == state.lastAckedSequence && token.stagedDigest != last.stagedDigest)
    (invalid "staged_digest" "changed-at-sequence")
  reject (decide (receipt.totalBytes < last.totalBytes) ||
      decide (receipt.totalRecords < last.totalRecords))
    (invalid "spill_receipt" "append-only-counter-backwards")
  reject (acked == state.lastAckedSequence && receipt.spillDigest != last.spillDigest)
    (invalid "spill_digest" "changed-at-sequence")

section Resume

variable (hash : Bytes → Bytes)

/-- `ng1_resume_state::accept` -/
def ResumeState.accept (state : ResumeState) (token : ResumeToken) (receipt : SpillFsyncReceipt)
    (openDependencyGroup terminal : Bool) (highestObservedSequence : UInt64) :
    Result ResumeState := do
  let invalid := fun field detail => ng1Error "resume-replay-invalid" field detail
  let stale := fun field detail => ng1Error "resume-token-stale" field detail
  let acked := token.highestContiguousAckedSequence
  reject (resumeTokenDigest hash token != .ok token.tokenDigest)
    (invalid "token_digest" "projection-mismatch")
  receipt.validate
  reject (token.kind != .accepted || terminal || openDependencyGroup)
    (stale "authority" "not-durable-or-terminal")
  reject (token.binding != state.binding) (stale "binding" "mismatch")
  reject (receipt.providerId != state.binding.providerId ||
      receipt.protocolSessionId != state.binding.protocolSessionId ||
      receipt.taskId != state.binding.taskId || receipt.streamId != state.binding.streamId ||
      receipt.highestContiguousAckedSequence != acked ||
      receipt.stagedDigest != token.stagedDigest)
    (invalid "fsync_receipt" "binding-mismatch")
  reject (state.lastFsyncSequence.any fun last => decide (receipt.fsyncSequence ≤ last))
    (invalid "fsync_sequence" "not-increasing")
  firstError (state.notBehind token receipt) state.lastReceipt.toList
  reject (decide (acked > highestObservedSequence) || acked == maxU64)
    (invalid "highest_contiguous_acked_sequence" "replay-boundary")
  reject (state.lastGeneration.any fun last => decide (token.tokenGeneration ≤ last))
    (stale "token_generation" "not-increasing")
  .ok { state with
    lastGeneration := some token.tokenGeneration
    lastAckedSequence := acked
    lastFsyncSequence := some receipt.fsyncSequence
    lastReceipt := some receipt
    accepted := true }

/-- `ng1_resume_state::replay_start_sequence` -/
def ResumeState.replayStartSequence (state : ResumeState) : Result UInt64 :=
  if !state.accepted || state.lastAckedSequence == maxU64 then
    .error (ng1Error "resume-replay-invalid" "highest_contiguous_acked_sequence"
      "no-replay-authority")
  else .ok (state.lastAckedSequence + 1)

/-! ## The adapter -/

/-- `ng1_recovery_adapter`: `create` is the only way to get one, so the resume state is there. -/
structure RecoveryAdapter where
  state : RecoveryState := .running
  resumeState : ResumeState
  deriving DecidableEq, Repr

namespace RecoveryAdapter

/-- `ng1_recovery_adapter::create` -/
def create (binding : ResumeBinding) : Result RecoveryAdapter := do
  let resumeState ← ResumeState.create binding
  .ok { resumeState := resumeState }

/-- `transition` -/
def transition (adapter : RecoveryAdapter) (event : RecoveryEvent) :
    Result Unit × RecoveryAdapter :=
  match recoveryTransition adapter.state event with
  | .error fault => (.error fault, adapter)
  | .ok next => (.ok (), { adapter with state := next })

/-- `fail_from` -/
def failFrom (adapter : RecoveryAdapter) (event : RecoveryEvent) (originalError : Error) :
    Result Unit × RecoveryAdapter :=
  match recoveryTransition adapter.state event with
  | .error fault => (.error fault, adapter)
  | .ok next => (.error originalError, { adapter with state := next })

/-- `observe_worker_exit` -/
def observeWorkerExit (adapter : RecoveryAdapter) := adapter.transition .workerExit

/-- `observe_heartbeat_timeout` -/
def observeHeartbeatTimeout (adapter : RecoveryAdapter) := adapter.transition .heartbeatTimeout

/-- `observe_progress_rate_failure` -/
def observeProgressRateFailure (adapter : RecoveryAdapter) :=
  adapter.transition .progressRateFailure

/-- `request_cancel` -/
def requestCancel (adapter : RecoveryAdapter) := adapter.transition .cancelRequested

/-- `acknowledge_cancel` -/
def acknowledgeCancel (adapter : RecoveryAdapter) := adapter.transition .cancelAcknowledged

/-- `timeout_cancel` -/
def timeoutCancel (adapter : RecoveryAdapter) := adapter.transition .cancelTimeout

/-- `confirm_worker_kill` -/
def confirmWorkerKill (adapter : RecoveryAdapter) := adapter.transition .workerKillConfirmed

/-- `reject_heartbeat_clock` -/
def rejectHeartbeatClock (adapter : RecoveryAdapter) := adapter.transition .invalidHeartbeatClock

/-- `accept_durable_resume` -/
def acceptDurableResume (adapter : RecoveryAdapter) (token : ResumeToken)
    (receipt : SpillFsyncReceipt) (openDependencyGroup terminal : Bool)
    (highestObservedSequence : UInt64) : Result Unit × RecoveryAdapter :=
  -- A valid token must not be accepted before the worker is known to be gone.
  if adapter.state ≠ .workerKilled then adapter.transition .durableTokenValid
  else
    match adapter.resumeState.accept hash token receipt openDependencyGroup terminal
        highestObservedSequence with
    | .error fault => adapter.failFrom .durableTokenInvalid fault
    | .ok resumeState => { adapter with resumeState := resumeState }.transition .durableTokenValid

/-- `reject_durable_resume` -/
def rejectDurableResume (adapter : RecoveryAdapter) (originalError : Error) :
    Result Unit × RecoveryAdapter :=
  if adapter.state ≠ .workerKilled then
    (.error (ng1Error "recovery-failed" "state" "resume-not-pending"), adapter)
  else adapter.failFrom .durableTokenInvalid originalError

/-- `replay_start_sequence` -/
def replayStartSequence (adapter : RecoveryAdapter) : Result UInt64 :=
  if adapter.state ≠ .resumeReplay then
    .error (ng1Error "recovery-failed" "state" "replay-not-pending")
  else adapter.resumeState.replayStartSequence

/-- `accept_replay_validated` -/
def acceptReplayValidated (adapter : RecoveryAdapter) (firstSequence : UInt64) :
    Result Unit × RecoveryAdapter :=
  if adapter.state ≠ .resumeReplay then adapter.transition .replayValid
  else
    match adapter.resumeState.replayStartSequence with
    | .error fault => adapter.failFrom .replayInvalid fault
    | .ok expected =>
      if firstSequence ≠ expected then
        adapter.failFrom .replayInvalid
          (ng1Error "resume-replay-invalid" "first_sequence" "not-ack-plus-one")
      else adapter.transition .replayValid

/-- `reject_replay` -/
def rejectReplay (adapter : RecoveryAdapter) (originalError : Error) :
    Result Unit × RecoveryAdapter :=
  if adapter.state ≠ .resumeReplay then
    (.error (ng1Error "recovery-failed" "state" "replay-not-pending"), adapter)
  else adapter.failFrom .replayInvalid originalError

/-- `seal_output` -/
def sealOutput (adapter : RecoveryAdapter) := adapter.transition .outputSealed

/-- `reject_output` -/
def rejectOutput (adapter : RecoveryAdapter) := adapter.transition .outputInvalid

/-! ## What a transition does -/

theorem transition_cases (adapter : RecoveryAdapter) (event : RecoveryEvent) :
    (∃ fault, adapter.transition event = (.error fault, adapter)) ∨
      ∃ next, recoveryMatrix adapter.state event = some next ∧
        adapter.transition event = (.ok (), { adapter with state := next }) := by
  unfold transition recoveryTransition
  cases hnext : recoveryMatrix adapter.state event with
  | none => exact Or.inl ⟨_, rfl⟩
  | some next => exact Or.inr ⟨next, rfl, rfl⟩

theorem failFrom_cases (adapter : RecoveryAdapter) (event : RecoveryEvent) (fault : Error) :
    (∃ other, adapter.failFrom event fault = (.error other, adapter)) ∨
      ∃ next, recoveryMatrix adapter.state event = some next ∧
        adapter.failFrom event fault = (.error fault, { adapter with state := next }) := by
  unfold failFrom recoveryTransition
  cases hnext : recoveryMatrix adapter.state event with
  | none => exact Or.inl ⟨_, rfl⟩
  | some next => exact Or.inr ⟨next, rfl, rfl⟩

/-- While the worker is killed a resume token either leads to the replay or fails the session. -/
theorem acceptDurableResume_cases {adapter : RecoveryAdapter} (h : adapter.state = .workerKilled)
    (token : ResumeToken) (receipt : SpillFsyncReceipt) (openDependencyGroup terminal : Bool)
    (highestObservedSequence : UInt64) :
    (∃ fault, adapter.acceptDurableResume hash token receipt openDependencyGroup terminal
        highestObservedSequence = adapter.failFrom .durableTokenInvalid fault) ∨
      ∃ resumeState, adapter.resumeState.accept hash token receipt openDependencyGroup terminal
          highestObservedSequence = .ok resumeState ∧
        adapter.acceptDurableResume hash token receipt openDependencyGroup terminal
          highestObservedSequence = (.ok (), ⟨.resumeReplay, resumeState⟩) := by
  rw [acceptDurableResume, if_neg (by simp [h])]
  cases adapter.resumeState.accept hash token receipt openDependencyGroup terminal
      highestObservedSequence with
  | error fault => exact Or.inl ⟨fault, rfl⟩
  | ok resumeState => exact Or.inr ⟨resumeState, rfl, by simp [transition, recoveryTransition, h, recoveryMatrix]⟩

end RecoveryAdapter

theorem ResumeState.accept_ok {state after : ResumeState} {token : ResumeToken}
    {receipt : SpillFsyncReceipt} {openDependencyGroup terminal : Bool}
    {highestObservedSequence : UInt64}
    (h : state.accept hash token receipt openDependencyGroup terminal highestObservedSequence =
      .ok after) :
    after.lastAckedSequence = token.highestContiguousAckedSequence ∧
      token.highestContiguousAckedSequence = receipt.highestContiguousAckedSequence ∧
      token.stagedDigest = receipt.stagedDigest := by
  simp only [ResumeState.accept, seq_eq_ok_iff, reject_eq_ok_iff, Bool.or_eq_false_iff,
    bne_eq_false_iff_eq] at h
  obtain ⟨-, -, -, -, ⟨⟨-, hacked⟩, hstaged⟩, -, -, -, -, h⟩ := h
  obtain rfl := Except.ok.inj h
  exact ⟨rfl, hacked.symm, hstaged.symm⟩

theorem ResumeState.replayStartSequence_eq {state : ResumeState} {first : UInt64}
    (h : state.replayStartSequence = .ok first) :
    state.accepted = true ∧ first.toNat = state.lastAckedSequence.toNat + 1 := by
  rw [replayStartSequence, guard_eq_ok_iff] at h
  obtain ⟨hallowed, h⟩ := h
  simp only [Bool.or_eq_true, Bool.not_eq_true', not_or, Bool.not_eq_false, beq_iff_eq] at hallowed
  obtain rfl := Except.ok.inj h
  refine ⟨hallowed.1, ?_⟩
  have hlt := state.lastAckedSequence.toNat_lt
  have hne : state.lastAckedSequence.toNat ≠ 2 ^ 64 - 1 := fun heq =>
    hallowed.2 (UInt64.toNat_inj.1 (heq.trans (by decide)))
  rw [UInt64.toNat_add, UInt64.toNat_one, Nat.mod_eq_of_lt (by omega)]

end Resume

end Cxxlens.Sdk.Provider
