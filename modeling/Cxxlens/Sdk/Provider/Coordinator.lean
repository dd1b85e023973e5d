import Cxxlens.Sdk.Provider.Liveness
import Cxxlens.Sdk.Provider.Recovery
import Cxxlens.Sdk.Provider.SpillSession

set_option autoImplicit false

/-! # The session coordinator

`ng1_session_coordinator` (`provider_ng1_session.cpp`). An operation is given the coordinator and
the world of the storage port, and answers with its result and the two afterwards. -/

namespace Cxxlens.Sdk.Provider

/-- `session_error` -/
def sessionError (field detail : Bytes) : Error :=
  { code := "provider.protocol-state-invalid", field := field, detail := detail }

/-- `recovery_error` -/
def recoveryError (field detail : Bytes) : Error :=
  { code := "provider.recovery-failed", field := field, detail := detail }

/-- `ng1_session_configuration` -/
structure SessionConfiguration (S : Type) where
  heartbeatBinding : SessionBinding
  dependencyGroupId : Bytes
  resumeBinding : ResumeBinding
  spillBinding : SpillBinding
  hostStartedAtNs : UInt64
  spillStorage : Option S

/-- `bindings_match` -/
def SessionConfiguration.bindingsMatch {S : Type} (configuration : SessionConfiguration S) : Bool :=
  let heartbeat := configuration.heartbeatBinding
  let resume := configuration.resumeBinding
  let spill := configuration.spillBinding
  heartbeat.providerId == resume.providerId && heartbeat.providerVersion == resume.providerVersion &&
    heartbeat.providerId == spill.providerId &&
    heartbeat.protocolSessionId == resume.protocolSessionId &&
    heartbeat.protocolSessionId == spill.protocolSessionId &&
    heartbeat.taskId == resume.taskId && heartbeat.taskId == spill.taskId &&
    heartbeat.streamId == resume.streamId && heartbeat.streamId == spill.streamId &&
    configuration.dependencyGroupId == resume.dependencyGroupId &&
    configuration.dependencyGroupId == spill.dependencyGroupId &&
    resume.atomicOutputGroupId == spill.atomicOutputGroupId && resume.batchId == spill.batchId

/-- `provenance_mismatch_field`: the first field that differs. -/
def provenanceMismatchField (observed : RuntimeProvenance) (expected : ResumeBinding) :
    Option Bytes :=
  ([(observed.providerId != expected.providerId, "provider_id"),
    (observed.providerVersion != expected.providerVersion, "provider_version"),
    (observed.providerBinaryDigest != expected.providerBinaryDigest, "provider_binary_digest"),
    (observed.providerSemanticContractDigest != expected.providerSemanticContractDigest,
      "provider_semantic_contract_digest"),
    (observed.protocolSessionId != expected.protocolSessionId, "protocol_session_id"),
    (observed.taskId != expected.taskId, "task_id"),
    (observed.taskInputDigest != expected.taskInputDigest, "task_input_digest"),
    (observed.normalizedInvocationDigest != expected.normalizedInvocationDigest,
      "normalized_invocation_digest"),
    (observed.toolchainDigest != expected.toolchainDigest, "toolchain_digest"),
    (observed.environmentDigest != expected.environmentDigest, "environment_digest"),
    (observed.sandboxPolicyDigest != expected.sandboxPolicyDigest, "sandbox_policy_digest"),
    (observed.dependencyGroupId != expected.dependencyGroupId, "dependency_group_id"),
    (observed.atomicOutputGroupId != expected.atomicOutputGroupId, "atomic_output_group_id"),
    (observed.batchId != expected.batchId, "batch_id"),
    (observed.streamId != expected.streamId, "stream_id")] : List (Bool × Bytes)).find? Prod.fst
    |>.map Prod.snd

/-- `ng1_session_coordinator` -/
structure Coordinator (S : Type) where
  taskId : Bytes
  resumeBinding : ResumeBinding
  heartbeat : HeartbeatState
  progress : ProgressState
  recovery : RecoveryAdapter
  spill : SpillSession S
  latestFsyncReceipt : Option SpillFsyncReceipt := none
  lastHostReceiptTimeNs : Option UInt64 := none
  replayOutputDigest : Option Bytes := none
  replayFrameTranscriptDigest : Option Bytes := none
  taskAccepted : Bool := false
  progressTerminal : Bool := false
  poisoned : Bool := false
  cleaned : Bool := false
  movedFrom : Bool := false
  deriving DecidableEq, Repr

/-- `ng1_replay_validation_receipt::first_sequence` -/
def ReplayValidationReceipt.firstSequence (receipt : ReplayValidationReceipt) : UInt64 :=
  receipt.runtimeReceipt.firstFrameSequence

namespace Coordinator

variable {S ω : Type}

/-- `ng1_session_coordinator::create` -/
def create (configuration : SessionConfiguration S) : Result (Coordinator S) := do
  reject configuration.spillStorage.isNone (sessionError "spill_storage" "missing-port")
  reject (!configuration.bindingsMatch) (sessionError "binding" "cross-surface-mismatch")
  let heartbeat ← HeartbeatState.create configuration.heartbeatBinding configuration.hostStartedAtNs
  let progress ← ProgressState.create configuration.resumeBinding.taskId
    configuration.dependencyGroupId configuration.hostStartedAtNs
  let recovery ← RecoveryAdapter.create configuration.resumeBinding
  let spill ← SpillSession.create configuration.spillBinding configuration.spillStorage
  .ok { taskId := configuration.heartbeatBinding.taskId
        resumeBinding := configuration.resumeBinding
        heartbeat := heartbeat
        progress := progress
        recovery := recovery
        spill := spill }

/-- The move constructor: what the source of the move is left with. -/
def leftBehind (coordinator : Coordinator S) : Coordinator S :=
  { coordinator with
    spill := coordinator.spill.movedFrom
    taskAccepted := true
    progressTerminal := true
    poisoned := true
    cleaned := true
    movedFrom := true }

/-- `ng1_session_coordinator::state` -/
def state (coordinator : Coordinator S) : RecoveryState :=
  if coordinator.movedFrom || coordinator.poisoned || coordinator.spill.poisoned then .failed
  else coordinator.recovery.state

/-- `ensure_open` -/
def ensureOpen (coordinator : Coordinator S) (operation : Bytes) : Result Unit := do
  reject coordinator.movedFrom (recoveryError operation "moved-from")
  reject (coordinator.cleaned || coordinator.spill.cleaned)
    (recoveryError operation "session-cleaned")
  reject (coordinator.poisoned || coordinator.spill.poisoned)
    (recoveryError operation "session-poisoned")

/-- `admit_host_receipt` -/
def admitHostReceipt (coordinator : Coordinator S) (hostReceiptTimeNs : UInt64) : Result Unit :=
  reject (before hostReceiptTimeNs coordinator.lastHostReceiptTimeNs)
    (ng1Error "heartbeat-clock-invalid" "host_receipt_time_ns" "session-frontier-backwards")

/-- `poison` -/
def poison (coordinator : Coordinator S) (originalError : Error) : Result Unit × Coordinator S :=
  (.error originalError, { coordinator with poisoned := true })

/-- `if (auto open = ensure_open(operation); !open) return open;` in front of an operation. -/
def whenOpen (coordinator : Coordinator S) (operation : Bytes)
    (rest : Result Unit × Coordinator S) : Result Unit × Coordinator S :=
  match coordinator.ensureOpen operation with
  | .error fault => (.error fault, coordinator)
  | .ok () => rest

/-- A transition of the adapter as an operation of the coordinator. -/
def onRecovery (coordinator : Coordinator S) (answer : Result Unit × RecoveryAdapter) :
    Result Unit × Coordinator S :=
  (answer.1, { coordinator with recovery := answer.2 })

/-- `observe_task_accepted` -/
def observeTaskAccepted (coordinator : Coordinator S) (metadata : TaskAcceptedMetadata)
    (hostReceiptTimeNs : UInt64) : Result Unit × Coordinator S :=
  coordinator.whenOpen "task-accepted" <|
    let admitted : Result Unit := do
      reject coordinator.taskAccepted (sessionError "task_accepted" "duplicate")
      reject (metadata.providerId != coordinator.resumeBinding.providerId ||
          metadata.providerVersion != coordinator.resumeBinding.providerVersion.string ||
          metadata.taskId != coordinator.taskId)
        (ng1Error "task-binding-mismatch" "task_accepted" "identity")
      coordinator.admitHostReceipt hostReceiptTimeNs
    match admitted with
    | .error fault => coordinator.poison fault
    | .ok () =>
      (.ok (),
        { coordinator with
          heartbeat := coordinator.heartbeat.rebaseStart hostReceiptTimeNs
          progress := coordinator.progress.rebaseStart hostReceiptTimeNs
          lastHostReceiptTimeNs := some hostReceiptTimeNs
          taskAccepted := true })

/-- A rejection of a running session: the transition `timeout` where the error has the code
    `timeoutCode`, otherwise the clock is invalid; a session that is not running stays. -/
def rejectObservation (coordinator : Coordinator S) (timeoutCode : Bytes)
    (timeout : RecoveryAdapter → Result Unit × RecoveryAdapter) (originalError : Error) :
    Result Unit × Coordinator S :=
  if coordinator.recovery.state = .running then
    let (transition, recovery) :=
      if originalError.code = timeoutCode then timeout coordinator.recovery
      else coordinator.recovery.rejectHeartbeatClock
    match transition with
    | .error fault => (.error fault, { coordinator with recovery := recovery })
    | .ok () => (.error originalError, { coordinator with recovery := recovery })
  else (.error originalError, coordinator)

/-- `reject_heartbeat` -/
def rejectHeartbeat (coordinator : Coordinator S) (originalError : Error) :=
  coordinator.rejectObservation "provider.heartbeat-timeout"
    RecoveryAdapter.observeHeartbeatTimeout originalError

/-- `reject_progress` -/
def rejectProgress (coordinator : Coordinator S) (originalError : Error) :=
  coordinator.rejectObservation "provider.progress-rate"
    RecoveryAdapter.observeProgressRateFailure originalError

/-- `reject_resume` -/
def rejectResume (coordinator : Coordinator S) (originalError : Error) :
    Result Unit × Coordinator S :=
  coordinator.onRecovery (coordinator.recovery.rejectDurableResume originalError)

/-- `reject_replay` -/
def rejectReplay (coordinator : Coordinator S) (originalError : Error) :
    Result Unit × Coordinator S :=
  coordinator.onRecovery (coordinator.recovery.rejectReplay originalError)

/-- `reject_output(error)` -/
def rejectOutputWith (coordinator : Coordinator S) (originalError : Error) :
    Result Unit × Coordinator S :=
  if coordinator.recovery.state = .resumed then
    match coordinator.onRecovery coordinator.recovery.rejectOutput with
    | (.error fault, coordinator) => (.error fault, coordinator)
    | (.ok (), coordinator) => (.error originalError, coordinator)
  else coordinator.poison originalError

/-! ## Observations of the worker -/

/-- `observe_heartbeat` -/
def observeHeartbeat (coordinator : Coordinator S) (control : HeartbeatControl)
    (expectedKind : HeartbeatKind) (hostReceiptTimeNs highestObservedSequence : UInt64)
    (hostStagedDigest : Bytes) : Result Unit × Coordinator S :=
  coordinator.whenOpen "heartbeat" <|
    if coordinator.recovery.state ≠ .running then
      (.error (recoveryError "state" "heartbeat-not-accepted"), coordinator)
    else
      let accepted : Result HeartbeatState := do
        reject (control.kind != expectedKind) (sessionError "heartbeat.kind" "direction-mismatch")
        let sample ← control.toValidationSample hostReceiptTimeNs
        coordinator.admitHostReceipt hostReceiptTimeNs
        coordinator.heartbeat.accept sample highestObservedSequence hostStagedDigest
      match accepted with
      | .error fault => coordinator.rejectHeartbeat fault
      | .ok heartbeat =>
        (.ok (),
          { coordinator with
            heartbeat := heartbeat
            lastHostReceiptTimeNs := some hostReceiptTimeNs })

/-- `observe_host_probe` -/
def observeHostProbe (coordinator : Coordinator S) (control : HeartbeatControl)
    (hostReceiptTimeNs highestObservedSequence : UInt64) (hostStagedDigest : Bytes) :=
  coordinator.observeHeartbeat control .probe hostReceiptTimeNs highestObservedSequence
    hostStagedDigest

/-- `observe_provider_ack` -/
def observeProviderAck (coordinator : Coordinator S) (control : HeartbeatControl)
    (hostReceiptTimeNs highestObservedSequence : UInt64) (hostStagedDigest : Bytes) :=
  coordinator.observeHeartbeat control .ack hostReceiptTimeNs highestObservedSequence
    hostStagedDigest

/-- `check_liveness` -/
def checkLiveness (coordinator : Coordinator S) (nowNs : UInt64) : Result Unit × Coordinator S :=
  coordinator.whenOpen "liveness" <|
    if coordinator.recovery.state ≠ .running then
      (.error (recoveryError "state" "liveness-not-checked"), coordinator)
    else
      match coordinator.admitHostReceipt nowNs with
      | .error fault => coordinator.rejectHeartbeat fault
      | .ok () =>
        match coordinator.heartbeat.checkLiveness nowNs with
        | .error fault =>
          if fault.code = "provider.heartbeat-timeout" then
            { coordinator with lastHostReceiptTimeNs := some nowNs }.rejectHeartbeat fault
          else coordinator.rejectHeartbeat fault
        | .ok () => (.ok (), { coordinator with lastHostReceiptTimeNs := some nowNs })

/-- `observe_progress` -/
def observeProgress (coordinator : Coordinator S) (control : ProgressControl)
    (hostReceiptTimeNs : UInt64) (terminalSample : Bool) : Result Unit × Coordinator S :=
  coordinator.whenOpen "progress" <|
    if coordinator.recovery.state ≠ .running then
      (.error (recoveryError "state" "progress-not-accepted"), coordinator)
    else
      let observed : Result ProgressState := do
        let sample ← control.toValidationSample hostReceiptTimeNs
        coordinator.admitHostReceipt hostReceiptTimeNs
        coordinator.progress.observe sample terminalSample
      match observed with
      | .error fault => coordinator.rejectProgress fault
      | .ok progress =>
        (.ok (),
          { coordinator with
            progress := progress
            lastHostReceiptTimeNs := some hostReceiptTimeNs
            progressTerminal := coordinator.progressTerminal || terminalSample })

/-- `observe_worker_exit` -/
def observeWorkerExit (coordinator : Coordinator S) :=
  coordinator.whenOpen "worker-exit" (coordinator.onRecovery coordinator.recovery.observeWorkerExit)

/-- `observe_heartbeat_timeout` -/
def observeHeartbeatTimeout (coordinator : Coordinator S) :=
  coordinator.whenOpen "heartbeat-timeout"
    (coordinator.onRecovery coordinator.recovery.observeHeartbeatTimeout)

/-- `observe_progress_rate_failure` -/
def observeProgressRateFailure (coordinator : Coordinator S) :=
  coordinator.whenOpen "progress-rate"
    (coordinator.onRecovery coordinator.recovery.observeProgressRateFailure)

/-- `request_cancel` -/
def requestCancel (coordinator : Coordinator S) :=
  coordinator.whenOpen "cancel-request" (coordinator.onRecovery coordinator.recovery.requestCancel)

/-- `acknowledge_cancel` -/
def acknowledgeCancel (coordinator : Coordinator S) :=
  coordinator.whenOpen "cancel-acknowledged"
    (coordinator.onRecovery coordinator.recovery.acknowledgeCancel)

/-- `timeout_cancel` -/
def timeoutCancel (coordinator : Coordinator S) :=
  coordinator.whenOpen "cancel-timeout" (coordinator.onRecovery coordinator.recovery.timeoutCancel)

/-- `confirm_worker_kill` -/
def confirmWorkerKill (coordinator : Coordinator S) :=
  coordinator.whenOpen "worker-kill" (coordinator.onRecovery coordinator.recovery.confirmWorkerKill)

/-- `fail_before_worker_start` -/
def failBeforeWorkerStart (coordinator : Coordinator S) : Coordinator S :=
  { coordinator with poisoned := true }

/-! ## The spill and the resume -/

section Operations

variable (hash : Bytes → Bytes) (port : SpillStoragePort S ω)

/-- `append_spill` -/
def appendSpill (coordinator : Coordinator S) (record : SpillRecord) (world : ω) :
    Result Unit × Coordinator S × ω :=
  match coordinator.ensureOpen "spill" with
  | .error fault => (.error fault, coordinator, world)
  | .ok () =>
    if coordinator.recovery.state ≠ .running ∨ coordinator.progressTerminal = true then
      (.error (recoveryError "state" "spill-not-open"), coordinator, world)
    else
      match coordinator.spill.append hash port record world with
      | (.error fault, spill, world) =>
        (.error fault, { coordinator with spill := spill, poisoned := true }, world)
      | (.ok (), spill, world) => (.ok (), { coordinator with spill := spill }, world)

/-- `fsync_spill` -/
def fsyncSpill (coordinator : Coordinator S)
    (highestContiguousAckedSequence highestObservedSequence : UInt64) (stagedDigest : Bytes)
    (resumeGeneration : UInt64) (world : ω) :
    Result SpillFsyncReceipt × Coordinator S × ω :=
  match coordinator.ensureOpen "spill" with
  | .error fault => (.error fault, coordinator, world)
  | .ok () =>
    if coordinator.recovery.state ≠ .running then
      (.error (recoveryError "state" "spill-not-open"), coordinator, world)
    else
      match coordinator.spill.fsync hash port highestContiguousAckedSequence
          highestObservedSequence stagedDigest resumeGeneration world with
      | (.error fault, spill, world) =>
        (.error fault, { coordinator with spill := spill, poisoned := true }, world)
      | (.ok receipt, spill, world) =>
        (.ok receipt, { coordinator with spill := spill, latestFsyncReceipt := some receipt }, world)

/-- The comparison of a receipt with the prefix read back. -/
def prefixMatches (receipt : SpillFsyncReceipt) (recovered : SpillPrefixState) : Result Unit := do
  let digest ← recovered.spillDigest hash
  reject (receipt.spillDigest != digest || receipt.totalBytes != recovered.totalBytes ||
      receipt.totalRecords != recovered.totalRecords)
    (ng1Error "resume-replay-invalid" "spill_receipt" "prefix-mismatch")

/-- `accept_durable_resume` -/
def acceptDurableResume (coordinator : Coordinator S) (control : ResumeToken)
    (receipt : SpillFsyncReceipt) (openDependencyGroup terminal : Bool)
    (highestObservedSequence : UInt64) (world : ω) : Result Unit × Coordinator S × ω :=
  let rejected (coordinator : Coordinator S) (fault : Error) (world : ω) :=
    let (answer, coordinator) := coordinator.rejectResume fault
    (answer, coordinator, world)
  match coordinator.ensureOpen "resume" with
  | .error fault => (.error fault, coordinator, world)
  | .ok () =>
    if coordinator.recovery.state ≠ .workerKilled then
      (.error (recoveryError "state" "resume-not-pending"), coordinator, world)
    else
      match coordinator.latestFsyncReceipt with
      | none =>
        rejected coordinator (ng1Error "resume-replay-invalid" "fsync_receipt"
          "coordinator-observation-missing") world
      | some latest =>
        if latest ≠ receipt then
          rejected coordinator (ng1Error "resume-replay-invalid" "fsync_receipt" "not-latest") world
        else
          match coordinator.spill.recover hash port world with
          | (.error fault, spill, world) => rejected { coordinator with spill := spill } fault world
          | (.ok recovered, spill, world) =>
            let coordinator := { coordinator with spill := spill }
            let token : Result ResumeToken := do
              prefixMatches hash receipt recovered
              control.toValidationToken hash
            match token with
            | .error fault => rejected coordinator fault world
            | .ok token =>
              match spill.validatePersistedFrontier port receipt token.tokenGeneration world with
              | (.error fault, spill, world) =>
                rejected { coordinator with spill := spill } fault world
              | (.ok (), spill, world) =>
                let (answer, coordinator) := { coordinator with spill := spill }.onRecovery
                  (coordinator.recovery.acceptDurableResume hash token receipt openDependencyGroup
                    terminal highestObservedSequence)
                (answer, coordinator, world)

/-- `restore_durable_resume` -/
def restoreDurableResume (coordinator : Coordinator S) (control : ResumeToken)
    (receipt : SpillFsyncReceipt) (openDependencyGroup terminal : Bool)
    (highestObservedSequence : UInt64) (world : ω) : Result Unit × Coordinator S × ω :=
  let rejected (coordinator : Coordinator S) (fault : Error) (world : ω) :=
    let (answer, coordinator) := coordinator.rejectResume fault
    (answer, coordinator, world)
  match coordinator.ensureOpen "restore-resume" with
  | .error fault => (.error fault, coordinator, world)
  | .ok () =>
    if coordinator.recovery.state ≠ .workerKilled then
      (.error (recoveryError "state" "resume-not-pending"), coordinator, world)
    else if coordinator.latestFsyncReceipt.isSome then
      rejected coordinator (ng1Error "resume-replay-invalid" "fsync_receipt"
        "coordinator-observation-present") world
    else
      match coordinator.spill.restoreFromFsyncReceipt hash port receipt control.tokenGeneration
          world with
      | (.error fault, spill, world) => rejected { coordinator with spill := spill } fault world
      | (.ok (), spill, world) =>
        { coordinator with spill := spill, latestFsyncReceipt := some receipt }.acceptDurableResume
          hash port control receipt openDependencyGroup terminal highestObservedSequence world

/-- `replace_spill_for_resume` -/
def replaceSpillForResume (coordinator : Coordinator S) (replacement : SpillSession S)
    (receipt : SpillFsyncReceipt) (resumeGeneration : UInt64) (world : ω) :
    Result Unit × Coordinator S × ω :=
  let admitted : Result Unit := do
    coordinator.ensureOpen "spill-replacement"
    reject (coordinator.recovery.state != .workerKilled)
      (recoveryError "state" "spill-replacement-not-pending")
    reject coordinator.latestFsyncReceipt.isNone
      (ng1Error "resume-replay-invalid" "fsync_receipt" "coordinator-observation-missing")
    reject (coordinator.latestFsyncReceipt != some receipt)
      (ng1Error "resume-replay-invalid" "fsync_receipt" "not-latest")
    receipt.validate
    SpillResumeFrontier.validate ⟨receipt, resumeGeneration⟩
    reject (coordinator.spill.prefixState.totalBytes != receipt.totalBytes ||
        coordinator.spill.prefixState.totalRecords != receipt.totalRecords ||
        replacement.prefixState.totalBytes != receipt.totalBytes ||
        replacement.prefixState.totalRecords != receipt.totalRecords)
      (ng1Error "resume-replay-invalid" "spill_receipt" "prefix-size-mismatch")
  match admitted with
  | .error fault => (.error fault, coordinator, world)
  | .ok () =>
    match coordinator.spill.validatePersistedFrontier port receipt resumeGeneration world with
    | (.error fault, spill, world) => (.error fault, { coordinator with spill := spill }, world)
    | (.ok (), spill, world) =>
      let coordinator := { coordinator with spill := spill }
      match replacement.validatePersistedFrontier port receipt resumeGeneration world with
      | (.error fault, _, world) => (.error fault, coordinator, world)
      | (.ok (), replacement, world) =>
        match replacement.recover hash port world with
        | (.error fault, _, world) => (.error fault, coordinator, world)
        | (.ok recovered, replacement, world) =>
          match prefixMatches hash receipt recovered with
          | .error fault => (.error fault, coordinator, world)
          | .ok () =>
            match spill.handoffCleanupCustodyTo hash port replacement world with
            | (.error fault, spill, world) =>
              (.error fault, { coordinator with spill := spill }, world)
            | (.ok (), _, world) => (.ok (), { coordinator with spill := replacement }, world)

/-! ## The replay and the output -/

/-- `replay_start_sequence` -/
def replayStartSequence (coordinator : Coordinator S) : Result UInt64 := do
  coordinator.ensureOpen "replay"
  coordinator.recovery.replayStartSequence

/-- `accept_replay_frontier` -/
def acceptReplayFrontier (coordinator : Coordinator S) (firstSequence : UInt64) :
    Result Unit × Coordinator S :=
  coordinator.whenOpen "replay-frontier" <|
    if coordinator.recovery.state ≠ .resumeReplay then
      (.error (recoveryError "state" "replay-not-pending"), coordinator)
    else coordinator.onRecovery (coordinator.recovery.acceptReplayValidated firstSequence)

/-- What `accept_replay` requires of the receipt before the frontier. -/
def replayAdmitted (coordinator : Coordinator S) (replayReceipt : ReplayValidationReceipt) :
    Result Unit := do
  let invalid := fun field detail => ng1Error "resume-replay-invalid" field detail
  let runtimeReceipt := replayReceipt.runtimeReceipt
  reject (replayReceipt.taskId != coordinator.taskId) (invalid "task_id" "binding-mismatch")
  reject (!runtimeReceipt.validate.isOk) (invalid "runtime_receipt" "identity-incomplete")
  reject (runtimeReceipt.sealedTranscriptDigest != replayReceipt.sealedTranscriptDigest)
    (invalid "sealed_transcript_digest" "identity-mismatch")
  firstError (fun field => .error (invalid field "binding-mismatch"))
    (provenanceMismatchField runtimeReceipt.provenance coordinator.resumeBinding).toList
  reject (!validSemanticDigest runtimeReceipt.frameTranscriptDigest)
    (invalid "frame_transcript_digest" "missing-or-invalid")

/-- `accept_replay` -/
def acceptReplay (coordinator : Coordinator S) (replayReceipt : ReplayValidationReceipt) :
    Result Unit × Coordinator S :=
  coordinator.whenOpen "replay" <|
    if coordinator.recovery.state ≠ .resumeReplay then
      (.error (recoveryError "state" "replay-not-pending"), coordinator)
    else
      match coordinator.replayAdmitted replayReceipt with
      | .error fault => coordinator.rejectReplay fault
      | .ok () =>
        match coordinator.onRecovery
            (coordinator.recovery.acceptReplayValidated replayReceipt.firstSequence) with
        | (.error fault, coordinator) => (.error fault, coordinator)
        | (.ok (), coordinator) =>
          (.ok (),
            { coordinator with
              replayOutputDigest := some replayReceipt.sealedTranscriptDigest
              replayFrameTranscriptDigest :=
                some replayReceipt.runtimeReceipt.frameTranscriptDigest
              progressTerminal := true })

/-- `seal_output` -/
def sealOutput (coordinator : Coordinator S) (outputReceipt : OutputValidationReceipt) :
    Result Unit × Coordinator S :=
  coordinator.whenOpen "output" <|
    let currentState := coordinator.recovery.state
    if currentState ≠ .running ∧ currentState ≠ .resumed then
      (.error (recoveryError "state" "output-not-sealable"), coordinator)
    else if outputReceipt.taskId ≠ coordinator.taskId then
      let failure := sessionError "output.task_id" "binding-mismatch"
      if currentState = .resumed then coordinator.rejectOutputWith failure
      else coordinator.poison failure
    else if currentState = .resumed ∧
        (coordinator.replayOutputDigest ≠ some outputReceipt.sealedTranscriptDigest ∨
          coordinator.replayFrameTranscriptDigest.any validSemanticDigest = false) then
      coordinator.rejectOutputWith
        (ng1Error "replay-invalid" "replay_receipt" "not-replayed-seal")
    else if coordinator.progressTerminal = false then
      coordinator.poison (ng1Error "progress-rate" "terminal" "missing")
    else
      match if currentState = .running then coordinator.progress.finish else .ok () with
      | .error fault => coordinator.poison fault
      | .ok () =>
        match coordinator.onRecovery coordinator.recovery.sealOutput with
        | (.error fault, coordinator) => (.error fault, coordinator)
        | (.ok (), coordinator) =>
          (.ok (), { coordinator with heartbeat := coordinator.heartbeat.markTerminal })

/-- `reject_output()` -/
def rejectOutput (coordinator : Coordinator S) : Result Unit × Coordinator S :=
  coordinator.whenOpen "output" <|
    coordinator.rejectOutputWith (ng1Error "replay-invalid" "output" "rejected")

/-- `cleanup` -/
def cleanup (coordinator : Coordinator S) (world : ω) : Result Unit × Coordinator S × ω :=
  let admitted : Result Unit := do
    reject coordinator.movedFrom (recoveryError "cleanup" "moved-from")
    reject coordinator.cleaned (recoveryError "cleanup" "already-terminal")
    reject (coordinator.state != .completed && coordinator.state != .failed)
      (recoveryError "cleanup" "state-not-terminal")
  match admitted with
  | .error fault => (.error fault, coordinator, world)
  | .ok () =>
    match coordinator.spill.cleanup port world with
    | (.error fault, spill, world) =>
      (.error fault, { coordinator with spill := spill, cleaned := true, poisoned := true }, world)
    | (.ok (), spill, world) => (.ok (), { coordinator with spill := spill, cleaned := true }, world)

end Operations

end Coordinator

end Cxxlens.Sdk.Provider
