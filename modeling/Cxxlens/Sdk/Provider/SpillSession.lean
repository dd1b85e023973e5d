import Cxxlens.Sdk.Provider.SpillRecord

set_option autoImplicit false

/-! # The spill staging session

`ng1_spill_staging_session` over a storage port (`provider_ng1_spill_port_internal.cpp`). The port is
code that another process or the file system decides, so it is a parameter: a call is given the
handle and the state of the world and answers with a result, or `none` when it throws, and the new
state of the world. -/

namespace Cxxlens.Sdk.Provider

/-- `ng1_spill_storage_port`; `S` are the handles, `ω` the world behind them. -/
structure SpillStoragePort (S ω : Type) where
  append : S → Bytes → ω → Option (Result Unit) × ω
  fsync : S → ω → Option (Result UInt64) × ω
  readAll : S → ω → Option (Result Bytes) × ω
  readResumeFrontier : S → ω → Option (Result (Option SpillResumeFrontier)) × ω
  transferCleanupCustodyTo : S → S → ω → Option (Result Unit) × ω
  persistResumeFrontier : S → SpillResumeFrontier → ω → Option (Result Unit) × ω
  cleanup : S → ω → Option (Result Unit) × ω

/-- `ng1_spill_staging_session`; an optional number stands for a value with its `has_` flag. -/
structure SpillSession (S : Type) where
  prefixState : SpillPrefixState
  binding : SpillBinding
  storage : Option S
  lastFsyncSequence : Option UInt64 := none
  lastResumeGeneration : Option UInt64 := none
  poisoned : Bool := false
  cleaned : Bool := false
  deriving DecidableEq, Repr

namespace SpillSession

variable {S ω : Type}

/-- `poisoned_ = true` -/
def poison (session : SpillSession S) : SpillSession S :=
  { session with poisoned := true }

/-- The handle, unless the session is terminal. -/
def open? (session : SpillSession S) : Option S :=
  if session.cleaned || session.poisoned then none else session.storage

/-- `ng1_spill_staging_session::create` -/
def create (binding : SpillBinding) (storage : Option S) : Result (SpillSession S) :=
  match storage with
  | none => .error (portError "storage" "missing-port")
  | some handle => do
    let prefixState ← SpillPrefixState.create binding
    .ok { prefixState := prefixState, binding := binding, storage := some handle }

/-- The answer of a port call: an exception is an error of its own. -/
def answered {α : Type} (field : Bytes) (answer : Option (Result α)) : Result α :=
  answer.getD (.error (portError field "effect-unknown"))

section Operations

variable (hash : Bytes → Bytes) (port : SpillStoragePort S ω)

/-- `ng1_spill_staging_session::append` -/
def append (session : SpillSession S) (record : SpillRecord) (world : ω) :
    Result Unit × SpillSession S × ω :=
  match session.open? with
  | none => (.error (portError "append" "terminal-session"), session, world)
  | some handle =>
    let prepared : Result (SpillPrefixState × Bytes) := do
      validateSpillRecordWireQuota record
      let candidate ← session.prefixState.append hash record
      let wire ← encodeSpillRecord hash record
      .ok (candidate, wire)
    match prepared with
    | .error fault => (.error fault, session, world)
    | .ok (candidate, wire) =>
      let (answer, world) := port.append handle wire world
      match answered "append" answer with
      | .error fault => (.error fault, session.poison, world)
      | .ok () => (.ok (), { session with prefixState := candidate }, world)

/-- `valid_semantic_digest` of the spill port -/
def validSpillDigest (value field : Bytes) : Result Unit :=
  reject (!validSemanticDigest value) (corruptError field "semantic-v2")

/-- `ng1_spill_staging_session::fsync` -/
def fsync (session : SpillSession S) (highestContiguousAckedSequence highestObservedSequence : UInt64)
    (stagedDigest : Bytes) (resumeGeneration : UInt64) (world : ω) :
    Result SpillFsyncReceipt × SpillSession S × ω :=
  match session.open? with
  | none => (.error (portError "fsync" "terminal-session"), session, world)
  | some handle =>
    let admitted : Result Unit := do
      reject (resumeGeneration == 0 ||
          session.lastResumeGeneration.any fun last => decide (resumeGeneration ≤ last))
        (portError "resume_generation" "not-increasing")
      reject (decide (highestContiguousAckedSequence > highestObservedSequence))
        (corruptError "highest_contiguous_acked_sequence" "ahead-of-observed")
      session.prefixState.validateAckFrontier highestContiguousAckedSequence
      validSpillDigest stagedDigest "staged_digest"
    match admitted with
    | .error fault => (.error fault, session, world)
    | .ok () =>
      let (answer, world) := port.fsync handle world
      let observed : Result (UInt64 × SpillFsyncReceipt) := do
        let sequence ← answered "fsync" answer
        reject (sequence == 0 ||
            session.lastFsyncSequence.any fun last => decide (sequence ≤ last))
          (portError "fsync_sequence" "not-increasing")
        let receipt ← session.prefixState.observeHostFsync hash highestContiguousAckedSequence
          stagedDigest sequence
        SpillResumeFrontier.validate ⟨receipt, resumeGeneration⟩
        .ok (sequence, receipt)
      match observed with
      | .error fault => (.error fault, session.poison, world)
      | .ok (sequence, receipt) =>
        let (answer, world) := port.persistResumeFrontier handle ⟨receipt, resumeGeneration⟩ world
        match answered "resume_frontier" answer with
        | .error fault => (.error fault, session.poison, world)
        | .ok () =>
          (.ok receipt,
            { session with
              lastFsyncSequence := some sequence
              lastResumeGeneration := some resumeGeneration }, world)

/-- `ng1_spill_staging_session::validate_persisted_frontier` -/
def validatePersistedFrontier (session : SpillSession S) (receipt : SpillFsyncReceipt)
    (resumeGeneration : UInt64) (world : ω) : Result Unit × SpillSession S × ω :=
  match session.open? with
  | none => (.error (portError "resume_frontier" "terminal-session"), session, world)
  | some handle =>
    let expected : SpillResumeFrontier := ⟨receipt, resumeGeneration⟩
    match expected.validate with
    | .error fault => (.error fault, session, world)
    | .ok () =>
      let (answer, world) := port.readResumeFrontier handle world
      let compared : Result Unit := do
        let persisted ← answered "resume_frontier" answer
        match persisted with
        | none => .error (ng1Error "resume-token-stale" "resume_frontier" "missing")
        | some frontier => do
          frontier.validate
          reject (frontier != expected)
            (ng1Error "resume-token-stale" "resume_frontier" "not-latest")
      match compared with
      | .error fault => (.error fault, session.poison, world)
      | .ok () => (.ok (), session, world)

/-- `ng1_spill_staging_session::recover` -/
def recover (session : SpillSession S) (world : ω) : Result SpillPrefixState × SpillSession S × ω :=
  match session.open? with
  | none => (.error (portError "recovery" "terminal-session"), session, world)
  | some handle =>
    let (answer, world) := port.readAll handle world
    let recovered : Result SpillPrefixState := do
      let raw ← answered "recovery" answer
      recoverPrefix hash session.binding raw
    match recovered with
    | .error fault => (.error fault, session.poison, world)
    | .ok recovered => (.ok recovered, session, world)

/-- `ng1_spill_staging_session::restore_from_fsync_receipt` -/
def restoreFromFsyncReceipt (session : SpillSession S) (receipt : SpillFsyncReceipt)
    (resumeGeneration : UInt64) (world : ω) : Result Unit × SpillSession S × ω :=
  match session.open? with
  | none => (.error (portError "restore" "terminal-session"), session, world)
  | some _ =>
    let fresh : Result Unit := do
      reject (session.prefixState.totalBytes != 0 || session.prefixState.totalRecords != 0 ||
          session.lastFsyncSequence.isSome)
        (portError "restore" "non-fresh-session")
      receipt.validate
      reject (receipt.providerId != session.binding.providerId ||
          receipt.protocolSessionId != session.binding.protocolSessionId ||
          receipt.taskId != session.binding.taskId || receipt.streamId != session.binding.streamId)
        (corruptError "receipt" "binding-mismatch")
    match fresh with
    | .error fault => (.error fault, session.poison, world)
    | .ok () =>
      match session.recover hash port world with
      | (.error fault, session, world) => (.error fault, session, world)
      | (.ok recovered, session, world) =>
        let compared : Result Unit := do
          let expected ← recovered.observeHostFsync hash receipt.highestContiguousAckedSequence
            receipt.stagedDigest receipt.fsyncSequence
          reject (expected != receipt) (corruptError "receipt" "prefix-mismatch")
        match compared with
        | .error fault => (.error fault, session.poison, world)
        | .ok () =>
          match session.validatePersistedFrontier port receipt resumeGeneration world with
          | (.error fault, session, world) => (.error fault, session, world)
          | (.ok (), session, world) =>
            (.ok (),
              { session with
                prefixState := recovered
                lastFsyncSequence := some receipt.fsyncSequence
                lastResumeGeneration := some resumeGeneration }, world)

/-- `ng1_spill_staging_session::handoff_cleanup_custody_to`; the replacement is another session and
    stays as it is. -/
def handoffCleanupCustodyTo (session replacement : SpillSession S) (world : ω) :
    Result Unit × SpillSession S × ω :=
  let admitted : Result (S × S) := do
    let handles ← match session.open?, replacement.open? with
      | some handle, some other => .ok (handle, other)
      | _, _ => .error (portError "cleanup" "custody-session-terminal")
    reject (session.binding != replacement.binding) (corruptError "cleanup" "binding-mismatch")
    reject (session.prefixState.totalBytes != replacement.prefixState.totalBytes ||
        session.prefixState.totalRecords != replacement.prefixState.totalRecords ||
        session.lastFsyncSequence != replacement.lastFsyncSequence ||
        session.lastResumeGeneration != replacement.lastResumeGeneration)
      (corruptError "cleanup" "prefix-frontier-mismatch")
    match session.prefixState.spillDigest hash, replacement.prefixState.spillDigest hash with
    | .ok source, .ok other => do
      reject (source != other) (corruptError "cleanup" "prefix-mismatch")
      .ok handles
    | _, _ => .error (corruptError "cleanup" "prefix-digest")
  match admitted with
  | .error fault => (.error fault, session, world)
  | .ok (handle, other) =>
    let (answer, world) := port.transferCleanupCustodyTo handle other world
    match answer.getD (.error (portError "cleanup" "custody-transfer-effect-unknown")) with
    | .error fault => (.error fault, session, world)
    | .ok () =>
      let (answer, world) := port.cleanup handle world
      let retired := { session with storage := none, cleaned := true }
      match answer.getD (.error (portError "cleanup" "custody-retire-effect-unknown")) with
      | .error fault => (.error fault, retired.poison, world)
      | .ok () => (.ok (), retired, world)

/-- `ng1_spill_staging_session::cleanup` -/
def cleanup (session : SpillSession S) (world : ω) : Result Unit × SpillSession S × ω :=
  match if session.cleaned then none else session.storage with
  | none => (.error (portError "cleanup" "already-terminal"), session, world)
  | some handle =>
    let (answer, world) := port.cleanup handle world
    let disposed := { session with storage := none, cleaned := true }
    match answered "cleanup" answer with
    | .error fault => (.error fault, disposed.poison, world)
    | .ok () => (.ok (), disposed, world)

end Operations

/-- `operator=(ng1_spill_staging_session&&)`, and the move constructor: what the source of the move
    is left with. -/
def movedFrom (session : SpillSession S) : SpillSession S :=
  { session with storage := none, cleaned := true, poisoned := true }

end SpillSession

end Cxxlens.Sdk.Provider
