import Cxxlens.Sdk.Provider.Values

set_option autoImplicit false

/-! # Heartbeat and progress

The host's two clocks over a session (`provider_ng1_validation.cpp`): a heartbeat state admits
probes and acknowledgements, a progress state admits samples at a minimum rate. A refused sample
leaves the state as it was; the new state is the result. -/

namespace Cxxlens.Sdk.Provider

open Fallible

/-! ## Counters and clocks -/

/-- `heartbeat_timeout_ns` -/
def heartbeatTimeoutNs : UInt64 := 5000000000

/-- `heartbeat_startup_grace_ns` -/
def heartbeatStartupGraceNs : UInt64 := 10000000000

/-- `progress_startup_grace_ns` -/
def progressStartupGraceNs : UInt64 := 10000000000

/-- `progress_sample_window_ns` -/
def progressSampleWindowNs : UInt64 := 5000000000

/-- `progress_maximum_sample_gap_ns` -/
def progressMaximumSampleGapNs : UInt64 := 10000000000

/-- `progress_units_per_second` -/
def progressUnitsPerSecond : UInt64 := 1

/-- `nanos_per_second` -/
def nanosPerSecond : UInt64 := 1000000000

/-- `checked_elapsed` -/
def checkedElapsed (current previous : UInt64) (code field : Bytes) : Result UInt64 :=
  if current < previous then .error (ng1Error code field "backwards-or-underflow")
  else .ok (current - previous)

/-- What `accept_contiguous` waits for: there is nothing after the largest number. -/
def expectedNext : Option UInt64 → Option UInt64
  | none => some 0
  | some last => if last = UInt64.ofNat (2 ^ 64 - 1) then none else some (last + 1)

/-- `accept_contiguous`: the new last number. -/
def acceptContiguous (last : Option UInt64) (observed : UInt64) (code field : Bytes) :
    Result (Option UInt64) :=
  if expectedNext last = some observed then .ok (some observed)
  else .error (ng1Error code field "non-contiguous-or-overflow")

/-- Whether a time is before an optional earlier one. -/
def before (time : UInt64) (previous : Option UInt64) : Bool :=
  previous.any fun previous => decide (time < previous)

/-! The checks pass exactly when the numbers compare. -/

/-- The number that a counter waits for. -/
def nextNumber (last : Option UInt64) : Nat :=
  last.elim 0 fun last => last.toNat + 1

theorem acceptContiguous_eq_ok_iff {last next : Option UInt64} {observed : UInt64}
    {code field : Bytes} :
    acceptContiguous last observed code field = .ok next ↔
      observed.toNat = nextNumber last ∧ next = some observed := by
  have hexpected : expectedNext last = some observed ↔ observed.toNat = nextNumber last := by
    cases last with
    | none => simp [expectedNext, nextNumber, ← UInt64.toNat_inj, eq_comm]
    | some last =>
        have hlast := last.toNat_lt
        have hobserved := observed.toNat_lt
        have hmax : last = UInt64.ofNat (2 ^ 64 - 1) ↔ last.toNat = 2 ^ 64 - 1 := by
          rw [← UInt64.toNat_inj]
          simp
        by_cases hfull : last.toNat = 2 ^ 64 - 1
        · simp only [expectedNext, if_pos (hmax.2 hfull), nextNumber, Option.elim_some]
          simp
          omega
        · have hsucc : (last + 1).toNat = last.toNat + 1 := by
            rw [UInt64.toNat_add, UInt64.toNat_one, Nat.mod_eq_of_lt (by omega)]
          rw [expectedNext, if_neg (mt hmax.1 hfull), nextNumber, Option.elim_some,
            Option.some.injEq, ← UInt64.toNat_inj, hsucc]
          exact eq_comm
  rw [acceptContiguous]
  by_cases h : expectedNext last = some observed
  · simp [h, hexpected.1 h, eq_comm]
  · simp [h, mt hexpected.2 h]

theorem checkedElapsed_eq_ok_iff {current previous elapsed : UInt64} {code field : Bytes} :
    checkedElapsed current previous code field = .ok elapsed ↔
      previous.toNat ≤ current.toNat ∧ elapsed.toNat = current.toNat - previous.toNat := by
  rw [checkedElapsed, guard_eq_ok_iff, UInt64.lt_iff_toNat_lt, Except.ok.injEq,
    ← UInt64.toNat_inj, not_lt]
  refine and_congr_right fun hle => ?_
  rw [UInt64.toNat_sub_of_le _ _ (UInt64.le_iff_toNat_le.2 hle)]
  exact eq_comm

theorem before_eq_false_iff {time : UInt64} {previous : Option UInt64} :
    before time previous = false ↔
      ∀ earlier, previous = some earlier → earlier.toNat ≤ time.toNat := by
  cases previous with
  | none => simp [before]
  | some earlier => simp [before, UInt64.le_iff_toNat_le]

/-! ## Heartbeats -/

/-- `ng1_heartbeat_state` -/
structure HeartbeatState where
  binding : SessionBinding
  startedAtNs : UInt64
  lastProbeSequence : Option UInt64 := none
  lastAckSequence : Option UInt64 := none
  lastProviderTimeNs : Option UInt64 := none
  lastProbeHostReceiptNs : Option UInt64 := none
  lastHostReceiptTimeNs : Option UInt64 := none
  lastValidAckReceivedNs : Option UInt64 := none
  terminal : Bool := false
  deriving DecidableEq, Repr

/-- `ng1_heartbeat_state::create` -/
def HeartbeatState.create (binding : SessionBinding) (startedAtNs : UInt64) :
    Result HeartbeatState := do
  binding.validate
  .ok { binding := binding, startedAtNs := startedAtNs }

/-- A deadline `limit` after an optional earlier time has not come. -/
def withinDeadline (now : UInt64) (previous : Option UInt64) (limit : UInt64)
    (field detail : Bytes) : Result Unit :=
  match previous with
  | none => .ok ()
  | some previous => do
    let elapsed ← checkedElapsed now previous "heartbeat-clock-invalid" field
    reject (decide (elapsed ≥ limit)) (ng1Error "heartbeat-timeout" field detail)

theorem withinDeadline_eq_ok_iff {now limit : UInt64} {previous : Option UInt64}
    {field detail : Bytes} :
    withinDeadline now previous limit field detail = .ok () ↔
      ∀ earlier, previous = some earlier →
        earlier.toNat ≤ now.toNat ∧ now.toNat - earlier.toNat < limit.toNat := by
  cases previous with
  | none => simp [withinDeadline]
  | some earlier =>
      simp only [withinDeadline, bind_eq_ok_iff, checkedElapsed_eq_ok_iff, reject_eq_ok_iff,
        decide_eq_false_iff_not, ge_iff_le, UInt64.le_iff_toNat_le, not_le, Option.some.injEq,
        forall_eq']
      constructor
      · intro h
        obtain ⟨elapsed, ⟨hle, helapsed⟩, hlimit⟩ := h
        exact ⟨hle, by omega⟩
      · intro h
        have hle := UInt64.le_iff_toNat_le.2 h.1
        exact ⟨now - earlier, ⟨h.1, UInt64.toNat_sub_of_le _ _ hle⟩, by
          rw [UInt64.toNat_sub_of_le _ _ hle]
          exact h.2⟩

/-- `ng1_heartbeat_state::accept` -/
def HeartbeatState.accept (state : HeartbeatState) (sample : HeartbeatSample)
    (highestObservedSequence : UInt64) (hostObservedStagedDigest : Bytes) :
    Result HeartbeatState := do
  let invalid := fun field detail => ng1Error "heartbeat-clock-invalid" field detail
  reject state.terminal (invalid "terminal" "heartbeat-after-terminal")
  reject (sample.schema != heartbeatSchema) (invalid "schema" "unexpected")
  reject (sample.binding != state.binding) (invalid "binding" "mismatch")
  reject (!validSemanticDigest hostObservedStagedDigest)
    (invalid "host_observed_staged_digest" "invalid-digest")
  reject (!validSemanticDigest sample.stagedDigest) (invalid "staged_digest" "invalid-digest")
  reject (sample.stagedDigest != hostObservedStagedDigest)
    (invalid "staged_digest" "host-state-mismatch")
  reject (sample.kind != .probe && sample.kind != .ack) (invalid "kind" "unknown")
  reject (decide (sample.hostReceiptTimeNs < state.startedAtNs))
    (invalid "host_receipt_time_ns" "before-session-start")
  reject (decide (sample.providerMonotonicTimeNs > sample.hostReceiptTimeNs))
    (invalid "monotonic_time_ns" "future")
  reject (before sample.providerMonotonicTimeNs state.lastProviderTimeNs)
    (invalid "monotonic_time_ns" "backwards")
  reject (before sample.hostReceiptTimeNs state.lastHostReceiptTimeNs)
    (invalid "host_receipt_time_ns" "backwards")
  let ahead := reject (decide (sample.highestContiguousAckedSequence > highestObservedSequence))
    (invalid "highest_contiguous_acked_sequence" "ahead-of-observed")
  let seen := { state with
    lastProviderTimeNs := some sample.providerMonotonicTimeNs
    lastHostReceiptTimeNs := some sample.hostReceiptTimeNs }
  if sample.kind = .probe then
    let next ← acceptContiguous state.lastProbeSequence sample.heartbeatSequence
      "heartbeat-sequence" "heartbeat_sequence"
    ahead
    .ok { seen with
      lastProbeSequence := next
      lastProbeHostReceiptNs := some sample.hostReceiptTimeNs }
  else
    if state.lastValidAckReceivedNs.isNone then
      withinDeadline sample.hostReceiptTimeNs (some state.startedAtNs) heartbeatStartupGraceNs
        "host_receipt_time_ns" "startup-deadline-reached"
    withinDeadline sample.hostReceiptTimeNs state.lastProbeHostReceiptNs heartbeatTimeoutNs
      "host_receipt_time_ns" "ack-deadline-reached"
    let next ← acceptContiguous state.lastAckSequence sample.heartbeatSequence
      "heartbeat-sequence" "heartbeat_sequence"
    ahead
    .ok { seen with
      lastAckSequence := next
      lastValidAckReceivedNs := some sample.hostReceiptTimeNs }

/-- `ng1_heartbeat_state::check_liveness` -/
def HeartbeatState.checkLiveness (state : HeartbeatState) (nowNs : UInt64) : Result Unit :=
  if state.terminal then .ok ()
  else do
    let elapsed ← checkedElapsed nowNs state.startedAtNs "heartbeat-clock-invalid" "now_ns"
    match state.lastValidAckReceivedNs with
    | none =>
      reject (decide (elapsed ≥ heartbeatStartupGraceNs))
        (ng1Error "heartbeat-timeout" "now_ns" "startup-grace-expired")
    | some acknowledged => do
      withinDeadline nowNs state.lastProbeHostReceiptNs heartbeatTimeoutNs "now_ns"
        "probe-deadline-reached"
      withinDeadline nowNs (some acknowledged) heartbeatTimeoutNs "now_ns" "ack-deadline-reached"

/-- `ng1_heartbeat_state::mark_terminal` -/
def HeartbeatState.markTerminal (state : HeartbeatState) : HeartbeatState :=
  { state with terminal := true }

/-- `ng1_heartbeat_state::rebase_start` -/
def HeartbeatState.rebaseStart (state : HeartbeatState) (startedAtNs : UInt64) : HeartbeatState :=
  { binding := state.binding, startedAtNs := startedAtNs }

/-! ## Progress -/

/-- `ng1_u128` -/
structure U128 where
  high : UInt64
  low : UInt64
  deriving DecidableEq, Repr

/-- `multiply_u64`: the 128 bits of a product. -/
def multiplyU64 (left right : UInt64) : U128 :=
  let mask : UInt64 := 0xffffffff
  let leftLow := left &&& mask
  let leftHigh := left >>> 32
  let rightLow := right &&& mask
  let rightHigh := right >>> 32
  let lowProduct := leftLow * rightLow
  let carry := lowProduct >>> 32
  let highLowProduct := leftHigh * rightLow + carry
  let middleDigit := highLowProduct &&& mask
  let highCarry := highLowProduct >>> 32
  let lowHighProduct := leftLow * rightHigh + middleDigit
  { low := (lowProduct &&& mask) ||| ((lowHighProduct &&& mask) <<< 32)
    high := leftHigh * rightHigh + highCarry + (lowHighProduct >>> 32) }

/-- `less_equal` -/
def U128.lessEqual (left right : U128) : Bool :=
  decide (left.high < right.high) || (left.high == right.high && decide (left.low ≤ right.low))

/-- `progress_rate_satisfied` -/
def progressRateSatisfied (deltaUnits deltaTimeNs : UInt64) : Bool :=
  (multiplyU64 deltaTimeNs progressUnitsPerSecond).lessEqual (multiplyU64 deltaUnits nanosPerSecond)

/-- `ng1_progress_state` -/
structure ProgressState where
  taskId : Bytes
  dependencyGroupId : Bytes
  startedAtNs : UInt64
  lastSequence : Option UInt64 := none
  lastProviderTimeNs : Option UInt64 := none
  lastHostReceiptTimeNs : Option UInt64 := none
  lastCompletedUnits : Option UInt64 := none
  rateCheckpointReceiptNs : Option UInt64 := none
  rateCheckpointCompletedUnits : Option UInt64 := none
  totalUnits : Option UInt64 := none
  terminalObserved : Bool := false
  deriving DecidableEq, Repr

/-- `ng1_progress_state::create` -/
def ProgressState.create (taskId dependencyGroupId : Bytes) (startedAtNs : UInt64) :
    Result ProgressState := do
  validId "progress-rate" taskId "task_id"
  validId "progress-rate" dependencyGroupId "dependency_group_id"
  .ok { taskId := taskId, dependencyGroupId := dependencyGroupId, startedAtNs := startedAtNs }

/-- The startup deadline of a first sample, the gap and rate checks of a later one: the rate
    checkpoint of the next sample. -/
def ProgressState.nextCheckpoint (state : ProgressState) (sample : ProgressSample)
    (terminalSample : Bool) : Result (Option UInt64 × Option UInt64) :=
  let rate := fun field detail => ng1Error "progress-rate" field detail
  match state.lastHostReceiptTimeNs with
  | none => do
    let sinceStart ← checkedElapsed sample.hostReceiptTimeNs state.startedAtNs "progress-rate"
      "host_receipt_time_ns"
    reject (decide (sinceStart ≥ progressStartupGraceNs))
      (rate "host_receipt_time_ns" "startup-deadline-reached")
    .ok (some sample.hostReceiptTimeNs, some sample.completedUnits)
  | some lastReceipt =>
    match state.rateCheckpointReceiptNs, state.rateCheckpointCompletedUnits with
    | some checkpointReceipt, some checkpointUnits => do
      let elapsed ← checkedElapsed sample.hostReceiptTimeNs lastReceipt "progress-rate"
        "host_receipt_time_ns"
      reject (elapsed == 0) (rate "sample_gap" "zero-elapsed")
      reject (decide (elapsed > progressMaximumSampleGapNs))
        (rate "sample_gap" "maximum-exceeded")
      -- `last_completed_units_` is set together with the last receipt time.
      let lastUnits := state.lastCompletedUnits.getD 0
      reject (decide (sample.completedUnits < lastUnits)) (rate "completed_units" "backwards")
      let sinceStart ← checkedElapsed sample.hostReceiptTimeNs state.startedAtNs "progress-rate"
        "host_receipt_time_ns"
      let afterGrace := decide (sinceStart > progressStartupGraceNs)
      let checkpointElapsed ← checkedElapsed sample.hostReceiptTimeNs checkpointReceipt
        "progress-rate" "host_receipt_time_ns"
      reject (afterGrace && sample.completedUnits - lastUnits == 0)
        (rate "completed_units" "zero-after-grace")
      let admitted := terminalSample || decide (checkpointElapsed ≥ progressSampleWindowNs)
      reject (admitted && (afterGrace || terminalSample) &&
          !progressRateSatisfied (sample.completedUnits - checkpointUnits) checkpointElapsed)
        (rate "rate" "minimum-not-met")
      .ok (if admitted then (some sample.hostReceiptTimeNs, some sample.completedUnits)
        else (some checkpointReceipt, some checkpointUnits))
    | _, _ => .error (rate "rate_checkpoint" "missing")

/-- `ng1_progress_state::observe` -/
def ProgressState.observe (state : ProgressState) (sample : ProgressSample)
    (terminalSample : Bool) : Result ProgressState := do
  let rate := fun field detail => ng1Error "progress-rate" field detail
  let clock := fun field detail => ng1Error "heartbeat-clock-invalid" field detail
  reject state.terminalObserved (rate "terminal" "after-terminal")
  reject (sample.schema != progressSchema) (rate "schema" "unexpected")
  reject (sample.taskId != state.taskId || sample.dependencyGroupId != state.dependencyGroupId)
    (rate "binding" "mismatch")
  reject (sample.totalUnits == 0 || decide (sample.completedUnits > sample.totalUnits))
    (rate "completed_units" "range")
  reject (state.totalUnits.any fun total => sample.totalUnits != total)
    (rate "total_units" "changed")
  reject (decide (sample.hostReceiptTimeNs < state.startedAtNs))
    (clock "host_receipt_time_ns" "before-start")
  reject (decide (sample.providerMonotonicTimeNs > sample.hostReceiptTimeNs))
    (clock "monotonic_time_ns" "future")
  reject (before sample.hostReceiptTimeNs state.lastHostReceiptTimeNs)
    (clock "host_receipt_time_ns" "backwards")
  reject (before sample.providerMonotonicTimeNs state.lastProviderTimeNs)
    (clock "monotonic_time_ns" "backwards")
  let next ← acceptContiguous state.lastSequence sample.progressSequence "progress-rate"
    "progress_sequence"
  reject (terminalSample && sample.completedUnits != sample.totalUnits)
    (rate "completed_units" "terminal-not-total")
  let checkpoint ← state.nextCheckpoint sample terminalSample
  .ok { state with
    lastSequence := next
    lastProviderTimeNs := some sample.providerMonotonicTimeNs
    lastHostReceiptTimeNs := some sample.hostReceiptTimeNs
    lastCompletedUnits := some sample.completedUnits
    rateCheckpointReceiptNs := checkpoint.1
    rateCheckpointCompletedUnits := checkpoint.2
    totalUnits := some sample.totalUnits
    terminalObserved := terminalSample }

/-- `ng1_progress_state::finish` -/
def ProgressState.finish (state : ProgressState) : Result Unit :=
  reject (!state.terminalObserved || state.totalUnits.isNone || state.lastCompletedUnits.isNone ||
      state.lastCompletedUnits != state.totalUnits)
    (ng1Error "progress-rate" "terminal" "total-not-reached")

/-- `ng1_progress_state::rebase_start` -/
def ProgressState.rebaseStart (state : ProgressState) (startedAtNs : UInt64) : ProgressState :=
  { taskId := state.taskId
    dependencyGroupId := state.dependencyGroupId
    startedAtNs := startedAtNs }

/-! ## What an accepted sample leaves -/

/-- An accepted terminal sample has completed the total, and the state remembers the two. -/
theorem ProgressState.observe_ok {state after : ProgressState} {sample : ProgressSample}
    {terminalSample : Bool} (h : state.observe sample terminalSample = .ok after) :
    after.terminalObserved = terminalSample ∧
      (terminalSample = true → sample.completedUnits = sample.totalUnits) := by
  simp only [ProgressState.observe, seq_eq_ok_iff, reject_eq_ok_iff] at h
  obtain ⟨-, -, -, -, -, -, -, -, -, h⟩ := h
  obtain ⟨next, -, h⟩ := bind_eq_ok_iff.1 h
  rw [seq_eq_ok_iff, reject_eq_ok_iff] at h
  obtain ⟨hterminal, h⟩ := h
  obtain ⟨checkpoint, -, h⟩ := bind_eq_ok_iff.1 h
  obtain rfl := Except.ok.inj h
  refine ⟨rfl, fun hsample => ?_⟩
  simpa [hsample] using hterminal

theorem ProgressControl.toValidationSample_eq (control : ProgressControl) {time : UInt64}
    {sample : ProgressSample} (h : control.toValidationSample time = .ok sample) :
    sample = ⟨control.schema, control.taskId, control.dependencyGroupId, control.progressSequence,
      control.monotonicTimeNs, time, control.completedUnits, control.totalUnits⟩ := by
  rw [toValidationSample, seq_eq_ok_iff] at h
  exact (Except.ok.inj h.2).symm

@[simp] theorem ProgressState.terminalObserved_rebaseStart (state : ProgressState)
    (startedAtNs : UInt64) : (state.rebaseStart startedAtNs).terminalObserved = false := rfl

theorem ProgressState.finish_eq_ok {state : ProgressState} (h : state.finish = .ok ()) :
    state.terminalObserved = true := by
  rw [finish, reject_eq_ok_iff] at h
  simp only [Bool.or_eq_false_iff, Bool.not_eq_false'] at h
  exact h.1.1.1

end Cxxlens.Sdk.Provider
