import Cxxlens.Foundation.Admitting
import Cxxlens.Sdk.Provider.Liveness

set_option autoImplicit false

/-! # The progress rate over a run

A progress state over a run of `observe` calls. A sample is compared with the last one and with the
last checkpoint; the work done since a checkpoint adds up, window after window, to the work of the
whole run. -/

namespace Cxxlens.Sdk.Provider

open Fallible Admitting

/-! ## The rate test is exact -/

/-- The number that the two words of a product are. -/
def U128.value (product : U128) : Nat :=
  product.high.toNat * 2 ^ 64 + product.low.toNat

theorem U128.lessEqual_iff {left right : U128} :
    left.lessEqual right = true ↔ left.value ≤ right.value := by
  have hleft := left.low.toNat_lt
  have hright := right.low.toNat_lt
  simp only [lessEqual, value, Bool.or_eq_true, Bool.and_eq_true, decide_eq_true_eq, beq_iff_eq,
    UInt64.lt_iff_toNat_lt, UInt64.le_iff_toNat_le, ← UInt64.toNat_inj]
  omega

theorem toNat_low_half (value : UInt64) : (value &&& 0xffffffff).toNat = value.toNat % 2 ^ 32 := by
  rw [UInt64.toNat_and]
  exact Nat.and_two_pow_sub_one_eq_mod value.toNat 32

theorem toNat_high_half (value : UInt64) : (value >>> 32).toNat = value.toNat / 2 ^ 32 := by
  rw [UInt64.toNat_shiftRight]
  simp [Nat.shiftRight_eq_div_pow]

/-- Two halves side by side are a word. -/
theorem toNat_join {low high : UInt64} (hlow : low.toNat < 2 ^ 32) (hhigh : high.toNat < 2 ^ 32) :
    (low ||| (high <<< 32)).toNat = high.toNat * 2 ^ 32 + low.toNat := by
  have hshift : (high <<< 32).toNat = high.toNat <<< 32 := by
    rw [UInt64.toNat_shiftLeft]
    have : high.toNat <<< 32 < 2 ^ 64 := by rw [Nat.shiftLeft_eq]; omega
    simpa using Nat.mod_eq_of_lt this
  rw [UInt64.toNat_or, hshift, Nat.or_comm, ← Nat.shiftLeft_add_eq_or_of_lt hlow, Nat.shiftLeft_eq]

/-- Products of halves fit a word with a carry to spare. -/
theorem half_mul_half_le {a b : Nat} (ha : a < 2 ^ 32) (hb : b < 2 ^ 32) :
    a * b ≤ (2 ^ 32 - 1) * (2 ^ 32 - 1) :=
  Nat.mul_le_mul (by omega) (by omega)

/-- The sum of the four partial products in base `2 ^ 32`, digit after digit. -/
theorem carry_digits {ll lh hl hh highLow lowHigh : Nat}
    (hll : ll ≤ (2 ^ 32 - 1) * (2 ^ 32 - 1)) (hlh : lh ≤ (2 ^ 32 - 1) * (2 ^ 32 - 1))
    (hhl : hl ≤ (2 ^ 32 - 1) * (2 ^ 32 - 1)) (hhh : hh ≤ (2 ^ 32 - 1) * (2 ^ 32 - 1))
    (hhighLow : highLow = hl + ll / 2 ^ 32) (hlowHigh : lowHigh = lh + highLow % 2 ^ 32) :
    highLow < 2 ^ 64 ∧ lowHigh < 2 ^ 64 ∧ hh + highLow / 2 ^ 32 + lowHigh / 2 ^ 32 < 2 ^ 64 ∧
      (hh + highLow / 2 ^ 32 + lowHigh / 2 ^ 32) * 2 ^ 64 +
          (lowHigh % 2 ^ 32 * 2 ^ 32 + ll % 2 ^ 32) =
        hh * 2 ^ 64 + (hl + lh) * 2 ^ 32 + ll := by
  omega

theorem toNat_mul_of_lt {a b : UInt64} (h : a.toNat * b.toNat < 2 ^ 64) :
    (a * b).toNat = a.toNat * b.toNat := by
  rw [UInt64.toNat_mul, Nat.mod_eq_of_lt h]

theorem toNat_add_of_lt {a b : UInt64} (h : a.toNat + b.toNat < 2 ^ 64) :
    (a + b).toNat = a.toNat + b.toNat := by
  rw [UInt64.toNat_add, Nat.mod_eq_of_lt h]

/-- `multiply_u64` behind the split of its factors: no sum or product of words wraps. -/
theorem multiply_halves {leftLow leftHigh rightLow rightHigh highLow lowHigh : UInt64}
    (hleftLow : leftLow.toNat < 2 ^ 32) (hleftHigh : leftHigh.toNat < 2 ^ 32)
    (hrightLow : rightLow.toNat < 2 ^ 32) (hrightHigh : rightHigh.toNat < 2 ^ 32)
    (hhighLow : highLow = leftHigh * rightLow + (leftLow * rightLow) >>> 32)
    (hlowHigh : lowHigh = leftLow * rightHigh + (highLow &&& 0xffffffff)) :
    U128.value
        { low := ((leftLow * rightLow) &&& (0xffffffff : UInt64)) |||
            ((lowHigh &&& (0xffffffff : UInt64)) <<< (32 : UInt64))
          high := leftHigh * rightHigh + highLow >>> (32 : UInt64) + lowHigh >>> (32 : UInt64) } =
      (leftHigh.toNat * 2 ^ 32 + leftLow.toNat) * (rightHigh.toNat * 2 ^ 32 + rightLow.toNat) := by
  have hll := half_mul_half_le hleftLow hrightLow
  have hlh := half_mul_half_le hleftLow hrightHigh
  have hhl := half_mul_half_le hleftHigh hrightLow
  have hhh := half_mul_half_le hleftHigh hrightHigh
  obtain ⟨hbound, hbound', hhigh, hsum⟩ := carry_digits hll hlh hhl hhh rfl rfl
  have hlowWord := @toNat_mul_of_lt leftLow rightLow (by omega)
  have hhighLowWord : highLow.toNat =
      leftHigh.toNat * rightLow.toNat + leftLow.toNat * rightLow.toNat / 2 ^ 32 := by
    rw [hhighLow, toNat_add_of_lt, toNat_mul_of_lt (by omega), toNat_high_half, hlowWord]
    rw [toNat_mul_of_lt (by omega), toNat_high_half, hlowWord]
    exact hbound
  rw [← hhighLowWord] at hbound' hhigh hsum
  have hlowHighWord : lowHigh.toNat =
      leftLow.toNat * rightHigh.toNat + highLow.toNat % 2 ^ 32 := by
    rw [hlowHigh, toNat_add_of_lt, toNat_mul_of_lt (by omega), toNat_low_half]
    rw [toNat_mul_of_lt (by omega), toNat_low_half]
    exact hbound'
  rw [← hlowHighWord] at hhigh hsum
  have hhighWord := @toNat_mul_of_lt leftHigh rightHigh (by omega)
  have hcarried : (leftHigh * rightHigh + highLow >>> 32).toNat =
      leftHigh.toNat * rightHigh.toNat + highLow.toNat / 2 ^ 32 := by
    rw [toNat_add_of_lt, hhighWord, toNat_high_half]
    rw [hhighWord, toNat_high_half]
    omega
  rw [U128.value]
  simp only
  rw [toNat_join (by rw [toNat_low_half]; omega) (by rw [toNat_low_half]; omega), toNat_low_half,
    toNat_low_half, hlowWord, toNat_add_of_lt, hcarried, toNat_high_half, hsum]
  · ring
  · rw [hcarried, toNat_high_half]
    exact hhigh

/-- **`multiply_u64` is exact.** -/
theorem multiplyU64_value (left right : UInt64) :
    (multiplyU64 left right).value = left.toNat * right.toNat := by
  have hleft := left.toNat_lt
  have hright := right.toNat_lt
  have hproduct := @multiply_halves (left &&& 0xffffffff) (left >>> 32) (right &&& 0xffffffff)
    (right >>> 32) _ _ (by rw [toNat_low_half]; omega) (by rw [toNat_high_half]; omega)
    (by rw [toNat_low_half]; omega) (by rw [toNat_high_half]; omega) rfl rfl
  rw [toNat_low_half, toNat_low_half, toNat_high_half, toNat_high_half, Nat.div_add_mod',
    Nat.div_add_mod'] at hproduct
  exact hproduct

/-- **The rate test is the comparison of the exact products.** -/
theorem progressRateSatisfied_iff {deltaUnits deltaTimeNs : UInt64} :
    progressRateSatisfied deltaUnits deltaTimeNs = true ↔
      deltaTimeNs.toNat * progressUnitsPerSecond.toNat ≤ deltaUnits.toNat * nanosPerSecond.toNat := by
  rw [progressRateSatisfied, U128.lessEqual_iff, multiplyU64_value, multiplyU64_value]

/-! ## One sample -/

/-- A call of `ng1_progress_state::observe` -/
structure ProgressCall where
  sample : ProgressSample
  terminalSample : Bool
  deriving DecidableEq, Repr

namespace ProgressCall

def hostTime (call : ProgressCall) : Nat :=
  call.sample.hostReceiptTimeNs.toNat

def completed (call : ProgressCall) : Nat :=
  call.sample.completedUnits.toNat

/-- What a later accepted sample keeps of an earlier one. -/
structure Precedes (earlier later : ProgressCall) : Prop where
  total : earlier.sample.totalUnits = later.sample.totalUnits
  providerTime : earlier.sample.providerMonotonicTimeNs.toNat ≤
    later.sample.providerMonotonicTimeNs.toNat
  hostTime : earlier.hostTime < later.hostTime
  completed : earlier.completed ≤ later.completed

theorem Precedes.trans (a b c : ProgressCall) (hab : a.Precedes b) (hbc : b.Precedes c) :
    a.Precedes c where
  total := hab.total.trans hbc.total
  providerTime := hab.providerTime.trans hbc.providerTime
  hostTime := hab.hostTime.trans hbc.hostTime
  completed := hab.completed.trans hbc.completed

/-- The work between two samples is at least what the rate asks for the time between them. -/
def MeetsRate (earlier later : ProgressCall) : Prop :=
  (later.hostTime - earlier.hostTime) * progressUnitsPerSecond.toNat ≤
    (later.completed - earlier.completed) * nanosPerSecond.toNat

/-- A sample that came later than the grace after the start. -/
def AfterGrace (startedAtNs : UInt64) (call : ProgressCall) : Prop :=
  startedAtNs.toNat + progressStartupGraceNs.toNat < call.hostTime

end ProgressCall

/-- One call on a progress state. -/
def ProgressState.call (state : ProgressState) (call : ProgressCall) : Result ProgressState :=
  state.observe call.sample call.terminalSample

/-- The samples at which a run sets a rate checkpoint: the first one, and each one that is terminal
    or a window behind the last checkpoint. -/
def addCheckpoint (points : List ProgressCall) (call : ProgressCall) : List ProgressCall :=
  match points.getLast? with
  | none => [call]
  | some last =>
    if call.terminalSample = true ∨ last.hostTime + progressSampleWindowNs.toNat ≤ call.hostTime then
      points ++ [call]
    else points

/-- The checkpoints of the accepted samples of a run. -/
def checkpoints (accepted : List ProgressCall) : List ProgressCall :=
  accepted.foldl addCheckpoint []

@[simp] theorem checkpoints_concat (accepted : List ProgressCall) (call : ProgressCall) :
    checkpoints (accepted ++ [call]) = addCheckpoint (checkpoints accepted) call := by
  simp [checkpoints]

variable {state after : ProgressState} {call : ProgressCall}
  {checkpoint : Option UInt64 × Option UInt64}

/-- The first sample is the first checkpoint. -/
theorem ProgressState.nextCheckpoint_first (hlast : state.lastHostReceiptTimeNs = none)
    (h : state.nextCheckpoint call.sample call.terminalSample = .ok checkpoint) :
    checkpoint = (some call.sample.hostReceiptTimeNs, some call.sample.completedUnits) := by
  simp only [nextCheckpoint, hlast, bind_eq_ok_iff] at h
  obtain ⟨-, -, -, -, h⟩ := h
  exact (Except.ok.inj h).symm

/-- A later sample has passed the gap and the rate test; it is the new checkpoint if it is terminal
    or a window behind the old one. -/
theorem ProgressState.nextCheckpoint_later {last point : ProgressCall}
    (hlast : state.lastHostReceiptTimeNs = some last.sample.hostReceiptTimeNs)
    (hcompleted : state.lastCompletedUnits = some last.sample.completedUnits)
    (hreceipt : state.rateCheckpointReceiptNs = some point.sample.hostReceiptTimeNs)
    (hunits : state.rateCheckpointCompletedUnits = some point.sample.completedUnits)
    (hpoint : point.completed ≤ last.completed)
    (h : state.nextCheckpoint call.sample call.terminalSample = .ok checkpoint) :
    (last.hostTime < call.hostTime ∧
        call.hostTime - last.hostTime ≤ progressMaximumSampleGapNs.toNat ∧
        last.completed ≤ call.completed) ∧
      ((call.terminalSample = true ∨
          point.hostTime + progressSampleWindowNs.toNat ≤ call.hostTime) →
        (call.AfterGrace state.startedAtNs ∨ call.terminalSample = true) → point.MeetsRate call) ∧
      checkpoint = if call.terminalSample = true ∨
          point.hostTime + progressSampleWindowNs.toNat ≤ call.hostTime then
        (some call.sample.hostReceiptTimeNs, some call.sample.completedUnits)
      else (some point.sample.hostReceiptTimeNs, some point.sample.completedUnits) := by
  simp only [nextCheckpoint, hlast, hcompleted, hreceipt, hunits, Option.getD_some, bind_eq_ok_iff,
    Unique.exists_iff, PUnit.default_eq_unit, reject_eq_ok_iff, checkedElapsed_eq_ok_iff,
    decide_eq_false_iff_not, beq_eq_false_iff_ne, Except.ok.injEq] at h
  obtain ⟨elapsed, ⟨hle, helapsed⟩, hzero, hgap, hforward, since, ⟨hstart, hsince⟩, span,
    ⟨hpointLe, hspan⟩, -, hrate, rfl⟩ := h
  rw [UInt64.not_lt, UInt64.le_iff_toNat_le] at hforward hgap
  have hpositive : elapsed.toNat ≠ 0 := fun heq => hzero (UInt64.toNat_inj.1 heq)
  have hadmitted : (call.terminalSample || decide (span ≥ progressSampleWindowNs)) = true ↔
      call.terminalSample = true ∨
        point.hostTime + progressSampleWindowNs.toNat ≤ call.hostTime := by
    rw [Bool.or_eq_true, decide_eq_true_eq, ge_iff_le, UInt64.le_iff_toNat_le,
      ProgressCall.hostTime, ProgressCall.hostTime]
    refine or_congr_right ?_
    omega
  have hgrace : decide (since > progressStartupGraceNs) = true ↔
      call.AfterGrace state.startedAtNs := by
    simp only [decide_eq_true_eq, gt_iff_lt, UInt64.lt_iff_toNat_lt, ProgressCall.AfterGrace,
      ProgressCall.hostTime]
    omega
  have hdelta : (call.sample.completedUnits - point.sample.completedUnits).toNat =
      call.completed - point.completed := by
    refine UInt64.toNat_sub_of_le _ _ (UInt64.le_iff_toNat_le.2 ?_)
    exact hpoint.trans hforward
  refine ⟨⟨?_, ?_, hforward⟩, ?_, ?_⟩
  · simp only [ProgressCall.hostTime]
    omega
  · simp only [ProgressCall.hostTime]
    omega
  · intro hwindow htested
    have hsatisfied : progressRateSatisfied
        (call.sample.completedUnits - point.sample.completedUnits) span = true := by
      rw [← hgrace, ← Bool.or_eq_true] at htested
      rw [hadmitted.2 hwindow, htested] at hrate
      simpa using hrate
    rw [progressRateSatisfied_iff, hdelta, hspan] at hsatisfied
    exact hsatisfied
  · simp only [hadmitted]

/-- What an accepted sample has passed, and the state it leaves. -/
theorem ProgressState.call_eq_ok (h : state.call call = .ok after) :
    state.terminalObserved = false ∧
      (∀ total, state.totalUnits = some total → call.sample.totalUnits = total) ∧
      (∀ last, state.lastProviderTimeNs = some last →
        last.toNat ≤ call.sample.providerMonotonicTimeNs.toNat) ∧
      call.sample.progressSequence.toNat = nextNumber state.lastSequence ∧
      (call.terminalSample = true → call.sample.completedUnits = call.sample.totalUnits) ∧
      ∃ checkpoint, state.nextCheckpoint call.sample call.terminalSample = .ok checkpoint ∧
        after = { state with
          lastSequence := some call.sample.progressSequence
          lastProviderTimeNs := some call.sample.providerMonotonicTimeNs
          lastHostReceiptTimeNs := some call.sample.hostReceiptTimeNs
          lastCompletedUnits := some call.sample.completedUnits
          rateCheckpointReceiptNs := checkpoint.1
          rateCheckpointCompletedUnits := checkpoint.2
          totalUnits := some call.sample.totalUnits
          terminalObserved := call.terminalSample } := by
  simp only [ProgressState.call, observe, bind_eq_ok_iff, Unique.exists_iff,
    PUnit.default_eq_unit, reject_eq_ok_iff, acceptContiguous_eq_ok_iff, before_eq_false_iff,
    Except.ok.injEq] at h
  obtain ⟨hopen, -, -, -, htotal, -, -, -, hprovider, next, ⟨hsequence, rfl⟩, hterminal, checkpoint,
    hcheckpoint, rfl⟩ := h
  refine ⟨hopen, ?_, hprovider, hsequence, ?_, checkpoint, hcheckpoint, rfl⟩
  · intro total hstate
    simpa [hstate] using htotal
  · intro hlast
    simpa [hlast] using hterminal

/-! ## Runs -/

/-- A window between two checkpoints; at its end the rate is tested, unless the grace lasts. -/
structure ProgressCall.Window (startedAtNs : UInt64) (earlier later : ProgressCall) : Prop where
  hostTime : earlier.hostTime ≤ later.hostTime
  completed : earlier.completed ≤ later.completed
  rate : later.AfterGrace startedAtNs ∨ later.terminalSample = true → earlier.MeetsRate later

/-- The state is that of the last accepted sample and of the last checkpoint. -/
structure ProgressState.Tracks (startedAtNs : UInt64) (state : ProgressState)
    (done : List ProgressCall) : Prop where
  startedAt : state.startedAtNs = startedAtNs
  sequence : nextNumber state.lastSequence = done.length
  providerTime : state.lastProviderTimeNs =
    done.getLast?.map (·.sample.providerMonotonicTimeNs)
  hostTime : state.lastHostReceiptTimeNs = done.getLast?.map (·.sample.hostReceiptTimeNs)
  completed : state.lastCompletedUnits = done.getLast?.map (·.sample.completedUnits)
  total : state.totalUnits = done.getLast?.map (·.sample.totalUnits)
  terminal : state.terminalObserved = done.getLast?.any (·.terminalSample)
  checkpointReceipt : state.rateCheckpointReceiptNs =
    (checkpoints done).getLast?.map (·.sample.hostReceiptTimeNs)
  checkpointUnits : state.rateCheckpointCompletedUnits =
    (checkpoints done).getLast?.map (·.sample.completedUnits)
  checkpointBehind : ∀ last, done.getLast? = some last → ∃ point,
    (checkpoints done).getLast? = some point ∧ point.completed ≤ last.completed ∧
      point.hostTime ≤ last.hostTime ∧ (last.terminalSample = true → point = last)
  sequences : done.map (·.sample.progressSequence.toNat) = List.range done.length
  forward : done.IsChain ProgressCall.Precedes
  gaps : done.IsChain fun earlier later =>
    later.hostTime - earlier.hostTime ≤ progressMaximumSampleGapNs.toNat
  terminals : ∀ call ∈ done, call.terminalSample = true →
    done.getLast? = some call ∧ call.sample.completedUnits = call.sample.totalUnits
  windows : (checkpoints done).IsChain (ProgressCall.Window startedAtNs)

theorem ProgressState.tracks_rebaseStart (state : ProgressState) (startedAtNs : UInt64) :
    (state.rebaseStart startedAtNs).Tracks startedAtNs [] := by
  constructor <;> simp [rebaseStart, checkpoints, nextNumber]

theorem ProgressState.Tracks.next_first {startedAtNs : UInt64}
    (hstate : state.Tracks startedAtNs []) (h : state.call call = .ok after) :
    after.Tracks startedAtNs [call] := by
  obtain ⟨-, -, -, hsequence, hterminal, checkpoint, hcheckpoint, rfl⟩ :=
    ProgressState.call_eq_ok h
  have hlast : state.lastHostReceiptTimeNs = none := by simp [hstate.hostTime]
  obtain rfl := nextCheckpoint_first hlast hcheckpoint
  rw [hstate.sequence] at hsequence
  have hpoints : checkpoints [call] = [call] := by simp [checkpoints, addCheckpoint]
  constructor
  · exact hstate.startedAt
  · simpa [nextNumber] using hsequence
  · rfl
  · rfl
  · rfl
  · rfl
  · rfl
  · rw [hpoints]
    rfl
  · rw [hpoints]
    rfl
  · rw [hpoints]
    simp
  · simpa using hsequence
  · simp
  · simp
  · simpa using hterminal
  · rw [hpoints]
    simp

theorem ProgressState.Tracks.next_later {startedAtNs : UInt64} {done : List ProgressCall}
    {last : ProgressCall} (hstate : state.Tracks startedAtNs done)
    (hlast : done.getLast? = some last) (h : state.call call = .ok after) :
    after.Tracks startedAtNs (done ++ [call]) := by
  obtain ⟨hopen, htotal, hprovider, hsequence, hterminal, checkpoint, hcheckpoint, rfl⟩ :=
    ProgressState.call_eq_ok h
  obtain ⟨point, hpoint, hbehind, hbehindTime, -⟩ := hstate.checkpointBehind last hlast
  obtain ⟨⟨htime, hgap, hforward⟩, hrate, rfl⟩ := @ProgressState.nextCheckpoint_later
    _ _ _ last point (by simp [hstate.hostTime, hlast])
    (by simp [hstate.completed, hlast]) (by simp [hstate.checkpointReceipt, hpoint])
    (by simp [hstate.checkpointUnits, hpoint]) hbehind hcheckpoint
  rw [hstate.sequence] at hsequence
  rw [hstate.startedAt] at hrate
  have hpoints : checkpoints (done ++ [call]) = if call.terminalSample = true ∨
      point.hostTime + progressSampleWindowNs.toNat ≤ call.hostTime then
        checkpoints done ++ [call] else checkpoints done := by
    rw [checkpoints_concat, addCheckpoint, hpoint]
  have hprecedes : last.Precedes call := by
    constructor
    · exact (htotal _ (by simp [hstate.total, hlast])).symm
    · exact hprovider _ (by simp [hstate.providerTime, hlast])
    · exact htime
    · exact hforward
  have hnone : ∀ earlier ∈ done, earlier.terminalSample = false := by
    intro earlier hmem
    by_contra hnot
    have hearlier := (hstate.terminals earlier hmem (by simpa using hnot)).1
    rw [hstate.terminal, hearlier] at hopen
    exact hnot (by simpa using hopen)
  constructor
  · exact hstate.startedAt
  · simpa [nextNumber] using hsequence
  · simp
  · simp
  · simp
  · simp
  · simp
  · rw [hpoints]
    split_ifs <;> simp [hpoint]
  · rw [hpoints]
    split_ifs <;> simp [hpoint]
  · intro final hfinal
    obtain rfl : call = final := by simpa using hfinal
    rw [hpoints]
    split_ifs with hnew
    · exact ⟨call, by simp⟩
    · refine ⟨point, hpoint, by omega, by omega, fun hend => absurd (Or.inl hend) hnew⟩
  · rw [List.map_append, hstate.sequences, List.length_append, List.length_singleton,
      List.range_succ, List.map_singleton, hsequence]
  · refine isChain_concat_iff.2 ⟨hstate.forward, ?_⟩
    intro other hother
    obtain rfl := Option.some.inj (hlast.symm.trans hother)
    exact hprecedes
  · refine isChain_concat_iff.2 ⟨hstate.gaps, ?_⟩
    intro other hother
    obtain rfl := Option.some.inj (hlast.symm.trans hother)
    exact hgap
  · refine List.forall_mem_append.2 ⟨?_, ?_⟩
    · intro earlier hmem hend
      rw [hnone earlier hmem] at hend
      exact absurd hend Bool.false_ne_true
    · exact List.forall_mem_singleton.2 fun hend => ⟨by simp, hterminal hend⟩
  · rw [hpoints]
    split_ifs with hnew
    · refine isChain_concat_iff.2 ⟨hstate.windows, ?_⟩
      intro other hother
      obtain rfl := Option.some.inj (hpoint.symm.trans hother)
      exact ⟨by omega, by omega, hrate hnew⟩
    · exact hstate.windows

theorem ProgressState.Tracks.next {startedAtNs : UInt64} {done : List ProgressCall}
    (hstate : state.Tracks startedAtNs done) (h : state.call call = .ok after) :
    after.Tracks startedAtNs (done ++ [call]) := by
  cases hlast : done.getLast? with
  | none =>
      obtain rfl := List.getLast?_eq_none_iff.1 hlast
      exact hstate.next_first h
  | some last => exact hstate.next_later hlast h

/-! ## The work of a whole run -/

/-- A later sample with at least the work that the rate asks for. -/
structure ProgressCall.KeepsPace (earlier later : ProgressCall) : Prop where
  hostTime : earlier.hostTime ≤ later.hostTime
  completed : earlier.completed ≤ later.completed
  rate : earlier.MeetsRate later

/-- Times and units add up, and so does the rate. -/
theorem ProgressCall.KeepsPace.trans (a b c : ProgressCall) (hab : a.KeepsPace b)
    (hbc : b.KeepsPace c) : a.KeepsPace c where
  hostTime := hab.hostTime.trans hbc.hostTime
  completed := hab.completed.trans hbc.completed
  rate := by
    have htime : c.hostTime - a.hostTime =
        (c.hostTime - b.hostTime) + (b.hostTime - a.hostTime) := by
      have := hab.hostTime
      have := hbc.hostTime
      omega
    have hunits : c.completed - a.completed =
        (c.completed - b.completed) + (b.completed - a.completed) := by
      have := hab.completed
      have := hbc.completed
      omega
    rw [ProgressCall.MeetsRate, htime, hunits, Nat.add_mul, Nat.add_mul]
    exact Nat.add_le_add hbc.rate hab.rate

/-- The samples that a run accepts. -/
def ProgressState.accepted (start : ProgressState) (calls : List ProgressCall) :
    List ProgressCall :=
  admitted ProgressState.call start calls

/-- The state after a run. -/
def ProgressState.afterRun (start : ProgressState) (calls : List ProgressCall) : ProgressState :=
  final ProgressState.call start calls

/-- What holds of a run of `observe` calls. -/
structure ProgressLaw (start : ProgressState) (calls : List ProgressCall) : Prop where
  sequences : (start.accepted calls).map (·.sample.progressSequence.toNat) =
    List.range (start.accepted calls).length
  forward : (start.accepted calls).Pairwise ProgressCall.Precedes
  gaps : (start.accepted calls).IsChain fun earlier later =>
    later.hostTime - earlier.hostTime ≤ progressMaximumSampleGapNs.toNat
  /-- The checkpoint the state holds. -/
  checkpoint : (start.afterRun calls).rateCheckpointReceiptNs =
      (checkpoints (start.accepted calls)).getLast?.map (·.sample.hostReceiptTimeNs) ∧
    (start.afterRun calls).rateCheckpointCompletedUnits =
      (checkpoints (start.accepted calls)).getLast?.map (·.sample.completedUnits)
  /-- The windows between consecutive checkpoints. -/
  windows : (checkpoints (start.accepted calls)).IsChain fun earlier later =>
    later.AfterGrace start.startedAtNs → earlier.KeepsPace later
  /-- From a checkpoint behind which all windows end after the grace up to a terminal sample. -/
  work : ∀ front point rest, checkpoints (start.accepted calls) = front ++ point :: rest →
    (∀ later ∈ rest, later.AfterGrace start.startedAtNs) →
    ∀ last ∈ start.accepted calls, last.terminalSample = true → point.KeepsPace last
  finish : (start.afterRun calls).finish = .ok () ↔
    ∃ last, (start.accepted calls).getLast? = some last ∧ last.terminalSample = true ∧
      last.sample.completedUnits = last.sample.totalUnits
  rejected : ∀ call e, (start.afterRun calls).call call = .error e →
    start.afterRun (calls ++ [call]) = start.afterRun calls

theorem ProgressState.Tracks.finish_iff {startedAtNs : UInt64} {done : List ProgressCall}
    (hstate : state.Tracks startedAtNs done) :
    state.finish = .ok () ↔
      ∃ last, done.getLast? = some last ∧ last.terminalSample = true ∧
        last.sample.completedUnits = last.sample.totalUnits := by
  rw [finish, reject_eq_ok_iff, hstate.terminal, hstate.total, hstate.completed]
  cases hlast : done.getLast? with
  | none => simp
  | some last => simp

/-- A terminal sample closes the last window. -/
theorem ProgressState.Tracks.keepsPace {startedAtNs : UInt64} {done front rest : List ProgressCall}
    {point last : ProgressCall} (hstate : state.Tracks startedAtNs done)
    (hpoints : checkpoints done = front ++ point :: rest)
    (hgrace : ∀ later ∈ rest, later.AfterGrace startedAtNs) (hlast : last ∈ done)
    (hend : last.terminalSample = true) : point.KeepsPace last := by
  have hlastDone := (hstate.terminals last hlast hend).1
  obtain ⟨final, hfinal, -, -, hsame⟩ := hstate.checkpointBehind last hlastDone
  obtain rfl := hsame hend
  have hchain := hstate.windows
  rw [hpoints] at hchain hfinal
  rw [List.getLast?_append_cons] at hfinal
  have hpace : (point :: rest).IsChain ProgressCall.KeepsPace := by
    refine List.IsChain.imp_of_mem_tail_imp ?_ hchain.right_of_append
    intro earlier later _ hlater hwindow
    exact ⟨hwindow.hostTime, hwindow.completed, hwindow.rate (Or.inl (hgrace later hlater))⟩
  have hpairs := pairwise_of_isChain ProgressCall.KeepsPace.trans hpace
  cases List.mem_cons.1 (List.mem_of_getLast? hfinal) with
  | inl hpoint =>
      rw [hpoint]
      exact ⟨le_rfl, le_rfl, by simp [ProgressCall.MeetsRate]⟩
  | inr hmem => exact (List.pairwise_cons.1 hpairs).1 _ hmem

/-- What a fresh state and a rebased one have in common. -/
theorem ProgressState.rebaseStart_of_create {taskId dependencyGroupId : Bytes}
    {startedAtNs : UInt64} {start : ProgressState}
    (h : ProgressState.create taskId dependencyGroupId startedAtNs = .ok start) :
    start = start.rebaseStart startedAtNs := by
  simp only [create, seq_eq_ok_iff, Except.ok.injEq] at h
  obtain ⟨-, -, rfl⟩ := h
  rfl

/-- **The progress rate holds over the whole run**, on a fresh or rebased state. -/
theorem progress_rate_over_run {start : ProgressState}
    (hstart : (∃ taskId dependencyGroupId startedAtNs,
        ProgressState.create taskId dependencyGroupId startedAtNs = .ok start) ∨
      ∃ (state : ProgressState) (startedAtNs : UInt64), start = state.rebaseStart startedAtNs)
    (calls : List ProgressCall) : ProgressLaw start calls := by
  have hfresh : start.Tracks start.startedAtNs [] := by
    cases hstart with
    | inl hcreate =>
        obtain ⟨taskId, dependencyGroupId, startedAtNs, hcreate⟩ := hcreate
        have hrebased := ProgressState.rebaseStart_of_create hcreate
        rw [hrebased]
        exact ProgressState.tracks_rebaseStart start startedAtNs
    | inr hrebase =>
        obtain ⟨state, startedAtNs, rfl⟩ := hrebase
        exact ProgressState.tracks_rebaseStart state startedAtNs
  have hstate : (start.afterRun calls).Tracks start.startedAtNs (start.accepted calls) :=
    Admitting.invariant hfresh (fun _ _ _ _ hstate hcall => hstate.next hcall) calls
  constructor
  · exact hstate.sequences
  · exact pairwise_of_isChain ProgressCall.Precedes.trans hstate.forward
  · exact hstate.gaps
  · exact ⟨hstate.checkpointReceipt, hstate.checkpointUnits⟩
  · refine hstate.windows.imp ?_
    intro earlier later hwindow hgrace
    exact ⟨hwindow.hostTime, hwindow.completed, hwindow.rate (Or.inl hgrace)⟩
  · intro front point rest hpoints hgrace last hlast hend
    exact hstate.keepsPace hpoints hgrace hlast hend
  · exact hstate.finish_iff
  · intro call e h
    exact final_concat_of_error h

/-- A state after `rebase_start`, and a task that ends in its first second. -/
theorem progress_rate_over_run_rebased :
    ProgressLaw
      (ProgressState.rebaseStart { taskId := "task:a", dependencyGroupId := "group:a",
                                   startedAtNs := 0, terminalObserved := true } 7)
      [⟨⟨progressSchema, "task:a", "group:a", 0, 8, 9, 1, 2⟩, false⟩,
        ⟨⟨progressSchema, "task:a", "group:a", 1, 8, 900000009, 2, 2⟩, true⟩] :=
  progress_rate_over_run (Or.inr ⟨_, _, rfl⟩) _

end Cxxlens.Sdk.Provider
