import Cxxlens.Foundation.Admitting
import Cxxlens.Sdk.Provider.Liveness

set_option autoImplicit false

/-! # Heartbeat admission and the liveness rule

The deadlines are written twice: `accept` holds an acknowledgement to the startup grace and to the
last probe, `check_liveness` asks for an acknowledgement within the timeout as well. So an admitted
acknowledgement shows that the first two deadlines had not passed, and says nothing of the third. -/

namespace Cxxlens.Sdk.Provider

open Fallible Admitting

/-- A call on a heartbeat state that changes it. -/
inductive HeartbeatCall where
  | accept (sample : HeartbeatSample) (highestObservedSequence : UInt64)
      (hostObservedStagedDigest : Bytes)
  | markTerminal
  deriving DecidableEq, Repr

/-- One call on a heartbeat state. -/
def HeartbeatState.call (state : HeartbeatState) : HeartbeatCall → Result HeartbeatState
  | .accept sample highestObservedSequence hostObservedStagedDigest =>
    state.accept sample highestObservedSequence hostObservedStagedDigest
  | .markTerminal => .ok state.markTerminal

/-- The sample of a call. -/
def HeartbeatCall.sample? : HeartbeatCall → Option HeartbeatSample
  | .accept sample _ _ => some sample
  | .markTerminal => none

namespace HeartbeatSample

def hostTime (sample : HeartbeatSample) : Nat :=
  sample.hostReceiptTimeNs.toNat

def providerTime (sample : HeartbeatSample) : Nat :=
  sample.providerMonotonicTimeNs.toNat

/-- The clocks of two samples, one after the other. -/
def NotBefore (earlier later : HeartbeatSample) : Prop :=
  earlier.hostTime ≤ later.hostTime ∧ earlier.providerTime ≤ later.providerTime

theorem NotBefore.trans (a b c : HeartbeatSample) (hab : a.NotBefore b) (hbc : b.NotBefore c) :
    a.NotBefore c :=
  ⟨hab.1.trans hbc.1, hab.2.trans hbc.2⟩

end HeartbeatSample

/-! ## One sample -/

variable {state after : HeartbeatState} {sample : HeartbeatSample}
  {highestObservedSequence : UInt64} {hostObservedStagedDigest : Bytes}

/-- The state that an admitted sample leaves. -/
def HeartbeatState.record (state : HeartbeatState) (sample : HeartbeatSample) : HeartbeatState :=
  if sample.kind = .probe then
    { state with
      lastProviderTimeNs := some sample.providerMonotonicTimeNs
      lastHostReceiptTimeNs := some sample.hostReceiptTimeNs
      lastProbeSequence := some sample.heartbeatSequence
      lastProbeHostReceiptNs := some sample.hostReceiptTimeNs }
  else
    { state with
      lastProviderTimeNs := some sample.providerMonotonicTimeNs
      lastHostReceiptTimeNs := some sample.hostReceiptTimeNs
      lastAckSequence := some sample.heartbeatSequence
      lastValidAckReceivedNs := some sample.hostReceiptTimeNs }

/-- What an admitted sample has passed. -/
theorem HeartbeatState.accept_eq_ok
    (h : state.accept sample highestObservedSequence hostObservedStagedDigest = .ok after) :
    state.terminal = false ∧ (sample.kind = .probe ∨ sample.kind = .ack) ∧
      state.startedAtNs.toNat ≤ sample.hostTime ∧
      (∀ last, state.lastProviderTimeNs = some last → last.toNat ≤ sample.providerTime) ∧
      (∀ last, state.lastHostReceiptTimeNs = some last → last.toNat ≤ sample.hostTime) ∧
      (sample.kind = .probe → sample.heartbeatSequence.toNat = nextNumber state.lastProbeSequence) ∧
      (sample.kind = .ack →
        sample.heartbeatSequence.toNat = nextNumber state.lastAckSequence ∧
        (state.lastValidAckReceivedNs = none →
          sample.hostTime - state.startedAtNs.toNat < heartbeatStartupGraceNs.toNat) ∧
        ∀ probe, state.lastProbeHostReceiptNs = some probe →
          sample.hostTime - probe.toNat < heartbeatTimeoutNs.toNat) ∧
      after = state.record sample := by
  simp only [accept, bind_eq_ok_iff, Unique.exists_iff, PUnit.default_eq_unit, reject_eq_ok_iff,
    before_eq_false_iff, decide_eq_false_iff_not, UInt64.not_lt, UInt64.le_iff_toNat_le] at h
  obtain ⟨hopen, -, -, -, -, -, hkind, hstart, -, hprovider, hhost, h⟩ := h
  have hkinds : sample.kind = .probe ∨ sample.kind = .ack := by
    by_cases hprobe : sample.kind = .probe
    · exact .inl hprobe
    · simpa [hprobe] using hkind
  refine ⟨hopen, hkinds, hstart, hprovider, hhost, ?_⟩
  by_cases hprobe : sample.kind = .probe
  · rw [if_pos hprobe] at h
    simp only [bind_eq_ok_iff, acceptContiguous_eq_ok_iff, Unique.exists_iff,
      PUnit.default_eq_unit, Except.ok.injEq] at h
    obtain ⟨next, ⟨hsequence, rfl⟩, -, rfl⟩ := h
    refine ⟨fun _ => hsequence, fun hack => ?_, ?_⟩
    · rw [hprobe] at hack
      exact absurd hack (by decide)
    · rw [record, if_pos hprobe]
  · rw [if_neg hprobe] at h
    have hack : (state.lastValidAckReceivedNs = none →
          sample.hostTime - state.startedAtNs.toNat < heartbeatStartupGraceNs.toNat) ∧
        (∀ probe, state.lastProbeHostReceiptNs = some probe → probe.toNat ≤ sample.hostTime ∧
          sample.hostTime - probe.toNat < heartbeatTimeoutNs.toNat) ∧
        sample.heartbeatSequence.toNat = nextNumber state.lastAckSequence ∧
        after = state.record sample := by
      rw [record, if_neg hprobe]
      cases hfirst : state.lastValidAckReceivedNs with
      | none =>
          simp only [hfirst, Option.isNone_none, if_true, bind_eq_ok_iff, Unique.exists_iff,
            PUnit.default_eq_unit, withinDeadline_eq_ok_iff, acceptContiguous_eq_ok_iff,
            Except.ok.injEq] at h
          obtain ⟨hgrace, hdeadline, next, ⟨hsequence, rfl⟩, -, rfl⟩ := h
          exact ⟨fun _ => (hgrace _ rfl).2, hdeadline, hsequence, rfl⟩
      | some acknowledged =>
          simp only [hfirst, Option.isNone_some, Bool.false_eq_true, if_false, bind_eq_ok_iff,
            Unique.exists_iff, PUnit.default_eq_unit, withinDeadline_eq_ok_iff,
            acceptContiguous_eq_ok_iff, Except.ok.injEq] at h
          obtain ⟨hdeadline, next, ⟨hsequence, rfl⟩, -, rfl⟩ := h
          exact ⟨fun hnone => absurd hnone (by simp), hdeadline, hsequence, rfl⟩
    obtain ⟨hgrace, hdeadline, hsequence, hafter⟩ := hack
    exact ⟨fun hkind => absurd hkind hprobe,
      fun _ => ⟨hsequence, hgrace, fun probe hlast => (hdeadline probe hlast).2⟩, hafter⟩

/-! ## Runs -/

/-- The samples of a kind. -/
def samplesOf (kind : HeartbeatKind) (samples : List HeartbeatSample) : List HeartbeatSample :=
  samples.filter fun sample => sample.kind = kind

/-- The state is that of the admitted samples: the last one, the last probe and the last
    acknowledgement. -/
structure HeartbeatState.Tracks (startedAtNs : UInt64) (state : HeartbeatState)
    (samples : List HeartbeatSample) : Prop where
  startedAt : state.startedAtNs = startedAtNs
  providerTime : state.lastProviderTimeNs = samples.getLast?.map (·.providerMonotonicTimeNs)
  hostTime : state.lastHostReceiptTimeNs = samples.getLast?.map (·.hostReceiptTimeNs)
  probeSequence : nextNumber state.lastProbeSequence = (samplesOf .probe samples).length
  ackSequence : nextNumber state.lastAckSequence = (samplesOf .ack samples).length
  lastProbe : state.lastProbeHostReceiptNs =
    (samplesOf .probe samples).getLast?.map (·.hostReceiptTimeNs)
  lastAck : state.lastValidAckReceivedNs =
    (samplesOf .ack samples).getLast?.map (·.hostReceiptTimeNs)
  probeNumbers : (samplesOf .probe samples).map (·.heartbeatSequence.toNat) =
    List.range (samplesOf .probe samples).length
  ackNumbers : (samplesOf .ack samples).map (·.heartbeatSequence.toNat) =
    List.range (samplesOf .ack samples).length
  clocks : samples.IsChain HeartbeatSample.NotBefore

theorem HeartbeatState.tracks_rebaseStart (state : HeartbeatState) (startedAtNs : UInt64) :
    (state.rebaseStart startedAtNs).Tracks startedAtNs [] := by
  constructor <;> simp [rebaseStart, samplesOf, nextNumber]

@[simp] theorem samplesOf_concat_self {kind : HeartbeatKind} (samples : List HeartbeatSample)
    (h : sample.kind = kind) :
    samplesOf kind (samples ++ [sample]) = samplesOf kind samples ++ [sample] := by
  simp [samplesOf, h]

@[simp] theorem samplesOf_concat_other {kind : HeartbeatKind} (samples : List HeartbeatSample)
    (h : sample.kind ≠ kind) :
    samplesOf kind (samples ++ [sample]) = samplesOf kind samples := by
  simp [samplesOf, h]

/-- One more number. -/
theorem numbers_concat {samples : List HeartbeatSample}
    (hnumbers : samples.map (·.heartbeatSequence.toNat) = List.range samples.length)
    (h : sample.heartbeatSequence.toNat = samples.length) :
    (samples ++ [sample]).map (·.heartbeatSequence.toNat) =
      List.range (samples ++ [sample]).length := by
  rw [List.map_append, hnumbers, List.length_append, List.length_singleton, List.range_succ,
    List.map_singleton, h]

theorem HeartbeatState.Tracks.next {startedAtNs : UInt64} {samples : List HeartbeatSample}
    (hstate : state.Tracks startedAtNs samples)
    (h : state.accept sample highestObservedSequence hostObservedStagedDigest = .ok after) :
    after.Tracks startedAtNs (samples ++ [sample]) := by
  obtain ⟨-, hkind, -, hprovider, hhost, hprobe, hack, rfl⟩ := HeartbeatState.accept_eq_ok h
  have hclocks : (samples ++ [sample]).IsChain HeartbeatSample.NotBefore := by
    refine isChain_concat_iff.2 ⟨hstate.clocks, ?_⟩
    intro last hlast
    exact ⟨hhost _ (by simp [hstate.hostTime, hlast]),
      hprovider _ (by simp [hstate.providerTime, hlast])⟩
  cases hkind with
  | inl hkind =>
      have hother : sample.kind ≠ .ack := by simp [hkind]
      have hnumber := hprobe hkind
      rw [hstate.probeSequence] at hnumber
      rw [record, if_pos hkind]
      constructor
      · exact hstate.startedAt
      · simp
      · simp
      · simpa [hkind, nextNumber] using hnumber
      · simpa [hother] using hstate.ackSequence
      · simp [hkind]
      · simpa [hother] using hstate.lastAck
      · rw [samplesOf_concat_self samples hkind]
        exact numbers_concat hstate.probeNumbers hnumber
      · rw [samplesOf_concat_other samples hother]
        exact hstate.ackNumbers
      · exact hclocks
  | inr hkind =>
      have hother : sample.kind ≠ .probe := by simp [hkind]
      have hnumber := (hack hkind).1
      rw [hstate.ackSequence] at hnumber
      rw [record, if_neg hother]
      constructor
      · exact hstate.startedAt
      · simp
      · simp
      · simpa [hother] using hstate.probeSequence
      · simpa [hkind, nextNumber] using hnumber
      · simpa [hother] using hstate.lastProbe
      · simp [hkind]
      · rw [samplesOf_concat_other samples hother]
        exact hstate.probeNumbers
      · rw [samplesOf_concat_self samples hkind]
        exact numbers_concat hstate.ackNumbers hnumber
      · exact hclocks

theorem HeartbeatState.Tracks.markTerminal {startedAtNs : UInt64} {samples : List HeartbeatSample}
    (hstate : state.Tracks startedAtNs samples) : state.markTerminal.Tracks startedAtNs samples :=
  ⟨hstate.startedAt, hstate.providerTime, hstate.hostTime, hstate.probeSequence,
    hstate.ackSequence, hstate.lastProbe, hstate.lastAck, hstate.probeNumbers, hstate.ackNumbers,
    hstate.clocks⟩

/-- No admitted sample is later than the last one. -/
theorem HeartbeatState.Tracks.hostTime_le {startedAtNs : UInt64} {samples : List HeartbeatSample}
    (hstate : state.Tracks startedAtNs samples) {earlier last : HeartbeatSample}
    (hearlier : earlier ∈ samples) (hlast : samples.getLast? = some last) :
    earlier.hostTime ≤ last.hostTime := by
  obtain ⟨before, rfl⟩ := List.getLast?_eq_some_iff.1 hlast
  have hpairs := pairwise_of_isChain HeartbeatSample.NotBefore.trans hstate.clocks
  cases List.mem_append.1 hearlier with
  | inl hbefore => exact ((List.pairwise_append.1 hpairs).2.2 _ hbefore _ (by simp)).1
  | inr hself => rw [List.mem_singleton.1 hself]

/-- With the startup grace and the probe deadline kept, only the idle timeout is left to fail. -/
theorem HeartbeatState.checkLiveness_or {now : UInt64} (hopen : state.terminal = false)
    (hstart : state.startedAtNs.toNat ≤ now.toNat)
    (hgrace : state.lastValidAckReceivedNs = none →
      now.toNat - state.startedAtNs.toNat < heartbeatStartupGraceNs.toNat)
    (hprobe : ∀ probe, state.lastProbeHostReceiptNs = some probe →
      probe.toNat ≤ now.toNat ∧ now.toNat - probe.toNat < heartbeatTimeoutNs.toNat)
    (hack : ∀ acknowledged, state.lastValidAckReceivedNs = some acknowledged →
      acknowledged.toNat ≤ now.toNat) :
    (state.checkLiveness now = .ok () ∨ state.checkLiveness now =
        .error (ng1Error "heartbeat-timeout" "now_ns" "ack-deadline-reached")) ∧
      (state.checkLiveness now = .ok () ↔
        ∀ acknowledged, state.lastValidAckReceivedNs = some acknowledged →
          now.toNat < acknowledged.toNat + heartbeatTimeoutNs.toNat) := by
  have helapsed : checkedElapsed now state.startedAtNs "heartbeat-clock-invalid" "now_ns" =
      .ok (now - state.startedAtNs) := by
    rw [checkedElapsed, if_neg]
    rw [UInt64.lt_iff_toNat_lt]
    omega
  rw [checkLiveness, if_neg (by simp [hopen]), helapsed, ok_bind]
  cases hlast : state.lastValidAckReceivedNs with
  | none =>
      have hsub : (now - state.startedAtNs).toNat = now.toNat - state.startedAtNs.toNat :=
        UInt64.toNat_sub_of_le _ _ (UInt64.le_iff_toNat_le.2 hstart)
      have hearly : ¬ now - state.startedAtNs ≥ heartbeatStartupGraceNs := by
        rw [ge_iff_le, UInt64.le_iff_toNat_le, hsub]
        have := hgrace hlast
        omega
      simp [reject, hearly]
  | some acknowledged =>
      have hle := hack acknowledged hlast
      have hidle : checkedElapsed now acknowledged "heartbeat-clock-invalid" "now_ns" =
          .ok (now - acknowledged) := by
        rw [checkedElapsed, if_neg]
        rw [UInt64.lt_iff_toNat_lt]
        omega
      have hsub : (now - acknowledged).toNat = now.toNat - acknowledged.toNat :=
        UInt64.toNat_sub_of_le _ _ (UInt64.le_iff_toNat_le.2 hle)
      simp only
      rw [withinDeadline_eq_ok_iff.2 hprobe, ok_bind, withinDeadline, hidle, ok_bind, reject]
      by_cases hlate : now - acknowledged ≥ heartbeatTimeoutNs
      · rw [ge_iff_le, UInt64.le_iff_toNat_le, hsub] at hlate
        simp [UInt64.le_iff_toNat_le, hsub, hlate]
        omega
      · rw [ge_iff_le, UInt64.le_iff_toNat_le, hsub, not_le] at hlate
        simp [UInt64.le_iff_toNat_le, hsub, hlate]
        omega

/-! ## Admission against liveness -/

/-- The samples that a run admits. -/
def HeartbeatState.samples (start : HeartbeatState) (calls : List HeartbeatCall) :
    List HeartbeatSample :=
  (admitted HeartbeatState.call start calls).filterMap HeartbeatCall.sample?

/-- The state after a run. -/
def HeartbeatState.afterRun (start : HeartbeatState) (calls : List HeartbeatCall) :
    HeartbeatState :=
  final HeartbeatState.call start calls

/-- What holds of a session after a run of calls. -/
structure HeartbeatLaw (start : HeartbeatState) (calls : List HeartbeatCall) : Prop where
  /-- An acknowledgement is admitted at a time up to which the liveness check passes, except that
      the check, unlike the admission, looks at the time since the last acknowledgement. -/
  admission : ∀ sample highestObservedSequence hostObservedStagedDigest after,
    (start.afterRun calls).accept sample highestObservedSequence hostObservedStagedDigest =
      .ok after → sample.kind = .ack →
    ∀ now : UInt64, start.startedAtNs.toNat ≤ now.toNat →
      (∀ last, (start.samples calls).getLast? = some last → last.hostTime ≤ now.toNat) →
      now.toNat ≤ sample.hostTime →
      ((start.afterRun calls).checkLiveness now = .ok () ∨
        (start.afterRun calls).checkLiveness now =
          .error (ng1Error "heartbeat-timeout" "now_ns" "ack-deadline-reached")) ∧
      ((start.afterRun calls).checkLiveness now = .ok () ↔
        ∀ acknowledged, (samplesOf .ack (start.samples calls)).getLast? = some acknowledged →
          now.toNat < acknowledged.hostTime + heartbeatTimeoutNs.toNat)
  probes : (samplesOf .probe (start.samples calls)).map (·.heartbeatSequence.toNat) =
    List.range (samplesOf .probe (start.samples calls)).length
  acks : (samplesOf .ack (start.samples calls)).map (·.heartbeatSequence.toNat) =
    List.range (samplesOf .ack (start.samples calls)).length
  clocks : (start.samples calls).Pairwise HeartbeatSample.NotBefore

theorem HeartbeatState.Tracks.admission {startedAtNs : UInt64} {samples : List HeartbeatSample}
    (hstate : state.Tracks startedAtNs samples)
    (h : state.accept sample highestObservedSequence hostObservedStagedDigest = .ok after)
    (hkind : sample.kind = .ack) {now : UInt64} (hstart : startedAtNs.toNat ≤ now.toNat)
    (hlast : ∀ last, samples.getLast? = some last → last.hostTime ≤ now.toNat)
    (hnow : now.toNat ≤ sample.hostTime) :
    (state.checkLiveness now = .ok () ∨ state.checkLiveness now =
        .error (ng1Error "heartbeat-timeout" "now_ns" "ack-deadline-reached")) ∧
      (state.checkLiveness now = .ok () ↔
        ∀ acknowledged, (samplesOf .ack samples).getLast? = some acknowledged →
          now.toNat < acknowledged.hostTime + heartbeatTimeoutNs.toNat) := by
  obtain ⟨hopen, -, -, -, -, -, hadmitted, -⟩ := HeartbeatState.accept_eq_ok h
  obtain ⟨-, hgrace, hprobe⟩ := hadmitted hkind
  -- the last probe and the last acknowledgement are among the samples, so not after `now`
  have hbehind : ∀ kind earlier, (samplesOf kind samples).getLast? = some earlier →
      earlier.hostTime ≤ now.toNat := by
    intro kind earlier hearlier
    have hmem : earlier ∈ samples := List.mem_of_mem_filter (List.mem_of_getLast? hearlier)
    obtain ⟨last, hfinal⟩ :=
      Option.isSome_iff_exists.1 (List.getLast?_isSome.2 (List.ne_nil_of_mem hmem))
    exact (hstate.hostTime_le hmem hfinal).trans (hlast last hfinal)
  have hlive := HeartbeatState.checkLiveness_or hopen (hstate.startedAt ▸ hstart)
    (fun hnone => lt_of_le_of_lt (Nat.sub_le_sub_right hnow _) (hgrace hnone))
    (fun probe hreceipt => by
      have hafter := hprobe probe hreceipt
      rw [hstate.lastProbe] at hreceipt
      obtain ⟨earlier, hearlier, rfl⟩ := Option.map_eq_some_iff.1 hreceipt
      exact ⟨hbehind _ _ hearlier, lt_of_le_of_lt (Nat.sub_le_sub_right hnow _) hafter⟩)
    (fun acknowledged hreceipt => by
      rw [hstate.lastAck] at hreceipt
      obtain ⟨earlier, hearlier, rfl⟩ := Option.map_eq_some_iff.1 hreceipt
      exact hbehind _ _ hearlier)
  refine ⟨hlive.1, hlive.2.trans ?_⟩
  simp [hstate.lastAck, HeartbeatSample.hostTime]

/-- **Heartbeat admission against the liveness rule**, after any run from a fresh or rebased
    state. -/
theorem heartbeat_admission {start : HeartbeatState}
    (hstart : (∃ binding startedAtNs, HeartbeatState.create binding startedAtNs = .ok start) ∨
      ∃ (state : HeartbeatState) (startedAtNs : UInt64), start = state.rebaseStart startedAtNs)
    (calls : List HeartbeatCall) : HeartbeatLaw start calls := by
  have hfresh : start.Tracks start.startedAtNs [] := by
    cases hstart with
    | inl hcreate =>
        obtain ⟨binding, startedAtNs, hcreate⟩ := hcreate
        simp only [HeartbeatState.create, seq_eq_ok_iff, Except.ok.injEq] at hcreate
        obtain ⟨-, rfl⟩ := hcreate
        exact HeartbeatState.tracks_rebaseStart { binding := binding, startedAtNs := 0 } startedAtNs
    | inr hrebase =>
        obtain ⟨state, startedAtNs, rfl⟩ := hrebase
        exact HeartbeatState.tracks_rebaseStart state startedAtNs
  have hstate : (start.afterRun calls).Tracks start.startedAtNs (start.samples calls) := by
    refine Admitting.invariant
      (P := fun (state : HeartbeatState) (done : List HeartbeatCall) =>
        state.Tracks start.startedAtNs (done.filterMap HeartbeatCall.sample?)) hfresh ?_ calls
    intro state done call next hstate hcall
    cases call with
    | accept sample highestObservedSequence hostObservedStagedDigest =>
        simpa [HeartbeatCall.sample?] using hstate.next hcall
    | markTerminal =>
        obtain rfl := Except.ok.inj hcall
        have hnone : [HeartbeatCall.markTerminal].filterMap HeartbeatCall.sample? = [] := rfl
        rw [List.filterMap_append, hnone, List.append_nil]
        exact hstate.markTerminal
  constructor
  · intro sample highestObservedSequence hostObservedStagedDigest after haccept hkind now hnow
    exact hstate.admission haccept hkind hnow
  · exact hstate.probeNumbers
  · exact hstate.ackNumbers
  · exact pairwise_of_isChain HeartbeatSample.NotBefore.trans hstate.clocks

/-- A session for the two theorems that follow. -/
def lateBinding : SessionBinding :=
  ⟨"provider:a", ⟨1, 0, 0⟩, "session:a", "task:a", 7⟩

/-- A staged digest. -/
def lateDigest : Bytes :=
  ascii "semantic-v2:sha256:" ++ List.replicate 64 48

/-- The acknowledgement `sequence`, received at `time`. -/
def lateAck (sequence time : UInt64) : HeartbeatSample :=
  ⟨heartbeatSchema, lateBinding, .ack, sequence, time, time, 0, lateDigest⟩

/-- Two acknowledgements that are more than the timeout apart, without a probe: the second is
    admitted after the liveness check would have failed. -/
theorem late_ack_admitted :
    ∃ (start : HeartbeatState) (calls : List HeartbeatCall) (after : HeartbeatState),
      HeartbeatState.create lateBinding 0 = .ok start ∧
        (start.afterRun calls).accept (lateAck 1 5000000001) 0 lateDigest = .ok after ∧
        (start.afterRun calls).lastHostReceiptTimeNs = some 1 ∧
        (start.afterRun calls).checkLiveness 5000000001 =
          .error (ng1Error "heartbeat-timeout" "now_ns" "ack-deadline-reached") :=
  ⟨{ binding := lateBinding, startedAtNs := 0 }, [.accept (lateAck 0 1) 0 lateDigest],
    (HeartbeatState.record (HeartbeatState.record { binding := lateBinding, startedAtNs := 0 }
      (lateAck 0 1)) (lateAck 1 5000000001)), by decide_cbv, by decide, by decide, by decide⟩

/-- The law for that run. -/
theorem heartbeat_admission_late :
    HeartbeatLaw { binding := lateBinding, startedAtNs := 0 }
      [.accept (lateAck 0 1) 0 lateDigest] :=
  heartbeat_admission (.inl ⟨lateBinding, 0, by decide_cbv⟩) _

end Cxxlens.Sdk.Provider
