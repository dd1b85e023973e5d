import Cxxlens.Foundation.Admitting
import Cxxlens.Sdk.Provider.Recovery

set_option autoImplicit false

/-! # Resume tokens never go back

A resume state over a run of `accept` calls. Each call is compared with the token and receipt
accepted last; the order between accepted calls is transitive, so it holds against all of them. -/

namespace Cxxlens.Sdk.Provider

open Fallible Admitting

/-- A call of `ng1_resume_state::accept` -/
structure ResumeCall where
  token : ResumeToken
  receipt : SpillFsyncReceipt
  openDependencyGroup : Bool
  terminal : Bool
  highestObservedSequence : UInt64
  deriving DecidableEq, Repr

/-- The acknowledged sequence of the token of a call. -/
def ResumeCall.acked (call : ResumeCall) : UInt64 :=
  call.token.highestContiguousAckedSequence

section Resume

variable (hash : Bytes → Bytes)

/-- One call on a resume state. -/
def ResumeState.call (state : ResumeState) (call : ResumeCall) : Result ResumeState :=
  state.accept hash call.token call.receipt call.openDependencyGroup call.terminal
    call.highestObservedSequence

end Resume

/-- What a later accepted call has over an earlier one. -/
structure ResumeCall.Precedes (earlier later : ResumeCall) : Prop where
  generation : earlier.token.tokenGeneration < later.token.tokenGeneration
  fsync : earlier.receipt.fsyncSequence < later.receipt.fsyncSequence
  acked : earlier.acked ≤ later.acked
  totalBytes : earlier.receipt.totalBytes ≤ later.receipt.totalBytes
  totalRecords : earlier.receipt.totalRecords ≤ later.receipt.totalRecords
  stagedDigest : earlier.acked = later.acked → earlier.token.stagedDigest = later.token.stagedDigest
  spillDigest : earlier.acked = later.acked →
    earlier.receipt.spillDigest = later.receipt.spillDigest

/-- The acknowledged sequence of the ends is repeated in between, and with it the digests. -/
theorem ResumeCall.Precedes.trans (a b c : ResumeCall) (hab : a.Precedes b) (hbc : b.Precedes c) :
    a.Precedes c where
  generation := UInt64.lt_trans hab.generation hbc.generation
  fsync := UInt64.lt_trans hab.fsync hbc.fsync
  acked := UInt64.le_trans hab.acked hbc.acked
  totalBytes := UInt64.le_trans hab.totalBytes hbc.totalBytes
  totalRecords := UInt64.le_trans hab.totalRecords hbc.totalRecords
  stagedDigest := by
    intro hsame
    have hb : a.acked = b.acked := UInt64.le_antisymm hab.acked (hsame ▸ hbc.acked)
    exact (hab.stagedDigest hb).trans (hbc.stagedDigest (hb.symm.trans hsame))
  spillDigest := by
    intro hsame
    have hb : a.acked = b.acked := UInt64.le_antisymm hab.acked (hsame ▸ hbc.acked)
    exact (hab.spillDigest hb).trans (hbc.spillDigest (hb.symm.trans hsame))

/-! ## One call -/

section Resume

variable {hash : Bytes → Bytes} {state after : ResumeState} {call : ResumeCall}

theorem ResumeState.notBehind_eq_ok_iff {token : ResumeToken} {receipt last : SpillFsyncReceipt} :
    state.notBehind token receipt last = .ok () ↔
      state.lastAckedSequence ≤ token.highestContiguousAckedSequence ∧
        (token.highestContiguousAckedSequence = state.lastAckedSequence →
          token.stagedDigest = last.stagedDigest) ∧
        (last.totalBytes ≤ receipt.totalBytes ∧ last.totalRecords ≤ receipt.totalRecords) ∧
        (token.highestContiguousAckedSequence = state.lastAckedSequence →
          receipt.spillDigest = last.spillDigest) := by
  simp only [notBehind, seq_eq_ok_iff, reject_eq_ok_iff]
  simp

/-- What an accepted call has passed, and the state it leaves. -/
theorem ResumeState.call_eq_ok (h : state.call hash call = .ok after) :
    call.receipt.stagedDigest = call.token.stagedDigest ∧
      (∀ last, state.lastFsyncSequence = some last → last < call.receipt.fsyncSequence) ∧
      (∀ last, state.lastReceipt = some last →
        state.notBehind call.token call.receipt last = .ok ()) ∧
      (call.acked ≤ call.highestObservedSequence ∧ call.acked ≠ maxU64) ∧
      (∀ last, state.lastGeneration = some last → last < call.token.tokenGeneration) ∧
      after = { state with
        lastGeneration := some call.token.tokenGeneration
        lastAckedSequence := call.acked
        lastFsyncSequence := some call.receipt.fsyncSequence
        lastReceipt := some call.receipt
        accepted := true } := by
  simp only [ResumeState.call, accept, seq_eq_ok_iff, reject_eq_ok_iff, firstError_eq_ok_iff,
    Bool.or_eq_false_iff, bne_eq_false_iff_eq, decide_eq_false_iff_not, UInt64.not_lt, beq_eq_false_iff_ne,
    Option.any_eq_false, Option.mem_toList, UInt64.not_le, Except.ok.injEq] at h
  obtain ⟨-, -, -, -, ⟨-, hstaged⟩, hfsync, hreceipt, hobserved, hgeneration, rfl⟩ := h
  exact ⟨hstaged, hfsync, hreceipt, hobserved, hgeneration, rfl⟩

/-! ## Runs -/

/-- The state is that of the last of the accepted calls, and they go forward. -/
structure ResumeState.Tracks (state : ResumeState) (done : List ResumeCall) : Prop where
  accepted : state.accepted = done.getLast?.isSome
  generation : state.lastGeneration = done.getLast?.map (·.token.tokenGeneration)
  acked : ∀ last, done.getLast? = some last → state.lastAckedSequence = last.acked
  fsync : state.lastFsyncSequence = done.getLast?.map (·.receipt.fsyncSequence)
  receipt : state.lastReceipt = done.getLast?.map (·.receipt)
  forward : done.IsChain ResumeCall.Precedes
  observed : ∀ call ∈ done, call.acked ≤ call.highestObservedSequence ∧ call.acked ≠ maxU64
  staged : ∀ call ∈ done, call.receipt.stagedDigest = call.token.stagedDigest

theorem ResumeState.tracks_fresh (binding : ResumeBinding) :
    ResumeState.Tracks { binding := binding } [] := by
  constructor <;> simp

/-- An accepted call comes after the one accepted last. -/
theorem ResumeState.Tracks.precedes {done : List ResumeCall} (hstate : state.Tracks done)
    (h : state.call hash call = .ok after) {last : ResumeCall} (hlast : done.getLast? = some last) :
    last.Precedes call := by
  obtain ⟨-, hfsync, hreceipt, -, hgeneration, -⟩ := ResumeState.call_eq_ok h
  have hacked := hstate.acked last hlast
  have hlastStaged := hstate.staged last (List.mem_of_getLast? hlast)
  have hbehind := hreceipt last.receipt (by simp [hstate.receipt, hlast])
  obtain ⟨hle, hstaged, ⟨hbytes, hrecords⟩, hspill⟩ := ResumeState.notBehind_eq_ok_iff.1 hbehind
  rw [hacked] at hle hstaged hspill
  constructor
  · exact hgeneration _ (by simp [hstate.generation, hlast])
  · exact hfsync _ (by simp [hstate.fsync, hlast])
  · exact hle
  · exact hbytes
  · exact hrecords
  · exact fun hsame => hlastStaged.symm.trans (hstaged hsame.symm).symm
  · exact fun hsame => (hspill hsame.symm).symm

theorem ResumeState.Tracks.next {done : List ResumeCall} (hstate : state.Tracks done)
    (h : state.call hash call = .ok after) : after.Tracks (done ++ [call]) := by
  have hprecedes := fun last (hlast : done.getLast? = some last) => hstate.precedes h hlast
  obtain ⟨hstaged, -, -, hobserved, -, rfl⟩ := ResumeState.call_eq_ok h
  constructor
  · simp
  · simp
  · simp
  · simp
  · simp
  · exact isChain_concat_iff.2 ⟨hstate.forward, hprecedes⟩
  · exact List.forall_mem_append.2 ⟨hstate.observed, List.forall_mem_singleton.2 hobserved⟩
  · exact List.forall_mem_append.2 ⟨hstate.staged, List.forall_mem_singleton.2 hstaged⟩

theorem ResumeState.Tracks.replayStartSequence_eq {done : List ResumeCall}
    (hstate : state.Tracks done) :
    (done = [] → ∃ e, state.replayStartSequence = .error e) ∧
      ∀ last, done.getLast? = some last →
        ∃ first, state.replayStartSequence = .ok first ∧
          first.toNat = last.acked.toNat + 1 := by
  constructor
  · intro hnone
    have hstart : state.accepted = false := by simp [hstate.accepted, hnone]
    exact ⟨_, by rw [replayStartSequence, if_pos (by simp [hstart])]⟩
  · intro last hlast
    have hstart : state.accepted = true := by simp [hstate.accepted, hlast]
    have hne : state.lastAckedSequence ≠ maxU64 := by
      rw [hstate.acked last hlast]
      exact (hstate.observed last (List.mem_of_getLast? hlast)).2
    have hfirst : state.replayStartSequence = .ok (state.lastAckedSequence + 1) := by
      rw [replayStartSequence, if_neg (by simp [hstart, hne])]
    refine ⟨_, hfirst, ?_⟩
    rw [← hstate.acked last hlast]
    exact (ResumeState.replayStartSequence_eq hfirst).2

/-- **Resume tokens never go back.** A run of `accept` calls starts at the state `create` returns;
    at its end every accepted call precedes every later one, none is ahead of what had been observed
    or at the last sequence there is, a replay starts right behind the last one, and one more call
    that is rejected changes nothing. -/
theorem resume_tokens_forward (hash : Bytes → Bytes) (binding : ResumeBinding)
    (calls : List ResumeCall) :
    let start : ResumeState := { binding := binding }
    let accepted := admitted (ResumeState.call hash) start calls
    let state := final (ResumeState.call hash) start calls
    accepted.Pairwise ResumeCall.Precedes ∧
      (∀ call ∈ accepted, call.acked ≤ call.highestObservedSequence ∧
        call.acked.toNat + 1 < 2 ^ 64) ∧
      (accepted = [] → ∃ e, state.replayStartSequence = .error e) ∧
      (∀ last, accepted.getLast? = some last → ∃ first, state.replayStartSequence = .ok first ∧
        first.toNat = last.acked.toNat + 1) ∧
      ∀ call e, state.call hash call = .error e →
        final (ResumeState.call hash) start (calls ++ [call]) = state := by
  intro start accepted state
  have hstate : state.Tracks accepted :=
    Admitting.invariant (ResumeState.tracks_fresh binding)
      (fun _ _ _ _ hstate hcall => hstate.next hcall) calls
  refine ⟨pairwise_of_isChain ResumeCall.Precedes.trans hstate.forward, ?_,
    hstate.replayStartSequence_eq.1, hstate.replayStartSequence_eq.2,
    fun call e h => final_concat_of_error h⟩
  intro call hcall
  obtain ⟨hobserved, hne⟩ := hstate.observed call hcall
  have hlt := call.acked.toNat_lt
  have hlast : call.acked.toNat ≠ 2 ^ 64 - 1 := fun heq =>
    hne (UInt64.toNat_inj.1 (heq.trans (by decide)))
  exact ⟨hobserved, by omega⟩

end Resume

end Cxxlens.Sdk.Provider
