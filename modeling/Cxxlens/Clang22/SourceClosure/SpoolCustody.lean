import Cxxlens.Clang22.SourceClosure.SpoolSteps

set_option autoImplicit false

/-! # The receipt of a spool

A spool that has been cleaned up has a receipt and holds nothing, and no call changes it again. -/

namespace Cxxlens.Clang22

open Sdk SparseFile Fallible

section Custody

variable {hash : Bytes → Bytes} {unicode : UnicodeNfc} {answers : SystemAnswers}

/-- A spool has a receipt exactly when it has been cleaned up, and then it holds nothing. -/
structure Custody (spool : SourceClosureSpool) : Prop where
  cleaned : spool.cleanupReceipt ≠ [] → spool.state = .cleaned
  receipt : spool.state = .cleaned → spool.cleanupReceipt ≠ []
  manifest : spool.state = .cleaned → spool.manifestBytes = []
  blobs : spool.state = .cleaned → spool.privateSpoolBytes = 0

theorem Custody.fresh (limits : SourceClosureTransportLimits) :
    Custody { limits := limits } :=
  ⟨fun h => absurd rfl h, nofun, nofun, nofun⟩

/-- Nothing changes a spool that has been cleaned up. -/
theorem cleaned_after {spool : SourceClosureSpool} (hcustody : Custody spool)
    (hstate : spool.state = .cleaned) (call : SpoolCall) :
    call.after hash unicode answers spool = spool := by
  cases call with
  | beginManifest descriptor =>
      rcases h : spool.beginManifest answers descriptor with ⟨spool', reply⟩
      rw [SpoolCall.after, h]
      rcases SourceClosureSpool.beginManifest_cases h with
        ⟨-, -, rfl | ⟨hfresh, -⟩⟩ | ⟨-, hfresh, -⟩
      · rfl
      all_goals simp [hstate] at hfresh
  | appendManifest payload =>
      rcases h : spool.appendManifest answers payload with ⟨spool', reply⟩
      rw [SpoolCall.after, h]
      rcases SourceClosureSpool.appendManifest_cases h with ⟨rfl, -⟩ | ⟨-, hopen, -⟩
      · rfl
      · simp [hstate] at hopen
  | finishManifest manifestDigest =>
      rcases h : spool.finishManifest hash unicode answers manifestDigest with ⟨spool', reply⟩
      rw [SpoolCall.after, h]
      rcases SourceClosureSpool.finishManifest_cases h with
        ⟨-, -, rfl | ⟨hopen, -⟩⟩ | ⟨hopen, -⟩
      · rfl
      all_goals simp [hstate] at hopen
  | beginBlob descriptor =>
      rcases h : spool.beginBlob answers descriptor with ⟨spool', reply⟩
      have hready : ¬ (spool.state = .manifestValidated ∨ spool.state = .blobSealed) := by
        simp [hstate]
      rw [SpoolCall.after, SourceClosureSpool.beginBlob, if_pos (not_or.1 hready)]
  | appendBlob payload =>
      rcases h : spool.appendBlob answers payload with ⟨spool', reply⟩
      rw [SpoolCall.after, h]
      rcases SourceClosureSpool.appendBlob_cases h with ⟨rfl, -⟩ | ⟨hopen, -⟩
      · rfl
      · simp [hstate] at hopen
  | finishBlob receipt =>
      rcases h : spool.finishBlob hash answers receipt with ⟨spool', reply⟩
      rw [SpoolCall.after, h]
      rcases SourceClosureSpool.finishBlob_cases h with ⟨rfl, -⟩ | ⟨-, hopen, -⟩
      · rfl
      · simp [hstate] at hopen
  | finishClosure transferDigest =>
      rcases h : spool.finishClosure hash answers transferDigest with ⟨spool', reply⟩
      rw [SpoolCall.after, h]
      rcases SourceClosureSpool.finishClosure_cases h with ⟨rfl, -⟩ | ⟨hsealed, -⟩
      · rfl
      · simp [hstate] at hsealed
  | snapshot => rfl
  | cleanup =>
      rcases h : spool.cleanup hash answers with ⟨spool', reply⟩
      rw [SpoolCall.after, h]
      rcases SourceClosureSpool.cleanup_cases h with ⟨-, rfl, -⟩ | ⟨-, rfl, -⟩ | ⟨hnone, -⟩
      · rfl
      · rfl
      · exact absurd hnone (hcustody.receipt hstate)

theorem SourceClosureSpool.Opened.frame {spool opened : SourceClosureSpool}
    (h : spool.Opened opened) :
    opened.state = spool.state ∧ opened.cleanupReceipt = spool.cleanupReceipt := by
  rcases h with rfl | ⟨-, rfl⟩
  · exact ⟨rfl, rfl⟩
  · exact ⟨rfl, rfl⟩

/-- A spool that is in use and stays in use. -/
theorem Custody.inUse {spool' : SourceClosureSpool} (hreceipt : spool'.cleanupReceipt = [])
    (hstate : spool'.state ≠ .cleaned) : Custody spool' :=
  ⟨fun h => absurd hreceipt h, fun h => absurd h hstate, fun h => absurd h hstate,
    fun h => absurd h hstate⟩

theorem Custody.cleanup {spool spool' : SourceClosureSpool} {reply : Result Bytes}
    (hcustody : Custody spool) (h : spool.cleanup hash answers = (spool', reply)) :
    Custody spool' ∧ (∀ receipt, reply = .ok receipt → spool'.cleanupReceipt = receipt ∧
      receipt ≠ []) ∧ (spool.cleanupReceipt ≠ [] → spool' = spool ∧
        reply = .ok spool.cleanupReceipt) := by
  rcases SourceClosureSpool.cleanup_cases h with
    ⟨hhas, rfl, rfl⟩ | ⟨hnone, rfl, _, rfl⟩ | ⟨hnone, receipt, hne, rfl, rfl⟩
  · exact ⟨hcustody, fun _ h => ⟨Except.ok.inj h, Except.ok.inj h ▸ hhas⟩, fun _ => ⟨rfl, rfl⟩⟩
  · exact ⟨hcustody, nofun, fun h => absurd hnone h⟩
  · exact ⟨⟨fun _ => rfl, fun _ => hne, fun _ => rfl, fun _ => rfl⟩,
      fun _ h => ⟨Except.ok.inj h, Except.ok.inj h ▸ hne⟩, fun h => absurd hnone h⟩

theorem Custody.after {spool : SourceClosureSpool} (hcustody : Custody spool)
    (call : SpoolCall) : Custody (call.after hash unicode answers spool) := by
  by_cases hstate : spool.state = .cleaned
  · rw [cleaned_after hcustody hstate]
    exact hcustody
  have hreceipt : spool.cleanupReceipt = [] := by
    by_contra hne
    exact hstate (hcustody.cleaned hne)
  cases call with
  | beginManifest descriptor =>
      rcases h : spool.beginManifest answers descriptor with ⟨spool', reply⟩
      rw [SpoolCall.after, h]
      rcases SourceClosureSpool.beginManifest_cases h with
        ⟨-, -, rfl | ⟨-, opened, torn, hopened, rfl⟩⟩ | ⟨-, -, -, opened, file, hopened, -, rfl⟩
      · exact hcustody
      · exact .inUse (hopened.frame.2.trans hreceipt) (hopened.frame.1 ▸ hstate)
      · exact .inUse (hopened.frame.2.trans hreceipt) nofun
  | appendManifest payload =>
      rcases h : spool.appendManifest answers payload with ⟨spool', reply⟩
      rw [SpoolCall.after, h]
      rcases SourceClosureSpool.appendManifest_cases h with ⟨rfl, -⟩ | ⟨-, -, -, -, -, rfl⟩
      · exact hcustody
      · exact .inUse hreceipt hstate
  | finishManifest manifestDigest =>
      rcases h : spool.finishManifest hash unicode answers manifestDigest with ⟨spool', reply⟩
      rw [SpoolCall.after, h]
      rcases SourceClosureSpool.finishManifest_cases h with
        ⟨-, -, rfl | ⟨-, -, rfl⟩⟩ | ⟨-, -, -, snapshot, total, summary, -, -, rfl⟩
      · exact hcustody
      · exact .inUse hreceipt hstate
      · exact .inUse hreceipt nofun
  | beginBlob descriptor =>
      rcases h : spool.beginBlob answers descriptor with ⟨spool', reply⟩
      rw [SpoolCall.after, h]
      rcases SourceClosureSpool.beginBlob_cases h with
        ⟨-, -, rfl | ⟨-, hopened⟩⟩ | ⟨-, -, -, expected, opened, file, -, -, -, hopened, -, rfl⟩
      · exact hcustody
      · exact .inUse (hopened.frame.2.trans hreceipt) (hopened.frame.1 ▸ hstate)
      · exact .inUse (hopened.frame.2.trans hreceipt) nofun
  | appendBlob payload =>
      rcases h : spool.appendBlob answers payload with ⟨spool', reply⟩
      rw [SpoolCall.after, h]
      rcases SourceClosureSpool.appendBlob_cases h with
        ⟨rfl, -⟩ | ⟨-, -, -, file, file', -, -, ⟨-, rfl⟩ | ⟨-, rfl⟩⟩
      · exact hcustody
      · exact .inUse hreceipt hstate
      · exact .inUse hreceipt hstate
  | finishBlob receipt =>
      rcases h : spool.finishBlob hash answers receipt with ⟨spool', reply⟩
      rw [SpoolCall.after, h]
      rcases SourceClosureSpool.finishBlob_cases h with ⟨rfl, -⟩ | ⟨-, -, -, -, rfl⟩
      · exact hcustody
      · exact .inUse hreceipt nofun
  | finishClosure transferDigest =>
      rcases h : spool.finishClosure hash answers transferDigest with ⟨spool', reply⟩
      rw [SpoolCall.after, h]
      rcases SourceClosureSpool.finishClosure_cases h with ⟨rfl, -⟩ | ⟨-, -, -, -, rfl⟩
      · exact hcustody
      · exact .inUse hreceipt nofun
  | snapshot => exact hcustody
  | cleanup =>
      rcases h : spool.cleanup hash answers with ⟨spool', reply⟩
      rw [SpoolCall.after, h]
      exact (hcustody.cleanup h).1

/-- A spool that has been cleaned up retains nothing and is not sealed. -/
theorem Custody.holdsNothing {spool : SourceClosureSpool} (hcustody : Custody spool)
    (hreceipt : spool.cleanupReceipt ≠ []) :
    spool.retainedBytes = 0 ∧ spool.isSealed = false := by
  have hstate := hcustody.cleaned hreceipt
  constructor
  · rw [SourceClosureSpool.retainedBytes, hcustody.manifest hstate, hcustody.blobs hstate]
    rfl
  · rw [SourceClosureSpool.isSealed, hstate]
    rfl

end Custody

end Cxxlens.Clang22
