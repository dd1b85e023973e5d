import Cxxlens.Clang22.SourceClosure.Relay
import Cxxlens.Clang22.SourceClosure.SpoolCustody

set_option autoImplicit false

/-! # How a relay ends

A terminal holds nothing and returns one receipt, in every run. It is final, and an observed
cancellation stays observed, exactly in the runs in which the connection is not lost and the worker
does not crash behind a cancellation. -/

namespace Cxxlens.Clang22

open Sdk SparseFile Fallible

/-! ## One call of a relay -/

/-- The terminals a relay does not come back from. -/
def RelayTerminal.Final : RelayTerminal → Prop
  | .cancelled | .cleaned | .connectionLost | .workerCrashed => True
  | .open | .sealed => False

/-- What holds of a relay between its calls. -/
structure RelayHolds (relay : SourceClosureSpoolRelay) : Prop where
  custody : Custody relay.spool
  final : relay.terminal.Final → relay.spool.cleanupReceipt ≠ []

/-- The call does not overwrite a cancellation: the connection is not lost, and the worker does
    not crash, in a cancelled relay, nor with the flag off in a relay that has observed a
    cancellation it could not carry out. -/
def Respects (relay : SourceClosureSpoolRelay) : RelayCall → Prop
  | .connectionLost cancelObserved | .workerCrashed cancelObserved =>
    relay.terminal ≠ .cancelled ∧
      (relay.terminal = .open ∨ relay.terminal = .sealed → relay.cancelObserved = true →
        cancelObserved = true)
  | _ => True

/-- What a call that ends a relay does to it. -/
structure Ends (relay after : SourceClosureSpoolRelay) (receipt : Option Bytes) : Prop where
  holds : RelayHolds after
  receipt : ∀ bytes, receipt = some bytes → after.spool.cleanupReceipt = bytes ∧ bytes ≠ []
  kept : relay.spool.cleanupReceipt ≠ [] →
    after.spool.cleanupReceipt = relay.spool.cleanupReceipt

section Steps

variable {hash : Bytes → Bytes} {unicode : UnicodeNfc} {answers : SystemAnswers}
  {relay : SourceClosureSpoolRelay}

theorem spoolCleanup_ends (hrelay : RelayHolds relay) :
    Ends relay (relay.spoolCleanup hash answers).1
      (relay.spoolCleanup hash answers).2.toOption := by
  rcases h : relay.spool.cleanup hash answers with ⟨spool', reply⟩
  obtain ⟨hcustody, hreceipt, hsame⟩ := hrelay.custody.cleanup h
  simp only [SourceClosureSpoolRelay.spoolCleanup, h]
  refine ⟨⟨hcustody, fun hfinal => ?_⟩, fun bytes hbytes => ?_, fun hhas => ?_⟩
  · rw [(hsame (hrelay.final hfinal)).1]
    exact hrelay.final hfinal
  · exact hreceipt bytes (toOption_eq_some_iff.1 hbytes)
  · rw [(hsame hhas).1]

theorem cleanupAs_ends (hrelay : RelayHolds relay) {started : SourceClosureSpoolRelay}
    (hspool : started.spool = relay.spool) (hterminal : started.terminal = relay.terminal)
    (terminal : RelayTerminal) :
    Ends relay (started.cleanupAs hash answers terminal).1
      (started.cleanupAs hash answers terminal).2.toOption := by
  rcases h : relay.spool.cleanup hash answers with ⟨spool', error | receipt⟩
  · obtain ⟨hcustody, -, hsame⟩ := hrelay.custody.cleanup h
    simp only [SourceClosureSpoolRelay.cleanupAs, hspool, h]
    refine ⟨⟨hcustody, fun hfinal => ?_⟩, nofun, fun hhas => ?_⟩
    · cases (hsame (hrelay.final (hterminal ▸ hfinal))).2
    · cases (hsame hhas).2
  · obtain ⟨hcustody, hreceipt, hsame⟩ := hrelay.custody.cleanup h
    obtain ⟨heq, hne⟩ := hreceipt receipt rfl
    simp only [SourceClosureSpoolRelay.cleanupAs, hspool, h]
    refine ⟨⟨hcustody, fun _ => heq ▸ hne⟩, fun bytes hbytes => ?_, fun hhas => ?_⟩
    · exact Option.some.inj hbytes ▸ ⟨heq, hne⟩
    · rw [(hsame hhas).1]

theorem cleanupAs_cancelObserved (started : SourceClosureSpoolRelay) (terminal : RelayTerminal) :
    (started.cleanupAs hash answers terminal).1.cancelObserved = started.cancelObserved := by
  rcases h : started.spool.cleanup hash answers with ⟨spool', error | receipt⟩
  · simp only [SourceClosureSpoolRelay.cleanupAs, h]
  · simp only [SourceClosureSpoolRelay.cleanupAs, h]

/-- In a final relay `cleanup` returns the receipt, so the terminal is written. -/
theorem cleanupAs_terminal {started : SourceClosureSpoolRelay} (hstarted : RelayHolds started)
    (hfinal : started.terminal.Final) (terminal : RelayTerminal) :
    (started.cleanupAs hash answers terminal).1.terminal = terminal := by
  rcases h : started.spool.cleanup hash answers with ⟨spool', error | receipt⟩
  · cases ((hstarted.custody.cleanup h).2.2 (hstarted.final hfinal)).2
  · simp only [SourceClosureSpoolRelay.cleanupAs, h]

theorem terminate_ends (hrelay : RelayHolds relay) (terminal : RelayTerminal)
    (cancelObserved : Bool) :
    Ends relay (relay.terminate hash answers terminal cancelObserved).1
      (relay.terminate hash answers terminal cancelObserved).2.toOption := by
  have hspool := @spoolCleanup_ends hash answers relay hrelay
  have hends := @cleanupAs_ends hash answers relay hrelay
    { relay with cancelObserved := cancelObserved } rfl rfl terminal
  rcases hterminal : relay.terminal with _ | _ | _ | _ | _ | _
  all_goals simp only [SourceClosureSpoolRelay.terminate, hterminal] at hends ⊢
  · exact hends
  · exact hends
  · exact hends
  all_goals exact hspool

theorem after_ends (hrelay : RelayHolds relay) (call : RelayCall) :
    Ends relay (call.after hash unicode answers relay) (call.receipt hash answers relay) := by
  have hspool := @spoolCleanup_ends hash answers relay hrelay
  cases call with
  | sink call =>
      have hcustody := @Custody.after hash unicode answers relay.spool hrelay.custody call
      have hkept : relay.spool.cleanupReceipt ≠ [] →
          (call.after hash unicode answers relay.spool).cleanupReceipt =
            relay.spool.cleanupReceipt := by
        intro hhas
        rw [cleaned_after hrelay.custody (hrelay.custody.cleaned hhas)]
      refine ⟨⟨hcustody, fun hfinal => ?_⟩, fun bytes hbytes => ?_, hkept⟩
      · have hhas := hrelay.final hfinal
        exact (hkept hhas).symm ▸ hhas
      · cases call with
        | cleanup =>
            rcases h : relay.spool.cleanup hash answers with ⟨spool', reply⟩
            simp only [RelayCall.receipt, h] at hbytes
            simp only [RelayCall.after, SpoolCall.after, h]
            exact (hrelay.custody.cleanup h).2.1 bytes (toOption_eq_some_iff.1 hbytes)
        | _ => cases hbytes
  | markSealed =>
      rw [RelayCall.after, RelayCall.receipt, SourceClosureSpoolRelay.markSealed]
      split_ifs with hsealed
      · exact ⟨hrelay, by simp, fun _ => rfl⟩
      · exact ⟨⟨hrelay.custody, False.elim⟩, by simp, fun _ => rfl⟩
  | cancel =>
      have hends := @cleanupAs_ends hash answers relay hrelay
        { relay with cancelObserved := true } rfl rfl .cancelled
      rcases hterminal : relay.terminal with _ | _ | _ | _ | _ | _
      all_goals
        simp only [RelayCall.after, RelayCall.receipt, SourceClosureSpoolRelay.cancel,
          hterminal] at hends ⊢
      · exact hends
      · exact hends
      · exact hends
      all_goals exact hspool
  | cleanup =>
      have hends := @cleanupAs_ends hash answers relay hrelay relay rfl rfl .cleaned
      rcases hterminal : relay.terminal with _ | _ | _ | _ | _ | _
      all_goals
        simp only [RelayCall.after, RelayCall.receipt, SourceClosureSpoolRelay.cleanup,
          hterminal] at hends ⊢
      · exact hends
      · exact hends
      all_goals exact hspool
  | connectionLost cancelObserved => exact terminate_ends hrelay .connectionLost cancelObserved
  | workerCrashed cancelObserved => exact terminate_ends hrelay .workerCrashed cancelObserved

/-! ## The terminal and the flag -/

theorem terminate_keeps_iff (hrelay : RelayHolds relay) {terminal : RelayTerminal}
    (hne : terminal ≠ .cancelled) (cancelObserved : Bool) :
    (relay.terminal.Final →
        (relay.terminate hash answers terminal cancelObserved).1.terminal = relay.terminal) ∧
      (relay.cancelObserved = true →
        (relay.terminate hash answers terminal cancelObserved).1.cancelObserved = true) ↔
    relay.terminal ≠ .cancelled ∧
      (relay.terminal = .open ∨ relay.terminal = .sealed → relay.cancelObserved = true →
        cancelObserved = true) := by
  let started := { relay with cancelObserved := cancelObserved }
  have hflag : (started.cleanupAs hash answers terminal).1.cancelObserved = cancelObserved :=
    cleanupAs_cancelObserved started terminal
  have hwritten : relay.terminal.Final →
      (started.cleanupAs hash answers terminal).1.terminal = terminal :=
    fun hfinal => @cleanupAs_terminal hash answers started ⟨hrelay.custody, hrelay.final⟩ hfinal _
  rcases hterminal : relay.terminal with _ | _ | _ | _ | _ | _
  all_goals simp only [SourceClosureSpoolRelay.terminate, hterminal, started] at hflag hwritten ⊢
  · simp [hflag, RelayTerminal.Final]
  · simp [hflag, RelayTerminal.Final]
  · -- the cancelled relay is given another terminal
    simp [hwritten trivial, RelayTerminal.Final, hne]
  all_goals simp [SourceClosureSpoolRelay.spoolCleanup, hterminal]

/-- A call keeps a final terminal and an observed cancellation exactly when it respects them. -/
theorem after_keeps_iff (hrelay : RelayHolds relay) (call : RelayCall) :
    (relay.terminal.Final →
        (call.after hash unicode answers relay).terminal = relay.terminal) ∧
      (relay.cancelObserved = true →
        (call.after hash unicode answers relay).cancelObserved = true) ↔
    Respects relay call := by
  cases call with
  | sink call => exact iff_of_true ⟨fun _ => rfl, id⟩ trivial
  | markSealed =>
      refine iff_of_true ?_ trivial
      rw [RelayCall.after, SourceClosureSpoolRelay.markSealed]
      split_ifs with hsealed
      · exact ⟨fun _ => rfl, id⟩
      · rw [not_or, not_not] at hsealed
        rw [hsealed.1]
        exact ⟨False.elim, id⟩
  | cancel =>
      refine iff_of_true ?_ trivial
      let started := { relay with cancelObserved := true }
      have hflag : (started.cleanupAs hash answers .cancelled).1.cancelObserved = true :=
        cleanupAs_cancelObserved started .cancelled
      have hwritten : relay.terminal.Final →
          (started.cleanupAs hash answers .cancelled).1.terminal = .cancelled :=
        fun hfinal => @cleanupAs_terminal hash answers started
          ⟨hrelay.custody, hrelay.final⟩ hfinal _
      rcases hterminal : relay.terminal with _ | _ | _ | _ | _ | _
      all_goals
        simp only [RelayCall.after, SourceClosureSpoolRelay.cancel, hterminal, started]
          at hflag hwritten ⊢
      · exact ⟨False.elim, fun _ => hflag⟩
      · exact ⟨False.elim, fun _ => hflag⟩
      · exact ⟨hwritten, fun _ => hflag⟩
      all_goals exact ⟨fun _ => hterminal, id⟩
  | cleanup =>
      refine iff_of_true ?_ trivial
      have hflag := @cleanupAs_cancelObserved hash answers relay .cleaned
      rcases hterminal : relay.terminal with _ | _ | _ | _ | _ | _
      all_goals
        simp only [RelayCall.after, SourceClosureSpoolRelay.cleanup, hterminal] at hflag ⊢
      · exact ⟨False.elim, fun h => hflag.trans h⟩
      · exact ⟨False.elim, fun h => hflag.trans h⟩
      all_goals exact ⟨fun _ => hterminal, id⟩
  | connectionLost cancelObserved =>
      have hne : RelayTerminal.connectionLost ≠ .cancelled := by decide
      exact terminate_keeps_iff hrelay hne cancelObserved
  | workerCrashed cancelObserved =>
      have hne : RelayTerminal.workerCrashed ≠ .cancelled := by decide
      exact terminate_keeps_iff hrelay hne cancelObserved

end Steps

/-! ## Runs -/

section Runs

variable {hash : Bytes → Bytes} {unicode : UnicodeNfc}

/-- Every call of a run respects the relay it is made on. -/
def RunRespects (hash : Bytes → Bytes) (unicode : UnicodeNfc) (relay : SourceClosureSpoolRelay) :
    List (RelayCall × SystemAnswers) → Prop
  | [] => True
  | (call, answers) :: rest =>
    Respects relay call ∧ RunRespects hash unicode (call.after hash unicode answers relay) rest

theorem relayAfter_append (relay : SourceClosureSpoolRelay)
    (before after : List (RelayCall × SystemAnswers)) :
    relayAfter hash unicode relay (before ++ after) =
      relayAfter hash unicode (relayAfter hash unicode relay before) after := by
  induction before generalizing relay with
  | nil => rfl
  | cons step before ih => exact ih _

theorem runRespects_append (relay : SourceClosureSpoolRelay)
    (before after : List (RelayCall × SystemAnswers)) :
    RunRespects hash unicode relay (before ++ after) ↔
      RunRespects hash unicode relay before ∧
        RunRespects hash unicode (relayAfter hash unicode relay before) after := by
  induction before generalizing relay with
  | nil => exact (iff_of_eq (true_and _)).symm
  | cons step before ih =>
      rw [List.cons_append, RunRespects, RunRespects, ih, and_assoc]
      rfl

theorem relayAfter_holds {relay : SourceClosureSpoolRelay} (hrelay : RelayHolds relay)
    (calls : List (RelayCall × SystemAnswers)) :
    RelayHolds (relayAfter hash unicode relay calls) := by
  induction calls generalizing relay with
  | nil => exact hrelay
  | cons step calls ih => exact ih (after_ends hrelay step.1).holds

/-- A run of respectful calls keeps a final terminal and an observed cancellation. -/
theorem relayAfter_keeps {relay : SourceClosureSpoolRelay} (hrelay : RelayHolds relay)
    {calls : List (RelayCall × SystemAnswers)} (hrun : RunRespects hash unicode relay calls) :
    (relay.terminal.Final → (relayAfter hash unicode relay calls).terminal = relay.terminal) ∧
      (relay.cancelObserved = true →
        (relayAfter hash unicode relay calls).cancelObserved = true) := by
  induction calls generalizing relay with
  | nil => exact ⟨fun _ => rfl, id⟩
  | cons step calls ih =>
      obtain ⟨hterminal, hflag⟩ := (after_keeps_iff hrelay step.1).2 hrun.1
      obtain ⟨hterminal', hflag'⟩ := ih (after_ends hrelay step.1).holds hrun.2
      refine ⟨fun hfinal => ?_, fun hobserved => hflag' (hflag hobserved)⟩
      have hsame := hterminal hfinal
      exact (hterminal' (hsame ▸ hfinal)).trans hsame

/-- Once a spool has a receipt, every receipt of a run is that one. -/
theorem receipts_eq_of_receipt {relay : SourceClosureSpoolRelay} (hrelay : RelayHolds relay)
    (hhas : relay.spool.cleanupReceipt ≠ []) (calls : List (RelayCall × SystemAnswers)) :
    ∀ receipt ∈ receipts hash unicode relay calls, receipt = relay.spool.cleanupReceipt := by
  induction calls generalizing relay with
  | nil => nofun
  | cons step calls ih =>
      have hends := @after_ends hash unicode step.2 relay hrelay step.1
      intro receipt hmem
      rcases List.mem_append.1 hmem with hfirst | hrest
      · exact (hends.receipt receipt (Option.mem_toList.1 hfirst)).1.symm.trans (hends.kept hhas)
      · have hkept := hends.kept hhas
        exact (ih hends.holds (hkept ▸ hhas) receipt hrest).trans hkept

theorem receipts_eq {relay : SourceClosureSpoolRelay} (hrelay : RelayHolds relay)
    (calls : List (RelayCall × SystemAnswers)) :
    ∀ receipt ∈ receipts hash unicode relay calls,
      ∀ other ∈ receipts hash unicode relay calls, receipt = other := by
  induction calls generalizing relay with
  | nil => nofun
  | cons step calls ih =>
      have hends := @after_ends hash unicode step.2 relay hrelay step.1
      by_cases hhas : (step.1.after hash unicode step.2 relay).spool.cleanupReceipt = []
      · -- no receipt yet, so the call has returned none
        have hnone : step.1.receipt hash step.2 relay = none := by
          by_contra hsome
          obtain ⟨bytes, hbytes⟩ := Option.ne_none_iff_exists'.1 hsome
          obtain ⟨heq, hne⟩ := hends.receipt bytes hbytes
          exact hne (heq.symm.trans hhas)
        have hsame : receipts hash unicode relay (step :: calls) =
            receipts hash unicode (step.1.after hash unicode step.2 relay) calls := by
          rw [receipts, hnone]
          rfl
        rw [hsame]
        exact ih hends.holds
      · have hall : ∀ receipt ∈ receipts hash unicode relay (step :: calls),
            receipt = (step.1.after hash unicode step.2 relay).spool.cleanupReceipt := by
          intro receipt hmem
          rcases List.mem_append.1 hmem with hfirst | hrest
          · exact (hends.receipt receipt (Option.mem_toList.1 hfirst)).1.symm
          · exact receipts_eq_of_receipt hends.holds hhas calls receipt hrest
        intro receipt hmem other hother
        exact (hall receipt hmem).trans (hall other hother).symm

/-- A relay before its first call. -/
def freshRelay (limits : SourceClosureTransportLimits) : SourceClosureSpoolRelay :=
  { spool := { limits := limits } }

theorem freshRelay_holds (limits : SourceClosureTransportLimits) :
    RelayHolds (freshRelay limits) :=
  ⟨Custody.fresh limits, False.elim⟩

/-- The terminals of a run are final: from any point of it on the terminal and an observed
    cancellation stay, a relay that has ended holds nothing, and there is one receipt. -/
structure TerminalsFinal (hash : Bytes → Bytes) (unicode : UnicodeNfc)
    (limits : SourceClosureTransportLimits) (calls : List (RelayCall × SystemAnswers)) : Prop where
  terminal : ∀ before middle rest, calls = before ++ (middle ++ rest) →
    (relayAfter hash unicode (freshRelay limits) before).terminal.Final →
      (relayAfter hash unicode (freshRelay limits) (before ++ middle)).terminal =
        (relayAfter hash unicode (freshRelay limits) before).terminal
  cancelObserved : ∀ before middle rest, calls = before ++ (middle ++ rest) →
    (relayAfter hash unicode (freshRelay limits) before).cancelObserved = true →
      (relayAfter hash unicode (freshRelay limits) (before ++ middle)).cancelObserved = true
  holdsNothing : ∀ before rest, calls = before ++ rest →
    (relayAfter hash unicode (freshRelay limits) before).terminal.Final →
      (relayAfter hash unicode (freshRelay limits) before).spool.retainedBytes = 0 ∧
        (relayAfter hash unicode (freshRelay limits) before).spool.isSealed = false
  receipt : ∀ receipt ∈ receipts hash unicode (freshRelay limits) calls,
    ∀ other ∈ receipts hash unicode (freshRelay limits) calls, receipt = other

/-- The terminals of a run are final exactly when each of its calls respects the cancellation it
    finds. -/
theorem terminalsFinal_iff (hash : Bytes → Bytes) (unicode : UnicodeNfc)
    (limits : SourceClosureTransportLimits) (calls : List (RelayCall × SystemAnswers)) :
    TerminalsFinal hash unicode limits calls ↔
      RunRespects hash unicode (freshRelay limits) calls := by
  constructor
  · intro h
    -- at each call the laws about the terminal and the flag say that it respects them
    have hsteps : ∀ rest before, calls = before ++ rest →
        RunRespects hash unicode (relayAfter hash unicode (freshRelay limits) before) rest := by
      intro rest
      induction rest with
      | nil => exact fun _ _ => trivial
      | cons step rest ih =>
          intro before hcalls
          have hnext := @relayAfter_append hash unicode (freshRelay limits) before [step]
          have hterminal := h.terminal before [step] rest hcalls
          have hflag := h.cancelObserved before [step] rest hcalls
          rw [hnext] at hterminal hflag
          refine ⟨(after_keeps_iff (relayAfter_holds (freshRelay_holds limits) before) step.1).1
            ⟨hterminal, hflag⟩, ?_⟩
          have hrest := ih (before ++ [step]) (by rw [hcalls, List.append_assoc]; rfl)
          rwa [hnext] at hrest
    exact hsteps calls [] rfl
  · intro hrun
    have hkeeps : ∀ before middle rest, calls = before ++ (middle ++ rest) →
        RunRespects hash unicode (relayAfter hash unicode (freshRelay limits) before) middle := by
      rintro before middle rest rfl
      exact ((runRespects_append _ middle rest).1 ((runRespects_append _ before _).1 hrun).2).1
    have hholds := @relayAfter_holds hash unicode _ (freshRelay_holds limits)
    refine ⟨fun before middle rest hcalls hfinal => ?_, fun before middle rest hcalls hflag => ?_,
      fun before _ _ hfinal => ?_, receipts_eq (freshRelay_holds limits) calls⟩
    · rw [relayAfter_append]
      exact (relayAfter_keeps (hholds before) (hkeeps before middle rest hcalls)).1 hfinal
    · rw [relayAfter_append]
      exact (relayAfter_keeps (hholds before) (hkeeps before middle rest hcalls)).2 hflag
    · exact (hholds before).custody.holdsNothing ((hholds before).final hfinal)

end Runs

/-- A relay that is cancelled and then loses its connection has not been cancelled. -/
theorem connectionLost_overwrites_cancelled :
    ¬ TerminalsFinal id plainUnicode {}
      [(.cancel, grantingAnswers), (.connectionLost false, grantingAnswers)] := by
  intro h
  have hcancelled : (relayAfter id plainUnicode (freshRelay {})
      [(.cancel, grantingAnswers)]).terminal = .cancelled := by
    decide_cbv
  have hholds : RelayHolds (relayAfter id plainUnicode (freshRelay {})
      [(.cancel, grantingAnswers)]) :=
    relayAfter_holds (freshRelay_holds {}) _
  -- so the second call would respect a cancelled relay
  have hrespects := (@after_keeps_iff id plainUnicode grantingAnswers _ hholds
    (.connectionLost false)).1
    ⟨h.terminal [(.cancel, grantingAnswers)] [(.connectionLost false, grantingAnswers)] [] rfl,
      h.cancelObserved [(.cancel, grantingAnswers)] [(.connectionLost false, grantingAnswers)] []
        rfl⟩
  exact hrespects.1 hcancelled

end Cxxlens.Clang22
