import Cxxlens.Clang22.SourceClosure.Spool

set_option autoImplicit false

/-! # The relay of a spool

`source_closure_spool_relay` owns a spool for one task and remembers how the task ended. -/

namespace Cxxlens.Clang22

open Sdk

/-- `source_closure_relay_terminal` -/
inductive RelayTerminal where
  | «open»
  | sealed
  | cancelled
  | cleaned
  | connectionLost
  | workerCrashed
  deriving DecidableEq, Repr

/-- `source_closure_spool_relay` -/
structure SourceClosureSpoolRelay where
  spool : SourceClosureSpool
  terminal : RelayTerminal := .open
  cancelObserved : Bool := false

namespace SourceClosureSpoolRelay

variable (hash : Bytes → Bytes) (answers : SystemAnswers) (relay : SourceClosureSpoolRelay)

/-- `mark_sealed` -/
def markSealed : SourceClosureSpoolRelay × Result Unit :=
  if relay.terminal ≠ .open ∨ relay.spool.isSealed = false then
    (relay, .error (spoolReject "relay" "seal"))
  else ({ relay with terminal := .sealed }, .ok ())

/-- `cleanup()` of the spool, and `terminal` if it succeeds. -/
def cleanupAs (terminal : RelayTerminal) : SourceClosureSpoolRelay × Result Bytes :=
  match relay.spool.cleanup hash answers with
  | (spool, .error error) => ({ relay with spool := spool }, .error error)
  | (spool, .ok receipt) => ({ relay with spool := spool, terminal := terminal }, .ok receipt)

/-- `return spool_.cleanup()` -/
def spoolCleanup : SourceClosureSpoolRelay × Result Bytes :=
  ({ relay with spool := (relay.spool.cleanup hash answers).1 },
    (relay.spool.cleanup hash answers).2)

/-- `cleanup` -/
def cleanup : SourceClosureSpoolRelay × Result Bytes :=
  match relay.terminal with
  | .cleaned | .cancelled | .connectionLost | .workerCrashed => relay.spoolCleanup hash answers
  | .open | .sealed => relay.cleanupAs hash answers .cleaned

/-- `cancel` -/
def cancel : SourceClosureSpoolRelay × Result Bytes :=
  match relay.terminal with
  | .cleaned | .connectionLost | .workerCrashed => relay.spoolCleanup hash answers
  | .open | .sealed | .cancelled =>
    { relay with cancelObserved := true }.cleanupAs hash answers .cancelled

/-- `terminate`, for one of its two terminals; `cancelled` is not among those it respects. -/
def terminate (terminal : RelayTerminal) (cancelObserved : Bool) :
    SourceClosureSpoolRelay × Result Bytes :=
  match relay.terminal with
  | .cleaned | .connectionLost | .workerCrashed => relay.spoolCleanup hash answers
  | .open | .sealed | .cancelled =>
    { relay with cancelObserved := cancelObserved }.cleanupAs hash answers terminal

/-- `connection_lost` -/
def connectionLost (cancelObserved : Bool) : SourceClosureSpoolRelay × Result Bytes :=
  relay.terminate hash answers .connectionLost cancelObserved

/-- `worker_crashed` -/
def workerCrashed (cancelObserved : Bool) : SourceClosureSpoolRelay × Result Bytes :=
  relay.terminate hash answers .workerCrashed cancelObserved

end SourceClosureSpoolRelay

/-! ## Any call -/

/-- A call of a relay, or of its spool through `sink`. -/
inductive RelayCall where
  | sink (call : SpoolCall)
  | markSealed
  | cancel
  | cleanup
  | connectionLost (cancelObserved : Bool)
  | workerCrashed (cancelObserved : Bool)

section Calls

variable (hash : Bytes → Bytes) (unicode : UnicodeNfc)

/-- The relay after a call. -/
def RelayCall.after (answers : SystemAnswers) (relay : SourceClosureSpoolRelay) :
    RelayCall → SourceClosureSpoolRelay
  | .sink call => { relay with spool := call.after hash unicode answers relay.spool }
  | .markSealed => relay.markSealed.1
  | .cancel => (relay.cancel hash answers).1
  | .cleanup => (relay.cleanup hash answers).1
  | .connectionLost cancelObserved => (relay.connectionLost hash answers cancelObserved).1
  | .workerCrashed cancelObserved => (relay.workerCrashed hash answers cancelObserved).1

/-- The receipt a call returns, if it is a terminating one and succeeds. -/
def RelayCall.receipt (answers : SystemAnswers) (relay : SourceClosureSpoolRelay) :
    RelayCall → Option Bytes
  | .sink .cleanup => (relay.spool.cleanup hash answers).2.toOption
  | .sink _ | .markSealed => none
  | .cancel => (relay.cancel hash answers).2.toOption
  | .cleanup => (relay.cleanup hash answers).2.toOption
  | .connectionLost cancelObserved =>
    (relay.connectionLost hash answers cancelObserved).2.toOption
  | .workerCrashed cancelObserved =>
    (relay.workerCrashed hash answers cancelObserved).2.toOption

/-- The relay after some calls. -/
def relayAfter (relay : SourceClosureSpoolRelay) :
    List (RelayCall × SystemAnswers) → SourceClosureSpoolRelay
  | [] => relay
  | (call, answers) :: rest => relayAfter (call.after hash unicode answers relay) rest

/-- The receipts that some calls return. -/
def receipts (relay : SourceClosureSpoolRelay) :
    List (RelayCall × SystemAnswers) → List Bytes
  | [] => []
  | (call, answers) :: rest =>
    (call.receipt hash answers relay).toList ++ receipts (call.after hash unicode answers relay) rest

end Calls

end Cxxlens.Clang22
