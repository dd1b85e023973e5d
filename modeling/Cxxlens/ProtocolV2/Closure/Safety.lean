import Cxxlens.ProtocolV2.Closure.Grammar
import Cxxlens.ProtocolV2.Closure.Interleaving

set_option autoImplicit false

/-! # What a prepared acknowledgement can do

In a run where every commit is timely the next call is safe: only a current acknowledgement changes a
transfer, and only once. A generation has 64 bits, so a commit that waits for `2 ^ 64` changes of its
transfer is not safe, and the run at the end shows it. -/

namespace Cxxlens.ProtocolV2.Closure

open Sdk (Error Result)
open Fallible

/-! ## Safety -/

/-- The calls that work on acknowledgements only. -/
def Operation.Quiet : Operation → Prop
  | .prepareAcknowledgement .. | .abort _ | .moveAck .. => True
  | _ => False

/-- The call assigns another transfer to the one at this address. -/
def Operation.Overwrites (self : Nat) : Operation → Prop
  | .moveAssign _ target _ => target = self
  | _ => False

/-- What the next call on a world can do. -/
structure World.Safe (layout : Layout) (world : World) : Prop where
  /-- A call that fails changes nothing. -/
  failing : ∀ operation error, (world.step layout operation).2 = some error →
    (world.step layout operation).1 = world
  /-- Preparing, aborting or moving an acknowledgement changes no transfer. -/
  quiet : ∀ operation : Operation, operation.Quiet →
    (world.step layout operation).1.transfers = world.transfers
  /-- A commit changes a transfer exactly when the acknowledgement is current, and then it enters the
      state that was prepared from the very same transfer. -/
  commits : ∀ self ack, (Operation.commitAcknowledgement self ack).Timely world →
    ((world.step layout (.commitAcknowledgement self ack)).1.transfers ≠ world.transfers ↔
      world.Current self ack) ∧
    (world.Current self ack → ∃ value, world.acks ack = some value ∧
      world.transfers self = some value.origin ∧ value.id ∉ world.committed ∧
      (world.step layout (.commitAcknowledgement self ack)).1 = world.committedWorld self ack value)
  /-- No acknowledgement is committed twice. -/
  once : world.committed.Nodup
  /-- A transfer that has ended keeps its state until another one is assigned to it. -/
  terminal : ∀ self transfer, world.transfers self = some transfer →
    transfer.state.phase.Terminal → ∀ operation : Operation, operation.Timely world →
    ¬ operation.Overwrites self → ∃ transfer',
      (world.step layout operation).1.transfers self = some transfer' ∧
      transfer'.state = transfer.state
  /-- Every accepted control carries the digests of the session. -/
  bound : ∀ self transfer, world.transfers self = some transfer →
    ∀ view ∈ world.histories self, BoundTo transfer.session view

theorem step_failing (layout : Layout) (world : World) (operation : Operation) (error : Error)
    (h : (world.step layout operation).2 = some error) :
    (world.step layout operation).1 = world := by
  unfold World.step at h ⊢
  cases operation with
  | create self session =>
      dsimp only at h ⊢
      split at h <;> first | rfl | exact absurd h (by simp)
  | accept self value capacities =>
      dsimp only at h ⊢
      split at h
      · rfl
      · split at h
        · rfl
        · exact absurd h (by simp)
  | acceptDecoded self value token =>
      dsimp only at h ⊢
      split at h
      · rfl
      · split at h
        · rfl
        · exact absurd h (by simp)
  | prepareAcknowledgement self ack value sequence controlCapacity wireCapacity =>
      dsimp only at h ⊢
      split at h
      · split at h
        · rfl
        · exact absurd h (by simp)
      · rfl
  | abort ack =>
      dsimp only at h
      split at h <;> exact absurd h (by simp)
  | commitAcknowledgement self ack =>
      dsimp only at h
      split at h <;> exact absurd h (by simp)
  | moveConstruct source target leftover =>
      dsimp only at h
      split at h <;> exact absurd h (by simp)
  | moveAssign source target leftover =>
      dsimp only at h
      split at h
      · exact absurd h (by simp)
      · split at h <;> exact absurd h (by simp)
  | moveAck source target =>
      dsimp only at h
      split at h
      · exact absurd h (by simp)
      · split at h <;> exact absurd h (by simp)

theorem step_quiet (layout : Layout) (world : World) {operation : Operation}
    (h : operation.Quiet) : (world.step layout operation).1.transfers = world.transfers := by
  unfold World.step
  cases operation with
  | prepareAcknowledgement self ack value sequence controlCapacity wireCapacity =>
      dsimp only
      split
      · split <;> rfl
      · rfl
  | abort ack =>
      dsimp only
      split <;> rfl
  | moveAck source target =>
      dsimp only
      split
      · rfl
      · split <;> rfl
  | create | accept | acceptDecoded | commitAcknowledgement | moveConstruct | moveAssign =>
      exact absurd h id

theorem step_commits {world : World} (h : world.Invariant) (layout : Layout) (self ack : Nat)
    (htimely : (Operation.commitAcknowledgement self ack).Timely world) :
    (world.Current self ack → ∃ value, world.acks ack = some value ∧
      world.transfers self = some value.origin ∧ value.id ∉ world.committed ∧
      (world.step layout (.commitAcknowledgement self ack)).1 =
        world.committedWorld self ack value) ∧
    (¬ world.Current self ack →
      (world.step layout (.commitAcknowledgement self ack)).1 = world) := by
  unfold World.step
  dsimp only
  constructor
  · intro hcurrent
    obtain ⟨value, transfer, hvalue, htransfer, hconsumed, -⟩ := id hcurrent
    obtain ⟨heq, hworld⟩ := (h.commit_eq htransfer hvalue (htimely value hvalue)).1 hcurrent
    refine ⟨value, hvalue, heq ▸ htransfer, (h.waiting ack value hvalue hconsumed).uncommitted, ?_⟩
    rw [htransfer, hvalue]
    exact hworld
  · intro hstale
    split
    · rename_i transfer value htransfer hvalue
      exact (h.commit_eq htransfer hvalue (htimely value hvalue)).2 hstale
    · rfl

theorem step_terminal {world : World} (h : world.Invariant) (layout : Layout) {self : Nat}
    {transfer : ClosureTransfer} (htransfer : world.transfers self = some transfer)
    (hterminal : transfer.state.phase.Terminal) {operation : Operation}
    (htimely : operation.Timely world) (hkeeps : ¬ operation.Overwrites self) :
    ∃ transfer', (world.step layout operation).1.transfers self = some transfer' ∧
      transfer'.state = transfer.state := by
  have hself : ∃ transfer', world.transfers self = some transfer' ∧
      transfer'.state = transfer.state := ⟨transfer, htransfer, rfl⟩
  -- a change at another address
  have hother : ∀ {other : Nat} (found : ClosureTransfer), self ≠ other →
      ∃ transfer', Function.update world.transfers other (some found) self = some transfer' ∧
        transfer'.state = transfer.state := by
    intro other found hne
    exact ⟨transfer, (Function.update_of_ne hne _ _).trans htransfer, rfl⟩
  cases operation with
  | create other session =>
      unfold World.step
      dsimp only
      split
      · rename_i found hnone _
        refine hother found ?_
        rintro rfl
        exact absurd (htransfer.symm.trans hnone) (by simp)
      · exact hself
      · exact hself
  | accept other value capacities =>
      unfold World.step
      dsimp only
      split
      · exact hself
      · rename_i found hfound
        split
        · exact hself
        · rename_i found' haccept
          refine hother found' ?_
          rintro rfl
          obtain rfl := Option.some.inj (htransfer.symm.trans hfound)
          obtain ⟨view, next, -, -, haccepts, -⟩ := accept_eq_ok haccept
          exact haccepts.not_terminal hterminal
  | acceptDecoded other value token =>
      unfold World.step
      dsimp only
      split
      · exact hself
      · rename_i found hfound
        split
        · exact hself
        · rename_i found' haccept
          refine hother found' ?_
          rintro rfl
          obtain rfl := Option.some.inj (htransfer.symm.trans hfound)
          obtain ⟨next, -, haccepts, -⟩ := acceptDecoded_eq_ok haccept
          exact haccepts.not_terminal hterminal
  | prepareAcknowledgement self' ack value sequence controlCapacity wireCapacity =>
      have hquiet : Operation.Quiet (.prepareAcknowledgement self' ack value sequence
        controlCapacity wireCapacity) := trivial
      rw [step_quiet layout world hquiet]
      exact hself
  | abort ack =>
      have hquiet : Operation.Quiet (.abort ack) := trivial
      rw [step_quiet layout world hquiet]
      exact hself
  | moveAck source target =>
      have hquiet : Operation.Quiet (.moveAck source target) := trivial
      rw [step_quiet layout world hquiet]
      exact hself
  | commitAcknowledgement other ack =>
      obtain ⟨heffect, hstale⟩ := step_commits h layout other ack htimely
      by_cases hcurrent : world.Current other ack
      · obtain ⟨value, hvalue, horigin, -, hworld⟩ := heffect hcurrent
        rw [hworld]
        refine hother _ ?_
        rintro rfl
        obtain ⟨value', -, hvalue', -, hconsumed, -⟩ := hcurrent
        obtain rfl := Option.some.inj (hvalue.symm.trans hvalue')
        obtain rfl := Option.some.inj (htransfer.symm.trans horigin)
        have hsealed := (h.waiting ack value hvalue hconsumed).sealed
        rw [hsealed] at hterminal
        exact hterminal.elim (by decide) (by decide)
      · rw [hstale hcurrent]
        exact hself
  | moveConstruct source target leftover =>
      unfold World.step
      dsimp only
      split
      · rename_i found hsource hnone
        have hne : self ≠ target := by
          rintro rfl
          exact absurd (htransfer.symm.trans hnone) (by simp)
        by_cases heq : self = source
        · subst heq
          obtain rfl := Option.some.inj (htransfer.symm.trans hsource)
          exact ⟨_, Function.update_self .., rfl⟩
        · refine ⟨transfer, ?_, rfl⟩
          exact (Function.update_of_ne heq _ _).trans
            ((Function.update_of_ne hne _ _).trans htransfer)
      · exact hself
  | moveAssign source target leftover =>
      unfold World.step
      dsimp only
      split
      · exact hself
      · split
        · rename_i found replaced hsource htarget
          have hne : self ≠ target := fun heq => hkeeps heq.symm
          by_cases heq : self = source
          · subst heq
            obtain rfl := Option.some.inj (htransfer.symm.trans hsource)
            exact ⟨_, Function.update_self .., rfl⟩
          · refine ⟨transfer, ?_, rfl⟩
            exact (Function.update_of_ne heq _ _).trans
              ((Function.update_of_ne hne _ _).trans htransfer)
        · exact hself

/-- **However calls interleave**, as long as fewer than `2 ^ 64` changes of a transfer lie between
    the preparation of an acknowledgement and its commit. -/
theorem run_safe (layout : Layout) (operations : List Operation)
    (htimely : World.TimelyRun layout {} operations) :
    World.Safe layout (World.run layout {} operations) := by
  have h := invariant_empty.run layout htimely
  refine ⟨step_failing layout _, fun operation => step_quiet layout _, ?_, h.once, ?_, h.bound⟩
  · intro self ack hcommit
    obtain ⟨heffect, hstale⟩ := step_commits h layout self ack hcommit
    refine ⟨?_, heffect⟩
    constructor
    · intro hchanged
      by_contra hcurrent
      exact hchanged (congrArg World.transfers (hstale hcurrent))
    · intro hcurrent heq
      obtain ⟨value, hvalue, horigin, -, hworld⟩ := heffect hcurrent
      obtain ⟨value', -, hvalue', -, hconsumed, -⟩ := hcurrent
      obtain rfl := Option.some.inj (hvalue.symm.trans hvalue')
      have hwaiting := h.waiting ack value hvalue hconsumed
      rw [hworld] at heq
      have hsame := congrFun heq self
      change Function.update (World.run layout {} operations).transfers self
        (some (value.origin.enter value.transition.next)) self = _ at hsame
      rw [Function.update_self, horigin] at hsame
      -- the phase alone has changed
      have hphase := congrArg (fun transfer => transfer.state.phase) (Option.some.inj hsame)
      change value.transition.next.phase = value.origin.state.phase at hphase
      rw [hwaiting.next, hwaiting.sealed] at hphase
      exact absurd hphase (by decide)
  · intro self transfer htransfer hterminal operation hoperation hkeeps
    exact step_terminal h layout htransfer hterminal hoperation hkeeps

/-! ## Short runs -/

theorem update_succ_le (changes : Nat → Nat) (self other : Nat) :
    Function.update changes self (changes self + 1) other ≤ changes other + 1 := by
  by_cases heq : other = self
  · subst heq
    exact (Function.update_self ..).le
  · rw [Function.update_of_ne heq]
    exact Nat.le_succ _

/-- A call changes the transfer at an address at most twice. -/
theorem step_changes_le (layout : Layout) (world : World) (operation : Operation) (self : Nat) :
    (world.step layout operation).1.changes self ≤ world.changes self + 2 := by
  have hsame : world.changes self ≤ world.changes self + 2 := Nat.le_add_right _ _
  have hone : ∀ (other : Nat) (transfer : ClosureTransfer) (history : List ClosureControlView),
      (world.change other transfer history).changes self ≤ world.changes self + 2 := by
    intro other transfer history
    exact (update_succ_le world.changes other self).trans (Nat.le_succ _)
  have htwo : ∀ (target source : Nat) (found left : ClosureTransfer)
      (history : List ClosureControlView),
      ((world.change target found history).change source left []).changes self ≤
        world.changes self + 2 := by
    intro target source found left history
    have hfirst := update_succ_le world.changes target self
    exact (update_succ_le _ source self).trans (Nat.add_le_add_right hfirst 1)
  unfold World.step
  cases operation with
  | create other session =>
      dsimp only
      split
      · exact hone _ _ _
      · exact hsame
      · exact hsame
  | accept other value capacities =>
      dsimp only
      split
      · exact hsame
      · split
        · exact hsame
        · exact hone _ _ _
  | acceptDecoded other value token =>
      dsimp only
      split
      · exact hsame
      · split
        · exact hsame
        · exact hone _ _ _
  | prepareAcknowledgement other ack value sequence controlCapacity wireCapacity =>
      dsimp only
      split
      · split
        · exact hsame
        · exact hsame
      · exact hsame
  | abort ack =>
      dsimp only
      split
      · exact hsame
      · exact hsame
  | commitAcknowledgement other ack =>
      dsimp only
      split
      · rename_i transfer value _ _
        unfold World.commit
        dsimp only
        split
        · exact (update_succ_le world.changes other self).trans (Nat.le_succ _)
        · exact hsame
      · exact hsame
  | moveConstruct source target leftover =>
      dsimp only
      split
      · exact htwo _ _ _ _ _
      · exact hsame
  | moveAssign source target leftover =>
      dsimp only
      split
      · exact hsame
      · split
        · exact htwo _ _ _ _ _
        · exact hsame
  | moveAck source target =>
      dsimp only
      split
      · exact hsame
      · split
        · exact hsame
        · exact hsame

theorem timelyRun_of_changes (layout : Layout) {world : World} {operations : List Operation}
    (h : ∀ self, world.changes self + 2 * operations.length < 2 ^ 64) :
    world.TimelyRun layout operations := by
  induction operations generalizing world with
  | nil => trivial
  | cons operation rest ih =>
      have hlength : (operation :: rest).length = rest.length + 1 := rfl
      refine ⟨?_, ih fun self => ?_⟩
      · cases operation with
        | commitAcknowledgement self ack =>
            intro value _
            have hself := h self
            omega
        | _ => trivial
      · have hself := h self
        have hstep := step_changes_le layout world operation self
        omega

/-- In a run of fewer than `2 ^ 63` calls every commit is timely. -/
theorem timelyRun_of_length (layout : Layout) {operations : List Operation}
    (h : operations.length < 2 ^ 63) : World.TimelyRun layout {} operations := by
  refine timelyRun_of_changes layout fun self => ?_
  show 0 + 2 * operations.length < 2 ^ 64
  omega

def sampleAck : SourceClosureAck where
  sessionId := ascii "s"
  taskId := ascii "t"
  closureDigest := sampleDigest 0x33
  transferDigest := sampleDigest 0x36
  spoolReceipt := ascii "r"
  cleanupOwner := ascii "c"

/-- `accept` of these frames at one address. -/
def acceptAll (self : Nat) (frames : List (Frame × FrameCapacities)) : List Operation :=
  frames.map fun (value, capacities) => .accept self value capacities

def samplePrepare : Operation :=
  .prepareAcknowledgement 0 0 sampleAck 2 600 1200

theorem run_safe_sample :
    World.Safe sampleLayout (World.run sampleLayout {}
      (.create 0 sampleSession :: acceptAll 0 sampleFrames ++
        [samplePrepare, .commitAcknowledgement 0 0])) :=
  run_safe sampleLayout _ (timelyRun_of_length sampleLayout (by decide))

/-! ## A commit that comes too late -/

theorem run_append (layout : Layout) (world : World) (first second : List Operation) :
    world.run layout (first ++ second) = (world.run layout first).run layout second :=
  List.foldl_append ..

theorem step_create (layout : Layout) {world : World} {self : Nat} {session : ClosureSession}
    {transfer : ClosureTransfer} (hnone : world.transfers self = none)
    (hcreate : ClosureTransfer.create session = .ok transfer) :
    (world.step layout (.create self session)).1 = world.change self transfer [] := by
  unfold World.step
  dsimp only
  rw [hnone, hcreate]

theorem step_prepare (layout : Layout) {world : World} {self ack : Nat} {transfer : ClosureTransfer}
    {value : SourceClosureAck} {sequence : UInt64} {controlCapacity wireCapacity : Nat}
    {transition : PreparedAckTransition} (htransfer : world.transfers self = some transfer)
    (hnone : world.acks ack = none)
    (hprepare : transfer.prepareAcknowledgement layout self value sequence controlCapacity
      wireCapacity = .ok transition) :
    (world.step layout (.prepareAcknowledgement self ack value sequence controlCapacity
        wireCapacity)).1 =
      { world.setAck ack
          { transition, id := world.prepared, value, origin := transfer,
            changes := world.changes self } with
        prepared := world.prepared + 1 } := by
  unfold World.step
  dsimp only
  rw [htransfer, hnone]
  dsimp only
  rw [hprepare]

theorem step_moveAssign (layout : Layout) {world : World} {source target : Nat}
    {transfer replaced : ClosureTransfer} (leftover : ClosureSession) (hne : source ≠ target)
    (hsource : world.transfers source = some transfer)
    (htarget : world.transfers target = some replaced) :
    (world.step layout (.moveAssign source target leftover)).1 =
      (world.change target (replaced.moveAssign transfer) (world.histories source)).change source
        (transfer.movedFrom leftover) [] := by
  unfold World.step
  dsimp only
  rw [if_neg hne, hsource, htarget]

/-- A run of `accept` in the world is a run of the transfer. -/
theorem run_acceptAll (layout : Layout) {world : World} {self : Nat} {transfer : ClosureTransfer}
    (htransfer : world.transfers self = some transfer) (frames : List (Frame × FrameCapacities)) :
    (world.run layout (acceptAll self frames)).transfers =
        Function.update world.transfers self (some (transfer.run layout frames).1) ∧
      (world.run layout (acceptAll self frames)).acks = world.acks := by
  induction frames generalizing world transfer with
  | nil =>
      refine ⟨?_, rfl⟩
      rw [ClosureTransfer.run, ← htransfer, Function.update_eq_self]
      rfl
  | cons head rest ih =>
      obtain ⟨value, capacities⟩ := head
      rw [ClosureTransfer.run]
      show (World.run layout (world.step layout (.accept self value capacities)).1
        (acceptAll self rest)).transfers = _ ∧ (World.run layout
          (world.step layout (.accept self value capacities)).1 (acceptAll self rest)).acks = _
      rcases haccept : transfer.accept layout value capacities with error | transfer'
      · have hstep : (world.step layout (.accept self value capacities)).1 = world := by
          unfold World.step
          dsimp only
          rw [htransfer]
          dsimp only
          rw [haccept]
        rw [hstep]
        exact ih htransfer
      · have hstep : (world.step layout (.accept self value capacities)).1 =
            world.change self transfer' (world.histories self ++
              (frameControl transfer.session.limits value).toList) := by
          unfold World.step
          dsimp only
          rw [htransfer]
          dsimp only
          rw [haccept]
        rw [hstep]
        have hupdated : (world.change self transfer' (world.histories self ++
            (frameControl transfer.session.limits value).toList)).transfers self =
            some transfer' := Function.update_self ..
        obtain ⟨htransfers, hacks⟩ := ih hupdated
        refine ⟨?_, hacks⟩
        rw [htransfers]
        exact Function.update_idem ..

/-- A transfer moves from 0 to 1 and back. -/
def thereAndBack : List Operation :=
  [.moveAssign 0 1 sampleSession, .moveAssign 1 0 sampleSession]

/-- The world in which a transfer waits at 0, next to a prepared acknowledgement. -/
structure World.Parked (world : World) (transfer : ClosureTransfer) (value : PreparedAck)
    (changes : Nat) : Prop where
  here : world.transfers 0 = some transfer
  there : ∃ other, world.transfers 1 = some other
  ack : world.acks 0 = some value
  changes : world.changes 0 = changes

theorem World.Parked.roundTrip {world : World} {transfer : ClosureTransfer} {value : PreparedAck}
    {changes : Nat} (h : world.Parked transfer value changes) (layout : Layout) :
    (world.run layout thereAndBack).Parked
      { transfer with generation := transfer.generation + 2 } value (changes + 2) := by
  obtain ⟨hhere, ⟨other, hthere⟩, hack, hchanges⟩ := h
  have haway := step_moveAssign layout sampleSession (by decide) hhere hthere
  set away := (world.change 1 (other.moveAssign transfer) (world.histories 0)).change 0
    (transfer.movedFrom sampleSession) [] with hworld
  have hback : (away.step layout (.moveAssign 1 0 sampleSession)).1 =
      (away.change 0 ((transfer.movedFrom sampleSession).moveAssign (other.moveAssign transfer))
        (away.histories 1)).change 1 ((other.moveAssign transfer).movedFrom sampleSession) [] := by
    refine step_moveAssign layout sampleSession (by decide) ?_ ?_
    · rw [hworld]
      rfl
    · rw [hworld]
      rfl
  show ((world.step layout (.moveAssign 0 1 sampleSession)).1.step layout
    (.moveAssign 1 0 sampleSession)).1.Parked _ _ _
  rw [haway, hback, hworld]
  refine ⟨?_, ⟨_, rfl⟩, hack, ?_⟩
  · show some (ClosureTransfer.mk transfer.session transfer.state (transfer.generation + 1 + 1)
      transfer.active) = _
    rw [UInt64.add_assoc]
    rfl
  · show world.changes 0 + 1 + 1 = changes + 2
    rw [hchanges]

/-- Each round trip raises the generation by two. -/
theorem World.Parked.roundTrips {world : World} {transfer : ClosureTransfer} {value : PreparedAck}
    {changes : Nat} (h : world.Parked transfer value changes) (layout : Layout) (count : Nat) :
    (world.run layout (List.replicate count thereAndBack).flatten).Parked
      { transfer with generation := transfer.generation + UInt64.ofNat (2 * count) } value
      (changes + 2 * count) := by
  induction count generalizing world transfer changes with
  | zero =>
      have hsame : transfer.generation + UInt64.ofNat (2 * 0) = transfer.generation :=
        UInt64.add_zero _
      rw [hsame]
      exact h
  | succ count ih =>
      rw [List.replicate_succ, List.flatten_cons, run_append]
      have hrest := ih (h.roundTrip layout)
      have hgeneration : transfer.generation + UInt64.ofNat (2 * (count + 1)) =
          transfer.generation + 2 + UInt64.ofNat (2 * count) := by
        rw [Nat.mul_succ, Nat.add_comm (2 * count), UInt64.ofNat_add, UInt64.add_assoc]
        rfl
      have hmore : changes + 2 * (count + 1) = changes + 2 + 2 * count := by omega
      rw [hgeneration, hmore]
      exact hrest

/-- The acknowledgement is prepared, its transfer moves away, another one moves in, and keeps
    moving. -/
def lateOperations (count : Nat) : List Operation :=
  [samplePrepare, .moveAssign 0 2 sampleSession, .moveAssign 1 0 sampleSession] ++
    (List.replicate count thereAndBack).flatten

/-- Equal generations and a sealed transfer are enough for a commit. -/
theorem step_commit (layout : Layout) {world : World} {self ack : Nat} {transfer : ClosureTransfer}
    {value : PreparedAck} (htransfer : world.transfers self = some transfer)
    (hvalue : world.acks ack = some value) (hactive : transfer.active = true)
    (howner : value.transition.owner = some self) (hconsumed : value.transition.consumed = false)
    (hgeneration : value.transition.generation = transfer.generation)
    (hsealed : transfer.state.phase = .closureSealed)
    (hnext : value.transition.next.phase = .acknowledged) :
    (world.step layout (.commitAcknowledgement self ack)).1.transfers self =
      some (transfer.enter value.transition.next) := by
  have hguard : ¬ (transfer.active = false ∨ value.transition.owner ≠ some self ∨
      value.transition.consumed = true ∨ value.transition.generation ≠ transfer.generation ∨
      transfer.state.phase ≠ .closureSealed ∨ value.transition.next.phase ≠ .acknowledged) := by
    simp [hactive, howner, hconsumed, hgeneration, hsealed, hnext]
  unfold World.step
  dsimp only
  rw [htransfer, hvalue]
  dsimp only
  unfold World.commit ClosureTransfer.commitAcknowledgement
  rw [if_neg hguard]
  dsimp only
  rw [if_pos ⟨hconsumed, rfl⟩]
  exact Function.update_self ..

theorem commit_late {layout : Layout} {count : Nat} (hcount : 2 + 2 * count = 2 ^ 64)
    {world : World} {first second third : ClosureTransfer} {transition : PreparedAckTransition} (hfirst : world.transfers 0 = some first)
    (hsecond : world.transfers 1 = some second) (hthird : world.transfers 2 = some third)
    (hnone : world.acks 0 = none)
    (hprepare : first.prepareAcknowledgement layout 0 sampleAck 2 600 1200 = .ok transition)
    (hactive : second.active = true) (hsealed : second.state.phase = .closureSealed) :
    (∃ value transfer, (world.run layout (lateOperations count)).acks 0 = some value ∧
      value.origin = first ∧ (world.run layout (lateOperations count)).transfers 0 = some transfer ∧
      transfer.session = second.session) ∧
    ¬ (world.run layout (lateOperations count)).Current 0 0 ∧
    ((world.run layout (lateOperations count)).step layout (.commitAcknowledgement 0 0)).1.transfers ≠
      (world.run layout (lateOperations count)).transfers := by
  obtain ⟨-, howner, hgeneration, hconsumed, frame, haccepts⟩ := prepareAcknowledgement_eq_ok hprepare
  -- the first three calls
  have hprepared := step_prepare layout hfirst hnone hprepare
  set value : PreparedAck :=
    { transition, id := world.prepared, value := sampleAck, origin := first,
      changes := world.changes 0 } with hvalue
  set prepared : World := { world.setAck 0 value with prepared := world.prepared + 1 } with hworld
  have haway : (prepared.step layout (.moveAssign 0 2 sampleSession)).1 =
      (prepared.change 2 (third.moveAssign first) (prepared.histories 0)).change 0
        (first.movedFrom sampleSession) [] :=
    step_moveAssign layout sampleSession (by decide) hfirst hthird
  set away := (prepared.change 2 (third.moveAssign first) (prepared.histories 0)).change 0
    (first.movedFrom sampleSession) [] with hawayWorld
  have hin : (away.step layout (.moveAssign 1 0 sampleSession)).1 =
      (away.change 0 ((first.movedFrom sampleSession).moveAssign second) (away.histories 1)).change 1
        (second.movedFrom sampleSession) [] := by
    refine step_moveAssign layout sampleSession (by decide) ?_ ?_
    · rw [hawayWorld]
      exact hsecond
    · rw [hawayWorld]
      rfl
  -- the second transfer is parked at the address of the first
  have hparked : (world.run layout
      [samplePrepare, .moveAssign 0 2 sampleSession, .moveAssign 1 0 sampleSession]).Parked
        ((first.movedFrom sampleSession).moveAssign second) value (world.changes 0 + 2) := by
    show (((world.step layout samplePrepare).1.step layout (.moveAssign 0 2 sampleSession)).1.step
      layout (.moveAssign 1 0 sampleSession)).1.Parked _ _ _
    rw [samplePrepare, hprepared, haway, hin, hawayWorld]
    exact ⟨rfl, ⟨_, rfl⟩, rfl, rfl⟩
  obtain ⟨hhere, -, hack, hchanges⟩ := hparked.roundTrips layout count
  rw [← run_append, ← lateOperations] at hhere hack hchanges
  -- one generation for each of the `2 ^ 64` changes
  have hequal : ((first.movedFrom sampleSession).moveAssign second).generation +
      UInt64.ofNat (2 * count) = first.generation := by
    show first.generation + 1 + 1 + UInt64.ofNat (2 * count) = first.generation
    rw [UInt64.add_assoc, UInt64.add_assoc]
    have hzero : UInt64.ofNat (2 + 2 * count) = 0 := by
      rw [hcount]
      rfl
    rw [UInt64.ofNat_add] at hzero
    rw [← UInt64.add_assoc 1 1]
    exact (congrArg (first.generation + ·) hzero).trans (UInt64.add_zero _)
  rw [hequal] at hhere
  refine ⟨⟨value, _, hack, rfl, hhere, rfl⟩, ?_, ?_⟩
  · intro hcurrent
    obtain ⟨value', -, hvalue', -, -, -, -, hsame⟩ := hcurrent
    obtain rfl := Option.some.inj (hack.symm.trans hvalue')
    rw [hchanges, hvalue] at hsame
    have hfewer : world.changes 0 + 2 + 2 * count ≠ world.changes 0 := by omega
    exact hfewer hsame
  · intro hquiet
    have hself := congrFun hquiet 0
    rw [step_commit layout hhere hack hactive howner hconsumed hgeneration hsealed
      haccepts.acknowledged, hhere] at hself
    -- the phase alone has changed
    have hphase := congrArg (fun transfer => transfer.state.phase) (Option.some.inj hself)
    change transition.next.phase = second.state.phase at hphase
    rw [haccepts.acknowledged, hsealed] at hphase
    exact absurd hphase (by decide)

/-- Another session with the same frames. -/
def otherSession : ClosureSession :=
  { sampleSession with initialCredit := ⟨4096, 8⟩ }

def otherTransfer : ClosureTransfer where
  session := otherSession
  state := { sequence := { }, credit := ⟨otherSession.initialCredit⟩ }

theorem run_session (layout : Layout) (transfer : ClosureTransfer)
    (frames : List (Frame × FrameCapacities)) :
    (transfer.run layout frames).1.session = transfer.session ∧
      (transfer.run layout frames).1.active = transfer.active := by
  induction frames generalizing transfer with
  | nil => exact ⟨rfl, rfl⟩
  | cons head rest ih =>
      obtain ⟨value, capacities⟩ := head
      rw [ClosureTransfer.run]
      rcases haccept : transfer.accept layout value capacities with error | transfer'
      · exact ih transfer
      · obtain ⟨view, next, -, -, -, rfl⟩ := accept_eq_ok haccept
        exact ih (transfer.enter next)

/-- A new transfer accepts some frames, and the others stay as they are. -/
theorem run_create (layout : Layout) {world : World} {self : Nat} {session : ClosureSession}
    {transfer : ClosureTransfer} (hnone : world.transfers self = none)
    (hcreate : ClosureTransfer.create session = .ok transfer)
    (frames : List (Frame × FrameCapacities)) :
    (world.run layout (.create self session :: acceptAll self frames)).transfers =
        Function.update world.transfers self (some (transfer.run layout frames).1) ∧
      (world.run layout (.create self session :: acceptAll self frames)).acks = world.acks := by
  show (World.run layout (world.step layout (.create self session)).1
    (acceptAll self frames)).transfers = _ ∧ (World.run layout
      (world.step layout (.create self session)).1 (acceptAll self frames)).acks = _
  rw [step_create layout hnone hcreate]
  have hself : (world.change self transfer []).transfers self = some transfer :=
    Function.update_self ..
  obtain ⟨htransfers, hacks⟩ := run_acceptAll layout hself frames
  refine ⟨?_, hacks⟩
  rw [htransfers]
  exact Function.update_idem ..

/-- Two sealed transfers and one that has just started, and the operations on the first address. -/
def staleOperations : List Operation :=
  (.create 0 sampleSession :: acceptAll 0 sampleFrames) ++
    ((.create 1 otherSession :: acceptAll 1 sampleFrames) ++
      ((.create 2 sampleSession :: acceptAll 2 []) ++ lateOperations (2 ^ 63 - 1)))

/-- After `2 ^ 64` changes a prepared acknowledgement overwrites the state of another session. -/
theorem staleAcknowledgement_commits :
    (∃ value transfer, (World.run sampleLayout {} staleOperations).acks 0 = some value ∧
      value.origin.session = sampleSession ∧
      (World.run sampleLayout {} staleOperations).transfers 0 = some transfer ∧
      transfer.session = otherSession) ∧
    ¬ (World.run sampleLayout {} staleOperations).Current 0 0 ∧
    ((World.run sampleLayout {} staleOperations).step sampleLayout
        (.commitAcknowledgement 0 0)).1.transfers ≠
      (World.run sampleLayout {} staleOperations).transfers := by
  have hcreate : ClosureTransfer.create sampleSession = .ok sampleTransfer := by decide
  have hcreate' : ClosureTransfer.create otherSession = .ok otherTransfer := by decide
  have hprepare : ((sampleTransfer.run sampleLayout sampleFrames).1.prepareAcknowledgement
      sampleLayout 0 sampleAck 2 600 1200).isOk = true := by decide +kernel
  have hsealed : (otherTransfer.run sampleLayout sampleFrames).1.state.phase = .closureSealed := by
    decide +kernel
  obtain ⟨transition, htransition⟩ := exists_eq_ok_of_isOk hprepare
  obtain ⟨hsession, -⟩ := run_session sampleLayout sampleTransfer sampleFrames
  obtain ⟨hsession', hactive⟩ := run_session sampleLayout otherTransfer sampleFrames
  -- the three transfers
  have hnone : ({} : World).transfers 0 = none := rfl
  obtain ⟨hfirst, hacks⟩ := run_create sampleLayout hnone hcreate sampleFrames
  rw [staleOperations, run_append]
  set one := World.run sampleLayout {} (.create 0 sampleSession :: acceptAll 0 sampleFrames)
  have hnone' : one.transfers 1 = none := by
    rw [hfirst]
    rfl
  obtain ⟨hsecond, hacks'⟩ := run_create sampleLayout hnone' hcreate' sampleFrames
  rw [run_append]
  set two := one.run sampleLayout (.create 1 otherSession :: acceptAll 1 sampleFrames)
  have hnone'' : two.transfers 2 = none := by
    rw [hsecond, hfirst]
    rfl
  obtain ⟨hthird, hacks''⟩ := run_create sampleLayout hnone'' hcreate []
  rw [run_append]
  set three := two.run sampleLayout (.create 2 sampleSession :: acceptAll 2 [])
  have hat0 : three.transfers 0 = some (sampleTransfer.run sampleLayout sampleFrames).1 := by
    rw [hthird, hsecond, hfirst]
    rfl
  have hat1 : three.transfers 1 = some (otherTransfer.run sampleLayout sampleFrames).1 := by
    rw [hthird, hsecond]
    rfl
  have hat2 : three.transfers 2 = some (sampleTransfer.run sampleLayout []).1 := by
    rw [hthird]
    rfl
  have hfree : three.acks 0 = none := by
    rw [hacks'', hacks', hacks]
  have hcount : 2 + 2 * (2 ^ 63 - 1) = 2 ^ 64 := by norm_num
  obtain ⟨⟨value, transfer, hvalue, horigin, htransfer, howned⟩, hstale, hchanged⟩ :=
    commit_late hcount hat0 hat1 hat2 hfree htransition hactive hsealed
  refine ⟨⟨value, transfer, hvalue, ?_, htransfer, howned.trans hsession'⟩, hstale, hchanged⟩
  rw [horigin]
  exact hsession

end Cxxlens.ProtocolV2.Closure
