import Cxxlens.ProtocolV2.Closure.Steps

set_option autoImplicit false

/-! # Transfers and prepared acknowledgements together

A prepared acknowledgement is an object of its own, with the address of its transfer and a generation,
and both can be moved while it waits. `World` has the transfers and acknowledgements of a program by
address, and `World.step` is one call on them. The world also keeps what the statements about runs
speak of and no call reads: how often a transfer was changed, which controls it accepted, and what an
acknowledgement was prepared from. -/

namespace Cxxlens.ProtocolV2.Closure

open Sdk (Error Result)
open Fallible

/-! ## Bindings of a control -/

/-- The closure digest a control carries. -/
def closureDigestOf : ClosureControlView → Option Bytes
  | .manifest (.descriptor item) => some item.closureDigest
  | .blob item => some item.closureDigest
  | .sealed item => some item.closureDigest
  | .ack item => some item.closureDigest
  | .manifest (.chunk _) | .chunk _ | .reject _ => none

/-- The manifest digest a control carries. -/
def manifestDigestOf : ClosureControlView → Option Bytes
  | .manifest (.descriptor item) => some item.manifestDigest
  | .manifest (.chunk item) => some item.manifestDigest
  | .sealed item => some item.manifestDigest
  | .blob _ | .chunk _ | .ack _ | .reject _ => none

/-- The control carries the digests of the session, as far as the session has any. -/
structure BoundTo (session : ClosureSession) (view : ClosureControlView) : Prop where
  closure : session.closureDigest ≠ [] →
    ∀ digest, closureDigestOf view = some digest → digest = session.closureDigest
  manifest : session.manifestDigest ≠ [] →
    ∀ digest, manifestDigestOf view = some digest → digest = session.manifestDigest

theorem closureDigest_eq {session : ClosureSession} {sessionId taskId closureDigest : Bytes}
    (hbind : session.bindCommon sessionId taskId closureDigest = .ok ())
    (hvalid : semanticDigest closureDigest = true) (hsession : session.closureDigest ≠ []) :
    closureDigest = session.closureDigest := by
  have hdigest := ((bindCommon_eq_ok_iff _ _ _ _).1 hbind).2.2
  have hne := ne_nil_of_semanticDigest hvalid
  tauto

/-- A valid control carries a valid closure digest. -/
theorem semanticDigest_of_validateView {view : ClosureControlView} {bound : ClosureLimits}
    (hvalid : validateView view bound = .ok ()) {digest : Bytes}
    (hdigest : closureDigestOf view = some digest) : semanticDigest digest = true := by
  have hchecked : ∀ {items : List (Bytes × Bytes)} {field : Bytes},
      checkAll validSemantic items = .ok () → (field, digest) ∈ items →
      semanticDigest digest = true := by
    intro items field hitems hmem
    exact (validSemantic_eq_ok_iff _ _).1 ((checkAll_eq_ok_iff _ _).1 hitems _ hmem)
  rcases view with (item | item) | item | item | item | item | item
  · obtain rfl := Option.some.inj hdigest
    rw [validateView, validateManifestDescriptor, guard_eq_ok_iff, seq_eq_ok_iff, guard_eq_ok_iff,
      seq_eq_ok_iff] at hvalid
    exact hchecked hvalid.2.2.2.1 (List.mem_cons_of_mem _ List.mem_cons_self)
  · exact absurd hdigest (by simp [closureDigestOf])
  · obtain rfl := Option.some.inj hdigest
    rw [validateView, validateBlobDescriptor, seq_eq_ok_iff, seq_eq_ok_iff] at hvalid
    exact (validSemantic_eq_ok_iff _ _).1 hvalid.2.1
  · exact absurd hdigest (by simp [closureDigestOf])
  · obtain rfl := Option.some.inj hdigest
    rw [validateView, validateSeal, seq_eq_ok_iff, seq_eq_ok_iff] at hvalid
    have hmem : (ascii "closure_digest", item.closureDigest) ∈
        [(ascii "task_v4_digest", item.taskV4Digest), ("manifest_digest", item.manifestDigest),
          ("blob_receipts_digest", item.blobReceiptsDigest),
          ("closure_digest", item.closureDigest), ("transfer_digest", item.transferDigest)] := by
      simp
    exact hchecked hvalid.2.1 hmem
  · obtain rfl := Option.some.inj hdigest
    rw [validateView, validateAck, seq_eq_ok_iff] at hvalid
    exact hchecked hvalid.2 List.mem_cons_self
  · exact absurd hdigest (by simp [closureDigestOf])

/-- An accepted control carries the digests of its session. -/
theorem Accepts.boundTo {transfer : ClosureTransfer} {value : Frame} {view : ClosureControlView}
    {next : MutableState} (h : Accepts transfer value view next) : BoundTo transfer.session view := by
  obtain ⟨bound, hvalid⟩ := h.valid
  obtain ⟨sequence, credit, hstep⟩ := h.step
  have hsemantic : ∀ {digest : Bytes}, closureDigestOf view = some digest →
      semanticDigest digest = true := semanticDigest_of_validateView hvalid
  rcases view with (item | item) | item | item | item | item | item
  · obtain ⟨-, hbind, hmanifest, -⟩ := onManifestDescriptor_eq_ok hstep
    refine ⟨?_, ?_⟩
    · intro hsession digest hdigest
      obtain rfl := Option.some.inj hdigest
      exact closureDigest_eq hbind (hsemantic rfl) hsession
    · intro hsession digest hdigest
      obtain rfl := Option.some.inj hdigest
      exact hmanifest.resolve_left hsession
  · obtain ⟨-, -, hmanifest, -⟩ := onManifestChunk_eq_ok hstep
    refine ⟨by simp [closureDigestOf], ?_⟩
    intro hsession digest hdigest
    obtain rfl := Option.some.inj hdigest
    exact hmanifest.resolve_left hsession
  · obtain ⟨-, hbind, -⟩ := onBlobDescriptor_eq_ok hstep
    refine ⟨?_, by simp [manifestDigestOf]⟩
    intro hsession digest hdigest
    obtain rfl := Option.some.inj hdigest
    exact closureDigest_eq hbind (hsemantic rfl) hsession
  · exact ⟨by simp [closureDigestOf], by simp [manifestDigestOf]⟩
  · obtain ⟨-, -, hbind, hmanifest, -⟩ := onSeal_eq_ok hstep
    refine ⟨?_, ?_⟩
    · intro hsession digest hdigest
      obtain rfl := Option.some.inj hdigest
      exact closureDigest_eq hbind (hsemantic rfl) hsession
    · intro hsession digest hdigest
      obtain rfl := Option.some.inj hdigest
      exact hmanifest.resolve_left hsession
  · obtain ⟨-, hbind, -⟩ := onAck_eq_ok hstep
    refine ⟨?_, by simp [manifestDigestOf]⟩
    intro hsession digest hdigest
    obtain rfl := Option.some.inj hdigest
    exact closureDigest_eq hbind (hsemantic rfl) hsession
  · exact ⟨by simp [closureDigestOf], by simp [manifestDigestOf]⟩

/-! ## Terminal phases -/

/-- `acknowledged` and `rejected` -/
def ClosurePhase.Terminal (phase : ClosurePhase) : Prop :=
  phase = .acknowledged ∨ phase = .rejected

/-- No control is accepted after the end. -/
theorem Accepts.not_terminal {transfer : ClosureTransfer} {value : Frame}
    {view : ClosureControlView} {next : MutableState} (h : Accepts transfer value view next) :
    ¬ transfer.state.phase.Terminal := by
  obtain ⟨sequence, credit, hstep⟩ := h.step
  have hphase : ∀ {phase : ClosurePhase}, transfer.state.phase = phase → phase ≠ .acknowledged →
      phase ≠ .rejected → ¬ transfer.state.phase.Terminal := by
    intro phase heq hack hreject hterminal
    rw [heq] at hterminal
    exact hterminal.elim hack hreject
  rcases view with (item | item) | item | item | item | item | item
  · exact hphase (onManifestDescriptor_eq_ok hstep).1 (by decide) (by decide)
  · rcases (onManifestChunk_eq_ok hstep).1 with heq | heq
    · exact hphase heq (by decide) (by decide)
    · exact hphase heq (by decide) (by decide)
  · exact hphase (onBlobDescriptor_eq_ok hstep).1 (by decide) (by decide)
  · exact hphase (onBlobChunk_eq_ok hstep).1 (by decide) (by decide)
  · exact hphase (onSeal_eq_ok hstep).1 (by decide) (by decide)
  · exact hphase (onAck_eq_ok hstep).1 (by decide) (by decide)
  · exact hphase rfl (onReject_eq_ok hstep).1 (onReject_eq_ok hstep).2.1

/-- The state an acknowledgement leads to is the end. -/
theorem Accepts.acknowledged {transfer : ClosureTransfer} {value : Frame} {item : SourceClosureAck}
    {next : MutableState} (h : Accepts transfer value (.ack item) next) :
    next.phase = .acknowledged := by
  obtain ⟨sequence, credit, hstep⟩ := h.step
  obtain ⟨-, -, rfl⟩ := onAck_eq_ok hstep
  rfl

/-! ## The world -/

/-- A prepared acknowledgement at its address, with what it was prepared from. -/
structure PreparedAck where
  transition : PreparedAckTransition
  id : Nat
  value : SourceClosureAck
  origin : ClosureTransfer
  changes : Nat

/-- The transfers and the prepared acknowledgements, by address. -/
structure World where
  transfers : Nat → Option ClosureTransfer := fun _ => none
  acks : Nat → Option PreparedAck := fun _ => none
  /-- How often the transfer at an address has been changed. -/
  changes : Nat → Nat := fun _ => 0
  /-- The controls that the transfer at an address has accepted. -/
  histories : Nat → List ClosureControlView := fun _ => []
  /-- How many acknowledgements have been prepared. -/
  prepared : Nat := 0
  /-- The acknowledgements that have been committed. -/
  committed : List Nat := []

/-- One call. A moved-from session holds unspecified strings, which a move takes as an argument; the
    sizes of a frame and of an acknowledgement in memory are arguments as well. -/
inductive Operation where
  | create (self : Nat) (session : ClosureSession)
  | accept (self : Nat) (value : Frame) (capacities : FrameCapacities)
  | acceptDecoded (self : Nat) (value : Frame) (token : ClosureControlToken)
  | prepareAcknowledgement (self ack : Nat) (value : SourceClosureAck) (sequence : UInt64)
      (controlCapacity wireCapacity : Nat)
  | abort (ack : Nat)
  | commitAcknowledgement (self ack : Nat)
  | moveConstruct (source target : Nat) (leftover : ClosureSession)
  | moveAssign (source target : Nat) (leftover : ClosureSession)
  | moveAck (source target : Nat)

/-- A new value for the transfer at an address, and the controls it has accepted. -/
def World.change (world : World) (self : Nat) (transfer : ClosureTransfer)
    (history : List ClosureControlView) : World :=
  { world with
    transfers := Function.update world.transfers self (some transfer)
    changes := Function.update world.changes self (world.changes self + 1)
    histories := Function.update world.histories self history }

/-- A new value for the acknowledgement at an address. -/
def World.setAck (world : World) (ack : Nat) (value : PreparedAck) : World :=
  { world with acks := Function.update world.acks ack (some value) }

/-- The acknowledgement after `abort`. -/
def PreparedAck.aborted (value : PreparedAck) : PreparedAck :=
  { value with transition := value.transition.abort }

/-- `commit_acknowledgement`, where both objects exist. -/
def World.commit (world : World) (self ack : Nat) (transfer : ClosureTransfer)
    (value : PreparedAck) : World :=
  let (transfer', transition) := transfer.commitAcknowledgement self value.transition
  let world := world.setAck ack { value with transition := transition }
  if value.transition.consumed = false ∧ transition.consumed = true then
    { world.change self transfer' (world.histories self ++ [.ack value.value]) with
      committed := value.id :: world.committed }
  else world

/-- One call, and the error it returned if it failed. A call on an object that is not there is no
    call. -/
def World.step (layout : Layout) (world : World) : Operation → World × Option Error
  | .create self session =>
    match world.transfers self, ClosureTransfer.create session with
    | none, .ok transfer => (world.change self transfer [], none)
    | none, .error error => (world, some error)
    | some _, _ => (world, none)
  | .accept self value capacities =>
    match world.transfers self with
    | none => (world, none)
    | some transfer =>
      match transfer.accept layout value capacities with
      | .error error => (world, some error)
      | .ok transfer' =>
        (world.change self transfer' (world.histories self ++
          (frameControl transfer.session.limits value).toList), none)
  | .acceptDecoded self value token =>
    match world.transfers self with
    | none => (world, none)
    | some transfer =>
      match (transfer.acceptDecoded value token).1 with
      | .error error => (world, some error)
      | .ok transfer' =>
        (world.change self transfer' (world.histories self ++
          [makeControlView token.type token.control token.parsed]), none)
  | .prepareAcknowledgement self ack value sequence controlCapacity wireCapacity =>
    match world.transfers self, world.acks ack with
    | some transfer, none =>
      match transfer.prepareAcknowledgement layout self value sequence controlCapacity
          wireCapacity with
      | .error error => (world, some error)
      | .ok transition =>
        ({ world.setAck ack
            { transition, id := world.prepared, value, origin := transfer,
              changes := world.changes self } with
          prepared := world.prepared + 1 }, none)
    | _, _ => (world, none)
  | .abort ack =>
    match world.acks ack with
    | none => (world, none)
    | some value => (world.setAck ack value.aborted, none)
  | .commitAcknowledgement self ack =>
    match world.transfers self, world.acks ack with
    | some transfer, some value => (world.commit self ack transfer value, none)
    | _, _ => (world, none)
  | .moveConstruct source target leftover =>
    match world.transfers source, world.transfers target with
    | some transfer, none =>
      ((world.change target transfer.moveConstruct (world.histories source)).change source
        (transfer.movedFrom leftover) [], none)
    | _, _ => (world, none)
  | .moveAssign source target leftover =>
    if source = target then (world, none)
    else
      match world.transfers source, world.transfers target with
      | some transfer, some replaced =>
        ((world.change target (replaced.moveAssign transfer) (world.histories source)).change source
          (transfer.movedFrom leftover) [], none)
      | _, _ => (world, none)
  | .moveAck source target =>
    if source = target then (world, none)
    else
      match world.acks source with
      | none => (world, none)
      | some value => ((world.setAck target value).setAck source value.aborted, none)

/-- A run of calls. -/
def World.run (layout : Layout) (world : World) (operations : List Operation) : World :=
  operations.foldl (fun world operation => (world.step layout operation).1) world

/-- Fewer than `2 ^ 64` changes lie between the preparation of an acknowledgement and its commit, so
    that the generations in between are different. -/
def Operation.Timely (world : World) : Operation → Prop
  | .commitAcknowledgement self ack =>
    ∀ value, world.acks ack = some value → world.changes self < value.changes + 2 ^ 64
  | _ => True

/-- A run with timely commits only. -/
def World.TimelyRun (layout : Layout) : World → List Operation → Prop
  | _, [] => True
  | world, operation :: rest =>
    operation.Timely world ∧ TimelyRun layout (world.step layout operation).1 rest

/-! ## The invariant -/

/-- What holds of an acknowledgement that has not been consumed: the generation of its transfer has
    moved on by one for each change since. -/
structure PreparedAck.Waiting (world : World) (value : PreparedAck) : Prop where
  owner : ∃ self transfer, value.transition.owner = some self ∧
    world.transfers self = some transfer ∧ value.changes ≤ world.changes self ∧
    transfer.generation =
      value.transition.generation + UInt64.ofNat (world.changes self - value.changes) ∧
    (world.changes self = value.changes → transfer = value.origin)
  active : value.origin.active = true
  sealed : value.origin.state.phase = .closureSealed
  next : value.transition.next.phase = .acknowledged
  bound : BoundTo value.origin.session (.ack value.value)
  fresh : value.id < world.prepared
  uncommitted : value.id ∉ world.committed

structure World.Invariant (world : World) : Prop where
  waiting : ∀ ack value, world.acks ack = some value → value.transition.consumed = false →
    value.Waiting world
  distinct : ∀ ack other value value', world.acks ack = some value →
    world.acks other = some value' → value.transition.consumed = false →
    value'.transition.consumed = false → value.id = value'.id → ack = other
  once : world.committed.Nodup
  known : ∀ id ∈ world.committed, id < world.prepared
  bound : ∀ self transfer, world.transfers self = some transfer →
    ∀ view ∈ world.histories self, BoundTo transfer.session view

theorem invariant_empty : World.Invariant {} where
  waiting := by
    intro ack value h
    exact absurd h (by simp)
  distinct := by
    intro ack other value value' h
    exact absurd h (by simp)
  once := List.nodup_nil
  known := by simp
  bound := by
    intro self transfer h
    exact absurd h (by simp)

/-! ### Changes -/

theorem PreparedAck.Waiting.change {world : World} {value : PreparedAck} (h : value.Waiting world)
    {self : Nat} {transfer : ClosureTransfer} (history : List ClosureControlView)
    (hgeneration : ∀ old, world.transfers self = some old →
      transfer.generation = old.generation + 1) :
    value.Waiting (world.change self transfer history) := by
  obtain ⟨owner, old, howner, hold, hle, hmoved, hsame⟩ := h.owner
  refine ⟨?_, h.active, h.sealed, h.next, h.bound, h.fresh, h.uncommitted⟩
  by_cases heq : owner = self
  · -- one more change, and one more generation
    subst heq
    refine ⟨owner, transfer, howner, Function.update_self .., ?_, ?_, ?_⟩
    · show value.changes ≤ Function.update world.changes owner _ owner
      rw [Function.update_self]
      omega
    · show _ = _ + UInt64.ofNat (Function.update world.changes owner _ owner - _)
      rw [Function.update_self, hgeneration old hold, hmoved, Nat.sub_add_comm hle, UInt64.ofNat_add,
        UInt64.add_assoc]
      rfl
    · show Function.update world.changes owner _ owner = _ → _
      rw [Function.update_self]
      intro hnone
      omega
  · refine ⟨owner, old, howner, ?_, ?_, ?_, ?_⟩
    · exact (Function.update_of_ne heq _ _).trans hold
    · exact hle.trans (Function.update_of_ne heq _ _).symm.le
    · rw [hmoved]
      exact congrArg (fun changes => _ + UInt64.ofNat (changes - _))
        (Function.update_of_ne heq _ _).symm
    · intro hnone
      exact hsame ((Function.update_of_ne heq _ _).symm.trans hnone)

theorem World.Invariant.change {world : World} (h : world.Invariant) {self : Nat}
    {transfer : ClosureTransfer} {history : List ClosureControlView}
    (hgeneration : ∀ old, world.transfers self = some old →
      transfer.generation = old.generation + 1)
    (hbound : ∀ view ∈ history, BoundTo transfer.session view) :
    (world.change self transfer history).Invariant := by
  refine ⟨?_, h.distinct, h.once, h.known, ?_⟩
  · intro ack value hack hconsumed
    exact (h.waiting ack value hack hconsumed).change history hgeneration
  · intro other found hfound view hview
    by_cases heq : other = self
    · subst heq
      change Function.update world.transfers other _ other = _ at hfound
      change view ∈ Function.update world.histories other _ other at hview
      rw [Function.update_self] at hfound hview
      obtain rfl := Option.some.inj hfound
      exact hbound view hview
    · change Function.update world.transfers self _ other = _ at hfound
      change view ∈ Function.update world.histories self _ other at hview
      rw [Function.update_of_ne heq] at hfound hview
      exact h.bound other found hfound view hview

/-- An acknowledgement that is consumed has no part in the invariant. -/
theorem World.Invariant.setAck {world : World} (h : world.Invariant) (ack : Nat)
    {value : PreparedAck}
    (hvalue : value.transition.consumed = false → value.Waiting world ∧
      ∀ other value', other ≠ ack → world.acks other = some value' →
        value'.transition.consumed = false → value.id ≠ value'.id) :
    (world.setAck ack value).Invariant := by
  have hacks : ∀ other found, (world.setAck ack value).acks other = some found →
      (other = ack ∧ found = value) ∨ (other ≠ ack ∧ world.acks other = some found) := by
    intro other found hfound
    change Function.update world.acks ack _ other = _ at hfound
    by_cases heq : other = ack
    · subst heq
      rw [Function.update_self] at hfound
      exact .inl ⟨rfl, (Option.some.inj hfound).symm⟩
    · rw [Function.update_of_ne heq] at hfound
      exact .inr ⟨heq, hfound⟩
  refine ⟨?_, ?_, h.once, h.known, h.bound⟩
  · intro other found hfound hconsumed
    have hwaiting : found.Waiting world := by
      rcases hacks other found hfound with ⟨-, rfl⟩ | ⟨-, hold⟩
      · exact (hvalue hconsumed).1
      · exact h.waiting other found hold hconsumed
    exact ⟨hwaiting.owner, hwaiting.active, hwaiting.sealed, hwaiting.next, hwaiting.bound,
      hwaiting.fresh, hwaiting.uncommitted⟩
  · intro a b va vb ha hb hca hcb hid
    rcases hacks a va ha with ⟨rfl, rfl⟩ | ⟨hne, hola⟩
    · rcases hacks b vb hb with ⟨rfl, rfl⟩ | ⟨hne', holb⟩
      · rfl
      · exact absurd hid ((hvalue hca).2 b vb hne' holb hcb)
    · rcases hacks b vb hb with ⟨rfl, rfl⟩ | ⟨hne', holb⟩
      · exact absurd hid.symm ((hvalue hcb).2 a va hne hola hca)
      · exact h.distinct a b va vb hola holb hca hcb hid

/-! ### Commits -/

/-- The acknowledgement may still be committed: it is not consumed, and its transfer is active and
    has not been changed since. -/
def World.Current (world : World) (self ack : Nat) : Prop :=
  ∃ value transfer, world.acks ack = some value ∧ world.transfers self = some transfer ∧
    value.transition.consumed = false ∧ value.transition.owner = some self ∧
    transfer.active = true ∧ world.changes self = value.changes

/-- The world after an acknowledgement was committed. -/
def World.committedWorld (world : World) (self ack : Nat) (value : PreparedAck) : World :=
  { (world.setAck ack value.aborted).change self (value.origin.enter value.transition.next)
      (world.histories self ++ [.ack value.value]) with
    committed := value.id :: world.committed }

theorem ofNat_eq_zero {generation : UInt64} {changes : Nat} (hchanges : changes < 2 ^ 64)
    (h : generation = generation + UInt64.ofNat changes) : changes = 0 := by
  have hnat := congrArg UInt64.toNat h
  rw [UInt64.toNat_add, UInt64.toNat_ofNat'] at hnat
  have hlt := generation.toNat_lt
  omega

/-- A timely commit takes effect exactly when the acknowledgement is current; otherwise nothing
    happens. -/
theorem World.Invariant.commit_eq {world : World} (h : world.Invariant) {self ack : Nat}
    {transfer : ClosureTransfer} {value : PreparedAck} (htransfer : world.transfers self = some transfer)
    (hvalue : world.acks ack = some value) (htimely : world.changes self < value.changes + 2 ^ 64) :
    (world.Current self ack → transfer = value.origin ∧
      world.commit self ack transfer value = world.committedWorld self ack value) ∧
    (¬ world.Current self ack → world.commit self ack transfer value = world) := by
  constructor
  · intro ⟨value', transfer', hvalue', htransfer', hconsumed, howner, hactive, hchanges⟩
    obtain rfl := Option.some.inj (hvalue.symm.trans hvalue')
    obtain rfl := Option.some.inj (htransfer.symm.trans htransfer')
    have hwaiting := h.waiting ack value hvalue hconsumed
    obtain ⟨owner, transfer', howner', htransfer', -, hgeneration, hsame⟩ := hwaiting.owner
    obtain rfl := Option.some.inj (howner.symm.trans howner')
    obtain rfl := Option.some.inj (htransfer.symm.trans htransfer')
    have horigin := hsame hchanges
    rw [hchanges, Nat.sub_self] at hgeneration
    have hequal : value.transition.generation = transfer.generation := by
      rw [hgeneration]
      exact (UInt64.add_zero _).symm
    have hguard : ¬ (transfer.active = false ∨ value.transition.owner ≠ some self ∨
        value.transition.consumed = true ∨ value.transition.generation ≠ transfer.generation ∨
        transfer.state.phase ≠ .closureSealed ∨ value.transition.next.phase ≠ .acknowledged) := by
      have hsealed := hwaiting.sealed
      rw [← horigin] at hsealed
      simp [hactive, howner, hconsumed, hequal, hsealed, hwaiting.next]
    refine ⟨horigin, ?_⟩
    subst horigin
    unfold World.commit ClosureTransfer.commitAcknowledgement
    rw [if_neg hguard]
    dsimp only
    rw [if_pos ⟨hconsumed, rfl⟩]
    rfl
  · intro hnot
    have hguard : transfer.active = false ∨ value.transition.owner ≠ some self ∨
        value.transition.consumed = true ∨ value.transition.generation ≠ transfer.generation ∨
        transfer.state.phase ≠ .closureSealed ∨ value.transition.next.phase ≠ .acknowledged := by
      by_contra hguard
      simp only [not_or, not_not, Bool.not_eq_false, Bool.not_eq_true] at hguard
      obtain ⟨hactive, howner, hconsumed, hequal, -⟩ := hguard
      have hwaiting := h.waiting ack value hvalue hconsumed
      obtain ⟨owner, transfer', howner', htransfer', hle, hgeneration, -⟩ := hwaiting.owner
      obtain rfl := Option.some.inj (howner.symm.trans howner')
      obtain rfl := Option.some.inj (htransfer.symm.trans htransfer')
      -- equal generations, so a multiple of `2 ^ 64` changes, so none
      rw [← hequal] at hgeneration
      have hnone := ofNat_eq_zero (by omega) hgeneration
      exact hnot ⟨value, transfer, hvalue, htransfer, hconsumed, howner, hactive, by omega⟩
    unfold World.commit ClosureTransfer.commitAcknowledgement
    rw [if_pos hguard]
    dsimp only
    rw [if_neg (fun hboth => absurd hboth.2 (by simp [hboth.1]))]
    have hself : Function.update world.acks ack (some value) = world.acks := by
      rw [← hvalue]
      exact Function.update_eq_self _ _
    unfold World.setAck
    rw [hself]

theorem World.Invariant.committedWorld {world : World} (h : world.Invariant) {self ack : Nat}
    {value : PreparedAck} (hvalue : world.acks ack = some value)
    (hconsumed : value.transition.consumed = false)
    (htransfer : world.transfers self = some value.origin) :
    (world.committedWorld self ack value).Invariant := by
  have hwaiting := h.waiting ack value hvalue hconsumed
  have haborted : (world.setAck ack value.aborted).Invariant :=
    h.setAck ack fun hfalse => absurd hfalse (by simp [PreparedAck.aborted, PreparedAckTransition.abort])
  have hchanged : ((world.setAck ack value.aborted).change self
      (value.origin.enter value.transition.next)
      (world.histories self ++ [.ack value.value])).Invariant := by
    refine haborted.change ?_ ?_
    · intro old hold
      obtain rfl := Option.some.inj (htransfer.symm.trans hold)
      rfl
    · intro view hview
      rcases List.mem_append.1 hview with hview | hview
      · exact h.bound self _ htransfer view hview
      · obtain rfl := List.mem_singleton.1 hview
        exact hwaiting.bound
  refine ⟨?_, hchanged.distinct, List.nodup_cons.2 ⟨hwaiting.uncommitted, h.once⟩, ?_,
    hchanged.bound⟩
  · intro other found hfound hopen
    have hrest := hchanged.waiting other found hfound hopen
    refine ⟨hrest.owner, hrest.active, hrest.sealed, hrest.next, hrest.bound, hrest.fresh, ?_⟩
    -- the only one with this number is the one that has just been consumed
    show found.id ∉ value.id :: world.committed
    rw [List.mem_cons, not_or]
    refine ⟨?_, hrest.uncommitted⟩
    intro hid
    change Function.update world.acks ack _ other = _ at hfound
    by_cases heq : other = ack
    · subst heq
      rw [Function.update_self] at hfound
      obtain rfl := Option.some.inj hfound
      exact absurd hopen (by simp [PreparedAck.aborted, PreparedAckTransition.abort])
    · rw [Function.update_of_ne heq] at hfound
      exact heq (h.distinct other ack found value hfound hvalue hopen hconsumed hid)
  · intro id hid
    rcases List.mem_cons.1 hid with rfl | hid
    · exact hwaiting.fresh
    · exact h.known id hid

/-! ### All calls -/

theorem World.Invariant.prepare {world : World} (h : world.Invariant) {layout : Layout}
    {self ack : Nat} {transfer : ClosureTransfer} {value : SourceClosureAck} {sequence : UInt64}
    {controlCapacity wireCapacity : Nat} {transition : PreparedAckTransition}
    (htransfer : world.transfers self = some transfer)
    (hprepare : transfer.prepareAcknowledgement layout self value sequence controlCapacity
      wireCapacity = .ok transition) :
    World.Invariant { world.setAck ack
      { transition, id := world.prepared, value, origin := transfer,
        changes := world.changes self } with prepared := world.prepared + 1 } := by
  obtain ⟨hsealed, howner, hgeneration, hconsumed, frame, haccepts⟩ :=
    prepareAcknowledgement_eq_ok hprepare
  have hmore : World.Invariant { world with prepared := world.prepared + 1 } := by
    refine ⟨?_, h.distinct, h.once, fun id hid => Nat.lt_succ_of_lt (h.known id hid), h.bound⟩
    intro other found hfound hopen
    have hwaiting := h.waiting other found hfound hopen
    exact ⟨hwaiting.owner, hwaiting.active, hwaiting.sealed, hwaiting.next, hwaiting.bound,
      Nat.lt_succ_of_lt hwaiting.fresh, hwaiting.uncommitted⟩
  refine hmore.setAck ack fun _ => ⟨⟨⟨self, transfer, howner, htransfer, le_rfl, ?_, fun _ => rfl⟩,
    haccepts.active, hsealed, haccepts.acknowledged, haccepts.boundTo, Nat.lt_succ_self _, ?_⟩, ?_⟩
  · show transfer.generation = transition.generation + UInt64.ofNat (world.changes self - _)
    rw [Nat.sub_self, hgeneration]
    exact (UInt64.add_zero _).symm
  · intro hmem
    exact absurd (h.known _ hmem) (lt_irrefl _)
  · intro other found _ hfound hopen hid
    exact absurd (h.waiting other found hfound hopen).fresh (by
      rw [← hid]
      exact lt_irrefl _)

theorem World.Invariant.moveAck {world : World} (h : world.Invariant) {source target : Nat}
    (hne : source ≠ target) {value : PreparedAck} (hvalue : world.acks source = some value) :
    ((world.setAck target value).setAck source value.aborted).Invariant := by
  have hcomm : (world.setAck target value).setAck source value.aborted =
      (world.setAck source value.aborted).setAck target value := by
    unfold World.setAck
    dsimp only
    rw [Function.update_comm hne.symm]
  have haborted : (world.setAck source value.aborted).Invariant :=
    h.setAck source fun hfalse =>
      absurd hfalse (by simp [PreparedAck.aborted, PreparedAckTransition.abort])
  rw [hcomm]
  refine haborted.setAck target fun hopen => ⟨?_, ?_⟩
  · have hwaiting := h.waiting source value hvalue hopen
    exact ⟨hwaiting.owner, hwaiting.active, hwaiting.sealed, hwaiting.next, hwaiting.bound,
      hwaiting.fresh, hwaiting.uncommitted⟩
  · intro other found _ hfound hother hid
    change Function.update world.acks source _ other = _ at hfound
    by_cases heq : other = source
    · subst heq
      rw [Function.update_self] at hfound
      obtain rfl := Option.some.inj hfound
      exact absurd hother (by simp [PreparedAck.aborted, PreparedAckTransition.abort])
    · rw [Function.update_of_ne heq] at hfound
      exact heq (h.distinct source other value found hvalue hfound hopen hother hid).symm

/-- Every timely call keeps the invariant. -/
theorem World.Invariant.step {world : World} (h : world.Invariant) (layout : Layout)
    {operation : Operation} (htimely : operation.Timely world) :
    (world.step layout operation).1.Invariant := by
  unfold World.step
  cases operation with
  | create self session =>
      dsimp only
      split
      · rename_i transfer hnone hcreate
        refine h.change (fun old hold => absurd (hnone.symm.trans hold) (by simp)) ?_
        intro view hview
        exact absurd hview (by simp)
      · exact h
      · exact h
  | accept self value capacities =>
      dsimp only
      split
      · exact h
      · rename_i transfer htransfer
        split
        · exact h
        · rename_i transfer' haccept
          obtain ⟨view, next, hview, -, haccepts, rfl⟩ := accept_eq_ok haccept
          refine h.change (fun old hold => ?_) ?_
          · obtain rfl := Option.some.inj (htransfer.symm.trans hold)
            rfl
          · intro other hother
            rw [hview] at hother
            rcases List.mem_append.1 hother with hother | hother
            · exact h.bound self transfer htransfer other hother
            · obtain rfl := List.mem_singleton.1 hother
              exact haccepts.boundTo
  | acceptDecoded self value token =>
      dsimp only
      split
      · exact h
      · rename_i transfer htransfer
        split
        · exact h
        · rename_i transfer' haccept
          obtain ⟨next, -, haccepts, rfl⟩ := acceptDecoded_eq_ok haccept
          refine h.change (fun old hold => ?_) ?_
          · obtain rfl := Option.some.inj (htransfer.symm.trans hold)
            rfl
          · intro other hother
            rcases List.mem_append.1 hother with hother | hother
            · exact h.bound self transfer htransfer other hother
            · obtain rfl := List.mem_singleton.1 hother
              exact haccepts.boundTo
  | prepareAcknowledgement self ack value sequence controlCapacity wireCapacity =>
      dsimp only
      split
      · rename_i transfer htransfer hnone
        split
        · exact h
        · rename_i transition hprepare
          exact h.prepare htransfer hprepare
      · exact h
  | abort ack =>
      dsimp only
      split
      · exact h
      · exact h.setAck ack fun hfalse =>
          absurd hfalse (by simp [PreparedAck.aborted, PreparedAckTransition.abort])
  | commitAcknowledgement self ack =>
      dsimp only
      split
      · rename_i transfer value htransfer hvalue
        obtain ⟨hcurrent, hstale⟩ := h.commit_eq htransfer hvalue (htimely value hvalue)
        by_cases hcase : world.Current self ack
        · obtain ⟨rfl, heq⟩ := hcurrent hcase
          obtain ⟨value', -, hvalue', -, hconsumed, -⟩ := hcase
          obtain rfl := Option.some.inj (hvalue.symm.trans hvalue')
          rw [heq]
          exact h.committedWorld hvalue hconsumed htransfer
        · rw [hstale hcase]
          exact h
      · exact h
  | moveConstruct source target leftover =>
      dsimp only
      split
      · rename_i transfer hsource hnone
        have hne : source ≠ target := by
          rintro rfl
          exact absurd (hsource.symm.trans hnone) (by simp)
        have htarget : (world.change target transfer.moveConstruct
            (world.histories source)).Invariant :=
          h.change (fun old hold => absurd (hnone.symm.trans hold) (by simp))
            fun view hview => h.bound source transfer hsource view hview
        refine htarget.change (fun old hold => ?_) (fun view hview => absurd hview (by simp))
        obtain rfl := Option.some.inj
          ((Function.update_of_ne hne _ _).symm.trans hold |>.symm.trans hsource).symm
        rfl
      · exact h
  | moveAssign source target leftover =>
      dsimp only
      split
      · exact h
      · rename_i hne
        split
        · rename_i transfer replaced hsource htarget
          have hassigned : (world.change target (replaced.moveAssign transfer)
              (world.histories source)).Invariant := by
            refine h.change (fun old hold => ?_)
              fun view hview => h.bound source transfer hsource view hview
            obtain rfl := Option.some.inj (htarget.symm.trans hold)
            rfl
          refine hassigned.change (fun old hold => ?_) (fun view hview => absurd hview (by simp))
          obtain rfl := Option.some.inj
            ((Function.update_of_ne hne _ _).symm.trans hold |>.symm.trans hsource).symm
          rfl
        · exact h
  | moveAck source target =>
      dsimp only
      split
      · exact h
      · rename_i hne
        split
        · exact h
        · rename_i value hvalue
          exact h.moveAck hne hvalue

theorem World.Invariant.run {world : World} (h : world.Invariant) (layout : Layout)
    {operations : List Operation} (htimely : world.TimelyRun layout operations) :
    (world.run layout operations).Invariant := by
  induction operations generalizing world with
  | nil => exact h
  | cons operation rest ih => exact ih (h.step layout htimely.1) htimely.2

end Cxxlens.ProtocolV2.Closure
