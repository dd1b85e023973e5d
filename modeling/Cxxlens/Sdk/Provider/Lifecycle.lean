import Cxxlens.Sdk.Provider.Transitions

set_option autoImplicit false

/-! # The recovery lifecycle

Runs of a session: coordinators made by `create` or by moving one, and operations on any of them in
any order, with a storage port that answers anything. Over such a run, where a coordinator's
recovery state can go and what must have happened before. -/

namespace Cxxlens.Sdk.Provider

open Fallible

variable {S ω : Type}

/-! ## Runs -/

/-- One operation of a run. -/
structure Event (S ω : Type) where
  operation : Operation S
  before : Coordinator S
  worldBefore : ω
  answer : Result Unit
  after : Coordinator S
  worldAfter : ω

/-- A terminal progress sample, all units completed, was accepted. -/
def Event.AcceptsTerminalProgress (event : Event S ω) : Prop :=
  event.answer = .ok () ∧ ∃ control time, event.operation = .observeProgress control time true ∧
    control.completedUnits = control.totalUnits

/-- A replay receipt with this sealed digest was accepted. -/
def Event.AcceptsReplay (event : Event S ω) (sealedTranscriptDigest : Bytes) : Prop :=
  event.answer = .ok () ∧ ∃ replayReceipt, event.operation = .acceptReplay replayReceipt ∧
    replayReceipt.sealedTranscriptDigest = sealedTranscriptDigest

/-- A resume token that acknowledges up to this sequence was accepted. -/
def Event.AcceptsToken (event : Event S ω) (acked : UInt64) : Prop :=
  event.answer = .ok () ∧ ∃ control receipt, event.operation.resume? = some (control, receipt) ∧
    control.highestContiguousAckedSequence = acked

/-- A cleanup had an effect: it was granted or it changed the world. -/
def Event.CleansUp (event : Event S ω) : Prop :=
  event.operation = .cleanup ∧ (event.answer = .ok () ∨ event.worldAfter ≠ event.worldBefore)

section Runs

variable (hash : Bytes → Bytes) (port : SpillStoragePort S ω)

/-- One operation performed on a coordinator. -/
def Coordinator.event (coordinator : Coordinator S) (operation : Operation S) (world : ω) :
    Event S ω :=
  let r := coordinator.perform hash port operation world
  ⟨operation, coordinator, world, r.1, r.2.1, r.2.2⟩

/-- The coordinators and the world a run of operations can lead to. The world may also change by
    itself. -/
inductive Reaches : List (Event S ω) → List (Coordinator S) → ω → Prop
  | created {configuration : SessionConfiguration S} {coordinator : Coordinator S} (world : ω)
      (h : Coordinator.create configuration = .ok coordinator) : Reaches [] [coordinator] world
  | performed {history : List (Event S ω)} {objects : List (Coordinator S)} {world : ω} {i : Nat}
      {coordinator : Coordinator S} (reached : Reaches history objects world)
      (h : objects[i]? = some coordinator) (operation : Operation S) :
      Reaches (history ++ [coordinator.event hash port operation world])
        (objects.set i (coordinator.event hash port operation world).after)
        (coordinator.event hash port operation world).worldAfter
  | moved {history : List (Event S ω)} {objects : List (Coordinator S)} {world : ω} {i : Nat}
      {coordinator : Coordinator S} (reached : Reaches history objects world)
      (h : objects[i]? = some coordinator) :
      Reaches history (objects.set i coordinator.leftBehind ++ [coordinator]) world
  | disturbed {history : List (Event S ω)} {objects : List (Coordinator S)} {world : ω} (other : ω)
      (reached : Reaches history objects world) : Reaches history objects other

end Runs

/-! ## Invariants -/

/-- The evidence a coordinator holds is an operation of the run. -/
structure Evidenced (history : List (Event S ω)) (coordinator : Coordinator S) : Prop where
  progress : coordinator.progress.terminalObserved = true →
    ∃ event ∈ history, event.AcceptsTerminalProgress
  replay : ∀ digest, coordinator.replayOutputDigest = some digest →
    ∃ event ∈ history, event.AcceptsReplay digest
  token : coordinator.recovery.resumeState.accepted = true →
    ∃ event ∈ history, event.AcceptsToken coordinator.recovery.resumeState.lastAckedSequence

/-- At most one coordinator is not cleaned, and none is once a cleanup had its effect. -/
structure Disposable (history : List (Event S ω)) (objects : List (Coordinator S)) : Prop where
  alone : ∀ (i j : Nat) (left right : Coordinator S), objects[i]? = some left →
    objects[j]? = some right → left.cleaned = false → right.cleaned = false → i = j
  disposed : (∃ event ∈ history, event.CleansUp) → ∀ coordinator ∈ objects,
    coordinator.cleaned = true

theorem Evidenced.mono {history : List (Event S ω)} {coordinator : Coordinator S}
    (h : Evidenced history coordinator) (event : Event S ω) :
    Evidenced (history ++ [event]) coordinator where
  progress := fun hterminal => by
    obtain ⟨earlier, hmem, haccepts⟩ := h.progress hterminal
    exact ⟨earlier, List.mem_append_left _ hmem, haccepts⟩
  replay := fun digest hdigest => by
    obtain ⟨earlier, hmem, haccepts⟩ := h.replay digest hdigest
    exact ⟨earlier, List.mem_append_left _ hmem, haccepts⟩
  token := fun haccepted => by
    obtain ⟨earlier, hmem, haccepts⟩ := h.token haccepted
    exact ⟨earlier, List.mem_append_left _ hmem, haccepts⟩

section Steps

variable {hash : Bytes → Bytes} {port : SpillStoragePort S ω}

/-- New evidence comes with the operation that gives it. -/
theorem Evidenced.event {history : List (Event S ω)} {coordinator : Coordinator S}
    (h : Evidenced history coordinator) (operation : Operation S) (world : ω) :
    Evidenced (history ++ [coordinator.event hash port operation world])
      (coordinator.event hash port operation world).after := by
  have hstep := @Coordinator.perform_step S ω hash port coordinator operation world
  have hlast := List.mem_append_right history
    (List.mem_singleton_self (coordinator.event hash port operation world))
  constructor
  · intro hterminal
    rcases hstep.progress hterminal with hbefore | ⟨hok, haccepts⟩
    · exact (h.mono _).progress hbefore
    · exact ⟨_, hlast, hok, haccepts⟩
  · intro digest hdigest
    rcases hstep.replay with hsame | ⟨hok, receipt, hoperation, hafter⟩
    · exact (h.mono _).replay digest (hsame.symm.trans hdigest)
    · have hsealed := Option.some_inj.1 (hafter.symm.trans hdigest)
      exact ⟨_, hlast, hok, receipt, hoperation, hsealed⟩
  · intro haccepted
    rcases hstep.resume with hsame | ⟨hok, control, receipt, hoperation, hacked⟩
    · have hresume : (coordinator.event hash port operation world).after.recovery.resumeState =
          coordinator.recovery.resumeState := hsame
      rw [hresume] at haccepted ⊢
      exact (h.mono _).token haccepted
    · exact ⟨_, hlast, hok, control, receipt, hoperation, hacked.symm⟩

/-- A cleanup with an effect starts from a coordinator that is not cleaned and cleans it. -/
theorem cleansUp_event {coordinator : Coordinator S} {operation : Operation S} {world : ω}
    (h : (coordinator.event hash port operation world).CleansUp) :
    coordinator.cleaned = false ∧
      (coordinator.event hash port operation world).after.cleaned = true := by
  obtain ⟨hoperation, heffect⟩ := h
  obtain rfl : operation = .cleanup := hoperation
  rcases @Coordinator.cleanup_cases S ω port coordinator world with
    ⟨fault, heq⟩ | ⟨hcleaned, answer, spill, final, -, heq⟩
  · simp [Coordinator.event, Coordinator.perform, heq] at heffect
  · exact ⟨hcleaned, by simp [Coordinator.event, Coordinator.perform, heq]⟩

theorem Disposable.event {history : List (Event S ω)} {objects : List (Coordinator S)}
    {coordinator : Coordinator S} {i : Nat} (h : Disposable history objects)
    (hi : objects[i]? = some coordinator) (operation : Operation S) (world : ω) :
    Disposable (history ++ [coordinator.event hash port operation world])
      (objects.set i (coordinator.event hash port operation world).after) := by
  have hkept : coordinator.cleaned = true →
      (coordinator.event hash port operation world).after.cleaned = true :=
    (@Coordinator.perform_step S ω hash port coordinator operation world).cleaned
  set after := (coordinator.event hash port operation world).after
  -- A coordinator that is not cleaned afterwards was there before, not cleaned, at its index.
  have hbefore : ∀ (j : Nat) (object : Coordinator S), (objects.set i after)[j]? = some object →
      object.cleaned = false → ∃ earlier, objects[j]? = some earlier ∧ earlier.cleaned = false := by
    intro j object hj hcleaned
    rw [List.getElem?_set] at hj
    split_ifs at hj with hij hlt
    · obtain rfl := Option.some.inj hj
      subst hij
      exact ⟨coordinator, hi, by simpa [hcleaned] using mt hkept⟩
    · exact ⟨object, hj, hcleaned⟩
  constructor
  · intro j k left right hj hk hleft hright
    obtain ⟨left', hj', hleft'⟩ := hbefore j left hj hleft
    obtain ⟨right', hk', hright'⟩ := hbefore k right hk hright
    exact h.alone j k left' right' hj' hk' hleft' hright'
  · rintro ⟨event, hmem, hcleansUp⟩ object hobject
    by_contra hnot
    rw [Bool.not_eq_true] at hnot
    obtain ⟨j, hj⟩ := List.mem_iff_getElem?.1 hobject
    obtain ⟨earlier, hj', hcleaned⟩ := hbefore j object hj hnot
    rcases List.mem_append.1 hmem with hmem | hmem
    · have hdisposed := h.disposed ⟨event, hmem, hcleansUp⟩ earlier (List.mem_of_getElem? hj')
      rw [hdisposed] at hcleaned
      cases hcleaned
    · obtain rfl := List.mem_singleton.1 hmem
      obtain ⟨huncleaned, hafter⟩ := cleansUp_event hcleansUp
      obtain rfl := h.alone j i earlier coordinator hj' hi hcleaned huncleaned
      have hlt := (List.getElem?_eq_some_iff.1 hi).1
      rw [List.getElem?_set_self hlt, Option.some_inj] at hj
      rw [← hj, hafter] at hnot
      cases hnot

theorem Disposable.move {history : List (Event S ω)} {objects : List (Coordinator S)}
    {coordinator : Coordinator S} {i : Nat} (h : Disposable history objects)
    (hi : objects[i]? = some coordinator) :
    Disposable history (objects.set i coordinator.leftBehind ++ [coordinator]) := by
  -- Not cleaned afterwards are the new coordinator and those at other indices that were not before.
  have hbefore : ∀ (j : Nat) (object : Coordinator S),
      (objects.set i coordinator.leftBehind ++ [coordinator])[j]? = some object →
      object.cleaned = false → (j ≠ i ∧ objects[j]? = some object) ∨
        (j = objects.length ∧ object = coordinator) := by
    intro j object hj hcleaned
    rcases lt_trichotomy j objects.length with hlt | rfl | hgt
    · rw [List.getElem?_append_left (by simpa using hlt), List.getElem?_set] at hj
      split_ifs at hj with hij
      · rw [← Option.some.inj hj] at hcleaned
        simp [Coordinator.leftBehind] at hcleaned
      · exact Or.inl ⟨fun h => hij h.symm, hj⟩
    · simp only [List.getElem?_append_right, List.length_set, le_refl, Nat.sub_self,
        List.getElem?_cons_zero, Option.some_inj] at hj
      exact Or.inr ⟨rfl, hj.symm⟩
    · rw [List.getElem?_eq_none (by simp; omega)] at hj
      cases hj
  constructor
  · intro j k left right hj hk hleft hright
    rcases hbefore j left hj hleft with ⟨hji, hjOld⟩ | ⟨hjlast, rfl⟩
    · rcases hbefore k right hk hright with ⟨hki, hkOld⟩ | ⟨hklast, rfl⟩
      · exact h.alone j k left right hjOld hkOld hleft hright
      · exact absurd (h.alone j i left right hjOld hi hleft hright) hji
    · rcases hbefore k right hk hright with ⟨hki, hkOld⟩ | ⟨hklast, rfl⟩
      · exact absurd (h.alone k i right left hkOld hi hright hleft) hki
      · exact hjlast.trans hklast.symm
  · intro hcleansUp object hobject
    have hall := h.disposed hcleansUp
    rcases List.mem_append.1 hobject with hmem | hmem
    · rcases List.mem_or_eq_of_mem_set hmem with hmem | rfl
      · exact hall object hmem
      · rfl
    · rw [List.mem_singleton.1 hmem]
      exact hall coordinator (List.mem_of_getElem? hi)

/-- A coordinator starts without evidence. -/
theorem evidenced_create {configuration : SessionConfiguration S} {coordinator : Coordinator S}
    (h : Coordinator.create configuration = .ok coordinator) (history : List (Event S ω)) :
    Evidenced history coordinator := by
  simp only [Coordinator.create, seq_eq_ok_iff] at h
  obtain ⟨-, -, h⟩ := h
  obtain ⟨heartbeat, -, h⟩ := bind_eq_ok_iff.1 h
  obtain ⟨progress, hprogress, h⟩ := bind_eq_ok_iff.1 h
  obtain ⟨recovery, hrecovery, h⟩ := bind_eq_ok_iff.1 h
  obtain ⟨spill, -, h⟩ := bind_eq_ok_iff.1 h
  obtain rfl := Except.ok.inj h
  simp only [ProgressState.create, seq_eq_ok_iff] at hprogress
  obtain rfl := Except.ok.inj hprogress.2.2
  obtain ⟨resumeState, hresume, hrecovery⟩ := bind_eq_ok_iff.1 hrecovery
  obtain rfl := Except.ok.inj hrecovery
  obtain rfl := Except.ok.inj (seq_eq_ok_iff.1 hresume).2
  exact ⟨nofun, nofun, nofun⟩

/-- **The invariants of a run.** -/
theorem Reaches.invariant {history : List (Event S ω)} {objects : List (Coordinator S)} {world : ω}
    (reached : Reaches hash port history objects world) :
    (∀ coordinator ∈ objects, Evidenced history coordinator) ∧ Disposable history objects := by
  induction reached with
  | created world h =>
      refine ⟨?_, fun i j left right hi hj _ _ => ?_, ?_⟩
      · intro object hobject
        rw [List.mem_singleton.1 hobject]
        exact evidenced_create h []
      · have hi := (List.getElem?_eq_some_iff.1 hi).1
        have hj := (List.getElem?_eq_some_iff.1 hj).1
        simp only [List.length_singleton] at hi hj
        omega
      · rintro ⟨event, hmem, -⟩
        cases hmem
  | performed reached h operation ih =>
      refine ⟨fun object hobject => ?_, ih.2.event h operation _⟩
      rcases List.mem_or_eq_of_mem_set hobject with hmem | rfl
      · exact (ih.1 object hmem).mono _
      · exact (ih.1 _ (List.mem_of_getElem? h)).event operation _
  | moved reached h ih =>
      refine ⟨fun object hobject => ?_, ih.2.move h⟩
      have hcoordinator := ih.1 _ (List.mem_of_getElem? h)
      rcases List.mem_append.1 hobject with hmem | hmem
      · rcases List.mem_or_eq_of_mem_set hmem with hmem | rfl
        · exact ih.1 object hmem
        · exact ⟨hcoordinator.progress, hcoordinator.replay, hcoordinator.token⟩
      · rw [List.mem_singleton.1 hmem]
        exact hcoordinator
  | disturbed other reached ih => exact ih

end Steps

/-! ## The law -/

/-- What one operation does to a coordinator after a history. -/
structure LifecycleLaw (hash : Bytes → Bytes) (port : SpillStoragePort S ω)
    (history : List (Event S ω)) (event : Event S ω) : Prop where
  /-- `completed` is reached by a seal only: of a running session with an accepted terminal sample,
      or of a resumed session whose accepted replay has the sealed digest of the output. -/
  completed : event.before.recovery.state ≠ .completed →
    event.after.recovery.state = .completed →
      ∃ outputReceipt, event.operation = .sealOutput outputReceipt ∧
        (event.before.recovery.state = .running ∧
            (∃ earlier ∈ history, earlier.AcceptsTerminalProgress) ∨
          event.before.recovery.state = .resumed ∧
            ∃ earlier ∈ history, earlier.AcceptsReplay outputReceipt.sealedTranscriptDigest)
  /-- `resumed` is reached from `resume_replay` only, one after the accepted token. -/
  resumed : event.before.recovery.state ≠ .resumed → event.after.recovery.state = .resumed →
    event.before.recovery.state = .resumeReplay ∧
      ∃ first acked, event.operation.firstSequence? = some first ∧
        (∃ earlier ∈ history, earlier.AcceptsToken acked) ∧ first.toNat = acked.toNat + 1
  /-- `resume_replay` is reached from `worker_killed` only, with the latest receipt, which is what
      the storage gives back. -/
  resumeReplay : event.before.recovery.state ≠ .resumeReplay →
    event.after.recovery.state = .resumeReplay →
      event.before.recovery.state = .workerKilled ∧
        ∃ control receipt, event.operation.resume? = some (control, receipt) ∧
          event.after.latestFsyncReceipt = some receipt ∧
          control.highestContiguousAckedSequence = receipt.highestContiguousAckedSequence ∧
          control.stagedDigest = receipt.stagedDigest ∧
          Coordinator.ReadBack hash port event.before.spill receipt control.tokenGeneration
            event.worldBefore
  /-- Nothing changes the recovery state of a coordinator that is through. -/
  settled : (event.before.recovery.state = .completed ∨ event.before.recovery.state = .failed ∨
      event.before.broken = true ∨ event.before.disposed = true) →
    event.after.recovery.state = event.before.recovery.state
  /-- The state it reports then changes to `failed` only. -/
  settledReport : (event.before.state = .completed ∨ event.before.state = .failed ∨
      event.before.broken = true ∨ event.before.disposed = true) →
    event.after.state = event.before.state ∨ event.after.state = .failed
  /-- Until then the reported state is the recovery state. -/
  reported : event.after.state ≠ .failed →
    event.before.state = event.before.recovery.state ∧
      event.after.state = event.after.recovery.state
  /-- A cleanup calls the port for the session's storage at most once, and no cleanup of the run
      had an effect before one that has. -/
  cleanup : event.operation = .cleanup → event.worldAfter = event.worldBefore ∨
    ∃ handle, event.before.spill.storage = some handle ∧
      event.worldAfter = (port.cleanup handle event.worldBefore).2
  cleanedOnce : event.CleansUp → ∀ earlier ∈ history, ¬ earlier.CleansUp

section Law

variable {hash : Bytes → Bytes} {port : SpillStoragePort S ω}

/-- A coordinator that is through takes no entry of the matrix. -/
theorem settled_step {coordinator after : Coordinator S} {operation : Operation S} {world : ω}
    {answer : Result Unit} (hstep : coordinator.Step hash port operation world answer after)
    (h : coordinator.recovery.state = .completed ∨ coordinator.recovery.state = .failed ∨
      coordinator.broken = true ∨ coordinator.disposed = true) :
    after.recovery.state = coordinator.recovery.state := by
  rcases hstep.recovery with hsame | ⟨hopen, event, hnext, -⟩
  · exact hsame
  · rcases h with hcompleted | hfailed | hbroken | hdisposed
    · rw [recoveryMatrix_terminal event (Or.inl hcompleted)] at hnext
      cases hnext
    · rw [recoveryMatrix_terminal event (Or.inr hfailed)] at hnext
      cases hnext
    · rw [hopen.not_broken] at hbroken
      cases hbroken
    · simp [Coordinator.disposed, hopen.movedFrom, hopen.cleaned, hopen.spillCleaned] at hdisposed

theorem state_of_not_broken {coordinator : Coordinator S} (h : coordinator.broken = false) :
    coordinator.state = coordinator.recovery.state :=
  if_neg (show ¬ coordinator.broken = true by simp [h])

theorem state_eq_of_not_failed {coordinator : Coordinator S} (h : coordinator.state ≠ .failed) :
    coordinator.broken = false ∧ coordinator.state = coordinator.recovery.state := by
  cases hbroken : coordinator.broken with
  | true => exact absurd (if_pos hbroken) h
  | false => exact ⟨rfl, state_of_not_broken hbroken⟩

theorem cleanup_world (session : SpillSession S) (world : ω) :
    (session.cleanup port world).2.2 = world ∨ ∃ handle, session.storage = some handle ∧
      (session.cleanup port world).2.2 = (port.cleanup handle world).2 := by
  unfold SpillSession.cleanup
  split
  · exact Or.inl rfl
  · rename_i handle hhandle
    split_ifs at hhandle
    refine Or.inr ⟨handle, hhandle, ?_⟩
    dsimp only
    split <;> rfl

theorem cleanup_event_world (coordinator : Coordinator S) (world : ω) :
    (coordinator.event hash port .cleanup world).worldAfter = world ∨
      ∃ handle, coordinator.spill.storage = some handle ∧
        (coordinator.event hash port .cleanup world).worldAfter = (port.cleanup handle world).2 := by
  rcases @Coordinator.cleanup_cases S ω port coordinator world with
    ⟨fault, heq⟩ | ⟨-, answer, spill, final, hspill, heq⟩
  · exact Or.inl (by simp [Coordinator.event, Coordinator.perform, heq])
  · have hworld := @cleanup_world S ω port coordinator.spill world
    rw [hspill] at hworld
    simpa [Coordinator.event, Coordinator.perform, heq] using hworld

end Law

/-! ## A session that completes -/

/-- A storage port whose object is the bytes it was given. -/
def samplePort : SpillStoragePort Unit Bytes where
  append := fun _ bytes stored => (some (.ok ()), stored ++ bytes)
  fsync := fun _ stored => (some (.ok 1), stored)
  readAll := fun _ stored => (some (.ok stored), stored)
  readResumeFrontier := fun _ stored => (some (.ok none), stored)
  transferCleanupCustodyTo := fun _ _ stored =>
    (some (.error (portError "cleanup" "custody-transfer-unsupported")), stored)
  persistResumeFrontier := fun _ _ stored => (some (.ok ()), stored)
  cleanup := fun _ _ => (some (.ok ()), [])

/-- Sixty-four digits. -/
def sampleDigits : Bytes := List.replicate 64 0x30

def sampleResumeBinding : ResumeBinding where
  providerId := "provider"
  providerVersion := ⟨1, 0, 0⟩
  providerBinaryDigest := ascii "sha256:" ++ sampleDigits
  providerSemanticContractDigest := ascii "sha256:" ++ sampleDigits
  protocolSessionId := "session"
  taskId := "task"
  taskInputDigest := ascii "semantic-v2:sha256:" ++ sampleDigits
  normalizedInvocationDigest := ascii "semantic-v2:sha256:" ++ sampleDigits
  toolchainDigest := ascii "semantic-v2:sha256:" ++ sampleDigits
  environmentDigest := ascii "semantic-v2:sha256:" ++ sampleDigits
  sandboxPolicyDigest := ascii "semantic-v2:sha256:" ++ sampleDigits
  dependencyGroupId := "group"
  atomicOutputGroupId := "output"
  batchId := "batch"
  streamId := 1

def sampleConfiguration : SessionConfiguration Unit where
  heartbeatBinding := ⟨"provider", ⟨1, 0, 0⟩, "session", "task", 1⟩
  dependencyGroupId := "group"
  resumeBinding := sampleResumeBinding
  spillBinding := ⟨"provider", "session", "task", "group", "output", "batch", 1⟩
  hostStartedAtNs := 0
  spillStorage := some ()

/-- One sample completes the task, and the output is sealed. -/
def sampleOperations : List (Operation Unit) :=
  [.observeProgress ⟨progressSchema, "task", "group", 0, 1, 1, 1⟩ 1 true,
    .sealOutput ⟨"task", ascii "semantic-v2:sha256:" ++ sampleDigits⟩]

/-- The first bytes stand in for a hash: no operation of the sample takes one. -/
def firstBytes (bytes : Bytes) : Bytes :=
  bytes.take 32

/-- A list of operations: the events, and the coordinator and the world after them. -/
def performAll (coordinator : Coordinator Unit) (world : Bytes) :
    List (Operation Unit) → List (Event Unit Bytes) × Coordinator Unit × Bytes
  | [] => ([], coordinator, world)
  | operation :: rest =>
    let event := coordinator.event firstBytes samplePort operation world
    let (events, final) := performAll event.after event.worldAfter rest
    (event :: events, final)

theorem reaches_performAll {history : List (Event Unit Bytes)} {coordinator : Coordinator Unit}
    {world : Bytes} (reached : Reaches firstBytes samplePort history [coordinator] world)
    (operations : List (Operation Unit)) :
    Reaches firstBytes samplePort (history ++ (performAll coordinator world operations).1)
      [(performAll coordinator world operations).2.1]
      (performAll coordinator world operations).2.2 := by
  induction operations generalizing history coordinator world with
  | nil => simpa [performAll] using reached
  | cons operation rest ih =>
      have hrest := ih (Reaches.performed reached (i := 0) rfl operation)
      rw [List.append_assoc] at hrest
      exact hrest

end Cxxlens.Sdk.Provider
