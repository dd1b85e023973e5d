import Cxxlens.Foundation.Fallible
import Cxxlens.Sdk.BoundedStore.Publication

set_option autoImplicit false

/-! # What a terminal tells

A verified commit is one that the reopened store confirms in every lookup, and a rejection is one where
the backend says that nothing can have happened. Everything else leaves the outcome open. The backend
is called at most once for a publication, whatever is done with it. -/

namespace Cxxlens.Sdk.BoundedStore

open Fallible

/-! ## What is confirmed -/

/-- Two observations of one publication; compaction may have moved it to a later generation. -/
structure SamePublication (expected observed : PublicationObservation) : Prop where
  publicationId : expected.publicationId = observed.publicationId
  seriesId : expected.seriesId = observed.seriesId
  snapshotId : expected.snapshotId = observed.snapshotId
  sequence : expected.sequence = observed.sequence
  parentPublication : expected.parentPublication = observed.parentPublication
  state : expected.state = observed.state
  corrupt : expected.corrupt = observed.corrupt
  generation : expected.physicalGeneration ≤ observed.physicalGeneration
  physical : observed.physicalGeneration ≠ 0

/-- A lookup that agrees with a publication and its snapshot. -/
structure LookupObservation.Agrees (value : LookupObservation) (publication : PublicationObservation)
    (snapshot : SnapshotObservation) : Prop where
  status : value.status = .present
  failure : value.failure = none
  publication : ∃ found, value.publication = some found ∧ SamePublication publication found
  snapshot : value.snapshot = some snapshot

/-- A lookup that agrees with the head before the publication: it finds the head, or nothing where
    there was none. -/
def LookupObservation.AgreesWithHead (value : LookupObservation) (head : ExpectedHead) : Prop :=
  (∃ publication snapshot, head.publication = some publication ∧ head.snapshot = some snapshot ∧
      value.Agrees publication snapshot) ∨
    (head.publication = none ∧ head.snapshot = none ∧ value = { status := .notFound })

/-- A fresh opening of the store that confirms a publication in every lookup. -/
structure ReopenObservation.Confirms (observed : ReopenObservation) (head : ExpectedHead)
    (committed : PublicationObservation) (candidate : SnapshotObservation) : Prop where
  factoryAttempted : observed.factoryAttempted = true
  factoryError : observed.factoryError = none
  binding : observed.freshBackendBinding ≠ []
  parent : observed.expectedParent.AgreesWithHead head
  current : observed.current.Agrees committed candidate
  publication : observed.publication.Agrees committed candidate
  snapshot : observed.snapshot.Agrees committed candidate
  exportDigest : observed.canonicalExportDigest = some candidate.canonicalExportDigest
  exportError : observed.canonicalExportError = none

section Committed

variable (hash : Bytes → Bytes)

/-- The record that a publication has to leave behind. -/
structure RightRecord (identity : TerminalObservation) (returned : PublicationObservation) :
    Prop where
  state : returned.state = .committed
  corrupt : returned.corrupt = false
  series : returned.seriesId = identity.seriesId
  snapshot : returned.snapshotId = identity.candidateSnapshotId
  recordIdentity : publicationRecordIdentity hash returned.seriesId returned.snapshotId returned.sequence
    returned.parentPublication = .ok returned.publicationId
  parent : returned.parentPublication = identity.expectedHead.publicationId
  sequence : returned.sequence.toNat = identity.expectedHead.priorSequence.toNat + 1
  generation : identity.expectedHead.priorGeneration < returned.physicalGeneration

/-- What the backend has to do for a commit to be verified. -/
structure VerifiedCommit (port : BackendPort) (publication : Nat) (calls : List PortCall)
    (identity : TerminalObservation) (effect : EffectResult) (returned : PublicationObservation)
    (observed : ReopenObservation) : Prop where
  called : port.publishOnce calls = .returned (.ok effect)
  failure : effect.failure = none
  attempted : effect.operationAttempted = true
  mayHaveOccurred : effect.effectMayHaveOccurred = true
  handle : effect.returnedHandle = true
  publicationReturned : effect.publication = some returned
  record : RightRecord hash identity returned
  reopened : port.reopen (calls ++ [⟨publication, .publishOnce⟩]) = .returned (.ok observed)
  confirms : observed.Confirms identity.expectedHead returned identity.candidateSnapshot

end Committed

/-! ## Lookups -/

theorem sameLogicalPublication_iff (expected observed : PublicationObservation) :
    sameLogicalPublication expected observed = true ↔ SamePublication expected observed := by
  unfold sameLogicalPublication
  simp only [Bool.and_eq_true, beq_iff_eq, decide_eq_true_iff, bne_iff_ne]
  constructor
  · intro h
    obtain ⟨⟨⟨⟨⟨⟨⟨⟨h₁, h₂⟩, h₃⟩, h₄⟩, h₅⟩, h₆⟩, h₇⟩, h₈⟩, h₉⟩ := h
    exact ⟨h₁, h₂, h₃, h₄, h₅, h₆, h₇, h₈, h₉⟩
  · intro h
    exact ⟨⟨⟨⟨⟨⟨⟨⟨h.publicationId, h.seriesId⟩, h.snapshotId⟩, h.sequence⟩, h.parentPublication⟩,
      h.state⟩, h.corrupt⟩, h.generation⟩, h.physical⟩

theorem LookupObservation.agrees_iff (value : LookupObservation)
    (publication : PublicationObservation) (snapshot : SnapshotObservation) :
    value.closed = true ∧ value.finds publication snapshot = true ↔
      value.Agrees publication snapshot := by
  obtain ⟨status, failure, found, other⟩ := value
  constructor
  · intro h
    obtain ⟨hclosed, hfinds⟩ := h
    unfold LookupObservation.finds at hfinds
    simp only [Bool.and_eq_true, beq_iff_eq] at hfinds
    obtain ⟨⟨rfl, hpublication⟩, rfl⟩ := hfinds
    simp only [LookupObservation.closed, Bool.and_eq_true, Option.isNone_iff_eq_none] at hclosed
    cases found with
    | none => exact absurd hpublication (by simp)
    | some found =>
        exact ⟨rfl, hclosed.1.1, ⟨found, rfl, (sameLogicalPublication_iff _ _).1 hpublication⟩, rfl⟩
  · intro h
    obtain ⟨hstatus, hfailure, ⟨found, hpublication, hsame⟩, hsnapshot⟩ := h
    simp only at hstatus hfailure hpublication hsnapshot
    subst hstatus hfailure hpublication hsnapshot
    simp [LookupObservation.closed, LookupObservation.finds,
      (sameLogicalPublication_iff _ _).2 hsame]

theorem parentValid_iff (head : ExpectedHead) (value : LookupObservation) :
    value.closed = true ∧ parentValid head value = true ↔ value.AgreesWithHead head := by
  obtain ⟨publication, snapshot⟩ := head
  unfold LookupObservation.AgreesWithHead parentValid
  cases publication with
  | some publication =>
      cases snapshot with
      | some snapshot => simp [LookupObservation.agrees_iff]
      | none => simp
  | none =>
      cases snapshot with
      | some snapshot => simp
      | none =>
          obtain ⟨status, failure, found, other⟩ := value
          cases status <;> simp [LookupObservation.closed, and_assoc]

theorem validateReopenObservation_iff (head : ExpectedHead) (committed : PublicationObservation)
    (candidate : SnapshotObservation) (observed : ReopenObservation) :
    validateReopenObservation head committed candidate observed = .ok () ↔
      observed.Confirms head committed candidate := by
  unfold validateReopenObservation
  rw [guard_eq_ok_iff, guard_eq_ok_iff]
  simp only [Bool.or_eq_true, Bool.not_eq_true', not_or, Bool.not_eq_false, Bool.and_eq_false_iff,
    List.isEmpty_iff, Option.isSome_iff_ne_none]
  constructor
  · intro h
    obtain ⟨⟨⟨⟨hcurrent, hparent⟩, hpublication⟩, hsnapshot⟩,
      ⟨⟨⟨⟨⟨⟨⟨hattempted, herror⟩, hbinding⟩, hparent'⟩, hcurrent'⟩, hpublication'⟩, hsnapshot'⟩,
        hexport⟩, -⟩ := h
    exact ⟨hattempted, by simpa using herror, hbinding,
      (parentValid_iff _ _).1 ⟨hparent, hparent'⟩,
      (LookupObservation.agrees_iff _ _ _).1 ⟨hcurrent, hcurrent'⟩,
      (LookupObservation.agrees_iff _ _ _).1 ⟨hpublication, hpublication'⟩,
      (LookupObservation.agrees_iff _ _ _).1 ⟨hsnapshot, hsnapshot'⟩,
      by simpa using hexport.1, by simpa using hexport.2⟩
  · intro h
    obtain ⟨hparent, hparent'⟩ := (parentValid_iff _ _).2 h.parent
    obtain ⟨hcurrent, hcurrent'⟩ := (LookupObservation.agrees_iff _ _ _).2 h.current
    obtain ⟨hpublication, hpublication'⟩ := (LookupObservation.agrees_iff _ _ _).2 h.publication
    obtain ⟨hsnapshot, hsnapshot'⟩ := (LookupObservation.agrees_iff _ _ _).2 h.snapshot
    exact ⟨⟨⟨⟨hcurrent, hparent⟩, hpublication⟩, hsnapshot⟩,
      ⟨⟨⟨⟨⟨⟨⟨h.factoryAttempted, by simp [h.factoryError]⟩, h.binding⟩, hparent'⟩, hcurrent'⟩,
        hpublication'⟩, hsnapshot'⟩, by simp [h.exportDigest], by simp [h.exportError]⟩, trivial⟩

/-! ## The record -/

section Publish

variable {hash : Bytes → Bytes}

/-- The next counter does not wrap: the maximum was refused. -/
theorem succ_eq_iff (prior next : UInt64) :
    ¬ (prior = 0xffffffffffffffff ∨ next ≠ prior + 1) ↔ next.toNat = prior.toNat + 1 := by
  rw [not_or, not_not, ← UInt64.toNat_inj, ← UInt64.toNat_inj, UInt64.toNat_add]
  have hprior := prior.toNat_lt
  have hnext := next.toNat_lt
  have hmax : (0xffffffffffffffff : UInt64).toNat = 2 ^ 64 - 1 := rfl
  have hone : (1 : UInt64).toNat = 1 := rfl
  rw [hmax, hone]
  omega

theorem generation_iff (prior next : UInt64) :
    ¬ (prior = 0xffffffffffffffff ∨ next ≤ prior) ↔ prior < next := by
  rw [not_or, ← UInt64.toNat_inj, UInt64.not_le, UInt64.lt_iff_toNat_lt]
  have hnext := next.toNat_lt
  have hmax : (0xffffffffffffffff : UInt64).toNat = 2 ^ 64 - 1 := rfl
  rw [hmax]
  omega

theorem recordFailure_eq_none_iff (observation : TerminalObservation)
    (returned : PublicationObservation) :
    recordFailure hash observation returned = none ↔ RightRecord hash observation returned := by
  unfold recordFailure
  simp only
  constructor
  · intro h
    split_ifs at h with hfields hidentity hparent hsequence hgeneration
    rw [not_or, not_or, not_or, not_not, not_not, not_not, Bool.not_eq_true] at hfields
    obtain ⟨hstate, hcorrupt, hseries, hsnapshot⟩ := hfields
    exact ⟨hstate, hcorrupt, hseries, hsnapshot, not_not.1 hidentity, not_not.1 hparent,
      (succ_eq_iff _ _).1 hsequence, (generation_iff _ _).1 hgeneration⟩
  · intro h
    rw [if_neg (by simp [h.state, h.corrupt, h.series, h.snapshot]),
      if_neg (not_not.2 h.recordIdentity), if_neg (not_not.2 h.parent),
      if_neg ((succ_eq_iff _ _).2 h.sequence), if_neg ((generation_iff _ _).2 h.generation)]

/-! ## The terminal -/

/-- A terminal that leaves open whether the publication was committed. -/
def PublicationTerminal.leavesOpen (terminal : PublicationTerminal) : Prop :=
  terminal = .publicationOutcomeUnknown ∨ terminal = .committedUnverified

/-- A terminal that says that nothing was committed. -/
def PublicationTerminal.rejects (terminal : PublicationTerminal) : Prop :=
  terminal = .rejectedStale ∨ terminal = .rejectedStoreFailure

/-- A reported failure leaves the outcome open unless the backend excludes an effect. -/
theorem operationFailed_terminal (observation : TerminalObservation) (effect : EffectResult)
    (failure : Error) (h : observation.terminal = .committedUnverified) :
    (operationFailed observation effect failure).terminal.leavesOpen ∨
      ((operationFailed observation effect failure).terminal.rejects ∧
        effect.effectMayHaveOccurred = false) := by
  unfold operationFailed
  simp only
  generalize classifyError _ _ _ _ _ = classification
  split_ifs with hopen
  · exact .inl (.inr h)
  · simp only [not_or, not_and, Bool.not_eq_true] at hopen
    cases classification with
    | staleParent => exact .inr ⟨.inl rfl, hopen.2.1 (.inl rfl)⟩
    | corruptStore => exact .inr ⟨.inr rfl, hopen.2.1 (.inr rfl)⟩
    | sqliteFailure => exact .inl (.inl rfl)
    | resourceLimit => exact absurd rfl hopen.2.2.2
    | invariantBreach => exact absurd rfl hopen.2.2.1

/-- The reopened store either confirms the record or leaves the outcome open. -/
theorem verifyReopened_terminal (observation : TerminalObservation)
    (returned : PublicationObservation) (outcome : CallOutcome ReopenObservation)
    (h : observation.terminal = .committedUnverified) :
    ((verifyReopened observation returned outcome).terminal.leavesOpen ∧
        ∀ observed, outcome = .returned (.ok observed) →
          ¬ observed.Confirms observation.expectedHead returned observation.candidateSnapshot) ∨
      ((verifyReopened observation returned outcome).terminal = .committedVerified ∧
        ∃ observed, outcome = .returned (.ok observed) ∧
          observed.Confirms observation.expectedHead returned observation.candidateSnapshot) := by
  cases outcome with
  | badAlloc => exact .inl ⟨.inr h, fun _ hother => by cases hother⟩
  | exception what => exact .inl ⟨.inr h, fun _ hother => by cases hother⟩
  | nonStandard => exact .inl ⟨.inr h, fun _ hother => by cases hother⟩
  | returned result =>
      cases result with
      | error error => exact .inl ⟨.inr h, fun _ hother => by cases hother⟩
      | ok observed =>
          have hiff := validateReopenObservation_iff observation.expectedHead returned
            observation.candidateSnapshot observed
          unfold verifyReopened
          simp only
          split
          · rename_i error hinvalid
            refine .inl ⟨.inr h, ?_⟩
            intro other hother hconfirms
            cases hother
            exact absurd (hinvalid.symm.trans (hiff.2 hconfirms)) (by simp)
          · rename_i hvalid
            exact .inr ⟨rfl, observed, rfl, hiff.1 hvalid⟩

theorem PublicationTerminal.leavesOpen.ne_verified {terminal : PublicationTerminal}
    (h : terminal.leavesOpen) : terminal ≠ .committedVerified := by
  rcases h with rfl | rfl <;> simp

theorem PublicationTerminal.rejects.ne_verified {terminal : PublicationTerminal}
    (h : terminal.rejects) : terminal ≠ .committedVerified := by
  rcases h with rfl | rfl <;> simp

theorem PublicationTerminal.leavesOpen.not_rejects {terminal : PublicationTerminal}
    (h : terminal.leavesOpen) : ¬ terminal.rejects := by
  unfold PublicationTerminal.rejects
  rcases h with rfl | rfl <;> simp

variable (hash) in
/-- What a terminal has to be true of. -/
structure Truthful (port : BackendPort) (publication : Nat) (calls : List PortCall)
    (identity terminal : TerminalObservation) : Prop where
  verified : terminal.terminal = .committedVerified ↔ ∃ effect returned observed,
    VerifiedCommit hash port publication calls identity effect returned observed
  rejected : terminal.terminal.rejects → ∃ effect, port.publishOnce calls = .returned (.ok effect) ∧
    effect.failure ≠ none ∧ effect.effectMayHaveOccurred = false
  otherwise : terminal.terminal = .committedVerified ∨ terminal.terminal.rejects ∨
    terminal.terminal.leavesOpen

variable {publication : Nat} {calls : List PortCall}

/-- A terminal that leaves the outcome open is truthful where no commit can be verified. -/
theorem truthful_of_leavesOpen {port : BackendPort} {identity terminal : TerminalObservation}
    (hopen : terminal.terminal.leavesOpen)
    (hnot : ∀ effect returned observed,
      ¬ VerifiedCommit hash port publication calls identity effect returned observed) :
    Truthful hash port publication calls identity terminal where
  verified := by
    constructor
    · intro h
      exact absurd h hopen.ne_verified
    · intro h
      obtain ⟨effect, returned, observed, hverified⟩ := h
      exact absurd hverified (hnot effect returned observed)
  rejected := fun h => absurd h hopen.not_rejects
  otherwise := .inr (.inr hopen)

/-- A call of the backend that failed leaves the outcome open. -/
theorem truthful_of_callFailed {port : BackendPort} {identity : TerminalObservation} {error : Error}
    (hcall : ∀ effect, port.publishOnce calls ≠ .returned (.ok effect)) :
    Truthful hash port publication calls identity
      (identity.attempted.callFailed error) := by
  refine truthful_of_leavesOpen (.inr rfl) ?_
  intro effect returned observed hverified
  exact hcall effect hverified.called

/-- The backend returned: the terminal is truthful on every path. -/
theorem afterEffect_truthful {port : BackendPort} {identity : TerminalObservation}
    {effect : EffectResult} (hcall : port.publishOnce calls = .returned (.ok effect)) :
    Truthful hash port publication calls identity
      (afterEffect hash port publication (calls ++ [⟨publication, .publishOnce⟩]) identity.attempted
        effect).1 := by
  -- whatever was returned is what a verified commit has returned
  have hsame : ∀ {effect' returned observed},
      VerifiedCommit hash port publication calls identity effect' returned observed →
      effect' = effect := by
    intro effect' returned observed hverified
    have heq := hverified.called.symm.trans hcall
    injection heq with heq
    exact Except.ok.inj heq
  unfold afterEffect
  simp only
  cases hfailure : effect.failure with
  | some failure =>
      simp only
      rcases operationFailed_terminal { identity.attempted with
        publicationAttempted := effect.operationAttempted } effect failure rfl with hopen | ⟨hrejects, hnone⟩
      · refine truthful_of_leavesOpen hopen ?_
        intro effect' returned observed hverified
        obtain rfl := hsame hverified
        exact absurd (hfailure.symm.trans hverified.failure) (by simp)
      · refine ⟨?_, fun _ => ⟨effect, hcall, by simp [hfailure], hnone⟩, .inr (.inl hrejects)⟩
        constructor
        · intro h
          exact absurd h hrejects.ne_verified
        · intro h
          obtain ⟨effect', returned, observed, hverified⟩ := h
          obtain rfl := hsame hverified
          exact absurd (hfailure.symm.trans hverified.failure) (by simp)
  | none =>
      simp only
      cases hpublication : effect.publication with
      | none =>
          refine truthful_of_leavesOpen (.inr rfl) ?_
          intro effect' returned observed hverified
          obtain rfl := hsame hverified
          exact absurd (hpublication.symm.trans hverified.publicationReturned) (by simp)
      | some returned =>
          simp only
          have hreturned : ∀ {effect' other observed},
              VerifiedCommit hash port publication calls identity effect' other observed →
              other = returned := by
            intro effect' other observed hverified
            obtain rfl := hsame hverified
            exact Option.some.inj (hverified.publicationReturned.symm.trans hpublication)
          split_ifs with hmissing
          · refine truthful_of_leavesOpen (.inr rfl) ?_
            intro effect' other observed hverified
            obtain rfl := hsame hverified
            simp [hverified.attempted, hverified.mayHaveOccurred, hverified.handle] at hmissing
          · simp only [not_or, Bool.not_eq_false] at hmissing
            obtain ⟨hattempted, hmay, hhandle⟩ := hmissing
            split
            · rename_i reason hreason
              refine truthful_of_leavesOpen (.inr rfl) ?_
              intro effect' other observed hverified
              obtain rfl := hreturned hverified
              have hnone := (recordFailure_eq_none_iff { identity.attempted with
                  publicationAttempted := effect.operationAttempted
                  returnedPublication := some other } other).2
                ⟨hverified.record.1, hverified.record.2, hverified.record.3, hverified.record.4,
                  hverified.record.5, hverified.record.6, hverified.record.7, hverified.record.8⟩
              exact absurd (hreason.symm.trans hnone) (by simp)
            · rename_i hnone
              have hright := (recordFailure_eq_none_iff _ _).1 hnone
              have hrecord : RightRecord hash identity returned :=
                ⟨hright.1, hright.2, hright.3, hright.4, hright.5, hright.6, hright.7, hright.8⟩
              rcases verifyReopened_terminal { identity.attempted with
                publicationAttempted := effect.operationAttempted
                returnedPublication := some returned } returned
                (port.reopen (calls ++ [⟨publication, .publishOnce⟩])) rfl with
                ⟨hopen, hnot⟩ | ⟨hverified, observed, hreopened, hconfirms⟩
              · refine truthful_of_leavesOpen hopen ?_
                intro effect' other observed hverified
                obtain rfl := hreturned hverified
                exact hnot observed hverified.reopened hverified.confirms
              · refine ⟨?_, ?_, .inl hverified⟩
                · constructor
                  · intro h
                    exact ⟨effect, returned, observed, hcall, hfailure, hattempted, hmay, hhandle,
                      hpublication, hrecord, hreopened, hconfirms⟩
                  · intro h
                    exact hverified
                · intro h
                  exact absurd hverified h.ne_verified

/-- Whatever the backend does, a publication that can still be published gets a terminal, and the
    terminal is truthful. -/
theorem publishOnce_truthful {port : BackendPort} {identity : TerminalObservation} :
    ∃ terminal, (publishOnce hash publication (some { port := some port, identity := identity })
        calls).1 = .ok terminal ∧
      Truthful hash port publication calls identity terminal := by
  unfold publishOnce
  simp only
  rw [if_neg (by simp)]
  split
  · rename_i hcall
    exact ⟨_, rfl, truthful_of_callFailed fun effect => by rw [hcall]; simp⟩
  · rename_i what hcall
    exact ⟨_, rfl, truthful_of_callFailed fun effect => by rw [hcall]; simp⟩
  · rename_i hcall
    exact ⟨_, rfl, truthful_of_callFailed fun effect => by rw [hcall]; simp⟩
  · rename_i error hcall
    exact ⟨_, rfl, truthful_of_callFailed fun effect => by rw [hcall]; simp⟩
  · rename_i effect hcall
    exact ⟨_, rfl, afterEffect_truthful hcall⟩

/-! ## At most one call -/

/-- The publications that have been bound and the calls made for them. A publication that was published
    has been moved from. -/
structure Custody where
  publications : List (Option ValidatedPublication) := []
  calls : List PortCall := []

/-- What can be done with publications. -/
inductive Operation where
  | bind (value : ValidatedPublication)
  | publish (publication : Nat)

variable (hash)

/-- One operation. -/
def Custody.step (custody : Custody) : Operation → Custody
  | .bind value => { custody with publications := custody.publications ++ [some value] }
  | .publish publication =>
    { publications := custody.publications.set publication none
      calls := (publishOnce hash publication (custody.publications[publication]?.join)
        custody.calls).2 }

/-- Operations in a row. -/
def Custody.run (operations : List Operation) : Custody :=
  operations.foldl (Custody.step hash) {}

variable {hash}

/-- The effect-capable calls for a publication. -/
def effectCalls (calls : List PortCall) (publication : Nat) : Nat :=
  calls.count ⟨publication, .publishOnce⟩

/-- A publication that can still be published has caused no call, and any other at most one. -/
structure Custody.Once (custody : Custody) : Prop where
  available : ∀ publication value, custody.publications[publication]? = some (some value) →
    effectCalls custody.calls publication = 0
  unbound : ∀ publication, custody.publications.length ≤ publication →
    effectCalls custody.calls publication = 0
  once : ∀ publication, effectCalls custody.calls publication ≤ 1

theorem afterEffect_calls {port : BackendPort} {observation : TerminalObservation}
    {effect : EffectResult} (other : Nat) :
    effectCalls (afterEffect hash port publication calls observation effect).2 other =
      effectCalls calls other := by
  unfold afterEffect effectCalls
  simp only
  split
  · rfl
  · split
    · rfl
    · split_ifs
      · rfl
      · split
        · rfl
        · rw [List.count_append]
          simp

/-- Publishing calls the backend once where there is something to publish, for nothing else. -/
theorem publishOnce_calls (hash : Bytes → Bytes) (publication : Nat) (calls : List PortCall)
    (state : Option ValidatedPublication) (other : Nat) :
    effectCalls (publishOnce hash publication state calls).2 other = effectCalls calls other ∨
      (other = publication ∧ state ≠ none ∧
        effectCalls (publishOnce hash publication state calls).2 other =
          effectCalls calls other + 1) := by
  have happend : effectCalls (calls ++ [⟨publication, .publishOnce⟩]) other =
      effectCalls calls other + if publication = other then 1 else 0 := by
    unfold effectCalls
    rw [List.count_append, List.count_singleton]
    simp
  have hcalled : ∀ {calls' : List PortCall}, effectCalls calls' other =
      effectCalls (calls ++ [⟨publication, .publishOnce⟩]) other → ∀ value,
      effectCalls calls' other = effectCalls calls other ∨
        (other = publication ∧ some value ≠ (none : Option ValidatedPublication) ∧
          effectCalls calls' other = effectCalls calls other + 1) := by
    intro calls' hcalls value
    by_cases heq : publication = other
    · exact .inr ⟨heq.symm, by simp, by rw [hcalls, happend, if_pos heq]⟩
    · exact .inl (by rw [hcalls, happend, if_neg heq, Nat.add_zero])
  cases state with
  | none => exact .inl rfl
  | some value =>
      unfold publishOnce
      simp only
      cases value.port with
      | none => exact .inl rfl
      | some port =>
          simp only
          split_ifs
          · exact .inl rfl
          · split
            · exact hcalled rfl value
            · exact hcalled rfl value
            · exact hcalled rfl value
            · exact hcalled rfl value
            · exact hcalled (afterEffect_calls other) value

/-- Every operation keeps the invariant. -/
theorem Custody.Once.step {custody : Custody} (h : custody.Once) (operation : Operation) :
    (custody.step hash operation).Once := by
  cases operation with
  | bind value =>
      refine ⟨?_, ?_, h.once⟩
      · intro publication other hother
        by_cases hlt : publication < custody.publications.length
        · refine h.available publication other ?_
          rw [← hother]
          exact (List.getElem?_append_left hlt).symm
        · exact h.unbound publication (not_lt.1 hlt)
      · intro publication hle
        refine h.unbound publication ?_
        simp only [Custody.step, List.length_append, List.length_singleton] at hle
        omega
  | publish target =>
      have hfresh : ∀ value, custody.publications[target]?.join = some value →
          effectCalls custody.calls target = 0 := by
        intro value hvalue
        refine h.available target value ?_
        rw [Option.join_eq_some_iff] at hvalue
        exact hvalue
      refine ⟨?_, ?_, ?_⟩
      · intro publication value hvalue
        simp only [Custody.step, List.getElem?_set] at hvalue ⊢
        split_ifs at hvalue with heq hlt
        · cases hvalue
        · have hsame := h.available publication value hvalue
          rcases publishOnce_calls hash target custody.calls
            custody.publications[target]?.join publication with hcalls | ⟨rfl, -, -⟩
          · rw [hcalls, hsame]
          · exact absurd rfl heq
      · intro publication hle
        simp only [Custody.step, List.length_set] at hle ⊢
        rcases publishOnce_calls hash target custody.calls
          custody.publications[target]?.join publication with hcalls | ⟨rfl, hsome, -⟩
        · rw [hcalls, h.unbound publication hle]
        · rw [List.getElem?_eq_none hle] at hsome
          exact absurd rfl hsome
      · intro publication
        simp only [Custody.step]
        rcases publishOnce_calls hash target custody.calls
          custody.publications[target]?.join publication with hcalls | ⟨rfl, hsome, hcalls⟩
        · rw [hcalls]
          exact h.once publication
        · obtain ⟨value, hvalue⟩ := Option.ne_none_iff_exists'.1 hsome
          rw [hcalls, hfresh value hvalue]

theorem Custody.once_run (operations : List Operation) : (Custody.run hash operations).Once := by
  unfold Custody.run
  induction operations using List.reverseRecOn with
  | nil => exact ⟨fun _ _ _ => rfl, fun _ _ => rfl, fun _ => Nat.zero_le _⟩
  | append_singleton operations operation ih =>
      rw [List.foldl_append]
      exact ih.step operation

/-- **A publication is attempted at most once, and its terminal tells the truth.** Whatever is done with
    any number of publications, the backend is called at most once for each; and whatever the backend
    does, a publication that is published gets a terminal: a verified commit exactly where the record
    and the reopened store confirm it, a rejection only where the backend excludes an effect, and an
    open outcome otherwise. -/
theorem publication_tells_the_truth :
    (∀ (operations : List Operation) (publication : Nat),
      effectCalls (Custody.run hash operations).calls publication ≤ 1) ∧
    ∀ (publication : Nat) (calls : List PortCall) (port : BackendPort)
      (identity : TerminalObservation),
      ∃ terminal, (publishOnce hash publication (some { port := some port, identity := identity })
          calls).1 = .ok terminal ∧
        Truthful hash port publication calls identity terminal :=
  ⟨fun operations => (Custody.once_run operations).once, fun _ _ _ _ => publishOnce_truthful⟩

end Publish

end Cxxlens.Sdk.BoundedStore
