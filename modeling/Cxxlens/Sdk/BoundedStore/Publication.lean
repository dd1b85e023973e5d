import Cxxlens.Sdk.Digest

set_option autoImplicit false

/-! # Publishing once

`publish_once` of the bounded store (`bounded_store_v6_internal.cpp`): one call of the backend that may
have an effect, the classification of what it reports, and the verification of what it returns against
a fresh opening of the store. The backend is a port whose answers may depend on everything it has been
asked before; it may also throw. -/

namespace Cxxlens.Sdk.BoundedStore

/-! ## Observations -/

/-- `bounded_store_v6_backend` -/
inductive Backend where
  | memory
  | sqlite
  | unnamed (value : UInt8)
  deriving DecidableEq, Repr

/-- `publication_state` -/
inductive PublicationState where
  | created
  | staged
  | validating
  | committed
  | rejected
  | rolledBack
  | unnamed (value : UInt8)
  deriving DecidableEq, Repr

/-- `bounded_store_v6_publication_terminal` -/
inductive PublicationTerminal where
  | notAttempted
  | rejectedStale
  | rejectedStoreFailure
  | publicationOutcomeUnknown
  | committedUnverified
  | committedVerified
  deriving DecidableEq, Repr

/-- `bounded_store_v6_verification_failure` -/
inductive VerificationFailure where
  | returnedHandleMissing
  | returnedPublicationFields
  | publicationIdentity
  | parentPublication
  | publicationSequence
  | physicalGeneration
  | reopenObservation
  | localVerificationUnavailable
  deriving DecidableEq, Repr

/-- `bounded_store_v6_error_class` -/
inductive ErrorClass where
  | staleParent
  | sqliteFailure
  | corruptStore
  | resourceLimit
  | invariantBreach
  deriving DecidableEq, Repr

/-- `bounded_store_v6_publication_observation` -/
structure PublicationObservation where
  publicationId : Bytes
  seriesId : Bytes
  snapshotId : Bytes
  sequence : UInt64
  physicalGeneration : UInt64
  parentPublication : Option Bytes
  state : PublicationState
  corrupt : Bool
  deriving DecidableEq, Repr

/-- `bounded_store_v6_snapshot_observation` -/
structure SnapshotObservation where
  snapshotId : Bytes
  partitionCount : UInt64
  rowCount : UInt64
  claimCount : UInt64
  coverageCount : UInt64
  unresolvedCount : UInt64
  semanticProjectionDigest : Bytes
  canonicalExportDigest : Bytes
  deriving DecidableEq, Repr

/-- `bounded_store_v6_lookup_observation::state` -/
inductive LookupStatus where
  | notAttempted
  | present
  | notFound
  | failed
  | unnamed (value : UInt8)
  deriving DecidableEq, Repr

/-- `bounded_store_v6_lookup_observation` -/
structure LookupObservation where
  status : LookupStatus := .notAttempted
  failure : Option Error := none
  publication : Option PublicationObservation := none
  snapshot : Option SnapshotObservation := none
  deriving DecidableEq, Repr

/-- `bounded_store_v6_reopen_observation` -/
structure ReopenObservation where
  factoryAttempted : Bool := false
  factoryError : Option Error := none
  freshBackendBinding : Bytes := []
  current : LookupObservation := {}
  expectedParent : LookupObservation := {}
  publication : LookupObservation := {}
  snapshot : LookupObservation := {}
  canonicalExportDigest : Option Bytes := none
  canonicalExportError : Option Error := none
  deriving DecidableEq, Repr

/-- `bounded_store_v6_effect_result` -/
structure EffectResult where
  failure : Option Error := none
  publication : Option PublicationObservation := none
  operationAttempted : Bool := false
  effectMayHaveOccurred : Bool := false
  returnedHandle : Bool := false
  deriving DecidableEq, Repr

/-- What publication reads of `bounded_store_v6_expected_head`. -/
structure ExpectedHead where
  publication : Option PublicationObservation
  snapshot : Option SnapshotObservation
  deriving DecidableEq, Repr

/-- `bounded_store_v6_terminal_observation` -/
structure TerminalObservation where
  backend : Backend
  stagingSessionId : Bytes
  candidateId : Bytes
  candidateSnapshotId : Bytes
  candidateSnapshot : SnapshotObservation
  expectedHead : ExpectedHead
  seriesId : Bytes
  physicalAnchorBinding : Bytes
  physicalBinarySha256 : Bytes
  terminal : PublicationTerminal := .notAttempted
  publishCallCount : UInt32 := 0
  publicationAttempted : Bool := false
  sdkError : Option Error := none
  backendCallError : Option Error := none
  verificationFailure : Option VerificationFailure := none
  returnedPublication : Option PublicationObservation := none
  returnedSnapshot : Option SnapshotObservation := none
  returnedExportDigest : Option Bytes := none
  reopen : ReopenObservation := {}
  deriving DecidableEq, Repr

/-! ## The port -/

/-- What a call of the port can do: return, run out of memory, or throw. -/
inductive CallOutcome (α : Type) where
  | returned (result : Result α)
  | badAlloc
  | exception (what : Option Bytes)
  | nonStandard

inductive PortOperation where
  | publishOnce
  | reopen
  deriving DecidableEq, Repr

/-- A call of a port on behalf of a publication. -/
structure PortCall where
  publication : Nat
  operation : PortOperation
  deriving DecidableEq, Repr

/-- `bounded_store_v6_backend_port`, as far as publication calls it. An answer may depend on all calls
    before it. -/
structure BackendPort where
  publishOnce : List PortCall → CallOutcome EffectResult
  reopen : List PortCall → CallOutcome ReopenObservation

/-! ## Errors -/

/-- `invariant` -/
def invariant (field detail : Bytes) : Error :=
  { code := "store.invariant-breach", field := field, detail := detail }

/-- `resource` -/
def resource (field detail : Bytes) : Error :=
  { code := "store.resource-limit", field := field, detail := detail }

/-- `allocation_failure` -/
def allocationFailure : Error :=
  resource "allocation" "unavailable"

/-- `exception_failure` -/
def exceptionFailure (backend : Backend) (what : Option Bytes) : Error :=
  if backend = .sqlite then
    { code := "store.sqlite-failure", field := "database", detail := what.getD "exception" }
  else invariant "publish" (what.getD "exception")

/-- `classify_bounded_store_v6_error` -/
def classifyError (backend : Backend) (seriesId candidateSnapshotId expectedPublicationId : Bytes)
    (value : Error) : ErrorClass :=
  if backend ≠ .sqlite then .invariantBreach
  else if value.code = "store.publication-conflict" ∧ value.field = seriesId ∧ value.detail = [] then
    .staleParent
  else if value.code = "store.sqlite-failure" ∧ value.field = "database" ∧ value.detail ≠ [] then
    .sqliteFailure
  else if value.code = "store.counter-overflow" ∧ value.detail = [] ∧
      (value.field = "publication_sequence" ∨ value.field = "physical_generation") then
    .corruptStore
  else if value.code = "store.hash-collision" ∧ value.detail = [] ∧
      value.field = candidateSnapshotId then
    .corruptStore
  else if value.code = "store.snapshot-ambiguous" ∧ value.detail = [] ∧
      value.field = candidateSnapshotId then
    .corruptStore
  else if value.code = "store.corrupt" then
    let sqliteTuple := value.field = "sqlite" ∧
      ([("backend" : Bytes), "column-count", "publication-row", "series-head-count", "series-head",
        "series-head-sequence"].contains value.detail) = true
    let publicationTuple := value.field = expectedPublicationId ∧ expectedPublicationId ≠ [] ∧
      ([("authority-record" : Bytes), "duplicate-publication-id", "parent",
        "parent-sequence"].contains value.detail) = true
    let seriesTuple := value.field = seriesId ∧
      ([("duplicate-sequence" : Bytes), "series-roots", "series-head-cas"].contains
        value.detail) = true
    if sqliteTuple ∨ publicationTuple ∨ seriesTuple then .corruptStore else .invariantBreach
  else .invariantBreach

/-! ## Reopening -/

/-- `same_logical_publication` -/
def sameLogicalPublication (expected observed : PublicationObservation) : Bool :=
  expected.publicationId == observed.publicationId && expected.seriesId == observed.seriesId &&
    expected.snapshotId == observed.snapshotId && expected.sequence == observed.sequence &&
    expected.parentPublication == observed.parentPublication && expected.state == observed.state &&
    expected.corrupt == observed.corrupt &&
    decide (expected.physicalGeneration ≤ observed.physicalGeneration) &&
    observed.physicalGeneration != 0

/-- `closed_lookup` -/
def LookupObservation.closed (value : LookupObservation) : Bool :=
  match value.status with
  | .notAttempted => value.failure.isNone && value.publication.isNone && value.snapshot.isNone
  | .present => value.failure.isNone && value.publication.isSome && value.snapshot.isSome
  | .notFound => value.failure.isNone && value.publication.isNone && value.snapshot.isNone
  | .failed => value.failure.isSome && value.publication.isNone && value.snapshot.isNone
  | .unnamed _ => false

/-- A lookup that finds this publication with this snapshot. -/
def LookupObservation.finds (value : LookupObservation) (publication : PublicationObservation)
    (snapshot : SnapshotObservation) : Bool :=
  value.status == .present &&
    (value.publication.elim false fun found => sameLogicalPublication publication found) &&
    value.snapshot == some snapshot

/-- `parent_valid` -/
def parentValid (expectedHead : ExpectedHead) (observed : LookupObservation) : Bool :=
  match expectedHead.publication, expectedHead.snapshot with
  | some publication, some snapshot => observed.finds publication snapshot
  | none, none => observed.status == .notFound
  | _, _ => false

/-- `validate_bounded_store_v6_reopen_observation` -/
def validateReopenObservation (expectedHead : ExpectedHead) (committed : PublicationObservation)
    (candidateSnapshot : SnapshotObservation) (observed : ReopenObservation) : Result Unit :=
  if !observed.current.closed || !observed.expectedParent.closed || !observed.publication.closed ||
      !observed.snapshot.closed then
    .error (invariant "reopen" "non-total-lookup")
  else if !observed.factoryAttempted || observed.factoryError.isSome ||
      observed.freshBackendBinding.isEmpty || !parentValid expectedHead observed.expectedParent ||
      !observed.current.finds committed candidateSnapshot ||
      !observed.publication.finds committed candidateSnapshot ||
      !observed.snapshot.finds committed candidateSnapshot ||
      !(observed.canonicalExportDigest == some candidateSnapshot.canonicalExportDigest &&
        observed.canonicalExportError.isNone) then
    .error (invariant "reopen" "verification-mismatch")
  else .ok ()

/-! ## Publication -/

section Publish

variable (hash : Bytes → Bytes)

/-- `store_identity_counter_integer` -/
def storeIdentityCounterInteger (value : UInt64) : Int64 :=
  if value ≤ 0x7fffffffffffffff then value.toInt64
  else -1 - (0xffffffffffffffff - value).toInt64

/-- `publication_record_identity` -/
def publicationRecordIdentity (seriesId snapshotId : Bytes) (sequence : UInt64)
    (parentPublication : Option Bytes) : Result Bytes :=
  canonicalIdentityDigest hash "publication"
    [.fromString seriesId, .fromString snapshotId,
      .fromInteger (storeIdentityCounterInteger sequence),
      .fromString (parentPublication.getD [])]

/-- The publication the head names, if it names one. -/
def ExpectedHead.publicationId (head : ExpectedHead) : Option Bytes :=
  head.publication.map PublicationObservation.publicationId

/-- The sequence before this publication. -/
def ExpectedHead.priorSequence (head : ExpectedHead) : UInt64 :=
  head.publication.elim 0 PublicationObservation.sequence

/-- The generation before this publication. -/
def ExpectedHead.priorGeneration (head : ExpectedHead) : UInt64 :=
  head.publication.elim 0 PublicationObservation.physicalGeneration

/-- The checks of `publish_once` on the returned record: the first that fails. -/
def recordFailure (observation : TerminalObservation) (returned : PublicationObservation) :
    Option VerificationFailure :=
  let head := observation.expectedHead
  if returned.state ≠ .committed ∨ returned.corrupt = true ∨
      returned.seriesId ≠ observation.seriesId ∨
      returned.snapshotId ≠ observation.candidateSnapshotId then
    some .returnedPublicationFields
  else if publicationRecordIdentity hash returned.seriesId returned.snapshotId returned.sequence
      returned.parentPublication ≠ .ok returned.publicationId then
    some .publicationIdentity
  else if returned.parentPublication ≠ head.publicationId then some .parentPublication
  else if head.priorSequence = 0xffffffffffffffff ∨
      returned.sequence ≠ head.priorSequence + 1 then
    some .publicationSequence
  else if head.priorGeneration = 0xffffffffffffffff ∨
      returned.physicalGeneration ≤ head.priorGeneration then
    some .physicalGeneration
  else none

/-- The terminal with the reason why the record could not be verified. -/
def TerminalObservation.unverified (observation : TerminalObservation)
    (reason : VerificationFailure) : TerminalObservation :=
  { observation with verificationFailure := some reason }

/-- `publish_once` where the call of the backend itself failed. -/
def TerminalObservation.callFailed (observation : TerminalObservation) (error : Error) :
    TerminalObservation :=
  { observation.unverified .localVerificationUnavailable with backendCallError := some error }

/-- `publish_once` where the backend reports a failure of the operation. -/
def operationFailed (observation : TerminalObservation) (effect : EffectResult)
    (failure : Error) : TerminalObservation :=
  let classification := classifyError observation.backend observation.seriesId
    observation.candidateSnapshotId (observation.expectedHead.publicationId.getD []) failure
  if effect.operationAttempted = false ∨
      ((classification = .staleParent ∨ classification = .corruptStore) ∧
        effect.effectMayHaveOccurred = true) ∨
      classification = .invariantBreach ∨ classification = .resourceLimit then
    observation.callFailed failure
  else
    { observation with
      sdkError := some failure
      terminal :=
        match classification with
        | .staleParent => .rejectedStale
        | .sqliteFailure => .publicationOutcomeUnknown
        | .corruptStore => .rejectedStoreFailure
        | _ => observation.terminal }

/-- The last part of `publish_once`: the returned record against the reopened store. -/
def verifyReopened (observation : TerminalObservation) (returned : PublicationObservation)
    (outcome : CallOutcome ReopenObservation) : TerminalObservation :=
  match outcome with
  | .returned (.error error) =>
    { observation.unverified .reopenObservation with
      reopen := { observation.reopen with factoryAttempted := true, factoryError := some error } }
  | .returned (.ok observed) =>
    let observation := { observation with reopen := observed }
    match validateReopenObservation observation.expectedHead returned observation.candidateSnapshot
      observed with
    | .error _ => observation.unverified .reopenObservation
    | .ok () =>
      { observation with
        returnedSnapshot := observed.snapshot.snapshot
        returnedExportDigest := observed.canonicalExportDigest
        terminal := .committedVerified }
  | _ => observation.unverified .localVerificationUnavailable

/-- `publish_once` after the backend has returned an effect; the calls made so far come with it. -/
def afterEffect (port : BackendPort) (publication : Nat) (calls : List PortCall)
    (observation : TerminalObservation) (effect : EffectResult) :
    TerminalObservation × List PortCall :=
  let observation := { observation with publicationAttempted := effect.operationAttempted }
  match effect.failure with
  | some failure => (operationFailed observation effect failure, calls)
  | none =>
    let observation := { observation with returnedPublication := effect.publication }
    match effect.publication with
    | none => (observation.unverified .returnedHandleMissing, calls)
    | some returned =>
      if effect.operationAttempted = false ∨ effect.effectMayHaveOccurred = false ∨
          effect.returnedHandle = false then
        (observation.unverified .returnedHandleMissing, calls)
      else
        match recordFailure hash observation returned with
        | some reason => (observation.unverified reason, calls)
        | none => (verifyReopened observation returned (port.reopen calls),
            calls ++ [⟨publication, .reopen⟩])

/-- The state of a `bounded_store_validated_publication`. -/
structure ValidatedPublication where
  port : Option BackendPort
  identity : TerminalObservation
  consumed : Bool := false

/-- The terminal installed before the backend is called. -/
def TerminalObservation.attempted (identity : TerminalObservation) : TerminalObservation :=
  { identity with
    publishCallCount := 1
    publicationAttempted := true
    terminal := .committedUnverified }

/-- `publish_once`; a publication that was moved from has no state. -/
def publishOnce (publication : Nat) (state : Option ValidatedPublication) (calls : List PortCall) :
    Result TerminalObservation × List PortCall :=
  match state with
  | none => (.error (invariant "publish" "not-ready"), calls)
  | some value =>
    match value.port with
    | none => (.error (invariant "publish" "not-ready"), calls)
    | some port =>
      if value.consumed = true then (.error (invariant "publish" "not-ready"), calls)
      else
        let observation := value.identity.attempted
        let called := calls ++ [⟨publication, .publishOnce⟩]
        match port.publishOnce calls with
        | .badAlloc => (.ok (observation.callFailed allocationFailure), called)
        | .exception what =>
          (.ok (observation.callFailed (exceptionFailure observation.backend what)), called)
        | .nonStandard =>
          (.ok (observation.callFailed (exceptionFailure observation.backend
            (some "non-standard-exception"))), called)
        | .returned (.error error) => (.ok (observation.callFailed error), called)
        | .returned (.ok effect) =>
          let (terminal, calls) := afterEffect hash port publication called observation effect
          (.ok terminal, calls)

end Publish

end Cxxlens.Sdk.BoundedStore
