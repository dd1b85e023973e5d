import Cxxlens.Sdk.Sqlite.IncrementalSha256

set_option autoImplicit false

/-! # The authenticated cursor

`snapshot_store_v5_authenticated_cursor` of `snapshot_store_v5_codec_internal.cpp`: one forward
reread of a sealed payload. The source behind it is arbitrary: a state and what it answers to a
window. Allocation failures of the cursor itself are not modelled; what the source throws is. -/

namespace Cxxlens.Sdk.Store

open Sqlite (IncrementalSha256)

/-! ## Sources -/

/-- What `sqlite_bounded_byte_source::read` does with a window: it returns a number and leaves the
    window with some bytes, or an error, or it throws. -/
inductive SourceAnswer (window : Nat) where
  | returned (count : Nat) (output : Vector UInt8 window)
  | failed (error : Error)
  | threwBadAlloc
  | threw

/-- `sqlite_bounded_byte_source` -/
abbrev BoundedByteSource (σ : Type) := σ → (window : Nat) → SourceAnswer window × σ

/-! ## The cursor -/

/-- `snapshot_store_v5_reference_generation_binding`: a pin that still holds its generation. -/
structure ReferenceGenerationBinding where
  lifetimePin : Option UInt64
  generation : UInt64
  deriving DecidableEq, Repr

/-- `holds` -/
def ReferenceGenerationBinding.holds (binding : ReferenceGenerationBinding)
    (generation : UInt64) : Bool :=
  match binding.lifetimePin with
  | none => false
  | some pin => binding.generation == generation && pin == generation

/-- `snapshot_store_v5_reference_authority` -/
structure ReferenceAuthority where
  generation : ReferenceGenerationBinding
  snapshotId : Bytes
  publicationId : Bytes
  seriesId : Bytes
  sequence : UInt64
  physicalGeneration : UInt64
  deriving DecidableEq, Repr

/-- `snapshot_store_v5_staging_observation` -/
structure StagingObservation where
  byteCount : UInt64
  payloadSha256 : Bytes
  snapshotId : Bytes
  publicationId : Bytes
  seriesId : Bytes
  sequence : UInt64
  physicalGeneration : UInt64
  deriving DecidableEq, Repr

/-- The comparison of an authority with an observation, which `take_cursor` and `finish` make. -/
def ReferenceAuthority.binds (authority : ReferenceAuthority) (observation : StagingObservation) :
    Bool :=
  authority.generation.holds observation.physicalGeneration &&
    authority.snapshotId == observation.snapshotId &&
    authority.publicationId == observation.publicationId &&
    authority.seriesId == observation.seriesId &&
    authority.sequence == observation.sequence &&
    authority.physicalGeneration == observation.physicalGeneration

/-- `store_error` -/
def storeError (code field detail : Bytes) : Error :=
  { code := code, field := field, detail := detail }

/-- `snapshot_store_v5_authenticated_cursor::state`. The pass and the authority are owned by it; a
    pass that has been closed is `none`. No offset grows beyond the byte count, so it is a natural
    number. -/
structure CursorState (σ : Type) where
  source : Option σ
  authority : Option ReferenceAuthority
  observation : StagingObservation
  digest : IncrementalSha256 := {}
  offset : Nat := 0
  eofObserved : Bool := false
  finished : Bool := false

/-- `snapshot_store_v5_authenticated_cursor`; without a state it has been moved from. -/
structure AuthenticatedCursor (σ : Type) where
  state : Option (CursorState σ)

/-- What `take_cursor` makes of a pass. -/
def AuthenticatedCursor.opened {σ : Type} (source : σ) (authority : ReferenceAuthority)
    (observation : StagingObservation) : AuthenticatedCursor σ :=
  ⟨some { source := some source, authority := some authority, observation := observation }⟩

/-- The state behind an error: finished, and the pass closed. -/
def CursorState.closed {σ : Type} (state : CursorState σ) : CursorState σ :=
  { state with finished := true, source := none }

section Calls

variable {σ : Type} (answers : BoundedByteSource σ)

/-- The part of `read` that probes for a byte behind the last one. -/
def CursorState.probe (state : CursorState σ) (source : σ) : Result Bytes × CursorState σ :=
  match answers source 1 with
  | (.failed e, _) => (.error e, state.closed)
  | (.threwBadAlloc, _) =>
    (.error (storeError "store.allocation-failure" "snapshot-v5-cursor" "read"), state.closed)
  | (.threw, _) =>
    (.error (storeError "store.invariant-breach" "snapshot-v5-cursor" "read-exception"),
      state.closed)
  | (.returned count _, source) =>
    if count > 1 then
      (.error (storeError "store.corrupt" "snapshot-v5-staging" "cursor-window"), state.closed)
    else if count = 0 then (.ok [], { state with source := some source, eofObserved := true })
    else (.error (storeError "store.corrupt" "snapshot-v5-staging" "cursor-size"), state.closed)

/-- The part of `read` that reads from the source, into a window no larger than what remains. -/
def CursorState.take (state : CursorState σ) (source : σ) (remaining window : Nat) :
    Result Bytes × CursorState σ :=
  match answers source (min remaining window) with
  | (.failed e, _) => (.error e, state.closed)
  | (.threwBadAlloc, _) =>
    (.error (storeError "store.allocation-failure" "snapshot-v5-cursor" "read"), state.closed)
  | (.threw, _) =>
    (.error (storeError "store.invariant-breach" "snapshot-v5-cursor" "read-exception"),
      state.closed)
  | (.returned count output, source) =>
    if count > min remaining window then
      (.error (storeError "store.corrupt" "snapshot-v5-staging" "cursor-window"), state.closed)
    else if count = 0 then (.ok [], { state with source := some source, eofObserved := true })
    else if count > remaining then
      (.error (storeError "store.corrupt" "snapshot-v5-staging" "cursor-size"), state.closed)
    else
      match state.digest.update (output.toList.take count) with
      | .error e => (.error e, state.closed)
      | .ok digest =>
        (.ok (output.toList.take count),
          { state with source := some source, digest := digest, offset := state.offset + count })

/-- `snapshot_store_v5_authenticated_cursor::read` with a window of a size: the bytes that are
    returned in it. -/
def AuthenticatedCursor.read (cursor : AuthenticatedCursor σ) (window : Nat) :
    Result Bytes × AuthenticatedCursor σ :=
  let moved : Error := storeError "store.invariant-breach" "snapshot-v5-cursor" "moved-or-finished"
  match cursor.state with
  | none => (.error moved, cursor)
  | some state =>
    match state.source, state.authority, state.finished with
    | some source, some _, false =>
      if window = 0 then
        (.error (storeError "store.invariant-breach" "snapshot-v5-cursor" "empty-window"),
          ⟨some state.closed⟩)
      else if state.eofObserved then (.ok [], cursor)
      else if state.offset > state.observation.byteCount.toNat then
        (.error (storeError "store.corrupt" "snapshot-v5-staging" "cursor-size"),
          ⟨some state.closed⟩)
      else
        let remaining := state.observation.byteCount.toNat - state.offset
        let (answer, next) :=
          if remaining = 0 then state.probe answers source else state.take answers source remaining window
        (answer, ⟨some next⟩)
    | _, _, _ => (.error moved, cursor)

/-- The probe of `finish` for a byte behind the last one, unless the end has been seen. -/
def CursorState.atEnd (state : CursorState σ) (source : σ) : Result Unit :=
  if state.eofObserved then .ok ()
  else
    match (answers source 1).1 with
    | .failed e => .error e
    | .threwBadAlloc =>
      .error (storeError "store.allocation-failure" "snapshot-v5-cursor" "finish")
    | .threw => .error (storeError "store.invariant-breach" "snapshot-v5-cursor" "finish-exception")
    | .returned count _ =>
      if count ≠ 0 then
        .error (storeError "store.corrupt" "snapshot-v5-staging" "cursor-size")
      else .ok ()

/-- `snapshot_store_v5_authenticated_cursor::finish`, which moves the state out of the cursor before
    it looks at it. -/
def AuthenticatedCursor.finish (cursor : AuthenticatedCursor σ) :
    Result StagingObservation × AuthenticatedCursor σ :=
  let moved : Error := storeError "store.invariant-breach" "snapshot-v5-cursor" "moved-or-finished"
  (match cursor.state with
  | none => .error moved
  | some state =>
    match state.source, state.authority, state.finished with
    | some source, some authority, false =>
      if authority.binds state.observation = false then
        .error (storeError "store.corrupt" "snapshot-v5-binding" "authority")
      else if state.offset ≠ state.observation.byteCount.toNat then
        .error (storeError "store.corrupt" "snapshot-v5-staging" "cursor-size")
      else do
        state.atEnd answers source
        let digest ← state.digest.finish
        if digest ≠ state.observation.payloadSha256 then
          .error (storeError "store.corrupt" "snapshot-v5-staging" "cursor-digest")
        else .ok state.observation
    | _, _, _ => .error moved, ⟨none⟩)

end Calls

/-! ## Runs -/

inductive CursorCall where
  | read (window : Nat)
  | finish

inductive CursorAnswer where
  | read (result : Result Bytes)
  | finish (result : Result StagingObservation)

/-- An error of a read, or any answer of `finish`. -/
def CursorAnswer.terminal : CursorAnswer → Prop
  | .read (.ok _) => False
  | .read (.error _) => True
  | .finish _ => True

def CursorAnswer.succeeds : CursorAnswer → Prop
  | .read (.ok _) => True
  | .finish (.ok _) => True
  | _ => False

/-- The bytes of a read that succeeds. -/
def CursorAnswer.bytes : CursorAnswer → Bytes
  | .read (.ok bytes) => bytes
  | _ => []

/-- What the reads of a run have returned, one behind the other. -/
def returnedBytes (done : List CursorAnswer) : Bytes :=
  done.flatMap CursorAnswer.bytes

section Runs

variable {σ : Type} (answers : BoundedByteSource σ)

def AuthenticatedCursor.call (cursor : AuthenticatedCursor σ) :
    CursorCall → CursorAnswer × AuthenticatedCursor σ
  | .read window => ((.read (cursor.read answers window).1), (cursor.read answers window).2)
  | .finish => ((.finish (cursor.finish answers).1), (cursor.finish answers).2)

/-- The answers to a sequence of calls, and the cursor behind them. -/
def AuthenticatedCursor.run : AuthenticatedCursor σ → List CursorCall →
    List CursorAnswer × AuthenticatedCursor σ
  | cursor, [] => ([], cursor)
  | cursor, call :: rest =>
    let (answer, next) := cursor.call answers call
    let (done, final) := AuthenticatedCursor.run next rest
    (answer :: done, final)

/-- A source gives bytes by reads that return more than nothing. -/
inductive Delivers (start : σ) : Bytes → σ → Prop where
  | start : Delivers start [] start
  | more {bytes : Bytes} {source next : σ} {window count : Nat} {output : Vector UInt8 window}
      (before : Delivers start bytes source) (positive : 0 < count) (within : count ≤ window)
      (answer : answers source window = (.returned count output, next)) :
      Delivers start (bytes ++ output.toList.take count) next

/-- A source returns nothing in a window that is not empty. -/
def Ends (source : σ) : Prop :=
  ∃ window, 0 < window ∧ ∃ output, (answers source window).1 = .returned 0 output

/-- A cursor that goes on: it has hashed what it has returned, which the source has delivered. -/
structure Going (start : σ) (observation : StagingObservation) (done : List CursorAnswer)
    (state : CursorState σ) : Prop where
  going : ∀ answer ∈ done, ¬answer.terminal
  authority : state.authority.isSome = true
  observed : state.observation = observation
  unfinished : state.finished = false
  digest : state.digest.Holds (returnedBytes done)
  offset : state.offset = (returnedBytes done).length
  bounded : state.offset ≤ observation.byteCount.toNat
  source : ∃ source, state.source = some source ∧
    (state.eofObserved = false → Delivers answers start (returnedBytes done) source)
  ended : state.eofObserved = true →
    ∃ last, Delivers answers start (returnedBytes done) last ∧ Ends answers last

/-- A cursor that is moved from or finished. -/
def Closed (cursor : AuthenticatedCursor σ) : Prop :=
  ∀ state, cursor.state = some state → state.finished = true

end Runs

section Steps

variable {σ : Type} {answers : BoundedByteSource σ} {start source : σ}
  {observation : StagingObservation} {done : List CursorAnswer} {state : CursorState σ}
  {cursor : AuthenticatedCursor σ}

theorem closed_closed (state : CursorState σ) : Closed ⟨some state.closed⟩ := by
  intro other hother
  obtain rfl := Option.some.inj hother
  rfl

/-- A closed cursor answers with an error, and stays closed. -/
theorem Closed.call (h : Closed cursor) (call : CursorCall) :
    (cursor.call answers call).1.terminal ∧ ¬(cursor.call answers call).1.succeeds ∧
      Closed (cursor.call answers call).2 := by
  rcases cursor with ⟨_ | state⟩
  · rcases call with window | _
    · exact ⟨trivial, id, h⟩
    · exact ⟨trivial, id, h⟩
  · have hfinished := h state rfl
    rcases call with window | _
    · have hread : (AuthenticatedCursor.read answers ⟨some state⟩ window) = (.error
          (storeError "store.invariant-breach" "snapshot-v5-cursor" "moved-or-finished"),
            ⟨some state⟩) := by
        simp [AuthenticatedCursor.read, hfinished]
      simp only [AuthenticatedCursor.call, hread]
      exact ⟨trivial, id, h⟩
    · have hfinish : (AuthenticatedCursor.finish answers ⟨some state⟩) = (.error
          (storeError "store.invariant-breach" "snapshot-v5-cursor" "moved-or-finished"),
            ⟨none⟩) := by
        simp [AuthenticatedCursor.finish, hfinished]
      simp only [AuthenticatedCursor.call, hfinish]
      exact ⟨trivial, id, fun _ h => nomatch h⟩

theorem returnedBytes_concat (done : List CursorAnswer) (answer : CursorAnswer) :
    returnedBytes (done ++ [answer]) = returnedBytes done ++ answer.bytes := by
  simp [returnedBytes]

/-- A read that returns nothing at the end of the source. -/
theorem Going.end (h : Going answers start observation done state) {next last : σ}
    (hlast : Delivers answers start (returnedBytes done) last) (hends : Ends answers last) :
    Going answers start observation (done ++ [.read (.ok [])])
      { state with source := some next, eofObserved := true } where
  going answer hanswer := by
    rcases List.mem_append.1 hanswer with hanswer | hanswer
    · exact h.going answer hanswer
    · rw [List.mem_singleton.1 hanswer]
      exact id
  authority := h.authority
  observed := h.observed
  unfinished := h.unfinished
  digest := by simpa [returnedBytes_concat, CursorAnswer.bytes] using h.digest
  offset := by simpa [returnedBytes_concat, CursorAnswer.bytes] using h.offset
  bounded := h.bounded
  source := ⟨next, rfl, fun heof => nomatch heof⟩
  ended _ := ⟨last, by simpa [returnedBytes_concat, CursorAnswer.bytes] using hlast, hends⟩

/-- What a read does with a cursor that goes on: it returns bytes and goes on, or it fails and
    closes the cursor. -/
def Continues (answers : BoundedByteSource σ) (start : σ) (observation : StagingObservation)
    (done : List CursorAnswer) (result : Result Bytes × CursorState σ) : Prop :=
  (∃ bytes, result.1 = .ok bytes ∧
    Going answers start observation (done ++ [.read (.ok bytes)]) result.2) ∨
  ∃ e, result.1 = .error e ∧ result.2.finished = true

theorem Going.probe (h : Going answers start observation done state)
    (hdelivers : Delivers answers start (returnedBytes done) source) :
    Continues answers start observation done (state.probe answers source) := by
  unfold CursorState.probe
  rcases hanswer : answers source 1 with ⟨⟨count, output⟩ | e | _ | _, next⟩
  · dsimp only
    by_cases hmany : count > 1
    · rw [if_pos hmany]
      exact .inr ⟨_, rfl, rfl⟩
    · rw [if_neg hmany]
      by_cases hzero : count = 0
      · rw [if_pos hzero]
        subst hzero
        exact .inl ⟨[], rfl, h.end hdelivers ⟨1, Nat.one_pos, output, by rw [hanswer]⟩⟩
      · rw [if_neg hzero]
        exact .inr ⟨_, rfl, rfl⟩
  · exact .inr ⟨_, rfl, rfl⟩
  · exact .inr ⟨_, rfl, rfl⟩
  · exact .inr ⟨_, rfl, rfl⟩

theorem Going.take (h : Going answers start observation done state)
    (hdelivers : Delivers answers start (returnedBytes done) source)
    (heof : state.eofObserved = false) {remaining window : Nat} (hwindow : 0 < window)
    (hremaining : 0 < remaining)
    (hroom : state.offset + remaining = observation.byteCount.toNat) :
    Continues answers start observation done (state.take answers source remaining window) := by
  unfold CursorState.take
  rcases hanswer : answers source (min remaining window) with ⟨⟨count, output⟩ | e | _ | _, next⟩
  · dsimp only
    by_cases hmany : count > min remaining window
    · rw [if_pos hmany]
      exact .inr ⟨_, rfl, rfl⟩
    · rw [if_neg hmany]
      by_cases hzero : count = 0
      · rw [if_pos hzero]
        subst hzero
        exact .inl ⟨[], rfl, h.end hdelivers
          ⟨min remaining window, by omega, output, by rw [hanswer]⟩⟩
      · rw [if_neg hzero, if_neg (by omega)]
        rcases hupdate : state.digest.update (output.toList.take count) with e | digest
        · exact .inr ⟨_, rfl, rfl⟩
        · -- the bytes are hashed, counted and returned
          have hlength : (output.toList.take count).length = count := by
            rw [List.length_take, Vector.length_toList]
            omega
          have hbytes : returnedBytes (done ++ [.read (.ok (output.toList.take count))]) =
              returnedBytes done ++ output.toList.take count := returnedBytes_concat _ _
          refine .inl ⟨_, rfl, ⟨?_, h.authority, h.observed, h.unfinished, ?_, ?_, ?_,
            ⟨next, rfl, fun _ => ?_⟩, fun hended => ?_⟩⟩
          · intro answer hmem
            rcases List.mem_append.1 hmem with hmem | hmem
            · exact h.going answer hmem
            · rw [List.mem_singleton.1 hmem]
              exact id
          · rw [hbytes]
            exact h.digest.of_update hupdate
          · rw [hbytes, List.length_append, hlength, ← h.offset]
          · dsimp only
            omega
          · rw [hbytes]
            exact hdelivers.more (Nat.pos_of_ne_zero hzero) (not_lt.1 hmany) hanswer
          · rw [heof] at hended
            cases hended
  · exact .inr ⟨_, rfl, rfl⟩
  · exact .inr ⟨_, rfl, rfl⟩
  · exact .inr ⟨_, rfl, rfl⟩

/-- A read goes on or closes the cursor. -/
theorem Going.read (h : Going answers start observation done state) (window : Nat) :
    ∃ next, (AuthenticatedCursor.read answers ⟨some state⟩ window).2 = ⟨some next⟩ ∧
      Continues answers start observation done
        ((AuthenticatedCursor.read answers ⟨some state⟩ window).1, next) := by
  obtain ⟨source, hsource, hdelivers⟩ := h.source
  obtain ⟨authority, hauthority⟩ := Option.isSome_iff_exists.1 h.authority
  simp only [AuthenticatedCursor.read, hsource, hauthority, h.unfinished]
  by_cases hwindow : window = 0
  · rw [if_pos hwindow]
    exact ⟨_, rfl, .inr ⟨_, rfl, rfl⟩⟩
  · rw [if_neg hwindow]
    by_cases heof : state.eofObserved = true
    · rw [if_pos heof]
      obtain ⟨last, hlast, hends⟩ := h.ended heof
      have hstate : { state with source := some source, eofObserved := true } = state := by
        rw [← hsource, ← heof]
      exact ⟨state, rfl, .inl ⟨[], rfl, hstate ▸ h.end hlast hends⟩⟩
    · rw [if_neg heof]
      have hseen : state.eofObserved = false := by simpa using heof
      have hbounded := h.bounded
      rw [← h.observed] at hbounded
      rw [if_neg (not_lt.2 hbounded)]
      by_cases hremaining : state.observation.byteCount.toNat - state.offset = 0
      · rw [if_pos hremaining]
        exact ⟨_, rfl, h.probe (hdelivers hseen)⟩
      · rw [if_neg hremaining]
        exact ⟨_, rfl, h.take (hdelivers hseen) hseen (Nat.pos_of_ne_zero hwindow)
          (Nat.pos_of_ne_zero hremaining) (by rw [← h.observed]; omega)⟩

/-- What a cursor that finishes has read. -/
theorem Going.finish (h : Going answers start observation done state)
    {receipt : StagingObservation}
    (hfinish : (AuthenticatedCursor.finish answers ⟨some state⟩).1 = .ok receipt) :
    receipt = observation ∧ (returnedBytes done).length = observation.byteCount.toNat ∧
      contentDigest SecureHash.digest (returnedBytes done) = observation.payloadSha256 ∧
      ∃ last, Delivers answers start (returnedBytes done) last ∧ Ends answers last := by
  obtain ⟨source, hsource, hdelivers⟩ := h.source
  obtain ⟨authority, hauthority⟩ := Option.isSome_iff_exists.1 h.authority
  simp only [AuthenticatedCursor.finish, hsource, hauthority, h.unfinished, h.observed,
    h.digest.finish, Fallible.guard_eq_ok_iff, Fallible.seq_eq_ok_iff, Fallible.ok_bind,
    Except.ok.injEq] at hfinish
  obtain ⟨-, hcount, hend, hdigest, hreceipt⟩ := hfinish
  refine ⟨hreceipt.symm, h.offset.symm.trans (not_not.1 hcount), not_not.1 hdigest, ?_⟩
  unfold CursorState.atEnd at hend
  by_cases heof : state.eofObserved = true
  · exact h.ended heof
  · rw [if_neg heof] at hend
    refine ⟨source, hdelivers (by simpa using heof), 1, Nat.one_pos, ?_⟩
    rcases hanswer : (answers source 1).1 with ⟨count, output⟩ | e | _ | _
    · simp only [hanswer, Fallible.guard_eq_ok_iff] at hend
      obtain rfl := not_not.1 hend.1
      exact ⟨output, rfl⟩
    · rw [hanswer] at hend
      cases hend
    · rw [hanswer] at hend
      cases hend
    · rw [hanswer] at hend
      cases hend

end Steps

section Main

variable {σ : Type} {answers : BoundedByteSource σ} {start : σ} {observation : StagingObservation}

/-- A run leaves a cursor that goes on, or one that is closed. -/
theorem run_goes (calls : List CursorCall) : ∀ {cursor : AuthenticatedCursor σ}
    {done : List CursorAnswer},
    (∃ state, cursor.state = some state ∧ Going answers start observation done state) ∨
        Closed cursor →
      (∃ state, (cursor.run answers calls).2.state = some state ∧
        Going answers start observation (done ++ (cursor.run answers calls).1) state) ∨
      Closed (cursor.run answers calls).2 := by
  induction calls with
  | nil =>
    intro cursor done h
    simpa [AuthenticatedCursor.run] using h
  | cons call rest ih =>
    intro cursor done h
    rw [AuthenticatedCursor.run]
    have hnext : (∃ state, (cursor.call answers call).2.state = some state ∧
        Going answers start observation (done ++ [(cursor.call answers call).1]) state) ∨
          Closed (cursor.call answers call).2 := by
      rcases h with ⟨state, hstate, hgoing⟩ | hclosed
      · obtain rfl : cursor = ⟨some state⟩ := by
          cases cursor
          exact congrArg _ hstate
        rcases call with window | _
        · obtain ⟨next, hread, ⟨bytes, hbytes, hgoing⟩ | ⟨e, -, hfinished⟩⟩ := hgoing.read window
          · left
            refine ⟨next, by rw [AuthenticatedCursor.call, hread], ?_⟩
            rw [AuthenticatedCursor.call, hbytes]
            exact hgoing
          · right
            intro other hother
            rw [AuthenticatedCursor.call, hread] at hother
            rw [← Option.some.inj hother]
            exact hfinished
        · exact .inr fun _ hnone => nomatch hnone
      · exact .inr (hclosed.call call).2.2
    simpa using ih hnext

theorem going_opened (answers : BoundedByteSource σ) (source : σ) (authority : ReferenceAuthority)
    (observation : StagingObservation) :
    Going answers source observation []
      { source := some source, authority := some authority, observation := observation } :=
  ⟨by simp, rfl, rfl, rfl, IncrementalSha256.holds_initial, rfl, Nat.zero_le _,
    ⟨source, rfl, fun _ => .start⟩, nofun⟩

/-- However the source behaves and whatever calls are made: `finish` succeeds only when the reads
    have returned as many bytes as were observed, these have the digest that was observed, and the
    source has delivered just them and then come to its end; and behind an error of a read or a
    `finish` no call succeeds. -/
theorem authenticatedCursor_authenticates (answers : BoundedByteSource σ) (source : σ)
    (authority : ReferenceAuthority) (observation : StagingObservation) (calls : List CursorCall) :
    let done := ((AuthenticatedCursor.opened source authority observation).run answers calls).1
    let cursor := ((AuthenticatedCursor.opened source authority observation).run answers calls).2
    (∀ receipt, (cursor.finish answers).1 = .ok receipt →
      receipt = observation ∧ (returnedBytes done).length = observation.byteCount.toNat ∧
        contentDigest SecureHash.digest (returnedBytes done) = observation.payloadSha256 ∧
        ∃ last, Delivers answers source (returnedBytes done) last ∧ Ends answers last) ∧
      ((∃ answer ∈ done, answer.terminal) →
        ∀ call, ¬(cursor.call answers call).1.succeeds) := by
  intro done cursor
  rcases run_goes calls (.inl ⟨_, rfl, going_opened answers source authority observation⟩) with
    ⟨state, hstate, hgoing⟩ | hclosed
  · have hcursor : cursor = ⟨some state⟩ := by
      rw [← hstate]
      rfl
    refine ⟨fun receipt hfinish => ?_, fun ⟨answer, hmem, hterminal⟩ => ?_⟩
    · rw [hcursor] at hfinish
      exact hgoing.finish hfinish
    · exact absurd hterminal (hgoing.going answer hmem)
  · refine ⟨fun receipt hfinish => ?_, fun _ call => (Closed.call hclosed call).2.1⟩
    have hfails : ¬(CursorAnswer.finish (cursor.finish answers).1).succeeds :=
      (Closed.call hclosed .finish).2.1
    rw [hfinish] at hfails
    exact absurd trivial hfails

end Main

end Cxxlens.Sdk.Store
