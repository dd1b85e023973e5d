import Cxxlens.Sdk.Sqlite.ChunkFraming

set_option autoImplicit false

/-! # What the validating source accepts

A source that comes to its end has been given the chunks of a payload and nothing else, and has given
out the payload. The chunks of a payload are accepted whatever windows they are read through. -/

namespace Cxxlens.Sdk.Sqlite

open Blocks

/-! ## Calls -/

inductive PayloadCall where
  | read (window : Nat)
  | finish

inductive PayloadAnswer where
  | read (result : Result Bytes)
  | finish (result : Result PayloadStreamReceipt)

def PayloadAnswer.succeeds : PayloadAnswer → Prop
  | .read (.ok _) => True
  | .finish (.ok _) => True
  | _ => False

/-- The error of a call that may be made again: with a window that is not empty, or when all chunks
    have been read. -/
def Misuse (e : Error) : Prop :=
  e = streamStateError "payload-source-empty-window" ∨
    e = streamStateError "payload-source-not-consumed"

/-- A failure that is not the caller's. -/
def PayloadAnswer.fatal : PayloadAnswer → Prop
  | .read (.error e) => ¬Misuse e
  | .finish (.error e) => ¬Misuse e
  | _ => False

def PayloadAnswer.bytes : PayloadAnswer → Bytes
  | .read (.ok bytes) => bytes
  | _ => []

/-- What the reads of a run have returned. -/
def replayed (done : List PayloadAnswer) : Bytes :=
  done.flatMap PayloadAnswer.bytes

namespace ValidatingPayloadSource

def call (source : ValidatingPayloadSource) :
    PayloadCall → PayloadAnswer × ValidatingPayloadSource
  | .read window => (.read (source.read window).1, (source.read window).2)
  | .finish => (.finish source.finish.1, source.finish.2)

def run : ValidatingPayloadSource → List PayloadCall →
    List PayloadAnswer × ValidatingPayloadSource
  | source, [] => ([], source)
  | source, call :: rest =>
    let (answer, next) := source.call call
    let (done, final) := next.run rest
    (answer :: done, final)

end ValidatingPayloadSource

/-! ## Phases of a source -/

/-- The payloads of the rows taken so far: complete while rows are expected, and cut as a payload
    is when none are. -/
structure Sized (expected : Nat) (payloads : List Bytes) : Prop where
  count : payloads.length ≤ expected
  full : payloads.length < expected →
    ∀ payload ∈ payloads, payload.length = payloadChunkMaximumBytes
  cut : Cut payloadChunkMaximumBytes payloads

/-- A source that has taken the chunks of `payloads` from its rows. -/
structure Took (rows : List (Result PayloadChunk)) (source : ValidatingPayloadSource)
    (payloads : List Bytes) : Prop where
  rows : rows = (framesOf payloads).map .ok ++ source.rows
  sized : Sized source.expectation.chunkCount payloads
  chunkCount : source.observedChunkCount = payloads.length
  byteCount : source.observedByteCount = payloads.flatten.length
  bounded : payloads.flatten.length ≤ source.expectation.byteCount
  fullDigest : source.fullDigest.Holds payloads.flatten
  aggregate : source.aggregateByteCount = { high := 0, low := payloads.flatten.length }

/-- A source that is being read, and has returned `bytes`. -/
structure Reading (rows : List (Result PayloadChunk)) (expectation : PayloadStreamExpectation)
    (source : ValidatingPayloadSource) (bytes : Bytes) : Prop where
  expectation : source.expectation = expectation
  clean : source.poisoned = false
  unfinished : source.finished = false
  receipt : source.receipt = none
  took : ∃ payloads, Took rows source payloads ∧
    payloads.flatten = bytes ++ source.currentChunk.drop source.currentOffset
  offset : source.currentOffset ≤ source.currentChunk.length
  eof : source.sourceEof = true → source.rows = [] ∧ source.currentChunk = []

/-- What a source that has come to its end knows of the rows. -/
structure Accepted (rows : List (Result PayloadChunk)) (expectation : PayloadStreamExpectation)
    (bytes : Bytes) : Prop where
  rows : rows = (payloadFrames bytes).map .ok
  byteCount : expectation.byteCount = bytes.length
  chunkCount : expectation.chunkCount = (payloadFrames bytes).length
  checksum : expectation.validateFullChecksum = true →
    expectation.fullChecksum = contentDigest SecureHash.digest bytes

/-- A source that has come to its end. -/
structure Finished (rows : List (Result PayloadChunk)) (expectation : PayloadStreamExpectation)
    (source : ValidatingPayloadSource) (bytes : Bytes) : Prop where
  clean : source.poisoned = false
  finished : source.finished = true
  receipt : source.receipt = some (receiptOf bytes)
  accepted : Accepted rows expectation bytes

section Steps

variable {rows : List (Result PayloadChunk)} {expectation : PayloadStreamExpectation}
  {source : ValidatingPayloadSource} {bytes : Bytes} {payloads : List Bytes}

theorem Sized.concat {expected : Nat} {payload : Bytes} (h : Sized expected payloads)
    (hcount : payloads.length < expected) (hpositive : 0 < payload.length)
    (hfits : payload.length ≤ payloadChunkMaximumBytes)
    (hfull : payloads.length + 1 < expected → payload.length = payloadChunkMaximumBytes) :
    Sized expected (payloads ++ [payload]) where
  count := by simpa using hcount
  full hmore other hother := by
    rcases List.mem_append.1 hother with hother | hother
    · exact h.full hcount other hother
    · rw [List.mem_singleton.1 hother]
      exact hfull (by simpa using hmore)
  cut := cut_concat payloadChunkMaximumBytes_pos hpositive hfits (h.full hcount)

/-- A row that the source takes is the next chunk. -/
theorem Took.takeRow {row : PayloadChunk} {rest : List (Result PayloadChunk)}
    (h : Took rows { source with rows := .ok row :: rest } payloads) {loaded : Bool}
    {next : ValidatingPayloadSource}
    (htake : ({ source with rows := rest } : ValidatingPayloadSource).takeRow row =
      (.ok loaded, next)) :
    loaded = true ∧ next = { source with
        rows := rest, fullDigest := next.fullDigest, observedByteCount := next.observedByteCount
        aggregateByteCount := next.aggregateByteCount
        observedChunkCount := next.observedChunkCount
        currentChunk := row.payload, currentOffset := 0 } ∧
      Took rows next (payloads ++ [row.payload]) := by
  have hchunkCount := h.chunkCount
  have hbyteCount := h.byteCount
  have hfullDigest := h.fullDigest
  have haggregate := h.aggregate
  have hsized := h.sized
  unfold ValidatingPayloadSource.takeRow at htake
  by_cases hframed : ({ source with rows := rest } : ValidatingPayloadSource).Framed row
  · rw [if_pos hframed] at htake
    obtain ⟨hcount, -, hordinal, hoffset, hlength, hpositive, hfits, hfull, -⟩ := hframed
    dsimp only at hcount hordinal hoffset hfull hchunkCount hbyteCount hfullDigest haggregate hsized
    have hchecksum : (IncrementalSha256.update {} row.payload) >>= IncrementalSha256.finish =
        .ok (contentDigest SecureHash.digest row.payload) := by
      have hsmall : ([] ++ row.payload).length ≤ sha256MaximumByteCount := by
        rw [List.nil_append]
        unfold payloadChunkMaximumBytes sha256MaximumByteCount at *
        omega
      have hupdate := IncrementalSha256.holds_initial.update row.payload
      rw [if_pos hsmall] at hupdate
      rw [hupdate, Fallible.ok_bind]
      exact (IncrementalSha256.holds_initial.absorb hsmall).finish
    rw [hchecksum] at htake
    dsimp only at htake
    split_ifs at htake with hsame
    · cases htake
    · rw [not_not] at hsame
      split at htake
      · rename_i nextTotal nextAggregate htotal haggregated
        split_ifs at htake with htoo
        · cases htake
        · rcases hupdate : source.fullDigest.update row.payload with e | fullDigest
          · rw [hupdate] at htake
            cases htake
          · simp only [hupdate, Prod.mk.injEq, Except.ok.injEq] at htake
            obtain ⟨rfl, rfl⟩ := htake
            have hflatten : (payloads ++ [row.payload]).flatten =
                payloads.flatten ++ row.payload := by
              simp
            have hheld := hfullDigest.of_update hupdate
            have hbound := hheld.bounded
            rw [List.length_append] at hbound
            have hwide : payloads.flatten.length + row.payload.length < 2 ^ 64 := by
              unfold sha256MaximumByteCount at hbound
              omega
            rw [hbyteCount, hlength, checkedAdd_eq hwide] at htotal
            rw [haggregate, hlength, census_add hwide] at haggregated
            obtain rfl := Option.some.inj htotal
            obtain rfl := Option.some.inj haggregated
            have hproduct : row.byteOffset = payloads.length * payloadChunkMaximumBytes := by
              rw [hchunkCount] at hoffset
              unfold checkedMultiply at hoffset
              split_ifs at hoffset
              exact (Option.some.inj hoffset).symm
            have hrow : row = frame payloads.length row.payload := by
              rw [frame, hsame, ← hproduct, ← hlength, ← hchunkCount, ← hordinal]
            refine ⟨rfl, rfl, ⟨?_, ?_, ?_, ?_, ?_, ?_, ?_⟩⟩
            · rw [framesOf_concat, ← hrow, List.map_append, List.append_assoc]
              exact h.rows
            · rw [hchunkCount] at hcount hfull
              refine hsized.concat hcount (by omega) (by omega) fun hmore => ?_
              rcases hfull with hlast | hfull
              · omega
              · omega
            · rw [List.length_append, ← hchunkCount]
              rfl
            · rw [hflatten, List.length_append]
            · rw [hflatten, List.length_append]
              exact not_lt.1 htoo
            · rw [hflatten]
              exact hheld
            · rw [hflatten, List.length_append]
      · cases htake
  · rw [if_neg hframed] at htake
    cases htake

/-- At the end of the rows the census finds all of the payload, or the source is poisoned. -/
theorem Took.finalizeAtEof (h : Took rows source payloads)
    (hexpectation : source.expectation = expectation) (hclean : source.poisoned = false)
    (hrows : source.rows = []) (hbytes : payloads.flatten = bytes) :
    (source.finalizeAtEof.1 = .ok (receiptOf bytes) ∧
        Finished rows expectation source.finalizeAtEof.2 bytes) ∨
      ((∃ e, source.finalizeAtEof.1 = .error e) ∧ source.finalizeAtEof.2.poisoned = true) := by
  subst hexpectation hbytes
  unfold ValidatingPayloadSource.finalizeAtEof
  by_cases hcensus : source.sourceEof = false ∨
      source.observedChunkCount ≠ source.expectation.chunkCount ∨
      source.observedByteCount ≠ source.expectation.byteCount ∨
      source.aggregateByteCount.high ≠ 0 ∨
      source.aggregateByteCount.low ≠ source.observedByteCount
  · rw [if_pos hcensus]
    exact .inr ⟨⟨_, rfl⟩, rfl⟩
  · rw [if_neg hcensus, h.fullDigest.finish]
    simp only [not_or, not_not] at hcensus
    obtain ⟨-, hchunks, hcount, -, -⟩ := hcensus
    dsimp only
    by_cases hchecksum : source.expectation.validateFullChecksum = true ∧
        contentDigest SecureHash.digest payloads.flatten ≠ source.expectation.fullChecksum
    · rw [if_pos hchecksum]
      exact .inr ⟨⟨_, rfl⟩, rfl⟩
    · rw [if_neg hchecksum]
      have hframes : payloadFrames payloads.flatten = framesOf payloads := by
        rw [payloadFrames, pieces_flatten payloadChunkMaximumBytes_pos h.sized.cut]
      have hreceipt : (⟨source.observedByteCount, source.observedChunkCount,
          source.aggregateByteCount, contentDigest SecureHash.digest payloads.flatten⟩ :
            PayloadStreamReceipt) = receiptOf payloads.flatten := by
        rw [receiptOf, hframes, length_framesOf, h.byteCount, h.chunkCount, h.aggregate]
      refine .inl ⟨congrArg Except.ok hreceipt, hclean, rfl, congrArg some hreceipt, ?_, ?_, ?_, ?_⟩
      · rw [hframes]
        simpa [hrows] using h.rows
      · rw [← hcount, h.byteCount]
      · rw [hframes, length_framesOf, ← hchunks, h.chunkCount]
      · intro hvalidate
        by_contra hother
        exact hchecksum ⟨hvalidate, fun heq => hother heq.symm⟩

/-- Bytes are returned from the current chunk. -/
theorem Reading.copyOut (h : Reading rows expectation source bytes) (window : Nat) :
    ∃ part, (source.copyOut window).1 = .ok part ∧
      Reading rows expectation (source.copyOut window).2 (bytes ++ part) := by
  obtain ⟨payloads, htook, hflatten⟩ := h.took
  have hoffset := h.offset
  refine ⟨_, rfl, h.expectation, h.clean, h.unfinished, h.receipt, ⟨payloads,
    ⟨htook.rows, htook.sized, htook.chunkCount, htook.byteCount, htook.bounded, htook.fullDigest,
      htook.aggregate⟩, ?_⟩, ?_, h.eof⟩
  · rw [hflatten, List.append_assoc]
    congr 1
    simp only [ValidatingPayloadSource.copyOut]
    rw [← List.drop_drop, List.take_append_drop]
  · simp only [ValidatingPayloadSource.copyOut]
    omega

/-- What an answer leaves: a source that is read on or has come to its end, or one that is poisoned
    and has failed. -/
def Continued (rows : List (Result PayloadChunk)) (expectation : PayloadStreamExpectation)
    (bytes : Bytes) (answer : PayloadAnswer) (next : ValidatingPayloadSource) : Prop :=
  (¬answer.fatal ∧ (Reading rows expectation next (bytes ++ answer.bytes) ∨
    Finished rows expectation next (bytes ++ answer.bytes))) ∨
  (¬answer.succeeds ∧ next.poisoned = true)

/-- A row that is not taken poisons the source. -/
theorem poisoned_of_takeRow {row : PayloadChunk} {e : Error} {next : ValidatingPayloadSource}
    (h : source.takeRow row = (.error e, next)) : next.poisoned = true := by
  have hpoison : ∀ {α : Type} {other : Error}, source.poison other = ((.error e : Result α), next) →
      next.poisoned = true := fun heq => (Prod.mk.inj heq).2 ▸ rfl
  unfold ValidatingPayloadSource.takeRow at h
  split_ifs at h
  · split at h
    · exact hpoison h
    · split_ifs at h
      · exact hpoison h
      · split at h
        · split_ifs at h
          · exact hpoison h
          · split at h
            · exact hpoison h
            · cases h
        · exact hpoison h
  · exact hpoison h

/-- A source between two chunks. -/
theorem Reading.cleared (h : Reading rows expectation source bytes)
    (hconsumed : source.currentOffset = source.currentChunk.length) :
    Reading rows expectation { source with currentChunk := [], currentOffset := 0 } bytes := by
  obtain ⟨payloads, htook, hflatten⟩ := h.took
  rw [hconsumed, List.drop_length] at hflatten
  exact ⟨h.expectation, h.clean, h.unfinished, h.receipt, ⟨payloads, ⟨htook.rows, htook.sized,
    htook.chunkCount, htook.byteCount, htook.bounded, htook.fullDigest, htook.aggregate⟩, hflatten⟩,
    le_rfl, fun heof => ⟨(h.eof heof).1, rfl⟩⟩

/-- Between two chunks the next one is loaded, or the rows are at their end and all of their bytes
    have been returned, or the source is poisoned. -/
theorem Reading.loadNextChunk (h : Reading rows expectation source bytes)
    (hchunk : source.currentChunk = []) :
    (source.loadNextChunk.1 = .ok true ∧
        Reading rows expectation source.loadNextChunk.2 bytes) ∨
      (source.loadNextChunk.1 = .ok false ∧ source.loadNextChunk.2.expectation = expectation ∧
        source.loadNextChunk.2.poisoned = false ∧ source.loadNextChunk.2.rows = [] ∧
        ∃ payloads, Took rows source.loadNextChunk.2 payloads ∧ payloads.flatten = bytes) ∨
      ∃ e, source.loadNextChunk.1 = .error e ∧ source.loadNextChunk.2.poisoned = true := by
  obtain ⟨payloads, htook, hflatten⟩ := h.took
  rw [hchunk, List.drop_nil, List.append_nil] at hflatten
  unfold ValidatingPayloadSource.loadNextChunk
  by_cases heof : source.sourceEof = true
  · rw [if_pos heof]
    exact .inr (.inl ⟨rfl, h.expectation, h.clean, (h.eof heof).1, payloads, htook, hflatten⟩)
  · rw [if_neg heof]
    rcases hrows : source.rows with _ | ⟨e | row, rest⟩
    · exact .inr (.inl ⟨rfl, h.expectation, h.clean, rfl, payloads,
        ⟨htook.rows.trans (by rw [hrows]), htook.sized, htook.chunkCount, htook.byteCount,
          htook.bounded, htook.fullDigest, htook.aggregate⟩, hflatten⟩)
    · exact .inr (.inr ⟨e, rfl, rfl⟩)
    · have hpopped : Took rows { source with rows := .ok row :: rest } payloads :=
        ⟨htook.rows.trans (by rw [hrows]), htook.sized, htook.chunkCount, htook.byteCount,
          htook.bounded, htook.fullDigest, htook.aggregate⟩
      dsimp only
      rcases htake : ({ source with rows := rest } : ValidatingPayloadSource).takeRow row with
        ⟨e | loaded, next⟩
      · exact .inr (.inr ⟨e, rfl, poisoned_of_takeRow htake⟩)
      · obtain ⟨rfl, hnext, hloaded⟩ := hpopped.takeRow htake
        refine .inl ⟨rfl, ?_, ?_, ?_, ?_, ⟨_, hloaded, ?_⟩, ?_, fun hclosed => ?_⟩
        · rw [hnext]
          exact h.expectation
        · rw [hnext]
          exact h.clean
        · rw [hnext]
          exact h.unfinished
        · rw [hnext]
          exact h.receipt
        · rw [hnext]
          simp [hflatten]
        · rw [hnext]
          exact Nat.zero_le _
        · rw [hnext] at hclosed
          exact absurd hclosed heof

theorem Reading.read (h : Reading rows expectation source bytes) (window : Nat) :
    Continued rows expectation bytes (.read (source.read window).1) (source.read window).2 := by
  unfold ValidatingPayloadSource.read
  rw [if_neg (by simp [h.clean])]
  by_cases hwindow : window = 0
  · rw [if_pos hwindow]
    exact .inl ⟨not_not.2 (.inl rfl), .inl (by simpa [PayloadAnswer.bytes] using h)⟩
  · rw [if_neg hwindow, if_neg (by simp [h.unfinished])]
    by_cases hconsumed : source.currentOffset = source.currentChunk.length
    · rw [if_pos hconsumed]
      rcases hload : ({ source with currentChunk := [], currentOffset := 0 } :
        ValidatingPayloadSource).loadNextChunk with ⟨result, next⟩
      have hloaded := (h.cleared hconsumed).loadNextChunk rfl
      rw [hload] at hloaded
      rcases hloaded with ⟨rfl, hreading⟩ |
        ⟨rfl, hexpectation, hclean, hrows, payloads, htook, hflatten⟩ | ⟨e, rfl, hpoisoned⟩
      · obtain ⟨part, hpart, hcopied⟩ := hreading.copyOut window
        simp only [andThen, Bool.true_eq_false, if_false]
        rw [hpart]
        exact .inl ⟨id, .inl hcopied⟩
      · rcases htook.finalizeAtEof hexpectation hclean hrows hflatten with
          ⟨hok, hfinished⟩ | ⟨⟨e, herror⟩, hpoisoned⟩
        · rcases hfinal : next.finalizeAtEof with ⟨result, final⟩
          rw [hfinal] at hok hfinished
          obtain rfl : result = _ := hok
          simp only [andThen, if_true, hfinal]
          exact .inl ⟨id, .inr (by simpa [PayloadAnswer.bytes] using hfinished)⟩
        · rcases hfinal : next.finalizeAtEof with ⟨result, final⟩
          rw [hfinal] at herror hpoisoned
          obtain rfl : result = _ := herror
          simp only [andThen, if_true, hfinal]
          exact .inr ⟨id, hpoisoned⟩
      · exact .inr ⟨id, hpoisoned⟩
    · rw [if_neg hconsumed]
      obtain ⟨part, hpart, hcopied⟩ := h.copyOut window
      rw [hpart]
      exact .inl ⟨id, .inl hcopied⟩

theorem Reading.finish (h : Reading rows expectation source bytes) :
    Continued rows expectation bytes (.finish source.finish.1) source.finish.2 ∧
      ∀ receipt, source.finish.1 = .ok receipt →
        receipt = receiptOf bytes ∧ Accepted rows expectation bytes := by
  unfold ValidatingPayloadSource.finish
  rw [if_neg (by simp [h.clean])]
  simp only [h.receipt]
  by_cases hearly : source.currentOffset ≠ source.currentChunk.length ∨
      source.observedChunkCount ≠ source.expectation.chunkCount
  · rw [if_pos hearly]
    exact ⟨.inl ⟨not_not.2 (.inr rfl), .inl (by simpa [PayloadAnswer.bytes] using h)⟩, nofun⟩
  · rw [if_neg hearly]
    simp only [not_or, not_not] at hearly
    obtain ⟨payloads, htook, hflatten⟩ := h.took
    rw [hearly.1, List.drop_length, List.append_nil] at hflatten
    have hend : ∀ {other : ValidatingPayloadSource}, Took rows other payloads →
        other.expectation = expectation → other.poisoned = false → other.rows = [] →
        Continued rows expectation bytes (.finish other.finalizeAtEof.1) other.finalizeAtEof.2 ∧
          ∀ receipt, other.finalizeAtEof.1 = .ok receipt →
            receipt = receiptOf bytes ∧ Accepted rows expectation bytes := by
      intro other hother hexpectation hclean hrows
      rcases hother.finalizeAtEof hexpectation hclean hrows hflatten with
        ⟨hok, hfinished⟩ | ⟨⟨e, herror⟩, hpoisoned⟩
      · rw [hok]
        exact ⟨.inl ⟨id, .inr (by simpa [PayloadAnswer.bytes] using hfinished)⟩,
          fun receipt hreceipt => ⟨(Except.ok.inj hreceipt).symm, hfinished.accepted⟩⟩
      · rw [herror]
        exact ⟨.inr ⟨id, hpoisoned⟩, nofun⟩
    by_cases heof : source.sourceEof = true
    · rw [if_pos heof]
      exact hend htook h.expectation h.clean (h.eof heof).1
    · rw [if_neg heof]
      rcases hrows : source.rows with _ | ⟨e | row, rest⟩
      · dsimp only
        exact hend ⟨htook.rows.trans (by rw [hrows]), htook.sized, htook.chunkCount,
          htook.byteCount, htook.bounded, htook.fullDigest, htook.aggregate⟩ h.expectation h.clean rfl
      · exact ⟨.inr ⟨id, rfl⟩, nofun⟩
      · exact ⟨.inr ⟨id, rfl⟩, nofun⟩

theorem Finished.call (h : Finished rows expectation source bytes) (call : PayloadCall) :
    Continued rows expectation bytes (source.call call).1 (source.call call).2 := by
  rcases call with window | _
  · simp only [ValidatingPayloadSource.call, ValidatingPayloadSource.read, h.clean, h.finished,
      Bool.false_eq_true, if_false, if_true]
    by_cases hwindow : window = 0
    · rw [if_pos hwindow]
      exact .inl ⟨not_not.2 (.inl rfl), .inr (by simpa [PayloadAnswer.bytes] using h)⟩
    · rw [if_neg hwindow]
      exact .inl ⟨id, .inr (by simpa [PayloadAnswer.bytes] using h)⟩
  · simp only [ValidatingPayloadSource.call, ValidatingPayloadSource.finish, h.clean, h.receipt,
      Bool.false_eq_true, if_false]
    exact .inl ⟨id, .inr (by simpa [PayloadAnswer.bytes] using h)⟩

/-- A poisoned source answers with an error and stays as it is. -/
theorem call_of_poisoned (h : source.poisoned = true) (call : PayloadCall) :
    ¬(source.call call).1.succeeds ∧ (source.call call).2 = source := by
  rcases call with window | _
  · simp only [ValidatingPayloadSource.call, ValidatingPayloadSource.read, h, if_true]
    exact ⟨id, trivial⟩
  · simp only [ValidatingPayloadSource.call, ValidatingPayloadSource.finish, h, if_true]
    exact ⟨id, trivial⟩

theorem replayed_concat (done : List PayloadAnswer) (answer : PayloadAnswer) :
    replayed (done ++ [answer]) = replayed done ++ answer.bytes := by
  simp [replayed]

/-- What is known of a source behind the answers it has given. -/
def Ran (rows : List (Result PayloadChunk)) (expectation : PayloadStreamExpectation)
    (done : List PayloadAnswer) (source : ValidatingPayloadSource) : Prop :=
  ((∀ answer ∈ done, ¬answer.fatal) ∧ (Reading rows expectation source (replayed done) ∨
    Finished rows expectation source (replayed done))) ∨ source.poisoned = true

theorem Ran.call {done : List PayloadAnswer} (h : Ran rows expectation done source)
    (call : PayloadCall) :
    Ran rows expectation (done ++ [(source.call call).1]) (source.call call).2 := by
  rcases h with ⟨hfatal, hphase⟩ | hpoisoned
  · have hcontinued : Continued rows expectation (replayed done) (source.call call).1
        (source.call call).2 := by
      rcases hphase with hreading | hfinished
      · rcases call with window | _
        · exact hreading.read window
        · exact hreading.finish.1
      · exact hfinished.call call
    rcases hcontinued with ⟨hanswer, hnext⟩ | ⟨-, hpoisoned⟩
    · refine .inl ⟨fun answer hmem => ?_, by rwa [replayed_concat]⟩
      rcases List.mem_append.1 hmem with hmem | hmem
      · exact hfatal answer hmem
      · rwa [List.mem_singleton.1 hmem]
    · exact .inr hpoisoned
  · exact .inr (by rw [(call_of_poisoned hpoisoned call).2]; exact hpoisoned)

theorem Ran.run (calls : List PayloadCall) : ∀ {source : ValidatingPayloadSource}
    {done : List PayloadAnswer}, Ran rows expectation done source →
      Ran rows expectation (done ++ (source.run calls).1) (source.run calls).2 := by
  induction calls with
  | nil =>
    intro source done h
    simpa [ValidatingPayloadSource.run] using h
  | cons call rest ih =>
    intro source done h
    rw [ValidatingPayloadSource.run]
    simpa using ih (h.call call)

end Steps

end Cxxlens.Sdk.Sqlite
