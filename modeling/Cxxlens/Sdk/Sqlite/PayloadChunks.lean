import Cxxlens.Foundation.Fallible
import Cxxlens.Sdk.Sqlite.IncrementalSha256

set_option autoImplicit false

/-! # Payload chunks

The two directions of `sqlite_payload_streaming_internal.cpp`: the framer that cuts a payload into
chunks of 8 MiB, and the source that validates the rows of such chunks while it gives their bytes
out. Allocation failures and the observation scope are not modelled. -/

namespace Cxxlens.Sdk.Sqlite

/-! ## Counters -/

/-- `sqlite_payload_chunk_maximum_bytes` -/
def payloadChunkMaximumBytes : Nat := 8388608
/-- `sqlite_payload_chunk_maximum_count` -/
def payloadChunkMaximumCount : Nat := 2199023255552
/-- `sqlite_payload_chunk_maximum_ordinal` -/
def payloadChunkMaximumOrdinal : Nat := payloadChunkMaximumCount - 1

/-- `sqlite_u128_census` -/
structure U128Census where
  high : Nat := 0
  low : Nat := 0
  deriving DecidableEq, Repr

/-- `sqlite_u128_census::add`; the census is left when there is none. -/
def U128Census.add (census : U128Census) (value : Nat) : Option U128Census :=
  let low := (census.low + value) % 2 ^ 64
  if low ≥ census.low then some { census with low := low }
  else if census.high = 2 ^ 64 - 1 then none
  else some { high := census.high + 1, low := low }

/-- `sqlite_checked_add_u64` -/
def checkedAdd (left right : Nat) : Option Nat :=
  if right > 2 ^ 64 - 1 - left then none else some (left + right)

/-- `sqlite_checked_multiply_u64` -/
def checkedMultiply (left right : Nat) : Option Nat :=
  if left ≠ 0 ∧ right > (2 ^ 64 - 1) / left then none else some (left * right)

/-- `sqlite_checked_sha256_byte_count` -/
def checkedSha256ByteCount (current added : Nat) : Option Nat :=
  if current ≤ sha256MaximumByteCount ∧ added ≤ sha256MaximumByteCount - current then
    checkedAdd current added
  else none

/-- `canonical_chunk_count` -/
def canonicalChunkCount (byteCount : Nat) : Option Nat :=
  if byteCount = 0 then some 0
  else
    let count := 1 + (byteCount - 1) / payloadChunkMaximumBytes
    if count ≤ payloadChunkMaximumCount then some count else none

/-- `canonical_sha256` -/
def canonicalSha256 (value : Bytes) : Bool :=
  value.length == 71 && (ascii "sha256:").isPrefixOf value &&
    (value.drop 7).all fun byte =>
      decide (0x30 ≤ byte ∧ byte ≤ 0x39) || decide (0x61 ≤ byte ∧ byte ≤ 0x66)

/-- `chunk_corrupt_error` -/
def chunkCorruptError (detail : Bytes) : Error :=
  { code := "store.corrupt", field := "sqlite-payload-chunk", detail := detail }

/-- `sqlite_payload_chunk_frame` and `sqlite_payload_chunk_record`, which have the same members. -/
structure PayloadChunk where
  ordinal : Nat
  byteOffset : Nat
  byteCount : Nat
  checksum : Bytes
  payload : Bytes
  deriving DecidableEq, Repr

/-- `sqlite_payload_stream_receipt` -/
structure PayloadStreamReceipt where
  byteCount : Nat
  chunkCount : Nat
  aggregateByteCount : U128Census
  fullChecksum : Bytes
  deriving DecidableEq, Repr

/-- `sqlite_payload_stream_expectation` -/
structure PayloadStreamExpectation where
  byteCount : Nat
  chunkCount : Nat
  fullChecksum : Bytes
  validateFullChecksum : Bool := true
  deriving DecidableEq, Repr

/-- A step of an object, and what is done behind it when it succeeds. -/
def andThen {σ α β : Type} (step : Result α × σ) (next : α → σ → Result β × σ) : Result β × σ :=
  match step with
  | (.ok value, state) => next value state
  | (.error e, state) => (.error e, state)

/-! ## The framer -/

/-- `sqlite_payload_chunk_framer`; without a port it only measures. -/
structure PayloadChunkFramer (π : Type) where
  port : Option π
  chunk : Bytes := []
  chunkDigest : IncrementalSha256 := {}
  fullDigest : IncrementalSha256 := {}
  aggregateByteCount : U128Census := {}
  totalByteCount : Nat := 0
  chunkCount : Nat := 0
  currentChunkByteCount : Nat := 0
  finished : Bool := false
  poisoned : Bool := false

section Framer

variable {π : Type} (emit : π → PayloadChunk → Result Unit × π)

def PayloadChunkFramer.poison {α : Type} (framer : PayloadChunkFramer π) (e : Error) :
    Result α × PayloadChunkFramer π :=
  (.error e, { framer with poisoned := true })

/-- The end of `complete_chunk` -/
def PayloadChunkFramer.nextChunk (framer : PayloadChunkFramer π) : PayloadChunkFramer π :=
  { framer with
    chunkCount := framer.chunkCount + 1
    currentChunkByteCount := 0
    chunkDigest := {} }

/-- `complete_chunk` -/
def PayloadChunkFramer.completeChunk (framer : PayloadChunkFramer π) :
    Result Unit × PayloadChunkFramer π :=
  if framer.currentChunkByteCount = 0 ∨ framer.currentChunkByteCount > payloadChunkMaximumBytes ∨
      framer.chunkCount ≥ payloadChunkMaximumCount then
    framer.poison (streamCounterError "payload_chunk_count")
  else
    match framer.port with
    | none => (.ok (), framer.nextChunk)
    | some port =>
      match framer.chunkDigest.finish with
      | .error e => framer.poison e
      | .ok checksum =>
        match checkedMultiply framer.chunkCount payloadChunkMaximumBytes with
        | none => framer.poison (streamCounterError "chunk_ordinal")
        | some byteOffset =>
          if framer.chunkCount > payloadChunkMaximumOrdinal ∨
              framer.chunk.length ≠ framer.currentChunkByteCount then
            framer.poison (streamCounterError "chunk_ordinal")
          else
            match emit port ⟨framer.chunkCount, byteOffset, framer.currentChunkByteCount, checksum,
              framer.chunk⟩ with
            | (.error e, port) => { framer with port := some port }.poison e
            | (.ok (), port) =>
              (.ok (), { framer with port := some port, chunk := [] }.nextChunk)

/-- A part put into the chunk, which is kept for a port only. -/
def PayloadChunkFramer.fill (framer : PayloadChunkFramer π) (chunkDigest : IncrementalSha256)
    (part : Bytes) : PayloadChunkFramer π :=
  { framer with
    chunkDigest := chunkDigest
    chunk := if framer.port.isSome then framer.chunk ++ part else framer.chunk
    currentChunkByteCount := framer.currentChunkByteCount + part.length }

/-- The loop of `append`, which takes less rounds than there are bytes. -/
def PayloadChunkFramer.appendParts :
    Nat → PayloadChunkFramer π → Bytes → Result Unit × PayloadChunkFramer π
  | 0, framer, _ => (.ok (), framer)
  | rounds + 1, framer, remaining =>
    if remaining = [] then (.ok (), framer)
    else
      let available := payloadChunkMaximumBytes - framer.currentChunkByteCount
      let part := remaining.take (min available remaining.length)
      match framer.chunkDigest.update part with
      | .error e => framer.poison e
      | .ok chunkDigest =>
        let filled := framer.fill chunkDigest part
        andThen
          (if filled.currentChunkByteCount = payloadChunkMaximumBytes then filled.completeChunk emit
          else (.ok (), filled))
          fun _ framer => appendParts rounds framer (remaining.drop part.length)

/-- `sqlite_payload_chunk_framer::append` -/
def PayloadChunkFramer.append (framer : PayloadChunkFramer π) (bytes : Bytes) :
    Result Unit × PayloadChunkFramer π :=
  if framer.finished ∨ framer.poisoned then
    (.error (streamStateError "chunk-framer-closed"), framer)
  else
    match checkedAdd framer.totalByteCount bytes.length,
      checkedSha256ByteCount framer.fullDigest.totalBytes bytes.length,
      framer.aggregateByteCount.add bytes.length with
    | some nextTotal, some nextShaTotal, some nextAggregate =>
      if nextShaTotal ≠ nextTotal then framer.poison (streamCounterError "payload_byte_count")
      else
        match framer.fullDigest.update bytes with
        | .error e => framer.poison e
        | .ok fullDigest =>
          PayloadChunkFramer.appendParts emit bytes.length
            { framer with
              fullDigest := fullDigest
              totalByteCount := nextTotal
              aggregateByteCount := nextAggregate } bytes
    | _, _, _ => framer.poison (streamCounterError "payload_byte_count")

/-- `sqlite_payload_chunk_framer::finish` -/
def PayloadChunkFramer.finish (framer : PayloadChunkFramer π) :
    Result PayloadStreamReceipt × PayloadChunkFramer π :=
  if framer.finished ∨ framer.poisoned then
    (.error (streamStateError "chunk-framer-closed"), framer)
  else
    andThen
      (if framer.currentChunkByteCount ≠ 0 then framer.completeChunk emit else (.ok (), framer))
      fun _ framer =>
        if canonicalChunkCount framer.totalByteCount ≠ some framer.chunkCount ∨
            framer.aggregateByteCount.high ≠ 0 ∨
            framer.aggregateByteCount.low ≠ framer.totalByteCount then
          framer.poison (streamCounterError "payload_chunk_count")
        else
          match framer.fullDigest.finish with
          | .error e => framer.poison e
          | .ok checksum =>
            (.ok ⟨framer.totalByteCount, framer.chunkCount, framer.aggregateByteCount, checksum⟩,
              { framer with finished := true })

end Framer

/-! ## The validating source -/

/-- `sqlite_validating_payload_source`. The rows are what `next` of the record source will answer;
    behind them it has no row left. -/
structure ValidatingPayloadSource where
  rows : List (Result PayloadChunk)
  expectation : PayloadStreamExpectation
  currentChunk : Bytes := []
  currentOffset : Nat := 0
  fullDigest : IncrementalSha256 := {}
  aggregateByteCount : U128Census := {}
  observedByteCount : Nat := 0
  observedChunkCount : Nat := 0
  sourceEof : Bool := false
  finished : Bool := false
  poisoned : Bool := false
  receipt : Option PayloadStreamReceipt := none

/-- `sqlite_validating_payload_source::open` -/
def ValidatingPayloadSource.open (rows : List (Result PayloadChunk))
    (expectation : PayloadStreamExpectation) : Result ValidatingPayloadSource :=
  if canonicalChunkCount expectation.byteCount ≠ some expectation.chunkCount ∨
      expectation.byteCount > sha256MaximumByteCount ∨
      (expectation.validateFullChecksum = true ∧
        canonicalSha256 expectation.fullChecksum = false) then
    .error (chunkCorruptError "expectation")
  else .ok { rows := rows, expectation := expectation }

namespace ValidatingPayloadSource

def poison {α : Type} (source : ValidatingPayloadSource) (e : Error) :
    Result α × ValidatingPayloadSource :=
  (.error e, { source with poisoned := true })

/-- The checks of `load_next_chunk` on the members of a row. -/
def Framed (source : ValidatingPayloadSource) (row : PayloadChunk) : Prop :=
  let finalChunk := source.observedChunkCount < source.expectation.chunkCount ∧
    source.observedChunkCount + 1 = source.expectation.chunkCount
  source.observedChunkCount < source.expectation.chunkCount ∧
    source.observedChunkCount ≤ payloadChunkMaximumOrdinal ∧
    row.ordinal = source.observedChunkCount ∧
    checkedMultiply source.observedChunkCount payloadChunkMaximumBytes = some row.byteOffset ∧
    row.byteCount = row.payload.length ∧
    row.byteCount ≠ 0 ∧ row.byteCount ≤ payloadChunkMaximumBytes ∧
    (finalChunk ∨ row.byteCount = payloadChunkMaximumBytes) ∧
    canonicalSha256 row.checksum = true

instance (source : ValidatingPayloadSource) (row : PayloadChunk) : Decidable (source.Framed row) :=
  inferInstanceAs (Decidable (_ ∧ _ ∧ _ ∧ _ ∧ _ ∧ _ ∧ _ ∧ _ ∧ _))

/-- What `load_next_chunk` does with a row. -/
def takeRow (source : ValidatingPayloadSource) (row : PayloadChunk) :
    Result Bool × ValidatingPayloadSource :=
  if source.Framed row then
    match (IncrementalSha256.update {} row.payload) >>= IncrementalSha256.finish with
    | .error e => source.poison e
    | .ok checksum =>
      if checksum ≠ row.checksum then source.poison (chunkCorruptError "chunk-checksum")
      else
        match checkedAdd source.observedByteCount row.byteCount,
          source.aggregateByteCount.add row.byteCount with
        | some nextTotal, some nextAggregate =>
          if nextTotal > source.expectation.byteCount then
            source.poison (streamCounterError "payload_byte_count")
          else
            match source.fullDigest.update row.payload with
            | .error e => source.poison e
            | .ok fullDigest =>
              (.ok true, { source with
                fullDigest := fullDigest
                observedByteCount := nextTotal
                aggregateByteCount := nextAggregate
                observedChunkCount := source.observedChunkCount + 1
                currentChunk := row.payload
                currentOffset := 0 })
        | _, _ => source.poison (streamCounterError "payload_byte_count")
  else source.poison (chunkCorruptError "framing")

/-- `load_next_chunk` -/
def loadNextChunk (source : ValidatingPayloadSource) : Result Bool × ValidatingPayloadSource :=
  if source.sourceEof then (.ok false, source)
  else
    match source.rows with
    | .error e :: rows => { source with rows := rows }.poison e
    | [] => (.ok false, { source with sourceEof := true, currentChunk := [], currentOffset := 0 })
    | .ok row :: rows => { source with rows := rows }.takeRow row

/-- `finalize_at_eof` -/
def finalizeAtEof (source : ValidatingPayloadSource) :
    Result PayloadStreamReceipt × ValidatingPayloadSource :=
  if source.sourceEof = false ∨ source.observedChunkCount ≠ source.expectation.chunkCount ∨
      source.observedByteCount ≠ source.expectation.byteCount ∨
      source.aggregateByteCount.high ≠ 0 ∨
      source.aggregateByteCount.low ≠ source.observedByteCount then
    source.poison (chunkCorruptError "payload-census")
  else
    match source.fullDigest.finish with
    | .error e => source.poison e
    | .ok checksum =>
      if source.expectation.validateFullChecksum = true ∧
          checksum ≠ source.expectation.fullChecksum then
        source.poison (chunkCorruptError "payload-checksum")
      else
        let receipt : PayloadStreamReceipt := ⟨source.observedByteCount, source.observedChunkCount,
          source.aggregateByteCount, checksum⟩
        (.ok receipt, { source with receipt := some receipt, finished := true })

/-- The end of `read`, from the current chunk. -/
def copyOut (source : ValidatingPayloadSource) (window : Nat) :
    Result Bytes × ValidatingPayloadSource :=
  let count := min window (source.currentChunk.length - source.currentOffset)
  (.ok ((source.currentChunk.drop source.currentOffset).take count),
    { source with currentOffset := source.currentOffset + count })

/-- `sqlite_validating_payload_source::read` with a window of a size. -/
def read (source : ValidatingPayloadSource) (window : Nat) :
    Result Bytes × ValidatingPayloadSource :=
  if source.poisoned then (.error (streamStateError "payload-source-poisoned"), source)
  else if window = 0 then (.error (streamStateError "payload-source-empty-window"), source)
  else if source.finished then (.ok [], source)
  else if source.currentOffset = source.currentChunk.length then
    andThen { source with currentChunk := [], currentOffset := 0 }.loadNextChunk
      fun loaded source =>
        if loaded = false then andThen source.finalizeAtEof fun _ source => (.ok [], source)
        else source.copyOut window
  else source.copyOut window

/-- `sqlite_validating_payload_source::finish` -/
def finish (source : ValidatingPayloadSource) :
    Result PayloadStreamReceipt × ValidatingPayloadSource :=
  if source.poisoned then (.error (streamStateError "payload-source-poisoned"), source)
  else
    match source.receipt with
    | some receipt => (.ok receipt, source)
    | none =>
      if source.currentOffset ≠ source.currentChunk.length ∨
          source.observedChunkCount ≠ source.expectation.chunkCount then
        (.error (streamStateError "payload-source-not-consumed"), source)
      else if source.sourceEof then source.finalizeAtEof
      else
        match source.rows with
        | .error e :: rows => { source with rows := rows }.poison e
        | .ok _ :: rows => { source with rows := rows }.poison (chunkCorruptError "extra-chunk")
        | [] => { source with sourceEof := true }.finalizeAtEof

end ValidatingPayloadSource

end Cxxlens.Sdk.Sqlite
