import Cxxlens.Sdk.Sqlite.PayloadChunks
import Cxxlens.Sdk.Store.Payload

set_option autoImplicit false

/-! # The modes of the writer

What `binary_writer` does with the spans it is asked to append: it collects them, counts them up to
a limit, or hands them to a sink. After a first failure the two latter ignore what follows. The
encoders of `snapshot_store_v5_codec_internal.cpp` differ in the mode, and in whether the envelopes
are sorted on the way. -/

namespace Cxxlens.Sdk.Store

open Fallible
open Sqlite (U128Census)

/-- `snapshot_store_v5_maximum_payload_bytes` -/
def snapshotStoreV5MaximumPayloadBytes : Nat := 512 * 1024 * 1024

/-! ## Measuring -/

/-- `binary_writer` in its `measure_mode` -/
structure MeasuringWriter where
  failure : Option Error := none
  measuredAggregate : U128Census := {}
  measuredBytes : Nat := 0
  deriving DecidableEq, Repr

/-- `append` of a writer that measures -/
def MeasuringWriter.append (maximumBytes : Nat) (writer : MeasuringWriter) (span : Bytes) :
    MeasuringWriter :=
  if writer.failure.isSome then writer
  else
    match writer.measuredAggregate.add span.length with
    | none =>
      let error := storeError "store.counter-overflow" "materialization-v5-collection-count" []
      { writer with failure := some error }
    | some aggregate =>
      if aggregate.high ≠ 0 ∨ aggregate.low > maximumBytes then
        let error := storeError "store.resource-limit" "snapshot-payload" "maximum-bytes"
        { writer with failure := some error }
      else { writer with measuredAggregate := aggregate, measuredBytes := aggregate.low }

/-- `finish_measurement` -/
def MeasuringWriter.finish (writer : MeasuringWriter) : Result Nat :=
  match writer.failure with
  | some error => .error error
  | none => .ok writer.measuredBytes

/-- A writer that measures, over spans. -/
def measureSpans (maximumBytes : Nat) (spans : Spans) : Result Nat :=
  (spans.foldl (MeasuringWriter.append maximumBytes) {}).finish

/-! ## Streaming -/

/-- `sqlite_bounded_byte_sink` -/
abbrev BoundedByteSink (σ : Type) := σ → Bytes → Result Unit × σ

/-- `binary_writer` over a sink -/
structure StreamingWriter (σ : Type) where
  sink : σ
  failure : Option Error := none

section Streaming

variable {σ : Type} (take : BoundedByteSink σ)

/-- `append` of a writer over a sink -/
def StreamingWriter.append (writer : StreamingWriter σ) (span : Bytes) : StreamingWriter σ :=
  if writer.failure.isSome then writer
  else
    match take writer.sink span with
    | (.ok (), sink) => { writer with sink }
    | (.error error, sink) => { sink, failure := some error }

/-- `finish_stream` -/
def StreamingWriter.finish (writer : StreamingWriter σ) : Result Unit :=
  match writer.failure with
  | some error => .error error
  | none => .ok ()

/-- A writer over a sink, over spans. -/
def streamSpans (spans : Spans) (sink : σ) : Result Unit × σ :=
  let writer := spans.foldl (StreamingWriter.append take) { sink }
  (writer.finish, writer.sink)

end Streaming

/-! ## Encoders -/

section Encoders

variable (hash : Bytes → Bytes)

/-- `measure_snapshot_private` -/
def measureSnapshot (value : SnapshotData) (maximumBytes : Nat) : Result Nat :=
  measureSpans maximumBytes (plainSpans .v5 value)

/-- `encode_snapshot`. A payload that is too large throws a `std::length_error`, which the handlers
    turn into the error of the writer. -/
def encodeSnapshotAs (schema : PayloadSchema) (value : SnapshotData) : Result Bytes :=
  caught "snapshot-v5-encode" (do
    let _ ← (measureSpans snapshotStoreV5MaximumPayloadBytes (plainSpans schema value)).mapError
      fun _ => storeError "store.resource-limit" "snapshot-payload" "maximum-bytes"
    let spans ← sortedSpans hash schema value
    .ok spans.flatten)

/-- `encode_snapshot` of the current schema -/
def encodeSnapshot (value : SnapshotData) : Result Bytes :=
  encodeSnapshotAs hash .v5 value

variable {σ : Type} (take : BoundedByteSink σ)

/-- `encode_snapshot_private` to a sink -/
def encodeSnapshotToPrivate (value : SnapshotData) (sink : σ) : Result Unit × σ :=
  match measureSnapshot value snapshotStoreV5MaximumPayloadBytes with
  | .error error => (.error error, sink)
  | .ok _ =>
    match sortedSpans hash .v5 value with
    | .error error => (.error error, sink)
    | .ok spans => streamSpans take spans sink

/-- `encode_snapshot` to a sink -/
def encodeSnapshotTo (value : SnapshotData) (sink : σ) : Result Unit × σ :=
  let (outcome, sink) := encodeSnapshotToPrivate hash take value sink
  (caught "snapshot-v5-encode" outcome, sink)

/-- `encode_sealed_snapshot_private` -/
def encodeSealedSnapshot (value : SnapshotData) (sink : σ) : Result Unit × σ :=
  streamSpans take (plainSpans .v5 value) sink

end Encoders

/-! ## What is measured -/

/-- A writer that has failed ignores what follows. -/
theorem foldl_append_failed {maximumBytes : Nat} {writer : MeasuringWriter}
    (hwriter : writer.failure.isSome = true) (spans : Spans) :
    spans.foldl (MeasuringWriter.append maximumBytes) writer = writer := by
  induction spans with
  | nil => rfl
  | cons span rest ih => rw [List.foldl_cons, MeasuringWriter.append, if_pos hwriter, ih]

/-- Counting spans that a machine can hold is counting their bytes up to the limit. -/
theorem measureSpans_from {maximumBytes : Nat} (hmaximum : maximumBytes < addressable)
    {spans : Spans} (hspans : ∀ span ∈ spans, span.length < addressable) {done : Nat}
    (hdone : done ≤ maximumBytes) :
    (spans.foldl (MeasuringWriter.append maximumBytes)
        { measuredAggregate := { high := 0, low := done }, measuredBytes := done }).finish =
      if done + spans.flatten.length ≤ maximumBytes then .ok (done + spans.flatten.length)
      else .error (storeError "store.resource-limit" "snapshot-payload" "maximum-bytes") := by
  induction spans generalizing done with
  | nil =>
      rw [List.flatten_nil, List.length_nil, Nat.add_zero, if_pos hdone]
      rfl
  | cons span rest ih =>
      have hspan := hspans span List.mem_cons_self
      have hrest := fun other hother => hspans other (List.mem_cons_of_mem _ hother)
      rw [List.foldl_cons, List.flatten_cons, List.length_append]
      unfold addressable at hmaximum hspan
      by_cases hfits : done + span.length ≤ maximumBytes
      · have hadd : U128Census.add { high := 0, low := done } span.length =
            some { high := 0, low := done + span.length } := by
          rw [U128Census.add, Nat.mod_eq_of_lt (by simp only; omega)]
          exact if_pos (Nat.le_add_right _ _)
        have hstep : MeasuringWriter.append maximumBytes
            { measuredAggregate := { high := 0, low := done }, measuredBytes := done } span =
            { measuredAggregate := { high := 0, low := done + span.length },
              measuredBytes := done + span.length } := by
          rw [MeasuringWriter.append, if_neg (by simp), hadd]
          simp only
          rw [if_neg (by omega)]
        rw [hstep, ih hrest hfits, Nat.add_assoc]
      · have hstep : (MeasuringWriter.append maximumBytes
            { measuredAggregate := { high := 0, low := done }, measuredBytes := done }
              span).failure =
            some (storeError "store.resource-limit" "snapshot-payload" "maximum-bytes") := by
          rw [MeasuringWriter.append, if_neg (by simp), U128Census.add]
          simp only
          -- a sum that does not fit into the low half is carried, and then beyond every limit
          by_cases hcarry : (done + span.length) % 2 ^ 64 ≥ done
          · rw [if_pos hcarry]
            simp only
            have hlow : (done + span.length) % 2 ^ 64 = done + span.length := by omega
            rw [hlow, if_pos (by omega)]
          · rw [if_neg hcarry, if_neg (by decide)]
            simp only
            rw [if_pos (by omega)]
        rw [foldl_append_failed (by rw [hstep]; rfl), MeasuringWriter.finish, hstep,
          if_neg (by omega)]

theorem measureSpans_eq {maximumBytes : Nat} (hmaximum : maximumBytes < addressable)
    {spans : Spans} (hspans : ∀ span ∈ spans, span.length < addressable) :
    measureSpans maximumBytes spans =
      if spans.flatten.length ≤ maximumBytes then .ok spans.flatten.length
      else .error (storeError "store.resource-limit" "snapshot-payload" "maximum-bytes") := by
  have h := measureSpans_from hmaximum hspans (Nat.zero_le maximumBytes)
  rw [Nat.zero_add] at h
  exact h

/-- What is measured are the sizes of the spans. -/
theorem measureSpans_congr {maximumBytes : Nat} {spans spans' : Spans}
    (h : spans.map List.length = spans'.map List.length) :
    measureSpans maximumBytes spans = measureSpans maximumBytes spans' := by
  have happend : ∀ writer : MeasuringWriter,
      spans.foldl (MeasuringWriter.append maximumBytes) writer =
        spans'.foldl (MeasuringWriter.append maximumBytes) writer := by
    induction spans generalizing spans' with
    | nil =>
        intro writer
        rw [List.map_nil, eq_comm, List.map_eq_nil_iff] at h
        rw [h]
    | cons span rest ih =>
        intro writer
        cases spans' with
        | nil => simp at h
        | cons span' rest' =>
            rw [List.map_cons, List.map_cons, List.cons.injEq] at h
            rw [List.foldl_cons, List.foldl_cons, ih h.2]
            congr 1
            simp only [MeasuringWriter.append, h.1]
  rw [measureSpans, measureSpans, happend]

/-! ## What is delivered -/

section Delivery

variable {σ : Type} (take : BoundedByteSink σ)

/-- A sink that remembers what it has accepted. -/
def recording : BoundedByteSink (σ × Bytes) := fun state span =>
  match take state.1 span with
  | (.ok (), sink) => (.ok (), (sink, state.2 ++ span))
  | (.error error, sink) => (.error error, (sink, state.2))

@[simp] theorem streamSpans_nil (sink : σ) : streamSpans take [] sink = (.ok (), sink) :=
  rfl

theorem streamSpans_cons (span : Bytes) (rest : Spans) (sink : σ) :
    streamSpans take (span :: rest) sink =
      match take sink span with
      | (.ok (), next) => streamSpans take rest next
      | (.error error, next) => (.error error, next) := by
  have hstuck : ∀ writer : StreamingWriter σ, writer.failure.isSome = true →
      rest.foldl (StreamingWriter.append take) writer = writer := by
    intro writer hwriter
    induction rest with
    | nil => rfl
    | cons span rest ih => rw [List.foldl_cons, StreamingWriter.append, if_pos hwriter, ih]
  rw [streamSpans, List.foldl_cons, StreamingWriter.append, if_neg (by simp)]
  cases htake : take sink span with
  | mk answer next =>
      cases answer with
      | ok _ => rfl
      | error error =>
          simp only
          rw [hstuck _ rfl]
          rfl

/-- A recording sink behaves as the sink it records, and has accepted the bytes in their order: all
    of them when nothing failed, and never others. -/
theorem streamSpans_recording (spans : Spans) (sink : σ) (received : Bytes) :
    (streamSpans (recording take) spans (sink, received)).1 = (streamSpans take spans sink).1 ∧
      (streamSpans (recording take) spans (sink, received)).2.1 = (streamSpans take spans sink).2 ∧
      ((streamSpans take spans sink).1 = .ok () →
        (streamSpans (recording take) spans (sink, received)).2.2 = received ++ spans.flatten) ∧
      (streamSpans (recording take) spans (sink, received)).2.2 <+: received ++ spans.flatten := by
  induction spans generalizing sink received with
  | nil => simp
  | cons span rest ih =>
      simp only [streamSpans_cons, recording]
      cases htake : take sink span with
      | mk answer next =>
          cases answer with
          | ok _ =>
              obtain ⟨hresult, hsink, hall, hprefix⟩ := ih next (received ++ span)
              rw [List.flatten_cons, ← List.append_assoc]
              exact ⟨hresult, hsink, hall, hprefix⟩
          | error error =>
              refine ⟨rfl, rfl, fun hok => ?_, List.prefix_append _ _⟩
              exact absurd hok (by simp)

end Delivery

end Cxxlens.Sdk.Store
