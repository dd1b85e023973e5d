import Cxxlens.Sdk.Store.ByteComparison
import Cxxlens.Sdk.Store.PayloadDecoder

set_option autoImplicit false

/-! # Decoding in two passes

`decode_snapshot` of `snapshot_store_v5_codec_internal.cpp`: a pass over the source reads the graph,
and a second one compares what the graph would be written as with the source. -/

namespace Cxxlens.Sdk.Store

open Fallible Sorting

/-- `sqlite_replayable_byte_source`: its passes, and how a pass answers. -/
structure ReplayableByteSource (ρ σ : Type) where
  openPass : ρ → Result (Option σ)
  answers : BoundedByteSource σ

section Decoder

variable {ρ σ : Type} (source : ReplayableByteSource ρ σ)

/-- A pass, or the error of an owner whose pass is null. -/
def requirePass (field : Bytes) (replay : ρ) : Result σ := do
  let pass ← source.openPass replay
  match pass with
  | none => .error (storeError "store.invariant-breach" field "null-replay-pass")
  | some pass => .ok pass

/-- `binary_reader::finished` over a source -/
def SourceReader.finished (answers : BoundedByteSource σ) (reader : SourceReader σ) : Result Bool :=
  if reader.offset ≠ reader.expectedSize then .ok false
  else
    match (answers reader.source 1).1 with
    | .failed error => .error error
    | .threwBadAlloc => .error thrownBadAlloc
    | .threw => .error thrown
    | .returned count _ => .ok (count == 0)

variable {hash : Bytes → Bytes} (engine : RelationEngine hash)

/-- The checks of `decode_snapshot_private` behind the last byte. -/
def checkDecoded (hash : Bytes → Bytes) (atEnd : Result Bool) (value : SnapshotData) :
    Result Unit := do
  let invalid := corrupt "payload" "semantic-digest"
  let manifest := value.semanticManifest
  let atEnd ← replaced invalid atEnd
  reject (!atEnd || manifest.schema != ascii "cxxlens.snapshot-manifest.v1") invalid
  let identity ← dereferenced (snapshotManifestIdentity hash manifest)
  reject (manifest.id != identity || value.publicationRecord.snapshotId != manifest.id) invalid

/-- `decode_snapshot_private` over a reader -/
def decodeSnapshotPass (pass : σ) (expectedSize : Nat) : Result (PayloadSchema × SnapshotData) := do
  let ((schema, value), reader) ←
    runSource source.answers (decodePayload engine) { source := pass, expectedSize }
  checkDecoded hash (reader.finished source.answers) value
  .ok (schema, value)

/-- `decode_snapshot_private` over a replayable source -/
def decodeSnapshotPrivate (replay : ρ) (expectedSize : Nat) : Result SnapshotData := do
  let first ← requirePass source "snapshot-v5-decode" replay
  let (schema, value) ← decodeSnapshotPass source engine first expectedSize
  if schema ≠ .v5 then .ok value
  else do
    let second ← requirePass source "snapshot-v5-decode" replay
    let (encoded, comparison) := encodeSnapshotToPrivate hash
      (ByteComparisonSink.append source.answers) value { source := some second, expectedSize }
    encoded
    comparison.finish source.answers
    .ok value

/-- `decode_snapshot` -/
def decodeSnapshot (replay : ρ) (expectedSize : Nat) : Result SnapshotData :=
  if expectedSize > snapshotStoreV5MaximumPayloadBytes then
    .error (storeError "store.resource-limit" "snapshot-payload" "maximum-bytes")
  else caught "snapshot-v5-decode" (decodeSnapshotPrivate source engine replay expectedSize)

end Decoder

end Cxxlens.Sdk.Store
