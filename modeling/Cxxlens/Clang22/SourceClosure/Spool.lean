import Cxxlens.Clang22.SourceClosure.Manifest
import Cxxlens.Foundation.SparseFile

set_option autoImplicit false

/-! # The spool of a source closure

`source_closure_spool`: a task-local sink that keeps a manifest, then its blobs in a private file, and
seals them. What the operating system and the allocator answer during a call is an argument of the
call; the private file is its bytes. -/

namespace Cxxlens.Clang22

open Sdk SparseFile

/-- `source_closure_blob_descriptor`, the fields a spool looks at. -/
structure SourceClosureBlobDescriptor where
  sessionId : Bytes
  taskId : Bytes
  closureDigest : Bytes
  blobOrdinal : UInt64
  blobDigest : Bytes
  totalBytes : UInt64
  deriving DecidableEq, Repr

/-- `source_closure_blob_receipt`, the fields a spool looks at. -/
structure SourceClosureBlobReceipt where
  blobOrdinal : UInt64
  blobDigest : Bytes
  sizeBytes : UInt64
  deriving DecidableEq, Repr

/-- `source_closure_ack_credentials` -/
structure SourceClosureAckCredentials where
  spoolReceipt : Bytes
  cleanupOwner : Bytes
  transferDigest : Bytes
  deriving DecidableEq, Repr

/-- What the system answers during one call: the error of `memfd_create`, what `pwrite` and `pread`
    do at each offset, how the seals end, whether the two `try` blocks of the call get their
    memory, and what a copy that ran out of memory leaves of a descriptor. -/
structure SystemAnswers where
  memfdError : Option Error
  pwrite : Nat → Stored Error
  pread : Nat → Stored Error
  addSeals : Result Unit
  allocates : Bool
  allocatesLater : Bool
  torn : SourceClosureManifestDescriptor

/-- A system that grants everything. -/
def grantingAnswers : SystemAnswers where
  memfdError := none
  pwrite := fun _ => .stored 1
  pread := fun _ => .stored 1
  addSeals := .ok ()
  allocates := true
  allocatesLater := true
  torn := {}

/-- `source_closure_spool::state` -/
inductive SpoolState where
  | fresh
  | manifestOpen
  | manifestValidated
  | blobOpen
  | blobSealed
  | closureSealed
  | cleaned
  deriving DecidableEq, Repr

/-- `invalid_blob_ordinal` -/
def invalidBlobOrdinal : SizeT := 0xffffffffffffffff

/-- An empty `source_closure_snapshot`. -/
def emptySnapshot : SourceClosureSnapshot := ⟨[], [], [], []⟩

/-- The members of `source_closure_spool`; `privateSpool` is the file behind its descriptor. -/
structure SourceClosureSpool where
  limits : SourceClosureTransportLimits
  state : SpoolState := .fresh
  manifestDescriptor : SourceClosureManifestDescriptor := {}
  manifestBytes : Bytes := []
  snapshot : SourceClosureSnapshot := emptySnapshot
  manifestReceivedBytes : UInt64 := 0
  completedBlobCount : UInt64 := 0
  completedBlobBytes : UInt64 := 0
  currentBlobOrdinal : SizeT := invalidBlobOrdinal
  currentBlobDigest : Bytes := []
  currentBlobSize : UInt64 := 0
  currentBlobOffset : UInt64 := 0
  currentBlobReceivedBytes : UInt64 := 0
  privateSpoolBytes : UInt64 := 0
  privateSpool : Option Bytes := none
  blobOffsets : List UInt64 := []
  transferDigest : Bytes := []
  cleanupReceipt : Bytes := []

/-! ## Errors and checks -/

/-- `spool_io_failure` -/
def spoolIoFailure (field detail : Bytes) : Error :=
  failure "source-closure.spool-io" field detail

/-- `reject` -/
def spoolReject (field detail : Bytes) : Error :=
  failure "source-closure.protocol-state-invalid" field detail

/-- `reject_limit` -/
def spoolRejectLimit (field : Bytes) : Error :=
  failure "source-closure.limit-exceeded" field "task-local-spool"

/-- `validate_descriptor_ids` -/
def validateDescriptorIds (descriptor : SourceClosureManifestDescriptor) : Result Unit :=
  reject (!typedDigest descriptor.manifestDigest "semantic-v2:sha256:" ||
    !typedDigest descriptor.closureDigest "semantic-v2:sha256:" ||
    !typedDigest descriptor.taskV4Digest "semantic-v2:sha256:" ||
    !typedDigest descriptor.sessionId "provider-session:sha256:" ||
    !typedDigest descriptor.taskId "task:semantic-v2:sha256:" ||
    descriptor.taskId != ascii "task:" ++ descriptor.taskV4Digest ||
    !typedDigest descriptor.closureId "source-closure:semantic-v2:sha256:" ||
    descriptor.closureId != ascii "source-closure:" ++ descriptor.closureDigest)
    (failure "source-closure.task-binding-mismatch" "manifest-descriptor" [])

/-- What `credential_digest` digests. -/
def credentialProjection (leading transferDigest : Bytes)
    (descriptor : SourceClosureManifestDescriptor) : Bytes :=
  ascii "source-closure-spool.v1" ++ 0x0a :: leading ++ 0x0a :: descriptor.sessionId ++
    0x0a :: descriptor.taskId ++ 0x0a :: descriptor.closureDigest ++
    0x0a :: descriptor.manifestDigest ++ 0x0a :: transferDigest

/-- `credential_digest` -/
def credentialDigest (hash : Bytes → Bytes) (leading transferDigest : Bytes)
    (descriptor : SourceClosureManifestDescriptor) : Result Bytes := do
  let digest ← semanticDigest hash "cxxlens.source-closure-spool.v1"
    (credentialProjection leading transferDigest descriptor)
  .ok (leading ++ digest)

/-! ## The private file -/

/-- `std::numeric_limits<off_t>::max()` -/
def lastFileOffset : Nat := 2 ^ 63 - 1

/-- The error of an offset past the last. -/
def offsetFailure : Error :=
  failure "source-closure.limit-exceeded" "private-spool" "offset"

namespace SourceClosureSpool

variable (answers : SystemAnswers) (spool : SourceClosureSpool)

/-- `ensure_private_spool` -/
def ensurePrivateSpool : SourceClosureSpool × Result Unit :=
  match spool.privateSpool, answers.memfdError with
  | some _, _ => (spool, .ok ())
  | none, some error => (spool, .error error)
  | none, none => ({ spool with privateSpool := some [] }, .ok ())

/-- `append_private_spool` -/
def appendPrivateSpool (payload : Bytes) : SourceClosureSpool × Result Unit :=
  if payload = [] then (spool, .ok ())
  else
    match spool.privateSpool with
    | none => (spool, .error (spoolIoFailure "private-spool" "descriptor-unset"))
    | some file =>
      if payload.length > 2 ^ 64 - 1 - spool.privateSpoolBytes.toNat then
        (spool, .error (failure "source-closure.limit-exceeded" "private-spool" "byte-overflow"))
      else
        match storeLoop 0x00 lastFileOffset offsetFailure
            (spoolIoFailure "private-spool" "zero-progress") answers.pwrite payload.length file
            spool.privateSpoolBytes.toNat payload with
        | (file, .error error) => ({ spool with privateSpool := some file }, .error error)
        | (file, .ok ()) =>
          ({ spool with
              privateSpool := some file
              privateSpoolBytes := spool.privateSpoolBytes + UInt64.ofNat payload.length },
            .ok ())

/-- `read_private_blob` -/
def readPrivateBlob (allocates : Bool) (offset size : UInt64) : Result Bytes :=
  if offset > 0xffffffffffffffff - size then
    .error (failure "source-closure.limit-exceeded" "private-spool" "range")
  else if allocates = false then
    .error (failure "source-closure.limit-exceeded" "blob" "allocation")
  else
    match spool.privateSpool with
    | none => .error (spoolIoFailure "private-spool" "descriptor-unset")
    | some file =>
      loadLoop lastFileOffset offsetFailure (spoolIoFailure "private-spool" "unexpected-eof")
        answers.pread file size.toNat offset.toNat size.toNat

/-- `seal_private_spool` -/
def sealPrivateSpool : Result Unit :=
  match spool.privateSpool with
  | none => .error (spoolIoFailure "private-spool" "descriptor-unset")
  | some _ => answers.addSeals

end SourceClosureSpool

/-- The loop of `validate_sealed_metadata` over the blobs. -/
def sealedBlobBytes (limits : SourceClosureTransportLimits) (total : UInt64) :
    List SourceClosureBlob → Result UInt64
  | [] => .ok total
  | blob :: rest => do
    -- `add_u64` fails where the sum leaves its range
    reject (!validContentDigest blob.contentDigest ||
      decide (blob.sizeBytes > limits.maximumBlobBytes) ||
      decide (blob.sizeBytes > 0xffffffffffffffff - total) ||
      decide (total + blob.sizeBytes > limits.maximumUniqueBlobBytes))
      (failure "source-closure.digest-mismatch" "closure.blob" [])
    sealedBlobBytes limits (total + blob.sizeBytes) rest

namespace SourceClosureSpool

/-- `validate_sealed_metadata` -/
def validateSealedMetadata (spool : SourceClosureSpool) : Result Unit := do
  reject (spool.snapshot.members.isEmpty || spool.snapshot.blobs.isEmpty ||
    decide (spool.snapshot.members.length > spool.limits.maximumMembers.toNat) ||
    decide (spool.snapshot.blobs.length > spool.limits.maximumUniqueBlobs.toNat) ||
    spool.blobOffsets.length != spool.snapshot.blobs.length)
    (failure "source-closure.limit-exceeded" "closure.census" [])
  let total ← sealedBlobBytes spool.limits 0 spool.snapshot.blobs
  reject (total != spool.completedBlobBytes || total != spool.privateSpoolBytes)
    (failure "source-closure.digest-mismatch" "closure.bytes" [])
  validateManifestBlobReferences spool.snapshot

/-! ## The manifest -/

section Calls

variable (hash : Bytes → Bytes) (unicode : UnicodeNfc) (answers : SystemAnswers)
  (spool : SourceClosureSpool)

/-- `begin_manifest`; a size is never above `std::size_t`. -/
def beginManifest (descriptor : SourceClosureManifestDescriptor) :
    SourceClosureSpool × Result Unit :=
  if spool.state ≠ .fresh then (spool, .error (spoolReject "manifest" "already-open"))
  else
    match validateDescriptorIds descriptor with
    | .error error => (spool, .error error)
    | .ok () =>
      if descriptor.totalBytes = 0 ∨ descriptor.totalBytes > spool.limits.maximumManifestBytes ∨
          descriptor.totalBytes > spool.limits.maximumTaskSpoolBytes ∨
          descriptor.chunkBytes = 0 ∨
          descriptor.chunkBytes > spool.limits.maximumChunkPayloadBytes then
        (spool, .error (spoolRejectLimit "manifest"))
      else
        match spool.ensurePrivateSpool answers with
        | (spool, .error error) => (spool, .error error)
        | (spool, .ok ()) =>
          if answers.allocates = false then
            ({ spool with manifestDescriptor := answers.torn },
              .error (spoolRejectLimit "manifest"))
          else
            ({ spool with
                manifestDescriptor := descriptor
                manifestReceivedBytes := 0
                state := .manifestOpen }, .ok ())

/-- `append_manifest` -/
def appendManifest (payload : Bytes) : SourceClosureSpool × Result Unit :=
  if spool.state ≠ .manifestOpen then (spool, .error (spoolReject "manifest-chunk" "not-open"))
  else if payload = [] ∨ payload.length > spool.limits.maximumChunkPayloadBytes.toNat ∨
      spool.manifestReceivedBytes > spool.manifestDescriptor.totalBytes ∨
      payload.length >
        (spool.manifestDescriptor.totalBytes - spool.manifestReceivedBytes).toNat then
    (spool, .error (spoolReject "manifest-chunk" "byte-count"))
  else if answers.allocates = false then (spool, .error (spoolRejectLimit "manifest"))
  else
    ({ spool with
        manifestBytes := spool.manifestBytes ++ payload
        manifestReceivedBytes := spool.manifestReceivedBytes + UInt64.ofNat payload.length },
      .ok ())

/-- `finish_manifest`; the bytes are moved into the parser, whatever it says. -/
def finishManifest (manifestDigest : Bytes) :
    SourceClosureSpool × Result SourceClosureManifestSummary :=
  if spool.state ≠ .manifestOpen then (spool, .error (spoolReject "manifest" "not-open"))
  else if spool.manifestReceivedBytes ≠ spool.manifestDescriptor.totalBytes ∨
      manifestDigest ≠ spool.manifestDescriptor.manifestDigest then
    (spool, .error (manifestFailure "manifest" "census"))
  else if answers.allocates = false then
    ({ spool with manifestBytes := [] }, .error (spoolRejectLimit "manifest"))
  else
    match readManifest hash unicode spool.limits spool.manifestDescriptor spool.manifestBytes
        manifestDigest with
    | .error error => ({ spool with manifestBytes := [] }, .error error)
    | .ok (snapshot, total) =>
      ({ spool with manifestBytes := [], snapshot := snapshot, state := .manifestValidated },
        .ok ⟨spool.manifestDescriptor.closureId, spool.manifestDescriptor.closureDigest,
          spool.manifestDescriptor.manifestDigest, UInt64.ofNat snapshot.members.length,
          UInt64.ofNat snapshot.blobs.length, total⟩)

/-! ## The blobs -/

/-- `begin_blob` -/
def beginBlob (descriptor : SourceClosureBlobDescriptor) : SourceClosureSpool × Result Unit :=
  if spool.state ≠ .manifestValidated ∧ spool.state ≠ .blobSealed then
    (spool, .error (spoolReject "blob" "not-ready"))
  else if descriptor.sessionId ≠ spool.manifestDescriptor.sessionId ∨
      descriptor.taskId ≠ spool.manifestDescriptor.taskId ∨
      descriptor.closureDigest ≠ spool.manifestDescriptor.closureDigest ∨
      descriptor.blobOrdinal ≠ spool.completedBlobCount then
    (spool, .error (failure "source-closure.task-binding-mismatch" "blob-descriptor" []))
  else
    match spool.snapshot.blobs[descriptor.blobOrdinal.toNat]? with
    | none =>
      (spool, .error (failure "source-closure.task-binding-mismatch" "blob-descriptor" []))
    | some expected =>
      if descriptor.blobDigest ≠ expected.contentDigest ∨
          descriptor.totalBytes ≠ expected.sizeBytes ∨
          descriptor.totalBytes > spool.limits.maximumBlobBytes then
        (spool, .error (failure "source-closure.digest-mismatch" "blob-descriptor" []))
      else if spool.manifestDescriptor.totalBytes > spool.limits.maximumTaskSpoolBytes ∨
          spool.completedBlobBytes >
            spool.limits.maximumTaskSpoolBytes - spool.manifestDescriptor.totalBytes ∨
          descriptor.totalBytes > spool.limits.maximumTaskSpoolBytes -
            spool.manifestDescriptor.totalBytes - spool.completedBlobBytes then
        (spool, .error (spoolRejectLimit "blob"))
      else
        match spool.ensurePrivateSpool answers with
        | (spool, .error error) => (spool, .error error)
        | (spool, .ok ()) =>
          ({ spool with
              currentBlobOrdinal := descriptor.blobOrdinal
              currentBlobDigest := descriptor.blobDigest
              currentBlobSize := descriptor.totalBytes
              currentBlobOffset := spool.privateSpoolBytes
              currentBlobReceivedBytes := 0
              state := .blobOpen }, .ok ())

/-- `append_blob` -/
def appendBlob (payload : Bytes) : SourceClosureSpool × Result Unit :=
  if spool.state ≠ .blobOpen then (spool, .error (spoolReject "blob-chunk" "not-open"))
  else if payload = [] ∨ payload.length > spool.limits.maximumChunkPayloadBytes.toNat ∨
      spool.currentBlobReceivedBytes > spool.currentBlobSize ∨
      payload.length > (spool.currentBlobSize - spool.currentBlobReceivedBytes).toNat then
    (spool, .error (spoolReject "blob-chunk" "byte-count"))
  else
    match spool.appendPrivateSpool answers payload with
    | (spool, .error error) => (spool, .error error)
    | (spool, .ok ()) =>
      ({ spool with
          currentBlobReceivedBytes :=
            spool.currentBlobReceivedBytes + UInt64.ofNat payload.length }, .ok ())

/-- `finish_blob` -/
def finishBlob (receipt : SourceClosureBlobReceipt) : SourceClosureSpool × Result Unit :=
  if spool.state ≠ .blobOpen then (spool, .error (spoolReject "blob" "not-open"))
  else if spool.currentBlobOrdinal = invalidBlobOrdinal ∨
      receipt.blobOrdinal ≠ spool.currentBlobOrdinal ∨
      receipt.blobDigest ≠ spool.currentBlobDigest ∨
      receipt.sizeBytes ≠ spool.currentBlobSize ∨
      spool.currentBlobReceivedBytes ≠ spool.currentBlobSize then
    (spool, .error (failure "source-closure.digest-mismatch" "blob-receipt" []))
  else
    match spool.readPrivateBlob answers answers.allocates spool.currentBlobOffset
        spool.currentBlobSize with
    | .error error => (spool, .error error)
    | .ok observed =>
      if contentDigest hash observed ≠ spool.currentBlobDigest then
        (spool, .error (failure "source-closure.digest-mismatch" "blob-content" []))
      else if answers.allocatesLater = false then
        (spool, .error (spoolRejectLimit "blob-offsets"))
      else
        ({ spool with
            blobOffsets := spool.blobOffsets ++ [spool.currentBlobOffset]
            completedBlobBytes := spool.completedBlobBytes + spool.currentBlobSize
            completedBlobCount := spool.completedBlobCount + 1
            currentBlobOrdinal := invalidBlobOrdinal
            currentBlobDigest := []
            currentBlobSize := 0
            currentBlobOffset := 0
            currentBlobReceivedBytes := 0
            state := .blobSealed }, .ok ())

/-! ## The closure -/

/-- `credential` -/
def credential (leading transferDigest : Bytes) : Result Bytes :=
  credentialDigest hash leading transferDigest spool.manifestDescriptor

/-- `finish_closure` -/
def finishClosure (transferDigest : Bytes) :
    SourceClosureSpool × Result SourceClosureAckCredentials :=
  if spool.state ≠ .blobSealed ∨
      spool.completedBlobCount.toNat ≠ spool.snapshot.blobs.length then
    (spool, .error (spoolReject "closure" "not-complete"))
  else if typedDigest transferDigest "semantic-v2:sha256:" = false ∨
      spool.completedBlobBytes > spool.limits.maximumUniqueBlobBytes then
    (spool, .error (failure "source-closure.digest-mismatch" "transfer" []))
  else if answers.allocates = false then (spool, .error (spoolRejectLimit "closure"))
  else
    match spool.validateSealedMetadata with
    | .error error => (spool, .error error)
    | .ok () =>
      match spool.sealPrivateSpool answers with
      | .error error => (spool, .error error)
      | .ok () =>
        if answers.allocatesLater = false then
          (spool, .error (failure "source-closure.limit-exceeded" "credentials" []))
        else
          match spool.credential hash "spool-receipt:" transferDigest,
              spool.credential hash "cleanup-owner:" transferDigest with
          | .ok spoolReceipt, .ok cleanupOwner =>
            ({ spool with transferDigest := transferDigest, state := .closureSealed },
              .ok ⟨spoolReceipt, cleanupOwner, transferDigest⟩)
          | _, _ => (spool, .error (spoolIoFailure "credentials" []))

/-- `cleanup` -/
def cleanup : SourceClosureSpool × Result Bytes :=
  if spool.cleanupReceipt ≠ [] then (spool, .ok spool.cleanupReceipt)
  else if answers.allocates = false then
    (spool, .error (failure "source-closure.cleanup-failed" "cleanup" []))
  else
    match spool.credential hash "cleanup-receipt:" spool.transferDigest with
    | .error error => (spool, .error error)
    | .ok receipt =>
      ({ limits := spool.limits
         transferDigest := spool.transferDigest
         cleanupReceipt := receipt
         state := .cleaned }, .ok receipt)

/-- The loop of `snapshot` over the blobs and their offsets. -/
def loadContents : List SourceClosureBlob → List UInt64 → Result (List SourceClosureBlob)
  | blob :: blobs, offset :: offsets => do
    let content ← spool.readPrivateBlob answers answers.allocatesLater offset blob.sizeBytes
    reject (contentDigest hash content != blob.contentDigest)
      (failure "source-closure.digest-mismatch" "snapshot.blob-content" [])
    let loaded ← loadContents blobs offsets
    .ok ({ blob with content := some content } :: loaded)
  | _, _ => .ok []

/-- `snapshot` -/
def takeSnapshot : Result SourceClosureSnapshot :=
  if spool.state ≠ .closureSealed then .error (spoolReject "snapshot" "not-sealed")
  else if spool.blobOffsets.length ≠ spool.snapshot.blobs.length then
    .error (spoolIoFailure "snapshot" "blob-offsets")
  else if answers.allocates = false then .error (spoolRejectLimit "snapshot")
  else do
    let blobs ← spool.loadContents hash answers spool.snapshot.blobs spool.blobOffsets
    let output := { spool.snapshot with blobs := blobs }
    output.validate hash unicode
    .ok output

/-- `retained_bytes` -/
def retainedBytes : UInt64 :=
  if spool.privateSpoolBytes > 0xffffffffffffffff - UInt64.ofNat spool.manifestBytes.length then
    0xffffffffffffffff
  else UInt64.ofNat spool.manifestBytes.length + spool.privateSpoolBytes

/-- `sealed` -/
def isSealed : Bool :=
  spool.state = .closureSealed

end Calls

end SourceClosureSpool

/-! ## Any call -/

/-- A call of a spool with what the system answers. -/
inductive SpoolCall where
  | beginManifest (descriptor : SourceClosureManifestDescriptor)
  | appendManifest (payload : Bytes)
  | finishManifest (manifestDigest : Bytes)
  | beginBlob (descriptor : SourceClosureBlobDescriptor)
  | appendBlob (payload : Bytes)
  | finishBlob (receipt : SourceClosureBlobReceipt)
  | finishClosure (transferDigest : Bytes)
  | snapshot
  | cleanup

/-- The spool after a call. -/
def SpoolCall.after (hash : Bytes → Bytes) (unicode : UnicodeNfc) (answers : SystemAnswers)
    (spool : SourceClosureSpool) : SpoolCall → SourceClosureSpool
  | .beginManifest descriptor => (spool.beginManifest answers descriptor).1
  | .appendManifest payload => (spool.appendManifest answers payload).1
  | .finishManifest manifestDigest =>
    (spool.finishManifest hash unicode answers manifestDigest).1
  | .beginBlob descriptor => (spool.beginBlob answers descriptor).1
  | .appendBlob payload => (spool.appendBlob answers payload).1
  | .finishBlob receipt => (spool.finishBlob hash answers receipt).1
  | .finishClosure transferDigest => (spool.finishClosure hash answers transferDigest).1
  -- `snapshot` is `const`
  | .snapshot => spool
  | .cleanup => (spool.cleanup hash answers).1

end Cxxlens.Clang22
