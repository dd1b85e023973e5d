import Cxxlens.ProtocolV2.Closure.Steps

set_option autoImplicit false

/-! # The grammar of a transfer

What a closure transfer is for, as a grammar of the controls it accepts: one manifest in chunks,
then blobs in the order of their ordinals, each in chunks, then a seal that counts them, and an
acknowledgement; a reject may end it at any point before. The state machine enforces this with
phases and counters. `Follows` says which history the counters stand for, each step keeps it, and so
does every run. -/

namespace Cxxlens.ProtocolV2.Closure

open Sdk (Error Result)
open Fallible
open Chunking (Shape Place Received Complete)

/-! ## Grammar -/

/-- A manifest, as far as it has been transferred. -/
structure ManifestPart where
  descriptor : SourceClosureManifestDescriptor
  chunks : List SourceClosureManifestChunk

/-- The controls of a manifest, in order. -/
def ManifestPart.controls (part : ManifestPart) : List ClosureControlView :=
  .manifest (.descriptor part.descriptor) :: part.chunks.map fun chunk => .manifest (.chunk chunk)

/-- What the descriptor of a manifest announces. -/
def ManifestPart.shape (part : ManifestPart) : Shape where
  total := part.descriptor.totalBytes.toNat
  chunkBytes := part.descriptor.chunkBytes.toNat
  chunkCount := part.descriptor.chunkCount.toNat

/-- The places the chunks of a manifest claim. -/
def ManifestPart.places (part : ManifestPart) : List Place :=
  part.chunks.map fun chunk =>
    ⟨chunk.chunkIndex.toNat, chunk.offset.toNat, chunk.byteCount.toNat⟩

/-- A blob, as far as it has been transferred. -/
structure BlobPart where
  descriptor : SourceClosureBlobDescriptor
  chunks : List SourceClosureChunk

/-- The controls of a blob, in order. -/
def BlobPart.controls (part : BlobPart) : List ClosureControlView :=
  .blob part.descriptor :: part.chunks.map fun chunk => .chunk chunk

/-- What the descriptor of a blob announces. -/
def BlobPart.shape (part : BlobPart) : Shape where
  total := part.descriptor.totalBytes.toNat
  chunkBytes := part.descriptor.chunkBytes.toNat
  chunkCount := part.descriptor.chunkCount.toNat

/-- The places the chunks of a blob claim. -/
def BlobPart.places (part : BlobPart) : List Place :=
  part.chunks.map fun chunk =>
    ⟨chunk.chunkIndex.toNat, chunk.offset.toNat, chunk.byteCount.toNat⟩

/-- Every chunk of the blob carries the blob's ordinal and digest. -/
def BlobPart.Named (part : BlobPart) : Prop :=
  ∀ chunk ∈ part.chunks, chunk.blobOrdinal = part.descriptor.blobOrdinal ∧
    chunk.blobDigest = part.descriptor.blobDigest

/-- Whole blobs with the ordinals 0, 1, 2 and so on. -/
structure CompleteBlobs (blobs : List BlobPart) : Prop where
  ordinals : (blobs.map fun blob => blob.descriptor.blobOrdinal.toNat) = List.range blobs.length
  named : ∀ blob ∈ blobs, blob.Named
  complete : ∀ blob ∈ blobs, Complete blob.shape blob.places

/-- The announced sizes of these blobs together. -/
def totalOf (blobs : List BlobPart) : Nat :=
  (blobs.map fun blob => blob.shape.total).sum

/-- A whole transfer up to its seal. -/
def SealedTransfer (controls : List ClosureControlView) : Prop :=
  ∃ (manifest : ManifestPart) (blobs : List BlobPart) (item : SourceClosureSeal),
    controls = manifest.controls ++ blobs.flatMap BlobPart.controls ++ [.sealed item] ∧
      Complete manifest.shape manifest.places ∧ CompleteBlobs blobs ∧
      item.blobCount.toNat = blobs.length ∧ item.totalBytes.toNat = totalOf blobs

/-- A transfer that may still go on: a first part of a whole one. -/
inductive OpenTranscript : List ClosureControlView → Prop
  | empty : OpenTranscript []
  | manifest {part : ManifestPart} {observed : Nat}
      (hreceived : Received part.shape part.places observed) : OpenTranscript part.controls
  | blobs {manifest : ManifestPart} {blobs : List BlobPart}
      (hmanifest : Complete manifest.shape manifest.places) (hblobs : CompleteBlobs blobs) :
      OpenTranscript (manifest.controls ++ blobs.flatMap BlobPart.controls)
  | blob {manifest : ManifestPart} {blobs : List BlobPart} {part : BlobPart} {observed : Nat}
      (hmanifest : Complete manifest.shape manifest.places) (hblobs : CompleteBlobs blobs)
      (hordinal : part.descriptor.blobOrdinal.toNat = blobs.length) (hnamed : part.Named)
      (hreceived : Received part.shape part.places observed) :
      OpenTranscript (manifest.controls ++ blobs.flatMap BlobPart.controls ++ part.controls)
  | done {controls : List ClosureControlView} (h : SealedTransfer controls) :
      OpenTranscript controls

/-- Every transfer: one that may go on, or one that ended with an acknowledgement or a reject. -/
inductive Transcript : List ClosureControlView → Prop
  | opened {controls : List ClosureControlView} (h : OpenTranscript controls) : Transcript controls
  | acknowledged {controls : List ClosureControlView} (h : SealedTransfer controls)
      (item : SourceClosureAck) : Transcript (controls ++ [.ack item])
  | rejected {controls : List ClosureControlView} (h : OpenTranscript controls)
      (item : SourceClosureReject Bytes) : Transcript (controls ++ [.reject item])

/-! ## What the counters stand for -/

/-- The manifest counters of the state count this part of a manifest. -/
structure CountsManifest (state : MutableState) (part : ManifestPart) : Prop where
  total : state.manifestTotal = part.descriptor.totalBytes
  count : state.manifestChunkCount = part.descriptor.chunkCount
  next : state.manifestNextChunk.toNat = part.chunks.length
  received : Received part.shape part.places state.manifestObserved.toNat

/-- The counters of the current blob count this part of a blob. -/
structure CountsBlob (state : MutableState) (part : BlobPart) : Prop where
  ordinal : state.currentBlobOrdinal = part.descriptor.blobOrdinal
  digest : state.currentBlobDigest.view = part.descriptor.blobDigest
  total : state.currentBlobTotal = part.descriptor.totalBytes
  count : state.currentBlobChunkCount = part.descriptor.chunkCount
  next : state.currentBlobNextChunk.toNat = part.chunks.length
  named : part.Named
  received : Received part.shape part.places state.currentBlobObserved.toNat

/-- The state a transfer is in after it accepted these controls. There is no case for
    `manifest_open`: nothing ever enters that phase. -/
inductive Follows (state : MutableState) : List ClosureControlView → Prop
  | fresh (hphase : state.phase = .taskV4Sealed) (hobserved : state.manifestObserved = 0)
      (hordinal : state.nextBlobOrdinal = 0) (htotal : state.blobObservedTotal = 0) :
      Follows state []
  | manifest {part : ManifestPart} (hphase : state.phase = .manifestStreaming)
      (hcounts : CountsManifest state part)
      (hshort : part.chunks.length < part.descriptor.chunkCount.toNat)
      (hordinal : state.nextBlobOrdinal = 0) (htotal : state.blobObservedTotal = 0) :
      Follows state part.controls
  | blobs {manifest : ManifestPart} {blobs : List BlobPart}
      (hphase : state.phase = .manifestValidated)
      (hmanifest : Complete manifest.shape manifest.places)
      (hblobs : CompleteBlobs blobs) (hordinal : state.nextBlobOrdinal.toNat = blobs.length)
      (htotal : state.blobObservedTotal.toNat = totalOf blobs) :
      Follows state (manifest.controls ++ blobs.flatMap BlobPart.controls)
  | blob {manifest : ManifestPart} {blobs : List BlobPart} {part : BlobPart}
      (hphase : state.phase = .blobStreaming)
      (hmanifest : Complete manifest.shape manifest.places)
      (hblobs : CompleteBlobs blobs) (hordinal : state.nextBlobOrdinal.toNat = blobs.length)
      (hcounts : CountsBlob state part)
      (hcurrent : part.descriptor.blobOrdinal.toNat = blobs.length)
      (hshort : part.chunks.length < part.descriptor.chunkCount.toNat)
      (htotal : state.blobObservedTotal.toNat = totalOf blobs + state.currentBlobObserved.toNat) :
      Follows state (manifest.controls ++ blobs.flatMap BlobPart.controls ++ part.controls)
  | done {controls : List ClosureControlView} (hphase : state.phase = .closureSealed)
      (h : SealedTransfer controls) : Follows state controls
  | acknowledged {controls : List ClosureControlView} (hphase : state.phase = .acknowledged)
      (h : SealedTransfer controls) (item : SourceClosureAck) :
      Follows state (controls ++ [.ack item])
  | rejected {controls : List ClosureControlView} (hphase : state.phase = .rejected)
      (h : OpenTranscript controls) (item : SourceClosureReject Bytes) :
      Follows state (controls ++ [.reject item])

variable {session : ClosureSession} {state next : MutableState}
  {controls : List ClosureControlView}

/-- The sequence and the credit are not part of the grammar. -/
theorem Follows.advance (h : Follows state controls) (sequence : SequenceGuard)
    (credit : CreditWindow) :
    Follows { state with sequence := sequence, credit := credit } controls := by
  cases h with
  | fresh hphase hobserved hordinal htotal => exact .fresh hphase hobserved hordinal htotal
  | manifest hphase hcounts hshort hordinal htotal =>
      exact .manifest hphase ⟨hcounts.total, hcounts.count, hcounts.next, hcounts.received⟩ hshort
        hordinal htotal
  | blobs hphase hmanifest hblobs hordinal htotal =>
      exact .blobs hphase hmanifest hblobs hordinal htotal
  | blob hphase hmanifest hblobs hordinal hcounts hcurrent hshort htotal =>
      exact .blob hphase hmanifest hblobs hordinal ⟨hcounts.ordinal, hcounts.digest, hcounts.total,
        hcounts.count, hcounts.next, hcounts.named, hcounts.received⟩ hcurrent hshort htotal
  | done hphase h => exact .done hphase h
  | acknowledged hphase h item =>
      refine .acknowledged ?_ h item
      exact hphase
  | rejected hphase h item =>
      refine .rejected ?_ h item
      exact hphase

/-- Until it has ended, the history is an open transcript. -/
theorem Follows.open (h : Follows state controls) (hack : state.phase ≠ .acknowledged)
    (hreject : state.phase ≠ .rejected) : OpenTranscript controls := by
  cases h with
  | fresh hphase hobserved hordinal htotal => exact .empty
  | manifest hphase hcounts hshort hordinal htotal => exact .manifest hcounts.received
  | blobs hphase hmanifest hblobs hordinal htotal => exact .blobs hmanifest hblobs
  | blob hphase hmanifest hblobs hordinal hcounts hcurrent hshort htotal =>
      exact .blob hmanifest hblobs hcurrent hcounts.named hcounts.received
  | done hphase h => exact .done h
  | acknowledged hphase h item => exact absurd hphase hack
  | rejected hphase h item => exact absurd hphase hreject

theorem Follows.transcript (h : Follows state controls) : Transcript controls := by
  cases h with
  | acknowledged hphase h item => exact .acknowledged h item
  | rejected hphase h item => exact .rejected h item
  | fresh hphase hobserved hordinal htotal => exact .opened .empty
  | manifest hphase hcounts hshort hordinal htotal => exact .opened (.manifest hcounts.received)
  | blobs hphase hmanifest hblobs hordinal htotal => exact .opened (.blobs hmanifest hblobs)
  | blob hphase hmanifest hblobs hordinal hcounts hcurrent hshort htotal =>
      exact .opened (.blob hmanifest hblobs hcurrent hcounts.named hcounts.received)
  | done hphase h => exact .opened (.done h)

/-! ## Counting chunks -/

theorem toNat_add_one {value limit : UInt64} (h : value.toNat < limit.toNat) :
    (value + 1).toNat = value.toNat + 1 := by
  have hlt := limit.toNat_lt
  rw [UInt64.toNat_add, UInt64.toNat_one, Nat.mod_eq_of_lt (by omega)]

theorem toNat_add_of_le_sub {value increment limit : UInt64} (hvalue : value ≤ limit)
    (h : increment ≤ limit - value) :
    (value + increment).toNat = value.toNat + increment.toNat ∧
      increment.toNat ≤ limit.toNat - value.toNat := by
  have hlt := limit.toNat_lt
  rw [UInt64.le_iff_toNat_le] at hvalue h
  rw [UInt64.toNat_sub_of_le _ _ (UInt64.le_iff_toNat_le.2 hvalue)] at h
  rw [UInt64.toNat_add, Nat.mod_eq_of_lt (by omega)]
  exact ⟨rfl, h⟩

/-- The counters after one more chunk: they do not wrap, and they tell whether it was the last. -/
theorem Received.count {shape : Shape} {places : List Place}
    {observed next total count index offset byteCount : UInt64}
    (h : Received shape places observed.toNat) (htotal : total.toNat = shape.total)
    (hcount : count.toNat = shape.chunkCount) (hnext : next.toNat = places.length)
    (hshort : places.length < shape.chunkCount) (hindex : index = next) (hoffset : offset = observed)
    (hpos : byteCount ≠ 0) (hobserved : observed ≤ total) (hfits : byteCount ≤ total - observed)
    (hlast : index + 1 = count → byteCount = total - observed) :
    let places' := places ++ [⟨index.toNat, offset.toNat, byteCount.toNat⟩]
    (next + 1).toNat = places'.length ∧
      (observed + byteCount).toNat = observed.toNat + byteCount.toNat ∧
      Received shape places' (observed + byteCount).toNat ∧
      (next + 1 = count → (observed + byteCount).toNat = shape.total ∧ Complete shape places') ∧
      (next + 1 ≠ count → places'.length < shape.chunkCount) := by
  subst hindex hoffset
  intro places'
  have hnext' : (index + 1).toNat = index.toNat + 1 := toNat_add_one (show index.toNat < count.toNat by omega)
  obtain ⟨hsum, hle⟩ := toNat_add_of_le_sub hobserved hfits
  have hpos' : 0 < byteCount.toNat := by
    rw [← UInt64.toNat_inj.ne, UInt64.toNat_zero] at hpos
    omega
  have hreceived : Received shape places' (offset + byteCount).toNat := by
    rw [hsum]
    exact h.append hnext rfl hpos' (show byteCount.toNat ≤ shape.total - offset.toNat by omega)
  have hlength : places'.length = places.length + 1 := by simp [places']
  refine ⟨by omega, hsum, hreceived, ?_, ?_⟩
  · intro heq
    have hall := congrArg UInt64.toNat heq
    have hrest : (offset + byteCount).toNat = shape.total := by
      have hsub := congrArg UInt64.toNat (hlast heq)
      rw [UInt64.toNat_sub_of_le _ _ hobserved] at hsub
      rw [UInt64.le_iff_toNat_le] at hobserved
      omega
    exact ⟨hrest, hrest ▸ hreceived, by omega⟩
  · intro hne
    rw [← UInt64.toNat_inj.ne] at hne
    omega

/-! ## Steps -/

theorem shape_of_manifest {descriptor : SourceClosureManifestDescriptor} {bound : ClosureLimits}
    (h : validateManifestDescriptor descriptor bound = .ok ()) :
    Shape.Valid (ManifestPart.shape ⟨descriptor, []⟩) := by
  rw [validateManifestDescriptor, guard_eq_ok_iff, seq_eq_ok_iff, guard_eq_ok_iff, seq_eq_ok_iff,
    guard_eq_ok_iff] at h
  exact shape_of_validShape h.2.2.2.2.2

theorem shape_of_blob {descriptor : SourceClosureBlobDescriptor} {bound : ClosureLimits}
    (h : validateBlobDescriptor descriptor bound = .ok ()) :
    Shape.Valid (BlobPart.shape ⟨descriptor, []⟩) ∧
      descriptor.blobOrdinal.toNat < bound.maximumBlobs.toNat := by
  rw [validateBlobDescriptor, seq_eq_ok_iff, seq_eq_ok_iff, seq_eq_ok_iff, guard_eq_ok_iff,
    not_or, ge_iff_le, UInt64.not_le, UInt64.lt_iff_toNat_lt] at h
  exact ⟨shape_of_validShape h.2.2.2.2, h.2.2.2.1.1⟩

theorem pos_of_manifestChunk {chunk : SourceClosureManifestChunk} {bound : ClosureLimits}
    (h : validateManifestChunk chunk bound = .ok ()) : chunk.byteCount ≠ 0 := by
  rw [validateManifestChunk, guard_eq_ok_iff, seq_eq_ok_iff, seq_eq_ok_iff, guard_eq_ok_iff,
    not_or] at h
  exact h.2.2.2.1.1

theorem pos_of_blobChunk {chunk : SourceClosureChunk} {bound : ClosureLimits}
    (h : validateBlobChunk chunk bound = .ok ()) : chunk.byteCount ≠ 0 := by
  rw [validateBlobChunk, seq_eq_ok_iff, seq_eq_ok_iff, guard_eq_ok_iff] at h
  simp only [not_or] at h
  exact h.2.2.1.2.1

theorem totalOf_append (blobs : List BlobPart) (blob : BlobPart) :
    totalOf (blobs ++ [blob]) = totalOf blobs + blob.shape.total := by
  simp [totalOf]

/-- One more whole blob, with the next ordinal. -/
theorem CompleteBlobs.append {blobs : List BlobPart} (h : CompleteBlobs blobs) {blob : BlobPart}
    (hordinal : blob.descriptor.blobOrdinal.toNat = blobs.length) (hnamed : blob.Named)
    (hcomplete : Complete blob.shape blob.places) : CompleteBlobs (blobs ++ [blob]) := by
  constructor
  · rw [List.map_append, h.ordinals, List.length_append, List.length_singleton, List.range_succ,
      List.map_singleton, hordinal]
  · intro other hother
    rcases List.mem_append.1 hother with hmem | hmem
    · exact h.named other hmem
    · rwa [List.mem_singleton.1 hmem]
  · intro other hother
    rcases List.mem_append.1 hother with hmem | hmem
    · exact h.complete other hmem
    · rwa [List.mem_singleton.1 hmem]

theorem CompleteBlobs.nil : CompleteBlobs [] :=
  ⟨rfl, by simp, by simp⟩

/-! One lemma for each branch. The phase the branch asks for leaves one case of `Follows`. -/

theorem follows_manifestDescriptor (h : Follows state controls)
    {descriptor : SourceClosureManifestDescriptor} {bound : ClosureLimits}
    (hvalid : validateManifestDescriptor descriptor bound = .ok ())
    (hstep : onManifestDescriptor session state descriptor = .ok next) :
    Follows next (controls ++ [.manifest (.descriptor descriptor)]) := by
  obtain ⟨hphase, -, -, rfl⟩ := onManifestDescriptor_eq_ok hstep
  have hshape := shape_of_manifest hvalid
  cases h with
  | fresh _ hobserved hordinal htotal =>
      by_cases hcount : descriptor.chunkCount = 0
      · -- a manifest without chunks is complete at once
        have hnone : (ManifestPart.shape ⟨descriptor, []⟩).chunkCount = 0 := by
          simp [ManifestPart.shape, hcount]
        show Follows _ (ManifestPart.controls ⟨descriptor, []⟩ ++ [].flatMap BlobPart.controls)
        refine .blobs (if_pos hcount) (Complete.nil hshape hnone) .nil ?_ ?_
        · simp [hordinal]
        · simp [htotal, totalOf]
      · show Follows _ (ManifestPart.controls ⟨descriptor, []⟩)
        refine .manifest (if_neg hcount) ⟨rfl, rfl, rfl, Received.nil hshape⟩ ?_ hordinal htotal
        rw [← UInt64.toNat_inj, UInt64.toNat_zero] at hcount
        exact Nat.pos_of_ne_zero hcount
  | manifest h | blobs h | blob h | done h | acknowledged h | rejected h =>
      exact absurd (h.symm.trans hphase) (by simp)

theorem follows_manifestChunk (h : Follows state controls) {chunk : SourceClosureManifestChunk}
    {bound : ClosureLimits} (hvalid : validateManifestChunk chunk bound = .ok ())
    (hstep : onManifestChunk session state chunk = .ok next) :
    Follows next (controls ++ [.manifest (.chunk chunk)]) := by
  obtain ⟨hphase, -, -, hobserved, hindex, hoffset, hfits, hlast, rfl⟩ := onManifestChunk_eq_ok hstep
  have hpos := pos_of_manifestChunk hvalid
  cases h with
  | @manifest part hstreaming hcounts hshort hordinal htotal =>
      have hlength : part.places.length = part.chunks.length := by simp [ManifestPart.places]
      obtain ⟨hnext, -, hreceived, hcomplete, hmore⟩ := Received.count hcounts.received
        (congrArg UInt64.toNat hcounts.total) (congrArg UInt64.toNat hcounts.count)
        (hlength ▸ hcounts.next) (hlength ▸ hshort) hindex hoffset hpos hobserved hfits hlast
      have hcontrols : part.controls ++ [.manifest (.chunk chunk)] =
          ManifestPart.controls ⟨part.descriptor, part.chunks ++ [chunk]⟩ := by
        simp [ManifestPart.controls]
      have hplaces : part.places ++ [⟨chunk.chunkIndex.toNat, chunk.offset.toNat,
          chunk.byteCount.toNat⟩] =
            ManifestPart.places ⟨part.descriptor, part.chunks ++ [chunk]⟩ := by
        simp [ManifestPart.places]
      rw [hplaces] at hnext hreceived hcomplete hmore
      rw [ManifestPart.places, List.length_map] at hnext hmore
      rw [hcontrols]
      by_cases hdone : state.manifestNextChunk + 1 = state.manifestChunkCount
      · rw [← List.append_nil (ManifestPart.controls _)]
        show Follows _ (_ ++ [].flatMap BlobPart.controls)
        refine .blobs (if_pos hdone) (hcomplete hdone).2 .nil ?_ ?_
        · simp [hordinal]
        · simp [htotal, totalOf]
      · exact .manifest ((if_neg hdone).trans hstreaming) ⟨hcounts.total, hcounts.count, hnext,
          hreceived⟩ (hmore hdone) hordinal htotal
  | fresh h | blobs h | blob h | done h | acknowledged h | rejected h =>
      rw [h] at hphase
      exact absurd hphase (by simp)

theorem follows_blobDescriptor (h : Follows state controls) {item : SourceClosureBlobDescriptor}
    {bound : ClosureLimits} (hvalid : validateBlobDescriptor item bound = .ok ())
    (hstep : onBlobDescriptor session state item = .ok next) :
    Follows next (controls ++ [.blob item]) := by
  obtain ⟨hphase, -, hitem, digest, hdigest, -, rfl⟩ := onBlobDescriptor_eq_ok hstep
  obtain ⟨hshape, hlimit⟩ := shape_of_blob hvalid
  cases h with
  | @blobs manifest blobs _ hmanifest hblobs hordinal htotal =>
      have hcurrent : item.blobOrdinal.toNat = blobs.length := hitem ▸ hordinal
      by_cases hcount : item.chunkCount = 0
      · -- a blob without chunks is complete at once, and it has no bytes
        have hnone : (BlobPart.shape ⟨item, []⟩).chunkCount = 0 := by
          simp [BlobPart.shape, hcount]
        have hempty : item.totalBytes.toNat = 0 := hshape.total_eq_zero hnone
        have hcontrols : manifest.controls ++ blobs.flatMap BlobPart.controls ++ [.blob item] =
            manifest.controls ++ (blobs ++ [BlobPart.mk item []]).flatMap BlobPart.controls := by
          simp [BlobPart.controls]
        rw [hcontrols]
        refine .blobs (if_pos hcount) hmanifest
          (hblobs.append hcurrent (by simp [BlobPart.Named]) (Complete.nil hshape hnone)) ?_ ?_
        · show (if item.chunkCount = 0 then _ else _ : UInt64).toNat = _
          rw [if_pos hcount, ← hitem, toNat_add_one hlimit, hcurrent, List.length_append,
            List.length_singleton]
        · show (if item.chunkCount = 0 then _ else _ : UInt64).toNat = _
          rw [if_pos hcount, UInt64.toNat_inj.1 (show item.totalBytes.toNat = (0 : UInt64).toNat
            from hempty), UInt64.add_zero, htotal, totalOf_append]
          exact (congrArg (totalOf blobs + ·) hempty).symm
      · show Follows _ (_ ++ BlobPart.controls ⟨item, []⟩)
        refine .blob (if_neg hcount) hmanifest hblobs ?_ ⟨rfl, hdigest, rfl, rfl, rfl,
          by simp [BlobPart.Named], Received.nil hshape⟩ hcurrent ?_ ?_
        · exact (congrArg UInt64.toNat (if_neg hcount)).trans hordinal
        · rw [← UInt64.toNat_inj, UInt64.toNat_zero] at hcount
          exact Nat.pos_of_ne_zero hcount
        · exact (congrArg UInt64.toNat (if_neg hcount)).trans htotal
  | fresh h | manifest h | blob h | done h | acknowledged h | rejected h =>
      exact absurd (h.symm.trans hphase) (by simp)

theorem follows_blobChunk (h : Follows state controls) {item : SourceClosureChunk}
    {bound : ClosureLimits} (hvalid : validateBlobChunk item bound = .ok ())
    (hstep : onBlobChunk session state item = .ok next) :
    Follows next (controls ++ [.chunk item]) := by
  obtain ⟨hphase, -, hobserved, hnumber, hdigest, hindex, hoffset, hfits, hlast, hunique, hroom,
    hlimit, rfl⟩ := onBlobChunk_eq_ok hstep
  have hpos := pos_of_blobChunk hvalid
  cases h with
  | @blob manifest blobs part _ hmanifest hblobs hordinal hcounts hcurrent hshort htotal =>
      have hlength : part.places.length = part.chunks.length := by simp [BlobPart.places]
      obtain ⟨hnext, hsum, hreceived, hcomplete, hmore⟩ := Received.count hcounts.received
        (congrArg UInt64.toNat hcounts.total) (congrArg UInt64.toNat hcounts.count)
        (hlength ▸ hcounts.next) (hlength ▸ hshort) hindex hoffset hpos hobserved hfits hlast
      have hcontrols : manifest.controls ++ blobs.flatMap BlobPart.controls ++ part.controls ++
          [.chunk item] = manifest.controls ++ blobs.flatMap BlobPart.controls ++
            BlobPart.controls ⟨part.descriptor, part.chunks ++ [item]⟩ := by
        simp [BlobPart.controls]
      have hplaces : part.places ++ [⟨item.chunkIndex.toNat, item.offset.toNat,
          item.byteCount.toNat⟩] = BlobPart.places ⟨part.descriptor, part.chunks ++ [item]⟩ := by
        simp [BlobPart.places]
      have hnamed : BlobPart.Named ⟨part.descriptor, part.chunks ++ [item]⟩ := by
        intro chunk hchunk
        rcases List.mem_append.1 hchunk with hmem | hmem
        · exact hcounts.named chunk hmem
        · rw [List.mem_singleton.1 hmem]
          exact ⟨hnumber.trans hcounts.ordinal, hdigest.trans hcounts.digest⟩
      -- the sum of the bytes of all blobs stays below the limit, so it does not wrap
      have hbytes : (state.blobObservedTotal + item.byteCount).toNat =
          state.blobObservedTotal.toNat + item.byteCount.toNat := by
        rw [UInt64.add_comm, Nat.add_comm]
        exact (toNat_add_of_le_sub hunique hroom).1
      rw [hplaces] at hnext hreceived hcomplete hmore
      rw [BlobPart.places, List.length_map] at hnext hmore
      rw [hcontrols]
      by_cases hdone : state.currentBlobNextChunk + 1 = state.currentBlobChunkCount
      · obtain ⟨hfull, hall⟩ := hcomplete hdone
        have hwhole : manifest.controls ++ blobs.flatMap BlobPart.controls ++
            BlobPart.controls ⟨part.descriptor, part.chunks ++ [item]⟩ = manifest.controls ++
              (blobs ++ [BlobPart.mk part.descriptor (part.chunks ++ [item])]).flatMap
                BlobPart.controls := by
          simp
        rw [hwhole]
        refine .blobs (if_pos hdone) hmanifest (hblobs.append hcurrent hnamed hall) ?_ ?_
        · show (if state.currentBlobNextChunk + 1 = state.currentBlobChunkCount then _ else _ :
            UInt64).toNat = _
          rw [if_pos hdone, toNat_add_one (UInt64.lt_iff_toNat_lt.1 (hlimit hdone)), hordinal,
            List.length_append, List.length_singleton]
        · show (state.blobObservedTotal + item.byteCount).toNat = _
          rw [hbytes, htotal, totalOf_append, Nat.add_assoc, ← hsum, hfull]
          rfl
      · refine .blob (if_neg hdone) hmanifest hblobs ?_ ⟨hcounts.ordinal, hcounts.digest,
          hcounts.total, hcounts.count, hnext, hnamed, hreceived⟩ hcurrent (hmore hdone) ?_
        · exact (congrArg UInt64.toNat (if_neg hdone)).trans hordinal
        · show (state.blobObservedTotal + item.byteCount).toNat =
            totalOf blobs + (state.currentBlobObserved + item.byteCount).toNat
          rw [hbytes, htotal, hsum, Nat.add_assoc]
  | fresh h | manifest h | blobs h | done h | acknowledged h | rejected h =>
      exact absurd (h.symm.trans hphase) (by simp)

theorem follows_seal (h : Follows state controls) {item : SourceClosureSeal}
    (hstep : onSeal session state item = .ok next) : Follows next (controls ++ [.sealed item]) := by
  obtain ⟨hphase, -, -, -, hcount, hbytes, digest, -, rfl⟩ := onSeal_eq_ok hstep
  cases h with
  | @blobs manifest blobs _ hmanifest hblobs hordinal htotal =>
      refine .done rfl ⟨manifest, blobs, item, rfl, hmanifest, hblobs, ?_, ?_⟩
      · rw [hcount, hordinal]
      · rw [hbytes, htotal]
  | fresh h | manifest h | blob h | done h | acknowledged h | rejected h =>
      exact absurd (h.symm.trans hphase) (by simp)

theorem follows_ack (h : Follows state controls) {item : SourceClosureAck}
    (hstep : onAck session state item = .ok next) : Follows next (controls ++ [.ack item]) := by
  obtain ⟨hphase, -, rfl⟩ := onAck_eq_ok hstep
  cases h with
  | done _ hsealed => exact .acknowledged rfl hsealed item
  | fresh h | manifest h | blobs h | blob h | acknowledged h | rejected h =>
      exact absurd (h.symm.trans hphase) (by simp)

theorem follows_reject (h : Follows state controls) {item : SourceClosureReject Bytes}
    (hstep : onReject session state item = .ok next) :
    Follows next (controls ++ [.reject item]) := by
  obtain ⟨hack, hreject, -, rfl⟩ := onReject_eq_ok hstep
  exact .rejected rfl (h.open hack hreject) item

/-- **One accepted control moves the counters along the grammar.** -/
theorem Follows.step (h : Follows state controls) {view : ClosureControlView}
    {bound : ClosureLimits} (hvalid : validateView view bound = .ok ())
    (hstep : onControl session state view = .ok next) : Follows next (controls ++ [view]) := by
  rcases view with (item | item) | item | item | item | item | item
  · exact follows_manifestDescriptor h hvalid hstep
  · exact follows_manifestChunk h hvalid hstep
  · exact follows_blobDescriptor h hvalid hstep
  · exact follows_blobChunk h hvalid hstep
  · exact follows_seal h hstep
  · exact follows_ack h hstep
  · exact follows_reject h hstep

theorem Follows.accepts {transfer : ClosureTransfer} (h : Follows transfer.state controls)
    {value : Frame} {view : ClosureControlView} (haccepts : Accepts transfer value view next) :
    Follows next (controls ++ [view]) := by
  obtain ⟨bound, hvalid⟩ := haccepts.valid
  obtain ⟨sequence, credit, hstep⟩ := haccepts.step
  exact (h.advance sequence credit).step hvalid hstep

/-! ## Runs -/

/-- A run of `accept` over these frames: the transfer in the end, and the frames it accepted. -/
def ClosureTransfer.run (layout : Layout) :
    ClosureTransfer → List (Frame × FrameCapacities) → ClosureTransfer × List Frame
  | transfer, [] => (transfer, [])
  | transfer, (value, capacities) :: rest =>
    match transfer.accept layout value capacities with
    | .error _ => ClosureTransfer.run layout transfer rest
    | .ok transfer' =>
      let (final, accepted) := ClosureTransfer.run layout transfer' rest
      (final, value :: accepted)

theorem follows_create {transfer : ClosureTransfer}
    (h : ClosureTransfer.create session = .ok transfer) :
    Follows transfer.state [] ∧ transfer.session = session := by
  rw [ClosureTransfer.create, guard_eq_ok_iff, seq_eq_ok_iff, seq_eq_ok_iff, guard_eq_ok_iff] at h
  obtain rfl := Except.ok.inj h.2.2.2.2
  exact ⟨.fresh rfl rfl rfl rfl, rfl⟩

theorem follows_run (layout : Layout) {transfer : ClosureTransfer}
    (h : Follows transfer.state controls) (frames : List (Frame × FrameCapacities)) :
    ∃ more, (transfer.run layout frames).2.map (frameControl transfer.session.limits) =
        more.map some ∧
      Follows (transfer.run layout frames).1.state (controls ++ more) := by
  induction frames generalizing transfer controls with
  | nil =>
      refine ⟨[], rfl, ?_⟩
      rw [List.append_nil]
      exact h
  | cons head rest ih =>
      obtain ⟨value, capacities⟩ := head
      rw [ClosureTransfer.run]
      rcases haccept : transfer.accept layout value capacities with error | transfer'
      · -- a refused frame leaves the transfer as it was
        exact ih h
      · obtain ⟨view, next, hview, -, haccepts, rfl⟩ := accept_eq_ok haccept
        have hstep : Follows (transfer.enter next).state (controls ++ [view]) := h.accepts haccepts
        obtain ⟨more, hmore, hfollows⟩ := ih hstep
        refine ⟨view :: more, ?_, ?_⟩
        · show frameControl transfer.session.limits value :: _ = _
          rw [hview]
          exact congrArg (some view :: ·) hmore
        · rwa [← List.append_cons] at hfollows

/-- **Whatever frames come, the accepted ones obey the grammar**, and a sealed transfer has
    accepted a whole one. -/
theorem run_grammar (layout : Layout) {session : ClosureSession} {transfer : ClosureTransfer}
    (hcreate : ClosureTransfer.create session = .ok transfer)
    (frames : List (Frame × FrameCapacities)) :
    ∃ controls, (transfer.run layout frames).2.map (frameControl session.limits) =
        controls.map some ∧
      Transcript controls ∧
      ((transfer.run layout frames).1.state.phase = .closureSealed → SealedTransfer controls) := by
  obtain ⟨hfresh, hsession⟩ := follows_create hcreate
  obtain ⟨controls, hcontrols, hfollows⟩ := follows_run layout hfresh frames
  rw [hsession] at hcontrols
  rw [List.nil_append] at hfollows
  refine ⟨controls, hcontrols, hfollows.transcript, fun hphase => ?_⟩
  cases hfollows with
  | done _ hsealed => exact hsealed
  | fresh h | manifest h | blobs h | blob h | acknowledged h | rejected h =>
      exact absurd (h.symm.trans hphase) (by simp)

/-- A semantic digest of one repeated digit. -/
def sampleDigest (digit : UInt8) : Bytes :=
  ascii "semantic-v2:sha256:" ++ List.replicate 64 digit

/-- A session that leaves every digest open. -/
def sampleSession : ClosureSession where
  sessionId := ascii "s"
  taskId := ascii "t"

def sampleTransfer : ClosureTransfer where
  session := sampleSession
  state := { sequence := { }, credit := ⟨sampleSession.initialCredit⟩ }

/-- An empty manifest. -/
def sampleDescriptor : ClosureControl :=
  .manifest (.descriptor {
    sessionId := ascii "s"
    taskId := ascii "t"
    taskV4Digest := sampleDigest 0x31
    closureId := ascii "source-closure:" ++ sampleDigest 0x32
    closureDigest := sampleDigest 0x33
    manifestDigest := sampleDigest 0x34
    totalBytes := 0
    chunkBytes := 1
    chunkCount := 0 })

/-- The seal of a transfer without blobs. -/
def sampleSeal : ClosureControl :=
  .sealed {
    sessionId := ascii "s"
    taskId := ascii "t"
    taskV4Digest := sampleDigest 0x31
    manifestDigest := sampleDigest 0x34
    blobReceiptsDigest := sampleDigest 0x35
    blobCount := 0
    totalBytes := 0
    closureDigest := sampleDigest 0x33
    transferDigest := sampleDigest 0x36 }

/-- The frame that carries a control, with zero digests. -/
def sampleFrame (control : ClosureControl) (sequence : UInt64) : Frame where
  type := control.type
  sequence := sequence
  control := (encodeClosureControl control.type control {}).toOption.getD []

def sampleFrames : List (Frame × FrameCapacities) :=
  [(sampleFrame sampleDescriptor 0, ⟨600, 0, 600⟩), (sampleFrame sampleSeal 1, ⟨600, 0, 600⟩)]

theorem run_grammar_sample :
    (sampleTransfer.run sampleLayout sampleFrames).1.state.phase = .closureSealed ∧
      ∃ controls, (sampleTransfer.run sampleLayout sampleFrames).2.map
          (frameControl sampleSession.limits) = controls.map some ∧ SealedTransfer controls := by
  have hsealed : (sampleTransfer.run sampleLayout sampleFrames).1.state.phase = .closureSealed := by
    decide +kernel
  obtain ⟨controls, hcontrols, -, hwhole⟩ :=
    run_grammar sampleLayout (show ClosureTransfer.create sampleSession = .ok sampleTransfer by
      decide) sampleFrames
  exact ⟨hsealed, controls, hcontrols, hwhole hsealed⟩

end Cxxlens.ProtocolV2.Closure
