import Cxxlens.Clang22.SourceClosure.Spool
import Cxxlens.Foundation.Fallible

set_option autoImplicit false

/-! # What each call of a spool does

One lemma for each call says all it can do to the spool; nothing later looks into a call again. -/

namespace Cxxlens.Clang22

open Sdk SparseFile Fallible

namespace SourceClosureSpool

variable {hash : Bytes → Bytes} {unicode : UnicodeNfc} {answers : SystemAnswers}
  {spool spool' : SourceClosureSpool}

/-! ## The private file -/

/-- `spool'` is `spool`, or has its new and empty file. -/
def Opened (spool spool' : SourceClosureSpool) : Prop :=
  spool' = spool ∨ (spool.privateSpool = none ∧ spool' = { spool with privateSpool := some [] })

theorem ensurePrivateSpool_cases {reply : Result Unit}
    (h : spool.ensurePrivateSpool answers = (spool', reply)) :
    Opened spool spool' ∧ (reply = .ok () → ∃ file, spool'.privateSpool = some file) := by
  rw [ensurePrivateSpool] at h
  rcases hfile : spool.privateSpool with _ | file
  · rcases herror : answers.memfdError with _ | error
    · simp only [hfile, herror, Prod.mk.injEq] at h
      obtain ⟨rfl, rfl⟩ := h
      exact ⟨.inr ⟨hfile, rfl⟩, fun _ => ⟨[], rfl⟩⟩
    · simp only [hfile, herror, Prod.mk.injEq] at h
      obtain ⟨rfl, rfl⟩ := h
      exact ⟨.inl rfl, nofun⟩
  · simp only [hfile, Prod.mk.injEq] at h
    obtain ⟨rfl, rfl⟩ := h
    exact ⟨.inl rfl, fun _ => ⟨file, hfile⟩⟩

/-- Behind what the file keeps, a payload is appended or something is written that does not
    count. -/
theorem appendPrivateSpool_cases {payload : Bytes} {reply : Result Unit}
    (h : spool.appendPrivateSpool answers payload = (spool', reply)) (hne : payload ≠ []) :
    (spool' = spool ∧ ∃ error, reply = .error error) ∨
      ∃ file file', spool.privateSpool = some file ∧
        (∀ kept : Bytes, kept <+: file → kept.length = spool.privateSpoolBytes.toNat →
          kept <+: file' ∧ (reply = .ok () → kept ++ payload <+: file')) ∧
        ((∃ error, reply = .error error) ∧ spool' = { spool with privateSpool := some file' } ∨
          reply = .ok () ∧ spool' = { spool with
            privateSpool := some file'
            privateSpoolBytes := spool.privateSpoolBytes + UInt64.ofNat payload.length }) := by
  rw [appendPrivateSpool, if_neg hne] at h
  rcases hfile : spool.privateSpool with _ | file
  · simp only [hfile, Prod.mk.injEq] at h
    exact .inl ⟨h.1.symm, _, h.2.symm⟩
  · simp only [hfile] at h
    split_ifs at h with hroom
    · obtain ⟨rfl, rfl⟩ := Prod.mk.inj h
      exact .inl ⟨rfl, _, rfl⟩
    · rcases hloop : storeLoop (0x00 : UInt8) lastFileOffset offsetFailure
        (spoolIoFailure "private-spool" "zero-progress") answers.pwrite payload.length file
        spool.privateSpoolBytes.toNat payload with ⟨file', error | ⟨⟨⟩⟩⟩
      · simp only [hloop, Prod.mk.injEq] at h
        obtain ⟨rfl, rfl⟩ := h
        exact .inr ⟨file, file', rfl, fun kept hkept hlength =>
          storeLoop_spec hkept (hlength ▸ hloop), .inl ⟨⟨_, rfl⟩, rfl⟩⟩
      · simp only [hloop, Prod.mk.injEq] at h
        obtain ⟨rfl, rfl⟩ := h
        exact .inr ⟨file, file', rfl, fun kept hkept hlength =>
          storeLoop_spec hkept (hlength ▸ hloop), .inr ⟨rfl, rfl⟩⟩

/-- What is read is what the file has. -/
theorem readPrivateBlob_eq_ok {allocates : Bool} {offset size : UInt64} {content : Bytes}
    (h : spool.readPrivateBlob answers allocates offset size = .ok content) :
    ∃ file, spool.privateSpool = some file ∧ content = slice file offset.toNat size.toNat ∧
      content.length = size.toNat := by
  rw [readPrivateBlob] at h
  split_ifs at h with hrange hmemory
  rcases hfile : spool.privateSpool with _ | file
  · simp only [hfile] at h
    cases h
  · simp only [hfile] at h
    exact ⟨file, rfl, loadLoop_spec h⟩

/-! ## The manifest -/

theorem beginManifest_cases {descriptor : SourceClosureManifestDescriptor} {reply : Result Unit}
    (h : spool.beginManifest answers descriptor = (spool', reply)) :
    (∃ error, reply = .error error ∧ (spool' = spool ∨ spool.state = .fresh ∧
      ∃ opened torn, Opened spool opened ∧ spool' = { opened with manifestDescriptor := torn })) ∨
    (reply = .ok () ∧ spool.state = .fresh ∧
      descriptor.totalBytes ≤ spool.limits.maximumManifestBytes ∧
      ∃ opened file, Opened spool opened ∧ opened.privateSpool = some file ∧
        spool' = { opened with
          manifestDescriptor := descriptor
          manifestReceivedBytes := 0
          state := .manifestOpen }) := by
  rw [beginManifest] at h
  by_cases hstate : spool.state ≠ .fresh
  · rw [if_pos hstate] at h
    obtain ⟨rfl, rfl⟩ := Prod.mk.inj h
    exact .inl ⟨_, rfl, .inl rfl⟩
  rw [if_neg hstate] at h
  rw [not_not] at hstate
  rcases hids : validateDescriptorIds descriptor with error | ⟨⟨⟩⟩
  · simp only [hids, Prod.mk.injEq] at h
    exact .inl ⟨_, h.2.symm, .inl h.1.symm⟩
  · simp only [hids] at h
    by_cases hlimits : descriptor.totalBytes = 0 ∨
        descriptor.totalBytes > spool.limits.maximumManifestBytes ∨
        descriptor.totalBytes > spool.limits.maximumTaskSpoolBytes ∨
        descriptor.chunkBytes = 0 ∨ descriptor.chunkBytes > spool.limits.maximumChunkPayloadBytes
    · rw [if_pos hlimits] at h
      obtain ⟨rfl, rfl⟩ := Prod.mk.inj h
      exact .inl ⟨_, rfl, .inl rfl⟩
    · rw [if_neg hlimits] at h
      rcases hopen : spool.ensurePrivateSpool answers with ⟨opened, error | ⟨⟨⟩⟩⟩
      · simp only [hopen, Prod.mk.injEq] at h
        obtain ⟨rfl, rfl⟩ := h
        exact .inl ⟨_, rfl, .inr ⟨hstate, opened, opened.manifestDescriptor,
          (ensurePrivateSpool_cases hopen).1, rfl⟩⟩
      · obtain ⟨hopened, hfile⟩ := ensurePrivateSpool_cases hopen
        obtain ⟨file, hfile⟩ := hfile rfl
        simp only [hopen] at h
        split_ifs at h with hmemory
        · obtain ⟨rfl, rfl⟩ := Prod.mk.inj h
          exact .inl ⟨_, rfl, .inr ⟨hstate, opened, answers.torn, hopened, rfl⟩⟩
        · obtain ⟨rfl, rfl⟩ := Prod.mk.inj h
          simp only [not_or] at hlimits
          exact .inr ⟨rfl, hstate, UInt64.not_lt.1 hlimits.2.1, opened, file, hopened, hfile, rfl⟩

theorem appendManifest_cases {payload : Bytes} {reply : Result Unit}
    (h : spool.appendManifest answers payload = (spool', reply)) :
    (spool' = spool ∧ ∃ error, reply = .error error) ∨
    (reply = .ok () ∧ spool.state = .manifestOpen ∧ payload ≠ [] ∧
      spool.manifestReceivedBytes ≤ spool.manifestDescriptor.totalBytes ∧
      payload.length ≤
        (spool.manifestDescriptor.totalBytes - spool.manifestReceivedBytes).toNat ∧
      spool' = { spool with
        manifestBytes := spool.manifestBytes ++ payload
        manifestReceivedBytes := spool.manifestReceivedBytes + UInt64.ofNat payload.length }) := by
  rw [appendManifest] at h
  split_ifs at h with hstate hcount hmemory
  · obtain ⟨rfl, rfl⟩ := Prod.mk.inj h
    exact .inl ⟨rfl, _, rfl⟩
  · obtain ⟨rfl, rfl⟩ := Prod.mk.inj h
    exact .inl ⟨rfl, _, rfl⟩
  · obtain ⟨rfl, rfl⟩ := Prod.mk.inj h
    exact .inl ⟨rfl, _, rfl⟩
  · obtain ⟨rfl, rfl⟩ := Prod.mk.inj h
    simp only [not_or, not_lt] at hcount
    exact .inr ⟨rfl, not_not.1 hstate, hcount.1, UInt64.not_lt.1 hcount.2.2.1, hcount.2.2.2, rfl⟩

theorem finishManifest_cases {manifestDigest : Bytes}
    {reply : Result SourceClosureManifestSummary}
    (h : spool.finishManifest hash unicode answers manifestDigest = (spool', reply)) :
    (∃ error, reply = .error error ∧
      (spool' = spool ∨ spool.state = .manifestOpen ∧
        spool.manifestReceivedBytes = spool.manifestDescriptor.totalBytes ∧
        spool' = { spool with manifestBytes := [] })) ∨
    (spool.state = .manifestOpen ∧
      spool.manifestReceivedBytes = spool.manifestDescriptor.totalBytes ∧
      manifestDigest = spool.manifestDescriptor.manifestDigest ∧
      ∃ snapshot total summary, reply = .ok summary ∧
        readManifest hash unicode spool.limits spool.manifestDescriptor spool.manifestBytes
          manifestDigest = .ok (snapshot, total) ∧
        spool' = { spool with
          manifestBytes := []
          snapshot := snapshot
          state := .manifestValidated }) := by
  rw [finishManifest] at h
  split_ifs at h with hstate hcensus hmemory
  · obtain ⟨rfl, rfl⟩ := Prod.mk.inj h
    exact .inl ⟨_, rfl, .inl rfl⟩
  · obtain ⟨rfl, rfl⟩ := Prod.mk.inj h
    exact .inl ⟨_, rfl, .inl rfl⟩
  · obtain ⟨rfl, rfl⟩ := Prod.mk.inj h
    simp only [not_or, not_not] at hcensus
    exact .inl ⟨_, rfl, .inr ⟨not_not.1 hstate, hcensus.1, rfl⟩⟩
  · simp only [not_or, not_not] at hcensus
    rcases hread : readManifest hash unicode spool.limits spool.manifestDescriptor
      spool.manifestBytes manifestDigest with error | ⟨snapshot, total⟩
    · simp only [hread, Prod.mk.injEq] at h
      exact .inl ⟨_, h.2.symm, .inr ⟨not_not.1 hstate, hcensus.1, h.1.symm⟩⟩
    · simp only [hread, Prod.mk.injEq] at h
      exact .inr ⟨not_not.1 hstate, hcensus.1, hcensus.2, snapshot, total, _, h.2.symm, rfl,
        h.1.symm⟩

/-! ## The blobs -/

theorem beginBlob_cases {descriptor : SourceClosureBlobDescriptor} {reply : Result Unit}
    (h : spool.beginBlob answers descriptor = (spool', reply)) :
    (∃ error, reply = .error error ∧ (spool' = spool ∨
      (spool.state = .manifestValidated ∨ spool.state = .blobSealed) ∧ Opened spool spool')) ∨
    (reply = .ok () ∧ (spool.state = .manifestValidated ∨ spool.state = .blobSealed) ∧
      descriptor.blobOrdinal = spool.completedBlobCount ∧
      ∃ expected opened file,
        spool.snapshot.blobs[descriptor.blobOrdinal.toNat]? = some expected ∧
        descriptor.blobDigest = expected.contentDigest ∧
        descriptor.totalBytes = expected.sizeBytes ∧
        Opened spool opened ∧ opened.privateSpool = some file ∧
        spool' = { opened with
          currentBlobOrdinal := descriptor.blobOrdinal
          currentBlobDigest := descriptor.blobDigest
          currentBlobSize := descriptor.totalBytes
          currentBlobOffset := opened.privateSpoolBytes
          currentBlobReceivedBytes := 0
          state := .blobOpen }) := by
  rw [beginBlob, ite_eq_iff'] at h
  by_cases hstate : spool.state ≠ .manifestValidated ∧ spool.state ≠ .blobSealed
  · obtain ⟨rfl, rfl⟩ := Prod.mk.inj (h.1 hstate)
    exact .inl ⟨_, rfl, .inl rfl⟩
  replace h := h.2 hstate
  rw [ite_eq_iff'] at h
  by_cases hbinding : descriptor.sessionId ≠ spool.manifestDescriptor.sessionId ∨
      descriptor.taskId ≠ spool.manifestDescriptor.taskId ∨
      descriptor.closureDigest ≠ spool.manifestDescriptor.closureDigest ∨
      descriptor.blobOrdinal ≠ spool.completedBlobCount
  · obtain ⟨rfl, rfl⟩ := Prod.mk.inj (h.1 hbinding)
    exact .inl ⟨_, rfl, .inl rfl⟩
  replace h := h.2 hbinding
  simp only [not_and_or, not_not] at hstate
  simp only [not_or, not_not] at hbinding
  rcases hexpected : spool.snapshot.blobs[descriptor.blobOrdinal.toNat]? with _ | expected
  · simp only [hexpected, Prod.mk.injEq] at h
    exact .inl ⟨_, h.2.symm, .inl h.1.symm⟩
  · simp only [hexpected] at h
    split_ifs at h with hblob hlimits
    · obtain ⟨rfl, rfl⟩ := Prod.mk.inj h
      exact .inl ⟨_, rfl, .inl rfl⟩
    · obtain ⟨rfl, rfl⟩ := Prod.mk.inj h
      exact .inl ⟨_, rfl, .inl rfl⟩
    · simp only [not_or, not_not] at hblob
      rcases hopen : spool.ensurePrivateSpool answers with ⟨opened, error | ⟨⟨⟩⟩⟩
      · simp only [hopen, Prod.mk.injEq] at h
        exact .inl ⟨_, h.2.symm, .inr ⟨hstate, h.1 ▸ (ensurePrivateSpool_cases hopen).1⟩⟩
      · obtain ⟨hopened, hfile⟩ := ensurePrivateSpool_cases hopen
        obtain ⟨file, hfile⟩ := hfile rfl
        simp only [hopen, Prod.mk.injEq] at h
        exact .inr ⟨h.2.symm, hstate, hbinding.2.2.2, expected, opened, file, rfl, hblob.1,
          hblob.2.1, hopened, hfile, h.1.symm⟩

theorem appendBlob_cases {payload : Bytes} {reply : Result Unit}
    (h : spool.appendBlob answers payload = (spool', reply)) :
    (spool' = spool ∧ ∃ error, reply = .error error) ∨
    (spool.state = .blobOpen ∧
      payload.length ≤ (spool.currentBlobSize - spool.currentBlobReceivedBytes).toNat ∧
      spool.currentBlobReceivedBytes ≤ spool.currentBlobSize ∧
      ∃ file file', spool.privateSpool = some file ∧
        (∀ kept : Bytes, kept <+: file → kept.length = spool.privateSpoolBytes.toNat →
          kept <+: file' ∧ (reply = .ok () → kept ++ payload <+: file')) ∧
        ((∃ error, reply = .error error) ∧ spool' = { spool with privateSpool := some file' } ∨
          reply = .ok () ∧ spool' = { spool with
            privateSpool := some file'
            privateSpoolBytes := spool.privateSpoolBytes + UInt64.ofNat payload.length
            currentBlobReceivedBytes :=
              spool.currentBlobReceivedBytes + UInt64.ofNat payload.length })) := by
  rw [appendBlob] at h
  split_ifs at h with hstate hcount
  · obtain ⟨rfl, rfl⟩ := Prod.mk.inj h
    exact .inl ⟨rfl, _, rfl⟩
  · obtain ⟨rfl, rfl⟩ := Prod.mk.inj h
    exact .inl ⟨rfl, _, rfl⟩
  simp only [not_or, not_lt] at hcount
  rcases happend : spool.appendPrivateSpool answers payload with ⟨appended, error | ⟨⟨⟩⟩⟩
  · simp only [happend, Prod.mk.injEq] at h
    obtain ⟨rfl, rfl⟩ := h
    rcases appendPrivateSpool_cases happend hcount.1 with ⟨rfl, -⟩ | hwritten
    · exact .inl ⟨rfl, _, rfl⟩
    · obtain ⟨file, file', hfile, hkept, ⟨-, rfl⟩ | ⟨hok, -⟩⟩ := hwritten
      · exact .inr ⟨not_not.1 hstate, hcount.2.2.2, UInt64.not_lt.1 hcount.2.2.1, file, file',
          hfile, hkept,
          .inl ⟨⟨_, rfl⟩, rfl⟩⟩
      · cases hok
  · simp only [happend, Prod.mk.injEq] at h
    obtain ⟨rfl, rfl⟩ := h
    rcases appendPrivateSpool_cases happend hcount.1 with ⟨-, _, hfailed⟩ | hwritten
    · cases hfailed
    · obtain ⟨file, file', hfile, hkept, ⟨⟨_, herror⟩, -⟩ | ⟨-, rfl⟩⟩ := hwritten
      · cases herror
      · exact .inr ⟨not_not.1 hstate, hcount.2.2.2, UInt64.not_lt.1 hcount.2.2.1, file, file',
          hfile, hkept,
          .inr ⟨rfl, rfl⟩⟩

theorem finishBlob_cases {receipt : SourceClosureBlobReceipt} {reply : Result Unit}
    (h : spool.finishBlob hash answers receipt = (spool', reply)) :
    (spool' = spool ∧ ∃ error, reply = .error error) ∨
    (reply = .ok () ∧ spool.state = .blobOpen ∧
      spool.currentBlobReceivedBytes = spool.currentBlobSize ∧
      (∃ allocates, spool.readPrivateBlob answers allocates spool.currentBlobOffset
        spool.currentBlobSize >>= (fun observed =>
          .ok (contentDigest hash observed)) = .ok spool.currentBlobDigest) ∧
      spool' = { spool with
        blobOffsets := spool.blobOffsets ++ [spool.currentBlobOffset]
        completedBlobBytes := spool.completedBlobBytes + spool.currentBlobSize
        completedBlobCount := spool.completedBlobCount + 1
        currentBlobOrdinal := invalidBlobOrdinal
        currentBlobDigest := []
        currentBlobSize := 0
        currentBlobOffset := 0
        currentBlobReceivedBytes := 0
        state := .blobSealed }) := by
  rw [finishBlob] at h
  rcases hread : spool.readPrivateBlob answers answers.allocates spool.currentBlobOffset
    spool.currentBlobSize with error | observed
  · simp only [hread] at h
    split_ifs at h
    all_goals
      obtain ⟨rfl, rfl⟩ := Prod.mk.inj h
      exact .inl ⟨rfl, _, rfl⟩
  · simp only [hread] at h
    split_ifs at h with hstate hreceipt hcontent hmemory
    on_goal 5 =>
      obtain ⟨rfl, rfl⟩ := Prod.mk.inj h
      simp only [not_or, not_not] at hreceipt
      exact .inr ⟨rfl, not_not.1 hstate, hreceipt.2.2.2.2,
        ⟨answers.allocates, by rw [hread, ok_bind, not_not.1 hcontent]⟩, rfl⟩
    all_goals
      obtain ⟨rfl, rfl⟩ := Prod.mk.inj h
      exact .inl ⟨rfl, _, rfl⟩

/-! ## The closure -/

theorem finishClosure_cases {transferDigest : Bytes}
    {reply : Result SourceClosureAckCredentials}
    (h : spool.finishClosure hash answers transferDigest = (spool', reply)) :
    (spool' = spool ∧ ∃ error, reply = .error error) ∨
    (spool.state = .blobSealed ∧
      spool.completedBlobCount.toNat = spool.snapshot.blobs.length ∧
      spool.validateSealedMetadata = .ok () ∧ (∃ credentials, reply = .ok credentials) ∧
      spool' = { spool with transferDigest := transferDigest, state := .closureSealed }) := by
  rw [finishClosure] at h
  rcases hmetadata : spool.validateSealedMetadata with error | ⟨⟨⟩⟩
  · simp only [hmetadata] at h
    split_ifs at h
    all_goals
      obtain ⟨rfl, rfl⟩ := Prod.mk.inj h
      exact .inl ⟨rfl, _, rfl⟩
  rcases hseal : spool.sealPrivateSpool answers with error | ⟨⟨⟩⟩
  · simp only [hmetadata, hseal] at h
    split_ifs at h
    all_goals
      obtain ⟨rfl, rfl⟩ := Prod.mk.inj h
      exact .inl ⟨rfl, _, rfl⟩
  simp only [hmetadata, hseal] at h
  split_ifs at h with hstate htransfer hmemory hcredentials
  on_goal 5 =>
    simp only [not_or, not_not] at hstate
    split at h
    · obtain ⟨rfl, rfl⟩ := Prod.mk.inj h
      exact .inr ⟨hstate.1, hstate.2, rfl, ⟨_, rfl⟩, rfl⟩
    · obtain ⟨rfl, rfl⟩ := Prod.mk.inj h
      exact .inl ⟨rfl, _, rfl⟩
  all_goals
    obtain ⟨rfl, rfl⟩ := Prod.mk.inj h
    exact .inl ⟨rfl, _, rfl⟩

/-- The spool that has been cleaned up. -/
def cleanedSpool (spool : SourceClosureSpool) (receipt : Bytes) : SourceClosureSpool :=
  { limits := spool.limits
    transferDigest := spool.transferDigest
    cleanupReceipt := receipt
    state := .cleaned }

theorem cleanup_cases {reply : Result Bytes} (h : spool.cleanup hash answers = (spool', reply)) :
    (spool.cleanupReceipt ≠ [] ∧ spool' = spool ∧ reply = .ok spool.cleanupReceipt) ∨
    (spool.cleanupReceipt = [] ∧ spool' = spool ∧ ∃ error, reply = .error error) ∨
    (spool.cleanupReceipt = [] ∧ ∃ receipt, receipt ≠ [] ∧ reply = .ok receipt ∧
      spool' = spool.cleanedSpool receipt) := by
  rw [cleanup] at h
  split_ifs at h with hreceipt hmemory
  · obtain ⟨rfl, rfl⟩ := Prod.mk.inj h
    exact .inl ⟨hreceipt, rfl, rfl⟩
  · obtain ⟨rfl, rfl⟩ := Prod.mk.inj h
    exact .inr (.inl ⟨not_not.1 hreceipt, rfl, _, rfl⟩)
  · rcases hcredential : spool.credential hash "cleanup-receipt:" spool.transferDigest with
      error | receipt
    · simp only [hcredential, Prod.mk.injEq] at h
      exact .inr (.inl ⟨not_not.1 hreceipt, h.1.symm, _, h.2.symm⟩)
    · simp only [hcredential, Prod.mk.injEq] at h
      refine .inr (.inr ⟨not_not.1 hreceipt, receipt, ?_, h.2.symm, h.1.symm⟩)
      rw [credential, credentialDigest, bind_eq_ok_iff] at hcredential
      obtain ⟨digest, -, hdigest⟩ := hcredential
      obtain rfl := Except.ok.inj hdigest
      simp [ascii]

end SourceClosureSpool

end Cxxlens.Clang22
