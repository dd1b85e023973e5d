import Cxxlens.Clang22.SourceClosure.SpoolRuns

set_option autoImplicit false

/-! # The snapshot of a sealed spool

A snapshot is what the manifest lists with the bytes that were accepted, and nothing else is ever
sealed. -/

namespace Cxxlens.Clang22

open Sdk SparseFile Fallible

/-! ## The census -/

/-- The sum over blobs that are within their limits. -/
theorem sealedBlobBytes_eq_ok {limits : SourceClosureTransportLimits} {total : UInt64}
    {blobs : List SourceClosureBlob}
    (hvalid : ∀ blob ∈ blobs, validContentDigest blob.contentDigest = true ∧
      blob.sizeBytes ≤ limits.maximumBlobBytes)
    (hsum : total.toNat + (blobs.map fun blob => blob.sizeBytes.toNat).sum ≤
      limits.maximumUniqueBlobBytes.toNat) :
    ∃ sum, sealedBlobBytes limits total blobs = .ok sum ∧
      sum.toNat = total.toNat + (blobs.map fun blob => blob.sizeBytes.toNat).sum := by
  induction blobs generalizing total with
  | nil => exact ⟨total, rfl, by simp⟩
  | cons blob rest ih =>
      rw [List.forall_mem_cons] at hvalid
      rw [List.map_cons, List.sum_cons] at hsum
      have hmax := limits.maximumUniqueBlobBytes.toNat_lt
      have hnext : (total + blob.sizeBytes).toNat = total.toNat + blob.sizeBytes.toNat := by
        rw [UInt64.toNat_add, Nat.mod_eq_of_lt (by omega)]
      have hroom : ¬ blob.sizeBytes > 0xffffffffffffffff - total := by
        rw [UInt64.not_lt, UInt64.le_iff_toNat_le, UInt64.toNat_sub_of_le]
        · have hword : (0xffffffffffffffff : UInt64).toNat = 2 ^ 64 - 1 := rfl
          omega
        · rw [UInt64.le_iff_toNat_le]
          exact Nat.le_of_lt_succ total.toNat_lt
      have hlimit : ¬ total + blob.sizeBytes > limits.maximumUniqueBlobBytes := by
        rw [UInt64.not_lt, UInt64.le_iff_toNat_le]
        omega
      obtain ⟨sum, hrest, heq⟩ := @ih (total + blob.sizeBytes) hvalid.2 (by omega)
      refine ⟨sum, ?_, by rw [heq, hnext, List.map_cons, List.sum_cons, Nat.add_assoc]⟩
      rw [sealedBlobBytes, seq_eq_ok_iff, reject_eq_ok_iff]
      refine ⟨?_, hrest⟩
      simp [hvalid.1.1, UInt64.not_lt.2 hvalid.1.2, hroom, hlimit]

section Sealed

variable {hash : Bytes → Bytes} {unicode : UnicodeNfc} {answers : SystemAnswers}
  {spool : SourceClosureSpool} {contents : Nat → Bytes} {count : Nat}

/-- With all blobs finished the census is passed. -/
theorem Collected.validateSealedMetadata (h : Collected hash spool contents count)
    (hempty : contents count = []) (hall : count = spool.snapshot.blobs.length) :
    spool.validateSealedMetadata = .ok () ∧
      spool.completedBlobBytes ≤ spool.limits.maximumUniqueBlobBytes := by
  have hzero : (0 : UInt64).toNat = 0 := rfl
  obtain ⟨sum, hsum, htotal⟩ := @sealedBlobBytes_eq_ok spool.limits 0 spool.snapshot.blobs
    h.listed.blobs_valid (by rw [hzero, Nat.zero_add]; exact h.listed.bytes)
  have hlength := h.length_bytesBefore count le_rfl
  rw [hall, List.take_length, ← hall] at hlength
  have hcompleted : sum = spool.completedBlobBytes := by
    rw [← UInt64.toNat_inj, htotal, h.completedBytes, hlength, hzero, Nat.zero_add]
  have hbytes : sum = spool.privateSpoolBytes := by
    rw [← UInt64.toNat_inj, htotal, h.bytes, bytesBefore_succ, hempty, List.append_nil, hlength,
      hzero, Nat.zero_add]
  have hoffsets : spool.blobOffsets.length = spool.snapshot.blobs.length := by
    have hcount := congrArg List.length h.offsets
    rw [List.length_map, List.length_map, List.length_range] at hcount
    exact hcount.trans hall
  refine ⟨?_, ?_⟩
  · rw [SourceClosureSpool.validateSealedMetadata, seq_eq_ok_iff, reject_eq_ok_iff, bind_eq_ok_iff]
    refine ⟨?_, sum, hsum, ?_⟩
    · simp [h.listed.members_ne, h.listed.blobs_ne, h.listed.members_length,
        h.listed.blobs_length, hoffsets]
    · rw [seq_eq_ok_iff, reject_eq_ok_iff]
      exact ⟨by simp [← hcompleted, ← hbytes], h.listed.references⟩
  · rw [UInt64.le_iff_toNat_le, h.completedBytes]
    exact h.length_le.1

/-! ## Contents -/

/-- Every blob is loaded from its offset and has its digest. -/
theorem loadContents_spec {file : Bytes} (hfile : spool.privateSpool = some file)
    {blobs loaded : List SourceClosureBlob} {offsets : List UInt64}
    (hlength : blobs.length = offsets.length)
    (h : spool.loadContents hash answers blobs offsets = .ok loaded) :
    loaded.length = blobs.length ∧ ∀ (k : Nat) (blob : SourceClosureBlob) (offset : UInt64),
      blobs[k]? = some blob → offsets[k]? = some offset →
        loaded[k]? = some { blob with
          content := some (slice file offset.toNat blob.sizeBytes.toNat) } ∧
        (slice file offset.toNat blob.sizeBytes.toNat).length = blob.sizeBytes.toNat ∧
        contentDigest hash (slice file offset.toNat blob.sizeBytes.toNat) =
          blob.contentDigest := by
  induction blobs generalizing offsets loaded with
  | nil =>
      obtain rfl := Except.ok.inj h
      exact ⟨rfl, nofun⟩
  | cons blob blobs ih =>
      cases offsets with
      | nil => cases hlength
      | cons offset offsets =>
          rw [SourceClosureSpool.loadContents, bind_eq_ok_iff] at h
          obtain ⟨content, hcontent, h⟩ := h
          rw [seq_eq_ok_iff, reject_eq_ok_iff, bne_eq_false_iff_eq, bind_eq_ok_iff] at h
          obtain ⟨hdigest, rest, hrest, h⟩ := h
          obtain rfl := Except.ok.inj h
          obtain ⟨found, hfound, rfl, hsize⟩ := SourceClosureSpool.readPrivateBlob_eq_ok hcontent
          obtain rfl := Option.some.inj (hfound.symm.trans hfile)
          obtain ⟨hlengthRest, hall⟩ := ih (Nat.succ.inj hlength) hrest
          refine ⟨by simp [hlengthRest], fun k other at_ hblob hoffset => ?_⟩
          cases k with
          | zero =>
              obtain rfl := Option.some.inj hblob
              obtain rfl := Option.some.inj hoffset
              exact ⟨rfl, hsize, hdigest⟩
          | succ k => exact hall k other at_ hblob hoffset

/-- A sealed spool, as its stage says. -/
theorem SpoolHolds.sealed {accepted : Accepted} (h : SpoolHolds hash spool accepted)
    (hstate : spool.state = .closureSealed) :
    Collected hash spool accepted.contents spool.snapshot.blobs.length ∧
      accepted.contents spool.snapshot.blobs.length = [] ∧ accepted.finished = true := by
  rcases h.stage with ⟨hs, -⟩ | ⟨hs, -⟩ | ⟨count, hs | hs, -⟩ | ⟨count, blob, hs, -⟩ |
    ⟨count, -, hcollected, hempty, rfl, hfinished⟩ | hs
  case sealed => exact ⟨hcollected, hempty, hfinished⟩
  all_goals simp [hs] at hstate

/-- What a snapshot is taken from. -/
theorem takeSnapshot_eq_ok {snapshot : SourceClosureSnapshot}
    (h : spool.takeSnapshot hash unicode answers = .ok snapshot) :
    spool.state = .closureSealed ∧ spool.snapshot.blobs.length = spool.blobOffsets.length ∧
      ∃ loaded, spool.loadContents hash answers spool.snapshot.blobs spool.blobOffsets =
        .ok loaded ∧ snapshot = { spool.snapshot with blobs := loaded } := by
  rw [SourceClosureSpool.takeSnapshot, guard_eq_ok_iff, guard_eq_ok_iff, guard_eq_ok_iff,
    bind_eq_ok_iff] at h
  obtain ⟨hstate, hoffsets, -, loaded, hloaded, h⟩ := h
  rw [seq_eq_ok_iff] at h
  exact ⟨not_not.1 hstate, (not_not.1 hoffsets).symm, loaded, hloaded, (Except.ok.inj h.2).symm⟩

/-- The blobs of a snapshot are those listed, with what was accepted for each. -/
theorem takeSnapshot_blobs {accepted : Accepted} (h : SpoolHolds hash spool accepted)
    {snapshot : SourceClosureSnapshot}
    (hsnapshot : spool.takeSnapshot hash unicode answers = .ok snapshot) :
    snapshot.members = spool.snapshot.members ∧
      snapshot.blobs.length = spool.snapshot.blobs.length ∧
      ∀ k blob, spool.snapshot.blobs[k]? = some blob →
        snapshot.blobs[k]? = some { blob with content := some (accepted.contents k) } ∧
          (accepted.contents k).length = blob.sizeBytes.toNat ∧
          contentDigest hash (accepted.contents k) = blob.contentDigest := by
  obtain ⟨hstate, hlength, loaded, hloaded, rfl⟩ := takeSnapshot_eq_ok hsnapshot
  obtain ⟨hcollected, -, -⟩ := h.sealed hstate
  obtain ⟨file, hfile, -⟩ := hcollected.file
  obtain ⟨hloadedLength, hall⟩ := loadContents_spec hfile hlength hloaded
  refine ⟨rfl, hloadedLength, fun k blob hblob => ?_⟩
  have hlt := (List.getElem?_eq_some_iff.1 hblob).1
  have hoffset := List.getElem?_eq_getElem (hlength ▸ hlt)
  have hat : spool.blobOffsets[k].toNat = (bytesBefore accepted.contents k).length := by
    have hmap := congrArg (fun offsets => offsets[k]?) hcollected.offsets
    simpa [hoffset, hlt] using hmap
  obtain ⟨hsize, -⟩ := hcollected.done k hlt blob hblob
  have hslice := hcollected.slice_eq hfile hlt.le
  have hfound := hall k blob _ hblob hoffset
  rw [hat, ← hsize, hslice] at hfound
  exact ⟨hfound.1, hsize, hfound.2.2⟩

end Sealed

/-! ## Every run -/

/-- What a snapshot is, given what has been accepted. -/
structure SnapshotExact (hash : Bytes → Bytes) (accepted : Accepted)
    (snapshot : SourceClosureSnapshot) : Prop where
  members_sorted : snapshot.members.Pairwise fun a b => a.logicalPath < b.logicalPath
  blobs_sorted : snapshot.blobs.Pairwise fun a b => a.contentDigest < b.contentDigest
  named : ∀ member ∈ snapshot.members, ∃ blob ∈ snapshot.blobs,
    blob.contentDigest = member.contentDigest ∧ blob.sizeBytes = member.sizeBytes
  naming : ∀ blob ∈ snapshot.blobs, ∃ member ∈ snapshot.members,
    member.contentDigest = blob.contentDigest
  contents : ∀ k blob, snapshot.blobs[k]? = some blob →
    blob.content = some (accepted.contents k) ∧
      (accepted.contents k).length = blob.sizeBytes.toNat ∧
      contentDigest hash (accepted.contents k) = blob.contentDigest

theorem snapshotExact_of_takeSnapshot {hash : Bytes → Bytes} {unicode : UnicodeNfc}
    {answers : SystemAnswers} {spool : SourceClosureSpool} {accepted : Accepted}
    (h : SpoolHolds hash spool accepted) {snapshot : SourceClosureSnapshot}
    (hsnapshot : spool.takeSnapshot hash unicode answers = .ok snapshot) :
    SnapshotExact hash accepted snapshot := by
  obtain ⟨hmembers, hlength, hblobs⟩ := takeSnapshot_blobs h hsnapshot
  have hlisted := (h.sealed (takeSnapshot_eq_ok hsnapshot).1).1.listed
  obtain ⟨hnamed, hnaming⟩ := references_exact hlisted.references
  -- the blobs differ from those listed in their contents only
  have hback : ∀ k blob, snapshot.blobs[k]? = some blob → ∃ listed : SourceClosureBlob,
      spool.snapshot.blobs[k]? = some listed ∧
        blob = { listed with content := some (accepted.contents k) } := by
    intro k blob hblob
    have hlt : k < spool.snapshot.blobs.length :=
      hlength ▸ (List.getElem?_eq_some_iff.1 hblob).1
    have hat := List.getElem?_eq_getElem hlt
    exact ⟨_, hat, Option.some.inj (hblob.symm.trans (hblobs k _ hat).1)⟩
  have hdigests : snapshot.blobs.map SourceClosureBlob.contentDigest =
      spool.snapshot.blobs.map SourceClosureBlob.contentDigest := by
    refine List.ext_getElem? fun k => ?_
    rw [List.getElem?_map, List.getElem?_map]
    rcases hat : snapshot.blobs[k]? with _ | blob
    · have hnone : spool.snapshot.blobs[k]? = none := by
        rw [List.getElem?_eq_none_iff] at hat ⊢
        omega
      rw [hnone]
    · obtain ⟨listed, hfound, rfl⟩ := hback k blob hat
      rw [hfound]
      rfl
  refine ⟨hmembers ▸ hlisted.members_sorted, ?_, ?_, ?_, ?_⟩
  · rw [← List.pairwise_map (f := SourceClosureBlob.contentDigest) (R := fun a b => a < b),
      hdigests, List.pairwise_map]
    exact hlisted.blobs_sorted
  · intro member hmember
    obtain ⟨listed, hlistedMem, hdigest, hsize⟩ := hnamed member (hmembers ▸ hmember)
    obtain ⟨k, hat⟩ := List.mem_iff_getElem?.1 hlistedMem
    exact ⟨_, List.mem_of_getElem? (hblobs k listed hat).1, hdigest, hsize⟩
  · intro blob hblob
    obtain ⟨k, hat⟩ := List.mem_iff_getElem?.1 hblob
    obtain ⟨listed, hfound, rfl⟩ := hback k blob hat
    obtain ⟨member, hmember, hdigest⟩ := hnaming listed (List.mem_of_getElem? hfound)
    exact ⟨member, hmembers ▸ hmember, hdigest⟩
  · intro k blob hat
    obtain ⟨listed, hfound, rfl⟩ := hback k blob hat
    exact ⟨rfl, (hblobs k listed hfound).2⟩

/-- What is true of a spool and what it has accepted, at any point of any run. -/
structure SpoolExact (hash : Bytes → Bytes) (unicode : UnicodeNfc) (spool : SourceClosureSpool)
    (accepted : Accepted) : Prop where
  snapshot : ∀ answers snapshot, spool.takeSnapshot hash unicode answers = .ok snapshot →
    (accepted.finished = true ∧ accepted.cleaned = false) ∧ SnapshotExact hash accepted snapshot
  offsets : spool.isSealed = true →
    spool.blobOffsets.map UInt64.toNat = (List.range spool.snapshot.blobs.length).map
        (fun k => ((spool.snapshot.blobs.take k).map fun blob => blob.sizeBytes.toNat).sum) ∧
      spool.privateSpoolBytes.toNat =
        (spool.snapshot.blobs.map fun blob => blob.sizeBytes.toNat).sum
  census : spool.state = .blobSealed →
    spool.completedBlobCount.toNat = spool.snapshot.blobs.length →
      spool.validateSealedMetadata = .ok () ∧
        spool.completedBlobBytes ≤ spool.limits.maximumUniqueBlobBytes
  manifest : ∀ answers manifestDigest summary,
    (spool.finishManifest hash unicode answers manifestDigest).2 = .ok summary →
      spool.manifestBytes = accepted.manifest ∧
        semanticDigest hash "cxxlens.source-closure-manifest.v1" accepted.manifest =
          .ok manifestDigest

theorem SpoolHolds.exact {hash : Bytes → Bytes} {unicode : UnicodeNfc}
    {spool : SourceClosureSpool} {accepted : Accepted} (h : SpoolHolds hash spool accepted) :
    SpoolExact hash unicode spool accepted where
  snapshot answers snapshot hsnapshot := by
    have hstate := (takeSnapshot_eq_ok hsnapshot).1
    exact ⟨⟨(h.sealed hstate).2.2, h.notCleaned (by simp [hstate])⟩,
      snapshotExact_of_takeSnapshot h hsnapshot⟩
  offsets hsealed := by
    have hstate : spool.state = .closureSealed := of_decide_eq_true hsealed
    obtain ⟨hcollected, hempty, -⟩ := h.sealed hstate
    have hlength := hcollected.length_bytesBefore
    constructor
    · refine hcollected.offsets.trans (List.map_congr_left fun k hk => ?_)
      exact hlength k (List.mem_range.1 hk).le
    · have hall := hlength spool.snapshot.blobs.length le_rfl
      rw [List.take_length] at hall
      rw [hcollected.bytes, bytesBefore_succ, hempty, List.append_nil, hall]
  census hstate hall := by
    obtain ⟨count, hcollected, hempty⟩ := h.collected (.inr hstate)
    exact hcollected.validateSealedMetadata hempty (hcollected.completedCount.symm.trans hall)
  manifest answers manifestDigest summary hsummary := by
    rcases hresult : spool.finishManifest hash unicode answers manifestDigest with
      ⟨spool', reply⟩
    rw [hresult] at hsummary
    rcases SourceClosureSpool.finishManifest_cases hresult with
      ⟨error, rfl, -⟩ | ⟨hopen, -, -, snapshot, total, -, -, hread, -⟩
    · cases hsummary
    · obtain ⟨-, hne, hdigest⟩ := readManifest_listed h.limits hread
      -- bytes that were moved out do not parse again
      rcases (h.manifestOpen hopen).2.2 with hbytes | ⟨hmoved, -⟩
      · exact ⟨hbytes, hbytes ▸ hdigest⟩
      · exact absurd hmoved hne

end Cxxlens.Clang22
