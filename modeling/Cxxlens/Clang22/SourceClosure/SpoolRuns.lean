import Cxxlens.Clang22.SourceClosure.ManifestReads
import Cxxlens.Clang22.SourceClosure.SpoolCustody

set_option autoImplicit false

/-! # Runs of a spool

Whatever fails on the way, a spool that has been sealed holds the blobs its manifest lists, each with
the payloads that were accepted for it, one behind the other in its private file. -/

namespace Cxxlens.Clang22

open Sdk SparseFile Fallible

/-! ## What has been accepted -/

/-- What the calls of a run have accepted: the bytes of the manifest, the bytes of each blob by its
    ordinal, whether the closure was finished, and whether it was cleaned up. -/
structure Accepted where
  manifest : Bytes := []
  contents : Nat → Bytes := fun _ => []
  finished : Bool := false
  cleaned : Bool := false

/-- What has been accepted after a call. -/
def SpoolCall.accept (hash : Bytes → Bytes) (answers : SystemAnswers) (spool : SourceClosureSpool)
    (accepted : Accepted) : SpoolCall → Accepted
  | .appendManifest payload =>
    match (spool.appendManifest answers payload).2 with
    | .ok () => { accepted with manifest := accepted.manifest ++ payload }
    | .error _ => accepted
  | .appendBlob payload =>
    match (spool.appendBlob answers payload).2 with
    | .ok () =>
      { accepted with
        contents := Function.update accepted.contents spool.currentBlobOrdinal.toNat
          (accepted.contents spool.currentBlobOrdinal.toNat ++ payload) }
    | .error _ => accepted
  | .finishClosure transferDigest =>
    match (spool.finishClosure hash answers transferDigest).2 with
    | .ok _ => { accepted with finished := true }
    | .error _ => accepted
  | .cleanup =>
    match (spool.cleanup hash answers).2 with
    | .ok _ => { accepted with cleaned := true }
    | .error _ => accepted
  | _ => accepted

/-- A spool and what it has accepted, after some calls. -/
def spoolRun (hash : Bytes → Bytes) (unicode : UnicodeNfc) :
    SourceClosureSpool → Accepted → List (SpoolCall × SystemAnswers) →
      SourceClosureSpool × Accepted
  | spool, accepted, [] => (spool, accepted)
  | spool, accepted, (call, answers) :: rest =>
    spoolRun hash unicode (call.after hash unicode answers spool)
      (call.accept hash answers spool accepted) rest

/-- The bytes of the first blobs, one behind the other. -/
def bytesBefore (contents : Nat → Bytes) (count : Nat) : Bytes :=
  ((List.range count).map contents).flatten

theorem bytesBefore_succ (contents : Nat → Bytes) (count : Nat) :
    bytesBefore contents (count + 1) = bytesBefore contents count ++ contents count := by
  rw [bytesBefore, List.range_succ, List.map_append, List.flatten_append]
  simp [bytesBefore]

theorem bytesBefore_update (contents : Nat → Bytes) (count : Nat) (bytes : Bytes) :
    bytesBefore (Function.update contents count bytes) count = bytesBefore contents count := by
  rw [bytesBefore, bytesBefore]
  congr 1
  refine List.map_congr_left fun k hk => ?_
  rw [Function.update_of_ne (Nat.ne_of_lt (List.mem_range.1 hk))]

/-! ## The invariant -/

/-- What a spool holds once it has a manifest, with `count` blobs finished. -/
structure Collected (hash : Bytes → Bytes) (spool : SourceClosureSpool) (contents : Nat → Bytes)
    (count : Nat) : Prop where
  listed : Listed spool.limits spool.snapshot
  completedCount : spool.completedBlobCount.toNat = count
  count_le : count ≤ spool.snapshot.blobs.length
  file : ∃ file, spool.privateSpool = some file ∧ bytesBefore contents (count + 1) <+: file
  bytes : spool.privateSpoolBytes.toNat = (bytesBefore contents (count + 1)).length
  completedBytes : spool.completedBlobBytes.toNat = (bytesBefore contents count).length
  offsets : spool.blobOffsets.map UInt64.toNat =
    (List.range count).map fun k => (bytesBefore contents k).length
  done : ∀ k < count, ∀ blob, spool.snapshot.blobs[k]? = some blob →
    (contents k).length = blob.sizeBytes.toNat ∧
      contentDigest hash (contents k) = blob.contentDigest
  later : ∀ k, count < k → contents k = []

/-- The blob that is open. -/
structure OpenBlob (spool : SourceClosureSpool) (contents : Nat → Bytes) (count : Nat)
    (blob : SourceClosureBlob) : Prop where
  listed : spool.snapshot.blobs[count]? = some blob
  ordinal : spool.currentBlobOrdinal.toNat = count
  size : spool.currentBlobSize = blob.sizeBytes
  digest : spool.currentBlobDigest = blob.contentDigest
  offset : spool.currentBlobOffset.toNat = (bytesBefore contents count).length
  received : spool.currentBlobReceivedBytes.toNat = (contents count).length
  within : (contents count).length ≤ blob.sizeBytes.toNat

/-- A spool in one of the states, with what it has accepted. -/
inductive Stage (hash : Bytes → Bytes) (spool : SourceClosureSpool) (accepted : Accepted) : Prop where
  | fresh (state : spool.state = .fresh) (manifestBytes : spool.manifestBytes = [])
      (manifest : accepted.manifest = [])
  | manifestOpen (state : spool.state = .manifestOpen)
      (file : ∃ file, spool.privateSpool = some file)
      (received : spool.manifestReceivedBytes.toNat = accepted.manifest.length)
      (bytes : spool.manifestBytes = accepted.manifest ∨
        spool.manifestBytes = [] ∧
          spool.manifestReceivedBytes = spool.manifestDescriptor.totalBytes)
  | between (count : Nat)
      (state : spool.state = .manifestValidated ∨ spool.state = .blobSealed)
      (collected : Collected hash spool accepted.contents count)
      (empty : accepted.contents count = [])
  | blobOpen (count : Nat) (blob : SourceClosureBlob) (state : spool.state = .blobOpen)
      (collected : Collected hash spool accepted.contents count)
      (current : OpenBlob spool accepted.contents count blob)
  | sealed (count : Nat) (state : spool.state = .closureSealed)
      (collected : Collected hash spool accepted.contents count)
      (empty : accepted.contents count = []) (all : count = spool.snapshot.blobs.length)
      (finished : accepted.finished = true)
  | cleaned (state : spool.state = .cleaned)

/-- What holds of a spool between its calls. -/
structure SpoolHolds (hash : Bytes → Bytes) (spool : SourceClosureSpool) (accepted : Accepted) :
    Prop where
  limits : spool.limits.maximumBlobBytes ≤ spool.limits.maximumUniqueBlobBytes
  custody : Custody spool
  notCleaned : spool.state ≠ .cleaned → accepted.cleaned = false
  untouched : spool.state = .fresh ∨ spool.state = .manifestOpen →
    accepted.contents = (fun _ => []) ∧ spool.privateSpoolBytes = 0 ∧
      spool.completedBlobCount = 0 ∧ spool.completedBlobBytes = 0 ∧ spool.blobOffsets = []
  stage : Stage hash spool accepted

theorem SpoolHolds.start {hash : Bytes → Bytes} {limits : SourceClosureTransportLimits}
    (hlimits : limits.maximumBlobBytes ≤ limits.maximumUniqueBlobBytes) :
    SpoolHolds hash { limits := limits } {} :=
  ⟨hlimits, Custody.fresh limits, fun _ => rfl, fun _ => ⟨rfl, rfl, rfl, rfl, rfl⟩,
    .fresh rfl rfl rfl⟩

/-! ## Sizes -/

section Sizes

variable {hash : Bytes → Bytes} {spool : SourceClosureSpool} {contents : Nat → Bytes} {count : Nat}

/-- The finished blobs have the sizes that are listed. -/
theorem Collected.length_bytesBefore (h : Collected hash spool contents count) :
    ∀ k ≤ count, (bytesBefore contents k).length =
      ((spool.snapshot.blobs.take k).map fun blob => blob.sizeBytes.toNat).sum := by
  intro k
  induction k with
  | zero => simp [bytesBefore]
  | succ k ih =>
      intro hk
      have hlt : k < spool.snapshot.blobs.length := lt_of_lt_of_le hk h.count_le
      have hat := List.getElem?_eq_getElem hlt
      rw [bytesBefore_succ, List.length_append, ih (Nat.le_of_succ_le hk),
        (h.done k hk _ hat).1, List.take_add_one, hat]
      simp only [Option.toList_some, List.map_append, List.map_cons, List.map_nil, List.sum_append,
        List.sum_cons, List.sum_nil, add_zero]

theorem sum_take_le (sizes : List Nat) (k : Nat) : (sizes.take k).sum ≤ sizes.sum := by
  conv_rhs => rw [← List.take_append_drop k sizes, List.sum_append]
  exact Nat.le_add_right _ _

/-- The finished blobs and the next one fit the limit. -/
theorem Collected.length_le (h : Collected hash spool contents count) :
    (bytesBefore contents count).length ≤ spool.limits.maximumUniqueBlobBytes.toNat ∧
      ∀ blob, spool.snapshot.blobs[count]? = some blob →
        (bytesBefore contents count).length + blob.sizeBytes.toNat ≤
          spool.limits.maximumUniqueBlobBytes.toNat := by
  have hsum := h.listed.bytes
  rw [h.length_bytesBefore count le_rfl, List.map_take]
  refine ⟨(sum_take_le _ _).trans hsum, fun blob hblob => ?_⟩
  have hnext := sum_take_le (spool.snapshot.blobs.map fun blob => blob.sizeBytes.toNat) (count + 1)
  rw [List.take_add_one, List.sum_append, List.getElem?_map, hblob] at hnext
  simp only [Option.map_some, Option.toList_some, List.sum_cons, List.sum_nil, add_zero] at hnext
  exact hnext.trans hsum

/-- What is in the file of a blob that has been accepted. -/
theorem Collected.slice_eq (h : Collected hash spool contents count) {file : Bytes}
    (hfile : spool.privateSpool = some file) {k : Nat} (hk : k ≤ count) :
    slice file (bytesBefore contents k).length (contents k).length = contents k := by
  obtain ⟨found, hfound, hkept⟩ := h.file
  obtain rfl := Option.some.inj (hfound.symm.trans hfile)
  have hsplit : ∀ more : Nat, bytesBefore contents k ++ contents k <+:
      bytesBefore contents (k + 1 + more) := by
    intro more
    induction more with
    | zero => rw [Nat.add_zero, bytesBefore_succ]
    | succ more ih =>
        rw [← Nat.add_assoc, bytesBefore_succ]
        exact ih.trans (List.prefix_append _ _)
  have hprefix : bytesBefore contents k ++ contents k <+: found := by
    have hall := hsplit (count - k)
    rw [show k + 1 + (count - k) = count + 1 by omega] at hall
    exact hall.trans hkept
  have hslice := @slice_of_front _ found (bytesBefore contents k) (contents k) []
  rw [List.append_nil] at hslice
  exact hslice hprefix

end Sizes

/-! ## One call -/

section Steps

variable {hash : Bytes → Bytes} {unicode : UnicodeNfc} {answers : SystemAnswers}
  {spool : SourceClosureSpool} {accepted : Accepted}

/-- A spool that differs in nothing that its blobs depend on. -/
theorem Collected.congr {spool' : SourceClosureSpool} {contents : Nat → Bytes} {count : Nat}
    (h : Collected hash spool contents count) (hlimits : spool'.limits = spool.limits)
    (hsnapshot : spool'.snapshot = spool.snapshot)
    (hcount : spool'.completedBlobCount = spool.completedBlobCount)
    (hfile : spool'.privateSpool = spool.privateSpool)
    (hbytes : spool'.privateSpoolBytes = spool.privateSpoolBytes)
    (hcompleted : spool'.completedBlobBytes = spool.completedBlobBytes)
    (hoffsets : spool'.blobOffsets = spool.blobOffsets) : Collected hash spool' contents count where
  listed := hlimits ▸ hsnapshot ▸ h.listed
  completedCount := hcount ▸ h.completedCount
  count_le := hsnapshot ▸ h.count_le
  file := hfile ▸ h.file
  bytes := hbytes ▸ h.bytes
  completedBytes := hcompleted ▸ h.completedBytes
  offsets := hoffsets ▸ h.offsets
  done := hsnapshot ▸ h.done
  later := h.later

/-- In a collected spool the file is open already. -/
theorem Collected.opened {contents : Nat → Bytes} {count : Nat}
    (h : Collected hash spool contents count) {opened : SourceClosureSpool}
    (hopened : spool.Opened opened) : opened = spool := by
  rcases hopened with rfl | ⟨hnone, -⟩
  · rfl
  · obtain ⟨file, hfile, -⟩ := h.file
    rw [hnone] at hfile
    cases hfile

/-- The stages that have collected blobs. -/
theorem SpoolHolds.collected (h : SpoolHolds hash spool accepted)
    (hstate : spool.state = .manifestValidated ∨ spool.state = .blobSealed) :
    ∃ count, Collected hash spool accepted.contents count ∧ accepted.contents count = [] := by
  rcases h.stage with ⟨hs, -⟩ | ⟨hs, -⟩ | ⟨count, -, hcollected, hempty⟩ | ⟨count, blob, hs, -⟩ |
    ⟨count, hs, -⟩ | hs
  case between => exact ⟨count, hcollected, hempty⟩
  all_goals simp [hs] at hstate

theorem SpoolHolds.open (h : SpoolHolds hash spool accepted) (hstate : spool.state = .blobOpen) :
    ∃ count blob, Collected hash spool accepted.contents count ∧
      OpenBlob spool accepted.contents count blob := by
  rcases h.stage with ⟨hs, -⟩ | ⟨hs, -⟩ | ⟨count, hs | hs, -⟩ |
    ⟨count, blob, -, hcollected, hopen⟩ | ⟨count, hs, -⟩ | hs
  case blobOpen => exact ⟨count, blob, hcollected, hopen⟩
  all_goals simp [hs] at hstate

theorem SpoolHolds.fresh (h : SpoolHolds hash spool accepted) (hstate : spool.state = .fresh) :
    spool.manifestBytes = [] ∧ accepted.manifest = [] := by
  rcases h.stage with ⟨-, hbytes, hmanifest⟩ | ⟨hs, -⟩ | ⟨count, hs | hs, -⟩ | ⟨count, blob, hs, -⟩ |
    ⟨count, hs, -⟩ | hs
  case fresh => exact ⟨hbytes, hmanifest⟩
  all_goals simp [hs] at hstate

theorem SpoolHolds.manifestOpen (h : SpoolHolds hash spool accepted)
    (hstate : spool.state = .manifestOpen) : (∃ file, spool.privateSpool = some file) ∧
      spool.manifestReceivedBytes.toNat = accepted.manifest.length ∧
      (spool.manifestBytes = accepted.manifest ∨ spool.manifestBytes = [] ∧
        spool.manifestReceivedBytes = spool.manifestDescriptor.totalBytes) := by
  rcases h.stage with ⟨hs, -⟩ | ⟨-, hfile, hreceived, hbytes⟩ | ⟨count, hs | hs, -⟩ |
    ⟨count, blob, hs, -⟩ | ⟨count, hs, -⟩ | hs
  case manifestOpen => exact ⟨hfile, hreceived, hbytes⟩
  all_goals simp [hs] at hstate

variable {spool' : SourceClosureSpool}

theorem SpoolHolds.beginManifest (h : SpoolHolds hash spool accepted)
    {descriptor : SourceClosureManifestDescriptor} {reply : Result Unit}
    (hresult : spool.beginManifest answers descriptor = (spool', reply))
    (hcustody : Custody spool') : SpoolHolds hash spool' accepted := by
  rcases SourceClosureSpool.beginManifest_cases hresult with
    ⟨-, -, rfl | ⟨hfresh, opened, torn, hopened, rfl⟩⟩ |
    ⟨-, hfresh, hsize, opened, file, hopened, hfile, rfl⟩
  · exact h
  · obtain ⟨hbytes, hmanifest⟩ := h.fresh hfresh
    have hnot := h.notCleaned (by simp [hfresh])
    have huntouched := h.untouched (.inl hfresh)
    rcases hopened with rfl | ⟨-, rfl⟩
    · exact ⟨h.limits, hcustody, fun _ => hnot, fun _ => huntouched, .fresh hfresh hbytes hmanifest⟩
    · exact ⟨h.limits, hcustody, fun _ => hnot, fun _ => huntouched, .fresh hfresh hbytes hmanifest⟩
  · obtain ⟨hbytes, hmanifest⟩ := h.fresh hfresh
    have hnot := h.notCleaned (by simp [hfresh])
    have huntouched := h.untouched (.inl hfresh)
    have hreceived : (0 : UInt64).toNat = accepted.manifest.length := by
      rw [hmanifest]
      rfl
    rcases hopened with rfl | ⟨-, rfl⟩
    · exact ⟨h.limits, hcustody, fun _ => hnot, fun _ => huntouched,
        .manifestOpen rfl ⟨file, hfile⟩ hreceived (.inl (hbytes.trans hmanifest.symm))⟩
    · exact ⟨h.limits, hcustody, fun _ => hnot, fun _ => huntouched,
        .manifestOpen rfl ⟨file, hfile⟩ hreceived (.inl (hbytes.trans hmanifest.symm))⟩

theorem SpoolHolds.appendManifest (h : SpoolHolds hash spool accepted) {payload : Bytes} :
    SpoolHolds hash (spool.appendManifest answers payload).1
      (SpoolCall.accept hash answers spool accepted (.appendManifest payload)) := by
  have hcustody := @Custody.after hash ⟨fun _ => .ok true, .ok⟩ answers spool h.custody
    (.appendManifest payload)
  rw [SpoolCall.after] at hcustody
  rcases hresult : spool.appendManifest answers payload with ⟨spool', reply⟩
  rw [hresult] at hcustody
  rcases SourceClosureSpool.appendManifest_cases hresult with
    ⟨rfl, error, rfl⟩ | ⟨rfl, hopen, hne, hwithin, hroom, rfl⟩
  · simpa [SpoolCall.accept, hresult] using h
  · simp only [SpoolCall.accept, hresult]
    obtain ⟨hfile, hreceived, hbytes⟩ := h.manifestOpen hopen
    have hroomNat := hroom
    rw [UInt64.toNat_sub_of_le _ _ hwithin] at hroomNat
    have htotal := spool.manifestDescriptor.totalBytes.toNat_lt
    have hwithinNat := UInt64.le_iff_toNat_le.1 hwithin
    have hsum : (spool.manifestReceivedBytes + UInt64.ofNat payload.length).toNat =
        spool.manifestReceivedBytes.toNat + payload.length := by
      rw [UInt64.toNat_add, UInt64.toNat_ofNat_of_lt' (by rw [UInt64.size]; omega),
        Nat.mod_eq_of_lt (by omega)]
    refine ⟨h.limits, hcustody, fun _ => h.notCleaned (by simp [hopen]),
      fun _ => h.untouched (.inr hopen), .manifestOpen hopen hfile ?_ ?_⟩
    · rw [hsum, hreceived, List.length_append]
    · rcases hbytes with hbytes | ⟨hbytes, hall⟩
      · exact .inl (by rw [hbytes])
      · -- no byte is accepted once all of them have been received
        rw [hall, Nat.sub_self, Nat.le_zero] at hroomNat
        exact absurd (List.length_eq_zero_iff.1 hroomNat) hne

theorem SpoolHolds.finishManifest (h : SpoolHolds hash spool accepted) {manifestDigest : Bytes}
    {reply : Result SourceClosureManifestSummary}
    (hresult : spool.finishManifest hash unicode answers manifestDigest = (spool', reply))
    (hcustody : Custody spool') : SpoolHolds hash spool' accepted := by
  rcases SourceClosureSpool.finishManifest_cases hresult with
    ⟨-, -, rfl | ⟨hopen, hall, rfl⟩⟩ | ⟨hopen, -, -, snapshot, total, summary, -, hread, rfl⟩
  · exact h
  · obtain ⟨hfile, hreceived, -⟩ := h.manifestOpen hopen
    exact ⟨h.limits, hcustody, fun _ => h.notCleaned (by simp [hopen]),
      fun _ => h.untouched (.inr hopen), .manifestOpen hopen hfile hreceived (.inr ⟨rfl, hall⟩)⟩
  · obtain ⟨⟨file, hfile⟩, -, -⟩ := h.manifestOpen hopen
    obtain ⟨hcontents, hbytes, hcount, hcompleted, hoffsets⟩ := h.untouched (.inr hopen)
    have hnothing : ∀ k, bytesBefore accepted.contents k = [] := by
      intro k
      rw [hcontents, bytesBefore]
      simp
    refine ⟨h.limits, hcustody, fun _ => h.notCleaned (by simp [hopen]), nofun,
      .between 0 (.inl rfl) ⟨(readManifest_listed h.limits hread).1, ?_, Nat.zero_le _,
        ⟨file, hfile, ?_⟩, ?_, ?_, ?_, nofun, ?_⟩ (by rw [hcontents])⟩
    · rw [hcount]
      rfl
    · rw [hnothing]
      exact List.nil_prefix
    · rw [hnothing, hbytes]
      rfl
    · rw [hnothing, hcompleted]
      rfl
    · rw [hoffsets]
      rfl
    · intro k _
      rw [hcontents]

theorem SpoolHolds.beginBlob (h : SpoolHolds hash spool accepted)
    {descriptor : SourceClosureBlobDescriptor} {reply : Result Unit}
    (hresult : spool.beginBlob answers descriptor = (spool', reply))
    (hcustody : Custody spool') : SpoolHolds hash spool' accepted := by
  rcases SourceClosureSpool.beginBlob_cases hresult with
    ⟨-, -, rfl | ⟨hready, hopened⟩⟩ |
    ⟨-, hready, hordinal, expected, opened, file, hexpected, hdigest, hsize, hopened, -, rfl⟩
  · exact h
  · obtain ⟨count, hcollected, -⟩ := h.collected hready
    rw [hcollected.opened hopened]
    exact h
  · obtain ⟨count, hcollected, hempty⟩ := h.collected hready
    obtain rfl := hcollected.opened hopened
    have hcount : descriptor.blobOrdinal.toNat = count := by
      rw [hordinal, hcollected.completedCount]
    have hnot : accepted.cleaned = false := by
      refine h.notCleaned ?_
      rcases hready with hs | hs
      all_goals simp [hs]
    refine ⟨h.limits, hcustody, fun _ => hnot, nofun,
      .blobOpen count expected rfl (hcollected.congr rfl rfl rfl rfl rfl rfl rfl)
        ⟨hcount ▸ hexpected, hcount, hsize, hdigest, ?_, ?_, ?_⟩⟩
    · rw [hcollected.bytes, bytesBefore_succ, hempty, List.append_nil]
    · rw [hempty]
      rfl
    · rw [hempty]
      exact Nat.zero_le _

theorem SpoolHolds.appendBlob (h : SpoolHolds hash spool accepted) {payload : Bytes} :
    SpoolHolds hash (spool.appendBlob answers payload).1
      (SpoolCall.accept hash answers spool accepted (.appendBlob payload)) := by
  have hcustody := @Custody.after hash ⟨fun _ => .ok true, .ok⟩ answers spool h.custody
    (.appendBlob payload)
  rw [SpoolCall.after] at hcustody
  rcases hresult : spool.appendBlob answers payload with ⟨spool', reply⟩
  rw [hresult] at hcustody
  rcases SourceClosureSpool.appendBlob_cases hresult with
    ⟨rfl, error, rfl⟩ | ⟨hopen, hroom, hwithin, file, file', hfile, hkept, hcases⟩
  · simpa [SpoolCall.accept, hresult] using h
  obtain ⟨count, blob, hcollected, hblob⟩ := h.open hopen
  obtain ⟨found, hfound, hprefix⟩ := hcollected.file
  obtain rfl := Option.some.inj (hfound.symm.trans hfile)
  obtain ⟨hstays, hwritten⟩ := hkept _ hprefix hcollected.bytes.symm
  have hnot := h.notCleaned (by simp [hopen])
  rcases hcases with ⟨⟨error, rfl⟩, rfl⟩ | ⟨rfl, rfl⟩
  · simp only [SpoolCall.accept, hresult]
    exact ⟨h.limits, hcustody, fun _ => hnot, fun hs => absurd hs (by simp [hopen]),
      .blobOpen count blob hopen
        { hcollected.congr rfl rfl rfl rfl rfl rfl rfl with file := ⟨file', rfl, hstays⟩ }
        ⟨hblob.listed, hblob.ordinal, hblob.size, hblob.digest, hblob.offset, hblob.received,
          hblob.within⟩⟩
  · simp only [SpoolCall.accept, hresult, hblob.ordinal]
    -- neither counter leaves its range, since the blob fits the limit
    have hfits := hcollected.length_le.2 blob hblob.listed
    have hmax := spool.limits.maximumUniqueBlobBytes.toNat_lt
    rw [UInt64.toNat_sub_of_le _ _ hwithin, hblob.size, hblob.received] at hroom
    have hwithinSize := hblob.within
    have hpayload : (UInt64.ofNat payload.length).toNat = payload.length :=
      UInt64.toNat_ofNat_of_lt' (by rw [UInt64.size]; omega)
    have hreceived : (spool.currentBlobReceivedBytes + UInt64.ofNat payload.length).toNat =
        (accepted.contents count).length + payload.length := by
      rw [UInt64.toNat_add, hpayload, hblob.received, Nat.mod_eq_of_lt (by omega)]
    have hlength := congrArg List.length (bytesBefore_succ accepted.contents count)
    rw [List.length_append] at hlength
    have hbytes : (spool.privateSpoolBytes + UInt64.ofNat payload.length).toNat =
        (bytesBefore accepted.contents (count + 1)).length + payload.length := by
      rw [UInt64.toNat_add, hpayload, hcollected.bytes, Nat.mod_eq_of_lt (by omega)]
    have hupdated : bytesBefore (Function.update accepted.contents count
        (accepted.contents count ++ payload)) (count + 1) =
          bytesBefore accepted.contents (count + 1) ++ payload := by
      rw [bytesBefore_succ, bytesBefore_update, Function.update_self, bytesBefore_succ,
        List.append_assoc]
    have hbefore : ∀ k ≤ count, bytesBefore (Function.update accepted.contents count
        (accepted.contents count ++ payload)) k = bytesBefore accepted.contents k := by
      intro k hk
      rw [bytesBefore, bytesBefore]
      congr 1
      refine List.map_congr_left fun j hj => ?_
      rw [Function.update_of_ne (by have := List.mem_range.1 hj; omega)]
    refine ⟨h.limits, hcustody, fun _ => hnot, fun hs => absurd hs (by simp [hopen]),
      .blobOpen count blob hopen ⟨hcollected.listed, hcollected.completedCount,
        hcollected.count_le, ⟨file', rfl, ?_⟩, ?_, ?_, ?_, ?_, ?_⟩
        ⟨hblob.listed, hblob.ordinal, hblob.size, hblob.digest, ?_, ?_, ?_⟩⟩
    · rw [hupdated]
      exact hwritten rfl
    · rw [hupdated, List.length_append]
      exact hbytes
    · rw [hbefore count le_rfl]
      exact hcollected.completedBytes
    · refine hcollected.offsets.trans (List.map_congr_left fun k hk => ?_)
      rw [hbefore k (List.mem_range.1 hk).le]
    · intro k hk other hother
      dsimp only
      rw [Function.update_of_ne (Nat.ne_of_lt hk)]
      exact hcollected.done k hk other hother
    · intro k hk
      dsimp only
      rw [Function.update_of_ne (Nat.ne_of_gt hk)]
      exact hcollected.later k hk
    · rw [hbefore count le_rfl]
      exact hblob.offset
    · dsimp only
      rw [Function.update_self, List.length_append]
      exact hreceived
    · dsimp only
      rw [Function.update_self, List.length_append]
      omega

theorem SpoolHolds.finishBlob (h : SpoolHolds hash spool accepted)
    {receipt : SourceClosureBlobReceipt} {reply : Result Unit}
    (hresult : spool.finishBlob hash answers receipt = (spool', reply))
    (hcustody : Custody spool') : SpoolHolds hash spool' accepted := by
  rcases SourceClosureSpool.finishBlob_cases hresult with
    ⟨rfl, -⟩ | ⟨-, hopen, hall, ⟨allocates, hread⟩, rfl⟩
  · exact h
  obtain ⟨count, blob, hcollected, hblob⟩ := h.open hopen
  have hlt : count < spool.snapshot.blobs.length := (List.getElem?_eq_some_iff.1 hblob.listed).1
  -- all of the blob has been received, so what is read back is what was accepted
  have hsize : (accepted.contents count).length = blob.sizeBytes.toNat := by
    rw [← hblob.received, hall, hblob.size]
  have hdigest : contentDigest hash (accepted.contents count) = blob.contentDigest := by
    rw [bind_eq_ok_iff] at hread
    obtain ⟨content, hcontent, hread⟩ := hread
    obtain ⟨file, hfile, hslice, -⟩ := SourceClosureSpool.readPrivateBlob_eq_ok hcontent
    rw [hblob.offset, hblob.size, ← hsize, hcollected.slice_eq hfile le_rfl] at hslice
    rw [← hslice, Except.ok.inj hread, hblob.digest]
  have hfits := hcollected.length_le.2 blob hblob.listed
  have hmax := spool.limits.maximumUniqueBlobBytes.toNat_lt
  have hlength := congrArg List.length (bytesBefore_succ accepted.contents count)
  rw [List.length_append] at hlength
  have hblobs := hcollected.listed.blobs_length
  have hblobsMax := spool.limits.maximumUniqueBlobs.toNat_lt
  have hcountSucc : (spool.completedBlobCount + 1).toNat = count + 1 := by
    rw [UInt64.toNat_add, hcollected.completedCount, UInt64.toNat_one,
      Nat.mod_eq_of_lt (by omega)]
  have hnext : bytesBefore accepted.contents (count + 1 + 1) =
      bytesBefore accepted.contents (count + 1) := by
    rw [bytesBefore_succ, hcollected.later (count + 1) (Nat.lt_succ_self count), List.append_nil]
  refine ⟨h.limits, hcustody, fun _ => h.notCleaned (by simp [hopen]), nofun,
    .between (count + 1) (.inr rfl) ⟨hcollected.listed, hcountSucc, hlt, ?_, ?_, ?_, ?_, ?_, ?_⟩
      (hcollected.later (count + 1) (Nat.lt_succ_self count))⟩
  · rw [hnext]
    exact hcollected.file
  · rw [hnext]
    exact hcollected.bytes
  · dsimp only
    rw [UInt64.toNat_add, hcollected.completedBytes, hblob.size, Nat.mod_eq_of_lt (by omega)]
    omega
  · dsimp only
    rw [List.map_append, hcollected.offsets, List.range_succ, List.map_append, List.map_singleton,
      List.map_singleton, hblob.offset]
  · intro k hk other hother
    rcases Nat.lt_succ_iff_lt_or_eq.1 hk with hbefore | rfl
    · exact hcollected.done k hbefore other hother
    · obtain rfl := Option.some.inj (hblob.listed.symm.trans hother)
      exact ⟨hsize, hdigest⟩
  · exact fun k hk => hcollected.later k (Nat.lt_of_succ_lt hk)

theorem SpoolHolds.finishClosure (h : SpoolHolds hash spool accepted) {transferDigest : Bytes} :
    SpoolHolds hash (spool.finishClosure hash answers transferDigest).1
      (SpoolCall.accept hash answers spool accepted (.finishClosure transferDigest)) := by
  have hcustody := @Custody.after hash ⟨fun _ => .ok true, .ok⟩ answers spool h.custody
    (.finishClosure transferDigest)
  rw [SpoolCall.after] at hcustody
  rcases hresult : spool.finishClosure hash answers transferDigest with ⟨spool', reply⟩
  rw [hresult] at hcustody
  rcases SourceClosureSpool.finishClosure_cases hresult with
    ⟨rfl, error, rfl⟩ | ⟨hready, hall, -, ⟨credentials, rfl⟩, rfl⟩
  · simpa [SpoolCall.accept, hresult] using h
  · simp only [SpoolCall.accept, hresult]
    obtain ⟨count, hcollected, hempty⟩ := h.collected (.inr hready)
    exact ⟨h.limits, hcustody, fun _ => h.notCleaned (by simp [hready]), by simp,
      .sealed count rfl (hcollected.congr rfl rfl rfl rfl rfl rfl rfl) hempty
        (hcollected.completedCount.symm.trans hall) rfl⟩

theorem SpoolHolds.cleanup (h : SpoolHolds hash spool accepted) :
    SpoolHolds hash (spool.cleanup hash answers).1
      (SpoolCall.accept hash answers spool accepted .cleanup) := by
  rcases hresult : spool.cleanup hash answers with ⟨spool', reply⟩
  have hcustody := (h.custody.cleanup hresult).1
  rcases SourceClosureSpool.cleanup_cases hresult with
    ⟨hhas, rfl, rfl⟩ | ⟨-, rfl, error, rfl⟩ | ⟨-, receipt, -, rfl, rfl⟩
  · have hcleaned := h.custody.cleaned hhas
    simp only [SpoolCall.accept, hresult]
    exact ⟨h.limits, hcustody, fun hnot => absurd hcleaned hnot, fun hs => by simp [hcleaned] at hs,
      .cleaned hcleaned⟩
  · simpa [SpoolCall.accept, hresult] using h
  · simp only [SpoolCall.accept, hresult]
    exact ⟨h.limits, hcustody, fun hnot => absurd rfl hnot, nofun, .cleaned rfl⟩

/-- Any call keeps what holds of a spool. -/
theorem SpoolHolds.after (h : SpoolHolds hash spool accepted) (call : SpoolCall) :
    SpoolHolds hash (call.after hash unicode answers spool)
      (call.accept hash answers spool accepted) := by
  have hcustody := @Custody.after hash unicode answers spool h.custody call
  cases call with
  | beginManifest descriptor => exact h.beginManifest rfl hcustody
  | appendManifest payload => exact h.appendManifest
  | finishManifest manifestDigest => exact h.finishManifest rfl hcustody
  | beginBlob descriptor => exact h.beginBlob rfl hcustody
  | appendBlob payload => exact h.appendBlob
  | finishBlob receipt => exact h.finishBlob rfl hcustody
  | finishClosure transferDigest => exact h.finishClosure
  | snapshot => exact h
  | cleanup => exact h.cleanup

theorem spoolRun_holds (h : SpoolHolds hash spool accepted)
    (calls : List (SpoolCall × SystemAnswers)) :
    SpoolHolds hash (spoolRun hash unicode spool accepted calls).1
      (spoolRun hash unicode spool accepted calls).2 := by
  induction calls generalizing spool accepted with
  | nil => exact h
  | cons step calls ih => exact ih (h.after step.1)

end Steps

end Cxxlens.Clang22
