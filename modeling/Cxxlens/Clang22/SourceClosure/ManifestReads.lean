import Cxxlens.Clang22.SourceClosure.Manifest
import Cxxlens.Foundation.Fallible

set_option autoImplicit false

/-! # What a manifest lists

A manifest that is read lists members by ascending path and blobs by ascending digest, within the
limits, and the members name exactly the blobs. -/

namespace Cxxlens.Clang22

open Sdk Sdk.Json Fallible

/-- What a snapshot that was read from a manifest lists. -/
structure Listed (limits : SourceClosureTransportLimits) (snapshot : SourceClosureSnapshot) :
    Prop where
  members_ne : snapshot.members ≠ []
  blobs_ne : snapshot.blobs ≠ []
  members_length : snapshot.members.length ≤ limits.maximumMembers.toNat
  blobs_length : snapshot.blobs.length ≤ limits.maximumUniqueBlobs.toNat
  members_sorted : snapshot.members.Pairwise fun a b => a.logicalPath < b.logicalPath
  blobs_sorted : snapshot.blobs.Pairwise fun a b => a.contentDigest < b.contentDigest
  blobs_valid : ∀ blob ∈ snapshot.blobs, validContentDigest blob.contentDigest = true ∧
    blob.sizeBytes ≤ limits.maximumBlobBytes
  bytes : (snapshot.blobs.map fun blob => blob.sizeBytes.toNat).sum ≤
    limits.maximumUniqueBlobBytes.toNat
  references : validateManifestBlobReferences snapshot = .ok ()

/-! ## Ascending lists -/

section Members

variable {hash : Bytes → Bytes} {unicode : UnicodeNfc} {limits : SourceClosureTransportLimits}

theorem readMember_path {value : JsonValue} {member : SourceClosureMember}
    (h : readMember hash unicode limits value = .ok member) : member.logicalPath ≠ [] := by
  rw [readMember, seq_eq_ok_iff] at h
  replace h := h.2
  split at h
  · cases h
  · split at h
    · rw [seq_eq_ok_iff] at h
      replace h := h.2
      dsimp only at h
      split at h
      · cases h
      · rename_i hvalid
        obtain rfl := Except.ok.inj h
        rw [SourceClosureMember.validate, bind_eq_ok_iff] at hvalid
        obtain ⟨expected, hfile, -⟩ := hvalid
        rw [sourceClosureFileId, bind_eq_ok_iff] at hfile
        obtain ⟨relative, hrelative, -⟩ := hfile
        rw [sourceClosureRelativePath, seq_eq_ok_iff, reject_eq_ok_iff] at hrelative
        simp only [Bool.or_eq_false_iff, List.isEmpty_eq_false_iff] at hrelative
        exact hrelative.1.1.1.1
    · cases h

/-- What was read stands behind `previous`, in ascending order. -/
theorem readMembers_sorted {previous : Bytes} {values : List JsonValue}
    {members : List SourceClosureMember}
    (h : readMembers hash unicode limits previous values = .ok members) :
    members.length = values.length ∧
      (previous ≠ [] → ∀ member ∈ members, previous < member.logicalPath) ∧
      members.Pairwise fun a b => a.logicalPath < b.logicalPath := by
  induction values generalizing previous members with
  | nil =>
      obtain rfl := Except.ok.inj h
      simp
  | cons value rest ih =>
      rw [readMembers, bind_eq_ok_iff] at h
      obtain ⟨member, hmember, h⟩ := h
      rw [seq_eq_ok_iff, reject_eq_ok_iff, bind_eq_ok_iff] at h
      obtain ⟨horder, others, hothers, h⟩ := h
      obtain rfl := Except.ok.inj h
      obtain ⟨hlength, hbehind, hsorted⟩ := ih hothers
      have hpath := readMember_path hmember
      have hfirst : previous ≠ [] → previous < member.logicalPath := by
        intro hne
        simpa [hne] using horder
      refine ⟨by simp [hlength], fun hne => List.forall_mem_cons.2 ⟨hfirst hne, ?_⟩,
        List.pairwise_cons.2 ⟨hbehind hpath, hsorted⟩⟩
      exact fun other hother => (hfirst hne).trans (hbehind hpath other hother)

end Members

section Blobs

variable {limits : SourceClosureTransportLimits}

theorem validContentDigest_ne_nil {digest : Bytes} (h : validContentDigest digest = true) :
    digest ≠ [] := by
  rintro rfl
  simp [validContentDigest, typedDigest] at h

/-- The blobs behind `previous` are in ascending order, and with `total` they stay within their
    limit. -/
theorem readBlobs_sorted (hlimits : limits.maximumBlobBytes ≤ limits.maximumUniqueBlobBytes)
    {previous : Bytes} {total sum : UInt64} {values : List JsonValue}
    {blobs : List SourceClosureBlob} (htotal : total ≤ limits.maximumUniqueBlobBytes)
    (h : readBlobs limits previous total values = .ok (blobs, sum)) :
    blobs.length = values.length ∧
      (previous ≠ [] → ∀ blob ∈ blobs, previous < blob.contentDigest) ∧
      blobs.Pairwise (fun a b => a.contentDigest < b.contentDigest) ∧
      (∀ blob ∈ blobs, validContentDigest blob.contentDigest = true ∧
        blob.sizeBytes ≤ limits.maximumBlobBytes) ∧
      total.toNat + (blobs.map fun blob => blob.sizeBytes.toNat).sum ≤
        limits.maximumUniqueBlobBytes.toNat := by
  induction values generalizing previous total blobs sum with
  | nil =>
      obtain ⟨rfl, -⟩ := Prod.mk.inj (Except.ok.inj h)
      simpa using UInt64.le_iff_toNat_le.1 htotal
  | cons value rest ih =>
      rw [readBlobs, seq_eq_ok_iff] at h
      replace h := h.2
      split at h
      · rename_i digest size _ _
        rw [seq_eq_ok_iff, reject_eq_ok_iff, bind_eq_ok_iff] at h
        obtain ⟨hvalue, ⟨others, sum'⟩, hothers, h⟩ := h
        obtain ⟨rfl, -⟩ := Prod.mk.inj (Except.ok.inj h)
        simp only [Bool.or_eq_false_iff, Bool.not_eq_false', decide_eq_false_iff_not,
          UInt64.not_lt] at hvalue
        obtain ⟨⟨⟨hdigest, hsize⟩, hroom⟩, horder⟩ := hvalue
        -- no difference and no sum leaves its range
        have hsizeNat := UInt64.le_iff_toNat_le.1 hsize
        have hlimitsNat := UInt64.le_iff_toNat_le.1 hlimits
        have hroomNat := UInt64.le_iff_toNat_le.1 hroom
        rw [UInt64.toNat_sub_of_le _ _ (UInt64.le_trans hsize hlimits)] at hroomNat
        have hmax := limits.maximumUniqueBlobBytes.toNat_lt
        have hsum : (total + size).toNat = total.toNat + size.toNat := by
          rw [UInt64.toNat_add, Nat.mod_eq_of_lt (by omega)]
        have htotal' : total + size ≤ limits.maximumUniqueBlobBytes := by
          rw [UInt64.le_iff_toNat_le, hsum]
          omega
        obtain ⟨hlength, hbehind, hsorted, hvalid, hbytes⟩ := ih htotal' hothers
        have hne := validContentDigest_ne_nil hdigest
        have hfirst : previous ≠ [] → previous < digest := by
          intro hprevious
          simpa [hprevious] using horder
        refine ⟨by simp [hlength], fun hprevious => List.forall_mem_cons.2 ⟨hfirst hprevious, ?_⟩,
          List.pairwise_cons.2 ⟨hbehind hne, hsorted⟩, List.forall_mem_cons.2 ⟨⟨hdigest, hsize⟩,
          hvalid⟩, ?_⟩
        · exact fun blob hblob => (hfirst hprevious).trans (hbehind hne blob hblob)
        · rw [List.map_cons, List.sum_cons]
          dsimp only
          rw [hsum] at hbytes
          omega
      · cases h

end Blobs

/-! ## Manifests -/

theorem canonicalJson_ne_nil {value : JsonValue} {names : List Bytes} {field : Bytes}
    (h : exactFields value names field = .ok ()) : canonicalJson value ≠ [] := by
  rw [exactFields, reject_eq_ok_iff] at h
  cases value with
  | object members => simp [canonicalJson]
  | _ => simp [hasExactMembers] at h

theorem readManifest_listed {hash : Bytes → Bytes} {unicode : UnicodeNfc}
    {limits : SourceClosureTransportLimits}
    (hlimits : limits.maximumBlobBytes ≤ limits.maximumUniqueBlobBytes)
    {descriptor : SourceClosureManifestDescriptor} {raw digest : Bytes}
    {snapshot : SourceClosureSnapshot} {total : UInt64}
    (h : readManifest hash unicode limits descriptor raw digest = .ok (snapshot, total)) :
    Listed limits snapshot ∧ raw ≠ [] ∧
      semanticDigest hash "cxxlens.source-closure-manifest.v1" raw = .ok digest := by
  rw [readManifest] at h
  split at h
  · cases h
  rw [seq_eq_ok_iff, seq_eq_ok_iff, reject_eq_ok_iff, seq_eq_ok_iff] at h
  obtain ⟨hcanonical, hdigest, hfields, h⟩ := h
  have hraw : raw ≠ [] := by
    rw [bne_eq_false_iff_eq] at hcanonical
    exact hcanonical ▸ canonicalJson_ne_nil hfields
  rw [reject_eq_ok_iff, decide_eq_false_iff_not, not_not] at hdigest
  split at h
  · cases h
  split at h
  · rw [seq_eq_ok_iff, reject_eq_ok_iff, bind_eq_ok_iff] at h
    obtain ⟨hcensus, members, hmembers, h⟩ := h
    rw [bind_eq_ok_iff] at h
    obtain ⟨⟨blobs, sum⟩, hblobs, h⟩ := h
    rw [seq_eq_ok_iff] at h
    obtain ⟨hreferences, h⟩ := h
    obtain ⟨rfl, -⟩ := Prod.mk.inj (Except.ok.inj h)
    obtain ⟨hmembersLength, -, hmembersSorted⟩ := readMembers_sorted hmembers
    obtain ⟨hblobsLength, -, hblobsSorted, hblobsValid, hbytes⟩ :=
      readBlobs_sorted hlimits (UInt64.zero_le) hblobs
    simp only [Bool.or_eq_false_iff, List.isEmpty_eq_false_iff, decide_eq_false_iff_not,
      not_lt, gt_iff_lt] at hcensus
    obtain ⟨⟨⟨hmembersNe, hmembersCount⟩, hblobsNe⟩, hblobsCount⟩ := hcensus
    refine ⟨⟨?_, ?_, hmembersLength ▸ hmembersCount, hblobsLength ▸ hblobsCount, hmembersSorted,
      hblobsSorted, hblobsValid, by simpa using hbytes, hreferences⟩, hraw, ?_⟩
    · exact List.ne_nil_of_length_pos (hmembersLength ▸ List.length_pos_of_ne_nil hmembersNe)
    · exact List.ne_nil_of_length_pos (hblobsLength ▸ List.length_pos_of_ne_nil hblobsNe)
    · exact toOption_eq_some_iff.1 hdigest
  · cases h

/-! ## References -/

theorem findBlob_eq_some {blobs : List SourceClosureBlob} {digest : Bytes}
    {blob : SourceClosureBlob} (h : findBlob blobs digest = some blob) :
    blobs[blobLowerBound blobs digest]? = some blob ∧ blob.contentDigest = digest := by
  rw [findBlob] at h
  rcases hfound : blobs[blobLowerBound blobs digest]? with _ | found
  · simp [hfound] at h
  · simp only [hfound] at h
    split_ifs at h with hdigest
    obtain rfl := Option.some.inj h
    exact ⟨rfl, hdigest⟩

/-- What is marked was marked before or is named by a member, and every member names a blob of its
    size. -/
theorem markReferences_spec {blobs : List SourceClosureBlob} {referenced marked : List Bool}
    {members : List SourceClosureMember}
    (h : markReferences blobs referenced members = .ok marked) :
    (∀ member ∈ members, ∃ blob ∈ blobs, blob.contentDigest = member.contentDigest ∧
      blob.sizeBytes = member.sizeBytes) ∧
    marked.length = referenced.length ∧
    ∀ k : Nat, marked[k]? = some true → referenced[k]? = some true ∨
      ∃ member ∈ members, ∃ blob, blobs[k]? = some blob ∧
        blob.contentDigest = member.contentDigest := by
  induction members generalizing referenced with
  | nil =>
      obtain rfl := Except.ok.inj h
      exact ⟨by simp, rfl, fun _ hk => .inl hk⟩
  | cons member rest ih =>
      rw [markReferences] at h
      rcases hfind : findBlob blobs member.contentDigest with _ | blob
      · simp [hfind] at h
      · simp only [hfind] at h
        rw [seq_eq_ok_iff, reject_eq_ok_iff] at h
        obtain ⟨hsize, h⟩ := h
        obtain ⟨hall, hlength, hmarked⟩ := ih h
        obtain ⟨hat, hdigest⟩ := findBlob_eq_some hfind
        have hblob : blob ∈ blobs := List.mem_of_getElem? hat
        refine ⟨List.forall_mem_cons.2 ⟨⟨blob, hblob, hdigest, by simpa using hsize⟩, hall⟩,
          by simpa using hlength, fun k hk => ?_⟩
        rcases hmarked k hk with hset | ⟨other, hother, found, hfound, heq⟩
        · by_cases hhere : blobLowerBound blobs member.contentDigest = k
          · exact .inr ⟨member, List.mem_cons_self, blob, hhere ▸ hat, hdigest⟩
          · rw [List.getElem?_set_ne hhere] at hset
            exact .inl hset
        · exact .inr ⟨other, List.mem_cons_of_mem _ hother, found, hfound, heq⟩

/-- The members name exactly the blobs. -/
theorem references_exact {snapshot : SourceClosureSnapshot}
    (h : validateManifestBlobReferences snapshot = .ok ()) :
    (∀ member ∈ snapshot.members, ∃ blob ∈ snapshot.blobs,
      blob.contentDigest = member.contentDigest ∧ blob.sizeBytes = member.sizeBytes) ∧
    ∀ blob ∈ snapshot.blobs, ∃ member ∈ snapshot.members,
      member.contentDigest = blob.contentDigest := by
  rw [validateManifestBlobReferences, bind_eq_ok_iff] at h
  obtain ⟨marked, hmarked, horphan⟩ := h
  rw [reject_eq_ok_iff] at horphan
  obtain ⟨hall, hlength, hnamed⟩ := markReferences_spec hmarked
  refine ⟨hall, fun blob hblob => ?_⟩
  obtain ⟨k, hk, hat⟩ := List.mem_iff_getElem.1 hblob
  have hlt : k < marked.length := by
    rw [hlength, List.length_replicate]
    exact hk
  have htrue : marked[k]? = some true := by
    rw [List.getElem?_eq_getElem hlt, Option.some.injEq]
    by_contra hfalse
    rw [Bool.not_eq_true] at hfalse
    have hmem : false ∈ marked := hfalse ▸ List.getElem_mem hlt
    simp [hmem] at horphan
  rcases hnamed k htrue with hbefore | ⟨member, hmember, found, hfound, heq⟩
  · rw [List.getElem?_replicate] at hbefore
    split_ifs at hbefore
    cases hbefore
  · rw [List.getElem?_eq_getElem hk, hat] at hfound
    obtain rfl := Option.some.inj hfound
    exact ⟨member, hmember, heq.symm⟩

end Cxxlens.Clang22
