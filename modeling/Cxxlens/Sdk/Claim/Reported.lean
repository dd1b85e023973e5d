import Cxxlens.Sdk.Claim.Commit

set_option autoImplicit false

/-! # The disagreements a commit reports

`commit` compares the claims it kept with each other and with the existing claims of distinct
contents. Every claim that was dropped has a representative with its content, and the record of a
pair depends on the contents only, so the records are those of all the pairs there are
(`reported_iff`). -/

namespace Cxxlens.Sdk

open Fallible Collections

/-! ## Canonical records -/

theorem UnresolvedReference.tie_injective : Function.Injective UnresolvedReference.tie := by
  intro a b h
  cases a
  cases b
  simpa [UnresolvedReference.tie] using h

theorem ClaimConflict.tie_injective : Function.Injective ClaimConflict.tie := by
  intro a b h
  cases a
  cases b
  simpa [ClaimConflict.tie] using h

theorem DifferentialDisagreement.tie_injective :
    Function.Injective DifferentialDisagreement.tie := by
  intro a b h
  cases a
  cases b
  simpa [DifferentialDisagreement.tie] using h

theorem same_iff_tie {α κ : Type} [DecidableEq α] {tie : α → κ} (htie : Function.Injective tie)
    (a b : α) : (a == b) = true ↔ tie a = tie b := by
  rw [beq_iff_eq, htie.eq_iff]

theorem mem_canonicalizeClaimConflicts (values : List ClaimConflict) (conflict : ClaimConflict) :
    conflict ∈ canonicalizeClaimConflicts values ↔
      ∃ value ∈ values, value.canonical = conflict := by
  rw [canonicalizeClaimConflicts,
    mem_sortUnique ClaimConflict.tie_injective (same_iff_tie ClaimConflict.tie_injective),
    List.mem_map]

theorem mem_canonicalDifferential (values : List DifferentialDisagreement)
    (value : DifferentialDisagreement) : value ∈ canonicalDifferential values ↔ value ∈ values :=
  mem_sortUnique DifferentialDisagreement.tie_injective
    (same_iff_tie DifferentialDisagreement.tie_injective) values value

theorem mem_conflictsOf (found : List Disagreement) (value : ClaimConflict) :
    value ∈ conflictsOf found ↔ .conflict value ∈ found := by
  rw [conflictsOf, List.mem_filterMap]
  constructor
  · rintro ⟨record, hrecord, heq⟩
    cases record with
    | conflict other =>
        obtain rfl := Option.some.inj heq
        exact hrecord
    | differential other => exact absurd heq (by simp)
  · intro h
    exact ⟨_, h, rfl⟩

theorem mem_differentialOf (found : List Disagreement) (value : DifferentialDisagreement) :
    value ∈ differentialOf found ↔ .differential value ∈ found := by
  rw [differentialOf, List.mem_filterMap]
  constructor
  · rintro ⟨record, hrecord, heq⟩
    cases record with
    | conflict other => exact absurd heq (by simp)
    | differential other =>
        obtain rfl := Option.some.inj heq
        exact hrecord
  · intro h
    exact ⟨_, h, rfl⟩

section Commit

variable {hash : Bytes → Bytes} {engine : RelationEngine hash}

/-! ## The phases of a commit -/

/-- The phases of a commit that succeeds. -/
theorem commit_eq_ok_iff {added existing : List Claim} {result : ClaimBatchResult} :
    commit engine added existing = .ok result ↔
      (∀ value ∈ added, validateClaim engine value = .ok ()) ∧
      (∀ value ∈ existing, validateClaim engine value = .ok ()) ∧
      ∃ unresolved ordered among prior against,
        resolveClaims engine (groupBy (relationOf engine) (existing ++ added)) [] added =
          .ok unresolved ∧
        sortClaimOccurrences added = .ok ordered ∧
        keepOccurrences engine none ordered = .ok result.claims ∧
        classifyAdded engine (addedByKey engine result.claims) = .ok among ∧
        orderedExisting existing = .ok prior ∧
        classifyExisting engine (addedByKey engine result.claims) prior = .ok against ∧
        result.unresolved = canonicalUnresolved unresolved ∧
        result.conflicts = canonicalizeClaimConflicts (conflictsOf (among ++ against)) ∧
        result.differentialDisagreements =
          canonicalDifferential (differentialOf (among ++ against)) ∧
        claimBatchContentDigest hash result.claims result.unresolved result.conflicts
          result.differentialDisagreements = .ok result.contentDigest := by
  rw [commit, seq_eq_ok_iff, seq_eq_ok_iff, firstError_eq_ok_iff, firstError_eq_ok_iff]
  simp only [bind_eq_ok_iff]
  refine and_congr_right fun hadded => and_congr_right fun hexisting => ?_
  constructor
  · rintro ⟨unresolved, hunresolved, ordered, hordered, kept, hkept, among, hamong, prior, hprior,
      against, hagainst, digest, hdigest, h⟩
    obtain rfl := Except.ok.inj h
    exact ⟨unresolved, ordered, among, prior, against, hunresolved, hordered, hkept, hamong, hprior,
      hagainst, rfl, rfl, rfl, hdigest⟩
  · rintro ⟨unresolved, ordered, among, prior, against, hunresolved, hordered, hkept, hamong, hprior,
      hagainst, hresult, hconflicts, hdifferential, hdigest⟩
    refine ⟨unresolved, hunresolved, ordered, hordered, result.claims, hkept, among, hamong, prior,
      hprior, against, hagainst, result.contentDigest, ?_, ?_⟩
    · rwa [hresult, hconflicts, hdifferential] at hdigest
    · rw [← hresult, ← hconflicts, ← hdifferential]

theorem allValid_of_validateClaim {claims : List Claim}
    (h : ∀ value ∈ claims, validateClaim engine value = .ok ()) : AllValid engine claims :=
  fun value hvalue => exists_validClaim (h value hvalue)

theorem AllValid.append {left right : List Claim} (hleft : AllValid engine left)
    (hright : AllValid engine right) : AllValid engine (left ++ right) := by
  intro value hvalue
  rcases List.mem_append.1 hvalue with h | h
  · exact hleft value h
  · exact hright value h

/-! ## Representatives -/

/-- A claim stands for another in the records of pairs. -/
structure Represents (engine : RelationEngine hash) (other value : Claim) : Prop where
  same : ∃ descriptor, engine.requireId value.descriptor = .ok descriptor ∧
    SameContent descriptor value other
  projected : other = value ∨ (Projected other ∧ Projected value)

theorem represents_of_content {claims : List Claim} (hvalid : AllValid engine claims)
    (hdigest : NoCollision engine claims) {other value : Claim} (hother : other ∈ claims)
    (hvalue : value ∈ claims) (hcontent : other.content = value.content)
    (hprojected : other = value ∨ (Projected other ∧ Projected value)) :
    Represents engine other value := by
  obtain ⟨descriptor, hdescriptor⟩ := hvalid value hvalue
  obtain ⟨descriptor', hdescriptor'⟩ := hvalid other hother
  obtain ⟨-, hsame⟩ := sameContent hdigest hvalue hother hdescriptor hdescriptor' hcontent.symm
  exact ⟨⟨descriptor, hdescriptor.found, hsame⟩, hprojected⟩

theorem Represents.projected_of {other value : Claim} (h : Represents engine other value)
    (hother : Projected other) : Projected value := by
  rcases h.projected with rfl | ⟨-, hvalue⟩
  · exact hother
  · exact hvalue

/-- What represents the two sides of a disagreement disagrees, and gives the same records. -/
theorem Represents.disagree {x x' y y' : Claim} (hx : Represents engine x' x)
    (hy : Represents engine y' y) (h : Disagree engine x y) :
    Disagree engine x' y' ∧ conflictRecord engine x y = conflictRecord engine x' y' ∧
      (x.interpretation = y.interpretation ↔ x'.interpretation = y'.interpretation) := by
  obtain ⟨dx, hdx, hsamex⟩ := hx.same
  obtain ⟨dy, hdy, hsamey⟩ := hy.same
  have hx' : Disagree engine x' y := hsamex.disagree hdx h
  have hy' : Disagree engine y' x' := hsamey.disagree hdy hx'.symm
  refine ⟨hy'.symm, ?_, ?_⟩
  · rw [hsamex.conflictRecord, hsamey.conflictRecord_right]
  · rw [hsamex.interpretation, hsamey.interpretation]

theorem Represents.differentialRecord {x x' y y' : Claim} (hx : Represents engine x' x)
    (hy : Represents engine y' y) (h : Disagree engine x y)
    (hinterpretation : x.interpretation ≠ y.interpretation) (hpx : Projected x') (hpy : Projected y') :
    differentialRecord engine x y = differentialRecord engine x' y' := by
  obtain ⟨dx, -, hsamex⟩ := hx.same
  obtain ⟨dy, -, hsamey⟩ := hy.same
  exact differentialRecord_congr hsamex hsamey h hinterpretation (hx.projected_of hpx) hpx
    (hy.projected_of hpy) hpy

/-- The claims that a commit compares stand for all that were added or existed before. -/
theorem exists_representative {added existing ordered claims prior : List Claim}
    (hvalid : AllValid engine (added ++ existing)) (hdigest : NoCollision engine (added ++ existing))
    (hordered : sortClaimOccurrences added = .ok ordered)
    (hclaims : keepOccurrences engine none ordered = .ok claims)
    (hprior : orderedExisting existing = .ok prior) :
    (∀ x ∈ added, ∃ x' ∈ claims, Represents engine x' x) ∧
      ∀ y ∈ added ++ existing, ∃ y' ∈ claims ++ prior, Represents engine y' y := by
  have hperm := sortClaimOccurrences_perm hordered
  have hprojected := ((sortClaimOccurrences_eq_ok_iff _ _).1 hordered).1
  have hadded : ∀ x ∈ added, ∃ x' ∈ claims, Represents engine x' x := by
    intro x hx
    have hall : ∀ value ∈ ordered, Projected value :=
      fun value hvalue => hprojected value (hperm.mem_iff.1 hvalue)
    rcases exists_mem_keepOccurrences hall hclaims x (hperm.mem_iff.2 hx) with
      ⟨other, hother, -⟩ | ⟨other, hother, bytes, hbytes, hbytes'⟩
    · exact absurd hother (by simp)
    · have hmem := hperm.mem_iff.1 (mem_of_mem_keepOccurrences hclaims other hother)
      exact ⟨other, hother, represents_of_content hvalid hdigest (List.mem_append_left _ hmem)
        (List.mem_append_left _ hx) (content_eq_of_projection hbytes hbytes')
        (.inr ⟨⟨bytes, hbytes⟩, ⟨bytes, hbytes'⟩⟩)⟩
  refine ⟨hadded, ?_⟩
  intro y hy
  rcases List.mem_append.1 hy with hy | hy
  · obtain ⟨y', hy', hrepresents⟩ := hadded y hy
    exact ⟨y', List.mem_append_left _ hy', hrepresents⟩
  · obtain ⟨hsubset, hcover⟩ := orderedExisting_spec hprior
    obtain ⟨other, hother, hcontent, hprojected⟩ := hcover y hy
    exact ⟨other, List.mem_append_right _ hother, represents_of_content hvalid hdigest
      (List.mem_append_right _ (hsubset other hother)) (List.mem_append_right _ hy) hcontent
      hprojected⟩

/-! ## The reported pairs -/

/-- The comparisons of a commit got to their end, with the claims that were kept and what was
    found. -/
structure Compared (engine : RelationEngine hash) (added existing claims : List Claim)
    (found : List Disagreement) : Prop where
  valid : AllValid engine (added ++ existing)
  kept : ∃ ordered, sortClaimOccurrences added = .ok ordered ∧
    keepOccurrences engine none ordered = .ok claims
  compared : ∃ among prior against,
    classifyAdded engine (addedByKey engine claims) = .ok among ∧
    orderedExisting existing = .ok prior ∧
    classifyExisting engine (addedByKey engine claims) prior = .ok against ∧
    found = among ++ against

theorem compared_of_commit {added existing : List Claim} {result : ClaimBatchResult}
    (h : commit engine added existing = .ok result) :
    ∃ found, Compared engine added existing result.claims found ∧
      result.conflicts = canonicalizeClaimConflicts (conflictsOf found) ∧
      result.differentialDisagreements = canonicalDifferential (differentialOf found) := by
  obtain ⟨hadded, hexisting, unresolved, ordered, among, prior, against, -, hordered, hclaims, hamong,
    hprior, hagainst, -, hconflicts, hdifferential, -⟩ := commit_eq_ok_iff.1 h
  exact ⟨among ++ against, ⟨(allValid_of_validateClaim hadded).append
    (allValid_of_validateClaim hexisting), ⟨ordered, hordered, hclaims⟩,
    ⟨among, prior, against, hamong, hprior, hagainst, rfl⟩⟩, hconflicts, hdifferential⟩

/-- The records before they are put in order are those of the compared pairs. -/
theorem Compared.found_iff {added existing claims : List Claim} {found : List Disagreement}
    (h : Compared engine added existing claims found)
    (hdigest : NoCollision engine (added ++ existing)) :
    ∃ prior,
      (∀ x ∈ claims, x ∈ added) ∧ (∀ y ∈ prior, y ∈ existing) ∧
      (∀ x ∈ added, ∃ x' ∈ claims, Represents engine x' x) ∧
      (∀ y ∈ added ++ existing, ∃ y' ∈ claims ++ prior, Represents engine y' y) ∧
      (∀ x ∈ claims, ∀ y ∈ claims ++ prior, Disagree engine x y → Projected x ∧ Projected y) ∧
      ∀ d, d ∈ found ↔
        ∃ x ∈ claims, ∃ y ∈ claims ++ prior, Disagree engine x y ∧ d = pairRecord engine x y := by
  obtain ⟨hvalid, ⟨ordered, hordered, hclaims⟩, among, prior, against, hamong, hprior, hagainst,
    rfl⟩ := h
  have hperm := sortClaimOccurrences_perm hordered
  have hprojected := ((sortClaimOccurrences_eq_ok_iff _ _).1 hordered).1
  have hsubset : ∀ x ∈ claims, x ∈ added :=
    fun x hx => hperm.mem_iff.1 (mem_of_mem_keepOccurrences hclaims x hx)
  have hpriorsubset := (orderedExisting_spec hprior).1
  obtain ⟨hcover, hcoverall⟩ := exists_representative hvalid hdigest hordered hclaims hprior
  have hamongmem := mem_classifyAdded_iff
    (fun x hx => hvalid x (List.mem_append_left _ (hsubset x hx)))
    (hdigest.mono fun x hx => List.mem_append_left _ (hsubset x hx)) hamong
  obtain ⟨hboth, hagainstmem⟩ := mem_classifyExisting_iff hvalid hdigest
    (fun x hx => List.mem_append_left _ (hsubset x hx))
    (fun y hy => List.mem_append_right _ (hpriorsubset y hy)) hagainst
  have hpair : ∀ x ∈ claims, ∀ y ∈ claims ++ prior, Disagree engine x y →
      Projected x ∧ Projected y := by
    intro x hx y hy hdis
    rcases List.mem_append.1 hy with hy | hy
    · exact ⟨hprojected x (hsubset x hx), hprojected y (hsubset y hy)⟩
    · exact hboth x hx y hy hdis
  refine ⟨prior, hsubset, hpriorsubset, hcover, hcoverall, hpair, ?_⟩
  intro d
  rw [List.mem_append, hamongmem, hagainstmem]
  constructor
  · rintro (⟨x, hx, y, hy, hdis, -, -, rfl⟩ | ⟨x, hx, y, hy, hdis, rfl⟩)
    · exact ⟨x, hx, y, List.mem_append_left _ hy, hdis, rfl⟩
    · exact ⟨x, hx, y, List.mem_append_right _ hy, hdis, rfl⟩
  · rintro ⟨x, hx, y, hy, hdis, rfl⟩
    obtain ⟨hpx, hpy⟩ := hpair x hx y hy hdis
    rcases List.mem_append.1 hy with hy | hy
    · exact .inl ⟨x, hx, y, hy, hdis, hpx, hpy, rfl⟩
    · exact .inr ⟨x, hx, y, hy, hdis, rfl⟩

/-- A new claim and a new or existing one that disagree under one interpretation. -/
def ReportedConflict (engine : RelationEngine hash) (added existing : List Claim)
    (conflict : ClaimConflict) : Prop :=
  ∃ x ∈ added, ∃ y ∈ added ++ existing, Disagree engine x y ∧
    x.interpretation = y.interpretation ∧ conflict = conflictRecord engine x y

/-- A new claim and a new or existing one that disagree under different interpretations. -/
def ReportedDifferential (engine : RelationEngine hash) (added existing : List Claim)
    (differential : DifferentialDisagreement) : Prop :=
  ∃ x ∈ added, ∃ y ∈ added ++ existing, Disagree engine x y ∧
    x.interpretation ≠ y.interpretation ∧ differential = differentialRecord engine x y

/-- The conflicts that were found, once they are in order. -/
theorem Compared.conflict_iff {added existing claims : List Claim} {found : List Disagreement}
    (h : Compared engine added existing claims found)
    (hdigest : NoCollision engine (added ++ existing)) (conflict : ClaimConflict) :
    conflict ∈ canonicalizeClaimConflicts (conflictsOf found) ↔
      ReportedConflict engine added existing conflict := by
  obtain ⟨prior, hsubset, hprior, hcover, hcoverall, -, hfound⟩ := h.found_iff hdigest
  have hpresence : ∀ value ∈ added ++ existing, value.presence.validate = .ok () := by
    intro value hvalue
    obtain ⟨descriptor, hdescriptor⟩ := h.valid value hvalue
    exact hdescriptor.presence
  have hin : ∀ y ∈ claims ++ prior, y ∈ added ++ existing := by
    intro y hy
    rcases List.mem_append.1 hy with hy | hy
    · exact List.mem_append_left _ (hsubset y hy)
    · exact List.mem_append_right _ (hprior y hy)
  rw [mem_canonicalizeClaimConflicts]
  constructor
  · rintro ⟨value, hvalue, rfl⟩
    rw [mem_conflictsOf, hfound] at hvalue
    obtain ⟨x, hx, y, hy, hdis, hrecord⟩ := hvalue
    by_cases hinterpretation : x.interpretation = y.interpretation
    · obtain ⟨value', hvalue', hcanonical⟩ := pairRecord_conflict hdis hinterpretation
        (hpresence x (List.mem_append_left _ (hsubset x hx))) (hpresence y (hin y hy))
      obtain rfl := Disagreement.conflict.inj (hrecord.trans hvalue')
      exact ⟨x, hsubset x hx, y, hin y hy, hdis, hinterpretation, hcanonical⟩
    · rw [pairRecord_differential hinterpretation] at hrecord
      exact absurd hrecord (by simp)
  · rintro ⟨x, hx, y, hy, hdis, hinterpretation, rfl⟩
    obtain ⟨x', hx', hrepx⟩ := hcover x hx
    obtain ⟨y', hy', hrepy⟩ := hcoverall y hy
    obtain ⟨hdis', hrecord, hsame⟩ := hrepx.disagree hrepy hdis
    obtain ⟨value, hvalue, hcanonical⟩ := pairRecord_conflict hdis' (hsame.1 hinterpretation)
      (hpresence x' (List.mem_append_left _ (hsubset x' hx'))) (hpresence y' (hin y' hy'))
    refine ⟨value, ?_, hcanonical.trans hrecord.symm⟩
    rw [mem_conflictsOf, hfound]
    exact ⟨x', hx', y', hy', hdis', hvalue.symm⟩

theorem Compared.differential_iff {added existing claims : List Claim} {found : List Disagreement}
    (h : Compared engine added existing claims found)
    (hdigest : NoCollision engine (added ++ existing)) (differential : DifferentialDisagreement) :
    differential ∈ canonicalDifferential (differentialOf found) ↔
      ReportedDifferential engine added existing differential := by
  obtain ⟨prior, hsubset, hprior, hcover, hcoverall, hprojected, hfound⟩ := h.found_iff hdigest
  rw [mem_canonicalDifferential, mem_differentialOf, hfound]
  constructor
  · rintro ⟨x, hx, y, hy, hdis, hrecord⟩
    have hyin : y ∈ added ++ existing := by
      rcases List.mem_append.1 hy with hy | hy
      · exact List.mem_append_left _ (hsubset y hy)
      · exact List.mem_append_right _ (hprior y hy)
    by_cases hinterpretation : x.interpretation = y.interpretation
    · rw [pairRecord] at hrecord
      split at hrecord
      · rw [orderedRecord, if_pos hinterpretation.symm] at hrecord
        exact absurd hrecord (by simp)
      · rw [orderedRecord, if_pos hinterpretation] at hrecord
        exact absurd hrecord (by simp)
    · rw [pairRecord_differential hinterpretation] at hrecord
      exact ⟨x, hsubset x hx, y, hyin, hdis, hinterpretation, Disagreement.differential.inj hrecord⟩
  · rintro ⟨x, hx, y, hy, hdis, hinterpretation, rfl⟩
    obtain ⟨x', hx', hrepx⟩ := hcover x hx
    obtain ⟨y', hy', hrepy⟩ := hcoverall y hy
    obtain ⟨hdis', -, hsame⟩ := hrepx.disagree hrepy hdis
    obtain ⟨hpx, hpy⟩ := hprojected x' hx' y' hy' hdis'
    refine ⟨x', hx', y', hy', hdis', ?_⟩
    rw [pairRecord_differential (fun heq => hinterpretation (hsame.2 heq)),
      hrepx.differentialRecord hrepy hdis hinterpretation hpx hpy]

theorem mem_conflicts_iff {added existing : List Claim} {result : ClaimBatchResult}
    (hdigest : NoCollision engine (added ++ existing))
    (h : commit engine added existing = .ok result) (conflict : ClaimConflict) :
    conflict ∈ result.conflicts ↔ ReportedConflict engine added existing conflict := by
  obtain ⟨found, hcompared, hconflicts, -⟩ := compared_of_commit h
  rw [hconflicts, hcompared.conflict_iff hdigest]

theorem mem_differential_iff {added existing : List Claim} {result : ClaimBatchResult}
    (hdigest : NoCollision engine (added ++ existing))
    (h : commit engine added existing = .ok result) (differential : DifferentialDisagreement) :
    differential ∈ result.differentialDisagreements ↔
      ReportedDifferential engine added existing differential := by
  obtain ⟨found, hcompared, -, hdifferential⟩ := compared_of_commit h
  rw [hdifferential, hcompared.differential_iff hdigest]

/-! ## Samples

A functional relation with a key and a payload, and two claims of one key that disagree. -/

/-- A hash of one byte. -/
def sampleHash (input : Bytes) : Bytes :=
  [UInt8.ofNat (BigEndian.decode input % 251)]

def sampleDescriptor : RelationDescriptor where
  id := "a.b.v1"
  name := "a.b"
  version := { major := 1, minor := 0, patch := 0 }
  semantics := "ab/1"
  ownerNamespace := "a"
  descriptorDigest := "semantic-v2:sha256:a4"
  columns := [{ id := "a.b.v1.k", name := "k", type := {}, role := .claimKey },
    { id := "a.b.v1.p", name := "p", type := {} }]
  keyColumns := ["a.b.v1.k"]
  merge := .functionalAssertion
  conflictColumns := ["a.b.v1.p"]

def sampleEngine : RelationEngine sampleHash where
  descriptors := [sampleDescriptor]
  ordered := by decide
  valid := by
    intro descriptor hdescriptor
    obtain rfl := List.mem_singleton.1 hdescriptor
    decide +kernel
  distinct := by decide

def sampleRow (payload : Bytes) : DetachedRow where
  descriptorId := "a.b.v1"
  cells := [("a.b.v1.k", { type := {}, value := some (.string "k") }),
    ("a.b.v1.p", { type := {}, value := some (.string payload) })]
  ordered := by
    simp only [List.map_cons, List.map_nil]
    decide

def sampleClaim (payload content : Bytes) : Claim where
  row := sampleRow payload
  descriptor := "a.b.v1"
  semanticKey := "semantic-key:sha256:df"
  assertion := "assertion:sha256:12"
  content := content
  presence := { «universe» := "u", fragments := ["f", "g"] }
  interpretation := "i"
  producer := { id := "p", semanticContract := "c" }
  inputBasis := .direct (ascii "sha256:" ++ List.replicate 64 0x30)
  provenanceRoot := "r"
  guarantee := { approximation := "exact", scope := "s", assumptions := "n",
                 verificationModalities := [] }

theorem sampleClaim_interpretation {payload content : Bytes} :
    (sampleClaim payload content).interpretation = "i" := rfl

def firstSample : Claim := sampleClaim "x" "claim-content:sha256:06"

def secondSample : Claim := sampleClaim "y" "claim-content:sha256:07"

/-- The hash tells the inputs of the sample claims apart. -/
theorem noCollision_samples : NoCollision sampleEngine [firstSample, secondSample] := by
  have hfound : sampleEngine.requireId "a.b.v1" = .ok sampleDescriptor := by decide
  have hdistinct : ∀ left ∈ digestInputs sampleDescriptor firstSample ++
      digestInputs sampleDescriptor secondSample,
      ∀ right ∈ digestInputs sampleDescriptor firstSample ++
        digestInputs sampleDescriptor secondSample,
      sampleHash left = sampleHash right → left = right := by
    set_option maxRecDepth 20000 in decide
  have hinputs : ∀ input, (∃ value ∈ [firstSample, secondSample], ∃ descriptor,
      sampleEngine.requireId value.descriptor = .ok descriptor ∧
        input ∈ digestInputs descriptor value) →
      input ∈ digestInputs sampleDescriptor firstSample ++
        digestInputs sampleDescriptor secondSample := by
    rintro input ⟨value, hvalue, descriptor, hdescriptor, hinput⟩
    rw [List.mem_append]
    rcases List.mem_pair.1 hvalue with rfl | rfl
    · obtain rfl := Except.ok.inj (hfound.symm.trans hdescriptor)
      exact .inl hinput
    · obtain rfl := Except.ok.inj (hfound.symm.trans hdescriptor)
      exact .inr hinput
  intro left hleft right hright heq
  exact hdistinct left (hinputs left hleft) right (hinputs right hright) heq

/-- The sample claims are valid, and every way to commit them succeeds. -/
theorem samples_commit :
    (validateClaim sampleEngine firstSample = .ok () ∧
        validateClaim sampleEngine secondSample = .ok ()) ∧
      (commit sampleEngine [firstSample] []).isOk = true ∧
      (commit sampleEngine [firstSample] [secondSample]).isOk = true ∧
      (commit sampleEngine [secondSample] ([] ++ [firstSample])).isOk = true ∧
      (commit sampleEngine ([firstSample] ++ [secondSample]) []).isOk = true := by
  decide +kernel

/-- Sample claims disagree as soon as their payloads do. -/
theorem disagree_sampleClaim {payload payload' content content' : Bytes} (hcontent : content ≠ content')
    (hpayload : rowTuple (sampleRow payload) sampleDescriptor.conflictColumns ≠
      rowTuple (sampleRow payload') sampleDescriptor.conflictColumns)
    (hfound : sampleEngine.requireId "a.b.v1" = .ok sampleDescriptor) :
    Disagree sampleEngine (sampleClaim payload content) (sampleClaim payload' content') where
  descriptor := rfl
  semanticKey := rfl
  content := hcontent
  payload := ⟨sampleDescriptor, hfound, rfl, hpayload⟩
  «universe» := rfl
  overlap := ⟨"f", List.mem_cons_self, List.mem_cons_self⟩

theorem disagree_samples : Disagree sampleEngine firstSample secondSample :=
  disagree_sampleClaim (by decide)
    (fun h => absurd (congrArg CanonicalValue.appendCanonical h) (by decide))
    (by decide)

/-- A successful commit reports exactly the disagreements between a new claim and a new or existing
    one. -/
theorem commit_disagreements {added existing : List Claim} {result : ClaimBatchResult}
    (hdigest : NoCollision engine (added ++ existing))
    (h : commit engine added existing = .ok result) :
    (∀ conflict, conflict ∈ result.conflicts ↔
      ∃ x ∈ added, ∃ y ∈ added ++ existing, Disagree engine x y ∧
        x.interpretation = y.interpretation ∧ conflict = conflictRecord engine x y) ∧
    ∀ differential, differential ∈ result.differentialDisagreements ↔
      ∃ x ∈ added, ∃ y ∈ added ++ existing, Disagree engine x y ∧
        x.interpretation ≠ y.interpretation ∧ differential = differentialRecord engine x y :=
  ⟨mem_conflicts_iff hdigest h, mem_differential_iff hdigest h⟩

theorem commit_disagreements_sample :
    ∃ result, commit sampleEngine [firstSample] [secondSample] = .ok result ∧
      conflictRecord sampleEngine firstSample secondSample ∈ result.conflicts := by
  obtain ⟨-, -, hcommits, -⟩ := samples_commit
  obtain ⟨result, hresult⟩ := exists_eq_ok_of_isOk hcommits
  refine ⟨result, hresult, ?_⟩
  rw [(commit_disagreements noCollision_samples hresult).1]
  exact ⟨firstSample, List.mem_cons_self, secondSample, List.mem_cons_of_mem _ List.mem_cons_self,
    disagree_samples, sampleClaim_interpretation.trans sampleClaim_interpretation.symm, rfl⟩

/-! ## A batch in two parts -/

/-- A differential disagreement has no order. -/
theorem differentialRecord_comm {x y : Claim} (h : Disagree engine x y)
    (hinterpretation : x.interpretation ≠ y.interpretation) (hx : Projected x) (hy : Projected y) :
    differentialRecord engine x y = differentialRecord engine y x := by
  have hrecord := pairRecord_comm h hx hy
  rw [pairRecord_differential hinterpretation, pairRecord_differential hinterpretation.symm] at hrecord
  exact Disagreement.differential.inj hrecord

theorem commit_valid {added existing : List Claim} {result : ClaimBatchResult}
    (h : commit engine added existing = .ok result) :
    ∀ x ∈ added, x.presence.validate = .ok () ∧ Projected x := by
  obtain ⟨hadded, -, -, ordered, -, -, -, -, hordered, -⟩ := commit_eq_ok_iff.1 h
  intro x hx
  obtain ⟨descriptor, hvalid⟩ := allValid_of_validateClaim hadded x hx
  exact ⟨hvalid.presence, ((sortClaimOccurrences_eq_ok_iff _ _).1 hordered).1 x hx⟩

/-- Pairs of a batch in two parts: the parts' own, those with an existing claim, and those across. -/
theorem exists_pair_append_iff {R : Claim → Claim → Prop} {first second existing : List Claim}
    (hsymm : ∀ x ∈ first, ∀ y ∈ second, R x y → R y x) :
    (∃ x ∈ first ++ second, ∃ y ∈ first ++ second ++ existing, R x y) ↔
      (∃ x ∈ first, ∃ y ∈ first ++ existing, R x y) ∨
        ∃ x ∈ second, ∃ y ∈ second ++ (existing ++ first), R x y := by
  simp only [List.mem_append]
  constructor
  · rintro ⟨x, hx, y, hy, hR⟩
    rcases hx with hx | hx
    · rcases hy with (hy | hy) | hy
      · exact .inl ⟨x, hx, y, .inl hy, hR⟩
      · -- the second part sees the pair the other way round
        exact .inr ⟨y, hy, x, .inr (.inr hx), hsymm x hx y hy hR⟩
      · exact .inl ⟨x, hx, y, .inr hy, hR⟩
    · refine .inr ⟨x, hx, y, ?_, hR⟩
      tauto
  · rintro (⟨x, hx, y, hy, hR⟩ | ⟨x, hx, y, hy, hR⟩)
    · refine ⟨x, .inl hx, y, ?_, hR⟩
      tauto
    · refine ⟨x, .inr hx, y, ?_, hR⟩
      tauto

/-- Two commits one after the other report what one commit of both parts reports. -/
theorem commit_append {first second existing : List Claim}
    {result firstResult secondResult : ClaimBatchResult}
    (hdigest : NoCollision engine (first ++ second ++ existing))
    (h : commit engine (first ++ second) existing = .ok result)
    (hfirst : commit engine first existing = .ok firstResult)
    (hsecond : commit engine second (existing ++ first) = .ok secondResult) :
    (∀ conflict, conflict ∈ result.conflicts ↔
      conflict ∈ firstResult.conflicts ∨ conflict ∈ secondResult.conflicts) ∧
    ∀ differential, differential ∈ result.differentialDisagreements ↔
      differential ∈ firstResult.differentialDisagreements ∨
        differential ∈ secondResult.differentialDisagreements := by
  have hdigest₁ : NoCollision engine (first ++ existing) := by
    refine hdigest.mono fun value hvalue => ?_
    simp only [List.mem_append] at hvalue ⊢
    tauto
  have hdigest₂ : NoCollision engine (second ++ (existing ++ first)) := by
    refine hdigest.mono fun value hvalue => ?_
    simp only [List.mem_append] at hvalue ⊢
    tauto
  have hvalid₁ := commit_valid hfirst
  have hvalid₂ := commit_valid hsecond
  refine ⟨?_, ?_⟩
  · intro conflict
    rw [mem_conflicts_iff hdigest h, mem_conflicts_iff hdigest₁ hfirst,
      mem_conflicts_iff hdigest₂ hsecond]
    refine exists_pair_append_iff ?_
    rintro x hx y hy ⟨hdis, hinterpretation, rfl⟩
    exact ⟨hdis.symm, hinterpretation.symm,
      conflictRecord_comm hdis hinterpretation (hvalid₁ x hx).1 (hvalid₂ y hy).1⟩
  · intro differential
    rw [mem_differential_iff hdigest h, mem_differential_iff hdigest₁ hfirst,
      mem_differential_iff hdigest₂ hsecond]
    refine exists_pair_append_iff ?_
    rintro x hx y hy ⟨hdis, hinterpretation, rfl⟩
    exact ⟨hdis.symm, hinterpretation.symm,
      differentialRecord_comm hdis hinterpretation (hvalid₁ x hx).2 (hvalid₂ y hy).2⟩

theorem commit_append_sample :
    ∃ result firstResult secondResult,
      commit sampleEngine ([firstSample] ++ [secondSample]) [] = .ok result ∧
      commit sampleEngine [firstSample] [] = .ok firstResult ∧
      commit sampleEngine [secondSample] ([] ++ [firstSample]) = .ok secondResult ∧
      ∀ conflict, conflict ∈ result.conflicts ↔
        conflict ∈ firstResult.conflicts ∨ conflict ∈ secondResult.conflicts := by
  obtain ⟨-, hcommitsFirst, -, hcommitsSecond, hcommits⟩ := samples_commit
  obtain ⟨result, h⟩ := exists_eq_ok_of_isOk hcommits
  obtain ⟨firstResult, hfirst⟩ := exists_eq_ok_of_isOk hcommitsFirst
  obtain ⟨secondResult, hsecond⟩ := exists_eq_ok_of_isOk hcommitsSecond
  exact ⟨result, firstResult, secondResult, h, hfirst, hsecond,
    (commit_append noCollision_samples h hfirst hsecond).1⟩

end Commit

end Cxxlens.Sdk
