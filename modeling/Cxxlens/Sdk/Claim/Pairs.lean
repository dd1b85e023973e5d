import Cxxlens.Sdk.Claim.Disagreement

set_option autoImplicit false

/-! # The pairs of a batch

`classify_pair` puts a pair in the canonical order of the occurrences. The order of two claims that
can be reported as a differential disagreement depends on their interpretations only, so claims with
one content stand for each other. -/

namespace Cxxlens.Sdk

open Fallible Collections
open CanonicalValue (appendCanonical)
open Framing (framed)

/-! ## Projections -/

theorem projection_eq_ok {value : Claim} {bytes : Bytes}
    (h : claimOccurrenceProjection value = .ok bytes) :
    value.occurrence.validate = .ok () ∧ bytes.length < 256 ^ 8 ∧
      bytes = appendCanonical value.occurrence := by
  obtain ⟨hvalid, hsize, rfl⟩ := CanonicalValue.canonicalBinary_eq_ok_iff.1 h
  exact ⟨hvalid, hsize.trans_lt (by decide), rfl⟩

/-- A projection determines what it encodes. -/
theorem occurrence_eq {a b : Claim} {bytes : Bytes} (ha : claimOccurrenceProjection a = .ok bytes)
    (hb : claimOccurrenceProjection b = .ok bytes) : a.occurrence = b.occurrence := by
  obtain ⟨hvalid, hsize, hbytes⟩ := projection_eq_ok ha
  obtain ⟨hvalid', hsize', hbytes'⟩ := projection_eq_ok hb
  refine (CanonicalValue.appendCanonical_append_inj hvalid hvalid' (hbytes ▸ hsize)
    (hbytes' ▸ hsize') (?_ : _ ++ ([] : Bytes) = _ ++ [])).1
  rw [← hbytes, ← hbytes']

theorem content_eq_of_projection {a b : Claim} {bytes : Bytes}
    (ha : claimOccurrenceProjection a = .ok bytes)
    (hb : claimOccurrenceProjection b = .ok bytes) : a.content = b.content := by
  have h := congrArg CanonicalValue.tuple (occurrence_eq ha hb)
  simp only [Claim.occurrence, CanonicalValue.fromTuple, List.cons.injEq] at h
  obtain ⟨-, -, -, -, hcontent, -⟩ := h
  exact fromString_injective hcontent

/-! ## The canonical order -/

theorem append_lt_append_iff (common a b : Bytes) : common ++ a < common ++ b ↔ a < b := by
  induction common with
  | nil => exact Iff.rfl
  | cons byte common ih =>
      rw [List.cons_append, List.cons_append, List.cons_lt_cons_iff]
      simp [ih]

/-- Texts that begin with different parts, none of which is a prefix of the other, are in the order
    of these parts. -/
theorem append_lt_append_of_not_prefix {a b : Bytes} (hab : ¬ a <+: b) (hba : ¬ b <+: a)
    (s t : Bytes) : a ++ s < b ++ t ↔ a < b := by
  induction a generalizing b with
  | nil => exact absurd (List.nil_prefix) hab
  | cons byte a ih =>
      cases b with
      | nil => exact absurd (List.nil_prefix) hba
      | cons other b =>
          rw [List.cons_append, List.cons_append, List.cons_lt_cons_iff, List.cons_lt_cons_iff]
          by_cases heq : byte = other
          · subst heq
            rw [List.cons_prefix_cons] at hab hba
            simp only [true_and] at hab hba
            rw [ih hab hba]
          · simp [heq]

/-- The interpretation as it stands in a projection. -/
def interpretationFrame (value : Claim) : Bytes :=
  framed (appendCanonical (.fromString value.interpretation))

/-- A projection up to the interpretation, and behind it. -/
theorem projection_split {value : Claim} {bytes : Bytes}
    (h : claimOccurrenceProjection value = .ok bytes) :
    (appendCanonical (.fromString value.interpretation)).length < 256 ^ 8 ∧
    ∃ rest, bytes = 0x05 :: (BigEndian.encode 8 16 ++
      (framed (appendCanonical (.fromString value.descriptor)) ++
        framed (appendCanonical (.fromString value.semanticKey)))) ++
      (interpretationFrame value ++ rest) := by
  obtain ⟨-, hsize, hbytes⟩ := projection_eq_ok h
  have hsplit : ∀ (a b c : CanonicalValue) (others : List CanonicalValue),
      appendCanonical (.fromTuple (a :: b :: c :: others)) =
        0x05 :: (BigEndian.encode 8 (others.length + 3) ++
          (framed (appendCanonical a) ++ framed (appendCanonical b))) ++
          (framed (appendCanonical c) ++ (others.map appendCanonical).flatMap framed) := by
    intro a b c others
    rw [CanonicalValue.appendCanonical_fromTuple]
    simp
  rw [Claim.occurrence, hsplit] at hbytes
  refine ⟨?_, _, hbytes⟩
  rw [hbytes] at hsize
  simp only [List.length_cons, List.length_append, Framing.length_framed] at hsize
  omega

/-- The order of claims of one functional key but different interpretations. -/
theorem claimOccurrenceLess_eq {a b : Claim} (hdescriptor : a.descriptor = b.descriptor)
    (hkey : a.semanticKey = b.semanticKey) (hinterpretation : a.interpretation ≠ b.interpretation)
    {x y : Bytes} (ha : claimOccurrenceProjection a = .ok x)
    (hb : claimOccurrenceProjection b = .ok y) :
    claimOccurrenceLess a b = .ok (bytesLess (interpretationFrame a) (interpretationFrame b)) := by
  obtain ⟨hsize, s, hs⟩ := projection_split ha
  obtain ⟨hsize', t, ht⟩ := projection_split hb
  have hne : ∀ {i j : Bytes}, i ≠ j → (appendCanonical (.fromString i)).length < 256 ^ 8 →
      (appendCanonical (.fromString j)).length < 256 ^ 8 →
      ¬ framed (appendCanonical (.fromString i)) <+: framed (appendCanonical (.fromString j)) := by
    rintro i j hij hi hj ⟨rest, hrest⟩
    have hframe := (Framing.framed_append_inj hi hj
      (hrest.trans (List.append_nil _).symm)).1
    rw [CanonicalValue.appendCanonical_fromString, CanonicalValue.appendCanonical_fromString,
      List.cons.injEq] at hframe
    rw [CanonicalValue.appendCanonical_fromString, List.length_cons, Framing.length_framed] at hi hj
    have htext := (Framing.framed_append_inj (by omega) (by omega)
      (by rw [hframe.2] : framed i ++ ([] : Bytes) = framed j ++ [])).1
    exact hij htext
  rw [claimOccurrenceLess, ha, ok_bind, hb, ok_bind, hs, ht, hdescriptor, hkey]
  refine congrArg Except.ok ?_
  rw [bytesLess, bytesLess, decide_eq_decide, append_lt_append_iff]
  exact append_lt_append_of_not_prefix (hne hinterpretation hsize hsize')
    (hne hinterpretation.symm hsize' hsize) s t

/-! ## Records -/

section Records

variable {hash : Bytes → Bytes} {engine : RelationEngine hash}

/-- The claim has a projection. -/
def Projected (value : Claim) : Prop :=
  ∃ bytes, claimOccurrenceProjection value = .ok bytes

/-- What `classify_pair` reports of two claims that disagree. -/
def pairRecord (engine : RelationEngine hash) (left right : Claim) : Disagreement :=
  if isSwapped left right = true then orderedRecord engine right left
  else orderedRecord engine left right

theorem isSwapped_eq {a b : Claim} {x y : Bytes} (ha : claimOccurrenceProjection a = .ok x)
    (hb : claimOccurrenceProjection b = .ok y) : isSwapped a b = bytesLess y x := by
  rw [isSwapped, claimOccurrenceLess, hb, ok_bind, ha, ok_bind]
  rfl

/-- The classification of a pair, where it succeeds. -/
theorem classifyPair_eq_ok {claims : List Claim} (hdigest : NoCollision engine claims)
    {a b : Claim} (hamem : a ∈ claims) (hbmem : b ∈ claims) {da db : RelationDescriptor}
    (ha : ValidClaim engine da a) (hb : ValidClaim engine db b) {found : List Disagreement}
    (h : classifyPair engine a b = .ok found) :
    (Disagree engine a b ∧ Projected a ∧ Projected b ∧ found = [pairRecord engine a b]) ∨
      (¬ Disagree engine a b ∧ found = []) := by
  rw [classifyPair, bind_eq_ok_iff] at h
  obtain ⟨swapped, hless, h⟩ := h
  have hprojected : Projected a ∧ Projected b := by
    rw [claimOccurrenceLess, bind_eq_ok_iff] at hless
    obtain ⟨y, hy, hless⟩ := hless
    rw [bind_eq_ok_iff] at hless
    obtain ⟨x, hx, -⟩ := hless
    exact ⟨⟨x, hx⟩, ⟨y, hy⟩⟩
  have hswapped : isSwapped a b = swapped := by
    rw [isSwapped, hless]
    rfl
  rw [pairRecord, hswapped]
  split at h
  · rename_i htrue
    rw [if_pos htrue]
    rcases classifyOrdered_eq_ok hdigest hbmem hamem hb ha h with ⟨hdis, rfl⟩ | ⟨hnot, rfl⟩
    · exact .inl ⟨hdis.symm, hprojected.1, hprojected.2, rfl⟩
    · exact .inr ⟨fun hdis => hnot hdis.symm, rfl⟩
  · rename_i hfalse
    rw [if_neg hfalse]
    rcases classifyOrdered_eq_ok hdigest hamem hbmem ha hb h with ⟨hdis, rfl⟩ | ⟨hnot, rfl⟩
    · exact .inl ⟨hdis, hprojected.1, hprojected.2, rfl⟩
    · exact .inr ⟨hnot, rfl⟩

/-- The record of a pair does not depend on which of the two is the new claim. -/
theorem pairRecord_comm {a b : Claim} (h : Disagree engine a b) (ha : Projected a)
    (hb : Projected b) : pairRecord engine a b = pairRecord engine b a := by
  obtain ⟨x, hx⟩ := ha
  obtain ⟨y, hy⟩ := hb
  have hne : x ≠ y := by
    rintro rfl
    exact h.content (content_eq_of_projection hx hy)
  rw [pairRecord, pairRecord, isSwapped_eq hx hy, isSwapped_eq hy hx]
  simp only [bytesLess, decide_eq_true_iff]
  rcases lt_or_gt_of_ne hne with hlt | hgt
  · rw [if_neg hlt.not_gt, if_pos hlt]
  · rw [if_pos hgt, if_neg hgt.not_gt]

/-- A record between claims of one interpretation is a conflict, canonical or not. -/
theorem pairRecord_conflict {a b : Claim} (h : Disagree engine a b)
    (hinterpretation : a.interpretation = b.interpretation) (ha : a.presence.validate = .ok ())
    (hb : b.presence.validate = .ok ()) :
    ∃ value, pairRecord engine a b = .conflict value ∧
      value.canonical = conflictRecord engine a b := by
  have hcanonical : ∀ {first second : Claim}, first.presence.validate = .ok () →
      canonicalStrings (commonFragments first second) = commonFragments first second :=
    fun hfirst => canonicalStrings_of_pairwise ((ClaimCondition.fragments_pairwise hfirst).filter _)
  rw [pairRecord]
  split
  · rw [orderedRecord, if_pos hinterpretation.symm]
    refine ⟨_, rfl, ?_⟩
    rw [conflictRecord_comm h hinterpretation ha hb, ClaimConflict.canonical, hcanonical hb]
    rfl
  · rw [orderedRecord, if_pos hinterpretation]
    refine ⟨_, rfl, ?_⟩
    rw [ClaimConflict.canonical, hcanonical ha]
    rfl

theorem pairRecord_differential {a b : Claim}
    (hinterpretation : a.interpretation ≠ b.interpretation) :
    pairRecord engine a b = .differential (differentialRecord engine a b) := by
  rw [pairRecord, differentialRecord]
  split
  · rw [orderedRecord, if_neg hinterpretation.symm]
  · rw [orderedRecord, if_neg hinterpretation]

/-! ## Claims with one content -/

theorem SameContent.symm {descriptor : RelationDescriptor} {a b : Claim}
    (h : SameContent descriptor a b) : SameContent descriptor b a :=
  ⟨h.descriptor.symm, h.semanticKey.symm, h.assertion.symm, h.content.symm,
    h.interpretation.symm, h.presence.symm, h.payload.symm⟩

theorem SameContent.disagree {descriptor : RelationDescriptor} {a a' b : Claim}
    (h : SameContent descriptor a a') (hfound : engine.requireId a.descriptor = .ok descriptor)
    (hdis : Disagree engine a b) : Disagree engine a' b := by
  obtain ⟨other, hother, hmerge, hne⟩ := hdis.payload
  rw [hfound] at hother
  obtain rfl := Except.ok.inj hother
  have hpayload := h.conflictPayload (engine.valid _ (requireId_eq_ok hfound).2) hmerge
  exact ⟨h.descriptor ▸ hdis.descriptor, h.semanticKey ▸ hdis.semanticKey,
    h.content ▸ hdis.content, ⟨descriptor, h.descriptor ▸ hfound, hmerge, hpayload ▸ hne⟩,
    h.presence ▸ hdis.universe, h.presence ▸ hdis.overlap⟩

theorem SameContent.conflictRecord {descriptor : RelationDescriptor} {a a' : Claim}
    (h : SameContent descriptor a a') (b : Claim) :
    conflictRecord engine a b = conflictRecord engine a' b := by
  simp only [Sdk.conflictRecord, relationOf_eq h.descriptor, h.semanticKey, h.interpretation,
    commonFragments, h.presence, h.assertion, h.content]

theorem SameContent.conflictRecord_right {descriptor : RelationDescriptor} {b b' : Claim}
    (h : SameContent descriptor b b') (a : Claim) :
    Sdk.conflictRecord engine a b = Sdk.conflictRecord engine a b' := by
  simp only [Sdk.conflictRecord, commonFragments, h.presence, h.assertion, h.content]

/-- The two sides of a differential disagreement, whichever claims stand for them. -/
theorem differentialRecord_congr {da db : RelationDescriptor} {a a' b b' : Claim}
    (ha : SameContent da a a') (hb : SameContent db b b') (hdis : Disagree engine a b)
    (hinterpretation : a.interpretation ≠ b.interpretation) (hpa : Projected a)
    (hpa' : Projected a') (hpb : Projected b) (hpb' : Projected b') :
    differentialRecord engine a b = differentialRecord engine a' b' := by
  have hswapped : isSwapped a b = isSwapped a' b' := by
    obtain ⟨x, hx⟩ := hpa
    obtain ⟨x', hx'⟩ := hpa'
    obtain ⟨y, hy⟩ := hpb
    obtain ⟨y', hy'⟩ := hpb'
    rw [isSwapped, isSwapped,
      claimOccurrenceLess_eq hdis.descriptor.symm hdis.semanticKey.symm hinterpretation.symm hy hx,
      claimOccurrenceLess_eq (ha.descriptor ▸ hb.descriptor ▸ hdis.descriptor.symm)
        (ha.semanticKey ▸ hb.semanticKey ▸ hdis.semanticKey.symm)
        (ha.interpretation ▸ hb.interpretation ▸ hinterpretation.symm) hy' hx',
      interpretationFrame, interpretationFrame, interpretationFrame, interpretationFrame,
      ha.interpretation, hb.interpretation]
  rw [differentialRecord, differentialRecord, hswapped]
  simp only [orderedDifferential, relationOf_eq ha.descriptor, relationOf_eq hb.descriptor,
    ha.semanticKey, hb.semanticKey, ha.interpretation, hb.interpretation, ha.content, hb.content,
    commonFragments, ha.presence, hb.presence]

end Records

end Cxxlens.Sdk
