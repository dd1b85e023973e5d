import Cxxlens.Sdk.CanonicalCodec
import Cxxlens.Sdk.Claim.Batch
import Cxxlens.Sdk.Decimal

set_option autoImplicit false

/-! # What the identities of a claim determine

A digest determines what was hashed as long as no two of the hashed inputs collide. The content of a
valid claim then determines its assertion, its condition, its interpretation and its payload. -/

namespace Cxxlens.Sdk

open Fallible Collections
open Framing (framed)

/-! ## Texts -/

/-- A text behind its length says where it ends. -/
theorem sized_append_inj {a b s t : Bytes} (h : sized a ++ s = sized b ++ t) : a = b ∧ s = t := by
  have hcolon : ∀ (value : Nat) (rest : Bytes),
      (CanonicalValue.decimal value ++ 0x3a :: rest).takeWhile (fun byte => byte != 0x3a) =
        CanonicalValue.decimal value := by
    intro value rest
    rw [List.takeWhile_append_of_pos, List.takeWhile_cons_of_neg (by decide), List.append_nil]
    intro byte hbyte
    have hdigit := isDigit_decimal hbyte
    rw [bne_iff_ne]
    rintro rfl
    exact absurd hdigit (by decide)
  rw [sized, sized, List.append_assoc, List.append_assoc, List.cons_append, List.cons_append] at h
  have hdecimal := congrArg (List.takeWhile fun byte => byte != 0x3a) h
  rw [hcolon, hcolon] at hdecimal
  have hlength := decimal_injective hdecimal
  rw [hdecimal] at h
  exact List.append_inj (List.cons.inj (List.append_cancel_left h)).2 hlength

theorem fragments_inj {a b : List Bytes}
    (h : a.flatMap (fun fragment => 0x3b :: sized fragment) =
      b.flatMap (fun fragment => 0x3b :: sized fragment)) : a = b := by
  induction a generalizing b with
  | nil =>
      cases b with
      | nil => rfl
      | cons fragment b => exact absurd h (by simp)
  | cons fragment a ih =>
      cases b with
      | nil => exact absurd h (by simp)
      | cons other b =>
          rw [List.flatMap_cons, List.flatMap_cons, List.cons_append, List.cons_append,
            List.cons.injEq] at h
          obtain ⟨rfl, hrest⟩ := sized_append_inj h.2
          rw [ih hrest]

/-- The canonical form of a condition determines it. -/
theorem ClaimCondition.canonicalForm_injective :
    Function.Injective ClaimCondition.canonicalForm := by
  intro a b h
  obtain ⟨huniverse, hfragments⟩ := sized_append_inj h
  cases a
  cases b
  simp only at huniverse hfragments
  rw [huniverse, fragments_inj hfragments]

theorem hexDigit_injective {a b : Nat} (ha : a < 16) (hb : b < 16) (h : hexDigit a = hexDigit b) :
    a = b := by
  have hall : ∀ a b : Fin 16, hexDigit a = hexDigit b → a = b := by decide
  exact congrArg Fin.val (hall ⟨a, ha⟩ ⟨b, hb⟩ h)

theorem hex_injective : Function.Injective hex := by
  have hbyte : ∀ {a b : UInt8}, hexByte a = hexByte b → a = b := by
    intro a b h
    rw [hexByte, hexByte, List.cons.injEq, List.cons.injEq] at h
    have hhigh := hexDigit_injective (by have := a.toNat_lt; omega) (by have := b.toNat_lt; omega) h.1
    have hlow := hexDigit_injective (by omega) (by omega) h.2.1
    exact UInt8.toNat_inj.1 (by omega)
  intro a b h
  induction a generalizing b with
  | nil =>
      cases b with
      | nil => rfl
      | cons byte b => exact absurd h (by simp [hex, hexByte])
  | cons byte a ih =>
      cases b with
      | nil => exact absurd h (by simp [hex, hexByte])
      | cons other b =>
          rw [hex, hex, List.flatMap_cons, List.flatMap_cons] at h
          obtain ⟨hhead, htail⟩ := List.append_inj h rfl
          rw [hbyte hhead, ih htail]

/-! ## Digests -/

section Digests

variable {hash : Bytes → Bytes}

/-- What `canonical_identity_digest` hashes. -/
def identityInput (identityKind : Bytes) (fields : List CanonicalValue) : Bytes :=
  identityDomain identityKind ++ CanonicalValue.appendCanonical (.fromTuple fields)

theorem identityDigest_eq_ok {identityKind digest : Bytes} {fields : List CanonicalValue}
    (h : canonicalIdentityDigest hash identityKind fields = .ok digest) :
    (CanonicalValue.fromTuple fields).validate = .ok () ∧
      (CanonicalValue.appendCanonical (.fromTuple fields)).length ≤ CanonicalValue.vectorMaxSize ∧
      digest = identityKind ++ ascii ":" ++
        contentDigest hash (identityInput identityKind fields) := by
  rw [canonicalIdentityDigest, guard_eq_ok_iff, bind_eq_ok_iff] at h
  obtain ⟨-, encoded, hencoded, h⟩ := h
  obtain ⟨hvalid, hsize, rfl⟩ := CanonicalValue.canonicalBinary_eq_ok_iff.1 hencoded
  exact ⟨hvalid, hsize, (Except.ok.inj h).symm⟩

/-- A digest determines the fields, if the two inputs do not collide. -/
theorem identityDigest_injOn {inputs : Set Bytes} (hinj : Set.InjOn hash inputs)
    {identityKind digest : Bytes} {fields fields' : List CanonicalValue}
    (hmem : identityInput identityKind fields ∈ inputs)
    (hmem' : identityInput identityKind fields' ∈ inputs)
    (h : canonicalIdentityDigest hash identityKind fields = .ok digest)
    (h' : canonicalIdentityDigest hash identityKind fields' = .ok digest) : fields = fields' := by
  obtain ⟨hvalid, hsize, rfl⟩ := identityDigest_eq_ok h
  obtain ⟨hvalid', hsize', hdigest⟩ := identityDigest_eq_ok h'
  have hhash := hex_injective (List.append_cancel_left (List.append_cancel_left hdigest))
  have hencoded := List.append_cancel_left (hinj hmem hmem' hhash)
  have hmax : CanonicalValue.vectorMaxSize < 256 ^ 8 := by decide
  have hvalue := (CanonicalValue.appendCanonical_append_inj hvalid hvalid' (hsize.trans_lt hmax)
    (hsize'.trans_lt hmax) (by rw [hencoded] : _ ++ ([] : Bytes) = _ ++ [])).1
  exact congrArg CanonicalValue.tuple hvalue

end Digests

/-! ## Valid claims -/

section Valid

variable {hash : Bytes → Bytes} {engine : RelationEngine hash}

/-- What validation establishes about the identities of a claim. -/
structure ValidClaim (engine : RelationEngine hash) (descriptor : RelationDescriptor)
    (value : Claim) : Prop where
  found : engine.requireId value.descriptor = .ok descriptor
  row : validateRow descriptor value.row = .ok ()
  presence : value.presence.validate = .ok ()
  semanticKey : canonicalIdentityDigest hash "semantic-key"
    (semanticKeyFields descriptor value.row) = .ok value.semanticKey
  assertion : canonicalIdentityDigest hash "assertion"
    (assertionFields value.semanticKey value.presence value.interpretation value.producer) =
      .ok value.assertion
  content : canonicalIdentityDigest hash "claim-content"
    (contentFields descriptor value.assertion value.row) = .ok value.content

theorem exists_validClaim {value : Claim} (h : validateClaim engine value = .ok ()) :
    ∃ descriptor, ValidClaim engine descriptor value := by
  rw [validateClaim, bind_eq_ok_iff] at h
  obtain ⟨descriptor, hfound, h⟩ := h
  rw [bind_eq_ok_iff] at h
  obtain ⟨rebuilt, hrebuilt, h⟩ := h
  rw [reject_eq_ok_iff] at h
  simp only [Bool.or_eq_false_iff, bne_eq_false_iff_eq] at h
  obtain ⟨⟨⟨hkey, hassertion⟩, hcontent⟩, -⟩ := h
  simp only [encodeClaim, seq_eq_ok_iff] at hrebuilt
  obtain ⟨hrow, hpresence, -, -, -, -, -, -, hrebuilt⟩ := hrebuilt
  rw [bind_eq_ok_iff] at hrebuilt
  obtain ⟨semanticKey, hsemanticKey, hrebuilt⟩ := hrebuilt
  rw [bind_eq_ok_iff] at hrebuilt
  obtain ⟨assertion, hassertion', hrebuilt⟩ := hrebuilt
  rw [bind_eq_ok_iff] at hrebuilt
  obtain ⟨content, hcontent', hrebuilt⟩ := hrebuilt
  obtain rfl := Except.ok.inj hrebuilt
  simp only at hkey hassertion hcontent
  subst hkey hassertion hcontent
  exact ⟨descriptor, hfound, hrow, hpresence, hsemanticKey, hassertion', hcontent'⟩

theorem requireId_eq_ok {descriptorId : Bytes} {descriptor : RelationDescriptor}
    (h : engine.requireId descriptorId = .ok descriptor) :
    descriptor.id = descriptorId ∧ descriptor ∈ engine.descriptors := by
  rw [RelationEngine.requireId] at h
  split at h
  · rename_i found hfound
    obtain rfl := Except.ok.inj h
    exact ⟨by simpa using List.find?_some hfound, List.mem_of_find?_eq_some hfound⟩
  · exact absurd h (by simp)

/-- The inputs hashed for the identities of a claim, and for its conflict payload. -/
def digestInputs (descriptor : RelationDescriptor) (value : Claim) : List Bytes :=
  [identityInput "semantic-key" (semanticKeyFields descriptor value.row),
    identityInput "assertion"
      (assertionFields value.semanticKey value.presence value.interpretation value.producer),
    identityInput "claim-content" (contentFields descriptor value.assertion value.row),
    identityInput "conflict-payload" [rowTuple value.row descriptor.conflictColumns]]

/-- No two different inputs hashed for these claims have the same digest. -/
def NoCollision (engine : RelationEngine hash) (claims : List Claim) : Prop :=
  Set.InjOn hash {input | ∃ value ∈ claims, ∃ descriptor,
    engine.requireId value.descriptor = .ok descriptor ∧ input ∈ digestInputs descriptor value}

theorem NoCollision.mono {claims claims' : List Claim} (h : NoCollision engine claims)
    (hsubset : ∀ value ∈ claims', value ∈ claims) : NoCollision engine claims' := by
  refine Set.InjOn.mono ?_ h
  rintro input ⟨value, hvalue, descriptor, hfound, hinput⟩
  exact ⟨value, hsubset value hvalue, descriptor, hfound, hinput⟩

/-- What two claims with one content have in common. -/
structure SameContent (relation : RelationDescriptor) (a b : Claim) : Prop where
  descriptor : a.descriptor = b.descriptor
  semanticKey : a.semanticKey = b.semanticKey
  assertion : a.assertion = b.assertion
  content : a.content = b.content
  interpretation : a.interpretation = b.interpretation
  presence : a.presence = b.presence
  payload : rowTuple a.row (payloadColumns relation) = rowTuple b.row (payloadColumns relation)

theorem fromString_injective : Function.Injective CanonicalValue.fromString := by
  intro a b h
  exact congrArg CanonicalValue.text h

/-- The content determines the descriptor, the assertion with its parts, and the payload. -/
theorem sameContent {claims : List Claim} (hdigest : NoCollision engine claims) {a b : Claim}
    (hamem : a ∈ claims) (hbmem : b ∈ claims) {da db : RelationDescriptor}
    (ha : ValidClaim engine da a) (hb : ValidClaim engine db b) (h : a.content = b.content) :
    da = db ∧ SameContent da a b := by
  have hinput : ∀ {value : Claim} {descriptor : RelationDescriptor}, value ∈ claims →
      ValidClaim engine descriptor value → ∀ input ∈ digestInputs descriptor value,
      ∃ value ∈ claims, ∃ descriptor, engine.requireId value.descriptor = .ok descriptor ∧
        input ∈ digestInputs descriptor value :=
    fun hmem hvalid input hinput => ⟨_, hmem, _, hvalid.found, hinput⟩
  have hcontent := identityDigest_injOn hdigest (hinput hamem ha _ (by simp [digestInputs]))
    (hinput hbmem hb _ (by simp [digestInputs])) ha.content (h ▸ hb.content)
  rw [contentFields, contentFields, List.cons.injEq, List.cons.injEq] at hcontent
  have hassertion := fromString_injective hcontent.1
  have hparts := identityDigest_injOn hdigest (hinput hamem ha _ (by simp [digestInputs]))
    (hinput hbmem hb _ (by simp [digestInputs])) ha.assertion (hassertion ▸ hb.assertion)
  simp only [assertionFields, List.cons.injEq] at hparts
  obtain ⟨hkey, -, hpresence, hinterpretation, -, -⟩ := hparts
  replace hkey := fromString_injective hkey
  have hfields := identityDigest_injOn hdigest (hinput hamem ha _ (by simp [digestInputs]))
    (hinput hbmem hb _ (by simp [digestInputs])) ha.semanticKey (hkey ▸ hb.semanticKey)
  rw [semanticKeyFields, semanticKeyFields, List.cons.injEq] at hfields
  have hid := fromString_injective hfields.1
  rw [(requireId_eq_ok ha.found).1, (requireId_eq_ok hb.found).1] at hid
  obtain rfl : da = db := by
    have hfound := ha.found
    rw [hid, hb.found] at hfound
    exact (Except.ok.inj hfound).symm
  exact ⟨rfl, hid, hkey, hassertion, h, fromString_injective hinterpretation,
    ClaimCondition.canonicalForm_injective (fromString_injective hpresence), hcontent.2.1⟩

/-! ## Conflict payloads -/

/-- The conflict columns of a functional relation are its payload columns. -/
theorem payloadColumns_eq {descriptor : RelationDescriptor}
    (hvalid : descriptor.validate hash = .ok ()) (hmerge : descriptor.merge = .functionalAssertion) :
    payloadColumns descriptor = Sorting.sortBy bytesLess descriptor.conflictColumns := by
  have hroles : descriptor.validateRoles = .ok () := by
    simp only [RelationDescriptor.validate, seq_eq_ok_iff] at hvalid
    tauto
  simp only [RelationDescriptor.validateRoles, seq_eq_ok_iff, reject_eq_ok_iff] at hroles
  obtain ⟨-, -, -, -, hpayload, -⟩ := hroles
  rw [hmerge, beq_self_eq_true, Bool.true_and, bne_eq_false_iff_eq] at hpayload
  exact hpayload

theorem rowTuple_eq_iff (a b : DetachedRow) (columns : List Bytes) :
    rowTuple a columns = rowTuple b columns ↔
      ∀ column ∈ columns, columnValue a column = columnValue b column := by
  rw [rowTuple, rowTuple, CanonicalValue.fromTuple, CanonicalValue.fromTuple]
  simp

/-- Claims with one content have one conflict payload. -/
theorem SameContent.conflictPayload {descriptor : RelationDescriptor} {a b : Claim}
    (h : SameContent descriptor a b) (hvalid : descriptor.validate hash = .ok ())
    (hmerge : descriptor.merge = .functionalAssertion) :
    rowTuple a.row descriptor.conflictColumns = rowTuple b.row descriptor.conflictColumns := by
  have hpayload := h.payload
  rw [payloadColumns_eq hvalid hmerge, rowTuple_eq_iff] at hpayload
  rw [rowTuple_eq_iff]
  intro column hcolumn
  exact hpayload column ((Sorting.mem_sortBy _ _ _).2 hcolumn)

end Valid

end Cxxlens.Sdk
