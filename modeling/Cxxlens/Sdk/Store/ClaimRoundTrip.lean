import Cxxlens.Sdk.Claim.Reported
import Cxxlens.Sdk.Store.ClaimCodec

set_option autoImplicit false

/-! # What the claim decoder accepts

Each decoder of the claim codec takes exactly what its encoder writes, with one exception: a row is
taken with its cells in any order. `decodeStoreClaim_eq_ok_iff` says so of whole claims. -/

namespace Cxxlens.Sdk

/-! ## Places -/

theorem ScalarKind.all_getElem? {n : Nat} {kind : ScalarKind} :
    ScalarKind.all[n]? = some kind ↔ kind.isValid = true ∧ n = kind.code.toNat := by
  constructor
  · intro h
    obtain ⟨hlt, rfl⟩ := List.getElem?_eq_some_iff.1 h
    have hbound : n < 19 := hlt
    interval_cases n <;> exact ⟨rfl, rfl⟩
  · rintro ⟨hvalid, rfl⟩
    cases kind with
    | unnamed value => exact absurd hvalid Bool.false_ne_true
    | _ => rfl

theorem CellState.all_getElem? {n : Nat} {state : CellState} :
    CellState.all[n]? = some state ↔ state.isValid = true ∧ n = state.code.toNat := by
  constructor
  · intro h
    obtain ⟨hlt, rfl⟩ := List.getElem?_eq_some_iff.1 h
    have hbound : n < 3 := hlt
    interval_cases n <;> exact ⟨rfl, rfl⟩
  · rintro ⟨hvalid, rfl⟩
    cases state with
    | unnamed value => exact absurd hvalid Bool.false_ne_true
    | _ => rfl

theorem ClaimStage.all_getElem? {n : Nat} {stage : ClaimStage} :
    ClaimStage.all[n]? = some stage ↔
      stage.isValid = true ∧ n = stage.code.toUInt64.toNat := by
  constructor
  · intro h
    obtain ⟨hlt, rfl⟩ := List.getElem?_eq_some_iff.1 h
    have hbound : n < 3 := hlt
    interval_cases n <;> exact ⟨rfl, rfl⟩
  · rintro ⟨hvalid, rfl⟩
    cases stage with
    | unnamed value => exact absurd hvalid Bool.false_ne_true
    | _ => rfl

theorem DetachedCell.validKinds {cell : DetachedCell} (h : cell.validate = .ok ()) :
    cell.type.scalar.isValid = true ∧ cell.state.isValid = true := by
  unfold DetachedCell.validate at h
  rw [Fallible.guard_eq_ok_iff, Fallible.guard_eq_ok_iff, not_or] at h
  simp only [Bool.not_eq_false] at h
  exact ⟨h.2.1.1, h.1⟩

namespace Store

open Fallible BigEndian Framing BinaryReader

/-! ## Parts -/

theorem checked_eq_ok_iff {α : Type} {field : Bytes} {check : Result α} {value : α} :
    (check.mapError fun error => corrupt field error.code) = .ok value ↔ check = .ok value := by
  cases check with
  | error error => simp [Except.mapError]
  | ok found => simp [Except.mapError]

theorem accepts_checked (field : Bytes) (check : Result Unit) :
    (checked field check).Accepts addressable fun _ text => check = .ok () ∧ text = [] :=
  (Reading.Accepts.lift _).congr fun _ _ => and_congr_left fun _ => checked_eq_ok_iff

/-- A number that is the place of a value is its code. -/
theorem accepts_enumerator {α : Type} {values : List α} {valid : α → Prop} {code : α → Nat}
    (hcode : ∀ {n value}, values[n]? = some value ↔ valid value ∧ n = code value)
    (hlt : ∀ value, code value < addressable) (error : Error) :
    (enumerator values error).Accepts addressable fun value text =>
      valid value ∧ text = encode 8 (code value) := by
  refine (accepts_unsignedValue.bind_as (fun number value back =>
    (valid value ∧ number.toNat = code value) ∧ back = []) fun number => ?_).congr
      fun value text => ?_
  · cases hfound : values[number.toNat]? with
    | some found =>
        refine (Reading.Accepts.done found).congr fun value back => and_congr_left fun _ => ?_
        rw [← hcode, hfound, Option.some.injEq, eq_comm]
    | none =>
        refine (Reading.Accepts.failed error).congr fun value back => ?_
        rw [← hcode, hfound]
        simp
  · constructor
    · rintro ⟨number, _, _, rfl, ⟨⟨hvalid, hnumber⟩, rfl⟩, rfl⟩
      exact ⟨hvalid, by rw [hnumber, List.append_nil]⟩
    · rintro ⟨hvalid, rfl⟩
      have hnumber : (UInt64.ofNat (code value)).toNat = code value :=
        UInt64.toNat_ofNat_of_lt' (hlt value)
      exact ⟨_, _, [], rfl, ⟨⟨hvalid, hnumber⟩, rfl⟩, by rw [hnumber, List.append_nil]⟩

theorem accepts_announced {α : Type} {part : Reading Error α} {write : α → Spans}
    (h : part.Accepts addressable fun value text => text = (write value).flatten)
    (present : Bool) :
    (announced present part).Accepts addressable fun value text =>
      value.isSome = present ∧ text = (value.elim [] write).flatten := by
  cases present with
  | false =>
      refine (Reading.Accepts.done none).congr fun value text => ?_
      cases value with
      | none => simp
      | some found => simp
  | true =>
      refine (h.bind fun found => Reading.Accepts.done (some found)).congr fun value text => ?_
      cases value with
      | none => simp
      | some found => simp

theorem accepts_written_string :
    string.Accepts addressable fun value text => text = (BinaryWriter.string value).flatten :=
  accepts_string.congr fun _ _ => by rw [BinaryWriter.flatten_string]

/-! ## Cells -/

/-- A signed number is written as the unsigned number of the same bits. -/
theorem exists_toInt64_iff {value : Int64} {text : Bytes} :
    (∃ bits : UInt64, value = bits.toInt64 ∧ text = encode 8 bits.toNat) ↔
      text = encode 8 value.toUInt64.toNat := by
  constructor
  · rintro ⟨bits, rfl, rfl⟩
    rfl
  · rintro rfl
    exact ⟨value.toUInt64, (Int64.toInt64_toUInt64 value).symm, rfl⟩

theorem accepts_decodeValue :
    decodeValue.Accepts addressable fun value text => text = (encodeValue value).flatten := by
  refine (accepts_unsignedValue.bind_as (fun tag value back =>
    tag.toNat = valueTag value ∧ back = (encodeAlternative value).flatten) fun tag => ?_).congr
      fun value text => ?_
  · split
    · rename_i htag
      refine (accepts_boolean.bind fun value => Reading.Accepts.done _).congr fun value back => ?_
      cases value <;> simp [htag, valueTag, encodeAlternative]
    · rename_i htag
      refine (accepts_unsignedValue.bind fun value => Reading.Accepts.done _).congr
        fun value back => ?_
      cases value <;> simp [htag, valueTag, encodeAlternative, exists_toInt64_iff]
    · rename_i htag
      refine (accepts_unsignedValue.bind fun value => Reading.Accepts.done _).congr
        fun value back => ?_
      cases value <;> simp [htag, valueTag, encodeAlternative]
    · rename_i htag
      refine (accepts_string.bind fun value => Reading.Accepts.done _).congr fun value back => ?_
      cases value <;> simp [htag, valueTag, encodeAlternative]
    · rename_i htag
      refine (accepts_raw.bind fun value => Reading.Accepts.done _).congr fun value back => ?_
      cases value <;> simp [htag, valueTag, encodeAlternative]
    · rename_i h0 h1 h2 h3 h4
      refine (Reading.Accepts.failed _).congr fun value back => iff_of_false id ?_
      rintro ⟨htag, -⟩
      cases value with
      | boolean _ => exact h0 htag
      | signedInteger _ => exact h1 htag
      | unsignedInteger _ => exact h2 htag
      | string _ => exact h3 htag
      | bytes _ => exact h4 htag
  · rw [encodeValue, List.flatten_append, BinaryWriter.flatten_unsignedValue]
    constructor
    · rintro ⟨tag, _, _, rfl, ⟨htag, rfl⟩, rfl⟩
      rw [htag]
    · rintro rfl
      have htag : (UInt64.ofNat (valueTag value)).toNat = valueTag value := by
        cases value <;> rfl
      exact ⟨_, _, _, rfl, ⟨htag, rfl⟩, by rw [htag]⟩

theorem accepts_decodeCell :
    decodeCell.Accepts addressable fun cell text =>
      cell.validate = .ok () ∧ text = (encodeCell cell).flatten := by
  refine (((accepts_enumerator ScalarKind.all_getElem? (fun kind =>
    kind.code.toNat_lt.trans (by decide)) _).orError _).bind fun scalar =>
    (accepts_string.orError _).bind fun parameter =>
    (accepts_boolean.orError _).bind fun optional =>
    ((accepts_enumerator CellState.all_getElem? (fun state =>
      state.code.toNat_lt.trans (by decide)) _).orError _).bind fun state =>
    (accepts_boolean.orError _).bind fun hasValue =>
    (accepts_announced accepts_decodeValue hasValue).bind fun value =>
    accepts_boolean.bind fun hasReason =>
    (accepts_announced accepts_written_string hasReason).bind fun unknownReason =>
    (accepts_checked _ _).bind fun _ => Reading.Accepts.done _).congr fun cell text => ?_
  obtain ⟨⟨scalar, parameter, optional⟩, state, value, unknownReason⟩ := cell
  simp only [↓existsAndEq, and_true, true_and, exists_const, exists_and_left,
    DetachedCell.mk.injEq, ValueType.mk.injEq, encodeCell, List.append_nil, List.cons_append,
    List.nil_append, List.append_assoc, List.flatten_append, BinaryWriter.flatten_unsignedValue,
    BinaryWriter.flatten_string, BinaryWriter.flatten_boolean]
  constructor
  · rintro ⟨-, ⟨-, hvalid⟩, rfl⟩
    exact ⟨hvalid, rfl⟩
  · rintro ⟨hvalid, rfl⟩
    exact ⟨(DetachedCell.validKinds hvalid).1, ⟨(DetachedCell.validKinds hvalid).2, hvalid⟩, rfl⟩

/-! ## Rows -/

theorem accepts_decodeEntry :
    decodeEntry.Accepts addressable fun entry text =>
      entry.2.validate = .ok () ∧ text = (encodeEntry entry).flatten := by
  refine (accepts_string.bind fun column => accepts_decodeCell.bind fun cell =>
    Reading.Accepts.done (column, cell)).congr fun entry text => ?_
  obtain ⟨column, cell⟩ := entry
  simp only [↓existsAndEq, and_true, true_and, encodeEntry, Prod.mk.injEq,
    List.append_nil, List.flatten_append, BinaryWriter.flatten_string]

/-- A row is taken with its cells in any order. -/
theorem accepts_decodeRow :
    decodeRow.Accepts addressable fun row text =>
      (row.cells.length ≤ 1000000 ∧ ∀ entry ∈ row.cells, entry.2.validate = .ok ()) ∧
        ∃ cells, cells.Perm row.cells ∧
          text = (encodeRowAs row.descriptorId cells).flatten := by
  refine ((accepts_string.orError _).bind fun descriptor =>
    (accepts_countUpTo (by decide) _).bind fun count =>
    ((accepts_decodeEntry.gather_written _ count _).orError _).bind fun cells =>
    Reading.Accepts.done _).congr fun row text => ?_
  constructor
  · rintro ⟨descriptor, _, _, rfl, ⟨count, _, _, ⟨hcount, rfl⟩, ⟨map, _, _,
      ⟨cells, rfl, hvalid, hmap, rfl⟩, ⟨rfl, rfl⟩, rfl⟩, rfl⟩, rfl⟩
    have hperm : map.entries.Perm cells := OrderedMap.foldlM_emplaceNew_eq_ok_iff.1 hmap
    refine ⟨⟨hperm.length_eq ▸ hcount, fun entry hentry => hvalid entry (hperm.mem_iff.1 hentry)⟩,
      cells, hperm.symm, ?_⟩
    simp [encodeRowAs]
  · rintro ⟨⟨hcount, hvalid⟩, cells, hperm, rfl⟩
    have hmap : cells.foldlM (OrderedMap.emplaceNew (corrupt "row" "duplicate-cell"))
        OrderedMap.empty = .ok ⟨row.cells, row.ordered⟩ :=
      OrderedMap.foldlM_emplaceNew_eq_ok_iff.2 hperm.symm
    refine ⟨_, _, _, rfl, ⟨cells.length, _, _, ⟨hperm.length_eq ▸ hcount, rfl⟩, ⟨_, _, [],
      ⟨cells, rfl, fun entry hentry => hvalid entry (hperm.mem_iff.1 hentry), hmap, rfl⟩,
      ⟨rfl, rfl⟩, rfl⟩, rfl⟩, ?_⟩
    simp [encodeRowAs]

/-! ## Conditions and guarantees -/

theorem accepts_decodeStrings (field : Bytes) :
    (decodeStrings field).Accepts addressable fun values text =>
      values.length ≤ 1000000 ∧ text = (encodeStrings values).flatten := by
  exact accepts_range_unchecked (by decide) _ accepts_written_string

theorem accepts_decodeCondition :
    decodeCondition.Accepts addressable fun condition text =>
      (condition.validate = .ok () ∧ condition.fragments.length ≤ 1000000) ∧
        text = (encodeCondition condition).flatten := by
  refine ((accepts_string.orError _).bind fun «universe» =>
    ((accepts_decodeStrings _).orError _).bind fun fragments =>
    (accepts_checked _ _).bind fun _ => Reading.Accepts.done _).congr fun condition text => ?_
  obtain ⟨«universe», fragments⟩ := condition
  simp only [↓existsAndEq, and_true, true_and, exists_const, encodeCondition,
    ClaimCondition.mk.injEq, List.append_nil, List.flatten_append, BinaryWriter.flatten_string]
  tauto

theorem accepts_decodeGuarantee :
    decodeGuarantee.Accepts addressable fun guarantee text =>
      (guarantee.validate = .ok () ∧ guarantee.verificationModalities.length ≤ 1000000) ∧
        text = (encodeGuarantee guarantee).flatten := by
  refine ((accepts_string.orError _).bind fun approximation =>
    (accepts_string.orError _).bind fun scope =>
    (accepts_string.orError _).bind fun assumptions =>
    ((accepts_decodeStrings _).orError _).bind fun modalities =>
    (accepts_checked _ _).bind fun _ => Reading.Accepts.done _).congr fun guarantee text => ?_
  obtain ⟨approximation, scope, assumptions, modalities⟩ := guarantee
  simp only [↓existsAndEq, and_true, true_and, exists_const, encodeGuarantee,
    ClaimGuarantee.mk.injEq, List.append_nil, List.append_assoc, List.flatten_append,
    BinaryWriter.flatten_string]
  tauto

/-! ## Claims -/

/-- The digests in a derived basis. -/
def consumedDigests : ClaimInputBasis → List Bytes
  | .direct _ => []
  | .derived _ consumed _ => consumed

/-- What the decoders check of a claim, besides its identities: every cell, and the sizes. -/
structure Storable (value : Claim) : Prop where
  cells : ∀ entry ∈ value.row.cells, entry.2.validate = .ok ()
  cellCount : value.row.cells.length ≤ 1000000
  fragmentCount : value.presence.fragments.length ≤ 1000000
  consumedCount : (consumedDigests value.inputBasis).length ≤ 1000000
  modalityCount : value.guarantee.verificationModalities.length ≤ 1000000

theorem accepts_decodeBasis (direct : Bool) :
    (decodeBasis direct).Accepts addressable fun basis text =>
      (isDirect basis = direct ∧ (consumedDigests basis).length ≤ 1000000) ∧
        text = (encodeBasis basis).flatten := by
  cases direct with
  | true =>
      refine ((accepts_string.orError _).bind fun digest => Reading.Accepts.done _).congr
        fun basis text => ?_
      cases basis <;> simp [isDirect, consumedDigests, encodeBasis]
  | false =>
      refine ((accepts_string.orError _).bind fun inputSnapshot =>
        ((accepts_decodeStrings _).orError _).bind fun consumed =>
        (accepts_string.orError _).bind fun transform => Reading.Accepts.done _).congr
          fun basis text => ?_
      cases basis <;> simp [isDirect, consumedDigests, encodeBasis, and_assoc]

section Engine

variable {hash : Bytes → Bytes} {engine : RelationEngine hash}

/-- What a valid claim has besides its identities. -/
theorem parts_of_validateClaim {value : Claim} (h : validateClaim engine value = .ok ()) :
    value.presence.validate = .ok () ∧ value.stage.isValid = true ∧
      value.guarantee.validate = .ok () := by
  rw [validateClaim, bind_eq_ok_iff] at h
  obtain ⟨descriptor, -, h⟩ := h
  rw [bind_eq_ok_iff] at h
  obtain ⟨rebuilt, hrebuilt, -⟩ := h
  simp only [Sdk.encodeClaim, seq_eq_ok_iff] at hrebuilt
  obtain ⟨-, hpresence, -, -, -, -, hguarantee, hbasis, -⟩ := hrebuilt
  unfold validateBasis at hbasis
  rw [seq_eq_ok_iff, reject_eq_ok_iff] at hbasis
  exact ⟨hpresence, by simpa using hbasis.1, hguarantee⟩

/-- A claim is taken with the cells of its row in any order. -/
theorem accepts_decodeClaim :
    (decodeClaim engine).Accepts addressable fun value text =>
      (validateClaim engine value = .ok () ∧ Storable value) ∧
        ∃ cells, cells.Perm value.row.cells ∧
          text = (encodeRowAs value.row.descriptorId cells ++ encodeBehindRow value).flatten := by
  refine ((accepts_decodeRow.orError _).bind fun row =>
    (accepts_string.orError _).bind fun descriptor =>
    (accepts_string.orError _).bind fun semanticKey =>
    (accepts_string.orError _).bind fun assertion =>
    (accepts_string.orError _).bind fun content =>
    (accepts_decodeCondition.orError _).bind fun condition =>
    (accepts_string.orError _).bind fun interpretation =>
    ((accepts_enumerator ClaimStage.all_getElem? (fun stage =>
      stage.code.toUInt64.toNat_lt) _).orError _).bind fun stage =>
    (accepts_string.orError _).bind fun producerId =>
    (accepts_string.orError _).bind fun producerSemantics =>
    (accepts_boolean.orError _).bind fun direct =>
    (accepts_decodeBasis direct).bind fun basis =>
    (accepts_string.orError _).bind fun provenance =>
    (accepts_decodeGuarantee.orError _).bind fun guarantee =>
    (accepts_checked _ _).bind fun _ => Reading.Accepts.done _).congr fun value text => ?_
  obtain ⟨row, descriptor, semanticKey, assertion, content, presence, interpretation, stage,
    ⟨producerId, producerSemantics⟩, basis, provenance, guarantee⟩ := value
  simp only [↓existsAndEq, and_true, true_and, Claim.mk.injEq, ClaimProducer.mk.injEq,
    List.append_nil, List.cons_append, List.nil_append, exists_const, exists_and_left,
    encodeBehindRow, List.append_assoc, List.flatten_append, BinaryWriter.flatten_string,
    BinaryWriter.flatten_unsignedValue, BinaryWriter.flatten_boolean]
  constructor
  · rintro ⟨cells, ⟨⟨hcount, hcells⟩, hperm⟩, ⟨⟨-, hfragments⟩, -, hconsumed,
      ⟨-, hmodalities⟩, hvalid⟩, rfl⟩
    exact ⟨⟨hvalid, hcells, hcount, hfragments, hconsumed, hmodalities⟩, cells, hperm, rfl⟩
  · rintro ⟨⟨hvalid, hstorable⟩, cells, hperm, rfl⟩
    obtain ⟨hpresence, hstage, hguarantee⟩ := parts_of_validateClaim hvalid
    exact ⟨cells, ⟨⟨hstorable.cellCount, hstorable.cells⟩, hperm⟩,
      ⟨⟨hpresence, hstorable.fragmentCount⟩, hstage, hstorable.consumedCount,
        ⟨hguarantee, hstorable.modalityCount⟩, hvalid⟩, rfl⟩

/-- **`decode_store_claim` accepts a text as a claim exactly when the claim is valid and storable
    and the text is what `encode_store_claim` writes of it, with the cells of the row in any
    order.** -/
theorem decodeStoreClaim_eq_ok_iff {bytes : Bytes} (hbytes : bytes.length < addressable)
    {value : Claim} :
    decodeStoreClaim engine bytes = .ok value ↔
      (validateClaim engine value = .ok () ∧ Storable value) ∧
        ∃ cells, cells.Perm value.row.cells ∧
          bytes = (encodeRowAs value.row.descriptorId cells ++ encodeBehindRow value).flatten := by
  rw [decodeStoreClaim, bind_eq_ok_iff]
  constructor
  · rintro ⟨⟨found, rest⟩, hrun, h⟩
    simp only at h
    split_ifs at h with hrest
    obtain rfl := Except.ok.inj h
    obtain ⟨front, hfront, rfl⟩ := (accepts_decodeClaim _ _ _ hbytes).1 hrun
    rw [hrest, List.append_nil]
    exact hfront
  · intro h
    refine ⟨(value, []), (accepts_decodeClaim _ _ _ hbytes).2 ⟨bytes, h, ?_⟩, if_pos rfl⟩
    rw [List.append_nil]

end Engine

theorem storable_firstSample : Storable firstSample :=
  ⟨by decide, by decide, by decide, by decide, by decide⟩

theorem decodeStoreClaim_firstSample :
    decodeStoreClaim sampleEngine (encodeStoreClaim firstSample) = .ok firstSample := by
  have hsize : (encodeStoreClaim firstSample).length < addressable := by decide +kernel
  exact (decodeStoreClaim_eq_ok_iff hsize).2
    ⟨⟨samples_commit.1.1, storable_firstSample⟩, _, List.Perm.refl _, rfl⟩

end Store

end Cxxlens.Sdk
