import Cxxlens.ProtocolV2.Cbor.EncodeWrites

set_option autoImplicit false

/-! # Round trips of the value codec

The encoder is characterised by `encode_eq_ok_iff`, the decoder by `decode_eq_ok_iff`; both speak of
the same wire bytes. Decoding then undoes encoding up to the one difference between the two: the
encoder does not count map keys against the item limit and the decoder does. -/

namespace Cxxlens.ProtocolV2.Cbor

/-- **Decoding what was encoded under the same bounds gives the reordered value exactly when the
    wire items, map keys included, stay within the item limit.** -/
theorem decode_encode_iff {item : Value} {bound : Limits} {output : Bytes}
    (h : encode item bound = .ok output) :
    decode output bound = .ok item.reorder ↔ item.itemCount ≤ bound.maxItems.toNat := by
  obtain ⟨hencodable, -, rfl, hsized⟩ := encode_eq_ok_iff.1 h
  rw [decode_eq_ok_iff, item.itemCount_reorder]
  constructor
  · rintro ⟨-, -, -, hitems⟩
    exact hitems
  · intro hitems
    exact ⟨hencodable.fits_reorder, rfl, hsized, hitems⟩

theorem decode_encode_iff_pair :
    decode [0xa1, 0x61, 0x61, 0xf6] {} = .ok (Value.map [(ascii "a", .null)]).reorder ↔
      (Value.map [(ascii "a", .null)]).itemCount ≤ ({} : Limits).maxItems.toNat :=
  decode_encode_iff (show encode (.map [(ascii "a", .null)]) {} = .ok [0xa1, 0x61, 0x61, 0xf6] by rfl)

/-- A map with one entry is two items for the encoder and three for the decoder. -/
theorem decode_encode_fails :
    encode (.map [(ascii "a", .null)]) { maxItems := 2 } = .ok [0xa1, 0x61, 0x61, 0xf6] ∧
      decode [0xa1, 0x61, 0x61, 0xf6] { maxItems := 2 }
        = .error (failure "items" "limit-exceeded") ∧
      ¬ ∀ (item : Value) (bound : Limits) (output : Bytes), encode item bound = .ok output →
        decode output bound = .ok item.reorder := by
  refine ⟨by rfl, by rfl, fun h => ?_⟩
  have hdecode := h (.map [(ascii "a", .null)]) { maxItems := 2 } [0xa1, 0x61, 0x61, 0xf6] (by rfl)
  have hitems := (decode_eq_ok_iff.1 hdecode).2.2.2
  exact absurd hitems (by decide)

/-- What was decoded is encoded to the same bytes. -/
theorem encode_of_decode {input : Bytes} {bound : Limits} {item : Value}
    (h : decode input bound = .ok item) : encode item bound = .ok input := by
  obtain ⟨hfits, hinput, hsized, hitems⟩ := decode_eq_ok_iff.1 h
  obtain ⟨hencodable, hreorder⟩ := hfits.encodable
  have hcount := item.valueCount_le_itemCount
  rw [encode_eq_ok_iff, hreorder]
  exact ⟨hencodable, by omega, hinput, hsized⟩

/-- A value has one encoding, whatever the bounds it is decoded under. -/
theorem decode_injective {input input' : Bytes} {bound bound' : Limits} {item : Value}
    (h : decode input bound = .ok item) (h' : decode input' bound' = .ok item) :
    input = input' := by
  obtain ⟨-, hinput, -, -⟩ := decode_eq_ok_iff.1 h
  obtain ⟨-, hinput', -, -⟩ := decode_eq_ok_iff.1 h'
  rw [hinput, hinput']

/-- The order the entries of a map come in makes no difference to the encoder. -/
theorem encode_map_of_perm {fields fields' : Fields} (hperm : fields.Perm fields') {bound : Limits}
    {output : Bytes} (h : encode (.map fields) bound = .ok output) :
    encode (.map fields') bound = .ok output := by
  obtain ⟨hencodable, hcount, houtput, hsized⟩ := encode_eq_ok_iff.1 h
  have hcount' : (Value.map fields').valueCount = (Value.map fields).valueCount := by
    rw [Value.valueCount, Value.valueCount, valueCountFields_eq_sum, valueCountFields_eq_sum,
      ((hperm.map fun field : Bytes × Value => field.2.valueCount).sum_eq)]
  rw [encode_eq_ok_iff, hcount', houtput]
  cases hencodable with
  | map _ hsize hdistinct hkeys hfields =>
      have hreorder : (Value.map fields).reorder = (Value.map fields').reorder := by
        rw [Value.reorder, Value.reorder, sortBy_reorderFields, sortBy_reorderFields,
          Sorting.sortBy_eq_of_perm fieldLess_compares hperm ?_]
        intro left hleft right hright heq
        exact List.inj_on_of_nodup_map (fieldKey_nodup hdistinct hkeys) hleft hright heq
      refine ⟨.map fields' ?_ ?_ ?_ ?_, hcount, by rw [hreorder], houtput ▸ hsized⟩
      · exact hperm.length_eq ▸ hsize
      · exact ((hperm.map (·.1)).nodup_iff).1 hdistinct
      · exact fun field hfield => hkeys field (hperm.mem_iff.2 hfield)
      · exact fun field hfield => hfields field (hperm.mem_iff.2 hfield)

end Cxxlens.ProtocolV2.Cbor
