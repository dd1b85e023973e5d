import Cxxlens.Foundation.Reading
import Cxxlens.Sdk.Store.AuthenticatedCursor

set_option autoImplicit false

/-! # The binary writer and the binary reader

`binary_writer` and `binary_reader` of `snapshot_store_v5_codec_internal.cpp`: numbers in eight
big-endian bytes, booleans in one, and texts behind their length. What a writer is asked to append
is a list of spans, whatever it does with them; a reader only ever asks for exact numbers of
bytes. -/

namespace Cxxlens.Sdk.Store

open BigEndian Framing

/-- The spans that a `binary_writer` is asked to append. -/
abbrev Spans := List Bytes

/-- Every span is shorter than the addresses of a machine reach. -/
def addressable : Nat := 2 ^ 64

/-! ## Writing -/

namespace BinaryWriter

/-- `unsigned_value` -/
def unsignedValue (value : Nat) : Spans :=
  [encode 8 value]

/-- `boolean` -/
def boolean (value : Bool) : Spans :=
  [[if value then 1 else 0]]

/-- `string` and `raw`: an empty span is not appended. -/
def string (value : Bytes) : Spans :=
  unsignedValue value.length ++ if value = [] then [] else [value]

/-- A range behind its size. -/
def range {α : Type} (encode : α → Spans) (values : List α) : Spans :=
  unsignedValue values.length ++ values.flatMap encode

@[simp] theorem flatten_unsignedValue (value : Nat) :
    (unsignedValue value).flatten = encode 8 value := by
  simp [unsignedValue]

@[simp] theorem flatten_boolean (value : Bool) :
    (boolean value).flatten = [if value then 1 else 0] := by
  simp [boolean]

@[simp] theorem flatten_string (value : Bytes) : (string value).flatten = framed value := by
  rw [string, framed, List.flatten_append, flatten_unsignedValue]
  by_cases h : value = []
  · simp [h]
  · simp [h]

@[simp] theorem flatten_range {α : Type} (encode : α → Spans) (values : List α) :
    (range encode values).flatten =
      BigEndian.encode 8 values.length ++ values.flatMap fun value => (encode value).flatten := by
  rw [range, List.flatten_append, flatten_unsignedValue]
  congr 1
  induction values with
  | nil => rfl
  | cons value values ih =>
      rw [List.flatMap_cons, List.flatMap_cons, List.flatten_append, ih]

end BinaryWriter

/-! ## Reading -/

namespace BinaryReader

/-- What `unsigned_value`, `boolean` and `string` do with the answer of `read_exact`. -/
def answered {α : Type} (missing : Error) (rest : Bytes → Reading Error α) :
    Result (Option Bytes) → Reading Error α
  | .error error => .failed error
  | .ok none => .failed missing
  | .ok (some bytes) => rest bytes

/-- `unsigned_value` -/
def unsignedValue : Reading Error UInt64 :=
  .exact 8 (answered (storeError "store.corrupt" "payload" "truncated-u64") fun bytes =>
    .done (UInt64.ofNat (decode bytes)))

/-- `unsigned_32` -/
def unsigned32 (field : Bytes) : Reading Error UInt32 := do
  let value ← unsignedValue
  if value.toNat > 4294967295 then .failed (storeError "store.corrupt" field "u32-overflow")
  else .done (UInt32.ofNat value.toNat)

/-- `boolean` -/
def boolean : Reading Error Bool :=
  .exact 1 (answered (storeError "store.corrupt" "payload" "invalid-bool") fun bytes =>
    if decode bytes > 1 then .failed (storeError "store.corrupt" "payload" "invalid-bool")
    else .done (decode bytes != 0))

/-- `string`; a length beyond what remains is a request that finds too few bytes. -/
def string : Reading Error Bytes := do
  let size ← unsignedValue
  .exact size.toNat (answered (storeError "store.corrupt" "payload" "truncated-string") .done)

/-- `raw` -/
def raw : Reading Error Bytes := do
  let size ← unsignedValue
  .exact size.toNat (answered (storeError "store.corrupt" "payload" "truncated-bytes") .done)

/-- A count up to a limit. -/
def countUpTo (limit : Nat) (error : Error) : Reading Error Nat := do
  let count ← unsignedValue.orError error
  if count.toNat > limit then .failed error else .done count.toNat

/-- A range of no more than `limit` elements. -/
def range {α : Type} (limit : Nat) (error : Error) (element : Reading Error α) :
    Reading Error (List α) := do
  let count ← countUpTo limit error
  element.times count

/-- A request that hands its bytes on. -/
theorem accepts_answered {α : Type} {count : Nat} {missing : Error}
    {rest : Bytes → Reading Error α} (behind : Bytes → α → Bytes → Prop)
    (h : ∀ bytes, (rest bytes).Accepts addressable (behind bytes)) :
    (Reading.exact count (answered missing rest)).Accepts addressable fun value text =>
      ∃ bytes back, bytes.length = count ∧ behind bytes value back ∧ text = bytes ++ back :=
  Reading.Accepts.exact h (Reading.Accepts.failed missing)

theorem accepts_unsignedValue :
    unsignedValue.Accepts addressable fun value text => text = encode 8 value.toNat := by
  refine (accepts_answered _ fun bytes => Reading.Accepts.done _).congr fun value text => ?_
  constructor
  · rintro ⟨bytes, _, hlength, ⟨rfl, rfl⟩, rfl⟩
    have hlt : decode bytes < 2 ^ 64 := by
      have := decode_lt bytes
      rwa [hlength] at this
    rw [UInt64.toNat_ofNat_of_lt' hlt, ← hlength, encode_decode, List.append_nil]
  · rintro rfl
    refine ⟨_, [], length_encode _ _, ⟨?_, rfl⟩, (List.append_nil _).symm⟩
    rw [decode_encode value.toNat_lt, UInt64.ofNat_toNat]

theorem accepts_unsigned32 (field : Bytes) :
    (unsigned32 field).Accepts addressable fun value text => text = encode 8 value.toNat := by
  refine (accepts_unsignedValue.bind_as (fun wide value back =>
    wide.toNat = value.toNat ∧ back = []) fun wide => ?_).congr fun value text => ?_
  · by_cases hwide : wide.toNat > 4294967295
    · rw [if_pos hwide]
      refine (Reading.Accepts.failed _).congr fun value back => ?_
      have := value.toNat_lt
      constructor
      · exact False.elim
      · rintro ⟨heq, -⟩
        omega
    · rw [if_neg hwide]
      refine (Reading.Accepts.done _).congr fun value back => and_congr_left fun _ => ?_
      have hnarrow : wide.toNat < UInt32.size := Nat.lt_succ_of_le (Nat.le_of_not_lt hwide)
      rw [← UInt32.toNat_inj, UInt32.toNat_ofNat_of_lt' hnarrow, eq_comm]
  · constructor
    · rintro ⟨wide, _, _, rfl, ⟨heq, rfl⟩, rfl⟩
      rw [heq, List.append_nil]
    · rintro rfl
      have hvalue : (UInt64.ofNat value.toNat).toNat = value.toNat :=
        UInt64.toNat_ofNat_of_lt' (value.toNat_lt.trans (by decide))
      exact ⟨UInt64.ofNat value.toNat, _, [], rfl, ⟨hvalue, rfl⟩,
        by rw [hvalue, List.append_nil]⟩

theorem accepts_boolean :
    boolean.Accepts addressable fun value text => text = [if value then 1 else 0] := by
  have hone : ∀ byte : UInt8, decode [byte] = byte.toNat := fun byte => by
    simp [decode]
  refine (accepts_answered (fun bytes value back =>
    decode bytes ≤ 1 ∧ value = (decode bytes != 0) ∧ back = []) fun bytes => ?_).congr
      fun value text => ?_
  · by_cases hlarge : decode bytes > 1
    · rw [if_pos hlarge]
      refine (Reading.Accepts.failed _).congr fun value back => ?_
      constructor
      · exact False.elim
      · rintro ⟨hle, -⟩
        omega
    · rw [if_neg hlarge]
      refine (Reading.Accepts.done _).congr fun value back => ?_
      simp [Nat.le_of_not_lt hlarge]
  · constructor
    · rintro ⟨bytes, _, hlength, ⟨hle, rfl, rfl⟩, rfl⟩
      obtain ⟨byte, rfl⟩ := List.length_eq_one_iff.1 hlength
      rw [hone] at hle ⊢
      have hbyte : byte = 0 ∨ byte = 1 := by
        rw [← UInt8.toNat_inj, ← UInt8.toNat_inj]
        show byte.toNat = 0 ∨ byte.toNat = 1
        omega
      rcases hbyte with rfl | rfl
      · rfl
      · rfl
    · rintro rfl
      cases value with
      | false => exact ⟨[0], [], rfl, ⟨by decide, rfl, rfl⟩, rfl⟩
      | true => exact ⟨[1], [], rfl, ⟨by decide, rfl, rfl⟩, rfl⟩

/-- `string` and `raw` differ in the error only. -/
theorem accepts_sized (missing : Error) :
    (unsignedValue >>= fun size => .exact size.toNat (answered missing .done)).Accepts addressable
      fun value text => text = framed value := by
  intro text value rest hlimit
  have hanswered : ∀ size : UInt64,
      (Reading.exact size.toNat (answered missing .done)).Accepts addressable fun value text =>
        ∃ bytes back, bytes.length = size.toNat ∧ (value = bytes ∧ back = []) ∧
          text = bytes ++ back :=
    fun size => accepts_answered _ fun bytes => Reading.Accepts.done bytes
  have haccepts := accepts_unsignedValue.bind hanswered
  rw [haccepts _ _ _ hlimit]
  constructor
  · rintro ⟨_, ⟨size, _, _, rfl, ⟨bytes, _, hlength, ⟨rfl, rfl⟩, rfl⟩, rfl⟩, rfl⟩
    exact ⟨_, by rw [← hlength, List.append_nil]; rfl, rfl⟩
  · rintro ⟨_, rfl, rfl⟩
    -- the text is below the limit, so the length of what it frames has its eight bytes
    have hsize : (UInt64.ofNat value.length).toNat = value.length := by
      refine UInt64.toNat_ofNat_of_lt' (lt_of_le_of_lt ?_ hlimit)
      rw [List.length_append, length_framed]
      omega
    exact ⟨_, ⟨UInt64.ofNat value.length, _, _, rfl, ⟨value, [], hsize.symm, ⟨rfl, rfl⟩, rfl⟩,
      by rw [hsize, List.append_nil]; rfl⟩, rfl⟩

theorem accepts_string : string.Accepts addressable fun value text => text = framed value :=
  accepts_sized _

theorem accepts_raw : raw.Accepts addressable fun value text => text = framed value :=
  accepts_sized _

theorem accepts_countUpTo {limit : Nat} (hlimit : limit < addressable) (error : Error) :
    (countUpTo limit error).Accepts addressable fun count text =>
      count ≤ limit ∧ text = encode 8 count := by
  refine ((accepts_unsignedValue.orError error).bind_as (fun number count back =>
    (number.toNat = count ∧ count ≤ limit) ∧ back = []) fun number => ?_).congr
      fun count text => ?_
  · by_cases hlarge : number.toNat > limit
    · rw [if_pos hlarge]
      refine (Reading.Accepts.failed error).congr fun count back => ?_
      constructor
      · exact False.elim
      · rintro ⟨⟨rfl, hle⟩, -⟩
        omega
    · rw [if_neg hlarge]
      refine (Reading.Accepts.done _).congr fun count back => and_congr_left fun _ => ?_
      constructor
      · rintro rfl
        exact ⟨rfl, by omega⟩
      · rintro ⟨rfl, -⟩
        rfl
  · constructor
    · rintro ⟨number, _, _, rfl, ⟨⟨rfl, hle⟩, rfl⟩, rfl⟩
      exact ⟨hle, List.append_nil _⟩
    · rintro ⟨hle, rfl⟩
      have hnumber : (UInt64.ofNat count).toNat = count :=
        UInt64.toNat_ofNat_of_lt' (hle.trans_lt hlimit)
      exact ⟨_, _, [], rfl, ⟨⟨hnumber, hle⟩, rfl⟩, by rw [hnumber, List.append_nil]⟩

theorem accepts_range {α : Type} {limit : Nat} (hlimit : limit < addressable) (error : Error)
    {element : Reading Error α} {valid : α → Prop} {write : α → Spans}
    (h : element.Accepts addressable fun value text => valid value ∧ text = (write value).flatten) :
    (range limit error element).Accepts addressable fun values text =>
      (values.length ≤ limit ∧ ∀ value ∈ values, valid value) ∧
        text = (BinaryWriter.range write values).flatten := by
  refine ((accepts_countUpTo hlimit error).bind fun count => h.times_written count).congr
    fun values text => ?_
  rw [BinaryWriter.flatten_range]
  constructor
  · rintro ⟨_, _, _, ⟨hle, rfl⟩, ⟨rfl, hvalid, rfl⟩, rfl⟩
    exact ⟨⟨hle, hvalid⟩, rfl⟩
  · rintro ⟨⟨hle, hvalid⟩, rfl⟩
    exact ⟨_, _, _, ⟨hle, rfl⟩, ⟨rfl, hvalid, rfl⟩, rfl⟩

/-- A range of elements that are not checked. -/
theorem accepts_range_unchecked {α : Type} {limit : Nat} (hlimit : limit < addressable)
    (error : Error) {element : Reading Error α} {write : α → Spans}
    (h : element.Accepts addressable fun value text => text = (write value).flatten) :
    (range limit error element).Accepts addressable fun values text =>
      values.length ≤ limit ∧ text = (BinaryWriter.range write values).flatten := by
  have hchecked : element.Accepts addressable fun value text =>
      True ∧ text = (write value).flatten := h.congr fun _ _ => (true_and _).symm.to_iff
  refine (accepts_range hlimit error hchecked).congr fun values text => and_congr_left fun _ => ?_
  exact ⟨fun h => h.1, fun h => ⟨h, fun _ _ => trivial⟩⟩

end BinaryReader

end Cxxlens.Sdk.Store
