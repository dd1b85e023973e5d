import Cxxlens.Foundation.Span

set_option autoImplicit false

/-! # Columns of bytes

How a column store lays values out: words of one width, little-endian (`eq_words`), one bit a row
(`eq_bitmap`), and values of any length behind a table of offsets (`offsets_eq_some_iff`). For each of
them, bytes that read back as some values are the bytes that writing these values gives. -/

namespace Columnar

open Span

universe u

variable {α : Type u}

/-! ## Little-endian words -/

/-- The low `width` bytes of `value`, least significant first. -/
def encode : Nat → Nat → List UInt8
  | 0, _ => []
  | width + 1, value => UInt8.ofNat value :: encode width (value / 256)

/-- The number a byte string denotes, least significant byte first. -/
def decode : List UInt8 → Nat
  | [] => 0
  | byte :: rest => byte.toNat + 256 * decode rest

@[simp] theorem length_encode (width value : Nat) : (encode width value).length = width := by
  induction width generalizing value with
  | zero => rfl
  | succ width ih => rw [encode, List.length_cons, ih]

theorem decode_lt (bytes : List UInt8) : decode bytes < 256 ^ bytes.length := by
  induction bytes with
  | nil => simp [decode]
  | cons byte rest ih =>
      have hbyte := byte.toNat_lt
      rw [decode, List.length_cons, Nat.pow_succ]
      omega

theorem decode_encode {width value : Nat} (h : value < 256 ^ width) :
    decode (encode width value) = value := by
  induction width generalizing value with
  | zero =>
      rw [Nat.pow_zero] at h
      simp only [encode, decode]
      omega
  | succ width ih =>
      rw [Nat.pow_succ] at h
      have hlow : (UInt8.ofNat value).toNat = value % 256 := by simp
      rw [encode, decode, hlow, ih (by omega)]
      omega

theorem encode_decode (bytes : List UInt8) : encode bytes.length (decode bytes) = bytes := by
  induction bytes with
  | nil => rfl
  | cons byte rest ih =>
      have hbyte := byte.toNat_lt
      have hlow : UInt8.ofNat (byte.toNat + 256 * decode rest) = byte := by
        apply UInt8.toNat_inj.1
        rw [UInt8.toNat_ofNat']
        omega
      have hhigh : (byte.toNat + 256 * decode rest) / 256 = decode rest := by omega
      rw [List.length_cons, encode, decode, hlow, hhigh, ih]

theorem decode_eq_zero_iff (bytes : List UInt8) :
    decode bytes = 0 ↔ bytes.any (· != 0) = false := by
  induction bytes with
  | nil => simp [decode]
  | cons byte rest ih =>
      have hbyte : byte.toNat = 0 ↔ (byte != 0) = false := by
        rw [bne_eq_false_iff_eq, ← UInt8.toNat_inj]
        rfl
      rw [decode, List.any_cons, Bool.or_eq_false_iff, ← ih, ← hbyte]
      omega

/-- The word that starts at an offset. -/
def wordAt (width : Nat) (input : List UInt8) (offset : Nat) : Nat :=
  decode (slice input offset (offset + width))

theorem wordAt_of_at {width value offset : Nat} {input : List UInt8} (hvalue : value < 256 ^ width)
    (h : At input offset (encode width value)) : wordAt width input offset = value := by
  have hslice := h.slice_eq
  rw [length_encode] at hslice
  rw [wordAt, hslice, decode_encode hvalue]

theorem at_wordAt {width offset : Nat} {input : List UInt8} (h : offset + width ≤ input.length) :
    At input offset (encode width (wordAt width input offset)) := by
  have hlength : (slice input offset (offset + width)).length = width := by
    rw [length_slice h, Nat.add_sub_cancel_left]
  have hencode := encode_decode (slice input offset (offset + width))
  rw [hlength] at hencode
  rw [wordAt, hencode]
  exact at_slice _ _ _

theorem wordAt_lt (width : Nat) (input : List UInt8) (offset : Nat) :
    wordAt width input offset < 256 ^ width := by
  have hlength : (slice input offset (offset + width)).length ≤ width := by
    rw [slice, List.length_take]
    omega
  exact lt_of_lt_of_le (decode_lt _) (Nat.pow_le_pow_right (by decide) hlength)

/-! ## Columns of one width -/

section Words

variable {word : α → List UInt8} {width : Nat}

theorem length_words (hword : ∀ a, (word a).length = width) (items : List α) :
    (items.flatMap word).length = items.length * width := by
  induction items with
  | nil => simp
  | cons item rest ih =>
      rw [List.flatMap_cons, List.length_append, ih, hword, List.length_cons]
      ring

/-- The word of a row stands where its index says. -/
theorem at_words (hword : ∀ a, (word a).length = width) {items : List α} {index : Nat} {item : α}
    (h : items[index]? = some item) : At (items.flatMap word) (index * width) (word item) := by
  induction items generalizing index with
  | nil => simp at h
  | cons first rest ih =>
      cases index with
      | zero =>
          obtain rfl := Option.some.inj h
          rw [Nat.zero_mul, List.flatMap_cons]
          exact List.prefix_append _ _
      | succ index =>
          have hrest := ih (by simpa using h)
          rw [List.flatMap_cons]
          unfold At at hrest ⊢
          rwa [Nat.succ_mul, Nat.add_comm, ← List.drop_drop, ← hword first, List.drop_left,
            hword first]

/-- A column whose words are those of the rows is the column of the rows. -/
theorem eq_words (hword : ∀ a, (word a).length = width) {items : List α} {column : List UInt8}
    (hlength : column.length = items.length * width)
    (h : ∀ index item, items[index]? = some item → At column (index * width) (word item)) :
    column = items.flatMap word := by
  induction items generalizing column with
  | nil => simpa using hlength
  | cons first rest ih =>
      have hfirst := h 0 first rfl
      rw [Nat.zero_mul] at hfirst
      obtain ⟨tail, htail⟩ := hfirst
      rw [List.drop_zero] at htail
      subst htail
      rw [List.length_append, hword, List.length_cons] at hlength
      rw [List.flatMap_cons]
      refine congrArg (word first ++ ·) (ih ?_ ?_)
      · rw [Nat.succ_mul] at hlength
        omega
      · intro index item hitem
        have hat := h (index + 1) item (by simpa using hitem)
        unfold At at hat ⊢
        rwa [Nat.succ_mul, Nat.add_comm, ← List.drop_drop, ← hword first, List.drop_left,
          hword first] at hat

end Words

/-! ## Bit maps -/

/-- The bytes that hold one bit for each flag, the first flag in the lowest bit. -/
def bitmap (flags : List Bool) : List UInt8 :=
  (List.range ((flags.length + 7) / 8)).map fun byte =>
    UInt8.ofBitVec (BitVec.ofFnLE fun bit : Fin 8 => flags.getD (byte * 8 + bit.val) false)

/-- The bit of an index. -/
def bitAt (bytes : List UInt8) (index : Nat) : Bool :=
  (bytes.getD (index / 8) 0).toBitVec.getLsbD (index % 8)

/-- Some bit after the first `count` ones is set in the last byte. -/
def strayBits (count : Nat) (bytes : List UInt8) : Bool :=
  count % 8 != 0 && (bytes.getLastD 0).toBitVec >>> (count % 8) != 0

@[simp] theorem length_bitmap (flags : List Bool) :
    (bitmap flags).length = (flags.length + 7) / 8 := by
  simp [bitmap]

theorem bitAt_bitmap (flags : List Bool) (index : Nat) :
    bitAt (bitmap flags) index = flags.getD index false := by
  have hbit : index % 8 < 8 := Nat.mod_lt _ (by decide)
  have hindex : index / 8 * 8 + index % 8 = index := by omega
  by_cases hbyte : index / 8 < (flags.length + 7) / 8
  · have hget : (bitmap flags).getD (index / 8) 0 = UInt8.ofBitVec
        (BitVec.ofFnLE fun bit : Fin 8 => flags.getD (index / 8 * 8 + bit.val) false) := by
      simp [bitmap, List.getD_eq_getElem?_getD, List.getElem?_range hbyte]
    rw [bitAt, hget, BitVec.getLsbD_ofFnLE, dif_pos hbit]
    dsimp only
    rw [hindex]
  · have hget : (bitmap flags).getD (index / 8) 0 = 0 :=
      List.getD_eq_default _ _ (by rw [length_bitmap]; omega)
    rw [bitAt, hget, List.getD_eq_default _ _ (by omega)]
    simp

/-- No bit of the last byte is stray exactly when all bits from `count` on are clear. -/
theorem strayBits_eq_false_iff {count : Nat} {bytes : List UInt8}
    (hlength : bytes.length = (count + 7) / 8) :
    strayBits count bytes = false ↔ ∀ index, count ≤ index → bitAt bytes index = false := by
  by_cases haligned : count % 8 = 0
  · have hout : ∀ index, count ≤ index → bitAt bytes index = false := by
      intro index hindex
      rw [bitAt, List.getD_eq_default _ _ (by omega)]
      simp
    simpa [strayBits, haligned] using hout
  · have hlast : bytes.getLastD 0 = bytes.getD (count / 8) 0 := by
      rw [List.getLastD_eq_getLast?, List.getLast?_eq_getElem?, List.getD_eq_getElem?_getD, hlength]
      congr 2
      omega
    have hstray : strayBits count bytes = false ↔
        (bytes.getD (count / 8) 0).toBitVec >>> (count % 8) = 0 := by
      rw [strayBits, hlast]
      simp [haligned]
    rw [hstray]
    constructor
    · intro hzero index hindex
      by_cases hbyte : index / 8 = count / 8
      · have hbit := congrArg (BitVec.getLsbD · (index % 8 - count % 8)) hzero
        have hshift : count % 8 + (index % 8 - count % 8) = index % 8 := by omega
        simp only [BitVec.getLsbD_ushiftRight, hshift] at hbit
        rw [bitAt, hbyte, hbit]
        simp
      · rw [bitAt, List.getD_eq_default _ _ (by omega)]
        simp
    · intro hclear
      apply BitVec.eq_of_getLsbD_eq
      intro bit hbit
      rw [BitVec.getLsbD_ushiftRight]
      by_cases hrange : count % 8 + bit < 8
      · have hclearBit := hclear (count / 8 * 8 + (count % 8 + bit)) (by omega)
        rw [bitAt] at hclearBit
        rw [show (count / 8 * 8 + (count % 8 + bit)) / 8 = count / 8 by omega,
          show (count / 8 * 8 + (count % 8 + bit)) % 8 = count % 8 + bit by omega] at hclearBit
        rw [hclearBit]
        simp
      · rw [BitVec.getLsbD_of_ge _ _ (by omega)]
        simp

theorem strayBits_bitmap (flags : List Bool) : strayBits flags.length (bitmap flags) = false := by
  rw [strayBits_eq_false_iff (length_bitmap flags)]
  intro index hindex
  rw [bitAt_bitmap, List.getD_eq_default _ _ hindex]

/-- Bytes without stray bits are the bit map of the flags they read as. -/
theorem eq_bitmap {flags : List Bool} {bytes : List UInt8}
    (hlength : bytes.length = (flags.length + 7) / 8)
    (hstray : strayBits flags.length bytes = false)
    (h : ∀ index flag, flags[index]? = some flag → bitAt bytes index = flag) :
    bytes = bitmap flags := by
  rw [strayBits_eq_false_iff hlength] at hstray
  have hbits : ∀ index, bitAt bytes index = bitAt (bitmap flags) index := by
    intro index
    rw [bitAt_bitmap]
    by_cases hindex : index < flags.length
    · rw [h index flags[index] (List.getElem?_eq_getElem hindex), List.getD_eq_getElem _ _ hindex]
    · rw [hstray index (by omega), List.getD_eq_default _ _ (by omega)]
  apply List.ext_getElem (by rw [hlength, length_bitmap])
  intro byte hbyte hbyte'
  apply UInt8.toBitVec_inj.1
  apply BitVec.eq_of_getLsbD_eq
  intro bit hbit
  have hbitEq := hbits (byte * 8 + bit)
  rw [bitAt, bitAt, show (byte * 8 + bit) / 8 = byte by omega,
    show (byte * 8 + bit) % 8 = bit by omega, List.getD_eq_getElem _ _ hbyte,
    List.getD_eq_getElem _ _ hbyte'] at hbitEq
  exact hbitEq

/-! ## Offset tables -/

/-- Where the pieces begin and the last one ends, when the first begins at `start`. -/
def offsetsFrom (start : Nat) : List (List α) → List Nat
  | [] => [start]
  | piece :: rest => start :: offsetsFrom (start + piece.length) rest

/-- The table of the pieces: the offsets in four bytes each. -/
def offsetTable (pieces : List (List α)) : List UInt8 :=
  (offsetsFrom 0 pieces).flatMap (encode 4)

/-- The pieces between neighbouring offsets. -/
def piecesOf (data : List α) : List Nat → List (List α)
  | first :: last :: rest => slice data first last :: piecesOf data (last :: rest)
  | _ => []

/-- The offsets of a table over data of a size: they ascend, from the start of the data to its end. -/
def offsets (table : List UInt8) (dataSize count : Nat) : Option (List Nat) :=
  let values := (List.range (count + 1)).map fun index => wordAt 4 table (index * 4)
  if (values.zip values.tail).all (fun pair => pair.1 ≤ pair.2) = true ∧
      values.all (· ≤ dataSize) = true ∧ values.head? = some 0 ∧ values.getLast? = some dataSize then
    some values
  else none

theorem offsetsFrom_ne_nil (start : Nat) (pieces : List (List α)) : offsetsFrom start pieces ≠ [] := by
  cases pieces <;> simp [offsetsFrom]

@[simp] theorem length_offsetsFrom (start : Nat) (pieces : List (List α)) :
    (offsetsFrom start pieces).length = pieces.length + 1 := by
  induction pieces generalizing start with
  | nil => rfl
  | cons piece rest ih => rw [offsetsFrom, List.length_cons, ih, List.length_cons]

@[simp] theorem head?_offsetsFrom (start : Nat) (pieces : List (List α)) :
    (offsetsFrom start pieces).head? = some start := by
  cases pieces <;> rfl

theorem getLast?_offsetsFrom (start : Nat) (pieces : List (List α)) :
    (offsetsFrom start pieces).getLast? = some (start + pieces.flatten.length) := by
  induction pieces generalizing start with
  | nil => rfl
  | cons piece rest ih =>
      rw [offsetsFrom, List.getLast?_cons, ih, Option.getD_some, List.flatten_cons,
        List.length_append, Nat.add_assoc]

theorem offsetsFrom_bounds (start : Nat) (pieces : List (List α)) :
    ∀ offset ∈ offsetsFrom start pieces, start ≤ offset ∧ offset ≤ start + pieces.flatten.length := by
  induction pieces generalizing start with
  | nil => simp [offsetsFrom]
  | cons piece rest ih =>
      intro offset hoffset
      rw [List.flatten_cons, List.length_append]
      rcases List.mem_cons.1 hoffset with rfl | hoffset
      · omega
      · have hbounds := ih _ _ hoffset
        omega

theorem offsetsFrom_isChain (start : Nat) (pieces : List (List α)) :
    (offsetsFrom start pieces).IsChain (· ≤ ·) := by
  induction pieces generalizing start with
  | nil => exact .singleton _
  | cons piece rest ih =>
      rw [offsetsFrom, List.isChain_cons]
      refine ⟨?_, ih _⟩
      intro next hnext
      rw [head?_offsetsFrom, Option.mem_some_iff] at hnext
      omega

/-- Neighbours in a list, compared pair by pair. -/
theorem isChain_iff_zip_tail {values : List Nat} :
    (values.zip values.tail).all (fun pair => pair.1 ≤ pair.2) = true ↔
      values.IsChain (· ≤ ·) := by
  induction values with
  | nil => simp
  | cons first rest ih =>
      cases rest with
      | nil => simp
      | cons second rest =>
          rw [List.isChain_cons_cons, ← ih]
          simp

/-- The pieces between ascending offsets make up the data from the first offset on. -/
theorem piecesOf_spec {data : List α} {first : Nat} {rest : List Nat}
    (hchain : (first :: rest).IsChain (· ≤ ·))
    (hlast : (first :: rest).getLast? = some data.length) :
    (piecesOf data (first :: rest)).flatten = data.drop first ∧
      offsetsFrom first (piecesOf data (first :: rest)) = first :: rest ∧ first ≤ data.length := by
  induction rest generalizing first with
  | nil =>
      obtain rfl : first = data.length := by simpa using hlast
      simp [piecesOf, offsetsFrom]
  | cons second rest ih =>
      rw [List.isChain_cons_cons] at hchain
      rw [List.getLast?_cons_cons] at hlast
      obtain ⟨hflatten, hoffsets, hsecond⟩ := ih hchain.2 hlast
      have hlength := @length_slice _ data first _ hsecond
      have hnext : first + (slice data first second).length = second := by
        rw [hlength]
        have hle := hchain.1
        omega
      refine ⟨?_, ?_, hchain.1.trans hsecond⟩
      · rw [piecesOf, List.flatten_cons, hflatten, slice]
        have hdrop : data.drop second = (data.drop first).drop (second - first) := by
          rw [List.drop_drop]
          congr 1
          have hle := hchain.1
          omega
        rw [hdrop, List.take_append_drop]
      · rw [piecesOf, offsetsFrom, hnext, hoffsets]

/-- A table has offsets exactly when it is the table of pieces that make up the data. -/
theorem offsets_eq_some_iff {table : List UInt8} {data : List α} {count : Nat} {values : List Nat}
    (htable : table.length = (count + 1) * 4) (hdata : data.length < 2 ^ 32) :
    offsets table data.length count = some values ↔
      ∃ pieces : List (List α), pieces.length = count ∧ pieces.flatten = data ∧
        values = offsetsFrom 0 pieces ∧ table = offsetTable pieces := by
  have hread : ∀ index, index < count + 1 →
      At table (index * 4) (encode 4 (wordAt 4 table (index * 4))) :=
    fun index hindex => at_wordAt (by omega)
  constructor
  · intro h
    unfold offsets at h
    dsimp only at h
    rw [Option.ite_none_right_eq_some, isChain_iff_zip_tail] at h
    obtain ⟨⟨hchain, -, hfirst, hlast⟩, h⟩ := h
    obtain rfl := Option.some.inj h
    generalize hvalues : (List.range (count + 1)).map
      (fun index => wordAt 4 table (index * 4)) = values at hchain hfirst hlast
    have hlength : values.length = count + 1 := by simp [← hvalues]
    cases values with
    | nil => simp at hlength
    | cons first rest =>
        obtain rfl : first = 0 := by simpa using hfirst
        obtain ⟨hflatten, hoffsets, -⟩ := piecesOf_spec hchain hlast
        refine ⟨piecesOf data (0 :: rest), ?_, by simpa using hflatten, hoffsets.symm, ?_⟩
        · have hcount := congrArg List.length hoffsets
          rw [length_offsetsFrom, hlength] at hcount
          omega
        · rw [offsetTable, hoffsets]
          refine eq_words (length_encode 4) (by rw [htable, hlength]) ?_
          intro index value hvalue
          rw [← hvalues, List.getElem?_map, Option.map_eq_some_iff] at hvalue
          obtain ⟨other, hother, rfl⟩ := hvalue
          obtain ⟨hrange, rfl⟩ := List.getElem?_eq_some_iff.1 hother
          rw [List.length_range] at hrange
          rw [List.getElem_range]
          exact hread index hrange
  · rintro ⟨pieces, rfl, rfl, rfl, rfl⟩
    have hvalues : (List.range (pieces.length + 1)).map
        (fun index => wordAt 4 (offsetTable pieces) (index * 4)) = offsetsFrom 0 pieces := by
      apply List.ext_getElem (by simp)
      intro index hindex hindex'
      rw [List.getElem_map, List.getElem_range]
      have hbound := (offsetsFrom_bounds 0 pieces _ (List.getElem_mem hindex')).2
      exact wordAt_of_at (by omega)
        (at_words (length_encode 4) (List.getElem?_eq_getElem hindex'))
    unfold offsets
    dsimp only
    rw [hvalues, if_pos]
    refine ⟨isChain_iff_zip_tail.2 (offsetsFrom_isChain 0 pieces), ?_, head?_offsetsFrom 0 pieces, ?_⟩
    · rw [List.all_eq_true]
      intro offset hoffset
      have hbound := (offsetsFrom_bounds 0 pieces offset hoffset).2
      exact decide_eq_true (by omega)
    · rw [getLast?_offsetsFrom, Nat.zero_add]

theorem getD_offsetsFrom_succ {pieces : List (List α)} {index : Nat} {piece : List α}
    (h : pieces[index]? = some piece) (start : Nat) :
    (offsetsFrom start pieces).getD (index + 1) 0 =
      (offsetsFrom start pieces).getD index 0 + piece.length := by
  induction pieces generalizing index start with
  | nil => simp at h
  | cons first rest ih =>
      cases index with
      | zero =>
          obtain rfl := Option.some.inj h
          cases rest <;> rfl
      | succ index =>
          rw [offsetsFrom, List.getD_cons_succ, List.getD_cons_succ]
          exact ih (by simpa using h) _

/-- A piece lies between its offset and the next one. -/
theorem slice_piece {pieces : List (List α)} {index : Nat} {piece : List α}
    (h : pieces[index]? = some piece) (start : Nat) (before : List α)
    (hbefore : before.length = start) :
    slice (before ++ pieces.flatten) ((offsetsFrom start pieces).getD index 0)
      ((offsetsFrom start pieces).getD (index + 1) 0) = piece := by
  induction pieces generalizing index start before with
  | nil => simp at h
  | cons first rest ih =>
      cases index with
      | zero =>
          obtain rfl := Option.some.inj h
          have hsecond : (offsetsFrom start (first :: rest)).getD 1 0 = start + first.length := by
            cases rest <;> rfl
          rw [hsecond, offsetsFrom, List.getD_cons_zero, slice, List.flatten_cons, ← hbefore,
            List.drop_left, Nat.add_sub_cancel_left, List.take_left]
      | succ index =>
          have hrest := ih (by simpa using h) (start + first.length) (before ++ first)
            (by rw [List.length_append, hbefore])
          rw [offsetsFrom, List.getD_cons_succ, List.getD_cons_succ, List.flatten_cons,
            ← List.append_assoc]
          exact hrest

end Columnar
