import Mathlib

set_option autoImplicit false

/-! # Transfers in chunks

A sender cuts `total` bytes into chunks of a fixed size and announces how many there are; a receiver
checks that the chunks come in order and meet end to end. `Tiles` says that pieces lie end to end,
`Received` what a receiver knows after some of the chunks, and `Complete` that all of them have
come. A receiver that checks index, offset and size of each chunk keeps `Received`
(`Received.append`), and ends with a `Complete` transfer. -/

namespace Chunking

/-! ## Pieces end to end -/

/-- The pieces, given by offset and size, lie end to end from `first` to `last`. None is empty. -/
inductive Tiles : Nat → Nat → List (Nat × Nat) → Prop where
  | nil (first : Nat) : Tiles first first []
  | cons {first size last : Nat} {rest : List (Nat × Nat)} (hsize : 0 < size)
      (hrest : Tiles (first + size) last rest) : Tiles first last ((first, size) :: rest)

theorem Tiles.append {first last size : Nat} {pieces : List (Nat × Nat)}
    (h : Tiles first last pieces) (hsize : 0 < size) :
    Tiles first (last + size) (pieces ++ [(last, size)]) := by
  induction h with
  | nil first => exact .cons hsize (.nil _)
  | cons hhead _ ih => exact .cons hhead ih

theorem Tiles.le {first last : Nat} {pieces : List (Nat × Nat)} (h : Tiles first last pieces) :
    first ≤ last := by
  induction h with
  | nil first => exact le_refl _
  | cons hhead _ ih => omega

theorem Tiles.pos {first last : Nat} {pieces : List (Nat × Nat)} (h : Tiles first last pieces) :
    ∀ piece ∈ pieces, 0 < piece.2 := by
  induction h with
  | nil first => simp
  | cons hhead _ ih =>
      intro piece hpiece
      rcases List.mem_cons.1 hpiece with rfl | hmem
      · exact hhead
      · exact ih piece hmem

/-- **Every position of the range lies in a piece, and the pieces hold nothing else.** -/
theorem Tiles.exists_mem_iff {first last : Nat} {pieces : List (Nat × Nat)}
    (h : Tiles first last pieces) (position : Nat) :
    (∃ piece ∈ pieces, piece.1 ≤ position ∧ position < piece.1 + piece.2) ↔
      first ≤ position ∧ position < last := by
  induction h with
  | nil first =>
      simp only [List.not_mem_nil, false_and, exists_false, false_iff]
      omega
  | @cons first size last rest hsize hrest ih =>
      have hle := hrest.le
      simp only [List.mem_cons, exists_eq_or_imp, ih]
      omega

/-- **The pieces do not overlap**: an earlier one ends before a later one begins. -/
theorem Tiles.pairwise {first last : Nat} {pieces : List (Nat × Nat)}
    (h : Tiles first last pieces) :
    pieces.Pairwise fun earlier later => earlier.1 + earlier.2 ≤ later.1 := by
  induction h with
  | nil first => exact .nil
  | @cons first size last rest hsize hrest ih =>
      refine .cons (fun later hlater => ?_) ih
      by_contra hoverlap
      -- a piece is not empty, so its first position would lie before the range of the rest
      have hpos := hrest.pos later hlater
      have hrange := (hrest.exists_mem_iff later.1).1 ⟨later, hlater, le_refl _, by omega⟩
      omega

/-! ## Receiving chunks -/

/-- What a sender announces. -/
structure Shape where
  total : Nat
  chunkBytes : Nat
  chunkCount : Nat

/-- The announced count is the total divided by the chunk size, rounded up. -/
structure Shape.Valid (shape : Shape) : Prop where
  positive : 0 < shape.chunkBytes
  count : shape.chunkCount = (shape.total + shape.chunkBytes - 1) / shape.chunkBytes

/-- Rounding up, computed by division and remainder. -/
theorem roundUp_eq (total : Nat) {chunkBytes : Nat} (hpos : 0 < chunkBytes) :
    (total + chunkBytes - 1) / chunkBytes =
      total / chunkBytes + if total % chunkBytes = 0 then 0 else 1 := by
  have hdivision := Nat.div_add_mod total chunkBytes
  have hmod := Nat.mod_lt total hpos
  generalize total / chunkBytes = quotient at *
  generalize total % chunkBytes = remainder at *
  split_ifs with hzero
  · rw [← hdivision, hzero, Nat.add_zero, Nat.add_sub_assoc (by omega), Nat.mul_add_div hpos,
      Nat.div_eq_of_lt (by omega)]
  · rw [← hdivision, Nat.add_assoc, Nat.add_sub_assoc (by omega), Nat.mul_add_div hpos,
      show remainder + chunkBytes - 1 = chunkBytes + (remainder - 1) by omega,
      Nat.add_div_left _ hpos, Nat.div_eq_of_lt (by omega)]

/-- The place a chunk claims. -/
structure Place where
  index : Nat
  offset : Nat
  byteCount : Nat

/-- The chunks received so far are the first ones, and they lie end to end from the start. -/
structure Received (shape : Shape) (places : List Place) (observed : Nat) : Prop where
  valid : shape.Valid
  indices : places.map (·.index) = List.range places.length
  tiles : Tiles 0 observed (places.map fun place => (place.offset, place.byteCount))
  within : observed ≤ shape.total

/-- All announced chunks have been received, and they cover the announced bytes. -/
structure Complete (shape : Shape) (places : List Place) : Prop
    extends Received shape places shape.total where
  all : places.length = shape.chunkCount

theorem Received.nil {shape : Shape} (h : shape.Valid) : Received shape [] 0 :=
  ⟨h, rfl, .nil 0, Nat.zero_le _⟩

/-- **The receiver's checks keep the chunks in order and end to end.** -/
theorem Received.append {shape : Shape} {places : List Place} {observed : Nat}
    (h : Received shape places observed) {place : Place} (hindex : place.index = places.length)
    (hoffset : place.offset = observed) (hpos : 0 < place.byteCount)
    (hfits : place.byteCount ≤ shape.total - observed) :
    Received shape (places ++ [place]) (observed + place.byteCount) := by
  have hwithin := h.within
  refine ⟨h.valid, ?_, ?_, by omega⟩
  · rw [List.map_append, h.indices, List.length_append, List.length_singleton, List.range_succ,
      List.map_singleton, hindex]
  · rw [List.map_append, List.map_singleton, hoffset]
    exact h.tiles.append hpos

/-- An announcement of no chunks announces no bytes. -/
theorem Shape.Valid.total_eq_zero {shape : Shape} (h : shape.Valid) (hcount : shape.chunkCount = 0) :
    shape.total = 0 := by
  have hpos := h.positive
  have hdiv := h.count
  rw [hcount, eq_comm, Nat.div_eq_zero_iff] at hdiv
  omega

theorem Complete.nil {shape : Shape} (h : shape.Valid) (hcount : shape.chunkCount = 0) :
    Complete shape [] := by
  have htotal := h.total_eq_zero hcount
  exact ⟨htotal ▸ Received.nil h, hcount.symm⟩

end Chunking
