import Mathlib

set_option autoImplicit false

/-! # Chaining over blocks

A list cut into blocks of a fixed size, and a state that takes in one block after another. A buffer
collects the items that do not fill a block yet; how they were handed over leaves no trace. -/

namespace Blocks

universe u v

variable {α : Type u} {σ : Type v}

/-- The complete blocks of a list. -/
def blocks (size : Nat) (items : List α) : List (List α) :=
  (List.range (items.length / size)).map fun index => (items.drop (size * index)).take size

theorem blocks_of_length {size : Nat} (hsize : 0 < size) {items : List α}
    (h : items.length = size) : blocks size items = [items] := by
  rw [blocks, h, Nat.div_self hsize]
  simp [← h]

/-- Complete blocks in front do not shift the cuts behind them. -/
theorem blocks_append {size : Nat} (hsize : 0 < size) {first second : List α}
    (h : size ∣ first.length) :
    blocks size (first ++ second) = blocks size first ++ blocks size second := by
  obtain ⟨count, hcount⟩ := h
  have hdiv : first.length / size = count := by rw [hcount, Nat.mul_div_cancel_left _ hsize]
  rw [blocks, blocks, blocks, List.length_append, Nat.add_div_of_dvd_right ⟨count, hcount⟩, hdiv,
    List.range_add, List.map_append]
  congr 1
  · refine List.map_congr_left fun index hindex => ?_
    have hroom : size * index + size ≤ first.length := by
      rw [hcount, ← Nat.mul_succ]
      exact Nat.mul_le_mul_left _ (List.mem_range.1 hindex)
    rw [List.drop_append_of_le_length (by omega), List.take_append_of_le_length]
    rw [List.length_drop]
    omega
  · rw [List.map_map]
    refine List.map_congr_left fun index _ => ?_
    have hoffset : size * (count + index) = first.length + size * index := by
      rw [hcount, Nat.mul_add]
    rw [Function.comp_apply, hoffset, List.drop_length_add_append]

/-! ## Pieces -/

/-- What is left behind the complete blocks. -/
def remainder (size : Nat) (items : List α) : List α :=
  items.drop (size * (items.length / size))

/-- A list cut into its complete blocks and what is left of it. -/
def pieces (size : Nat) (items : List α) : List (List α) :=
  blocks size items ++ if remainder size items = [] then [] else [remainder size items]

/-- Pieces as a list is cut into: all complete but the last one, and none empty. -/
def Cut (size : Nat) : List (List α) → Prop
  | [] => True
  | [last] => 0 < last.length ∧ last.length ≤ size
  | piece :: next :: rest => piece.length = size ∧ Cut size (next :: rest)

section Pieces

variable {size : Nat} {first buffer items : List α}

theorem blocks_of_short (h : items.length < size) : blocks size items = [] := by
  rw [blocks, Nat.div_eq_of_lt h]
  rfl

theorem remainder_of_short (h : items.length < size) : remainder size items = items := by
  rw [remainder, Nat.div_eq_of_lt h]
  rfl

theorem remainder_append (hsize : 0 < size) (h : size ∣ first.length) :
    remainder size (first ++ items) = remainder size items := by
  obtain ⟨count, hcount⟩ := h
  rw [remainder, List.length_append, Nat.add_div_of_dvd_right ⟨count, hcount⟩, hcount,
    Nat.mul_div_cancel_left _ hsize, Nat.mul_add, ← hcount, List.drop_length_add_append, remainder]

/-- Complete blocks in front are pieces of their own. -/
theorem pieces_append (hsize : 0 < size) (h : size ∣ first.length) :
    pieces size (first ++ items) = blocks size first ++ pieces size items := by
  rw [pieces, pieces, blocks_append hsize h, remainder_append hsize h, List.append_assoc]

theorem pieces_of_short (h : items.length < size) :
    pieces size items = if items = [] then [] else [items] := by
  rw [pieces, blocks_of_short h, remainder_of_short h, List.nil_append]

theorem pieces_nil (hsize : 0 < size) : pieces size ([] : List α) = [] :=
  pieces_of_short hsize

theorem pieces_of_length (hsize : 0 < size) (h : items.length = size) :
    pieces size items = [items] := by
  have hpieces := @pieces_append α size items [] hsize (dvd_of_eq h.symm)
  rwa [List.append_nil, blocks_of_length hsize h, pieces_nil hsize, List.append_nil] at hpieces

theorem pieces_of_lt (hsize : 0 < size) (h : size < items.length) :
    pieces size items = items.take size :: pieces size (items.drop size) := by
  have hfirst : (items.take size).length = size := List.length_take_of_le h.le
  have hpieces := @pieces_append α size (items.take size) (items.drop size) hsize
    (dvd_of_eq hfirst.symm)
  rwa [List.take_append_drop, blocks_of_length hsize hfirst] at hpieces

/-- There is one way only to cut a list. -/
theorem pieces_flatten (hsize : 0 < size) : ∀ {cut : List (List α)}, Cut size cut →
    pieces size cut.flatten = cut
  | [], _ => pieces_nil hsize
  | [last], h => by
    rw [List.flatten_singleton]
    rcases Nat.lt_or_eq_of_le h.2 with hshort | hfull
    · rw [pieces_of_short hshort, if_neg (List.ne_nil_of_length_pos h.1)]
    · exact pieces_of_length hsize hfull
  | piece :: next :: rest, h => by
    rw [List.flatten_cons, pieces_append hsize (dvd_of_eq h.1.symm), blocks_of_length hsize h.1,
      pieces_flatten hsize h.2, List.singleton_append]

/-- The pieces of a list cut it. -/
theorem cut_pieces (hsize : 0 < size) (items : List α) : Cut size (pieces size items) := by
  induction hlength : items.length using Nat.strong_induction_on generalizing items with
  | _ length ih =>
    subst hlength
    rcases Nat.lt_trichotomy items.length size with hshort | hfull | hlong
    · rw [pieces_of_short hshort]
      split_ifs with hnil
      · exact trivial
      · exact ⟨List.length_pos_iff.2 hnil, hshort.le⟩
    · rw [pieces_of_length hsize hfull]
      exact ⟨by omega, hfull.le⟩
    · have hrest := ih (items.drop size).length (by rw [List.length_drop]; omega) _ rfl
      rw [pieces_of_lt hsize hlong]
      generalize pieces size (items.drop size) = cut at hrest
      rcases cut with _ | ⟨next, rest⟩
      · exact ⟨by rw [List.length_take]; omega, List.length_take_le _ _⟩
      · exact ⟨List.length_take_of_le hlong.le, hrest⟩

theorem flatten_pieces (hsize : 0 < size) (items : List α) :
    (pieces size items).flatten = items := by
  induction hlength : items.length using Nat.strong_induction_on generalizing items with
  | _ length ih =>
    subst hlength
    rcases Nat.lt_trichotomy items.length size with hshort | hfull | hlong
    · rw [pieces_of_short hshort]
      split_ifs with hnil
      · exact hnil.symm
      · exact List.flatten_singleton
    · rw [pieces_of_length hsize hfull]
      exact List.flatten_singleton
    · rw [pieces_of_lt hsize hlong, List.flatten_cons,
        ih (items.drop size).length (by rw [List.length_drop]; omega) _ rfl,
        List.take_append_drop]

/-- One more piece behind complete ones. -/
theorem cut_concat (hsize : 0 < size) {last : List α} (hpositive : 0 < last.length)
    (hfits : last.length ≤ size) : ∀ {cut : List (List α)}, (∀ piece ∈ cut, piece.length = size) →
      Cut size (cut ++ [last])
  | [], _ => ⟨hpositive, hfits⟩
  | [piece], h => ⟨h piece List.mem_cons_self, hpositive, hfits⟩
  | piece :: next :: rest, h => ⟨h piece List.mem_cons_self,
      cut_concat hsize hpositive hfits fun other hother => h other (List.mem_cons_of_mem _ hother)⟩

/-- The pieces up to the last one are complete. -/
theorem Cut.split {before after : List (List α)} {piece : List α} :
    Cut size (before ++ piece :: after) →
      0 < size → 0 < piece.length ∧ piece.length ≤ size ∧ (after ≠ [] → piece.length = size) := by
  induction before with
  | nil =>
    intro h hsize
    rcases after with _ | ⟨_, _⟩
    · exact ⟨h.1, h.2, absurd rfl⟩
    · exact ⟨h.1 ▸ hsize, h.1.le, fun _ => h.1⟩
  | cons first before ih =>
    intro h hsize
    rcases before with _ | ⟨_, _⟩
    · exact ih h.2 hsize
    · exact ih h.2 hsize

/-- How many pieces there are. -/
theorem length_pieces (hsize : 0 < size) (items : List α) : (pieces size items).length =
    if items.length = 0 then 0 else 1 + (items.length - 1) / size := by
  induction hlength : items.length using Nat.strong_induction_on generalizing items with
  | _ length ih =>
    subst hlength
    rcases Nat.lt_trichotomy items.length size with hshort | hfull | hlong
    · rw [pieces_of_short hshort]
      rcases items with _ | ⟨item, rest⟩
      · rfl
      · rw [Nat.div_eq_of_lt (by omega)]
        rfl
    · rw [pieces_of_length hsize hfull, if_neg (by omega), Nat.div_eq_of_lt (by omega)]
      rfl
    · have hdrop : (items.drop size).length = items.length - size := List.length_drop
      rw [pieces_of_lt hsize hlong, List.length_cons, ih _ (by omega) _ rfl, hdrop,
        if_neg (by omega), if_neg (by omega)]
      have hdiv : (items.length - 1) / size = (items.length - size - 1) / size + 1 := by
        rw [← Nat.add_div_right _ hsize]
        congr 1
        omega
      omega

end Pieces

/-! ## Taking in -/

section Absorb

variable (compress : σ → List α → σ) (size : Nat)

/-- The state has taken in the complete blocks of `items`, the buffer holds the rest. -/
structure Absorbed (start : σ) (items : List α) (state : σ) (buffer : List α) : Prop where
  /-- The items in complete blocks. -/
  split : ∃ full, items = full ++ buffer ∧ size ∣ full.length ∧
    state = (blocks size full).foldl compress start
  short : buffer.length < size

variable {compress size} {start state : σ} {items buffer : List α}

theorem Absorbed.nil (hsize : 0 < size) : Absorbed compress size start [] start [] :=
  ⟨⟨[], rfl, Nat.dvd_zero _, by simp [blocks]⟩, hsize⟩

/-- More items stay in the buffer, -/
theorem Absorbed.push_short (h : Absorbed compress size start items state buffer) {more : List α}
    (hshort : (buffer ++ more).length < size) :
    Absorbed compress size start (items ++ more) state (buffer ++ more) := by
  obtain ⟨⟨full, rfl, hfull, hstate⟩, -⟩ := h
  exact ⟨⟨full, List.append_assoc .., hfull, hstate⟩, hshort⟩

/-- or fill a block. -/
theorem Absorbed.push_full (h : Absorbed compress size start items state buffer) {more : List α}
    (hblock : (buffer ++ more).length = size) :
    Absorbed compress size start (items ++ more) (compress state (buffer ++ more)) [] := by
  obtain ⟨⟨full, rfl, hfull, rfl⟩, hshort⟩ := h
  have hsize : 0 < size := by omega
  refine ⟨⟨full ++ (buffer ++ more), by simp, ?_, ?_⟩, hsize⟩
  · rw [List.length_append, hblock]
    exact Nat.dvd_add hfull (dvd_refl size)
  · rw [blocks_append hsize hfull, blocks_of_length hsize hblock]
    simp

/-- The blocks that a suffix completes. -/
theorem Absorbed.foldl_append (h : Absorbed compress size start items state buffer)
    (suffix : List α) :
    (blocks size (items ++ suffix)).foldl compress start =
      (blocks size (buffer ++ suffix)).foldl compress state := by
  obtain ⟨⟨full, rfl, hfull, rfl⟩, hshort⟩ := h
  have hsize : 0 < size := by omega
  rw [List.append_assoc, blocks_append hsize hfull, List.foldl_append]

/-- The buffer holds what is left of the length. -/
theorem Absorbed.length_mod (h : Absorbed compress size start items state buffer) :
    items.length % size = buffer.length := by
  obtain ⟨⟨full, rfl, ⟨count, hcount⟩, -⟩, hshort⟩ := h
  rw [List.length_append, hcount, Nat.mul_add_mod, Nat.mod_eq_of_lt hshort]

end Absorb

end Blocks
