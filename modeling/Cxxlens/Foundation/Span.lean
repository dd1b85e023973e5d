import Mathlib

set_option autoImplicit false

/-! # Windows of a buffer

A decoder that walks a buffer by offsets is stated with two notions: the window `[first, last)` of
the buffer, and "the list `part` stands in the buffer at this offset". Concatenation of parts is
then addition of offsets, so an encoder's output can be compared with what a cursor reads without
ever splitting the buffer by hand. -/

namespace Span

variable {α : Type*}

/-- The window `[first, last)` of a buffer. -/
def slice (input : List α) (first last : Nat) : List α :=
  (input.drop first).take (last - first)

/-- `part` stands in `input` at `offset`. -/
def At (input : List α) (offset : Nat) (part : List α) : Prop :=
  part <+: input.drop offset

/-! ## Standing at an offset -/

@[simp] theorem at_nil (input : List α) (offset : Nat) : At input offset [] :=
  List.nil_prefix

theorem at_append (input : List α) (offset : Nat) (a b : List α) :
    At input offset (a ++ b) ↔ At input offset a ∧ At input (offset + a.length) b := by
  constructor
  · rintro ⟨rest, h⟩
    refine ⟨⟨b ++ rest, by rw [← h, List.append_assoc]⟩, ⟨rest, ?_⟩⟩
    rw [← List.drop_drop, ← h, List.append_assoc, List.drop_left]
  · rintro ⟨⟨restA, hA⟩, ⟨restB, hB⟩⟩
    refine ⟨restB, ?_⟩
    rw [← List.drop_drop, ← hA, List.drop_left] at hB
    rw [List.append_assoc, hB, hA]

theorem at_cons (input : List α) (offset : Nat) (x : α) (xs : List α) :
    At input offset (x :: xs) ↔ input[offset]? = some x ∧ At input (offset + 1) xs := by
  rw [show x :: xs = [x] ++ xs from rfl, at_append]
  refine and_congr ?_ Iff.rfl
  unfold At
  rcases h : input.drop offset with _ | ⟨y, ys⟩
  · have hlen : input.length ≤ offset := List.drop_eq_nil_iff.1 h
    simp [List.getElem?_eq_none hlen]
  · have hy : input[offset]? = some y := by
      rw [← Nat.add_zero offset, ← List.getElem?_drop, h]
      rfl
    rw [hy, List.cons_prefix_cons]
    simp [eq_comm]

theorem At.length_le {input : List α} {offset : Nat} {part : List α} (h : At input offset part) :
    part.length ≤ input.length - offset := by
  have hlen := List.IsPrefix.length_le h
  rwa [List.length_drop] at hlen

theorem At.end_le {input : List α} {offset : Nat} {part : List α} (h : At input offset part)
    (hpart : part ≠ []) : offset + part.length ≤ input.length := by
  have hlen := h.length_le
  have hpos := List.length_pos_iff.2 hpart
  omega

theorem At.eq_of_length {input : List α} {offset : Nat} {a b : List α} (ha : At input offset a)
    (hb : At input offset b) (hlen : a.length = b.length) : a = b :=
  (List.prefix_of_prefix_length_le ha hb hlen.le).eq_of_length hlen

/-- A part that starts the buffer and is as long as the buffer is the buffer. -/
theorem At.eq_self {input part : List α} (h : At input 0 part)
    (hlen : part.length = input.length) : part = input :=
  List.IsPrefix.eq_of_length (by simpa [At] using h) hlen

theorem at_self (input : List α) : At input 0 input := by
  simp [At]

/-! ## Windows -/

theorem At.slice_eq {input : List α} {offset : Nat} {part : List α} (h : At input offset part) :
    slice input offset (offset + part.length) = part := by
  obtain ⟨rest, hrest⟩ := h
  rw [slice, ← hrest, Nat.add_sub_cancel_left, List.take_left]

theorem length_slice {input : List α} {first last : Nat} (hlast : last ≤ input.length) :
    (slice input first last).length = last - first := by
  rw [slice, List.length_take, List.length_drop]
  omega

theorem at_slice (input : List α) (first last : Nat) : At input first (slice input first last) :=
  List.take_prefix _ _

end Span
