import Cxxlens.Foundation.BigEndian

set_option autoImplicit false

/-! # Length-prefixed byte strings

A byte string behind its length in eight big-endian bytes. Such a frame says where it ends, so a
text that starts with a frame has only one way to be taken apart, and so has a text that starts
with a known number of frames. -/

namespace Framing

open BigEndian

/-- A byte string behind its length in eight bytes. -/
def framed (bytes : List UInt8) : List UInt8 :=
  encode 8 bytes.length ++ bytes

@[simp] theorem length_framed (bytes : List UInt8) : (framed bytes).length = 8 + bytes.length := by
  rw [framed, List.length_append, length_encode]

/-- Two texts that start with numbers of one width agree on the numbers and on the rest. -/
theorem encode_append_inj {width a b : Nat} {s t : List UInt8} (ha : a < 256 ^ width)
    (hb : b < 256 ^ width) (h : encode width a ++ s = encode width b ++ t) : a = b ∧ s = t := by
  obtain ⟨hnumber, hrest⟩ := List.append_inj h (by rw [length_encode, length_encode])
  refine ⟨?_, hrest⟩
  rw [← decode_encode ha, hnumber, decode_encode hb]

theorem framed_append_inj {a b s t : List UInt8} (ha : a.length < 256 ^ 8)
    (hb : b.length < 256 ^ 8) (h : framed a ++ s = framed b ++ t) : a = b ∧ s = t := by
  rw [framed, framed, List.append_assoc, List.append_assoc] at h
  obtain ⟨hlength, hrest⟩ := encode_append_inj ha hb h
  exact List.append_inj hrest hlength

/-- As many frames on both sides: the framed strings agree one by one. -/
theorem flatMap_framed_append_inj {as bs : List (List UInt8)} {s t : List UInt8}
    (hlength : as.length = bs.length) (ha : ∀ a ∈ as, a.length < 256 ^ 8)
    (hb : ∀ b ∈ bs, b.length < 256 ^ 8)
    (h : as.flatMap framed ++ s = bs.flatMap framed ++ t) : as = bs ∧ s = t := by
  induction as generalizing bs with
  | nil =>
      obtain rfl := List.length_eq_zero_iff.1 hlength.symm
      exact ⟨rfl, h⟩
  | cons a as ih =>
      obtain ⟨b, bs, rfl⟩ := List.exists_cons_of_length_eq_add_one hlength.symm
      rw [List.flatMap_cons, List.flatMap_cons, List.append_assoc, List.append_assoc] at h
      obtain ⟨rfl, hrest⟩ :=
        framed_append_inj (ha a List.mem_cons_self) (hb b List.mem_cons_self) h
      obtain ⟨rfl, rfl⟩ := ih (Nat.succ.inj hlength) (fun x hx => ha x (List.mem_cons_of_mem _ hx))
        (fun x hx => hb x (List.mem_cons_of_mem _ hx)) hrest
      exact ⟨rfl, rfl⟩

/-- A frame is at least as long as what it holds, so the strings of a framed list are bounded by
    the whole. -/
theorem length_le_of_mem_flatMap {as : List (List UInt8)} {a : List UInt8} (h : a ∈ as) :
    8 + a.length ≤ (as.flatMap framed).length := by
  rw [List.length_flatMap, ← length_framed]
  exact List.single_le_sum (by simp) _ (List.mem_map_of_mem h)

end Framing
