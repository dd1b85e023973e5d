import Mathlib

set_option autoImplicit false

/-! # Files that are written at an offset

A file is its items. A write stores items at an offset, behind fill where the file ends before it, and
may be answered piece by piece; a read is answered piece by piece too. What is before the offset of a
write stays, and a write that is answered in full is there to be read. -/

namespace SparseFile

universe u

variable {α ε : Type u}

/-- The file with `items` stored at `offset`. -/
def store (fill : α) (file : List α) (offset : Nat) (items : List α) : List α :=
  file.take offset ++ List.replicate (offset - file.length) fill ++ items ++
    file.drop (offset + items.length)

/-- What the file has of the `size` items from `offset` on. -/
def slice (file : List α) (offset size : Nat) : List α :=
  (file.drop offset).take size

/-- Behind a prefix of the file, a write extends the prefix. -/
theorem prefix_store {fill : α} {file kept : List α} (h : kept <+: file) (items : List α) :
    kept ++ items <+: store fill file kept.length items := by
  have hfill : kept.length - file.length = 0 := Nat.sub_eq_zero_of_le h.length_le
  rw [store, hfill, List.replicate_zero, List.append_nil, ← List.prefix_iff_eq_take.1 h]
  exact List.prefix_append _ _

/-- What a prefix holds can be read from the file. -/
theorem slice_of_front {file before items rest : List α}
    (h : before ++ items ++ rest <+: file) : slice file before.length items.length = items := by
  obtain ⟨tail, rfl⟩ := h
  rw [slice, List.append_assoc, List.append_assoc, List.drop_left, List.take_left]

/-- Neighbouring slices are one slice. -/
theorem slice_append (file : List α) (offset a b : Nat) :
    slice file offset a ++ slice file (offset + a) b = slice file offset (a + b) := by
  rw [slice, slice, slice, ← List.drop_drop, List.take_add]

/-! ## Writing in pieces -/

/-- The answer to one request to write. -/
inductive Stored (ε : Type u) where
  | stored (count : Nat)
  | failed (error : ε)

/-- The loop that writes `items` from `offset` on, in at most `fuel` requests; `past` is what a
    request past the last offset fails with. -/
def storeLoop (fill : α) (lastOffset : Nat) (past stuck : ε) (answer : Nat → Stored ε) :
    Nat → List α → Nat → List α → List α × Except ε Unit
  | _, file, _, [] => (file, .ok ())
  | 0, file, _, _ => (file, .error stuck)
  | fuel + 1, file, offset, item :: items =>
    if offset > lastOffset then (file, .error past)
    else
      match answer offset with
      | .failed error => (file, .error error)
      | .stored 0 => (file, .error stuck)
      | .stored (count + 1) =>
        let piece := (item :: items).take (count + 1)
        storeLoop fill lastOffset past stuck answer fuel (store fill file offset piece)
          (offset + piece.length) ((item :: items).drop (count + 1))

/-- However the loop ends it keeps what was before, and if it ends well it has written all. -/
theorem storeLoop_spec {fill : α} {lastOffset : Nat} {past stuck : ε} {answer : Nat → Stored ε}
    {fuel : Nat} {file kept items : List α} (h : kept <+: file) {file' : List α}
    {outcome : Except ε Unit}
    (hloop : storeLoop fill lastOffset past stuck answer fuel file kept.length items =
      (file', outcome)) :
    kept <+: file' ∧ (outcome = .ok () → kept ++ items <+: file') := by
  induction fuel generalizing file kept items with
  | zero =>
      cases items with
      | nil =>
          rw [storeLoop, Prod.mk.injEq] at hloop
          obtain ⟨rfl, rfl⟩ := hloop
          exact ⟨h, fun _ => by rwa [List.append_nil]⟩
      | cons item items =>
          simp only [storeLoop, Prod.mk.injEq] at hloop
          obtain ⟨rfl, rfl⟩ := hloop
          exact ⟨h, nofun⟩
  | succ fuel ih =>
      cases items with
      | nil =>
          rw [storeLoop, Prod.mk.injEq] at hloop
          obtain ⟨rfl, rfl⟩ := hloop
          exact ⟨h, fun _ => by rwa [List.append_nil]⟩
      | cons item items =>
          rw [storeLoop] at hloop
          split_ifs at hloop with hpast
          · obtain ⟨rfl, rfl⟩ := Prod.mk.inj hloop
            exact ⟨h, nofun⟩
          · rcases hanswer : answer kept.length with (_ | count) | error
            · simp only [hanswer, Prod.mk.injEq] at hloop
              obtain ⟨rfl, rfl⟩ := hloop
              exact ⟨h, nofun⟩
            · simp only [hanswer] at hloop
              rw [← List.length_append] at hloop
              -- the piece extends the prefix, and the rest of the loop extends that
              obtain ⟨hkept, hdone⟩ := ih (prefix_store h _) hloop
              refine ⟨(List.prefix_append _ _).trans hkept, fun hok => ?_⟩
              have hall := hdone hok
              rwa [List.append_assoc, List.take_append_drop] at hall
            · simp only [hanswer, Prod.mk.injEq] at hloop
              obtain ⟨rfl, rfl⟩ := hloop
              exact ⟨h, nofun⟩

/-! ## Reading in pieces -/

/-- The loop that reads `size` items from `offset` on, in at most `fuel` requests; a request is
    answered with what the file has of it, up to a positive count of items. -/
def loadLoop (lastOffset : Nat) (past stuck : ε) (answer : Nat → Stored ε) (file : List α) :
    Nat → Nat → Nat → Except ε (List α)
  | _, _, 0 => .ok []
  | 0, _, _ => .error stuck
  | fuel + 1, offset, size + 1 =>
    if offset > lastOffset then .error past
    else
      match answer offset with
      | .failed error => .error error
      | .stored count =>
        let piece := slice file offset (min (count + 1) (size + 1))
        if piece = [] then .error stuck
        else do
          let rest ← loadLoop lastOffset past stuck answer file fuel (offset + piece.length)
            (size + 1 - piece.length)
          .ok (piece ++ rest)

/-- What the loop reads is what the file has. -/
theorem loadLoop_spec {lastOffset : Nat} {past stuck : ε} {answer : Nat → Stored ε}
    {file : List α} {fuel offset size : Nat} {items : List α}
    (h : loadLoop lastOffset past stuck answer file fuel offset size = .ok items) :
    items = slice file offset size ∧ items.length = size := by
  induction fuel generalizing offset size items with
  | zero =>
      cases size with
      | zero =>
          obtain rfl := Except.ok.inj h
          exact ⟨by simp [slice], rfl⟩
      | succ size => cases h
  | succ fuel ih =>
      cases size with
      | zero =>
          obtain rfl := Except.ok.inj h
          exact ⟨by simp [slice], rfl⟩
      | succ size =>
          rw [loadLoop] at h
          split_ifs at h with hpast
          rcases hanswer : answer offset with count | error
          · simp only [hanswer] at h
            split_ifs at h with hpiece
            generalize hslice : slice file offset (min (count + 1) (size + 1)) = piece at h
            rcases hrest : loadLoop lastOffset past stuck answer file fuel
              (offset + piece.length) (size + 1 - piece.length) with error | rest
            · rw [hrest] at h
              cases h
            · rw [hrest] at h
              obtain rfl := Except.ok.inj h
              obtain ⟨hrest, hlength⟩ := ih hrest
              have hle : piece.length ≤ size + 1 := by
                rw [← hslice, slice, List.length_take]
                omega
              -- the piece and what is read behind it are next to each other in the file
              have hpieceEq : piece = slice file offset piece.length := by
                rw [← hslice, slice, List.length_take, slice, List.take_eq_take_iff]
                omega
              constructor
              · calc piece ++ rest
                    = slice file offset piece.length ++ rest := by rw [← hpieceEq]
                  _ = slice file offset (size + 1) := by
                    rw [hrest, slice_append, Nat.add_sub_cancel' hle]
              · rw [List.length_append, hlength]
                omega
          · simp only [hanswer] at h
            cases h

end SparseFile
