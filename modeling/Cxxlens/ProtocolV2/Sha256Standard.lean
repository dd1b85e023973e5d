import Cxxlens.Foundation.SecureHash
import Cxxlens.ProtocolV2.Sha256
import Cxxlens.Sdk.Sha256Words

set_option autoImplicit false

/-! # The workspace computes SHA-256

However the bytes are handed to `update`, the workspace has taken in the complete blocks of them and
buffers the rest; `finish` pads in place, over one block or two, to what the standard pads to. -/

namespace Cxxlens.ProtocolV2

open SecureHash Blocks

theorem sha256Constants_eq : sha256Constants = constants := by
  rw [constants_eq]
  rfl

theorem ofVector_initial : Words.ofVector Sha256Workspace.initial.state = initial := by
  rw [initial_eq]
  rfl

theorem stateBytes_eq (state : Vector UInt32 8) :
    stateBytes state = (Words.ofVector state).toList.flatMap fun word =>
      BigEndian.encode 4 word.toNat := by
  rw [Words.toList_ofVector, stateBytes]

theorem ofVector_sha256Round (working : Vector UInt32 8) (constant word : UInt32) :
    Words.ofVector (sha256Round working constant word) =
      round (Words.ofVector working) constant word := by
  rfl

/-! ## The schedule -/

theorem blockWords_eq (count : Nat) : ∀ {block : Bytes}, block.length = 4 * count →
    blockWords block = (List.range count).map (blockWord block) := by
  induction count with
  | zero =>
      intro block h
      obtain rfl := List.length_eq_zero_iff.1 h
      rfl
  | succ count ih =>
      intro block h
      match block, h with
      | a :: b :: c :: d :: rest, h =>
        have hrest : rest.length = 4 * count := by
          simp only [List.length_cons] at h
          omega
        rw [blockWords, ih hrest, List.range_succ_eq_map, List.map_cons, List.map_map]
        congr 1

/-- The words computed so far are those of the standard, and the next ones follow. -/
theorem extendSchedule_eq {block : Bytes} (count : Nat) : ∀ {length : Nat}, 16 ≤ length →
    extendSchedule count ((List.range length).map (schedule block)) =
      (List.range (length + count)).map (schedule block) := by
  induction count with
  | zero =>
      intro length _
      rfl
  | succ count ih =>
      intro length hlength
      have hword : ∀ back, 0 < back → back ≤ 16 →
          ((List.range length).map (schedule block)).getD (length - back) 0 =
            schedule block (length - back) := by
        intro back hpos hle
        simp [show length - back < length by omega]
      rw [extendSchedule]
      simp only [List.length_map, List.length_range]
      rw [hword 15 (by omega) (by omega), hword 2 (by omega) (by omega),
        hword 16 (by omega) (by omega), hword 7 (by omega) (by omega)]
      have hnext : schedule block length = schedule block (length - 16) +
          lowerSigma0 (schedule block (length - 15)) + schedule block (length - 7) +
          lowerSigma1 (schedule block (length - 2)) := by
        rw [schedule_of_le hlength]
        ac_rfl
      have hextend : (List.range length).map (schedule block) ++ [schedule block (length - 16) +
          lowerSigma0 (schedule block (length - 15)) + schedule block (length - 7) +
          lowerSigma1 (schedule block (length - 2))] =
            (List.range (length + 1)).map (schedule block) := by
        rw [List.range_succ, List.map_append, List.map_singleton, hnext]
      have hgoal := ih (show 16 ≤ length + 1 by omega)
      rw [← hextend, Nat.add_right_comm] at hgoal
      exact hgoal

theorem ofVector_transform (state : Vector UInt32 8) {block : Bytes} (h : block.length = 64) :
    Words.ofVector (Sha256Workspace.transform state block) =
      compress (Words.ofVector state) block := by
  have hfirst : blockWords block = (List.range 16).map (schedule block) := by
    rw [blockWords_eq 16 h]
    refine List.map_congr_left fun t ht => ?_
    rw [schedule_of_lt (List.mem_range.1 ht)]
  have hzip : List.zip sha256Constants (extendSchedule 48 (blockWords block)) =
      (List.range 64).map fun t => (constants.getD t 0, schedule block t) := by
    rw [hfirst, extendSchedule_eq 48 le_rfl, sha256Constants_eq]
    nth_rewrite 1 [constants_eq_map]
    rw [List.zip_map']
  have hrounds : ∀ (items : List Nat) (working : Vector UInt32 8),
      Words.ofVector (items.foldl (fun working t =>
          sha256Round working (constants.getD t 0) (schedule block t)) working) =
        items.foldl (fun working t => round working (constants.getD t 0) (schedule block t))
          (Words.ofVector working) := by
    intro items
    induction items with
    | nil => exact fun _ => rfl
    | cons t rest ih => exact fun working => ih _
  rw [Sha256Workspace.transform, Words.ofVector_zipWith, compress]
  simp only [hzip, List.foldl_map]
  rw [hrounds]

/-! ## Updates -/

/-- The workspace after the bytes `done`. -/
structure Sha256Workspace.Holds (workspace : Sha256Workspace) (done : Bytes) : Prop where
  absorbed : Absorbed compress 64 SecureHash.initial done (Words.ofVector workspace.state)
    workspace.buffer
  bitLength : workspace.bitLength = UInt64.ofNat (8 * done.length)

theorem Sha256Workspace.holds_initial : Sha256Workspace.initial.Holds [] :=
  ⟨by rw [ofVector_initial]; exact Absorbed.nil (by decide), rfl⟩

theorem Sha256Workspace.absorbed_push {workspace : Sha256Workspace} {done : Bytes}
    (h : Absorbed compress 64 SecureHash.initial done (Words.ofVector workspace.state)
      workspace.buffer) (item : UInt8) :
    Absorbed compress 64 SecureHash.initial (done ++ [item])
      (Words.ofVector (workspace.push item).state) (workspace.push item).buffer := by
  rw [push]
  split_ifs with hfull
  · rw [ofVector_transform _ hfull]
    exact h.push_full hfull
  · have hlength := h.short
    refine h.push_short ?_
    rw [List.length_append, List.length_singleton] at hfull ⊢
    omega

theorem Sha256Workspace.absorbed_foldl (input : Bytes) : ∀ {workspace : Sha256Workspace}
    {done : Bytes}, Absorbed compress 64 SecureHash.initial done (Words.ofVector workspace.state)
        workspace.buffer →
      Absorbed compress 64 SecureHash.initial (done ++ input)
        (Words.ofVector (input.foldl Sha256Workspace.push workspace).state)
        (input.foldl Sha256Workspace.push workspace).buffer := by
  induction input with
  | nil =>
      intro workspace done h
      simpa using h
  | cons item rest ih =>
      intro workspace done h
      simpa using ih (absorbed_push h item)

@[simp] theorem Sha256Workspace.bitLength_foldl (input : Bytes) :
    ∀ workspace : Sha256Workspace,
      (input.foldl Sha256Workspace.push workspace).bitLength = workspace.bitLength := by
  induction input with
  | nil => exact fun _ => rfl
  | cons item rest ih =>
      intro workspace
      rw [List.foldl_cons, ih, push]
      split_ifs <;> rfl

/-- An update takes in its bytes behind those before. -/
theorem Sha256Workspace.Holds.update {workspace : Sha256Workspace} {done : Bytes}
    (h : workspace.Holds done) (input : Bytes) :
    (workspace.update input).Holds (done ++ input) where
  absorbed := absorbed_foldl input h.absorbed
  bitLength := by
    rw [Sha256Workspace.update]
    simp only [bitLength_foldl, h.bitLength, List.length_append]
    apply UInt64.toNat_inj.1
    simp [Nat.mul_comm, Nat.add_mul]

/-- However the bytes are split, the workspace holds all of them. -/
theorem Sha256Workspace.Holds.foldl (chunks : List Bytes) : ∀ {workspace : Sha256Workspace}
    {done : Bytes}, workspace.Holds done →
      (chunks.foldl Sha256Workspace.update workspace).Holds (done ++ chunks.flatten) := by
  induction chunks with
  | nil =>
      intro workspace done h
      simpa using h
  | cons chunk rest ih =>
      intro workspace done h
      simpa using ih (h.update chunk)

/-! ## The last blocks -/

/-- Room for the length behind the delimiter: one block. -/
theorem Sha256Workspace.finish_bytes_short {workspace : Sha256Workspace}
    (h : workspace.buffer.length < 56) :
    workspace.finish.bytes = stateBytes (transform workspace.state
      (workspace.buffer ++ 0x80 :: (List.replicate (55 - workspace.buffer.length) 0 ++
        BigEndian.encode 8 workspace.bitLength.toNat))) := by
  rw [finish]
  simp only [List.length_append, List.length_singleton]
  rw [if_neg (by omega)]
  have hpad : 56 - (workspace.buffer ++ [0x80]).length = 55 - workspace.buffer.length := by
    rw [List.length_append, List.length_singleton]
    omega
  simp only [hpad]
  rw [List.append_assoc, List.append_assoc, List.singleton_append]

/-- No room for it: the zeros go over the end of the block. -/
theorem Sha256Workspace.finish_bytes_long {workspace : Sha256Workspace}
    (h : 56 ≤ workspace.buffer.length) :
    workspace.finish.bytes = stateBytes (transform
      (transform workspace.state
        (workspace.buffer ++ 0x80 :: List.replicate (63 - workspace.buffer.length) 0))
      (List.replicate 56 0 ++ BigEndian.encode 8 workspace.bitLength.toNat)) := by
  rw [finish]
  simp only [List.length_append, List.length_singleton]
  rw [if_pos (by omega)]
  have hpad : 64 - (workspace.buffer.length + 1) = 63 - workspace.buffer.length := by omega
  simp only [hpad, List.length_nil, Nat.sub_zero, List.nil_append]
  rw [List.append_assoc, List.singleton_append]

/-- What `finish` appends completes the padding of the standard. -/
theorem Sha256Workspace.Holds.finish_bytes {workspace : Sha256Workspace} {done : Bytes}
    (h : workspace.Holds done) (hsize : done.length < 2 ^ 61) :
    workspace.finish.bytes = digest done := by
  have hmod := h.absorbed.length_mod
  have hshort := h.absorbed.short
  have hbits : workspace.bitLength.toNat = 8 * done.length := by
    rw [h.bitLength, UInt64.toNat_ofNat_of_lt']
    rw [UInt64.size]
    omega
  rw [digest, hashWords, pad, h.absorbed.foldl_append, ← hbits]
  by_cases hroom : workspace.buffer.length < 56
  · have hzeros : zeroCount done.length = 55 - workspace.buffer.length := by
      rw [zeroCount, hmod]
      omega
    rw [finish_bytes_short hroom, stateBytes_eq, hzeros, ofVector_transform, blocks_of_length]
    · rfl
    · decide
    · simp
      omega
    · simp
      omega
  · have hzeros : zeroCount done.length = (63 - workspace.buffer.length) + 56 := by
      rw [zeroCount, hmod]
      omega
    have hfirst : (workspace.buffer ++
        0x80 :: List.replicate (63 - workspace.buffer.length) (0 : UInt8)).length = 64 := by
      simp
      omega
    have hlast : (List.replicate 56 (0 : UInt8) ++
        BigEndian.encode 8 workspace.bitLength.toNat).length = 64 := by
      simp
    have hsplit : workspace.buffer ++ 0x80 :: (List.replicate (zeroCount done.length) 0 ++
        BigEndian.encode 8 workspace.bitLength.toNat) =
          (workspace.buffer ++ 0x80 :: List.replicate (63 - workspace.buffer.length) 0) ++
            (List.replicate 56 0 ++ BigEndian.encode 8 workspace.bitLength.toNat) := by
      rw [hzeros, List.replicate_add]
      simp
    rw [finish_bytes_long (not_lt.1 hroom), stateBytes_eq, ofVector_transform _ hlast,
      ofVector_transform _ hfirst, hsplit, blocks_append (by decide) (by rw [hfirst]),
      blocks_of_length (by decide) hfirst, blocks_of_length (by decide) hlast]
    rfl

/-- **The workspace computes the digest of the standard**, however the bytes are split. -/
theorem sha256Workspace_digest (chunks : List Bytes) (hsize : chunks.flatten.length < 2 ^ 61) :
    (chunks.foldl Sha256Workspace.update Sha256Workspace.initial).finish.bytes =
      digest chunks.flatten := by
  have hholds := Sha256Workspace.holds_initial.foldl chunks
  exact hholds.finish_bytes hsize

/-- **Both implementations agree**: however the bytes are split, the workspace ends in the digest of
the standard, and `content_digest` prints that digest in hexadecimal. -/
theorem sha256_agreement (chunks : List Bytes) (hsize : chunks.flatten.length < 2 ^ 61) :
    let finished := (chunks.foldl Sha256Workspace.update Sha256Workspace.initial).finish.bytes
    finished = digest chunks.flatten ∧
      Sdk.printedContentDigest chunks.flatten = ascii "sha256:" ++ Sdk.hex finished := by
  have hfinished := sha256Workspace_digest chunks hsize
  refine ⟨hfinished, ?_⟩
  rw [Sdk.printedContentDigest_eq hsize, Sdk.contentDigest, hfinished]

theorem sha256_agreement_abc :
    let finished := ([[0x61], [], [0x62, 0x63]].foldl Sha256Workspace.update
      Sha256Workspace.initial).finish.bytes
    finished = digest [0x61, 0x62, 0x63] ∧
      Sdk.printedContentDigest [0x61, 0x62, 0x63] = ascii "sha256:" ++ Sdk.hex finished :=
  sha256_agreement [[0x61], [], [0x62, 0x63]] (by decide)

end Cxxlens.ProtocolV2
