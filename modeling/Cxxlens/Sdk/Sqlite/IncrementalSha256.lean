import Cxxlens.Sdk.Sha256Words

set_option autoImplicit false

/-! # The incremental digest

`sqlite_incremental_sha256` of `sqlite_payload_streaming_internal.cpp`. The pending bytes are a list,
so `pending_size_` is its length; `transform` computes a block as `sha256_words` does, with the same
constants. However the bytes are handed to it, the digest is that of the standard. -/

namespace Cxxlens.Sdk.Sqlite

open SecureHash Blocks

/-! ## The digest -/

/-- `sqlite_sha256_maximum_byte_count` -/
def sha256MaximumByteCount : Nat := (2 ^ 64 - 1) / 8

/-- `stream_state_error` -/
def streamStateError (detail : Bytes) : Error :=
  { code := "store.transaction-state", field := "sqlite-payload-stream", detail := detail }

/-- `stream_counter_error` -/
def streamCounterError (field : Bytes) : Error :=
  { code := "store.counter-overflow", field := field, detail := [] }

/-- `sqlite_incremental_sha256`; as it is made, and behind `reset`. -/
structure IncrementalSha256 where
  state : Vector UInt32 8 := sha256InitialState
  pending : Bytes := []
  totalBytes : Nat := 0
  finished : Bool := false

/-- `transform` -/
def transform (state : Vector UInt32 8) (block : Bytes) : Vector UInt32 8 :=
  addBlock block state 0

/-- The loop `while (input.size() >= block_bytes)`, which takes less rounds than there are bytes. -/
def transformBlocks : Nat → Vector UInt32 8 → Bytes → Vector UInt32 8 × Bytes
  | 0, state, input => (state, input)
  | rounds + 1, state, input =>
    if input.length < 64 then (state, input)
    else transformBlocks rounds (transform state (input.take 64)) (input.drop 64)

/-- What `update` does behind its checks. -/
def IncrementalSha256.absorb (digest : IncrementalSha256) (input : Bytes) : IncrementalSha256 :=
  let total := digest.totalBytes + input.length
  if digest.pending = [] then
    let (state, rest) := transformBlocks input.length digest.state input
    { digest with state := state, pending := rest, totalBytes := total }
  else
    let pending := digest.pending ++ input.take (64 - digest.pending.length)
    let input := input.drop (64 - digest.pending.length)
    if pending.length ≠ 64 then { digest with pending := pending, totalBytes := total }
    else
      let (state, rest) := transformBlocks input.length (transform digest.state pending) input
      { digest with state := state, pending := rest, totalBytes := total }

/-- `update`, with `sqlite_checked_sha256_byte_count` -/
def IncrementalSha256.update (digest : IncrementalSha256) (input : Bytes) :
    Result IncrementalSha256 :=
  if digest.finished then .error (streamStateError "sha256-finished")
  else if ¬(digest.totalBytes ≤ sha256MaximumByteCount ∧
      input.length ≤ sha256MaximumByteCount - digest.totalBytes) then
    .error (streamCounterError "sha256-bit-count")
  else .ok (digest.absorb input)

/-- The eight digits of a word. -/
def wordDigits (word : UInt32) : Bytes :=
  [28, 24, 20, 16, 12, 8, 4, 0].map fun shift : UInt32 => hexDigit ((word >>> shift) &&& 0x0f).toNat

/-- The padded last block or two of `finish`. -/
def IncrementalSha256.lastState (digest : IncrementalSha256) : Vector UInt32 8 :=
  let bitCount := UInt64.ofNat digest.totalBytes * 8
  let pending := digest.pending ++ [0x80]
  let (state, pending) :=
    if pending.length > 56 then
      (transform digest.state (pending ++ List.replicate (64 - pending.length) 0), [])
    else (digest.state, pending)
  transform state (pending ++ List.replicate (56 - pending.length) 0 ++
    [56, 48, 40, 32, 24, 16, 8, 0].map fun shift : UInt64 => (bitCount >>> shift).toUInt8)

/-- `finish` -/
def IncrementalSha256.finish (digest : IncrementalSha256) : Result Bytes :=
  if digest.finished then .error (streamStateError "sha256-finished")
  else .ok (ascii "sha256:" ++ digest.lastState.toList.flatMap wordDigits)

/-! ## Taking in -/

/-- The digest after the bytes `done`. -/
structure IncrementalSha256.Holds (digest : IncrementalSha256) (done : Bytes) : Prop where
  absorbed : Absorbed compress 64 SecureHash.initial done (Words.ofVector digest.state)
    digest.pending
  totalBytes : digest.totalBytes = done.length
  bounded : done.length ≤ sha256MaximumByteCount
  unfinished : digest.finished = false

section Taking

variable {digest : IncrementalSha256} {done input : Bytes}

theorem ofVector_transform {block : Bytes} (h : block.length = 64) (state : Vector UInt32 8) :
    Words.ofVector (transform state block) = compress (Words.ofVector state) block := by
  rw [transform, ofVector_addBlock (by omega), List.drop_zero, List.take_of_length_le (by omega)]

theorem IncrementalSha256.holds_initial : ({} : IncrementalSha256).Holds [] where
  absorbed := by
    have hinitial : Words.ofVector ({} : IncrementalSha256).state = SecureHash.initial := by
      rw [initial_eq]
      rfl
    rw [hinitial]
    exact Absorbed.nil (by decide)
  totalBytes := rfl
  bounded := Nat.zero_le _
  unfinished := rfl

/-- The loop takes in the blocks and leaves less than one. -/
theorem absorbed_transformBlocks (rounds : Nat) : ∀ {state : Vector UInt32 8} {done input : Bytes},
    input.length ≤ rounds →
      Absorbed compress 64 SecureHash.initial done (Words.ofVector state) [] →
        Absorbed compress 64 SecureHash.initial (done ++ input)
          (Words.ofVector (transformBlocks rounds state input).1)
          (transformBlocks rounds state input).2 := by
  induction rounds with
  | zero =>
    intro state done input hrounds h
    obtain rfl := List.length_eq_zero_iff.1 (Nat.le_zero.1 hrounds)
    simpa [transformBlocks] using h
  | succ rounds ih =>
    intro state done input hrounds h
    rw [transformBlocks]
    by_cases hshort : input.length < 64
    · rw [if_pos hshort]
      exact h.push_short hshort
    · have hblock : (input.take 64).length = 64 := by
        rw [List.length_take]
        omega
      have hnext := @Absorbed.push_full _ _ _ _ _ _ _ _ h (input.take 64) hblock
      rw [List.nil_append, ← ofVector_transform hblock] at hnext
      rw [if_neg hshort]
      have hrest := @ih _ _ (input.drop 64) (by rw [List.length_drop]; omega) hnext
      rwa [List.append_assoc, List.take_append_drop] at hrest

/-- An update within the bound takes in its bytes behind those before. -/
theorem IncrementalSha256.Holds.absorb (h : digest.Holds done)
    (hbound : (done ++ input).length ≤ sha256MaximumByteCount) :
    (digest.absorb input).Holds (done ++ input) := by
  have habsorbed := h.absorbed
  have hpendingShort := h.absorbed.short
  have htotal : digest.totalBytes + input.length = (done ++ input).length := by
    rw [h.totalBytes, List.length_append]
  unfold IncrementalSha256.absorb
  by_cases hpending : digest.pending = []
  · rw [hpending] at habsorbed
    simp only [hpending, if_true]
    exact ⟨absorbed_transformBlocks _ le_rfl habsorbed, htotal, hbound, h.unfinished⟩
  · simp only [if_neg hpending]
    by_cases hfull : (digest.pending ++ input.take (64 - digest.pending.length)).length ≠ 64
    · rw [if_pos hfull]
      -- all of the input fits behind the pending bytes
      rw [List.length_append, List.length_take] at hfull
      have htake : input.take (64 - digest.pending.length) = input :=
        List.take_of_length_le (by omega)
      rw [htake]
      exact ⟨habsorbed.push_short (by rw [List.length_append]; omega), htotal, hbound, h.unfinished⟩
    · rw [if_neg hfull]
      rw [not_not] at hfull
      have hnext := habsorbed.push_full hfull
      rw [← ofVector_transform hfull] at hnext
      have hrest := @absorbed_transformBlocks _ _ _ (input.drop (64 - digest.pending.length))
        le_rfl hnext
      rw [List.append_assoc, List.take_append_drop] at hrest
      exact ⟨hrest, htotal, hbound, h.unfinished⟩

/-- An update goes through exactly within the bound. -/
theorem IncrementalSha256.Holds.update (h : digest.Holds done) (input : Bytes) :
    digest.update input =
      if (done ++ input).length ≤ sha256MaximumByteCount then .ok (digest.absorb input)
      else .error (streamCounterError "sha256-bit-count") := by
  have hbounded := h.bounded
  unfold IncrementalSha256.update
  rw [h.unfinished, h.totalBytes, List.length_append, if_neg Bool.false_ne_true]
  by_cases hbound : done.length + input.length ≤ sha256MaximumByteCount
  · rw [if_neg (by simp only [not_not]; omega), if_pos hbound]
  · rw [if_pos (by omega), if_neg hbound]

theorem IncrementalSha256.Holds.of_update {next : IncrementalSha256} (h : digest.Holds done)
    (hupdate : digest.update input = .ok next) : next.Holds (done ++ input) := by
  rw [h.update] at hupdate
  split_ifs at hupdate with hbound
  obtain rfl := Except.ok.inj hupdate
  exact h.absorb hbound

end Taking

/-! ## The text -/

theorem wordDigits_eq (word : UInt32) : wordDigits word = hex (BigEndian.encode 4 word.toNat) := by
  have hword := word.toNat_lt
  have hdigit : ∀ shift : UInt32, ((word >>> shift) &&& 0x0f).toNat =
      word.toNat / 2 ^ (shift.toNat % 32) % 16 := by
    intro shift
    rw [UInt32.toNat_and, UInt32.toNat_shiftRight, Nat.shiftRight_eq_div_pow]
    exact Nat.and_two_pow_sub_one_eq_mod _ 4
  simp only [wordDigits, List.map_cons, List.map_nil, hdigit, hex, hexByte, BigEndian.encode,
    List.flatMap_cons, List.flatMap_nil, UInt8.toNat_ofNat', List.nil_append, List.cons_append,
    List.append_nil]
  refine congrArg₂ _ ?_ <| congrArg₂ _ ?_ <| congrArg₂ _ ?_ <| congrArg₂ _ ?_ <| congrArg₂ _ ?_ <|
    congrArg₂ _ ?_ <| congrArg₂ _ ?_ <| congrArg₂ _ ?_ rfl
  all_goals
    refine congrArg hexDigit ?_
    simp only [UInt32.reduceToNat, Nat.reduceMod, Nat.reducePow]
    omega

/-- The last blocks are those that the standard pads to. -/
theorem IncrementalSha256.Holds.lastState {digest : IncrementalSha256} {done : Bytes}
    (h : digest.Holds done) : Words.ofVector digest.lastState = hashWords done := by
  have hmod := h.absorbed.length_mod
  have hshort := h.absorbed.short
  have hbounded := h.bounded
  have hbits : (UInt64.ofNat digest.totalBytes * 8).toNat = 8 * done.length := by
    unfold sha256MaximumByteCount at hbounded
    rw [h.totalBytes, UInt64.toNat_mul,
      UInt64.toNat_ofNat_of_lt' (by rw [UInt64.size]; omega)]
    simp
    omega
  rw [hashWords, pad, h.absorbed.foldl_append]
  unfold IncrementalSha256.lastState
  simp only [shifts_eq, hbits, List.length_append, List.length_singleton]
  by_cases hroom : digest.pending.length < 56
  · have hzeros : zeroCount done.length = 55 - digest.pending.length := by
      rw [zeroCount, hmod]
      omega
    rw [if_neg (by omega), ofVector_transform, blocks_of_length (by decide), hzeros]
    · simp only [List.length_append, List.length_singleton,
        show 56 - (digest.pending.length + 1) = 55 - digest.pending.length by omega]
      simp
    · simp
      omega
    · simp
      omega
  · have hzeros : zeroCount done.length = (63 - digest.pending.length) + 56 := by
      rw [zeroCount, hmod]
      omega
    have hfirst : (digest.pending ++ [0x80] ++
        List.replicate (64 - (digest.pending.length + 1)) (0 : UInt8)).length = 64 := by
      simp
      omega
    have hlast : ([] ++ List.replicate (56 - ([] : Bytes).length) (0 : UInt8) ++
        BigEndian.encode 8 (8 * done.length)).length = 64 := by
      simp
    have hsplit : digest.pending ++ 0x80 :: (List.replicate (zeroCount done.length) 0 ++
        BigEndian.encode 8 (8 * done.length)) =
          (digest.pending ++ [0x80] ++ List.replicate (64 - (digest.pending.length + 1)) 0) ++
            ([] ++ List.replicate (56 - ([] : Bytes).length) 0 ++
              BigEndian.encode 8 (8 * done.length)) := by
      rw [hzeros, List.replicate_add, show 64 - (digest.pending.length + 1) =
        63 - digest.pending.length by omega]
      simp
    rw [if_pos (by omega), ofVector_transform hlast, ofVector_transform hfirst, hsplit,
      blocks_append (by decide) (by rw [hfirst]), blocks_of_length (by decide) hfirst,
      blocks_of_length (by decide) hlast]
    rfl

/-- The text is the digest of the standard. -/
theorem IncrementalSha256.Holds.finish {digest : IncrementalSha256} {done : Bytes}
    (h : digest.Holds done) : digest.finish = .ok (contentDigest SecureHash.digest done) := by
  rw [IncrementalSha256.finish, h.unfinished, if_neg Bool.false_ne_true, contentDigest,
    SecureHash.digest, ← h.lastState, Words.toList_ofVector]
  congr 2
  induction digest.lastState.toList with
  | nil => rfl
  | cons word rest ih => rw [List.flatMap_cons, List.flatMap_cons, hex_append, wordDigits_eq, ih]

end Cxxlens.Sdk.Sqlite
