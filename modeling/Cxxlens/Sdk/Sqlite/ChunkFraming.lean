import Cxxlens.Sdk.Sqlite.PayloadChunks

set_option autoImplicit false

/-! # What the framer emits

However a payload is handed to the framer, it emits the pieces of the payload in order, and its
receipt counts and hashes the whole of it. -/

namespace Cxxlens.Sdk.Sqlite

open Blocks

/-! ## Frames -/

/-- The chunk that is made of a piece. -/
def frame (ordinal : Nat) (payload : Bytes) : PayloadChunk where
  ordinal := ordinal
  byteOffset := ordinal * payloadChunkMaximumBytes
  byteCount := payload.length
  checksum := contentDigest SecureHash.digest payload
  payload := payload

def framesOf (payloads : List Bytes) : List PayloadChunk :=
  payloads.mapIdx frame

/-- The chunks of a payload. -/
def payloadFrames (bytes : Bytes) : List PayloadChunk :=
  framesOf (pieces payloadChunkMaximumBytes bytes)

/-- The receipt for a payload. -/
def receiptOf (bytes : Bytes) : PayloadStreamReceipt where
  byteCount := bytes.length
  chunkCount := (payloadFrames bytes).length
  aggregateByteCount := { high := 0, low := bytes.length }
  fullChecksum := contentDigest SecureHash.digest bytes

theorem framesOf_concat (payloads : List Bytes) (payload : Bytes) :
    framesOf (payloads ++ [payload]) = framesOf payloads ++ [frame payloads.length payload] := by
  simp [framesOf, List.mapIdx_append]

theorem length_framesOf (payloads : List Bytes) : (framesOf payloads).length = payloads.length :=
  List.length_mapIdx

/-! ## Counters -/

theorem payloadChunkMaximumBytes_pos : 0 < payloadChunkMaximumBytes := by decide

theorem checkedAdd_eq {left right : Nat} (h : left + right < 2 ^ 64) :
    checkedAdd left right = some (left + right) := by
  rw [checkedAdd, if_neg (by omega)]

theorem checkedMultiply_eq {left right : Nat} (h : left * right < 2 ^ 64) :
    checkedMultiply left right = some (left * right) := by
  rw [checkedMultiply, if_neg]
  rintro ⟨hleft, hright⟩
  have hle : right ≤ (2 ^ 64 - 1) / left :=
    (Nat.le_div_iff_mul_le (Nat.pos_of_ne_zero hleft)).2 (by rw [Nat.mul_comm]; omega)
  omega

theorem checkedSha256ByteCount_eq {current added : Nat}
    (h : current + added ≤ sha256MaximumByteCount) :
    checkedSha256ByteCount current added = some (current + added) := by
  rw [checkedSha256ByteCount, if_pos ⟨by omega, by omega⟩, checkedAdd_eq]
  unfold sha256MaximumByteCount at h
  omega

/-- A census below 64 bits does not carry. -/
theorem census_add {low value : Nat} (h : low + value < 2 ^ 64) :
    U128Census.add { high := 0, low := low } value = some { high := 0, low := low + value } := by
  rw [U128Census.add, Nat.mod_eq_of_lt h]
  exact if_pos (Nat.le_add_right _ _)

/-- There are as many chunks as pieces. -/
theorem canonicalChunkCount_eq {bytes : Bytes} (h : bytes.length ≤ sha256MaximumByteCount) :
    canonicalChunkCount bytes.length = some (payloadFrames bytes).length := by
  rw [payloadFrames, length_framesOf, length_pieces payloadChunkMaximumBytes_pos,
    canonicalChunkCount]
  dsimp only
  split_ifs with hzero hcount
  · rfl
  · rfl
  · unfold payloadChunkMaximumBytes payloadChunkMaximumCount sha256MaximumByteCount at *
    omega

/-! ## Completing a chunk -/

/-- A port that takes every frame. -/
def collect (port : List PayloadChunk) (emitted : PayloadChunk) :
    Result Unit × List PayloadChunk :=
  (.ok (), port ++ [emitted])

section Framer

variable {framer : PayloadChunkFramer (List PayloadChunk)} {done : Bytes}

/-- The framer has emitted the complete blocks of `done` and keeps the rest of it. -/
structure Framing (framer : PayloadChunkFramer (List PayloadChunk)) (done : Bytes) : Prop where
  unfinished : framer.finished = false
  clean : framer.poisoned = false
  split : ∃ full, done = full ++ framer.chunk ∧ payloadChunkMaximumBytes ∣ full.length ∧
    framer.port = some (framesOf (blocks payloadChunkMaximumBytes full)) ∧
    framer.chunkCount = (blocks payloadChunkMaximumBytes full).length
  short : framer.chunk.length < payloadChunkMaximumBytes
  chunkDigest : framer.chunkDigest.Holds framer.chunk
  current : framer.currentChunkByteCount = framer.chunk.length

/-- The framer has counted and hashed `done`. -/
structure Counting (framer : PayloadChunkFramer (List PayloadChunk)) (done : Bytes) : Prop where
  fullDigest : framer.fullDigest.Holds done
  total : framer.totalByteCount = done.length
  aggregate : framer.aggregateByteCount = { high := 0, low := done.length }

theorem completeChunk_collect {port : List PayloadChunk} (hport : framer.port = some port)
    (hdigest : framer.chunkDigest.Holds framer.chunk)
    (hcurrent : framer.currentChunkByteCount = framer.chunk.length)
    (hpositive : 0 < framer.chunk.length) (hfits : framer.chunk.length ≤ payloadChunkMaximumBytes)
    (hcount : framer.chunkCount < payloadChunkMaximumCount) :
    framer.completeChunk collect = (.ok (), { framer with
      port := some (port ++ [frame framer.chunkCount framer.chunk])
      chunk := [] }.nextChunk) := by
  have hmultiply : checkedMultiply framer.chunkCount payloadChunkMaximumBytes =
      some (framer.chunkCount * payloadChunkMaximumBytes) := by
    apply checkedMultiply_eq
    unfold payloadChunkMaximumBytes payloadChunkMaximumCount at *
    omega
  have hordinal : ¬(framer.chunkCount > payloadChunkMaximumOrdinal ∨
      framer.chunk.length ≠ framer.currentChunkByteCount) := by
    unfold payloadChunkMaximumOrdinal
    omega
  unfold PayloadChunkFramer.completeChunk
  rw [if_neg (by omega)]
  simp only [hport, hdigest.finish, hmultiply, if_neg hordinal, collect]
  rw [frame, hcurrent]

/-- The rest of an appended part, chunk by chunk. -/
theorem appendParts_collect (rounds : Nat) :
    ∀ {framer : PayloadChunkFramer (List PayloadChunk)} {done remaining : Bytes},
      Framing framer done → (done ++ remaining).length ≤ sha256MaximumByteCount →
        remaining.length ≤ rounds →
          ∃ next, PayloadChunkFramer.appendParts collect rounds framer remaining = (.ok (), next) ∧
            Framing next (done ++ remaining) ∧ next.fullDigest = framer.fullDigest ∧
            next.totalByteCount = framer.totalByteCount ∧
            next.aggregateByteCount = framer.aggregateByteCount := by
  induction rounds with
  | zero =>
    intro framer done remaining h hbound hrounds
    obtain rfl := List.length_eq_zero_iff.1 (Nat.le_zero.1 hrounds)
    exact ⟨framer, rfl, by simpa using h, rfl, rfl, rfl⟩
  | succ rounds ih =>
    intro framer done remaining h hbound hrounds
    rw [PayloadChunkFramer.appendParts]
    by_cases hnil : remaining = []
    · subst hnil
      exact ⟨framer, by simp, by simpa using h, rfl, rfl, rfl⟩
    · obtain ⟨full, rfl, hfull, hport, hcount⟩ := h.split
      have hshort := h.short
      have hcurrent := h.current
      have hpositive := List.length_pos_iff.2 hnil
      simp only [if_neg hnil]
      generalize hpart : remaining.take (min (payloadChunkMaximumBytes -
        framer.currentChunkByteCount) remaining.length) = part
      have hlength : part.length =
          min (payloadChunkMaximumBytes - framer.currentChunkByteCount) remaining.length := by
        rw [← hpart, List.length_take]
        omega
      have hremaining : part ++ remaining.drop part.length = remaining := by
        rw [hlength, ← hpart, List.take_append_drop]
      have hroom : (framer.chunk ++ part).length ≤ sha256MaximumByteCount := by
        rw [← hremaining] at hbound
        simp only [List.length_append] at hbound ⊢
        omega
      have hupdate := h.chunkDigest.update part
      rw [if_pos hroom] at hupdate
      have hchunk : (framer.fill (framer.chunkDigest.absorb part) part).chunk =
          framer.chunk ++ part := by
        simp [PayloadChunkFramer.fill, hport]
      have hlater : (framer.fill (framer.chunkDigest.absorb part) part).currentChunkByteCount =
          framer.chunk.length + part.length := by
        simp [PayloadChunkFramer.fill, hcurrent]
      simp only [hupdate]
      have hrest : ∀ {other : PayloadChunkFramer (List PayloadChunk)},
          Framing other (full ++ framer.chunk ++ part) → other.fullDigest = framer.fullDigest →
            other.totalByteCount = framer.totalByteCount →
              other.aggregateByteCount = framer.aggregateByteCount →
          ∃ next, PayloadChunkFramer.appendParts collect rounds other
              (remaining.drop part.length) = (.ok (), next) ∧
            Framing next (full ++ framer.chunk ++ remaining) ∧
            next.fullDigest = framer.fullDigest ∧
            next.totalByteCount = framer.totalByteCount ∧
            next.aggregateByteCount = framer.aggregateByteCount := by
        intro other hother hsame htotal haggregate
        have hwhole : full ++ framer.chunk ++ part ++ remaining.drop part.length =
            full ++ framer.chunk ++ remaining := by
          rw [List.append_assoc, hremaining]
        obtain ⟨next, happend, hframing, hnext⟩ := ih hother (by rw [hwhole]; exact hbound)
          (by rw [List.length_drop]; omega)
        rw [hwhole] at hframing
        rw [hsame, htotal, haggregate] at hnext
        exact ⟨next, happend, hframing, hnext⟩
      generalize hfilled : framer.fill (framer.chunkDigest.absorb part) part = filled
        at hchunk hlater ⊢
      have hdigest : filled.chunkDigest.Holds filled.chunk := by
        rw [hchunk, ← hfilled]
        exact h.chunkDigest.absorb hroom
      have hsame : filled.port = framer.port ∧ filled.chunkCount = framer.chunkCount ∧
          filled.finished = framer.finished ∧ filled.poisoned = framer.poisoned ∧
          filled.fullDigest = framer.fullDigest ∧
          filled.totalByteCount = framer.totalByteCount ∧
          filled.aggregateByteCount = framer.aggregateByteCount := by
        subst hfilled
        exact ⟨rfl, rfl, rfl, rfl, rfl, rfl, rfl⟩
      obtain ⟨hsamePort, hsameCount, hsameFinished, hsamePoisoned, hsameFull, hsameTotal,
        hsameAggregate⟩ := hsame
      rw [← hsamePort] at hport
      by_cases hcomplete : filled.currentChunkByteCount = payloadChunkMaximumBytes
      · -- the chunk is full and goes to the port
        have hblock : filled.chunk.length = payloadChunkMaximumBytes := by
          rw [hchunk, List.length_append]
          omega
        have hlimit : filled.chunkCount < payloadChunkMaximumCount := by
          simp only [List.length_append] at hbound
          rw [hsameCount, hcount, blocks, List.length_map, List.length_range]
          unfold payloadChunkMaximumBytes payloadChunkMaximumCount sha256MaximumByteCount at *
          omega
        rw [if_pos hcomplete, completeChunk_collect hport hdigest
          (by rw [hlater, hchunk, List.length_append])
          (by rw [hblock]; exact payloadChunkMaximumBytes_pos) hblock.le hlimit]
        refine hrest ⟨hsameFinished.trans h.unfinished, hsamePoisoned.trans h.clean,
          ⟨full ++ filled.chunk, by simp [PayloadChunkFramer.nextChunk, hchunk], ?_, ?_, ?_⟩,
          payloadChunkMaximumBytes_pos, IncrementalSha256.holds_initial, rfl⟩
          hsameFull hsameTotal hsameAggregate
        · rw [List.length_append, hblock]
          exact Nat.dvd_add hfull (dvd_refl _)
        · rw [blocks_append payloadChunkMaximumBytes_pos hfull,
            blocks_of_length payloadChunkMaximumBytes_pos hblock, framesOf_concat, ← hcount,
            ← hsameCount]
          rfl
        · rw [blocks_append payloadChunkMaximumBytes_pos hfull,
            blocks_of_length payloadChunkMaximumBytes_pos hblock, List.length_append, ← hcount,
            ← hsameCount]
          rfl
      · rw [if_neg hcomplete]
        refine hrest ⟨hsameFinished.trans h.unfinished, hsamePoisoned.trans h.clean,
          ⟨full, by rw [hchunk, List.append_assoc], hfull, hport, hsameCount.trans hcount⟩, ?_,
          hdigest, ?_⟩ hsameFull hsameTotal hsameAggregate
        · rw [hchunk, List.length_append]
          omega
        · rw [hlater, hchunk, List.length_append]

/-- A part is appended. -/
theorem append_collect (hframing : Framing framer done) (hcounting : Counting framer done)
    {part : Bytes} (hbound : (done ++ part).length ≤ sha256MaximumByteCount) :
    ∃ next, framer.append collect part = (.ok (), next) ∧ Framing next (done ++ part) ∧
      Counting next (done ++ part) := by
  have hsum : done.length + part.length ≤ sha256MaximumByteCount := by
    simpa using hbound
  have hwide : done.length + part.length < 2 ^ 64 := by
    unfold sha256MaximumByteCount at hsum
    omega
  have hupdate := hcounting.fullDigest.update part
  rw [if_pos hbound] at hupdate
  unfold PayloadChunkFramer.append
  rw [if_neg (by simp [hframing.unfinished, hframing.clean])]
  simp only [hcounting.total, hcounting.fullDigest.totalBytes, hcounting.aggregate,
    checkedAdd_eq hwide, checkedSha256ByteCount_eq hsum, census_add hwide, ne_eq,
    not_true_eq_false, if_false, hupdate]
  have hcounted : Framing { framer with
      fullDigest := framer.fullDigest.absorb part
      totalByteCount := done.length + part.length
      aggregateByteCount := { high := 0, low := done.length + part.length } } done :=
    ⟨hframing.unfinished, hframing.clean, hframing.split, hframing.short, hframing.chunkDigest,
      hframing.current⟩
  obtain ⟨next, happend, hnext, hfull, htotal, haggregate⟩ :=
    appendParts_collect part.length hcounted hbound le_rfl
  refine ⟨next, happend, hnext, ?_, ?_, ?_⟩
  · rw [hfull]
    exact hcounting.fullDigest.absorb hbound
  · rw [htotal, List.length_append]
  · rw [haggregate, List.length_append]

/-- The appends of a run. -/
def PayloadChunkFramer.appendAll (framer : PayloadChunkFramer (List PayloadChunk)) :
    List Bytes → Result Unit × PayloadChunkFramer (List PayloadChunk)
  | [] => (.ok (), framer)
  | part :: rest => andThen (framer.append collect part) fun _ framer => framer.appendAll rest

theorem appendAll_collect (parts : List Bytes) :
    ∀ {framer : PayloadChunkFramer (List PayloadChunk)} {done : Bytes}, Framing framer done →
      Counting framer done → (done ++ parts.flatten).length ≤ sha256MaximumByteCount →
        ∃ next, framer.appendAll parts = (.ok (), next) ∧ Framing next (done ++ parts.flatten) ∧
          Counting next (done ++ parts.flatten) := by
  induction parts with
  | nil =>
    intro framer done hframing hcounting _
    exact ⟨framer, rfl, by simpa using hframing, by simpa using hcounting⟩
  | cons part rest ih =>
    intro framer done hframing hcounting hbound
    rw [List.flatten_cons, ← List.append_assoc] at hbound ⊢
    have hpart : (done ++ part).length ≤ sha256MaximumByteCount := by
      rw [List.length_append] at hbound
      omega
    obtain ⟨next, happend, hframing, hcounting⟩ := append_collect hframing hcounting hpart
    rw [PayloadChunkFramer.appendAll, happend]
    exact ih hframing hcounting hbound

/-- The end of `finish`, behind the last chunk. -/
def PayloadChunkFramer.receipt {Port : Type} (framer : PayloadChunkFramer Port) :
    Result PayloadStreamReceipt × PayloadChunkFramer Port :=
  if canonicalChunkCount framer.totalByteCount ≠ some framer.chunkCount ∨
      framer.aggregateByteCount.high ≠ 0 ∨
      framer.aggregateByteCount.low ≠ framer.totalByteCount then
    framer.poison (streamCounterError "payload_chunk_count")
  else
    match framer.fullDigest.finish with
    | .error e => framer.poison e
    | .ok checksum =>
      (.ok ⟨framer.totalByteCount, framer.chunkCount, framer.aggregateByteCount, checksum⟩,
        { framer with finished := true })

/-- The receipt of a framer that has emitted everything. -/
theorem finish_collect (hframing : Framing framer done) (hcounting : Counting framer done) :
    ∃ next, framer.finish collect = (.ok (receiptOf done), next) ∧
      next.port = some (payloadFrames done) := by
  obtain ⟨full, hdone, hfull, hport, hcount⟩ := hframing.split
  have hbounded := hcounting.fullDigest.bounded
  have hpieces : pieces payloadChunkMaximumBytes done = blocks payloadChunkMaximumBytes full ++
      if framer.chunk = [] then [] else [framer.chunk] := by
    rw [hdone, pieces_append payloadChunkMaximumBytes_pos hfull, pieces_of_short hframing.short]
  have hcanonical := canonicalChunkCount_eq hbounded
  have hlast : ∀ {other : PayloadChunkFramer (List PayloadChunk)},
      other.port = some (payloadFrames done) → other.chunkCount = (payloadFrames done).length →
        Counting other done →
      ∃ next, other.receipt = (.ok (receiptOf done), next) ∧
        next.port = some (payloadFrames done) := by
    intro other hother hchunks hcounts
    refine ⟨{ other with finished := true }, ?_, hother⟩
    rw [PayloadChunkFramer.receipt, if_neg (by simp [hcounts.total, hcounts.aggregate, hcanonical, hchunks])]
    simp only [hcounts.fullDigest.finish, hcounts.total, hcounts.aggregate, hchunks, receiptOf]
  unfold PayloadChunkFramer.finish
  rw [hframing.unfinished, hframing.clean, hframing.current]
  simp only [Bool.false_eq_true, or_self, if_false]
  by_cases hchunk : framer.chunk = []
  · rw [if_neg (by simp [hchunk])]
    refine hlast ?_ ?_ hcounting
    · rw [hport, payloadFrames, hpieces, if_pos hchunk, List.append_nil]
    · rw [hcount, payloadFrames, length_framesOf, hpieces, if_pos hchunk, List.append_nil]
  · have hlimit : framer.chunkCount < payloadChunkMaximumCount := by
      have hlength := congrArg List.length hdone
      rw [List.length_append] at hlength
      rw [hcount, blocks, List.length_map, List.length_range]
      unfold payloadChunkMaximumBytes payloadChunkMaximumCount sha256MaximumByteCount at *
      omega
    rw [if_pos (by simpa using hchunk), completeChunk_collect hport hframing.chunkDigest
      hframing.current (List.length_pos_iff.2 hchunk) hframing.short.le hlimit]
    refine hlast ?_ ?_ ⟨hcounting.fullDigest, hcounting.total, hcounting.aggregate⟩
    · rw [payloadFrames, hpieces, if_neg hchunk, framesOf_concat, ← hcount]
      rfl
    · rw [payloadFrames, length_framesOf, hpieces, if_neg hchunk, List.length_append, ← hcount]
      rfl

end Framer

end Cxxlens.Sdk.Sqlite
