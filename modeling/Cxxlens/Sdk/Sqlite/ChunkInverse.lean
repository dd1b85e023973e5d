import Cxxlens.Sdk.Sqlite.ChunkReplay

set_option autoImplicit false

/-! # Framing and replay are inverse

The chunks that the framer makes of a payload are read back through any windows, and whatever rows a
source has read to their end are the chunks of what it returned. -/

namespace Cxxlens.Sdk.Sqlite

open Blocks

/-! ## Chunks by their payloads -/

theorem map_payload_framesOf (payloads : List Bytes) :
    (framesOf payloads).map PayloadChunk.payload = payloads := by
  exact List.ext_getElem (by simp [framesOf]) fun index _ _ => by simp [framesOf, frame]

theorem framesOf_injective {left right : List Bytes} (h : framesOf left = framesOf right) :
    left = right := by
  rw [← map_payload_framesOf left, h, map_payload_framesOf]

theorem payloadFrames_injective {left right : Bytes} (h : payloadFrames left = payloadFrames right) :
    left = right := by
  rw [← flatten_pieces payloadChunkMaximumBytes_pos left, framesOf_injective h,
    flatten_pieces payloadChunkMaximumBytes_pos]

theorem map_ok_injective {left right : List PayloadChunk}
    (h : left.map (Except.ok (ε := Error)) = right.map .ok) : left = right :=
  List.map_injective_iff.2 (fun _ _ => Except.ok.inj) h

/-- A chunk among those of a payload is the chunk of its piece. -/
theorem framesOf_split {whole payloads : List Bytes} {row : PayloadChunk}
    {rest : List PayloadChunk} (h : framesOf whole = framesOf payloads ++ row :: rest) :
    whole = payloads ++ row.payload :: rest.map PayloadChunk.payload ∧
      row = frame payloads.length row.payload := by
  have hwhole : whole = payloads ++ row.payload :: rest.map PayloadChunk.payload := by
    rw [← map_payload_framesOf whole, h]
    simp [map_payload_framesOf]
  refine ⟨hwhole, ?_⟩
  have hrow : (framesOf whole)[payloads.length]? = some row := by
    rw [h, List.getElem?_append_right (length_framesOf payloads).le, length_framesOf]
    simp
  rw [framesOf, List.getElem?_mapIdx, hwhole] at hrow
  simpa using hrow.symm

/-! ## The text of a digest -/

theorem hexDigit_canonical {value : Nat} (h : value < 16) :
    (decide (0x30 ≤ hexDigit value ∧ hexDigit value ≤ 0x39) ||
      decide (0x61 ≤ hexDigit value ∧ hexDigit value ≤ 0x66)) = true := by
  interval_cases value <;> decide

theorem hex_canonical (bytes : Bytes) : ((hex bytes).all fun byte =>
    decide (0x30 ≤ byte ∧ byte ≤ 0x39) || decide (0x61 ≤ byte ∧ byte ≤ 0x66)) = true := by
  induction bytes with
  | nil => rfl
  | cons byte rest ih =>
    have hbyte := byte.toNat_lt
    rw [hex, List.flatMap_cons, List.all_append, ← hex, ih, Bool.and_true, hexByte]
    simp only [List.all_cons, List.all_nil, Bool.and_true, Bool.and_eq_true]
    exact ⟨hexDigit_canonical (by omega), hexDigit_canonical (by omega)⟩

theorem length_hex (bytes : Bytes) : (hex bytes).length = 2 * bytes.length := by
  induction bytes with
  | nil => rfl
  | cons byte rest ih =>
    rw [hex, List.flatMap_cons, List.length_append, ← hex, ih, List.length_cons]
    simp only [hexByte, List.length_cons, List.length_nil]
    omega

theorem canonicalSha256_contentDigest (bytes : Bytes) :
    canonicalSha256 (contentDigest SecureHash.digest bytes) = true := by
  have hdigest : (SecureHash.digest bytes).length = 32 := by
    rw [SecureHash.digest, List.length_flatMap]
    simp [SecureHash.Words.toList]
  have hprefix : (ascii "sha256:").length = 7 := by decide
  have hlength : (contentDigest SecureHash.digest bytes).length = 71 := by
    rw [contentDigest, List.length_append, length_hex, hdigest, hprefix]
  have hdrop : (contentDigest SecureHash.digest bytes).drop 7 = hex (SecureHash.digest bytes) := by
    rw [contentDigest, ← hprefix, List.drop_left]
  rw [canonicalSha256, hlength, hdrop, hex_canonical, contentDigest]
  simp

/-! ## Reading chunks back -/

section Replay

variable {whole bytes : Bytes} {expectation : PayloadStreamExpectation}
  {source : ValidatingPayloadSource} {payloads : List Bytes}

/-- The expectation that the receipt of a payload gives. -/
def PayloadStreamReceipt.expected (receipt : PayloadStreamReceipt) (validate : Bool) :
    PayloadStreamExpectation where
  byteCount := receipt.byteCount
  chunkCount := receipt.chunkCount
  fullChecksum := receipt.fullChecksum
  validateFullChecksum := validate

/-- The next of the chunks is taken. -/
theorem Took.takeRow_next {row : PayloadChunk} {rest : List (Result PayloadChunk)}
    {validate : Bool} (hwhole : whole.length ≤ sha256MaximumByteCount)
    (h : Took ((payloadFrames whole).map .ok) { source with rows := .ok row :: rest } payloads)
    (hexpectation : source.expectation = (receiptOf whole).expected validate) :
    (({ source with rows := rest } : ValidatingPayloadSource).takeRow row).1 = .ok true := by
  obtain ⟨others, hothers⟩ : ∃ others, payloadFrames whole = framesOf payloads ++ row :: others := by
    obtain ⟨taken, others, hsplit, htaken, hleft⟩ := List.map_eq_append_iff.1 h.rows
    obtain ⟨first, others, rfl, hfirst, -⟩ := List.map_eq_cons_iff.1 hleft
    obtain rfl := Except.ok.inj hfirst
    exact ⟨others, by rw [hsplit, map_ok_injective htaken]⟩
  obtain ⟨hpieces, hrow⟩ := framesOf_split hothers
  have hcut := cut_pieces payloadChunkMaximumBytes_pos whole
  rw [hpieces] at hcut
  obtain ⟨hpositive, hfits, hfull⟩ := hcut.split payloadChunkMaximumBytes_pos
  have hflatten := flatten_pieces payloadChunkMaximumBytes_pos whole
  rw [hpieces, List.flatten_append, List.flatten_cons] at hflatten
  have hlength := congrArg List.length hflatten
  simp only [List.length_append] at hlength
  have hcount : (payloadFrames whole).length = payloads.length + (others.length + 1) := by
    rw [hothers, List.length_append, length_framesOf, List.length_cons]
  have hlimit : (payloadFrames whole).length ≤ payloadChunkMaximumCount := by
    have hcanonical := canonicalChunkCount_eq hwhole
    unfold canonicalChunkCount at hcanonical
    dsimp only at hcanonical
    split_ifs at hcanonical with hzero hmany
    · rw [← Option.some.inj hcanonical]
      exact Nat.zero_le _
    · rw [← Option.some.inj hcanonical]
      exact hmany
  have hchunkCount : source.observedChunkCount = payloads.length := h.chunkCount
  have hbyteCount : source.observedByteCount = payloads.flatten.length := h.byteCount
  have haggregate : source.aggregateByteCount = { high := 0, low := payloads.flatten.length } :=
    h.aggregate
  have hfullDigest : source.fullDigest.Holds payloads.flatten := h.fullDigest
  have hframed : ({ source with rows := rest } : ValidatingPayloadSource).Framed row := by
    have hmultiply : checkedMultiply payloads.length payloadChunkMaximumBytes =
        some (payloads.length * payloadChunkMaximumBytes) := by
      apply checkedMultiply_eq
      unfold payloadChunkMaximumBytes payloadChunkMaximumCount at *
      omega
    refine ⟨?_, ?_, ?_, ?_, ?_, ?_, ?_, ?_, ?_⟩
    · dsimp only
      rw [hchunkCount, hexpectation]
      exact (show payloads.length < (payloadFrames whole).length by omega)
    · dsimp only [payloadChunkMaximumOrdinal]
      omega
    · rw [hrow]
      exact hchunkCount.symm
    · dsimp only
      rw [hchunkCount, hmultiply, hrow]
      rfl
    · rw [hrow]
      rfl
    · rw [hrow]
      exact Nat.ne_of_gt hpositive
    · rw [hrow]
      exact hfits
    · dsimp only
      rw [hchunkCount, hexpectation]
      rcases others with _ | ⟨other, others⟩
      · refine .inl (show payloads.length < (payloadFrames whole).length ∧
          payloads.length + 1 = (payloadFrames whole).length from ⟨?_, ?_⟩)
        · omega
        · rw [hcount, List.length_nil]
      · rw [hrow]
        exact .inr (hfull (by simp))
    · rw [hrow]
      exact canonicalSha256_contentDigest _
  have hsmall : ([] ++ row.payload).length ≤ sha256MaximumByteCount := by
    rw [List.nil_append]
    omega
  have hchecksum : (IncrementalSha256.update {} row.payload) >>= IncrementalSha256.finish =
      .ok (contentDigest SecureHash.digest row.payload) := by
    have hupdate := IncrementalSha256.holds_initial.update row.payload
    rw [if_pos hsmall] at hupdate
    rw [hupdate, Fallible.ok_bind]
    exact (IncrementalSha256.holds_initial.absorb hsmall).finish
  have hsum : (payloads.flatten ++ row.payload).length ≤ sha256MaximumByteCount := by
    rw [List.length_append]
    omega
  have hwide : payloads.flatten.length + row.payload.length < 2 ^ 64 := by
    rw [List.length_append] at hsum
    unfold sha256MaximumByteCount at hsum
    omega
  have hupdate := hfullDigest.update row.payload
  rw [if_pos hsum] at hupdate
  have hrowCount : row.byteCount = row.payload.length := by
    rw [hrow]
    rfl
  have hrowChecksum : row.checksum = contentDigest SecureHash.digest row.payload := by
    rw [hrow]
    rfl
  have hroom : ¬payloads.flatten.length + row.payload.length > source.expectation.byteCount := by
    rw [hexpectation]
    exact not_lt.2 (show _ ≤ whole.length by omega)
  unfold ValidatingPayloadSource.takeRow
  rw [if_pos hframed, hchecksum]
  simp only [hrowChecksum, ne_eq, not_true_eq_false, if_false, hbyteCount, haggregate, hrowCount,
    checkedAdd_eq hwide, census_add hwide, if_neg hroom, hupdate]

/-- The census at the end of the chunks goes through. -/
theorem Took.finalizeAtEof_eq {validate : Bool}
    (h : Took ((payloadFrames whole).map .ok) source payloads)
    (hexpectation : source.expectation = (receiptOf whole).expected validate)
    (hrows : source.rows = []) (heof : source.sourceEof = true) :
    source.finalizeAtEof.1 = .ok (receiptOf whole) ∧ payloads.flatten = whole := by
  have hframes : payloadFrames whole = framesOf payloads := by
    refine map_ok_injective ?_
    have htook := h.rows
    rwa [hrows, List.append_nil] at htook
  have hflatten : payloads.flatten = whole := by
    rw [← framesOf_injective hframes, flatten_pieces payloadChunkMaximumBytes_pos]
  have hcount : source.observedChunkCount = (payloadFrames whole).length := by
    rw [h.chunkCount, hframes, length_framesOf]
  have hbytes := h.byteCount
  have haggregate := h.aggregate
  have hdigest := h.fullDigest
  rw [hflatten] at hbytes haggregate hdigest
  refine ⟨?_, hflatten⟩
  unfold ValidatingPayloadSource.finalizeAtEof
  rw [if_neg (by simp [heof, hcount, hbytes, haggregate, hexpectation,
    PayloadStreamReceipt.expected, receiptOf]), hdigest.finish]
  dsimp only
  rw [if_neg (by simp [hexpectation, PayloadStreamReceipt.expected, receiptOf])]
  simp only [hcount, hbytes, haggregate, receiptOf]

/-- Between two chunks the next of them is loaded, or all of the payload has been returned. -/
theorem Reading.loadNextChunk_ok {validate : Bool} (hwhole : whole.length ≤ sha256MaximumByteCount)
    (h : Reading ((payloadFrames whole).map .ok) ((receiptOf whole).expected validate) source bytes)
    (hchunk : source.currentChunk = []) :
    (source.loadNextChunk.1 = .ok true ∧ source.loadNextChunk.2.currentChunk ≠ [] ∧
        source.loadNextChunk.2.currentOffset = 0) ∨
      (source.loadNextChunk.1 = .ok false ∧ bytes = whole ∧
        source.loadNextChunk.2.finalizeAtEof.1 = .ok (receiptOf whole)) := by
  obtain ⟨payloads, htook, hflatten⟩ := h.took
  rw [hchunk, List.drop_nil, List.append_nil] at hflatten
  unfold ValidatingPayloadSource.loadNextChunk
  by_cases heof : source.sourceEof = true
  · rw [if_pos heof]
    obtain ⟨hfinal, hall⟩ := htook.finalizeAtEof_eq h.expectation (h.eof heof).1 heof
    exact .inr ⟨rfl, hflatten.symm.trans hall, hfinal⟩
  · rw [if_neg heof]
    rcases hrows : source.rows with _ | ⟨e | row, rest⟩
    · have hended : Took ((payloadFrames whole).map .ok)
          { source with rows := [], sourceEof := true, currentChunk := [], currentOffset := 0 }
          payloads :=
        ⟨htook.rows.trans (by rw [hrows]), htook.sized, htook.chunkCount, htook.byteCount,
          htook.bounded, htook.fullDigest, htook.aggregate⟩
      obtain ⟨hfinal, hall⟩ := hended.finalizeAtEof_eq h.expectation rfl rfl
      exact .inr ⟨rfl, hflatten.symm.trans hall, hfinal⟩
    · -- the rows of the payload hold no error
      have hmem : Except.error e ∈ (payloadFrames whole).map (Except.ok (ε := Error)) := by
        rw [htook.rows, hrows]
        simp
      simp at hmem
    · have hpopped : Took ((payloadFrames whole).map .ok)
          { source with rows := .ok row :: rest } payloads :=
        ⟨htook.rows.trans (by rw [hrows]), htook.sized, htook.chunkCount, htook.byteCount,
          htook.bounded, htook.fullDigest, htook.aggregate⟩
      have hok := hpopped.takeRow_next hwhole h.expectation
      dsimp only
      rcases htake : ({ source with rows := rest } : ValidatingPayloadSource).takeRow row with
        ⟨result, next⟩
      rw [htake] at hok
      obtain rfl : result = _ := hok
      obtain ⟨-, hnext, hloaded⟩ := hpopped.takeRow htake
      have hpositive : 0 < row.payload.length :=
        (hloaded.sized.cut.split payloadChunkMaximumBytes_pos).1
      refine .inl ⟨rfl, ?_, ?_⟩
      · rw [hnext]
        exact List.length_pos_iff.1 hpositive
      · rw [hnext]

/-- Bytes are returned as long as some are left in the chunk. -/
theorem copyOut_ne_nil {window : Nat} (hwindow : window ≠ 0)
    (hleft : source.currentOffset < source.currentChunk.length) :
    ∃ part, (source.copyOut window).1 = .ok part ∧ part ≠ [] := by
  refine ⟨_, rfl, List.ne_nil_of_length_pos ?_⟩
  rw [List.length_take, List.length_drop]
  omega

/-- A read of the chunks of a payload returns bytes, or it has returned all of them before. -/
theorem Reading.read_ok {validate : Bool} (hwhole : whole.length ≤ sha256MaximumByteCount)
    (h : Reading ((payloadFrames whole).map .ok) ((receiptOf whole).expected validate) source bytes)
    {window : Nat} (hwindow : window ≠ 0) :
    ∃ part, (source.read window).1 = .ok part ∧ (part = [] → bytes = whole) := by
  unfold ValidatingPayloadSource.read
  rw [if_neg (by simp [h.clean]), if_neg hwindow, if_neg (by simp [h.unfinished])]
  by_cases hconsumed : source.currentOffset = source.currentChunk.length
  · rw [if_pos hconsumed]
    rcases hload : ({ source with currentChunk := [], currentOffset := 0 } :
      ValidatingPayloadSource).loadNextChunk with ⟨result, next⟩
    have hloaded := (h.cleared hconsumed).loadNextChunk_ok hwhole rfl
    rw [hload] at hloaded
    rcases hloaded with ⟨rfl, hchunk, hoffset⟩ | ⟨rfl, hall, hfinal⟩
    · obtain ⟨part, hpart, hne⟩ := @copyOut_ne_nil next window hwindow
        (by rw [hoffset]; exact List.length_pos_iff.2 hchunk)
      exact ⟨part, hpart, fun hnil => absurd hnil hne⟩
    · rcases hend : next.finalizeAtEof with ⟨result, final⟩
      rw [hend] at hfinal
      obtain rfl : result = _ := hfinal
      simp only [andThen, if_true, hend]
      exact ⟨[], rfl, fun _ => hall⟩
  · rw [if_neg hconsumed]
    have hoffset := h.offset
    obtain ⟨part, hpart, hne⟩ := @copyOut_ne_nil source window hwindow (by omega)
    exact ⟨part, hpart, fun hnil => absurd hnil hne⟩

/-- A source that has returned the payload finishes. -/
theorem Reading.finish_ok {validate : Bool}
    (h : Reading ((payloadFrames whole).map .ok) ((receiptOf whole).expected validate) source
      whole) : source.finish.1 = .ok (receiptOf whole) := by
  obtain ⟨payloads, htook, hflatten⟩ := h.took
  have hbounded := htook.bounded
  have hoffset := h.offset
  rw [h.expectation, hflatten, List.length_append, List.length_drop] at hbounded
  have hconsumed : source.currentOffset = source.currentChunk.length := by
    have hleft : (whole.length + (source.currentChunk.length - source.currentOffset)) ≤
        whole.length := hbounded
    omega
  rw [hconsumed, List.drop_length, List.append_nil] at hflatten
  have hpayloads : payloads = pieces payloadChunkMaximumBytes whole := by
    rw [← hflatten, pieces_flatten payloadChunkMaximumBytes_pos htook.sized.cut]
  have hcount : source.observedChunkCount = source.expectation.chunkCount := by
    rw [htook.chunkCount, h.expectation, hpayloads]
    exact (length_framesOf _).symm
  have hrows : source.rows = [] := by
    have htaken := htook.rows
    rw [payloadFrames, ← hpayloads] at htaken
    exact List.self_eq_append_right.1 htaken
  unfold ValidatingPayloadSource.finish
  rw [if_neg (by simp [h.clean])]
  simp only [h.receipt]
  rw [if_neg (by simp [hconsumed, hcount])]
  by_cases heof : source.sourceEof = true
  · rw [if_pos heof]
    exact (htook.finalizeAtEof_eq h.expectation hrows heof).1
  · rw [if_neg heof]
    simp only [hrows]
    have hended : Took ((payloadFrames whole).map .ok)
        { source with rows := [], sourceEof := true, receipt := none } payloads :=
      ⟨htook.rows.trans (by rw [hrows]), htook.sized, htook.chunkCount, htook.byteCount,
        htook.bounded, htook.fullDigest, htook.aggregate⟩
    exact (hended.finalizeAtEof_eq h.expectation rfl rfl).1

/-- A source of the chunks of a payload: being read, or at its end. -/
def Replaying (whole : Bytes) (validate : Bool) (source : ValidatingPayloadSource)
    (bytes : Bytes) : Prop :=
  Reading ((payloadFrames whole).map .ok) ((receiptOf whole).expected validate) source bytes ∨
    Finished ((payloadFrames whole).map .ok) ((receiptOf whole).expected validate) source bytes

theorem Replaying.bytes_prefix {validate : Bool} (h : Replaying whole validate source bytes) :
    bytes <+: whole := by
  rcases h with hreading | hfinished
  · obtain ⟨payloads, htook, hflatten⟩ := hreading.took
    obtain ⟨taken, others, hsplit, htaken, -⟩ := List.map_eq_append_iff.1 htook.rows
    have hframes : taken = framesOf payloads := map_ok_injective htaken
    have hpieces : pieces payloadChunkMaximumBytes whole =
        payloads ++ others.map PayloadChunk.payload := by
      rw [← map_payload_framesOf (pieces payloadChunkMaximumBytes whole), ← payloadFrames, hsplit,
        hframes, List.map_append, map_payload_framesOf]
    rw [← flatten_pieces payloadChunkMaximumBytes_pos whole, hpieces, List.flatten_append, hflatten,
      List.append_assoc]
    exact List.prefix_append _ _
  · have hframes := map_ok_injective hfinished.accepted.rows
    rw [payloadFrames_injective hframes]

theorem Replaying.read {validate : Bool} (hwhole : whole.length ≤ sha256MaximumByteCount)
    (h : Replaying whole validate source bytes) {window : Nat} (hwindow : window ≠ 0) :
    ∃ part, (source.read window).1 = .ok part ∧ (part = [] → bytes = whole) ∧
      Replaying whole validate (source.read window).2 (bytes ++ part) := by
  rcases h with hreading | hfinished
  · obtain ⟨part, hpart, hall⟩ := hreading.read_ok hwhole hwindow
    have hcontinued := hreading.read window
    rw [hpart] at hcontinued
    rcases hcontinued with ⟨-, hnext⟩ | ⟨hfails, -⟩
    · exact ⟨part, hpart, hall, hnext⟩
    · exact absurd trivial hfails
  · have hframes := map_ok_injective hfinished.accepted.rows
    have hread : source.read window = (.ok [], source) := by
      unfold ValidatingPayloadSource.read
      rw [if_neg (by simp [hfinished.clean]), if_neg hwindow, if_pos hfinished.finished]
    refine ⟨[], by rw [hread], fun _ => (payloadFrames_injective hframes).symm, .inr ?_⟩
    rw [hread, List.append_nil]
    exact hfinished

/-- Reads through any windows return the payload from its beginning, and make progress. -/
theorem Replaying.run {validate : Bool} (hwhole : whole.length ≤ sha256MaximumByteCount)
    (windows : List Nat) : ∀ {source : ValidatingPayloadSource} {bytes : Bytes},
    Replaying whole validate source bytes → (∀ window ∈ windows, window ≠ 0) →
      (∀ answer ∈ (source.run (windows.map .read)).1, answer.succeeds) ∧
        Replaying whole validate (source.run (windows.map .read)).2
          (bytes ++ replayed (source.run (windows.map .read)).1) ∧
        min (bytes.length + windows.length) whole.length ≤
          (bytes ++ replayed (source.run (windows.map .read)).1).length := by
  induction windows with
  | nil =>
    intro source bytes h _
    refine ⟨by simp [ValidatingPayloadSource.run], ?_, ?_⟩
    · simpa [ValidatingPayloadSource.run, replayed] using h
    · simp [ValidatingPayloadSource.run, replayed]
  | cons window windows ih =>
    intro source bytes h hwindows
    obtain ⟨part, hpart, hall, hnext⟩ := h.read hwhole (hwindows window List.mem_cons_self)
    obtain ⟨hsucceed, hlast, hprogress⟩ := ih hnext fun other hother =>
      hwindows other (List.mem_cons_of_mem _ hother)
    rw [List.map_cons, ValidatingPayloadSource.run]
    simp only [ValidatingPayloadSource.call, hpart]
    have hreplayed : ∀ rest : List PayloadAnswer, replayed (.read (.ok part) :: rest) =
        part ++ replayed rest := fun rest => List.flatMap_cons
    refine ⟨fun answer hanswer => ?_, ?_, ?_⟩
    · rcases List.mem_cons.1 hanswer with rfl | hanswer
      · exact trivial
      · exact hsucceed answer hanswer
    · rw [hreplayed, ← List.append_assoc]
      exact hlast
    · rw [hreplayed, ← List.append_assoc]
      refine le_trans ?_ hprogress
      -- a read that returns nothing comes behind the whole payload
      by_cases hnil : part = []
      · rw [hall hnil, List.length_append]
        omega
      · have hpositive := List.length_pos_iff.2 hnil
        rw [List.length_append, List.length_cons]
        omega

theorem Replaying.finish {validate : Bool} (h : Replaying whole validate source whole) : source.finish.1 = .ok (receiptOf whole) := by
  rcases h with hreading | hfinished
  · exact hreading.finish_ok
  · unfold ValidatingPayloadSource.finish
    rw [if_neg (by simp [hfinished.clean]), hfinished.receipt]

/-- A source that has been opened. -/
theorem reading_open {rows : List (Result PayloadChunk)}
    (h : ValidatingPayloadSource.open rows expectation = .ok source) :
    Reading rows expectation source [] := by
  unfold ValidatingPayloadSource.open at h
  split_ifs at h
  obtain rfl := Except.ok.inj h
  exact ⟨rfl, rfl, rfl, rfl, ⟨[], ⟨rfl, ⟨Nat.zero_le _, fun _ => by simp, trivial⟩, rfl, rfl,
    Nat.zero_le _, IncrementalSha256.holds_initial, rfl⟩, rfl⟩, le_rfl,
    fun h => by cases h⟩

/-- The receipt of a payload opens a source. -/
theorem open_receiptOf (hwhole : whole.length ≤ sha256MaximumByteCount) (validate : Bool)
    (rows : List (Result PayloadChunk)) :
    ∃ source, ValidatingPayloadSource.open rows ((receiptOf whole).expected validate) =
      .ok source := by
  refine ⟨_, if_neg ?_⟩
  simp only [PayloadStreamReceipt.expected, receiptOf, canonicalChunkCount_eq hwhole,
    canonicalSha256_contentDigest]
  simpa using hwhole

end Replay

/-! ## Both directions -/

/-- Chunks that hold a payload in order: numbered, at their offsets, and full but for the last. -/
structure Chunks (bytes : Bytes) (chunks : List PayloadChunk) : Prop where
  payload : (chunks.map PayloadChunk.payload).flatten = bytes
  framed : ∀ index chunk, chunks[index]? = some chunk →
    chunk = frame index chunk.payload ∧ 0 < chunk.byteCount ∧
      chunk.byteCount ≤ payloadChunkMaximumBytes ∧
      (index + 1 < chunks.length → chunk.byteCount = payloadChunkMaximumBytes)

theorem chunks_payloadFrames (bytes : Bytes) : Chunks bytes (payloadFrames bytes) where
  payload := by
    rw [payloadFrames, map_payload_framesOf, flatten_pieces payloadChunkMaximumBytes_pos]
  framed index chunk hchunk := by
    obtain ⟨hindex, hget⟩ := List.getElem?_eq_some_iff.1 hchunk
    have hsplit : payloadFrames bytes =
        (payloadFrames bytes).take index ++ chunk :: (payloadFrames bytes).drop (index + 1) := by
      rw [← hget, List.getElem_cons_drop, List.take_append_drop]
    have htaken : (payloadFrames bytes).take index =
        framesOf ((pieces payloadChunkMaximumBytes bytes).take index) := by
      rw [payloadFrames, framesOf, framesOf]
      exact List.ext_getElem (by simp) fun _ _ _ => by simp
    rw [htaken] at hsplit
    obtain ⟨hpieces, hframe⟩ := framesOf_split hsplit
    have hlength : ((pieces payloadChunkMaximumBytes bytes).take index).length = index := by
      rw [payloadFrames, length_framesOf] at hindex
      exact List.length_take_of_le hindex.le
    rw [hlength] at hframe
    have hcut := cut_pieces payloadChunkMaximumBytes_pos bytes
    rw [hpieces] at hcut
    obtain ⟨hpositive, hfits, hfull⟩ := hcut.split payloadChunkMaximumBytes_pos
    have hcount : chunk.byteCount = chunk.payload.length := by
      rw [hframe]
      rfl
    rw [hcount]
    refine ⟨hframe, hpositive, hfits, fun hmore => hfull ?_⟩
    rw [ne_eq, List.map_eq_nil_iff, List.drop_eq_nil_iff]
    omega

/-- The framer emits the chunks of a payload however it is split. A source opened on them with the
    framer's receipt returns the payload through any windows and then finishes with that receipt.
    Whatever rows a source finishes on are the chunks of what it has returned, and its expectation
    and receipt are those of the framer; behind a failure that is not the caller's it never
    succeeds. Rows that are not the chunks of a payload are accepted under its receipt only for
    other bytes with the same digest. -/
theorem payloadChunks_inverse :
    (∀ parts : List Bytes, parts.flatten.length ≤ sha256MaximumByteCount →
      ∃ framed finished,
        ({ port := some [] } : PayloadChunkFramer (List PayloadChunk)).appendAll parts =
          (.ok (), framed) ∧
        framed.finish collect = (.ok (receiptOf parts.flatten), finished) ∧
        finished.port = some (payloadFrames parts.flatten) ∧
        Chunks parts.flatten (payloadFrames parts.flatten)) ∧
      (∀ (bytes : Bytes) (validate : Bool) (windows : List Nat),
        bytes.length ≤ sha256MaximumByteCount → (∀ window ∈ windows, window ≠ 0) →
          ∃ source, ValidatingPayloadSource.open ((payloadFrames bytes).map .ok)
              ((receiptOf bytes).expected validate) = .ok source ∧
            (∀ answer ∈ (source.run (windows.map .read)).1, answer.succeeds) ∧
            replayed (source.run (windows.map .read)).1 <+: bytes ∧
            min windows.length bytes.length ≤
              (replayed (source.run (windows.map .read)).1).length ∧
            (replayed (source.run (windows.map .read)).1 = bytes →
              (source.run (windows.map .read)).2.finish.1 = .ok (receiptOf bytes))) ∧
      (∀ rows expectation source calls,
        ValidatingPayloadSource.open rows expectation = .ok source →
          (∀ receipt, (source.run calls).2.finish.1 = .ok receipt →
            receipt = receiptOf (replayed (source.run calls).1) ∧
              Accepted rows expectation (replayed (source.run calls).1)) ∧
          ((∃ answer ∈ (source.run calls).1, answer.fatal) →
            ∀ call, ¬((source.run calls).2.call call).1.succeeds)) ∧
      ∀ (bytes : Bytes) (rows : List (Result PayloadChunk)) source calls receipt,
        rows ≠ (payloadFrames bytes).map .ok →
          ValidatingPayloadSource.open rows ((receiptOf bytes).expected true) = .ok source →
            (source.run calls).2.finish.1 = .ok receipt →
              replayed (source.run calls).1 ≠ bytes ∧
                contentDigest SecureHash.digest (replayed (source.run calls).1) =
                  contentDigest SecureHash.digest bytes := by
  have hconverse : ∀ rows expectation source calls,
      ValidatingPayloadSource.open rows expectation = .ok source →
        (∀ receipt, (source.run calls).2.finish.1 = .ok receipt →
          receipt = receiptOf (replayed (source.run calls).1) ∧
            Accepted rows expectation (replayed (source.run calls).1)) ∧
        ((∃ answer ∈ (source.run calls).1, answer.fatal) →
          ∀ call, ¬((source.run calls).2.call call).1.succeeds) := by
    intro rows expectation source calls hopen
    have hran : Ran rows expectation ([] ++ (source.run calls).1) (source.run calls).2 :=
      Ran.run calls (.inl ⟨by simp, .inl (reading_open hopen)⟩)
    rw [List.nil_append] at hran
    rcases hran with ⟨hfatal, hreading | hfinished⟩ | hpoisoned
    · exact ⟨hreading.finish.2, fun ⟨answer, hmem, hanswer⟩ => absurd hanswer (hfatal answer hmem)⟩
    · refine ⟨fun receipt hreceipt => ?_,
        fun ⟨answer, hmem, hanswer⟩ => absurd hanswer (hfatal answer hmem)⟩
      unfold ValidatingPayloadSource.finish at hreceipt
      rw [if_neg (by simp [hfinished.clean]), hfinished.receipt] at hreceipt
      exact ⟨(Except.ok.inj hreceipt).symm, hfinished.accepted⟩
    · refine ⟨fun receipt hreceipt => ?_, fun _ call => (call_of_poisoned hpoisoned call).1⟩
      have hfails := (call_of_poisoned hpoisoned .finish).1
      rw [ValidatingPayloadSource.call, hreceipt] at hfails
      exact absurd trivial hfails
  refine ⟨fun parts hparts => ?_, fun bytes validate windows hbytes hwindows => ?_, hconverse,
    fun bytes rows source calls receipt hrows hopen hfinish => ?_⟩
  · obtain ⟨framed, happend, hframing, hcounting⟩ := @appendAll_collect parts { port := some [] } []
      ⟨rfl, rfl, ⟨[], rfl, dvd_zero _, rfl, rfl⟩, payloadChunkMaximumBytes_pos,
        IncrementalSha256.holds_initial, rfl⟩
      ⟨IncrementalSha256.holds_initial, rfl, rfl⟩ (by simpa using hparts)
    obtain ⟨finished, hfinish, hport⟩ := finish_collect hframing hcounting
    exact ⟨framed, finished, happend, hfinish, hport, chunks_payloadFrames _⟩
  · obtain ⟨source, hopen⟩ := open_receiptOf hbytes validate ((payloadFrames bytes).map .ok)
    obtain ⟨hsucceed, hlast, hprogress⟩ :=
      Replaying.run hbytes windows (.inl (reading_open hopen)) hwindows
    rw [List.nil_append] at hlast hprogress
    rw [List.length_nil, Nat.zero_add] at hprogress
    refine ⟨source, hopen, hsucceed, hlast.bytes_prefix, hprogress, fun hall => ?_⟩
    rw [hall] at hlast
    exact hlast.finish
  · obtain ⟨-, haccepted⟩ := (hconverse rows _ source calls hopen).1 receipt hfinish
    refine ⟨fun hsame => hrows ?_, (haccepted.checksum rfl).symm⟩
    rw [haccepted.rows, hsame]

theorem payloadChunks_inverse_sample :
    (∃ framed finished, ({ port := some [] } : PayloadChunkFramer (List PayloadChunk)).appendAll
        [[0x61], [], [0x62]] = (.ok (), framed) ∧
      framed.finish collect = (.ok (receiptOf [0x61, 0x62]), finished) ∧
      finished.port = some (payloadFrames [0x61, 0x62]) ∧
      Chunks [0x61, 0x62] (payloadFrames [0x61, 0x62])) ∧
      ∃ source, ValidatingPayloadSource.open ((payloadFrames [0x61, 0x62]).map .ok)
          ((receiptOf [0x61, 0x62]).expected true) = .ok source ∧
        min 2 2 ≤ (replayed (source.run [.read 1, .read 7]).1).length ∧
        ∀ receipt, (source.run [.read 1, .read 7]).2.finish.1 = .ok receipt →
          receipt = receiptOf (replayed (source.run [.read 1, .read 7]).1) := by
  refine ⟨payloadChunks_inverse.1 [[0x61], [], [0x62]] (by decide), ?_⟩
  obtain ⟨source, hopen, -, -, hprogress, -⟩ :=
    payloadChunks_inverse.2.1 [0x61, 0x62] true [1, 7] (by decide) (by decide)
  exact ⟨source, hopen, hprogress, fun receipt hreceipt =>
    ((payloadChunks_inverse.2.2.1 _ _ source _ hopen).1 receipt hreceipt).1⟩

/-- An empty window and a finish before the end fail, and the source is read on. -/
theorem payloadSource_fails_and_succeeds :
    ∃ source, ValidatingPayloadSource.open ((payloadFrames [0x61]).map .ok)
        ((receiptOf [0x61]).expected true) = .ok source ∧
      (¬(source.call (.read 0)).1.succeeds ∧
        ((source.call (.read 0)).2.call (.read 1)).1.succeeds) ∧
      ¬(source.call .finish).1.succeeds ∧ ((source.call .finish).2.call (.read 1)).1.succeeds := by
  have hwhole : ([0x61] : Bytes).length ≤ sha256MaximumByteCount := by decide
  obtain ⟨source, hopen⟩ := open_receiptOf hwhole true ((payloadFrames [0x61]).map .ok)
  have hreading := reading_open hopen
  obtain ⟨part, hpart, -⟩ := hreading.read_ok hwhole (show 1 ≠ 0 by decide)
  have hread : (source.call (.read 1)).1.succeeds := by
    rw [ValidatingPayloadSource.call, hpart]
    exact trivial
  have hempty : source.call (.read 0) =
      (.read (.error (streamStateError "payload-source-empty-window")), source) := by
    simp [ValidatingPayloadSource.call, ValidatingPayloadSource.read, hreading.clean]
  have hearly : source.call .finish =
      (.finish (.error (streamStateError "payload-source-not-consumed")), source) := by
    have hchunks : (payloadFrames [0x61]).length = 1 := by
      rw [payloadFrames, length_framesOf, length_pieces payloadChunkMaximumBytes_pos]
      rfl
    have hcounts : source.observedChunkCount ≠ source.expectation.chunkCount := by
      rw [hreading.expectation]
      unfold ValidatingPayloadSource.open at hopen
      split_ifs at hopen
      rw [← Except.ok.inj hopen]
      exact (show 0 ≠ (payloadFrames [0x61]).length by rw [hchunks]; decide)
    simp [ValidatingPayloadSource.call, ValidatingPayloadSource.finish, hreading.clean,
      hreading.receipt, hcounts]
  refine ⟨source, hopen, ⟨?_, ?_⟩, ?_, ?_⟩
  · rw [hempty]
    exact id
  · rw [hempty]
    exact hread
  · rw [hearly]
    exact id
  · rw [hearly]
    exact hread

end Cxxlens.Sdk.Sqlite
