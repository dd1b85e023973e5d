import Cxxlens.ProtocolV2.Codec

set_option autoImplicit false

/-! # Round trips of the frame codec

A frame that passes the shared checks (`Frame.Valid`) has one wire form, `frameBytes`. The encoder
writes it and the decoder accepts nothing else: what stands between two offsets of a transcript is
decoded as a frame exactly when it is the wire form of that frame with its true digests. -/

namespace Cxxlens.ProtocolV2

open Sdk (Error Result)
open Fallible

/-! ## Canonical controls -/

theorem validateCanonicalControl_of_decode {type : MessageType} {control : Bytes} {bound : Limits}
    {decoded : Cbor.Value} (htype : isClosureMessage type = false)
    (h : Cbor.decode control (controlBound bound) = .ok decoded) :
    validateCanonicalControl type control bound = .ok () := by
  rw [validateCanonicalControl, if_neg (by simp [htype])]
  simp only [h, Cbor.encode_of_decode h]
  simp

/-- **The wire form of a value is canonical.** Encoding what was decoded gives the input back, no two
    inputs decode to one value, and so a control that decodes is never found non-canonical. -/
theorem decode_canonical :
    (∀ (input : Bytes) (bound : Cbor.Limits) (item : Cbor.Value),
      Cbor.decode input bound = .ok item → Cbor.encode item bound = .ok input) ∧
    (∀ (input input' : Bytes) (bound bound' : Cbor.Limits) (item : Cbor.Value),
      Cbor.decode input bound = .ok item → Cbor.decode input' bound' = .ok item →
        input = input') ∧
    (∀ (type : MessageType) (control : Bytes) (bound : Limits) (decoded : Cbor.Value),
      isClosureMessage type = false → Cbor.decode control (controlBound bound) = .ok decoded →
        validateCanonicalControl type control bound = .ok ()) :=
  ⟨fun _ _ _ => Cbor.encode_of_decode, fun _ _ _ _ _ => Cbor.decode_injective,
    fun _ _ _ _ => validateCanonicalControl_of_decode⟩

theorem decode_canonical_hello :
    Cbor.encode (.map [(ascii "a", .null)]) {} = .ok [0xa1, 0x61, 0x61, 0xf6] ∧
      (∀ input, Cbor.decode input {} = .ok (.map [(ascii "a", .null)]) →
        input = [0xa1, 0x61, 0x61, 0xf6]) ∧
      validateCanonicalControl .hello [0xa1, 0x61, 0x61, 0xf6] {} = .ok () :=
  ⟨decode_canonical.1 [0xa1, 0x61, 0x61, 0xf6] {} _ (by rfl),
    fun input h => decode_canonical.2.1 input [0xa1, 0x61, 0x61, 0xf6] {} {} _ h (by rfl),
    decode_canonical.2.2 .hello [0xa1, 0x61, 0x61, 0xf6] {} (.map [(ascii "a", .null)]) (by decide)
      (by rfl)⟩

/-! ## The wire form of a frame -/

/-- The 104 header bytes. -/
def headerBytes (value : Frame) (controlSize payloadSize : Nat) : Bytes :=
  magic ++ (BigEndian.encode 2 value.protocolMajor.toNat ++
    (BigEndian.encode 2 value.protocolMinor.toNat ++ (BigEndian.encode 2 value.type.id.toNat ++
    (BigEndian.encode 2 value.flags.toNat ++ (BigEndian.encode 8 value.streamId.toNat ++
    (BigEndian.encode 8 value.sequence.toNat ++ (BigEndian.encode 4 controlSize ++
    (BigEndian.encode 8 payloadSize ++ (value.controlDigest.bytes ++
      value.payloadDigest.bytes)))))))))

/-- The frame with both digest fields filled by the digests of its control and payload. -/
def Frame.withDigests (value : Frame) : Frame :=
  { value with controlDigest := sha256 value.control, payloadDigest := sha256 value.payload }

/-- The bytes of a frame. -/
def frameBytes (value : Frame) : Bytes :=
  headerBytes value.withDigests value.control.length value.payload.length ++
    (value.control ++ value.payload)

/-- The checks on a frame that both directions make. -/
structure Frame.Valid (bound : Limits) (value : Frame) : Prop where
  header : validateHeaderValues value.protocolMajor value.protocolMinor value.type.id value.flags
    value.control.length value.payload.length bound = .ok ()
  control : validateCanonicalControl value.type value.control bound = .ok ()

/-- A digest field the caller left empty or filled correctly. -/
def DigestAdmitted (field : Digest32) (actual : Bytes) : Prop :=
  digestIsZero field = true ∨ field = sha256 actual

theorem digestEqual_iff (left right : Digest32) : digestEqual left right = true ↔ left = right := by
  rw [digestEqual, beq_iff_eq]
  exact ⟨Digest32.ext, fun h => congrArg Digest32.bytes h⟩

theorem encodeFrame_eq_ok_iff {value : Frame} {bound : Limits} {output : Bytes} :
    encodeFrame value bound = .ok output ↔
      value.Valid bound ∧ DigestAdmitted value.controlDigest value.control ∧
        DigestAdmitted value.payloadDigest value.payload ∧ output = frameBytes value := by
  unfold encodeFrame
  simp only [seq_eq_ok_iff, guard_eq_ok_iff, Except.ok.injEq]
  have hdigests : ¬ ((!digestIsZero value.controlDigest &&
        !digestEqual value.controlDigest (sha256 value.control)) ||
      (!digestIsZero value.payloadDigest &&
        !digestEqual value.payloadDigest (sha256 value.payload))) = true ↔
      DigestAdmitted value.controlDigest value.control ∧
        DigestAdmitted value.payloadDigest value.payload := by
    simp only [DigestAdmitted, ← digestEqual_iff, Bool.or_eq_true, Bool.and_eq_true,
      Bool.not_eq_true', not_or, not_and, Bool.not_eq_false]
    rw [or_iff_not_imp_left, or_iff_not_imp_left, Bool.not_eq_true, Bool.not_eq_true]
  have hbytes : magic ++ BigEndian.encode 2 value.protocolMajor.toNat ++
      BigEndian.encode 2 value.protocolMinor.toNat ++ BigEndian.encode 2 value.type.id.toNat ++
      BigEndian.encode 2 value.flags.toNat ++ BigEndian.encode 8 value.streamId.toNat ++
      BigEndian.encode 8 value.sequence.toNat ++ BigEndian.encode 4 value.control.length ++
      BigEndian.encode 8 value.payload.length ++ (sha256 value.control).bytes ++
      (sha256 value.payload).bytes ++ value.control ++ value.payload = frameBytes value := by
    simp only [frameBytes, headerBytes, Frame.withDigests, List.append_assoc]
  rw [hdigests, hbytes]
  constructor
  · rintro ⟨hheader, hcontrol, ⟨hdigest, hdigest'⟩, rfl⟩
    exact ⟨⟨hheader, hcontrol⟩, hdigest, hdigest', rfl⟩
  · rintro ⟨⟨hheader, hcontrol⟩, hdigest, hdigest', rfl⟩
    exact ⟨hheader, hcontrol, ⟨hdigest, hdigest'⟩, rfl⟩

/-! ## Reading the header -/

/-- A number stands at an offset exactly when it is read there. -/
theorem at_encode_iff {input : Bytes} {offset width value : Nat}
    (hroom : offset + width ≤ input.length) (hvalue : value < 256 ^ width) :
    Span.At input offset (BigEndian.encode width value) ↔ readBe input offset width = value := by
  have hlength : (Span.slice input offset (offset + width)).length = width := by
    rw [Span.length_slice hroom, Nat.add_sub_cancel_left]
  constructor
  · intro hat
    have hslice := hat.slice_eq
    rw [BigEndian.length_encode] at hslice
    rw [readBe, hslice, BigEndian.decode_encode hvalue]
  · rintro rfl
    have hcode := BigEndian.encode_decode (Span.slice input offset (offset + width))
    rw [hlength] at hcode
    rw [readBe, hcode]
    exact Span.at_slice _ _ _

theorem at_iff_slice_eq {input part : Bytes} {offset : Nat} :
    Span.At input offset part ↔ Span.slice input offset (offset + part.length) = part := by
  constructor
  · exact fun hat => hat.slice_eq
  · intro hslice
    rw [← hslice]
    exact Span.at_slice _ _ _

theorem at_digest_iff {input : Bytes} {offset : Nat} {digest : Digest32}
    (hroom : offset + 32 ≤ input.length) :
    Span.At input offset digest.bytes ↔ digestAt input offset = digest := by
  have hlength : (Span.slice input offset (offset + 32)).length = 32 := by
    rw [Span.length_slice hroom, Nat.add_sub_cancel_left]
  rw [at_iff_slice_eq, digest.size, digestAt, dif_pos hlength]
  constructor
  · exact fun h => Digest32.ext h
  · exact fun h => congrArg Digest32.bytes h

theorem readBe_lt {input : Bytes} {offset width : Nat} (hroom : offset + width ≤ input.length) :
    readBe input offset width < 256 ^ width := by
  have hlt := BigEndian.decode_lt (Span.slice input offset (offset + width))
  rwa [Span.length_slice hroom, Nat.add_sub_cancel_left] at hlt

theorem at_uint16_iff {input : Bytes} {offset : Nat} {value : UInt16}
    (hroom : offset + 2 ≤ input.length) :
    Span.At input offset (BigEndian.encode 2 value.toNat) ↔
      UInt16.ofNat (readBe input offset 2) = value := by
  have hlt : readBe input offset 2 < 2 ^ 16 := readBe_lt hroom
  rw [at_encode_iff hroom value.toNat_lt, ← UInt16.toNat_inj, UInt16.toNat_ofNat',
    Nat.mod_eq_of_lt hlt]

theorem at_uint64_iff {input : Bytes} {offset : Nat} {value : UInt64}
    (hroom : offset + 8 ≤ input.length) :
    Span.At input offset (BigEndian.encode 8 value.toNat) ↔
      UInt64.ofNat (readBe input offset 8) = value := by
  have hlt : readBe input offset 8 < 2 ^ 64 := readBe_lt hroom
  rw [at_encode_iff hroom value.toNat_lt, ← UInt64.toNat_inj, UInt64.toNat_ofNat',
    Nat.mod_eq_of_lt hlt]

theorem length_headerBytes (value : Frame) (controlSize payloadSize : Nat) :
    (headerBytes value controlSize payloadSize).length = fixedHeaderBytes := by
  simp only [headerBytes, List.length_append, BigEndian.length_encode, Digest32.size, magic]
  rfl

/-- **A header is the wire form of the fields read from it.** -/
theorem eq_headerBytes_iff {input : Bytes} (hlength : input.length = fixedHeaderBytes)
    (value : Frame) {controlSize payloadSize : Nat} (hcontrol : controlSize < 2 ^ 32)
    (hpayload : payloadSize < 2 ^ 64) :
    input = headerBytes value controlSize payloadSize ↔
      Span.slice input 0 4 = magic ∧ UInt16.ofNat (readBe input 4 2) = value.protocolMajor ∧
        UInt16.ofNat (readBe input 6 2) = value.protocolMinor ∧
        UInt16.ofNat (readBe input 8 2) = value.type.id ∧
        UInt16.ofNat (readBe input 10 2) = value.flags ∧
        UInt64.ofNat (readBe input 12 8) = value.streamId ∧
        UInt64.ofNat (readBe input 20 8) = value.sequence ∧ readBe input 28 4 = controlSize ∧
        readBe input 32 8 = payloadSize ∧ digestAt input 40 = value.controlDigest ∧
        digestAt input 72 = value.payloadDigest := by
  have hsize : input.length = 104 := hlength
  have hself : input = headerBytes value controlSize payloadSize ↔
      Span.At input 0 (headerBytes value controlSize payloadSize) := by
    constructor
    · intro h
      rw [← h]
      exact Span.at_self input
    · intro hat
      exact (hat.eq_self (by rw [length_headerBytes, hlength])).symm
  have hmagic : magic.length = 4 := by decide
  rw [hself, headerBytes]
  simp only [Span.at_append, BigEndian.length_encode, Digest32.size, hmagic, Nat.zero_add,
    Nat.reduceAdd]
  rw [at_iff_slice_eq, at_uint16_iff (by omega), at_uint16_iff (by omega), at_uint16_iff (by omega),
    at_uint16_iff (by omega), at_uint64_iff (by omega), at_uint64_iff (by omega),
    at_encode_iff (by omega) (by omega), at_encode_iff (by omega) (by omega),
    at_digest_iff (by omega), at_digest_iff (by omega), hmagic]

/-- The sizes a header check lets through. -/
theorem validateHeaderValues_sizes {major minor typeId flags : UInt16}
    {controlSize payloadSize : Nat} {bound : Limits}
    (h : validateHeaderValues major minor typeId flags controlSize payloadSize bound = .ok ()) :
    controlSize < 2 ^ 32 ∧ fixedHeaderBytes + controlSize + payloadSize ≤ sizeMax := by
  unfold validateHeaderValues at h
  simp only [seq_eq_ok_iff, guard_eq_ok_iff] at h
  obtain ⟨-, -, -, -, -, -, -, -, -, -, -, -, -, -, -, hcontrol, hsizes, -⟩ := h
  unfold sizeMax fixedHeaderBytes at *
  omega

theorem prepareFrameHeader_eq_ok_iff {header : Bytes} {bound : Limits}
    (hlength : header.length = fixedHeaderBytes) {prepared : PreparedFrameDecode} :
    prepareFrameHeader header bound = .ok prepared ↔
      header = headerBytes prepared.header prepared.controlBytes prepared.payloadBytes ∧
        validateHeaderValues prepared.header.protocolMajor prepared.header.protocolMinor
          prepared.header.type.id prepared.header.flags prepared.controlBytes
          prepared.payloadBytes bound = .ok () ∧
        prepared.header.control = [] ∧ prepared.header.payload = [] ∧ prepared.bound = bound ∧
        prepared.consumed = false := by
  have hshort : ¬ header.length < fixedHeaderBytes := by omega
  unfold prepareFrameHeader inspectHeader
  rw [if_neg hshort, bind_eq_ok_iff]
  simp only [seq_eq_ok_iff, guard_eq_ok_iff, Except.ok.injEq]
  constructor
  · rintro ⟨inspected, ⟨hmagic, -, hvalid, rfl⟩, rfl⟩
    obtain ⟨hcontrol, hsizes⟩ := validateHeaderValues_sizes hvalid
    have hpayload : readBe header 32 8 < 2 ^ 64 := by
      unfold sizeMax at hsizes
      omega
    refine ⟨?_, hvalid, rfl, rfl, rfl, rfl⟩
    rw [eq_headerBytes_iff hlength _ hcontrol hpayload]
    exact ⟨not_not.1 hmagic, rfl, rfl, rfl, rfl, rfl, rfl, rfl, rfl, rfl, rfl⟩
  · rintro ⟨hheader, hvalid, hcontrol, hpayload, hbound, hconsumed⟩
    obtain ⟨hsize, hsizes⟩ := validateHeaderValues_sizes hvalid
    have hpayloadSize : prepared.payloadBytes < 2 ^ 64 := by
      unfold sizeMax at hsizes
      omega
    obtain ⟨hmagic, hmajor, hminor, htype, hflags, hstream, hsequence, hcontrolSize,
      hpayloadSize, hcontrolDigest, hpayloadDigest⟩ :=
      (eq_headerBytes_iff hlength _ hsize hpayloadSize).1 hheader
    rw [hmajor, hminor, htype, hflags, hstream, hsequence, hcontrolSize, hpayloadSize,
      hcontrolDigest, hpayloadDigest]
    refine ⟨_, ⟨not_not.2 hmagic, by omega, hvalid, rfl⟩, ?_⟩
    obtain ⟨⟨_, _, _, _, _, _, _, _, _, _⟩, _, _, _, _⟩ := prepared
    simp only at hcontrol hpayload hbound hconsumed
    subst hcontrol hpayload hbound hconsumed
    rfl

/-! ## One frame of a transcript -/

theorem checkDigest_eq_ok_iff {actual field : Bytes} {expected : Digest32} :
    checkDigest actual expected field = .ok () ↔ sha256 actual = expected := by
  rw [checkDigest, guard_eq_ok_iff, Bool.not_eq_true', Bool.not_eq_false, digestEqual_iff]
  simp

/-- What `finalize` accepts: bodies of the announced sizes that make a valid frame with the digests
    of the header. -/
theorem finalize_eq_ok_iff {prepared : PreparedFrameDecode} (hconsumed : prepared.consumed = false)
    {control payload : Bytes} {value : Frame} :
    prepared.finalize control payload = .ok value ↔
      value = { prepared.header with control := control, payload := payload } ∧
        control.length = prepared.controlBytes ∧ payload.length = prepared.payloadBytes ∧
        value.Valid prepared.bound ∧ value.withDigests = value := by
  unfold PreparedFrameDecode.finalize
  rw [hconsumed]
  simp only [guard_eq_ok_iff, seq_eq_ok_iff, Except.ok.injEq, checkDigest_eq_ok_iff, not_or,
    not_not]
  constructor
  · rintro ⟨-, ⟨hcontrol, hpayload⟩, hvalid, hdigest, hdigest', hcanonical, rfl⟩
    exact ⟨rfl, hcontrol, hpayload, ⟨hvalid, hcanonical⟩, by
      simp only [Frame.withDigests, hdigest, hdigest']⟩
  · rintro ⟨rfl, hcontrol, hpayload, ⟨hvalid, hcanonical⟩, hdigests⟩
    have hdigest : sha256 control = prepared.header.controlDigest :=
      congrArg Frame.controlDigest hdigests
    have hdigest' : sha256 payload = prepared.header.payloadDigest :=
      congrArg Frame.payloadDigest hdigests
    exact ⟨by decide, ⟨hcontrol, hpayload⟩, hvalid, hdigest, hdigest', hcanonical, rfl⟩

theorem length_frameBytes (value : Frame) :
    (frameBytes value).length =
      fixedHeaderBytes + (value.control.length + value.payload.length) := by
  rw [frameBytes, List.length_append, length_headerBytes, List.length_append]

theorem frameBytes_ne_nil (value : Frame) : frameBytes value ≠ [] := by
  apply List.ne_nil_of_length_pos
  rw [length_frameBytes]
  unfold fixedHeaderBytes
  omega

/-- Where the parts of a frame stand. -/
theorem at_frameBytes_iff {input : Bytes} {offset : Nat} {value : Frame}
    (hdigests : value.withDigests = value) :
    Span.At input offset (frameBytes value) ↔
      Span.At input offset (headerBytes value value.control.length value.payload.length) ∧
        Span.At input (offset + fixedHeaderBytes) value.control ∧
        Span.At input (offset + fixedHeaderBytes + value.control.length) value.payload := by
  rw [frameBytes, hdigests, Span.at_append, Span.at_append, length_headerBytes]

/-- **A frame is decoded at an offset exactly when its wire form stands there**, with the digest
    fields filled in. -/
theorem decodeFrameAt_eq_ok_iff {input : Bytes} {bound : Limits} {offset next : Nat}
    {value : Frame} :
    decodeFrameAt input bound offset = .ok (value, next) ↔
      value.Valid bound ∧ value.withDigests = value ∧ Span.At input offset (frameBytes value) ∧
        next = offset + (frameBytes value).length := by
  have hslice : offset + fixedHeaderBytes ≤ input.length →
      (Span.slice input offset (offset + fixedHeaderBytes)).length = fixedHeaderBytes := by
    intro hroom
    rw [Span.length_slice hroom, Nat.add_sub_cancel_left]
  unfold decodeFrameAt
  rw [guard_eq_ok_iff]
  constructor
  · rintro ⟨hroom, h⟩
    obtain ⟨prepared, hprepare, h⟩ := bind_eq_ok_iff.1 h
    rw [guard_eq_ok_iff] at h
    obtain ⟨hfits, h⟩ := h
    obtain ⟨decoded, hfinal, hout⟩ := bind_eq_ok_iff.1 h
    obtain ⟨rfl, rfl⟩ := Prod.mk.inj (Except.ok.inj hout)
    have hheader := hslice (by unfold fixedHeaderBytes at *; omega)
    obtain ⟨hbytes, -, -, -, rfl, hconsumed⟩ := (prepareFrameHeader_eq_ok_iff hheader).1 hprepare
    obtain ⟨hvalue, hcontrol, hpayload, hvalid, hdigests⟩ :=
      (finalize_eq_ok_iff hconsumed).1 hfinal
    subst hvalue
    refine ⟨hvalid, hdigests, ?_, ?_⟩
    · rw [at_frameBytes_iff hdigests]
      simp only [hcontrol, hpayload]
      refine ⟨?_, Span.at_slice _ _ _, Span.at_slice _ _ _⟩
      have hat := Span.at_slice input offset (offset + fixedHeaderBytes)
      rw [hbytes] at hat
      exact hat
    · rw [length_frameBytes]
      simp only [hcontrol, hpayload]
      rfl
  · rintro ⟨hvalid, hdigests, hat, rfl⟩
    have hend := hat.end_le (frameBytes_ne_nil value)
    have hlength := length_frameBytes value
    obtain ⟨hheader, hcontrol, hpayload⟩ := (at_frameBytes_iff hdigests).1 hat
    have hheaderSlice := hheader.slice_eq
    have hcontrolSlice := hcontrol.slice_eq
    have hpayloadSlice := hpayload.slice_eq
    rw [length_headerBytes] at hheaderSlice
    -- the decoder fills the bodies in after the header
    have hprepare : prepareFrameHeader (Span.slice input offset (offset + fixedHeaderBytes)) bound =
        .ok ⟨{ value with control := [], payload := [] }, value.control.length,
          value.payload.length, bound, false⟩ :=
      (prepareFrameHeader_eq_ok_iff (hslice (by omega))).2
        ⟨hheaderSlice, hvalid.header, rfl, rfl, rfl, rfl⟩
    have hfinal : PreparedFrameDecode.finalize ⟨{ value with control := [], payload := [] },
        value.control.length, value.payload.length, bound, false⟩ value.control value.payload =
        .ok value :=
      (finalize_eq_ok_iff rfl).2 ⟨rfl, rfl, rfl, hvalid, hdigests⟩
    refine ⟨by unfold fixedHeaderBytes at *; omega, bind_eq_ok_iff.2 ⟨_, hprepare, ?_⟩⟩
    have hnext : offset + (fixedHeaderBytes + (value.control.length + value.payload.length)) =
        offset + fixedHeaderBytes + value.control.length + value.payload.length := by omega
    simp only [PreparedFrameDecode.encodedBytes, hnext, hcontrolSlice, hpayloadSlice]
    rw [guard_eq_ok_iff, bind_eq_ok_iff, hlength, hnext]
    exact ⟨by omega, value, hfinal, rfl⟩

/-! ## A transcript -/

/-- The bytes of a transcript. -/
def transcriptBytes (frames : List Frame) : Bytes :=
  (frames.map frameBytes).flatten

theorem transcriptBytes_cons (value : Frame) (rest : List Frame) :
    transcriptBytes (value :: rest) = frameBytes value ++ transcriptBytes rest := rfl

/-- The frames the decoder returns: valid, with their true digests. -/
def DecodedFrames (bound : Limits) (frames : List Frame) : Prop :=
  ∀ value ∈ frames, value.Valid bound ∧ value.withDigests = value

theorem decodeFrames_eq_ok_iff {input : Bytes} {bound : Limits} {budget offset : Nat}
    (hoffset : offset ≤ input.length) {frames : List Frame} :
    decodeFrames input bound budget offset = .ok frames ↔
      frames.length ≤ budget ∧ DecodedFrames bound frames ∧
        Span.At input offset (transcriptBytes frames) ∧
        offset + (transcriptBytes frames).length = input.length := by
  induction budget generalizing offset frames with
  | zero =>
      unfold decodeFrames
      by_cases hmore : offset < input.length
      · rw [if_pos hmore]
        constructor
        · intro h
          exact absurd h (by simp)
        · rintro ⟨hlength, -, -, hend⟩
          obtain rfl := List.length_eq_zero_iff.1 (Nat.le_zero.1 hlength)
          rw [transcriptBytes, List.map_nil, List.flatten_nil, List.length_nil] at hend
          omega
      · rw [if_neg hmore, Except.ok.injEq]
        constructor
        · rintro rfl
          exact ⟨le_refl _, fun value hvalue => absurd hvalue (by simp), Span.at_nil _ _,
            by simp only [transcriptBytes, List.map_nil, List.flatten_nil, List.length_nil]; omega⟩
        · rintro ⟨hlength, -⟩
          exact (List.length_eq_zero_iff.1 (Nat.le_zero.1 hlength)).symm
  | succ budget ih =>
      unfold decodeFrames
      by_cases hmore : offset < input.length
      · rw [if_pos hmore]
        simp only [bind_eq_ok_iff, Prod.exists, Except.ok.injEq]
        constructor
        · rintro ⟨value, next, hframe, rest, hrest, rfl⟩
          obtain ⟨hvalid, hdigests, hat, rfl⟩ := decodeFrameAt_eq_ok_iff.1 hframe
          have hend := hat.end_le (frameBytes_ne_nil value)
          obtain ⟨hlength, hdecoded, hat', hend'⟩ := (ih hend).1 hrest
          refine ⟨Nat.succ_le_succ hlength, ?_, ?_, ?_⟩
          · intro other hother
            rcases List.mem_cons.1 hother with rfl | hmem
            · exact ⟨hvalid, hdigests⟩
            · exact hdecoded other hmem
          · rw [transcriptBytes_cons, Span.at_append]
            exact ⟨hat, hat'⟩
          · rw [transcriptBytes_cons, List.length_append, ← Nat.add_assoc]
            exact hend'
        · rintro ⟨hlength, hdecoded, hat, hend⟩
          obtain _ | ⟨value, rest⟩ := frames
          · rw [transcriptBytes, List.map_nil, List.flatten_nil, List.length_nil] at hend
            omega
          · rw [transcriptBytes_cons, Span.at_append] at hat
            rw [transcriptBytes_cons, List.length_append, ← Nat.add_assoc] at hend
            obtain ⟨hvalid, hdigests⟩ := hdecoded value (List.mem_cons_self ..)
            have hframe := decodeFrameAt_eq_ok_iff.2 ⟨hvalid, hdigests, hat.1, rfl⟩
            refine ⟨value, _, hframe, rest, (ih (by omega)).2 ⟨by simpa using hlength, ?_, hat.2,
              hend⟩, rfl⟩
            exact fun other hother => hdecoded other (List.mem_cons_of_mem _ hother)
      · rw [if_neg hmore, Except.ok.injEq]
        constructor
        · rintro rfl
          exact ⟨Nat.zero_le _, fun value hvalue => absurd hvalue (by simp), Span.at_nil _ _,
            by simp only [transcriptBytes, List.map_nil, List.flatten_nil, List.length_nil]; omega⟩
        · rintro ⟨-, -, -, hend⟩
          obtain _ | ⟨value, rest⟩ := frames
          · rfl
          · have hpos := List.length_pos_iff.2 (frameBytes_ne_nil value)
            rw [transcriptBytes_cons, List.length_append] at hend
            omega

/-- **What the transcript decoder accepts**: between one and `maximum_frames` valid frames with
    their true digests, one behind the other. -/
theorem decodeFrameStream_eq_ok_iff {input : Bytes} {bound : Limits} {maximumFrames : UInt64}
    {frames : List Frame} : decodeFrameStream input bound maximumFrames = .ok frames ↔
      frames ≠ [] ∧ frames.length ≤ maximumFrames.toNat ∧ DecodedFrames bound frames ∧
        input = transcriptBytes frames := by
  unfold decodeFrameStream
  simp only [seq_eq_ok_iff, guard_eq_ok_iff]
  rw [decodeFrames_eq_ok_iff (Nat.zero_le _)]
  constructor
  · rintro ⟨-, -, hempty, hlength, hdecoded, hat, hend⟩
    have hinput := hat.eq_self (by omega)
    refine ⟨?_, hlength, hdecoded, hinput.symm⟩
    rintro rfl
    exact hempty (by rw [← hinput]; rfl)
  · rintro ⟨hframes, hlength, hdecoded, rfl⟩
    obtain _ | ⟨value, rest⟩ := frames
    · exact absurd rfl hframes
    · have hvalid := (hdecoded value (List.mem_cons_self ..)).1.header
      have hlimits : validateLimits bound = .ok () := by
        unfold validateHeaderValues at hvalid
        exact (seq_eq_ok_iff.1 hvalid).1
      refine ⟨hlimits, ?_, ?_, hlength, hdecoded, Span.at_self _, Nat.zero_add _⟩
      · rintro rfl
        exact absurd hlength (by simp)
      · rw [transcriptBytes_cons, List.isEmpty_iff]
        exact List.append_ne_nil_of_left_ne_nil (frameBytes_ne_nil value) _

theorem Frame.Valid.withDigests {bound : Limits} {value : Frame} (h : value.Valid bound) :
    value.withDigests.Valid bound :=
  ⟨h.header, h.control⟩

/-- The encodings of a list of frames, one for each. -/
def EncodeAll (bound : Limits) (frames : List Frame) (encodings : List Bytes) : Prop :=
  List.Forall₂ (fun value output => encodeFrame value bound = .ok output) frames encodings

theorem EncodeAll.spec {bound : Limits} {frames : List Frame} {encodings : List Bytes}
    (h : EncodeAll bound frames encodings) :
    DecodedFrames bound (frames.map Frame.withDigests) ∧
      encodings.flatten = transcriptBytes (frames.map Frame.withDigests) := by
  induction h with
  | nil => exact ⟨fun value hvalue => absurd hvalue (by simp), rfl⟩
  | @cons value output rest outputs hencode _ ih =>
      obtain ⟨hvalid, -, -, rfl⟩ := encodeFrame_eq_ok_iff.1 hencode
      refine ⟨?_, ?_⟩
      · intro other hother
        rcases List.mem_cons.1 hother with rfl | hmem
        · exact ⟨hvalid.withDigests, rfl⟩
        · exact ih.1 other hmem
      · rw [List.flatten_cons, List.map_cons, transcriptBytes_cons, ih.2]
        rfl

theorem DecodedFrames.encodeAll {bound : Limits} {frames : List Frame}
    (h : DecodedFrames bound frames) : EncodeAll bound frames (frames.map frameBytes) := by
  induction frames with
  | nil => exact .nil
  | cons value rest ih =>
      obtain ⟨hvalid, hdigests⟩ := h value (List.mem_cons_self ..)
      refine .cons ?_ (ih fun other hother => h other (List.mem_cons_of_mem _ hother))
      rw [encodeFrame_eq_ok_iff]
      exact ⟨hvalid, Or.inr (congrArg Frame.controlDigest hdigests).symm,
        Or.inr (congrArg Frame.payloadDigest hdigests).symm, rfl⟩

/-- **Frames survive the wire, and the wire form is unique.** Between one and `maximum_frames`
    encoded frames decode to the same frames with their digests filled in, and what a transcript
    decodes to encodes to that transcript. -/
theorem decodeFrameStream_roundTrip (bound : Limits) (maximumFrames : UInt64) :
    (∀ (frames : List Frame) (encodings : List Bytes), frames ≠ [] →
      frames.length ≤ maximumFrames.toNat → EncodeAll bound frames encodings →
      decodeFrameStream encodings.flatten bound maximumFrames =
        .ok (frames.map Frame.withDigests)) ∧
    (∀ (input : Bytes) (frames : List Frame),
      decodeFrameStream input bound maximumFrames = .ok frames →
      ∃ encodings, EncodeAll bound frames encodings ∧ encodings.flatten = input) := by
  constructor
  · intro frames encodings hframes hlength hencode
    obtain ⟨hdecoded, hflatten⟩ := hencode.spec
    rw [decodeFrameStream_eq_ok_iff]
    exact ⟨by simpa using hframes, by rwa [List.length_map], hdecoded, hflatten⟩
  · intro input frames hdecode
    obtain ⟨-, -, hdecoded, rfl⟩ := decodeFrameStream_eq_ok_iff.1 hdecode
    exact ⟨frames.map frameBytes, hdecoded.encodeAll, rfl⟩

/-- A hello frame with an empty map for its control. -/
def helloFrame : Frame := { control := [0xa0] }

theorem helloFrame_valid : helloFrame.Valid {} :=
  ⟨by rfl, by rfl⟩

theorem decodeFrameStream_roundTrip_hello :
    decodeFrameStream [frameBytes helloFrame, frameBytes helloFrame].flatten {} 2 =
        .ok [helloFrame.withDigests, helloFrame.withDigests] ∧
      ∃ encodings, EncodeAll {} [helloFrame.withDigests, helloFrame.withDigests] encodings ∧
        encodings.flatten = [frameBytes helloFrame, frameBytes helloFrame].flatten := by
  have hencode : encodeFrame helloFrame {} = .ok (frameBytes helloFrame) :=
    encodeFrame_eq_ok_iff.2 ⟨helloFrame_valid, Or.inl (by decide), Or.inl (by decide), rfl⟩
  have hdecode := (decodeFrameStream_roundTrip {} 2).1 [helloFrame, helloFrame]
    [frameBytes helloFrame, frameBytes helloFrame] (by simp) (by decide)
    (.cons hencode (.cons hencode .nil))
  exact ⟨hdecode, (decodeFrameStream_roundTrip {} 2).2 _ _ hdecode⟩

end Cxxlens.ProtocolV2
