import Cxxlens.Foundation.BigEndian
import Cxxlens.Sdk.Result

set_option autoImplicit false

/-! # SHA-256 of the frame codec

`sha256_workspace` and `sha256` of `codec.cpp`. The pending bytes of the block buffer are a list, so
`buffer_size_` is its length; the schedule and the working variables are scratch space that every
`transform` overwrites, and are local here. -/

namespace Cxxlens.ProtocolV2

/-- `digest32`: exactly 32 bytes. -/
structure Digest32 where
  bytes : Bytes
  size : bytes.length = 32
  deriving DecidableEq, Repr

/-- `digest32{}` -/
def Digest32.zero : Digest32 := ⟨List.replicate 32 0, by simp⟩

theorem Digest32.ext {left right : Digest32} (h : left.bytes = right.bytes) : left = right := by
  cases left
  cases right
  simp only at h
  subst h
  rfl

/-- `digest_is_zero` -/
def digestIsZero (digest : Digest32) : Bool :=
  digest.bytes.all fun item => item == 0

/-- `digest_equal` -/
def digestEqual (left right : Digest32) : Bool :=
  left.bytes == right.bytes

/-- `sha256_constants` -/
def sha256Constants : List UInt32 :=
  [0x428a2f98, 0x71374491, 0xb5c0fbcf, 0xe9b5dba5, 0x3956c25b, 0x59f111f1,
    0x923f82a4, 0xab1c5ed5, 0xd807aa98, 0x12835b01, 0x243185be, 0x550c7dc3,
    0x72be5d74, 0x80deb1fe, 0x9bdc06a7, 0xc19bf174, 0xe49b69c1, 0xefbe4786,
    0x0fc19dc6, 0x240ca1cc, 0x2de92c6f, 0x4a7484aa, 0x5cb0a9dc, 0x76f988da,
    0x983e5152, 0xa831c66d, 0xb00327c8, 0xbf597fc7, 0xc6e00bf3, 0xd5a79147,
    0x06ca6351, 0x14292967, 0x27b70a85, 0x2e1b2138, 0x4d2c6dfc, 0x53380d13,
    0x650a7354, 0x766a0abb, 0x81c2c92e, 0x92722c85, 0xa2bfe8a1, 0xa81a664b,
    0xc24b8b70, 0xc76c51a3, 0xd192e819, 0xd6990624, 0xf40e3585, 0x106aa070,
    0x19a4c116, 0x1e376c08, 0x2748774c, 0x34b0bcb5, 0x391c0cb3, 0x4ed8aa4a,
    0x5b9cca4f, 0x682e6ff3, 0x748f82ee, 0x78a5636f, 0x84c87814, 0x8cc70208,
    0x90befffa, 0xa4506ceb, 0xbef9a3f7, 0xc67178f2]

/-- `sha256_workspace` -/
structure Sha256Workspace where
  state : Vector UInt32 8
  buffer : Bytes
  bitLength : UInt64

/-- `sha256_workspace::sha256_workspace` -/
def Sha256Workspace.initial : Sha256Workspace where
  state := #v[0x6a09e667, 0xbb67ae85, 0x3c6ef372, 0xa54ff53a,
    0x510e527f, 0x9b05688c, 0x1f83d9ab, 0x5be0cd19]
  buffer := []
  bitLength := 0

/-- `rotate_right` -/
def rotateRight (value amount : UInt32) : UInt32 :=
  (value >>> amount) ||| (value <<< (32 - amount))

/-- The first sixteen words of the schedule, read from a block. -/
def blockWords : Bytes → List UInt32
  | a :: b :: c :: d :: rest => UInt32.ofNat (BigEndian.decode [a, b, c, d]) :: blockWords rest
  | _ => []

/-- The schedule with `count` more words than it has. -/
def extendSchedule : Nat → List UInt32 → List UInt32
  | 0, schedule => schedule
  | count + 1, schedule =>
    let index := schedule.length
    let word := fun back => schedule.getD (index - back) 0
    let s0 := rotateRight (word 15) 7 ^^^ rotateRight (word 15) 18 ^^^ (word 15 >>> 3)
    let s1 := rotateRight (word 2) 17 ^^^ rotateRight (word 2) 19 ^^^ (word 2 >>> 10)
    extendSchedule count (schedule ++ [word 16 + s0 + word 7 + s1])

/-- One round on the working variables. -/
def sha256Round (working : Vector UInt32 8) (constant word : UInt32) : Vector UInt32 8 :=
  let s1 := rotateRight working[4] 6 ^^^ rotateRight working[4] 11 ^^^ rotateRight working[4] 25
  let choose := (working[4] &&& working[5]) ^^^ (~~~working[4] &&& working[6])
  let temp1 := working[7] + s1 + choose + constant + word
  let s0 := rotateRight working[0] 2 ^^^ rotateRight working[0] 13 ^^^ rotateRight working[0] 22
  let majority := (working[0] &&& working[1]) ^^^ (working[0] &&& working[2]) ^^^
    (working[1] &&& working[2])
  let temp2 := s0 + majority
  #v[temp1 + temp2, working[0], working[1], working[2], working[3] + temp1, working[4], working[5],
    working[6]]

/-- `sha256_workspace::transform` -/
def Sha256Workspace.transform (state : Vector UInt32 8) (input : Bytes) : Vector UInt32 8 :=
  let schedule := extendSchedule 48 (blockWords input)
  let working := (List.zip sha256Constants schedule).foldl
    (fun working (constant, word) => sha256Round working constant word) state
  Vector.zipWith (· + ·) state working

/-- One byte of the loop in `update`. -/
def Sha256Workspace.push (workspace : Sha256Workspace) (item : UInt8) : Sha256Workspace :=
  let buffer := workspace.buffer ++ [item]
  if buffer.length = 64 then
    { workspace with state := transform workspace.state buffer, buffer := [] }
  else { workspace with buffer := buffer }

/-- `sha256_workspace::update` -/
def Sha256Workspace.update (workspace : Sha256Workspace) (input : Bytes) : Sha256Workspace :=
  let workspace := input.foldl Sha256Workspace.push workspace
  { workspace with bitLength := workspace.bitLength + UInt64.ofNat input.length * 8 }

/-- The eight words of the state as bytes. -/
def stateBytes (state : Vector UInt32 8) : Bytes :=
  state.toList.flatMap fun word => BigEndian.encode 4 word.toNat

theorem length_stateBytes (state : Vector UInt32 8) : (stateBytes state).length = 32 := by
  rw [stateBytes, List.length_flatMap]
  simp [BigEndian.length_encode]

/-- `sha256_workspace::finish` -/
def Sha256Workspace.finish (workspace : Sha256Workspace) : Digest32 :=
  let buffer := workspace.buffer ++ [0x80]
  let pad := fun (buffer : Bytes) (size : Nat) => buffer ++ List.replicate (size - buffer.length) 0
  let (state, buffer) :=
    if buffer.length > 56 then (transform workspace.state (pad buffer 64), [])
    else (workspace.state, buffer)
  let block := pad buffer 56 ++ BigEndian.encode 8 workspace.bitLength.toNat
  ⟨stateBytes (transform state block), length_stateBytes _⟩

/-- `sha256` -/
def sha256 (input : Bytes) : Digest32 :=
  (Sha256Workspace.initial.update input).finish

example : (sha256 (ascii "abc")).bytes =
    [0xba, 0x78, 0x16, 0xbf, 0x8f, 0x01, 0xcf, 0xea, 0x41, 0x41, 0x40, 0xde, 0x5d, 0xae, 0x22, 0x23,
      0xb0, 0x03, 0x61, 0xa3, 0x96, 0x17, 0x7a, 0x9c, 0xb4, 0x10, 0xff, 0x61, 0xf2, 0x00, 0x15,
      0xad] := by
  decide +kernel

end Cxxlens.ProtocolV2
