import Cxxlens.Sdk.Digest
import Cxxlens.Sdk.Relation.Descriptor

set_option autoImplicit false

/-! # Source closures

`source_closure.cpp`: the members and blobs of an immutable snapshot of the compiler's inputs. The
two Unicode functions, ICU in the source, are parameters. -/

namespace Cxxlens.Clang22

open Sdk

/-- `source_closure_role` -/
inductive SourceClosureRole where
  | main
  | header
  | generated
  | forcedInclude
  | macroFile
  deriving DecidableEq, Repr

/-- `source_closure_encoding` -/
inductive SourceClosureEncoding where
  | utf8
  | utf16le
  | utf16be
  | localeDependent
  | binaryOrUnknown
  deriving DecidableEq, Repr

/-- `source_closure_blob` -/
structure SourceClosureBlob where
  contentDigest : Bytes
  sizeBytes : UInt64
  content : Option Bytes
  deriving DecidableEq, Repr

/-- `source_closure_member` -/
structure SourceClosureMember where
  fileId : Bytes
  logicalPath : Bytes
  role : SourceClosureRole
  encoding : SourceClosureEncoding
  sizeBytes : UInt64
  contentDigest : Bytes
  readOnly : Bool
  deriving DecidableEq, Repr

/-- `source_closure_snapshot` -/
structure SourceClosureSnapshot where
  snapshotId : Bytes
  closureDigest : Bytes
  members : List SourceClosureMember
  blobs : List SourceClosureBlob
  deriving DecidableEq, Repr

/-- `unicode_nfc.hpp` -/
structure UnicodeNfc where
  isNfcUtf8 : Bytes → Result Bool
  nfcCasefoldUtf8 : Bytes → Result Bytes

/-- A normalization that changes nothing. -/
def plainUnicode : UnicodeNfc where
  isNfcUtf8 := fun _ => .ok true
  nfcCasefoldUtf8 := .ok

/-- `failure` -/
def failure (code field detail : Bytes) : Error :=
  ⟨code, field, detail⟩

/-- `typed_digest` -/
def typedDigest (value leading : Bytes) : Bool :=
  value.length == leading.length + 64 && leading.isPrefixOf value &&
    (value.drop leading.length).all isLowerHex

/-- `valid_content_digest` -/
def validContentDigest (value : Bytes) : Bool :=
  typedDigest value "sha256:"

/-- `role_name` -/
def SourceClosureRole.name : SourceClosureRole → Bytes
  | .main => "main"
  | .header => "header"
  | .generated => "generated"
  | .forcedInclude => "forced-include"
  | .macroFile => "macro-file"

/-- `encoding_name` -/
def SourceClosureEncoding.name : SourceClosureEncoding → Bytes
  | .utf8 => "utf8"
  | .utf16le => "utf16le"
  | .utf16be => "utf16be"
  | .localeDependent => "locale_dependent"
  | .binaryOrUnknown => "binary_or_unknown"

/-! ## Paths -/

/-- `project_prefix` -/
def projectPrefix : Bytes := ascii "project://"

/-- A segment that a canonical path has. -/
def plainSegment (segment : Bytes) : Bool :=
  !segment.isEmpty && segment != ascii "." && segment != ascii ".."

section Paths

variable (unicode : UnicodeNfc)

/-- `source_closure_relative_path` -/
def sourceClosureRelativePath (logicalPath : Bytes) : Result Bytes := do
  reject (logicalPath.isEmpty || decide (logicalPath.length > 4096) ||
    logicalPath.contains 0x00 || !projectPrefix.isPrefixOf logicalPath)
    (failure "source-closure.path-invalid" "logical-path" logicalPath)
  match validateUtf8Text logicalPath with
  | .error error => .error (failure "source-closure.path-invalid" "logical-path" error.detail)
  | .ok () =>
    match unicode.isNfcUtf8 logicalPath with
    | .error error => .error (failure "source-closure.path-invalid" "logical-path" error.detail)
    | .ok normalized => do
      reject (!normalized) (failure "source-closure.path-not-nfc" "logical-path" logicalPath)
      reject (logicalPath.any isControl)
        (failure "source-closure.path-invalid" "logical-path" "control-character")
      let relative := logicalPath.drop projectPrefix.length
      reject (relative.isEmpty || relative.head? == some 0x2f || relative.getLast? == some 0x2f ||
        relative.contains 0x5c || relative.contains 0x3f || relative.contains 0x23)
        (failure "source-closure.path-invalid" "logical-path" logicalPath)
      reject (!(relative.splitOn 0x2f).all plainSegment)
        (failure "source-closure.path-invalid" "logical-path" logicalPath)
      .ok relative

/-- `relative_logical_path` -/
def relativeLogicalPath (value : Bytes) : Bool :=
  !value.isEmpty && value.head? != some 0x2f && value.getLast? != some 0x2f &&
    !projectPrefix.isPrefixOf value && (value.splitOn 0x2f).all plainSegment

/-- `derive_source_file_id` -/
def deriveSourceFileId (hash : Bytes → Bytes) (path : Bytes) : Result Bytes :=
  if !relativeLogicalPath path || !(validateUtf8Text path).isOk then
    .error ⟨"source-identity.invalid", "logical_path", "project-relative-canonical-path"⟩
  else
    canonicalIdentityDigest hash "file"
      [.fromString "project", .fromString path, .fromString "cxxlens.logical-path.v1"]

/-- `source_closure_file_id` -/
def sourceClosureFileId (hash : Bytes → Bytes) (logicalPath : Bytes) : Result Bytes := do
  let relative ← sourceClosureRelativePath unicode logicalPath
  deriveSourceFileId hash relative

end Paths

/-! ## Validation -/

/-- `maximum_blob_bytes` -/
def contractBlobBytes : UInt64 := 16 * 1024 * 1024

/-- `maximum_unique_blob_bytes` -/
def contractUniqueBlobBytes : UInt64 := 48 * 1024 * 1024

section Validation

variable (hash : Bytes → Bytes) (unicode : UnicodeNfc)

/-- `source_closure_blob::validate` -/
def SourceClosureBlob.validate (blob : SourceClosureBlob) : Result Unit :=
  match blob.content with
  | none => .error (failure "source-closure.blob-missing" "blob.content" blob.contentDigest)
  | some content => do
    reject (decide (blob.sizeBytes > contractBlobBytes))
      (failure "source-closure.limit-exceeded" "blob.size-bytes" blob.contentDigest)
    reject (decide (blob.sizeBytes.toNat ≠ content.length))
      (failure "source-closure.digest-mismatch" "blob.size-bytes" blob.contentDigest)
    reject (Sdk.contentDigest hash content != blob.contentDigest)
      (failure "source-closure.digest-mismatch" "blob.content-digest" blob.contentDigest)

/-- `source_closure_member::validate`; every role and encoding is one of the enumeration. -/
def SourceClosureMember.validate (member : SourceClosureMember) : Result Unit := do
  let expected ← sourceClosureFileId unicode hash member.logicalPath
  reject (expected != member.fileId)
    (failure "source-closure.digest-mismatch" "member.file-id" member.logicalPath)
  reject (!member.readOnly)
    (failure "source-closure.role-invalid" "member.metadata" member.logicalPath)
  reject (decide (member.sizeBytes > contractBlobBytes))
    (failure "source-closure.limit-exceeded" "member.size-bytes" member.logicalPath)
  reject (!validContentDigest member.contentDigest)
    (failure "source-closure.digest-mismatch" "member.content-digest" member.logicalPath)

/-- `std::ranges::lower_bound(blobs, digest, {}, &source_closure_blob::content_digest)` in blobs in
    the order of their digests: how many are before it. -/
def blobLowerBound (blobs : List SourceClosureBlob) (digest : Bytes) : Nat :=
  blobs.findIdx fun blob => !decide (blob.contentDigest < digest)

/-- `find_blob` -/
def findBlob (blobs : List SourceClosureBlob) (digest : Bytes) : Option SourceClosureBlob :=
  match blobs[blobLowerBound blobs digest]? with
  | some blob => if blob.contentDigest = digest then some blob else none
  | none => none

/-- The fields of a member in the projection of a closure. -/
def SourceClosureMember.encoded (member : SourceClosureMember) : CanonicalValue :=
  .fromTuple [.fromString member.fileId, .fromString member.logicalPath,
    .fromString member.role.name, .fromString member.encoding.name,
    .fromInteger member.sizeBytes.toInt64, .fromString member.contentDigest,
    .fromBoolean member.readOnly]

/-- The fields of a blob in the projection of a closure. -/
def SourceClosureBlob.encoded (blob : SourceClosureBlob) : CanonicalValue :=
  .fromTuple [.fromString blob.contentDigest, .fromInteger blob.sizeBytes.toInt64]

/-- `compute_closure_digest` -/
def computeClosureDigest (members : List SourceClosureMember) (blobs : List SourceClosureBlob) :
    Result Bytes := do
  firstError (fun member => reject (decide (member.sizeBytes.toNat > 2 ^ 63 - 1))
    (failure "source-closure.limit-exceeded" "member.size-bytes" member.logicalPath)) members
  firstError (fun blob => reject (decide (blob.sizeBytes.toNat > 2 ^ 63 - 1))
    (failure "source-closure.limit-exceeded" "blob.size-bytes" blob.contentDigest)) blobs
  let projection ← CanonicalValue.canonicalBinary (.fromTuple
    [.fromString "cxxlens.clang22.source-closure.v1",
      .fromString "unicode-default-casefold-then-nfc",
      .fromTuple (members.map SourceClosureMember.encoded),
      .fromTuple (blobs.map SourceClosureBlob.encoded)])
  semanticDigest hash "cxxlens.clang22.source-closure.v1" projection

/-- The loop of `source_closure_snapshot::validate` over the blobs. -/
def checkBlobs (aggregate : UInt64) (previous : Bytes) : List SourceClosureBlob → Result Unit
  | [] => .ok ()
  | blob :: rest => do
    blob.validate hash
    reject (!previous.isEmpty && !decide (previous < blob.contentDigest))
      (failure "source-closure.duplicate-member" "blob.order" blob.contentDigest)
    reject (decide (blob.sizeBytes > contractUniqueBlobBytes - aggregate))
      (failure "source-closure.limit-exceeded" "closure.unique-blob-bytes" [])
    checkBlobs (aggregate + blob.sizeBytes) blob.contentDigest rest

/-- The loop of `source_closure_snapshot::validate` over the members, with the aliases it has
    seen. -/
def checkMembers (blobs : List SourceClosureBlob) (previous : Bytes)
    (aliases : List (Bytes × Bytes)) : List SourceClosureMember → Result Unit
  | [] => .ok ()
  | member :: rest => do
    member.validate hash unicode
    reject (!previous.isEmpty && !decide (previous < member.logicalPath))
      (failure (if previous = member.logicalPath then "source-closure.duplicate-member"
        else "source-closure.path-collision") "member.order" member.logicalPath)
    match unicode.nfcCasefoldUtf8 member.logicalPath with
    | .error error => .error (failure "source-closure.path-invalid" "logical-path" error.detail)
    | .ok folded =>
      match aliases.lookup folded with
      | some other => .error (failure "source-closure.case-collision" "member.logical-path"
          (other ++ ascii "|" ++ member.logicalPath))
      | none =>
        match findBlob blobs member.contentDigest with
        | none => .error (failure "source-closure.blob-missing" "member.content-digest"
            member.logicalPath)
        | some blob => do
          reject (blob.sizeBytes != member.sizeBytes)
            (failure "source-closure.digest-mismatch" "member.size-bytes" member.logicalPath)
          checkMembers blobs member.logicalPath ((folded, member.logicalPath) :: aliases) rest

/-- `source_closure_snapshot::validate` -/
def SourceClosureSnapshot.validate (snapshot : SourceClosureSnapshot) : Result Unit := do
  reject (snapshot.members.isEmpty || decide (snapshot.members.length > 4096) ||
    snapshot.blobs.isEmpty || decide (snapshot.blobs.length > 4096))
    (failure "source-closure.limit-exceeded" "closure.census" [])
  checkBlobs hash 0 [] snapshot.blobs
  checkMembers hash unicode snapshot.blobs [] [] snapshot.members
  let mains := snapshot.members.countP fun member => member.role = .main
  reject (mains != 1)
    (failure "source-closure.main-invalid" "closure.main-count" (CanonicalValue.decimal mains))
  let referenced := (snapshot.members.map SourceClosureMember.contentDigest).dedup
  reject (referenced.length != snapshot.blobs.length)
    (failure "source-closure.digest-mismatch" "closure.orphan-blob" [])
  let expected ← computeClosureDigest hash snapshot.members snapshot.blobs
  reject (expected != snapshot.closureDigest ||
    snapshot.snapshotId != ascii "source-closure:" ++ snapshot.closureDigest)
    (failure "source-closure.digest-mismatch" "closure.identity" [])

end Validation

end Cxxlens.Clang22
