import Cxxlens.Clang22.SourceClosure.Snapshot
import Cxxlens.Sdk.Json.Canonical
import Cxxlens.Sdk.Json.Parser

set_option autoImplicit false

/-! # The manifest of a source closure

What `finish_manifest` of `source_closure_spool.cpp` reads: canonical JSON that names the members
and the blobs of a closure, each list in strictly ascending order. -/

namespace Cxxlens.Clang22

open Sdk Sdk.Json

/-- `source_closure_transport_limits`, those a spool looks at. -/
structure SourceClosureTransportLimits where
  maximumMembers : UInt64 := 4096
  maximumUniqueBlobs : UInt64 := 4096
  maximumLogicalPathBytes : UInt64 := 4096
  maximumBlobBytes : UInt64 := 16 * 1024 * 1024
  maximumUniqueBlobBytes : UInt64 := 48 * 1024 * 1024
  maximumManifestBytes : UInt64 := 40 * 1024 * 1024
  maximumChunkPayloadBytes : UInt64 := 1024 * 1024
  maximumTaskSpoolBytes : UInt64 := 88 * 1024 * 1024
  deriving DecidableEq, Repr

/-- `source_closure_manifest_descriptor`; nothing reads the count of its chunks. -/
structure SourceClosureManifestDescriptor where
  sessionId : Bytes := []
  taskId : Bytes := []
  taskV4Digest : Bytes := []
  closureId : Bytes := []
  closureDigest : Bytes := []
  manifestDigest : Bytes := []
  totalBytes : UInt64 := 0
  chunkBytes : UInt64 := 0
  deriving DecidableEq, Repr

/-- `source_closure_manifest_summary` -/
structure SourceClosureManifestSummary where
  closureId : Bytes
  closureDigest : Bytes
  manifestDigest : Bytes
  memberCount : UInt64
  blobCount : UInt64
  totalBlobBytes : UInt64
  deriving DecidableEq, Repr

/-- `manifest_failure` -/
def manifestFailure (field detail : Bytes) : Error :=
  failure "source-closure.manifest-invalid" field detail

/-! ## Fields -/

/-- `json_value::member` -/
def jsonMember (value : JsonValue) (name : Bytes) : Option JsonValue :=
  match value with
  | .object members => members.lookup name
  | _ => none

/-- `json_value::has_exact_members`, for names that differ. -/
def hasExactMembers (value : JsonValue) (names : List Bytes) : Bool :=
  match value with
  | .object members => members.length == names.length && names.all (containsName members)
  | _ => false

/-- `member` -/
def manifestMember (object : JsonValue) (name field : Bytes) : Result JsonValue :=
  if object.isObject = false then .error (manifestFailure field "object")
  else
    match jsonMember object name with
    | none => .error (manifestFailure field ("missing:" ++ name))
    | some value => .ok value

/-- `string_member` -/
def stringMember (object : JsonValue) (name field : Bytes) : Result Bytes := do
  match ← manifestMember object name field with
  | .string value => .ok value
  | _ => .error (manifestFailure field "string")

/-- `unsigned_member` -/
def unsignedMember (object : JsonValue) (name field : Bytes) : Result UInt64 := do
  match ← manifestMember object name field with
  | .unsignedInteger value => .ok value
  | .signedInteger value =>
    if 0 ≤ value.toInt then .ok value.toUInt64
    else .error (manifestFailure field "unsigned-integer")
  | _ => .error (manifestFailure field "unsigned-integer")

/-- `boolean_member` -/
def booleanMember (object : JsonValue) (name field : Bytes) : Result Bool := do
  match ← manifestMember object name field with
  | .boolean value => .ok value
  | _ => .error (manifestFailure field "boolean")

/-- `array_member` -/
def arrayMember (object : JsonValue) (name field : Bytes) : Result (List JsonValue) := do
  match ← manifestMember object name field with
  | .array items => .ok items
  | _ => .error (manifestFailure field "array")

/-- `exact_fields` -/
def exactFields (value : JsonValue) (names : List Bytes) (field : Bytes) : Result Unit :=
  reject (!hasExactMembers value names) (manifestFailure field "field-census")

/-- `parse_role` -/
def parseRole (value : Bytes) : Result SourceClosureRole :=
  if value = ascii "main" then .ok .main
  else if value = ascii "header" then .ok .header
  else if value = ascii "generated" then .ok .generated
  else if value = ascii "forced-include" then .ok .forcedInclude
  else if value = ascii "macro-file" then .ok .macroFile
  else .error (manifestFailure "member.role" value)

/-- `parse_encoding` -/
def parseEncoding (value : Bytes) : Result SourceClosureEncoding :=
  if value = ascii "utf8" then .ok .utf8
  else if value = ascii "utf16le" then .ok .utf16le
  else if value = ascii "utf16be" then .ok .utf16be
  else if value = ascii "locale_dependent" then .ok .localeDependent
  else if value = ascii "binary_or_unknown" then .ok .binaryOrUnknown
  else .error (manifestFailure "member.encoding" value)

/-! ## Members and blobs -/

section Manifest

variable (hash : Bytes → Bytes) (unicode : UnicodeNfc) (limits : SourceClosureTransportLimits)

/-- The fields of a member, read one by one. -/
def memberFields (value : JsonValue) :
    Option (Bytes × Bytes × Bytes × Bytes × Bool × Bytes × UInt64) := do
  let contentDigest ← (stringMember value "content_digest" "member.content_digest").toOption
  let encoding ← (stringMember value "encoding" "member.encoding").toOption
  let fileId ← (stringMember value "file_id" "member.file_id").toOption
  let logicalPath ← (stringMember value "logical_path" "member.logical_path").toOption
  let readOnly ← (booleanMember value "read_only" "member.read_only").toOption
  let role ← (stringMember value "role" "member.role").toOption
  let size ← (unsignedMember value "size_bytes" "member.size_bytes").toOption
  some (contentDigest, encoding, fileId, logicalPath, readOnly, role, size)

/-- The body of the loop over the members, up to the order of the paths. -/
def readMember (value : JsonValue) : Result SourceClosureMember := do
  exactFields value ["content_digest", "encoding", "file_id", "logical_path", "read_only", "role",
    "size_bytes"] "manifest.member"
  match memberFields value with
  | none => .error (manifestFailure "manifest.member" "field")
  | some (contentDigest, encoding, fileId, logicalPath, readOnly, role, size) =>
    match parseRole role, parseEncoding encoding with
    | .ok role, .ok encoding => do
      reject (!readOnly || !validContentDigest contentDigest ||
        decide (size > limits.maximumBlobBytes)) (manifestFailure "manifest.member" "value")
      let member : SourceClosureMember :=
        ⟨fileId, logicalPath, role, encoding, size, contentDigest, true⟩
      match member.validate hash unicode with
      | .error error => .error (manifestFailure "manifest.member" error.detail)
      | .ok () => .ok member
    | _, _ => .error (manifestFailure "manifest.member" "value")

/-- The loop over the members, behind the path `previous`. -/
def readMembers (previous : Bytes) : List JsonValue → Result (List SourceClosureMember)
  | [] => .ok []
  | value :: rest => do
    let member ← readMember hash unicode limits value
    reject (!previous.isEmpty && !decide (previous < member.logicalPath))
      (manifestFailure "manifest.member.order" [])
    let members ← readMembers member.logicalPath rest
    .ok (member :: members)

/-- The loop over the blobs, behind the digest `previous` and blobs of `total` bytes. -/
def readBlobs (previous : Bytes) (total : UInt64) :
    List JsonValue → Result (List SourceClosureBlob × UInt64)
  | [] => .ok ([], total)
  | value :: rest => do
    exactFields value ["content_digest", "size_bytes"] "manifest.blob"
    match stringMember value "content_digest" "blob.content_digest",
        unsignedMember value "size_bytes" "blob.size_bytes" with
    | .ok contentDigest, .ok size => do
      reject (!validContentDigest contentDigest || decide (size > limits.maximumBlobBytes) ||
        decide (total > limits.maximumUniqueBlobBytes - size) ||
        (!previous.isEmpty && !decide (previous < contentDigest)))
        (manifestFailure "manifest.blob" "value")
      let (blobs, sum) ← readBlobs contentDigest (total + size) rest
      .ok (⟨contentDigest, size, none⟩ :: blobs, sum)
    | _, _ => .error (manifestFailure "manifest.blob" "value")

/-- The loop of `validate_manifest_blob_references` over the members. -/
def markReferences (blobs : List SourceClosureBlob) (referenced : List Bool) :
    List SourceClosureMember → Result (List Bool)
  | [] => .ok referenced
  | member :: rest =>
    match findBlob blobs member.contentDigest with
    | none => .error (manifestFailure "member.content_digest" "blob-missing")
    | some blob => do
      reject (blob.sizeBytes != member.sizeBytes)
        (manifestFailure "member.size_bytes" "blob-size-mismatch")
      markReferences blobs
        (referenced.set (blobLowerBound blobs member.contentDigest) true) rest

/-- `validate_manifest_blob_references` -/
def validateManifestBlobReferences (snapshot : SourceClosureSnapshot) : Result Unit := do
  let referenced ← markReferences snapshot.blobs
    (List.replicate snapshot.blobs.length false) snapshot.members
  reject (referenced.contains false) (manifestFailure "blobs" "orphan-blob")

/-- The limits of the JSON of a manifest. -/
def manifestJsonLimits : JsonLimits where
  maxInputBytes := limits.maximumManifestBytes
  maxDepth := 8
  maxArrayElements := limits.maximumMembers
  maxObjectMembers := 16
  maxStringBytes := limits.maximumLogicalPathBytes
  maxTotalStringBytes := limits.maximumManifestBytes
  maxTotalValues := limits.maximumMembers * 16 + 32

/-- The contract of `parse_json_object` -/
def manifestContract : JsonParseContract where
  errorCode := "materialization.json-invalid"

/-- The digest of the closure a manifest is about, if it is the one of the descriptor. -/
def manifestClosure (descriptor : SourceClosureManifestDescriptor) (root : JsonValue) :
    Option Bytes := do
  let schema ← (stringMember root "schema" "manifest.schema").toOption
  let closureId ← (stringMember root "closure_id" "manifest.closure_id").toOption
  let closureDigest ← (stringMember root "closure_digest" "manifest.closure_digest").toOption
  if schema = ascii "cxxlens.source-closure-manifest.v1" ∧ closureId = descriptor.closureId ∧
      closureDigest = descriptor.closureDigest ∧
      typedDigest closureDigest "semantic-v2:sha256:" = true ∧
      closureId = ascii "source-closure:" ++ closureDigest then
    some closureDigest
  else none

/-- What `finish_manifest` reads from the bytes of a manifest: the snapshot without contents and
    the bytes of its blobs. -/
def readManifest (descriptor : SourceClosureManifestDescriptor) (raw manifestDigest : Bytes) :
    Result (SourceClosureSnapshot × UInt64) :=
  match parseJsonValue raw (manifestJsonLimits limits) manifestContract with
  | .error error => .error (manifestFailure "manifest" error.detail)
  | .ok root => do
    reject (canonicalJson root != raw) (manifestFailure "manifest" "noncanonical")
    reject (decide ((semanticDigest hash "cxxlens.source-closure-manifest.v1" raw).toOption ≠
      some manifestDigest)) (failure "source-closure.digest-mismatch" "manifest_digest" [])
    exactFields root ["blobs", "closure_digest", "closure_id", "members", "schema"] "manifest"
    match manifestClosure descriptor root with
    | none => .error (failure "source-closure.task-binding-mismatch" "manifest.closure" [])
    | some closureDigest =>
      match arrayMember root "members" "manifest.members",
          arrayMember root "blobs" "manifest.blobs" with
      | .ok memberValues, .ok blobValues => do
        reject (memberValues.isEmpty ||
          decide (memberValues.length > limits.maximumMembers.toNat) || blobValues.isEmpty ||
          decide (blobValues.length > limits.maximumUniqueBlobs.toNat))
          (failure "source-closure.limit-exceeded" "manifest.census" [])
        let members ← readMembers hash unicode limits [] memberValues
        let (blobs, total) ← readBlobs limits [] 0 blobValues
        let snapshot : SourceClosureSnapshot := ⟨descriptor.closureId, closureDigest, members, blobs⟩
        validateManifestBlobReferences snapshot
        .ok (snapshot, total)
      | _, _ => .error (manifestFailure "manifest.census" [])

end Manifest

end Cxxlens.Clang22
