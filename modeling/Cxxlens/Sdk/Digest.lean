import Cxxlens.Sdk.Text

set_option autoImplicit false

/-! # Identity digests

The digests of `common.cpp`. The hash function, SHA-256 in the source, is a parameter: nothing here
depends on which function it is. -/

namespace Cxxlens.Sdk

section Digest

variable (hash : Bytes → Bytes)

/-- `content_digest` -/
def contentDigest (bytes : Bytes) : Bytes :=
  ascii "sha256:" ++ hex (hash bytes)

/-- What `canonical_identity_digest` hashes in front of the fields. -/
def identityDomain (identityKind : Bytes) : Bytes :=
  ascii "cxxlens" ++ [0x00] ++ identityKind ++ [0x00, 0x76, 0x31, 0x00]

/-- `canonical_identity_digest` -/
def canonicalIdentityDigest (identityKind : Bytes) (fields : List CanonicalValue) :
    Result Bytes :=
  if identityKind = [] ∨ validUtf8 identityKind = false then
    .error (CanonicalValue.failure "identity_kind" "invalid-utf8-or-empty")
  else do
    let encoded ← CanonicalValue.canonicalBinary (.fromTuple fields)
    .ok (identityKind ++ ascii ":" ++ contentDigest hash (identityDomain identityKind ++ encoded))

/-- What `semantic_digest` hashes. -/
def semanticFrame (domain bytes : Bytes) : CanonicalValue :=
  .fromTuple [.fromString "cxxlens-semantic-digest-v2", .fromString domain, .fromBytes bytes]

/-- `semantic_digest` -/
def semanticDigest (domain bytes : Bytes) : Result Bytes :=
  if stableId domain = false then
    .error { code := "sdk.semantic-domain-invalid", field := "domain", detail := domain }
  else do
    let framed ← CanonicalValue.canonicalBinary (semanticFrame domain bytes)
    .ok (ascii "semantic-v2:sha256:" ++ hex (hash framed))

end Digest

end Cxxlens.Sdk
