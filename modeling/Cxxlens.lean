import Cxxlens.Foundation.Span
import Cxxlens.Foundation.BigEndian
import Cxxlens.Foundation.Fallible
import Cxxlens.Foundation.Sorting
import Cxxlens.ProtocolV2.Cbor.Value
import Cxxlens.ProtocolV2.Cbor.Head
import Cxxlens.ProtocolV2.Cbor.Encode
import Cxxlens.ProtocolV2.Cbor.Wire
import Cxxlens.ProtocolV2.Cbor.Reader
import Cxxlens.ProtocolV2.Cbor.Decode
import Cxxlens.ProtocolV2.Cbor.Scan
import Cxxlens.ProtocolV2.Cbor.ScanReads
import Cxxlens.ProtocolV2.Cbor.Reorder
import Cxxlens.ProtocolV2.Cbor.EncodeWrites
import Cxxlens.ProtocolV2.Cbor.RoundTrip
import Cxxlens.ProtocolV2.Codec
import Cxxlens.ProtocolV2.FrameRoundTrip
import Cxxlens.ProtocolV2.Closure.Control
import Cxxlens.ProtocolV2.Closure.Parse
import Cxxlens.ProtocolV2.Closure.Token
import Cxxlens.ProtocolV2.Closure.Schema
import Cxxlens.ProtocolV2.Closure.ParseReads
import Cxxlens.ProtocolV2.Closure.Entries
import Cxxlens.ProtocolV2.Closure.ControlRoundTrip
import Cxxlens.ProtocolV2.Closure.Transfer
import Cxxlens.Foundation.Chunking
import Cxxlens.ProtocolV2.Closure.Steps
import Cxxlens.ProtocolV2.Closure.Grammar
import Cxxlens.Foundation.Framing
import Cxxlens.Sdk.CanonicalValue
import Cxxlens.Sdk.CanonicalCodec
import Cxxlens.Sdk.Json.Parser
import Cxxlens.Sdk.Json.Grammar
import Cxxlens.Sdk.Json.Numbers
import Cxxlens.Sdk.Json.Strings
import Cxxlens.Sdk.Json.Texts
import Cxxlens.Sdk.Json.Completeness
import Cxxlens.Foundation.Collections
import Cxxlens.Sdk.Digest
import Cxxlens.Sdk.Relation.Scalar
import Cxxlens.Sdk.Relation.Descriptor
import Cxxlens.Sdk.Relation.Row
import Cxxlens.Sdk.Claim.Model
import Cxxlens.Sdk.Claim.Batch
import Cxxlens.Sdk.Claim.Identity
import Cxxlens.Sdk.Claim.Disagreement
import Cxxlens.Sdk.Claim.Pairs
import Cxxlens.Sdk.Claim.Commit
import Cxxlens.Sdk.Claim.Reported
import Cxxlens.Sdk.Claim.References
import Cxxlens.Sdk.Claim.Comparable
import Cxxlens.Sdk.Claim.OrderIndependence
import Cxxlens.ProtocolV2.Closure.Payload
import Cxxlens.ProtocolV2.Closure.Interleaving
import Cxxlens.ProtocolV2.Closure.Safety
import Cxxlens.Sdk.Claim.Admission
import Cxxlens.Sdk.Json.Canonical
import Cxxlens.Sdk.Json.CanonicalRoundTrip
import Cxxlens.Foundation.Merging
import Cxxlens.Sdk.Query.Requirements
import Cxxlens.Sdk.Query.Arguments
import Cxxlens.Sdk.Json.Measures
import Cxxlens.Foundation.OrderedMap
import Cxxlens.Sdk.Query.Predicates
import Cxxlens.Sdk.Query.PredicateJson
import Cxxlens.Sdk.Query.PredicateClosure
import Cxxlens.Sdk.Query.PredicateSpread
import Cxxlens.Sdk.Query.PredicateArguments
import Cxxlens.Sdk.Query.Contributors
import Cxxlens.Sdk.Query.Guarantee
import Cxxlens.Sdk.Query.LogicalIr
import Cxxlens.Sdk.Query.Validation
import Cxxlens.Foundation.Stopping
import Cxxlens.Sdk.Query.Snapshot
import Cxxlens.Sdk.Query.RowAlgebra
import Cxxlens.Sdk.Query.Plan
import Cxxlens.Sdk.Query.Operators
import Cxxlens.Sdk.Query.Execution
import Cxxlens.Sdk.Query.PlanOrder
import Cxxlens.Sdk.Query.RunSteps
import Cxxlens.Sdk.Query.OperatorRows
import Cxxlens.Sdk.BoundedStore.Publication
import Cxxlens.Sdk.BoundedStore.Terminal
import Cxxlens.Sdk.Claim.Coverage
import Cxxlens.Sdk.Provider.Liveness
import Cxxlens.Sdk.Provider.SpillRecord
import Cxxlens.Sdk.Provider.Coordinator
import Cxxlens.Sdk.Provider.Transitions
import Cxxlens.Sdk.Provider.Lifecycle
import Cxxlens.Foundation.Saturation
import Cxxlens.Sdk.Incremental.Closure
import Cxxlens.Sdk.Incremental.Paths
import Cxxlens.Sdk.Incremental.Rounds
import Cxxlens.Sdk.Incremental.Exactness
import Cxxlens.Sdk.Claim.NaiveScan
import Cxxlens.Foundation.Columnar
import Cxxlens.Sdk.Provider.ColumnChunk
import Cxxlens.Sdk.Provider.ColumnSections
import Cxxlens.Sdk.Provider.ChunkRoundTrip
import Cxxlens.Sdk.Provider.BatchEnd
import Cxxlens.Sdk.Provider.ColumnarWire
import Cxxlens.ProtocolV2.Cbor.Utf8
import Cxxlens.Foundation.Admitting
import Cxxlens.Sdk.BoundedCanonical
import Cxxlens.Sdk.Provider.ResumeRuns
import Cxxlens.Sdk.Provider.HeartbeatRuns
import Cxxlens.Sdk.Provider.ProgressRuns
import Cxxlens.Foundation.Blocks
import Cxxlens.Foundation.SecureHash
import Cxxlens.Sdk.Json.ExactNumbers
import Cxxlens.ProtocolV2.Sha256Standard
import Cxxlens.Sdk.Sha256Words
import Cxxlens.Sdk.Provider.TransportMap
import Cxxlens.Sdk.Provider.TransportVersion
import Cxxlens.Sdk.Provider.TransportControls
import Cxxlens.Foundation.DepthFirst
import Cxxlens.Sdk.Relation.Registry
import Cxxlens.Foundation.Trails
import Cxxlens.Sdk.Query.Accounting
import Cxxlens.Sdk.Query.Moments
import Cxxlens.Sdk.Query.ExecutionMoments
import Cxxlens.Sdk.Query.ExecutionAccount
import Cxxlens.Sdk.Capture.Limits
import Cxxlens.Sdk.Capture.ResponseArguments
import Cxxlens.Sdk.Capture.DependencyOutput
import Cxxlens.Sdk.Capture.DependencyRecovery
import Cxxlens.Foundation.Segments
import Cxxlens.Sdk.Capture.LogicalPaths
import Cxxlens.Sdk.Capture.ResponseExpansion
import Cxxlens.Sdk.Capture.ReplayMapping
import Cxxlens.Sdk.Capture.PosixWords
import Cxxlens.ProtocolV2.GuardRuns
import Cxxlens.Sdk.Capture.ShellSoundness
import Cxxlens.Sdk.Sqlite.IncrementalSha256
import Cxxlens.Sdk.Store.AuthenticatedCursor
import Cxxlens.Sdk.Sqlite.PayloadChunks
import Cxxlens.Sdk.Sqlite.ChunkFraming
import Cxxlens.Sdk.Sqlite.ChunkReplay
import Cxxlens.Sdk.Sqlite.ChunkInverse
import Cxxlens.Sdk.Incremental.Plan
import Cxxlens.Sdk.Incremental.PlanSoundness
import Cxxlens.Clang22.SourceClosure.Manifest
import Cxxlens.Clang22.SourceClosure.Spool
import Cxxlens.Clang22.SourceClosure.Relay
import Cxxlens.Clang22.SourceClosure.SpoolSteps
import Cxxlens.Clang22.SourceClosure.RelayTerminals
import Cxxlens.Clang22.SourceClosure.ManifestReads
import Cxxlens.Clang22.SourceClosure.SpoolRuns
import Cxxlens.Clang22.SourceClosure.SealedSnapshot
import Cxxlens.Sdk.Relation.CanonicalForm
import Cxxlens.Sdk.Relation.DescriptorIdentity
import Cxxlens.Foundation.Reading
import Cxxlens.Sdk.Store.BinaryCodec
import Cxxlens.Sdk.Store.ByteComparison
import Cxxlens.Sdk.Store.ClaimRoundTrip
import Cxxlens.Sdk.Store.EnvelopeOrder
import Cxxlens.Sdk.Store.PayloadDecoder
import Cxxlens.Sdk.Store.PayloadParts
import Cxxlens.Sdk.Store.ReadableGraph
import Cxxlens.Sdk.Store.SnapshotRoundTrip
import Cxxlens.Sdk.Store.GenerationRewrite
