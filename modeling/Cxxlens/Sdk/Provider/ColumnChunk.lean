import Cxxlens.Foundation.Columnar
import Cxxlens.ProtocolV2.Sha256
import Cxxlens.Sdk.Claim.Disagreement
import Cxxlens.Sdk.Provider.ControlMap

set_option autoImplicit false

/-! # Column chunks

The cells of one column for some rows, as a control map and a payload of six sections (`provider.cpp`):
the bit maps of present and of unknown cells, offsets or dictionary of the values, the values, and
offsets and texts of the reasons. The hash is a parameter. -/

namespace Cxxlens.Sdk

open Fallible Columnar Span
open ProtocolV2 (Digest32)

/-- `column_chunk_record` -/
structure ColumnChunkRecord where
  taskId : Text
  dependencyGroupId : Text
  atomicOutputGroupId : Text
  batchId : Text
  descriptorId : Text
  descriptorDigest : Text
  columnId : Text
  rowOffset : UInt64 := 0
  rowCount : UInt32 := 0
  chunkIndex : UInt64 := 0
  encoding : Text
  cells : List DetachedCell
  chunkDigest : Text
  deriving DecidableEq, Repr

/-- `encoded_column_chunk` -/
structure EncodedColumnChunk where
  control : Bytes
  payload : Bytes
  chunkDigest : Text
  deriving DecidableEq, Repr

/-! ## Kinds -/

/-- `column_encoding` -/
def columnEncoding : ScalarKind → Bytes
  | .boolean => "fixed-width-bool-u8"
  | .signedInteger => "fixed-width-i64-le"
  | .unsignedInteger => "fixed-width-u64-le"
  | .bytes | .set => "bytes-offsets-u32-le"
  | .openSymbol | .closedSymbol => "dictionary-index-u32-le"
  | _ => "utf8-offsets-u32-le"

/-- `dictionary` -/
def isDictionary (kind : ScalarKind) : Bool :=
  columnEncoding kind == ascii "dictionary-index-u32-le"

/-- `variable` -/
def isVariable (kind : ScalarKind) : Bool :=
  !isDictionary kind && kind != .boolean && kind != .signedInteger && kind != .unsignedInteger

/-- `fixed_width` -/
def fixedWidth (kind : ScalarKind) : Nat :=
  if kind = .boolean then 1 else 8

/-- `canonical_digest` -/
def canonicalDigest (value : Bytes) : Bool :=
  let hex := if (ascii "sha256:").isPrefixOf value then value.drop 7
    else if (ascii "semantic-v2:sha256:").isPrefixOf value then value.drop 19 else []
  hex.length == 64 && hex.all isLowerHex

/-! ## Digests -/

section Digests

variable (hash : Bytes → Digest32)

/-- `sha256(…)` as the digests take it -/
def digestBytes (input : Bytes) : Bytes :=
  (hash input).bytes

theorem length_hex_digest (input : Bytes) : (hex (digestBytes hash input)).length = 64 := by
  have hbytes : (digestBytes hash input).length = 32 := (hash input).size
  rw [hex, length_words (fun byte => show (hexByte byte).length = 2 from rfl), hbytes]

/-- `content_digest`, as a string -/
def contentDigestText (bytes : Bytes) : Text where
  bytes := contentDigest (digestBytes hash) bytes
  size := by
    rw [contentDigest, List.length_append, length_hex_digest]
    decide

theorem length_semanticDigest {domain bytes digest : Bytes}
    (h : semanticDigest (digestBytes hash) domain bytes = .ok digest) :
    digest.length < 2 ^ 64 := by
  rw [semanticDigest, guard_eq_ok_iff, bind_eq_ok_iff] at h
  obtain ⟨-, framed, -, h⟩ := h
  obtain rfl := Except.ok.inj h
  rw [List.length_append, length_hex_digest]
  decide

/-- `semantic_tuple_digest` -/
def semanticTupleDigest (domain : Bytes) (value : CanonicalValue) (field : Bytes) : Result Text :=
  match CanonicalValue.canonicalBinary value with
  | .error _ => .error (columnarInvalid field "semantic-tuple")
  | .ok encoded =>
    match hdigest : semanticDigest (digestBytes hash) domain encoded with
    | .error error => .error error
    | .ok digest => .ok ⟨digest, length_semanticDigest hash hdigest⟩

/-- `digest_text_field` -/
def digestTextField (name value : Bytes) : CanonicalValue :=
  .fromTuple [.fromString name, .fromString value]

/-- `digest_u64_field` -/
def digestU64Field (name : Bytes) (value : UInt64) : CanonicalValue :=
  .fromTuple [.fromString name, .fromBytes (BigEndian.encode 8 value.toNat)]

/-- `digest_cbor_field` -/
def digestCborField : Bytes × CborScalar → CanonicalValue
  | (key, .text value) => digestTextField key value.bytes
  | (key, .number value) => digestU64Field key value

/-- `semantic_fields_digest` -/
def semanticFieldsDigest (domain schema : Bytes) (fields : CborFields)
    (additionalFields : List CanonicalValue) (field : Bytes) : Result Text :=
  semanticTupleDigest hash domain
    (.fromTuple (digestTextField "schema" schema :: fields.map digestCborField ++ additionalFields))
    field

/-- `semantic_control` -/
structure SemanticControl where
  digest : Text
  control : Bytes

/-- `encode_semantic_control` -/
def encodeSemanticControl (domain schema : Bytes) (fields : CborFields)
    (additionalFields : List CanonicalValue) (digestKey field : Bytes) : Result SemanticControl := do
  let digest ← semanticFieldsDigest hash domain schema fields additionalFields field
  let control ← encodeCborMap (fields ++ [(digestKey, .text digest)])
  .ok { digest, control }

end Digests

/-- `chunk_semantic_fields` -/
def chunkSemanticFields (value : ColumnChunkRecord) (payloadDigest : Text) : CborFields :=
  [("task_id", .text value.taskId),
    ("dependency_group_id", .text value.dependencyGroupId),
    ("atomic_output_group_id", .text value.atomicOutputGroupId),
    ("batch_id", .text value.batchId),
    ("descriptor_id", .text value.descriptorId),
    ("descriptor_digest", .text value.descriptorDigest),
    ("column_id", .text value.columnId),
    ("row_offset", .number value.rowOffset),
    ("row_count", .number (UInt64.ofNat value.rowCount.toNat)),
    ("chunk_index", .number value.chunkIndex),
    ("encoding", .text value.encoding),
    ("payload_digest", .text payloadDigest)]

/-! ## Stored cells -/

/-- The number a value of fixed width is stored as. -/
def ScalarValue.number : ScalarValue → Nat
  | .boolean value => value.toNat
  | .signedInteger value => value.toUInt64.toNat
  | .unsignedInteger value => value.toNat
  | _ => 0

/-- The bytes a value of variable width is stored as. -/
def ScalarValue.content : ScalarValue → Bytes
  | .string value => value
  | .bytes value => value
  | _ => []

/-- The value of a cell that is present. -/
def presentValue (cell : DetachedCell) : Option ScalarValue :=
  if cell.state = .present then cell.value else none

/-- The text of a cell that is present. -/
def presentText (cell : DetachedCell) : Option Bytes :=
  match presentValue cell with
  | some (.string text) => some text
  | _ => none

/-- `entries`: the texts of the cells, a `std::set`. -/
def dictionaryOf (cells : List DetachedCell) : List Bytes :=
  canonicalStrings (cells.filterMap presentText)

/-- The word of a cell in a column of fixed width. -/
def fixedWord (kind : ScalarKind) (cell : DetachedCell) : Bytes :=
  encode (fixedWidth kind) ((presentValue cell).elim 0 ScalarValue.number)

/-- The word of a cell in a column with a dictionary: `dictionary_indexes.at(text)`. -/
def dictionaryWord (entries : List Bytes) (cell : DetachedCell) : Bytes :=
  encode 4 ((presentText cell).elim 0 entries.idxOf)

/-- The bytes of a cell in a column of variable width. -/
def storedBytes (cell : DetachedCell) : Bytes :=
  (presentValue cell).elim [] ScalarValue.content

/-- The bytes of the reason of a cell. -/
def reasonBytes (cell : DetachedCell) : Bytes :=
  if cell.state = .unknown then cell.unknownReason.getD [] else []

/-- The six sections of the cells, with this dictionary. -/
def columnSections (kind : ScalarKind) (entries : List Bytes) (cells : List DetachedCell) :
    List Bytes :=
  [bitmap (cells.map fun cell => cell.state == .present),
    bitmap (cells.map fun cell => cell.state == .unknown),
    if isDictionary kind = true then encode 4 entries.length ++ offsetTable entries ++ entries.flatten
    else if isVariable kind = true then offsetTable (cells.map storedBytes) else [],
    if isDictionary kind = true then cells.flatMap (dictionaryWord entries)
    else if isVariable kind = true then (cells.map storedBytes).flatten
    else cells.flatMap (fixedWord kind),
    offsetTable (cells.map reasonBytes),
    (cells.map reasonBytes).flatten]

/-- `CXCC`, the version, the kind and two bytes that are reserved. -/
def chunkHeader (kind : ScalarKind) : Bytes :=
  [0x43, 0x58, 0x43, 0x43, 1, kind.code, 0, 0]

/-- The header, the sizes of the sections, and the sections. -/
def payloadOf (kind : ScalarKind) (sections : List Bytes) : Bytes :=
  chunkHeader kind ++ sections.flatMap (fun part => encode 4 part.length) ++ sections.flatten

/-! ## Encoding -/

/-- The checks of the loop that collects the entries of the dictionary. -/
def checkDictionaryValue (column : ColumnDescriptor) (cell : DetachedCell) : Result Unit :=
  if cell.state = .present then
    match cell.value with
    | some (.string text) =>
      reject (!validUtf8 text) (columnarInvalid column.id "dictionary-value")
    | _ => .error (columnarInvalid column.id "dictionary-value")
  else .ok ()

/-- The checks of the loop over the entries. -/
def checkEntries (column : ColumnDescriptor) : (index size : Nat) → List Bytes → Result Unit
  | _, _, [] => .ok ()
  | index, size, entry :: rest => do
    reject (index > 0xffffffff) (columnarInvalid column.id "dictionary-count")
    reject (size + entry.length > 0xffffffff) (columnarInvalid column.id "dictionary-size")
    checkEntries column (index + 1) (size + entry.length) rest

/-- The block that collects the entries of the dictionary. -/
def checkDictionary (column : ColumnDescriptor) (cells : List DetachedCell) : Result Unit :=
  if isDictionary column.type.scalar = true then do
    firstError (checkDictionaryValue column) cells
    checkEntries column 0 0 (dictionaryOf cells)
  else .ok ()

/-- The checks of the loop over the cells; `values` and `reasons` are the sizes so far. -/
def checkCells (column : ColumnDescriptor) : (values reasons : Nat) → List DetachedCell → Result Unit
  | _, _, [] => .ok ()
  | values, reasons, cell :: rest => do
    reject (cell.type != column.type) (columnarInvalid column.id "cell-type")
    cell.validate
    let values := values + (storedBytes cell).length
    reject (isVariable column.type.scalar && values > 0xffffffff)
      (columnarInvalid column.id "value-size")
    let reasons := reasons + (reasonBytes cell).length
    reject (reasons > 0xffffffff) (columnarInvalid column.id "reason-size")
    checkCells column values reasons rest

section Codec

variable (hash : Bytes → Digest32)

/-- `encode_column_chunk` -/
def encodeColumnChunk (value : ColumnChunkRecord) (column : ColumnDescriptor) :
    Result EncodedColumnChunk := do
  let kind := column.type.scalar
  reject (value.taskId.bytes.isEmpty || value.dependencyGroupId.bytes.isEmpty ||
      value.atomicOutputGroupId.bytes.isEmpty || value.batchId.bytes.isEmpty ||
      value.descriptorId.bytes.isEmpty || !canonicalDigest value.descriptorDigest.bytes ||
      value.columnId.bytes != column.id || value.rowCount == 0 ||
      value.cells.length != value.rowCount.toNat || value.encoding.bytes != columnEncoding kind)
    (columnarInvalid value.columnId.bytes "metadata")
  checkDictionary column value.cells
  checkCells column 0 0 value.cells
  let sections := columnSections kind (dictionaryOf value.cells) value.cells
  reject (sections.any fun part => part.length > 0xffffffff) (columnarInvalid column.id "section-size")
  let payload := payloadOf kind sections
  let semantic ← encodeSemanticControl hash "cxxlens.provider-column-chunk.v2"
    "cxxlens.provider-column-chunk-digest.v2"
    (chunkSemanticFields value (contentDigestText hash payload)) [] "chunk_digest" column.id
  reject (!value.chunkDigest.bytes.isEmpty && value.chunkDigest != semantic.digest)
    (columnarInvalid column.id "chunk-digest")
  .ok { control := semantic.control, payload, chunkDigest := semantic.digest }

/-! ## Decoding -/

/-- The two loops that cut a payload into its sections. -/
def readSections (column : ColumnDescriptor) (payload : Bytes) :
    (count index offset : Nat) → Result (List Bytes)
  | 0, _, offset => do
    reject (offset != payload.length) (columnarInvalid column.id "payload-length")
    .ok []
  | count + 1, index, offset => do
    let size := wordAt 4 payload (8 + index * 4)
    reject (size > payload.length - min offset payload.length)
      (columnarInvalid column.id "section-length")
    let rest ← readSections column payload count (index + 1) (offset + size)
    .ok (slice payload offset (offset + size) :: rest)

/-- What the loop over the rows reads. -/
structure ChunkView where
  validity : Bytes
  unknown : Bytes
  values : Bytes
  reasons : Bytes
  valueOffsets : List Nat
  reasonOffsets : List Nat
  entries : List Bytes

/-- The loop over the entries of a dictionary; `output` has been read. -/
def readEntries (column : ColumnDescriptor) (bytes : Bytes) :
    (offsets : List Nat) → (output : List Bytes) → Result (List Bytes)
  | first :: last :: rest, output => do
    let entry := slice bytes first last
    reject (!validUtf8 entry ||
        (match output.getLast? with
          | some previous => !bytesLess previous entry
          | none => false))
      (columnarInvalid column.id "dictionary-order")
    readEntries column bytes (last :: rest) (output ++ [entry])
  | _, output => .ok output

/-- The block that reads the dictionary of a section. -/
def readDictionary (column : ColumnDescriptor) (auxiliary : Bytes) : Result (List Bytes) := do
  let count := wordAt 4 auxiliary 0
  let offsetBytes := (count + 1) * 4
  reject (offsetBytes > auxiliary.length - 4) (columnarInvalid column.id "dictionary-shape")
  let bytes := auxiliary.drop (4 + offsetBytes)
  match offsets (slice auxiliary 4 (4 + offsetBytes)) bytes.length count with
  | none => .error (columnarInvalid column.id "dictionary-offsets")
  | some table => readEntries column bytes table []

/-- `dictionary_entries` -/
def dictionaryEntries (column : ColumnDescriptor) (auxiliary : Bytes) : Result (List Bytes) :=
  if isDictionary column.type.scalar = true then readDictionary column auxiliary else .ok []

/-- The value of a row that is present. -/
def decodeValue (column : ColumnDescriptor) (view : ChunkView) (index : Nat) : Result ScalarValue :=
  let kind := column.type.scalar
  if kind = .boolean then
    let byte := wordAt 1 view.values index
    if byte > 1 then .error (columnarInvalid column.id "boolean") else .ok (.boolean (byte != 0))
  else if kind = .signedInteger then
    .ok (.signedInteger (UInt64.ofNat (wordAt 8 view.values (index * 8))).toInt64)
  else if kind = .unsignedInteger then
    .ok (.unsignedInteger (UInt64.ofNat (wordAt 8 view.values (index * 8))))
  else if isDictionary kind = true then
    match view.entries[wordAt 4 view.values (index * 4)]? with
    | none => .error (columnarInvalid column.id "dictionary-index")
    | some entry => .ok (.string entry)
  else
    let encoded :=
      slice view.values (view.valueOffsets.getD index 0) (view.valueOffsets.getD (index + 1) 0)
    if kind = .bytes ∨ kind = .set then .ok (.bytes encoded)
    else if validUtf8 encoded = false then .error (columnarInvalid column.id "value-utf8")
    else .ok (.string encoded)

/-- What the loop over the rows appends. -/
def rowCell (column : ColumnDescriptor) (view : ChunkView) (index : Nat) : Result DetachedCell :=
  if bitAt view.validity index = true then do
    let decoded ← decodeValue column view index
    .ok { type := column.type, state := .present, value := some decoded }
  else if bitAt view.unknown index = true then
    .ok { type := column.type, state := .unknown,
          unknownReason := some (slice view.reasons (view.reasonOffsets.getD index 0)
            (view.reasonOffsets.getD (index + 1) 0)) }
  else .ok { type := column.type, state := .absent }

/-- The loop over the rows. -/
def decodeCell (column : ColumnDescriptor) (view : ChunkView) (index : Nat) :
    Result DetachedCell := do
  let kind := column.type.scalar
  let isPresent := bitAt view.validity index
  let isUnknown := bitAt view.unknown index
  reject (isPresent && isUnknown) (columnarInvalid column.id "state-bitmap")
  reject (!isPresent && !isUnknown && !column.type.optional)
    (columnarInvalid column.id "required-absent")
  let reasonBegin := view.reasonOffsets.getD index 0
  let reasonEnd := view.reasonOffsets.getD (index + 1) 0
  reject ((isVariable kind && !isPresent &&
        view.valueOffsets.getD index 0 != view.valueOffsets.getD (index + 1) 0) ||
      (!isUnknown && reasonBegin != reasonEnd))
    (columnarInvalid column.id "noncanonical-null-storage")
  reject (!isDictionary kind && !isVariable kind && !isPresent &&
      (slice view.values (index * fixedWidth kind) (index * fixedWidth kind + fixedWidth kind)).any
        (· != 0))
    (columnarInvalid column.id "noncanonical-null-storage")
  let cell ← rowCell column view index
  reject (isDictionary kind && !isPresent && wordAt 4 view.values (index * 4) != 0)
    (columnarInvalid column.id "noncanonical-null-storage")
  reject (!cell.validate.isOk) (columnarInvalid column.id "decoded-cell")
  .ok cell

/-- The loop over the rows from `index` on. -/
def decodeCells (column : ColumnDescriptor) (view : ChunkView) :
    (count index : Nat) → Result (List DetachedCell)
  | 0, _ => .ok []
  | count + 1, index => do
    let cell ← decodeCell column view index
    let rest ← decodeCells column view count (index + 1)
    .ok (cell :: rest)

/-- The sizes of the sections do not fit the rows. -/
def misshapen (kind : ScalarKind) (rows : Nat) (validity unknown auxiliary values reasonOffsets : Bytes) :
    Bool :=
  let fixed := !isVariable kind && !isDictionary kind
  validity.length != (rows + 7) / 8 || unknown.length != (rows + 7) / 8 ||
    (isVariable kind && auxiliary.length != (rows + 1) * 4) ||
    (fixed && !auxiliary.isEmpty) ||
    (fixed && values.length != rows * fixedWidth kind) ||
    (isDictionary kind && auxiliary.length < 8) ||
    (isDictionary kind && values.length != rows * 4) ||
    reasonOffsets.length != (rows + 1) * 4

/-- The cells of a payload. -/
def decodePayload (column : ColumnDescriptor) (rows : Nat) (payload : Bytes) :
    Result (List DetachedCell) := do
  let kind := column.type.scalar
  reject (payload.length < 32 || payload.take 8 != chunkHeader kind)
    (columnarInvalid column.id "payload-header")
  let sections ← readSections column payload 6 0 32
  match sections with
  | [validity, unknown, auxiliary, values, reasonOffsets, reasons] => do
    reject (misshapen kind rows validity unknown auxiliary values reasonOffsets)
      (columnarInvalid column.id "shape")
    reject (strayBits rows validity || strayBits rows unknown)
      (columnarInvalid column.id "unused-validity-bits")
    let valueOffsets :=
      if isVariable kind = true then offsets auxiliary values.length rows else some []
    let entries ← dictionaryEntries column auxiliary
    match valueOffsets, offsets reasonOffsets reasons.length rows with
    | some valueOffsets, some reasonOffsets =>
      decodeCells column { validity, unknown, values, reasons, valueOffsets, reasonOffsets, entries }
        rows 0
    | _, _ => .error (columnarInvalid column.id "offsets")
  | _ => .error (columnarInvalid column.id "payload-length")

/-- `fields`, which have to be thirteen -/
def controlFields (column : ColumnDescriptor) (control : Bytes) : Result CborFields :=
  match decodeCborMap control with
  | .ok fields =>
    if fields.length = 13 then .ok fields
    else .error (columnarInvalid column.id "control-fields")
  | .error _ => .error (columnarInvalid column.id "control-fields")

/-- The fields of a control, `none` where one is missing or has another type. -/
def controlRecord (fields : CborFields) : Option (ColumnChunkRecord × UInt64 × Text) := do
  let taskId ← textField fields "task_id"
  let dependencyGroupId ← textField fields "dependency_group_id"
  let atomicOutputGroupId ← textField fields "atomic_output_group_id"
  let batchId ← textField fields "batch_id"
  let descriptorId ← textField fields "descriptor_id"
  let descriptorDigest ← textField fields "descriptor_digest"
  let columnId ← textField fields "column_id"
  let encoding ← textField fields "encoding"
  let payloadDigest ← textField fields "payload_digest"
  let chunkDigest ← textField fields "chunk_digest"
  let rowOffset ← numberField fields "row_offset"
  let rowCount ← numberField fields "row_count"
  let chunkIndex ← numberField fields "chunk_index"
  some ({ taskId, dependencyGroupId, atomicOutputGroupId, batchId, descriptorId, descriptorDigest,
          columnId, rowOffset, rowCount := UInt32.ofNat rowCount.toNat, chunkIndex, encoding,
          cells := [], chunkDigest }, rowCount, payloadDigest)

/-- `column_chunk_digest` -/
def columnChunkDigest (value : ColumnChunkRecord) (payloadDigest : Text) : Result Text :=
  semanticFieldsDigest hash "cxxlens.provider-column-chunk.v2"
    "cxxlens.provider-column-chunk-digest.v2" (chunkSemanticFields value payloadDigest) []
    value.columnId.bytes

/-- `decode_column_chunk` -/
def decodeColumnChunk (control payload : Bytes) (column : ColumnDescriptor) :
    Result ColumnChunkRecord := do
  let fields ← controlFields column control
  match controlRecord fields with
  | none => .error (columnarInvalid column.id "control")
  | some (value, rowCount, payloadDigest) => do
    reject (value.taskId.bytes.isEmpty || value.dependencyGroupId.bytes.isEmpty ||
        value.atomicOutputGroupId.bytes.isEmpty || value.batchId.bytes.isEmpty ||
        value.descriptorId.bytes.isEmpty || !canonicalDigest value.descriptorDigest.bytes ||
        !canonicalDigest payloadDigest.bytes || !canonicalDigest value.chunkDigest.bytes ||
        value.columnId.bytes != column.id ||
        value.encoding.bytes != columnEncoding column.type.scalar || rowCount == 0 ||
        rowCount.toNat > 0xffffffff)
      (columnarInvalid column.id "control")
    let cells ← decodePayload column value.rowCount.toNat payload
    let output := { value with cells }
    let actualPayloadDigest := contentDigestText hash payload
    reject (payloadDigest != actualPayloadDigest) (columnarInvalid column.id "payload-digest")
    let expectedChunk ← columnChunkDigest hash output actualPayloadDigest
    reject (value.chunkDigest != expectedChunk) (columnarInvalid column.id "chunk-digest")
    .ok output

end Codec

end Cxxlens.Sdk
