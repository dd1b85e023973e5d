import Cxxlens.Sdk.Json.Parser

set_option autoImplicit false

/-! # The grammar of JSON texts

What the parser is for: the grammar of RFC 8259 as relations between a text and the value it
denotes, and the measures that the limits bound. The text is a string of bytes that is valid UTF-8
as a whole, so the characters above `0x7f`, which may stand in strings only and stand for
themselves there, are not told apart. Numbers denote their exact rational value. -/

namespace Cxxlens.Sdk.Json

open Sorting

/-- `ws` -/
def Whitespace (text : Bytes) : Prop :=
  ∀ byte ∈ text, Parser.isSpace byte = true

/-! ## Strings -/

/-- The escapes of two characters and what they stand for. -/
inductive Escape : UInt8 → UInt8 → Prop where
  | quotationMark : Escape 0x22 0x22
  | reverseSolidus : Escape 0x5c 0x5c
  | solidus : Escape 0x2f 0x2f
  | backspace : Escape 0x62 0x08
  | formFeed : Escape 0x66 0x0c
  | lineFeed : Escape 0x6e 0x0a
  | carriageReturn : Escape 0x72 0x0d
  | tab : Escape 0x74 0x09

/-- `4HEXDIG` and the number they denote. -/
inductive Quad : Bytes → Nat → Prop where
  | mk {a b c d : UInt8} {w x y z : Nat} (ha : Parser.hexadecimalDigit a = some w)
      (hb : Parser.hexadecimalDigit b = some x) (hc : Parser.hexadecimalDigit c = some y)
      (hd : Parser.hexadecimalDigit d = some z) :
      Quad [a, b, c, d] (w * 4096 + x * 256 + y * 16 + z)

/-- `*char` and the bytes of the string it denotes. -/
inductive Chars : Bytes → Bytes → Prop where
  | nil : Chars [] []
  | unescaped {byte : UInt8} {text decoded : Bytes} (hcontrol : ¬ byte < 0x20)
      (hquote : byte ≠ 0x22) (hescape : byte ≠ 0x5c) (hrest : Chars text decoded) :
      Chars (byte :: text) (byte :: decoded)
  | escape {escaped value : UInt8} {text decoded : Bytes} (h : Escape escaped value)
      (hrest : Chars text decoded) : Chars (0x5c :: escaped :: text) (value :: decoded)
  | unicode {quad text decoded : Bytes} {scalar : Char} (hquad : Quad quad scalar.val.toNat)
      (hrest : Chars text decoded) :
      Chars (0x5c :: 0x75 :: (quad ++ text)) (utf8 [scalar] ++ decoded)
  | surrogates {high low text decoded : Bytes} {a b : Nat} {scalar : Char} (hhigh : Quad high a)
      (hlow : Quad low b) (ha : 0xd800 ≤ a ∧ a ≤ 0xdbff) (hb : 0xdc00 ≤ b ∧ b ≤ 0xdfff)
      (hscalar : scalar.val.toNat = 0x10000 + (a - 0xd800) * 0x400 + (b - 0xdc00))
      (hrest : Chars text decoded) :
      Chars (0x5c :: 0x75 :: (high ++ 0x5c :: 0x75 :: (low ++ text))) (utf8 [scalar] ++ decoded)

/-- `string` -/
inductive StringText : Bytes → Bytes → Prop where
  | mk {body decoded : Bytes} (h : Chars body decoded) :
      StringText (0x22 :: (body ++ [0x22])) decoded

/-! ## Numbers -/

/-- `exp`: the letter, the sign if there is one, the digits. -/
structure Exponent where
  letter : UInt8
  sign : Bytes
  digits : Bytes

/-- `number` -/
structure Number where
  minus : Bool
  integer : Bytes
  fraction : Option Bytes
  exponent : Option Exponent

/-- `1*DIGIT` -/
def Digits (text : Bytes) : Prop :=
  text ≠ [] ∧ ∀ byte ∈ text, Parser.isDigit byte = true

/-- `exp = e [ minus / plus ] 1*DIGIT` -/
def Exponent.WellFormed (exponent : Exponent) : Prop :=
  (exponent.letter = 0x65 ∨ exponent.letter = 0x45) ∧
    (exponent.sign = [] ∨ exponent.sign = [0x2b] ∨ exponent.sign = [0x2d]) ∧
    Digits exponent.digits

/-- `number = [ minus ] int [ frac ] [ exp ]`, where `int` has no leading zero. -/
structure Number.WellFormed (number : Number) : Prop where
  integer : Digits number.integer
  leading : ¬ (number.integer.length > 1 ∧ number.integer.head? = some 0x30)
  fraction : ∀ digits ∈ number.fraction, Digits digits
  exponent : ∀ exponent ∈ number.exponent, exponent.WellFormed

def Exponent.text (exponent : Exponent) : Bytes :=
  exponent.letter :: (exponent.sign ++ exponent.digits)

def Number.text (number : Number) : Bytes :=
  (if number.minus = true then [0x2d] else []) ++
    (number.integer ++
      (number.fraction.elim [] (0x2e :: ·) ++ number.exponent.elim [] Exponent.text))

def Exponent.value (exponent : Exponent) : ℤ :=
  if exponent.sign = [0x2d] then -(Parser.decimalValue exponent.digits : ℤ)
  else Parser.decimalValue exponent.digits

/-- The exact absolute value of a number. -/
def Number.magnitude (number : Number) : ℚ :=
  Parser.decimalValue (number.integer ++ number.fraction.getD []) *
    10 ^ (number.exponent.elim 0 Exponent.value - ((number.fraction.getD []).length : ℤ))

/-- The exact value of a number. -/
def Number.value (number : Number) : ℚ :=
  if number.minus = true then -number.magnitude else number.magnitude

/-- The values that numbers denote. With integer tokens the sign picks the type; with exact values
    the value does, and the text may use a fraction and an exponent. -/
inductive Denotes : JsonNumberSyntax → Number → JsonValue → Prop where
  | unsignedToken {number : Number} {value : UInt64} (hfraction : number.fraction = none)
      (hexponent : number.exponent = none) (hsign : number.minus = false)
      (hvalue : number.value = value.toNat) :
      Denotes .integerTokens number (.unsignedInteger value)
  | signedToken {number : Number} {value : Int64} (hfraction : number.fraction = none)
      (hexponent : number.exponent = none) (hsign : number.minus = true)
      (hvalue : number.value = value.toInt) : Denotes .integerTokens number (.signedInteger value)
  | unsignedValue {number : Number} {value : UInt64} (hvalue : number.value = value.toNat) :
      Denotes .exactIntegerValues number (.unsignedInteger value)
  | signedValue {number : Number} {value : Int64} (hnegative : value.toInt < 0)
      (hvalue : number.value = value.toInt) :
      Denotes .exactIntegerValues number (.signedInteger value)

/-! ## Values -/

/-- The members of an object in the order of a `std::map`. -/
def byName (members : Members) : Members :=
  sortBy (fun a b => utf8ByteLess a.1 b.1) members

section Values

variable (numbers : JsonNumberSyntax)

mutual

/-- `value` -/
inductive ValueText : Bytes → JsonValue → Prop where
  | nullLiteral : ValueText "null" .null
  | trueLiteral : ValueText "true" (.boolean true)
  | falseLiteral : ValueText "false" (.boolean false)
  | number {number : Number} {value : JsonValue} (hform : number.WellFormed)
      (hvalue : Denotes numbers number value) : ValueText number.text value
  | string {text decoded : Bytes} (h : StringText text decoded) : ValueText text (.string decoded)
  | emptyArray {pad : Bytes} (h : Whitespace pad) : ValueText (0x5b :: (pad ++ [0x5d])) (.array [])
  | array {body : Bytes} {items : List JsonValue} (h : ElementsText body items) :
      ValueText (0x5b :: (body ++ [0x5d])) (.array items)
  | emptyObject {pad : Bytes} (h : Whitespace pad) :
      ValueText (0x7b :: (pad ++ [0x7d])) (.object [])
  | object {body : Bytes} {members : Members} (h : MembersText body members)
      (hnames : (members.map Prod.fst).Nodup) :
      ValueText (0x7b :: (body ++ [0x7d])) (.object (byName members))

/-- The elements of an array with the whitespace around them, separated by commas. -/
inductive ElementsText : Bytes → List JsonValue → Prop where
  | last {before text after : Bytes} {value : JsonValue} (hbefore : Whitespace before)
      (hvalue : ValueText text value) (hafter : Whitespace after) :
      ElementsText (before ++ (text ++ after)) [value]
  | cons {before text after rest : Bytes} {value : JsonValue} {values : List JsonValue}
      (hbefore : Whitespace before) (hvalue : ValueText text value) (hafter : Whitespace after)
      (hrest : ElementsText rest values) :
      ElementsText (before ++ (text ++ (after ++ 0x2c :: rest))) (value :: values)

/-- The members of an object, likewise. -/
inductive MembersText : Bytes → Members → Prop where
  | last {first key second third text after name : Bytes} {value : JsonValue}
      (hfirst : Whitespace first) (hkey : StringText key name) (hsecond : Whitespace second)
      (hthird : Whitespace third) (hvalue : ValueText text value) (hafter : Whitespace after) :
      MembersText (first ++ (key ++ (second ++ 0x3a :: (third ++ (text ++ after)))))
        [(name, value)]
  | cons {first key second third text after rest name : Bytes} {value : JsonValue}
      {members : Members} (hfirst : Whitespace first) (hkey : StringText key name)
      (hsecond : Whitespace second) (hthird : Whitespace third) (hvalue : ValueText text value)
      (hafter : Whitespace after) (hrest : MembersText rest members) :
      MembersText
        (first ++ (key ++ (second ++ 0x3a :: (third ++ (text ++ (after ++ 0x2c :: rest))))))
        ((name, value) :: members)

end

/-- `JSON-text = ws value ws` -/
def JsonText (text : Bytes) (value : JsonValue) : Prop :=
  ∃ before core after, text = before ++ (core ++ after) ∧ Whitespace before ∧
    ValueText numbers core value ∧ Whitespace after

end Values

/-! ## Measures -/

mutual

/-- How many values there are in a value, itself included. -/
def JsonValue.valueCount : JsonValue → Nat
  | .array items => 1 + itemsCount items
  | .object members => 1 + membersCount members
  | _ => 1

def itemsCount : List JsonValue → Nat
  | [] => 0
  | item :: rest => item.valueCount + itemsCount rest

def membersCount : List (Bytes × JsonValue) → Nat
  | [] => 0
  | (_, value) :: rest => value.valueCount + membersCount rest

end

mutual

/-- How many bytes its strings have, those of the names included. -/
def JsonValue.stringBytes : JsonValue → Nat
  | .string value => value.length
  | .array items => itemsBytes items
  | .object members => membersBytes members
  | _ => 0

def itemsBytes : List JsonValue → Nat
  | [] => 0
  | item :: rest => item.stringBytes + itemsBytes rest

def membersBytes : List (Bytes × JsonValue) → Nat
  | [] => 0
  | (name, value) :: rest => name.length + value.stringBytes + membersBytes rest

end

/-- Every part of a value that stands at `depth` is within the limits. A container at `depth` counts
    for itself under one semantics of depth, and through its elements under the other. -/
inductive Within (limits : JsonLimits) (semantics : JsonDepthSemantics) (depthLimit : Nat) :
    Nat → JsonValue → Prop where
  | null {depth : Nat} (hdepth : semantics = .allValues → depth ≤ depthLimit) :
      Within limits semantics depthLimit depth .null
  | boolean {depth : Nat} {value : Bool} (hdepth : semantics = .allValues → depth ≤ depthLimit) :
      Within limits semantics depthLimit depth (.boolean value)
  | signedInteger {depth : Nat} {value : Int64}
      (hdepth : semantics = .allValues → depth ≤ depthLimit) :
      Within limits semantics depthLimit depth (.signedInteger value)
  | unsignedInteger {depth : Nat} {value : UInt64}
      (hdepth : semantics = .allValues → depth ≤ depthLimit) :
      Within limits semantics depthLimit depth (.unsignedInteger value)
  | string {depth : Nat} {value : Bytes} (hdepth : semantics = .allValues → depth ≤ depthLimit)
      (hbytes : value.length ≤ limits.maxStringBytes.toNat) :
      Within limits semantics depthLimit depth (.string value)
  | array {depth : Nat} {items : List JsonValue}
      (hdepth : semantics = .allValues → depth ≤ depthLimit)
      (hcontainer : semantics = .containers → depth < depthLimit)
      (hcount : items.length ≤ limits.maxArrayElements.toNat)
      (hitems : ∀ item ∈ items, Within limits semantics depthLimit (depth + 1) item) :
      Within limits semantics depthLimit depth (.array items)
  | object {depth : Nat} {members : Members}
      (hdepth : semantics = .allValues → depth ≤ depthLimit)
      (hcontainer : semantics = .containers → depth < depthLimit)
      (hcount : members.length ≤ limits.maxObjectMembers.toNat)
      (hnames : ∀ member ∈ members, member.1.length ≤ limits.maxStringBytes.toNat)
      (hvalues : ∀ member ∈ members, Within limits semantics depthLimit (depth + 1) member.2) :
      Within limits semantics depthLimit depth (.object members)

/-- A value within the limits, with the totals over all of it. -/
def WithinLimits (limits : JsonLimits) (semantics : JsonDepthSemantics) (depthLimit : Nat)
    (value : JsonValue) : Prop :=
  Within limits semantics depthLimit 0 value ∧
    value.valueCount ≤ limits.maxTotalValues.toNat ∧
    value.stringBytes ≤ limits.maxTotalStringBytes.toNat

end Cxxlens.Sdk.Json
