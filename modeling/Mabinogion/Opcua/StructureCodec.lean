import Mabinogion.Library.Recursion
import Mabinogion.Opcua.PrimitiveRoundTrip

/-!
# The binary codec: node ids, names, texts and structures

Node ids have compact forms for small numbers. The others start with a byte for the fields
that follow. A diagnostic info may hold another one, to any depth.
-/

namespace Mabinogion.Opcua

open Checked ByteCursor

def hexByte (byte : UInt8) : String :=
  String.ofList [(Nat.digitChar (byte.toNat / 16)).toUpper, (Nat.digitChar (byte.toNat % 16)).toUpper]

namespace NodeId

def twoByteTag : UInt8 := 0x00

def fourByteTag : UInt8 := 0x01

def numericTag : UInt8 := 0x02

def stringTag : UInt8 := 0x03

def guidTag : UInt8 := 0x04

def byteStringTag : UInt8 := 0x05

end NodeId

open NodeId in
instance : BinaryEncodable NodeId where
  encode self :=
    let ns := self.namespaceIndex
    match self.identifier with
    | .numeric id =>
      if ns = 0 ∧ id ≤ 255 then encode twoByteTag ++ encode id.toUInt8
      else if ns ≤ 255 ∧ id ≤ 65535 then
        encode fourByteTag ++ (encode ns.toUInt8 ++ encode id.toUInt16)
      else encode numericTag ++ (encode ns ++ encode id)
    | .string s => encode stringTag ++ (encode ns ++ encode s)
    | .guid g => encode guidTag ++ (encode ns ++ encode g)
    | .byteString bs => encode byteStringTag ++ (encode ns ++ encode bs)
  encodedSize self :=
    let ns := self.namespaceIndex
    match self.identifier with
    | .numeric id =>
      if ns = 0 ∧ id ≤ 255 then 2
      else if ns ≤ 255 ∧ id ≤ 65535 then 4
      else 7
    | .string s => 1 + 2 + 4 + (Utf8.octets s).length
    | .guid _ => 1 + 2 + 16
    | .byteString bs => 1 + 2 + 4 + bs.length

namespace NodeId

/-- What follows the encoding byte. -/
def decodeForm (encoding : UInt8) : Decoder NodeId :=
  match encoding.toNat with
  | 0x00 => do
    let id ← (decode : Decoder UInt8)
    pure (.numeric 0 id.toUInt32)
  | 0x01 => do
    let ns ← (decode : Decoder UInt8)
    let id ← (decode : Decoder UInt16)
    pure (.numeric ns.toUInt16 id.toUInt32)
  | 0x02 => do
    let ns ← decode
    let id ← (decode : Decoder UInt32)
    pure (.numeric ns id)
  | 0x03 => do
    let ns ← decode
    let s ← (decode : Decoder String)
    pure (.string ns s)
  | 0x04 => do
    let ns ← decode
    let g ← (decode : Decoder Uuid)
    pure (.guid ns g)
  | 0x05 => do
    let ns ← decode
    let bs ← (decode : Decoder Bytes)
    pure (.byteString ns bs)
  | _ => fail (.codec ("Unknown NodeId encoding: 0x" ++ hexByte encoding))

end NodeId

instance : BinaryDecodable NodeId where
  decode := do
    let data ← rest
    failIf data.isEmpty (.codec "Empty buffer for NodeId")
    let encoding ← (decode : Decoder UInt8)
    NodeId.decodeForm encoding

instance : BinaryEncodable QualifiedName where
  encode self := encode self.namespaceIndex ++ encode self.name
  encodedSize self := 2 + 4 + (Utf8.octets self.name).length

instance : BinaryDecodable QualifiedName where
  decode := do
    let namespaceIndex ← decode
    let name ← decode
    pure ⟨namespaceIndex, name⟩

def flag (condition : Bool) (bit : UInt8) : UInt8 := if condition then bit else 0

namespace LocalizedText

def mask (self : LocalizedText) : UInt8 :=
  flag (!self.locale.isEmpty) 0x01 ||| flag (!self.text.isEmpty) 0x02

end LocalizedText

instance : BinaryEncodable LocalizedText where
  encode self :=
    encode self.mask ++ ((if self.mask &&& 0x01 != 0 then encode self.locale else []) ++
        (if self.mask &&& 0x02 != 0 then encode self.text else []))
  encodedSize self :=
    1 + (if !self.locale.isEmpty then 4 + (Utf8.octets self.locale).length else 0) +
      (if !self.text.isEmpty then 4 + (Utf8.octets self.text).length else 0)

instance : BinaryDecodable LocalizedText where
  decode := do
    let mask ← (decode : Decoder UInt8)
    let locale ← fieldOr (mask &&& 0x01 != 0) "" decode
    let text ← fieldOr (mask &&& 0x02 != 0) "" decode
    pure ⟨locale, text⟩

instance : BinaryEncodable StatusCode where
  encode self := encode self.raw
  encodedSize _ := 4

instance : BinaryDecodable StatusCode where
  decode := do
    let raw ← decode
    pure ⟨raw⟩

structure ExtensionObject where
  typeId : NodeId
  body : Option Bytes

instance : BinaryEncodable ExtensionObject where
  encode self :=
    encode self.typeId ++ match self.body with
      | some body => encode (0x01 : UInt8) ++ (putLength body.length ++ body)
      | none => encode (0x00 : UInt8)
  encodedSize self :=
    encodedSize self.typeId + 1 + match self.body with
      | some body => 4 + body.length
      | none => 0

namespace ExtensionObject

def decodeBody (encoding : UInt8) : Decoder (Option Bytes) :=
  match encoding.toNat with
  | 0x00 => pure none
  | 0x01 => do
    let bytes ← decode
    pure (some bytes)
  | 0x02 => do
    -- an XML body, kept by its octets
    let xml ← (decode : Decoder String)
    pure (some (Utf8.octets xml))
  | _ => fail (.codec ("Unknown ExtensionObject encoding: 0x" ++ hexByte encoding))

end ExtensionObject

instance : BinaryDecodable ExtensionObject where
  decode := do
    let typeId ← decode
    let encoding ← (decode : Decoder UInt8)
    let body ← ExtensionObject.decodeBody encoding
    pure ⟨typeId, body⟩

structure DiagnosticInfo where
  symbolicId : Option Int32
  namespaceUri : Option Int32
  locale : Option Int32
  localizedText : Option Int32
  additionalInfo : Option String
  innerStatusCode : Option StatusCode
  innerDiagnosticInfo : Option DiagnosticInfo

namespace DiagnosticInfo

def mask (self : DiagnosticInfo) : UInt8 :=
  flag self.symbolicId.isSome 0x01 ||| flag self.namespaceUri.isSome 0x02 |||
    flag self.localizedText.isSome 0x04 ||| flag self.locale.isSome 0x08 |||
    flag self.additionalInfo.isSome 0x10 ||| flag self.innerStatusCode.isSome 0x20 |||
    flag self.innerDiagnosticInfo.isSome 0x40

/-- The fields in front of the bytes of the inner info. -/
def encodeWith (self : DiagnosticInfo) (inner : Bytes) : Bytes :=
  encode self.mask ++ (written encode self.symbolicId ++ (written encode self.namespaceUri ++
    (written encode self.localizedText ++ (written encode self.locale ++
    (written encode self.additionalInfo ++ (written encode self.innerStatusCode ++ inner))))))

def encodeInfo : DiagnosticInfo → Bytes
  | ⟨symbolicId, namespaceUri, locale, localizedText, additionalInfo, innerStatusCode, inner⟩ =>
    encodeWith ⟨symbolicId, namespaceUri, locale, localizedText, additionalInfo,
      innerStatusCode, inner⟩
      (match inner with
        | some info => info.encodeInfo
        | none => [])

def infoSize : DiagnosticInfo → Nat
  | ⟨symbolicId, namespaceUri, locale, localizedText, additionalInfo, innerStatusCode, inner⟩ =>
    1 + (if symbolicId.isSome then 4 else 0) + (if namespaceUri.isSome then 4 else 0) +
      (if localizedText.isSome then 4 else 0) + (if locale.isSome then 4 else 0) +
      (additionalInfo.map fun s => 4 + (Utf8.octets s).length).getD 0 +
      (if innerStatusCode.isSome then 4 else 0) +
      (match inner with
        | some info => info.infoSize
        | none => 0)

/-- The decoder, with the decoder for the inner info. -/
def decodeInfo : Body Bytes OpcUaError Unit DiagnosticInfo := fun inner _ => do
  let mask ← (BinaryDecodable.decode : Decoder UInt8)
  let symbolicId ← optionally (mask &&& 0x01 != 0) decode
  let namespaceUri ← optionally (mask &&& 0x02 != 0) decode
  let localizedText ← optionally (mask &&& 0x04 != 0) decode
  let locale ← optionally (mask &&& 0x08 != 0) decode
  let additionalInfo ← optionally (mask &&& 0x10 != 0) decode
  let innerStatusCode ← optionally (mask &&& 0x20 != 0) decode
  let innerDiagnosticInfo ← optionally (mask &&& 0x40 != 0) (inner ())
  pure ⟨symbolicId, namespaceUri, locale, localizedText, additionalInfo, innerStatusCode,
    innerDiagnosticInfo⟩

end DiagnosticInfo

instance : BinaryEncodable DiagnosticInfo := ⟨DiagnosticInfo.encodeInfo, DiagnosticInfo.infoSize⟩

/-- Every call takes a byte, so that there are no more calls than bytes. -/
instance : BinaryDecodable DiagnosticInfo where
  decode := fun data => callWithin DiagnosticInfo.decodeInfo (data.length + 1) () data

end Mabinogion.Opcua
