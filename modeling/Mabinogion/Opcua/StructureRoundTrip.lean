import Mabinogion.Opcua.StructureCodec

/-!
# Structures read back

Node ids, names, texts, status codes, extension objects and diagnostic infos are read
back wherever their texts and byte strings fit an `i32` length.
-/

namespace Mabinogion.Opcua

open Checked ByteCursor StatusCode Yields
open List (length_append)

variable {Value : Type}

namespace NodeId

def Fits (self : NodeId) : Prop :=
  match self.identifier with
  | .numeric _ => True
  | .string s => FitsText s
  | .guid _ => True
  | .byteString bs => FitsLength bs

theorem reads_form {tag : UInt8} {bytes : Bytes} {value : NodeId}
    (form : Reads (decodeForm tag) bytes value) :
    Reads (decode : Decoder NodeId) (encode tag ++ bytes) value := by
  have tagged := (lawful_uint8.reads tag trivial trivial).bind form
  intro rest
  exact tagged rest

theorem toUInt8_toUInt32 {id : UInt32} (small : id ≤ 255) : id.toUInt8.toUInt32 = id := by
  rw [UInt32.toUInt32_toUInt8]
  exact UInt32.mod_eq_of_lt (Nat.lt_succ_of_le small)

theorem toUInt16_toUInt32 {id : UInt32} (small : id ≤ 65535) : id.toUInt16.toUInt32 = id := by
  rw [UInt32.toUInt32_toUInt16]
  exact UInt32.mod_eq_of_lt (Nat.lt_succ_of_le small)

theorem toUInt8_toUInt16 {ns : UInt16} (small : ns ≤ 255) : ns.toUInt8.toUInt16 = ns := by
  rw [UInt16.toUInt16_toUInt8]
  exact UInt16.mod_eq_of_lt (Nat.lt_succ_of_le small)

theorem encode_numeric (ns : UInt16) (id : UInt32) : encode (numeric ns id) =
    if ns = 0 ∧ id ≤ 255 then encode twoByteTag ++ encode id.toUInt8
    else if ns ≤ 255 ∧ id ≤ 65535 then
      encode fourByteTag ++ (encode ns.toUInt8 ++ encode id.toUInt16)
    else encode numericTag ++ (encode ns ++ encode id) := rfl

theorem reads_numeric (ns : UInt16) (id : UInt32) :
    Reads (decode : Decoder NodeId) (encode (numeric ns id)) (numeric ns id) := by
  rw [encode_numeric]
  split_ifs with two four
  · obtain ⟨zero, small⟩ := two
    subst zero
    have read := (lawful_uint8.reads id.toUInt8 trivial trivial).map
      fun id : UInt8 => numeric 0 id.toUInt32
    rw [toUInt8_toUInt32 small] at read
    exact reads_form read
  · have read := (lawful_uint16.reads id.toUInt16 trivial trivial).map
      fun id : UInt16 => numeric ns.toUInt8.toUInt16 id.toUInt32
    rw [toUInt16_toUInt32 four.2] at read
    have both : Reads (decodeForm fourByteTag) (encode ns.toUInt8 ++ encode id.toUInt16)
        (numeric ns.toUInt8.toUInt16 id) := (lawful_uint8.reads _ trivial trivial).bind read
    rw [toUInt8_toUInt16 four.1] at both
    exact reads_form both
  · apply reads_form
    apply (lawful_uint16.reads ns trivial trivial).bind
    exact (lawful_uint32.reads id trivial trivial).map (numeric ns)

theorem reads_full [BinaryEncodable Value] [BinaryDecodable Value]
    {Fits : Value → Prop} (lawful : LawfulCodec Value Always Fits) (tag : UInt8)
    (make : UInt16 → Value → NodeId)
    (form : decodeForm tag = do
      let ns ← decode
      let identifier ← decode
      pure (make ns identifier))
    (ns : UInt16) {identifier : Value} (fits : Fits identifier) :
    Reads (decode : Decoder NodeId) (encode tag ++ (encode ns ++ encode identifier))
      (make ns identifier) := by
  apply reads_form
  rw [form]
  apply (lawful_uint16.reads ns trivial trivial).bind
  exact (lawful.reads identifier trivial fits).map (make ns)

theorem yields_decodeForm (encoding : UInt8) : Yields (decodeForm encoding) Fits := by
  unfold decodeForm
  split
  · exact after fun id => pure trivial
  · exact after fun ns => after fun id => pure trivial
  · exact after fun ns => after fun id => pure trivial
  · exact after fun ns => lawful_string.yields.map fun s fits => fits
  · exact after fun ns => after fun g => pure trivial
  · exact after fun ns => lawful_byteString.yields.map fun bs fits => fits
  · exact fail _

theorem size_tagged [BinaryEncodable Value] [BinaryDecodable Value] {Regular Fits : Value → Prop}
    (lawful : LawfulCodec Value Regular Fits) (tag : UInt8) (ns : UInt16) (identifier : Value) :
    (encode tag ++ (encode ns ++ encode identifier)).length = 1 + 2 + encodedSize identifier := by
  rw [length_append, length_append, ← lawful_uint8.size, ← lawful_uint16.size, ← lawful.size]
  exact (Nat.add_assoc 1 2 _).symm

theorem size_numeric (ns : UInt16) (id : UInt32) :
    encodedSize (numeric ns id) = (encode (numeric ns id)).length := by
  rw [encode_numeric]
  show (if ns = 0 ∧ id ≤ 255 then 2 else if ns ≤ 255 ∧ id ≤ 65535 then 4 else 7) = _
  split_ifs with two four
  · rfl
  · rfl
  · rfl

theorem lawful : LawfulCodec NodeId Always Fits := by
  constructor
  · intro value _ fits
    obtain ⟨ns, identifier⟩ := value
    cases identifier with
    | numeric id => exact reads_numeric ns id
    | string => exact reads_full lawful_string stringTag string rfl ns fits
    | guid => exact reads_full lawful_uuid guidTag guid rfl ns trivial
    | byteString => exact reads_full lawful_byteString byteStringTag byteString rfl ns fits
  · exact after fun data => after fun _ => after yields_decodeForm
  · intro value
    obtain ⟨ns, identifier⟩ := value
    cases identifier with
    | numeric id => exact size_numeric ns id
    | string s =>
      have whole := size_tagged lawful_string stringTag ns s
      exact (Nat.add_assoc (1 + 2) 4 _).trans whole.symm
    | guid g => exact (size_tagged lawful_uuid guidTag ns g).symm
    | byteString bs =>
      have whole := size_tagged lawful_byteString byteStringTag ns bs
      exact (Nat.add_assoc (1 + 2) 4 _).trans whole.symm

end NodeId

def QualifiedName.Fits (self : QualifiedName) : Prop := FitsText self.name

theorem QualifiedName.lawful : LawfulCodec QualifiedName Always QualifiedName.Fits := by
  constructor
  · intro value _ fits
    apply (lawful_uint16.reads value.namespaceIndex trivial trivial).bind
    exact (lawful_string.reads value.name trivial fits).map (QualifiedName.mk value.namespaceIndex)
  · exact after fun namespaceIndex => lawful_string.yields.map fun name fits => fits
  · intro value
    show 2 + 4 + _ = (encode value.namespaceIndex ++ encode value.name).length
    rw [length_append, ← lawful_uint16.size, ← lawful_string.size]
    exact Nat.add_assoc 2 4 _

theorem StatusCode.lawful : LawfulCodec StatusCode Always Always := by
  constructor
  · intro value _ _
    exact (lawful_uint32.reads value.raw trivial trivial).map mk
  · exact any _
  · intro value
    exact lawful_uint32.size value.raw

namespace LocalizedText

def Fits (self : LocalizedText) : Prop := FitsText self.locale ∧ FitsText self.text

theorem mask_bits (self : LocalizedText) :
    (self.mask &&& 0x01 != 0) = !self.locale.isEmpty ∧ (self.mask &&& 0x02 != 0) =
      !self.text.isEmpty := by
  unfold mask
  generalize (!self.locale.isEmpty) = locale
  generalize (!self.text.isEmpty) = text
  revert locale text
  decide

theorem reads_text {text : String} (fits : FitsText text) :
    Reads (fieldOr (!text.isEmpty) "" decode) (if !text.isEmpty then encode text else []) text := by
  cases empty : text.isEmpty with
  | false => exact lawful_string.reads text trivial fits
  | true =>
    have same : text = "" := String.isEmpty_iff.mp empty
    rw [same]
    exact reads_fieldOr_absent

theorem fits_empty : FitsText "" := Nat.two_pow_pos 31

theorem lawful : LawfulCodec LocalizedText Always Fits := by
  constructor
  · intro value _ fits
    apply (lawful_uint8.reads value.mask trivial trivial).bind
    obtain ⟨locale, text⟩ := value.mask_bits
    simp only [locale, text]
    apply (reads_text fits.1).bind
    exact (reads_text fits.2).map (mk value.locale)
  · have texts (present : Bool) : Yields (fieldOr present "" decode) FitsText :=
      yields_fieldOr present fits_empty lawful_string.yields
    exact after fun mask => (texts _).bind fun locale left =>
      (texts _).map fun text right => ⟨left, right⟩
  · intro value
    obtain ⟨locale, text⟩ := value.mask_bits
    show _ = (encode value.mask ++ ((if value.mask &&& 0x01 != 0 then encode value.locale else []) ++
      (if value.mask &&& 0x02 != 0 then encode value.text else []))).length
    simp only [locale, text, length_append, ← lawful_uint8.size, apply_ite List.length,
      ← lawful_string.size, List.length_nil]
    exact Nat.add_assoc 1 _ _

end LocalizedText

variable (info : DiagnosticInfo)

theorem written_length_fixed [BinaryEncodable Value] {size : Nat}
    (fixed : ∀ value : Value, (encode value).length = size) (field : Option Value) :
    (written encode field).length = if field.isSome then size else 0 := by
  cases field with
  | none => rfl
  | some value => exact fixed value

namespace ExtensionObject

def Fits (self : ExtensionObject) : Prop := self.typeId.Fits ∧ ∀ body ∈ self.body, FitsLength body

theorem yields_decodeBody (encoding : UInt8) :
    Yields (decodeBody encoding) fun body => ∀ bytes ∈ body, FitsLength bytes := by
  unfold decodeBody
  split
  · exact pure (by simp)
  · exact lawful_byteString.yields.map fun bytes fits => by simpa using fits
  · exact lawful_string.yields.map fun xml fits => by simpa [FitsText] using fits
  · exact fail _

theorem lawful : LawfulCodec ExtensionObject Always Fits := by
  constructor
  · intro value _ fits
    obtain ⟨typeId, body⟩ := value
    apply (NodeId.lawful.reads typeId trivial fits.1).bind
    cases body with
    | none => exact (lawful_uint8.reads 0x00 trivial trivial).lastly (Reads.pure _)
    | some bytes =>
      apply (lawful_uint8.reads 0x01 trivial trivial).bind
      have read := (reads_decodeBytes (fits.2 bytes rfl)).map (some : Bytes → _)
      exact read.map (ExtensionObject.mk typeId)
  · exact NodeId.lawful.yields.bind fun typeId left => after fun encoding =>
      (yields_decodeBody encoding).map fun body right => ⟨left, right⟩
  · intro value
    obtain ⟨typeId, body⟩ := value
    cases body with
    | none =>
      show encodedSize typeId + 1 + 0 = (encode typeId ++ encode (0x00 : UInt8)).length
      rw [length_append, ← NodeId.lawful.size]
      rfl
    | some bytes =>
      show encodedSize typeId + 1 + (4 + bytes.length) =
        (encode typeId ++ (encode (0x01 : UInt8) ++ (putLength bytes.length ++ bytes))).length
      rw [length_append, length_append, length_append, putLength_length,
        ← NodeId.lawful.size, ← lawful_uint8.size]
      exact Nat.add_assoc _ 1 _

end ExtensionObject

namespace DiagnosticInfo

def Fits : DiagnosticInfo → Prop
  | ⟨_, _, _, _, additionalInfo, _, inner⟩ =>
    (∀ s ∈ additionalInfo, FitsText s) ∧ match inner with
      | some info => info.Fits
      | none => True

theorem fits_iff : info.Fits ↔
      (∀ s ∈ info.additionalInfo, FitsText s) ∧ ∀ inner ∈ info.innerDiagnosticInfo, inner.Fits := by
  obtain ⟨_, _, _, _, additionalInfo, _, inner⟩ := info
  cases inner with
  | none | some => simp [Fits]

theorem encodeInfo_eq :
    info.encodeInfo = info.encodeWith (written encodeInfo info.innerDiagnosticInfo) := by
  obtain ⟨_, _, _, _, _, _, inner⟩ := info
  cases inner with
  | none | some => simp only [encodeInfo, written]

theorem mask_bits (self : DiagnosticInfo) : (self.mask &&& 0x01 != 0) = self.symbolicId.isSome ∧
    (self.mask &&& 0x02 != 0) = self.namespaceUri.isSome ∧
    (self.mask &&& 0x04 != 0) = self.localizedText.isSome ∧
    (self.mask &&& 0x08 != 0) = self.locale.isSome ∧
    (self.mask &&& 0x10 != 0) = self.additionalInfo.isSome ∧
    (self.mask &&& 0x20 != 0) = self.innerStatusCode.isSome ∧
    (self.mask &&& 0x40 != 0) = self.innerDiagnosticInfo.isSome := by
  unfold mask
  generalize self.symbolicId.isSome = symbolicId
  generalize self.namespaceUri.isSome = namespaceUri
  generalize self.localizedText.isSome = localizedText
  generalize self.locale.isSome = locale
  generalize self.additionalInfo.isSome = additionalInfo
  generalize self.innerStatusCode.isSome = innerStatusCode
  generalize self.innerDiagnosticInfo.isSome = inner
  revert symbolicId namespaceUri localizedText locale additionalInfo innerStatusCode inner
  decide

theorem encodeWith_length (inner : Bytes) : (info.encodeWith inner).length = 1 +
    (written encode info.symbolicId).length + (written encode info.namespaceUri).length +
    (written encode info.localizedText).length + (written encode info.locale).length +
    (written encode info.additionalInfo).length + (written encode info.innerStatusCode).length +
    inner.length := by
  have one : (encode info.mask).length = 1 := rfl
  simp only [encodeWith, length_append, one, Nat.add_assoc]

theorem inner_shorter {info inner : DiagnosticInfo} (holds : inner ∈ info.innerDiagnosticInfo) :
    inner.encodeInfo.length < info.encodeInfo.length := by
  have same : info.innerDiagnosticInfo = some inner := holds
  rw [encodeInfo_eq info, encodeWith_length, same, written]
  omega

/-- At a depth of as many calls as there are bytes. -/
theorem reads_decodeInfo (depth : Nat) (info : DiagnosticInfo) (fits : info.Fits)
    (deep : info.encodeInfo.length ≤ depth) :
    Reads (callWithin decodeInfo depth ()) info.encodeInfo info := by
  induction depth generalizing info with
  | zero =>
    rw [encodeInfo_eq, encodeWith_length] at deep
    omega
  | succ depth ih =>
    obtain ⟨symbolicId, namespaceUri, localizedText, locale, additionalInfo, innerStatusCode,
      inner⟩ := info.mask_bits
    obtain ⟨texts, inners⟩ := info.fits_iff.mp fits
    have numbers (field : Option Int32) :
        Reads (optionally field.isSome decode) (written encode field) field :=
      reads_optionally fun value _ => lawful_int32.reads value trivial trivial
    have whole : (⟨info.symbolicId, info.namespaceUri, info.locale, info.localizedText,
        info.additionalInfo, info.innerStatusCode, info.innerDiagnosticInfo⟩ : DiagnosticInfo) =
        info := by
      cases info
      rfl
    rw [callWithin, encodeInfo_eq]
    apply (lawful_uint8.reads info.mask trivial trivial).bind
    simp only [symbolicId, namespaceUri, localizedText, locale, additionalInfo, innerStatusCode,
      inner]
    apply (numbers info.symbolicId).bind
    apply (numbers info.namespaceUri).bind
    apply (numbers info.localizedText).bind
    apply (numbers info.locale).bind
    apply (reads_optionally fun value member =>
      lawful_string.reads value trivial (texts value member)).bind
    apply (reads_optionally fun value _ =>
      lawful.reads value trivial trivial).bind
    apply Reads.lastly (reads_optionally fun value member =>
      ih value (inners value member) (Nat.le_of_lt_succ ((inner_shorter member).trans_le deep)))
    rw [whole]
    exact Reads.pure info

theorem yields_decodeInfo (depth : Nat) : Yields (callWithin decodeInfo depth ()) Fits := by
  induction depth with
  | zero =>
    intro data info rest returned
    cases returned
  | succ depth ih =>
    exact after fun mask => after fun symbolicId =>
      after fun namespaceUri => after fun localizedText =>
      after fun locale => (lawful_string.yields.optionally _).bind
        fun additionalInfo texts => after fun innerStatusCode =>
        (ih.optionally _).map fun inner fits => (fits_iff _).mpr ⟨texts, fits⟩

theorem infoSize_eq : info.infoSize = 1 + (written encode info.symbolicId).length +
    (written encode info.namespaceUri).length + (written encode info.localizedText).length +
    (written encode info.locale).length + (written encode info.additionalInfo).length +
    (written encode info.innerStatusCode).length + (info.innerDiagnosticInfo.map infoSize).getD 0 :=
    by
  have numbers := @written_length_fixed Int32 _ 4 fun value => (lawful_int32.size value).symm
  have codes := @written_length_fixed StatusCode _ 4 fun value =>
    (lawful.size value).symm
  obtain ⟨symbolicId, namespaceUri, locale, localizedText, additionalInfo, innerStatusCode,
    inner⟩ := info
  have text : (written encode additionalInfo).length =
      (additionalInfo.map fun s => 4 + (Utf8.octets s).length).getD 0 := by
    cases additionalInfo with
    | none => rfl
    | some s => exact (lawful_string.size s).symm
  cases inner with
  | none => simp only [infoSize, numbers, codes, text, Option.map_none, Option.getD_none]
  | some => simp only [infoSize, numbers, codes, text, Option.map_some, Option.getD_some]

/-- By the number of bytes, which the inner info has fewer of. -/
theorem infoSize_eq_length (bound : Nat) (info : DiagnosticInfo)
    (within : info.encodeInfo.length ≤ bound) : info.infoSize = info.encodeInfo.length := by
  induction bound generalizing info with
  | zero =>
    rw [encodeInfo_eq, encodeWith_length] at within
    omega
  | succ bound ih =>
    rw [infoSize_eq, encodeInfo_eq info, encodeWith_length]
    cases inner : info.innerDiagnosticInfo with
    | none => rfl
    | some other =>
      have shorter := (inner_shorter inner).trans_le within
      rw [Option.map_some, Option.getD_some, written, ih other (Nat.le_of_lt_succ shorter)]

theorem lawful : LawfulCodec DiagnosticInfo Always Fits := by
  constructor
  · intro info _ fits rest
    apply reads_decodeInfo _ info fits
    rw [length_append]
    exact (Nat.le_add_right _ _).trans (Nat.le_succ _)
  · intro data info rest returned
    exact yields_decodeInfo _ data info rest returned
  · intro info
    exact infoSize_eq_length _ info (le_refl _)

end DiagnosticInfo

/-- What is decoded from any bytes is the same when it is encoded and decoded again. -/
def Forwards (Value : Type) [BinaryEncodable Value] [BinaryDecodable Value] : Prop :=
  ∀ (data rest : Bytes) (value : Value), decode data = .ok value rest →
    Reads decode (encode value) value

theorem LawfulCodec.forwards {Value : Type} [BinaryEncodable Value] [BinaryDecodable Value]
    {Fits : Value → Prop} (lawful : LawfulCodec Value Always Fits) : Forwards Value :=
  fun data rest value returned =>
    lawful.reads value trivial (lawful.yields data value rest returned)

/-- What was decoded survives being encoded and decoded again. -/
theorem decoded_structures_forwarded :
    Forwards NodeId ∧ Forwards QualifiedName ∧ Forwards LocalizedText ∧ Forwards ExtensionObject ∧
      Forwards DiagnosticInfo :=
  ⟨NodeId.lawful.forwards, QualifiedName.lawful.forwards, LocalizedText.lawful.forwards,
    ExtensionObject.lawful.forwards, DiagnosticInfo.lawful.forwards⟩

end Mabinogion.Opcua
