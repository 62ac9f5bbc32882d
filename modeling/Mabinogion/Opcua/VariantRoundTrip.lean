import Mabinogion.Opcua.VariantCodec

/-!
# Variants read back

A variant is read back, the wrapper of a scalar taken off, exactly where it is no XML element
and its parts fit an `i32` length. The dimensions of an array are not read.
-/

namespace Mabinogion.Opcua

open Checked ByteCursor NodeId

section

variable {Value : Type} [BinaryEncodable Value] [BinaryDecodable Value]
  {Regular Fits : Value → Prop}

theorem code_bits (typeId : DataTypeId) :
    (typeId.code &&& arrayBit != 0) = false ∧ typeId.code &&& 0x3F = typeId.code ∧
      ((typeId.code ||| arrayBit) &&& arrayBit != 0) = true ∧
      (typeId.code ||| arrayBit) &&& 0x3F = typeId.code := by
  cases typeId <;> decide

variable {typeId : DataTypeId}

theorem reads_scalarVariant {bytes : Bytes} {result : Variant}
    (arm : Reads (decodeScalarVariant typeId.code) bytes result) :
    Reads (decode : Decoder Variant) (encode typeId.code ++ bytes) result := by
  apply (lawful_uint8.reads typeId.code trivial trivial).bind
  obtain ⟨scalar, same, _, _⟩ := code_bits typeId
  rwa [scalar, same]

theorem reads_arrayVariant {bytes : Bytes} {result : Variant}
    (arm : Reads (decodeArrayVariant typeId.code) bytes result) :
    Reads (decode : Decoder Variant) (encode (typeId.code ||| arrayBit) ++ bytes) result := by
  apply (lawful_uint8.reads (typeId.code ||| arrayBit) trivial trivial).bind
  obtain ⟨_, _, array, same⟩ := code_bits typeId
  rwa [array, same]

section

variable (lawful : LawfulCodec Value Regular Fits)

include lawful

theorem size_scalar (typeId : DataTypeId)
    (value : Value) : 1 + encodedSize value = (encode typeId.code ++ encode value).length := by
  rw [List.length_append, ← lawful.size, ← lawful_uint8.size]
  rfl

theorem trips_scalar {make : Value → Variant}
    (arm : decodeScalarVariant typeId.code = decodeAs make) {value : Value} {Plain : Prop} :
    (Plain → 1 + encodedSize value = (encode typeId.code ++ encode value).length) ∧
      (Regular value → Fits value →
        Reads (decode : Decoder Variant) (encode typeId.code ++ encode value) (make value)) := by
  refine ⟨fun _ => size_scalar lawful typeId value, ?_⟩
  intro regular fits
  apply reads_scalarVariant
  rw [arm]
  exact (lawful.reads value regular fits).map make

theorem trips_array {make : List Value → VariantArrayValue}
    (arm : decodeArrayVariant typeId.code = decodeArrayAs make) {values : List Value} {total : Nat}
    (sized : (values.map encodedSize).sum = total) {OnTicks : Prop}
    (regular : OnTicks → ∀ value ∈ values, Regular value) :
    1 + (4 + total) = (encode (typeId.code ||| arrayBit) ++ encodeArray values).length ∧
      (OnTicks → FitsArray Fits values → Reads (decode : Decoder Variant)
        (encode (typeId.code ||| arrayBit) ++ encodeArray values) (.array (make values))) := by
  constructor
  · rw [List.length_append, encodeArray_length lawful, sized, ← lawful_uint8.size]
    rfl
  · intro onTicks fits
    apply reads_arrayVariant
    rw [arm]
    exact (reads_decodeArray lawful (regular onTicks) fits).map fun values =>
      Variant.array (make values)

theorem yields_arrayAs {make : List Value → VariantArrayValue} {Good : VariantArrayValue → Prop}
    (good : ∀ values, FitsArray Fits values → Good (make values)) :
    Yields (decodeArrayAs make) fun result => ∃ values, result = .array values ∧ Good values :=
  (yields_decodeArray lawful).map fun values fits => ⟨make values, rfl, good values fits⟩

end

end

namespace VariantArrayValue

def Fits : VariantArrayValue → Prop
  | .boolean v => FitsArray Always v
  | .sByte v => FitsArray Always v
  | .byte v => FitsArray Always v
  | .int16 v => FitsArray Always v
  | .uInt16 v => FitsArray Always v
  | .int32 v => FitsArray Always v
  | .uInt32 v => FitsArray Always v
  | .int64 v => FitsArray Always v
  | .uInt64 v => FitsArray Always v
  | .float v => FitsArray Always v
  | .double v => FitsArray Always v
  | .string v => FitsArray FitsText v
  | .dateTime v => FitsArray Always v
  | .guid v => FitsArray Always v
  | .byteString v => FitsArray FitsLength v
  | .nodeId v => FitsArray NodeId.Fits v
  | .statusCode v => FitsArray Always v

def OnTicks : VariantArrayValue → Prop
  | .dateTime v => ∀ date ∈ v, date.OnTicks
  | _ => True

theorem trips (values : VariantArrayValue) :
    1 + arrayValueSize values = (encodeArrayValue values).length ∧ (values.OnTicks → values.Fits →
        Reads (decode : Decoder Variant) (encodeArrayValue values) (.array values)) := by
  have single {Value : Type} [BinaryEncodable Value] (byte : ∀ item : Value, encodedSize item = 1)
      (v : List Value) : (v.map encodedSize).sum = v.length :=
    (sum_encodedSize byte v).trans (Nat.mul_one _)
  cases values with
  | boolean v => exact trips_array lawful_bool rfl (single (fun _ => rfl) v) fun _ _ _ => trivial
  | sByte v => exact trips_array lawful_int8 rfl (single (fun _ => rfl) v) fun _ _ _ => trivial
  | byte v => exact trips_array lawful_uint8 rfl (single (fun _ => rfl) v) fun _ _ _ => trivial
  | int16 v =>
    exact trips_array lawful_int16 rfl (sum_encodedSize (fun _ => rfl) v) fun _ _ _ => trivial
  | uInt16 v =>
    exact trips_array lawful_uint16 rfl (sum_encodedSize (fun _ => rfl) v) fun _ _ _ => trivial
  | int32 v =>
    exact trips_array lawful_int32 rfl (sum_encodedSize (fun _ => rfl) v) fun _ _ _ => trivial
  | uInt32 v | float v | statusCode v =>
    exact trips_array lawful_uint32 rfl (sum_encodedSize (fun _ => rfl) v) fun _ _ _ => trivial
  | int64 v =>
    exact trips_array lawful_int64 rfl (sum_encodedSize (fun _ => rfl) v) fun _ _ _ => trivial
  | uInt64 v | double v =>
    exact trips_array lawful_uint64 rfl (sum_encodedSize (fun _ => rfl) v) fun _ _ _ => trivial
  | dateTime v => exact trips_array lawful_dateTime rfl (sum_encodedSize (fun _ => rfl) v) id
  | guid v =>
    exact trips_array lawful_uuid rfl (sum_encodedSize (fun _ => rfl) v) fun _ _ _ => trivial
  | string => exact trips_array lawful_string rfl rfl fun _ _ _ => trivial
  | byteString => exact trips_array lawful_byteString rfl rfl fun _ _ _ => trivial
  | nodeId => exact trips_array lawful rfl rfl fun _ _ _ => trivial

theorem yields_decodeArrayVariant (typeId : UInt8) :
    Yields (decodeArrayVariant typeId) fun result => ∃ values : VariantArrayValue,
      result = .array values ∧ values.Fits := by
  unfold decodeArrayVariant
  split
  · exact yields_arrayAs lawful_bool fun _ => id
  · exact yields_arrayAs lawful_int8 fun _ => id
  · exact yields_arrayAs lawful_uint8 fun _ => id
  · exact yields_arrayAs lawful_int16 fun _ => id
  · exact yields_arrayAs lawful_uint16 fun _ => id
  · exact yields_arrayAs lawful_int32 fun _ => id
  · exact yields_arrayAs lawful_uint32 fun _ => id
  · exact yields_arrayAs lawful_int64 fun _ => id
  · exact yields_arrayAs lawful_uint64 fun _ => id
  · exact yields_arrayAs lawful_uint32 fun _ => id
  · exact yields_arrayAs lawful_uint64 fun _ => id
  · exact yields_arrayAs lawful_string fun _ => id
  · exact yields_arrayAs lawful_dateTime fun _ => id
  · exact yields_arrayAs lawful_uuid fun _ => id
  · exact yields_arrayAs lawful_byteString fun _ => id
  · exact yields_arrayAs lawful fun _ => id
  · exact yields_arrayAs lawful_uint32 fun _ => id
  · exact Yields.fail _

end VariantArrayValue

variable (self : Variant)

namespace Variant

/-- What the decoder can return. -/
def Decodable : Variant → Prop
  | .string s => FitsText s
  | .byteString bs => FitsLength bs
  | .nodeId n => n.Fits
  | .scalar _ => False
  | .array av => av.Fits
  | _ => True

/-- The texts, byte strings and arrays fit an `i32` length, and it is no XML element. -/
def Fits (self : Variant) : Prop := self.unwrapped.Decodable

def DatesOnTicks : Variant → Prop
  | .dateTime date => date.OnTicks
  | .array av => av.OnTicks
  | _ => True

def OnTicks (self : Variant) : Prop := self.unwrapped.DatesOnTicks

theorem trips : ((∀ sv, self ≠ .scalar sv) → encodedSize self = (encode self).length) ∧
    (self.DatesOnTicks → self.Decodable → Reads (decode : Decoder Variant) (encode self) self) := by
  cases self with
  | boolean => exact trips_scalar lawful_bool rfl
  | sByte => exact trips_scalar lawful_int8 rfl
  | byte => exact trips_scalar lawful_uint8 rfl
  | int16 => exact trips_scalar lawful_int16 rfl
  | uInt16 => exact trips_scalar lawful_uint16 rfl
  | int32 => exact trips_scalar lawful_int32 rfl
  | uInt32 | float | statusCode => exact trips_scalar lawful_uint32 rfl
  | int64 => exact trips_scalar lawful_int64 rfl
  | uInt64 | double => exact trips_scalar lawful_uint64 rfl
  | string => exact trips_scalar lawful_string rfl
  | dateTime => exact trips_scalar lawful_dateTime rfl
  | guid => exact trips_scalar lawful_uuid rfl
  | byteString => exact trips_scalar lawful_byteString rfl
  | nodeId => exact trips_scalar lawful rfl
  | null =>
    exact ⟨fun _ => rfl, fun _ _ => (lawful_uint8.reads 0 trivial trivial).lastly (Reads.pure _)⟩
  | scalar sv => exact ⟨fun plain => absurd rfl (plain sv), fun _ fits => fits.elim⟩
  | array av => exact ⟨fun _ => av.trips.1, av.trips.2⟩

theorem encode_unwrapped : encode self = encode self.unwrapped := by
  cases self with
  | scalar sv => cases sv <;> rfl
  | _ => rfl

theorem reads (regular : self.OnTicks) (fits : self.Fits) :
    Reads (decode : Decoder Variant) (encode self) self.unwrapped := by
  rw [self.encode_unwrapped]
  exact self.unwrapped.trips.2 regular fits

theorem yields_decodeScalarVariant (typeId : UInt8) :
    Yields (decodeScalarVariant typeId) Decodable := by
  unfold decodeScalarVariant
  split
  · exact Yields.pure trivial
  · exact lawful_bool.yields.map fun _ => id
  · exact lawful_int8.yields.map fun _ => id
  · exact lawful_uint8.yields.map fun _ => id
  · exact lawful_int16.yields.map fun _ => id
  · exact lawful_uint16.yields.map fun _ => id
  · exact lawful_int32.yields.map fun _ => id
  · exact lawful_uint32.yields.map fun _ => id
  · exact lawful_int64.yields.map fun _ => id
  · exact lawful_uint64.yields.map fun _ => id
  · exact lawful_uint32.yields.map fun _ => id
  · exact lawful_uint64.yields.map fun _ => id
  · exact lawful_string.yields.map fun _ => id
  · exact lawful_dateTime.yields.map fun _ => id
  · exact lawful_uuid.yields.map fun _ => id
  · exact lawful_byteString.yields.map fun _ => id
  · exact lawful.yields.map fun _ => id
  · exact lawful_uint32.yields.map fun _ => id
  · exact Yields.fail _

theorem yields : Yields (decode : Decoder Variant) Decodable := by
  apply Yields.after
  intro encoding
  split_ifs
  · intro data result rest returned
    obtain ⟨values, same, fits⟩ :=
      VariantArrayValue.yields_decodeArrayVariant _ data result rest returned
    rw [same]
    exact fits
  · exact yields_decodeScalarVariant _

theorem encodedSize_unwrapped : encodedSize self = encodedSize self.unwrapped := by
  cases self with
  | scalar sv => cases sv <;> rfl
  | _ => rfl

theorem size : encodedSize self = (encode self).length := by
  cases self with
  | scalar sv =>
    cases sv with
    | xmlElement v => exact size_scalar lawful_string .xmlElement v
    | _ =>
      rw [encode_unwrapped, encodedSize_unwrapped]
      exact (trips _).1 (by simp [unwrapped, VariantScalarValue.unwrapped])
  | _ => exact (trips _).1 (by simp)

end Variant

/-- The bytes are read as the value whatever follows, and their number is known. -/
def RoundTrips {Value : Type} [BinaryEncodable Value] [BinaryDecodable Value]
    (value read : Value) : Prop :=
  (∀ rest, (decode : Decoder Value) (encode value ++ rest) = .ok read rest) ∧
    encodedSize value = (encode value).length

theorem LawfulCodec.roundTrips_iff {Value : Type} [BinaryEncodable Value] [BinaryDecodable Value]
    {Fits : Value → Prop} (lawful : LawfulCodec Value Always Fits) (value : Value) :
    RoundTrips value value ↔ Fits value := by
  constructor
  · intro trip
    exact lawful.yields _ value [] (trip.1 [])
  · intro fits
    exact ⟨lawful.reads value trivial fits, lawful.size value⟩

theorem Variant.roundTrips_iff (regular : self.OnTicks) :
    RoundTrips self self.unwrapped ↔ self.Fits := by
  constructor
  · intro trip
    exact Variant.yields _ self.unwrapped [] (trip.1 [])
  · intro fits
    exact ⟨self.reads regular fits, self.size⟩

/-- A value comes back if its lengths can be written and its type be read. -/
theorem codec_round_trips_iff (id : NodeId) (name : QualifiedName) (text : LocalizedText)
    (object : ExtensionObject) (info : DiagnosticInfo) (variant : Variant)
    (regular : variant.OnTicks) :
    (RoundTrips id id ↔ id.Fits) ∧ (RoundTrips name name ↔ name.Fits) ∧
      (RoundTrips text text ↔ text.Fits) ∧ (RoundTrips object object ↔ object.Fits) ∧
      (RoundTrips info info ↔ info.Fits) ∧
      (RoundTrips variant variant.unwrapped ↔ variant.Fits) :=
  ⟨lawful.roundTrips_iff id, QualifiedName.lawful.roundTrips_iff name,
    LocalizedText.lawful.roundTrips_iff text, ExtensionObject.lawful.roundTrips_iff object,
    DiagnosticInfo.lawful.roundTrips_iff info, variant.roundTrips_iff regular⟩

theorem epoch_round_trips : Variant.OnTicks (.scalar (.dateTime .unixEpoch)) ∧
      RoundTrips (Variant.scalar (.dateTime .unixEpoch)) (.dateTime .unixEpoch) := by
  have regular : Variant.OnTicks (.scalar (.dateTime .unixEpoch)) := unixEpoch_onTicks
  obtain ⟨_, _, _, _, _, trip⟩ := codec_round_trips_iff (.numeric 0 85) ⟨0, "Objects"⟩
    ⟨"en", "Objects"⟩ ⟨.numeric 0 0, none⟩ ⟨none, none, none, none, none, none, none⟩ _ regular
  exact ⟨regular, trip.mpr trivial⟩

/-- The decoder does not know a type that the encoder writes. -/
theorem xml_element_not_read_back : encode (Variant.scalar (.xmlElement "")) = [16, 0, 0, 0, 0] ∧
      (decode : Decoder Variant) [16, 0, 0, 0, 0] =
        .err (.codec "Unsupported variant type: 16") [0, 0, 0, 0] := by
  exact ⟨rfl, rfl⟩

def dimensionsBit : UInt8 := 0x40

def withDimensions (encoding : UInt8) (elements : Bytes) : Option (List Int32) → Bytes
  | none => encode encoding ++ elements
  | some dimensions => encode (encoding ||| dimensionsBit) ++ (elements ++ encodeArray dimensions)

theorem decode_dimensionsBit (encoding : UInt8) (data : Bytes) :
    (decode : Decoder Variant) (encode (encoding ||| dimensionsBit) ++ data) =
      (decode : Decoder Variant) (encode encoding ++ data) := by
  have masks : ∀ byte : Fin 256,
      (UInt8.ofNat byte ||| dimensionsBit) &&& arrayBit = UInt8.ofNat byte &&& arrayBit ∧
        (UInt8.ofNat byte ||| dimensionsBit) &&& 0x3F = UInt8.ofNat byte &&& 0x3F := by
    decide +kernel
  obtain ⟨array, typeId⟩ := masks ⟨encoding.toNat, encoding.toNat_lt⟩
  rw [UInt8.ofNat_toNat] at array typeId
  show ((decode : Decoder UInt8) >>= _) _ = ((decode : Decoder UInt8) >>= _) _
  rw [bind_ok (lawful_uint8.reads _ trivial trivial data),
    bind_ok (lawful_uint8.reads _ trivial trivial data), array, typeId]

/-- What follows is read from the right position only where there are no dimensions. -/
theorem array_consumed_iff {encoding : UInt8} {elements : Bytes} {values : VariantArrayValue}
    (array : Reads (decode : Decoder Variant) (encode encoding ++ elements) (.array values))
    (dimensions : Option (List Int32)) :
    Reads (decode : Decoder Variant) (withDimensions encoding elements dimensions)
      (.array values) ↔ dimensions = none := by
  cases dimensions with
  | none => exact iff_of_true array rfl
  | some dimensions =>
    refine iff_of_false ?_ (Option.some_ne_none _)
    intro reads
    have left := array (encodeArray dimensions)
    rw [List.append_assoc, ← decode_dimensionsBit] at left
    have whole := reads []
    rw [List.append_nil, withDimensions, left] at whole
    have some := encodeArray_length lawful_int32 dimensions
    rw [(Outcome.ok.inj whole).2, List.length_nil] at some
    omega

theorem plain_array_consumed :
    Reads (decode : Decoder Variant) (withDimensions 0x81 [2, 0, 0, 0, 1, 0] none)
      (.array (.boolean [true, false])) := by
  have array := (VariantArrayValue.trips (.boolean [true, false])).2 trivial ⟨by decide, by simp⟩
  exact (@array_consumed_iff 0x81 [2, 0, 0, 0, 1, 0] _ array none).mpr rfl

/-- Four flags in two rows. -/
theorem dimensions_left_behind : (decode : Decoder Variant)
        (withDimensions 0x81 [4, 0, 0, 0, 1, 0, 0, 1] (some [2, 2]) ++ [7]) =
      .ok (.array (.boolean [true, false, false, true]))
        [2, 0, 0, 0, 2, 0, 0, 0, 2, 0, 0, 0, 7] := rfl

end Mabinogion.Opcua
