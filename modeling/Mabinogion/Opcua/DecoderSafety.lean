import Mabinogion.Opcua.DataValueCodec
import Mabinogion.Opcua.TransportCodec

/-!
# Decoders stay inside

Every decoder looks at the length before it takes, so that none panics, and what it leaves is
a suffix. The arithmetic on ticks stays within an `i64`.
-/

namespace Mabinogion.Opcua

open Checked ByteCursor MessageHeader NodeId

/-- The decoder of the type does not panic and leaves a suffix of its input. -/
class SafeDecodable (Value : Type) [BinaryDecodable Value] : Prop where
  inside : StaysInside (decode : Decoder Value)

open SafeDecodable (inside)

theorem ensureRemaining_err {n : Nat} {data : Bytes} (short : data.length < n) :
    ensureRemaining n data = .err (.codec ("Not enough data: need " ++ toString n ++
      " bytes, have " ++ toString data.length)) data :=
  failIf_err data _ (decide_eq_true short)

theorem ensureRemaining_ahead (n : Nat) (whole : Bytes) :
    Triple (Ahead whole 0) (ensureRemaining n) (fun _ => Ahead whole n) (Ahead whole 0) := by
  intro data ahead
  by_cases enough : n ≤ data.length
  · rw [ensureRemaining_ok enough]
    exact ⟨enough, ahead.2⟩
  · rw [ensureRemaining_err (Nat.not_le.mp enough)]
    exact ahead

section

variable {Value : Type}

theorem inside_ensured {n : Nat} {read : Decoder Value}
    (reads : ∀ whole, Triple (Ahead whole n) read (fun _ => Ahead whole 0) (Ahead whole 0)) :
    StaysInside (ensureRemaining n >>= fun _ => read) :=
  .guarded (ensureRemaining_ahead n) reads

theorem inside_fixedWidth (width : Nat) (ofNat : Nat → Value) :
    StaysInside (fixedWidthDecodable width ofNat).decode := by
  apply inside_ensured
  intro whole
  exact (getLe_ahead width 0).bind fun _ => .pure fun _ ahead => ahead

theorem inside_fieldOr {absent : Value} {read : Decoder Value} (present : Bool)
    (inside : StaysInside read) : StaysInside (fieldOr present absent read) := by
  cases present with
  | false => exact StaysInside.pure absent
  | true => exact inside

end

instance : SafeDecodable Int8 := ⟨inside_fixedWidth 1 _⟩

instance : SafeDecodable UInt8 := ⟨inside_fixedWidth 1 _⟩

instance : SafeDecodable Int16 := ⟨inside_fixedWidth 2 _⟩

instance : SafeDecodable UInt16 := ⟨inside_fixedWidth 2 _⟩

instance : SafeDecodable Int32 := ⟨inside_fixedWidth 4 _⟩

instance : SafeDecodable UInt32 := ⟨inside_fixedWidth 4 _⟩

instance : SafeDecodable Int64 := ⟨inside_fixedWidth 8 _⟩

instance : SafeDecodable UInt64 := ⟨inside_fixedWidth 8 _⟩

instance : SafeDecodable Bool where
  inside := inside_ensured fun _ => (getU8_ahead 0).bind fun _ => .pure fun _ ahead => ahead

section

variable {Value : Type}

theorem inside_lengthPrefixed {empty : Value} {body : Nat → Decoder Value}
    (behind : ∀ length, StaysInside (body length)) : StaysInside (lengthPrefixed empty body) := by
  apply inside.bind
  intro len
  exact .ite (fun _ => .pure empty) fun _ => behind _

theorem inside_decodeBytes : StaysInside decodeBytes := by
  apply inside_lengthPrefixed
  intro len
  exact inside_ensured fun _ => copyToSlice_ahead len 0

theorem inside_decodeArray [BinaryDecodable Value] [SafeDecodable Value] :
    StaysInside (decodeArray : Decoder (List Value)) :=
  inside_lengthPrefixed fun len => inside.readMany len

end

instance : SafeDecodable Bytes := ⟨inside_decodeBytes⟩

instance : SafeDecodable String where
  inside := inside_decodeBytes.bind fun _ => .liftOption _ _

theorem checkedI64_eq {result : Int} (above : -2 ^ 63 ≤ result) (below : result < 2 ^ 63) :
    checkedI64 result = pure result :=
  if_pos ⟨above, below⟩

theorem checkedI64_nanos (unixTicks : Int) :
    checkedI64 (unixTicks.tmod 10000000 * 100) = pure (unixTicks.tmod 10000000 * 100) := by
  have positive : (0 : Int) < 10000000 := by decide
  have below := Int.tmod_lt_of_pos unixTicks positive
  have above := Int.lt_tmod_of_pos unixTicks positive
  apply checkedI64_eq
  · omega
  · omega

theorem checkedI64_unixTicks {ticks : Int64} (positive : ¬ticks ≤ 0) :
    checkedI64 (ticks.toInt - filetimeUnixDiff) = pure (ticks.toInt - filetimeUnixDiff) := by
  have above : 0 < ticks.toInt := by
    rw [Int64.le_iff_toInt_le] at positive
    exact Int.not_le.mp positive
  have below := ticks.toInt_lt
  rw [filetimeUnixDiff]
  apply checkedI64_eq
  · omega
  · omega

instance : SafeDecodable DateTime where
  inside := by
    apply inside.bind
    intro ticks
    apply StaysInside.ite
    · intro _
      exact .pure _
    · intro positive
      rw [checkedI64_unixTicks positive, return_bind, checkedI64_nanos, return_bind]
      exact .liftOption _ _

instance : SafeDecodable Uuid where
  inside := by
    apply inside_ensured
    intro whole
    apply (getLe_ahead 4 12).bind
    intro d1
    apply (getLe_ahead 2 10).bind
    intro d2
    apply (getLe_ahead 2 8).bind
    intro d3
    apply (copyToSlice_ahead 8 0).bind
    intro d4
    exact .pure fun _ ahead => ahead

variable (codec : OpcUaTransportCodec) (encoding typeId : UInt8)

theorem NodeId.inside_decodeForm : StaysInside (decodeForm encoding) := by
  have full {Value : Type} [BinaryDecodable Value] [SafeDecodable Value]
      (make : UInt16 → Value → NodeId) : StaysInside (do
        let ns ← decode
        let value ← decode
        pure (make ns value)) :=
    inside.bind fun ns => inside.map (make ns)
  unfold decodeForm
  split
  · exact inside.map _
  · exact inside.bind fun _ => inside.map _
  · exact full numeric
  · exact full string
  · exact full guid
  · exact full byteString
  · exact .fail _

instance : SafeDecodable NodeId where
  inside := StaysInside.rest.bind fun _ => (StaysInside.failIf _ _).bind fun _ =>
    inside.bind NodeId.inside_decodeForm

instance : SafeDecodable QualifiedName where
  inside := inside.bind fun _ => inside.map _

instance : SafeDecodable LocalizedText where
  inside := inside.bind fun _ => (inside_fieldOr _ inside).bind fun _ =>
    (inside_fieldOr _ inside).map _

instance : SafeDecodable StatusCode where
  inside := inside.map _

theorem ExtensionObject.inside_decodeBody : StaysInside (decodeBody encoding) := by
  unfold decodeBody
  split
  · exact .pure none
  · exact inside.map some
  · exact inside.map fun xml : String => some (Utf8.octets xml)
  · exact .fail _

instance : SafeDecodable ExtensionObject where
  inside := inside.bind fun _ => inside.bind fun encoding =>
    (ExtensionObject.inside_decodeBody encoding).map _

section

variable {Value : Type} [BinaryDecodable Value] [SafeDecodable Value]

theorem inside_decodeAs (make : Value → Variant) : StaysInside (decodeAs make) :=
  inside.map make

theorem inside_decodeArrayAs (make : List Value → VariantArrayValue) :
    StaysInside (decodeArrayAs make) :=
  inside_decodeArray.map fun values => Variant.array (make values)

end

theorem inside_decodeScalarVariant : StaysInside (decodeScalarVariant typeId) := by
  unfold decodeScalarVariant
  split
  · exact .pure Variant.null
  all_goals first
    | exact inside_decodeAs _
    | exact .fail _

theorem inside_decodeArrayVariant : StaysInside (decodeArrayVariant typeId) := by
  unfold decodeArrayVariant
  split
  all_goals first
    | exact inside_decodeArrayAs _
    | exact .fail _

instance : SafeDecodable Variant where
  inside := inside.bind fun _ =>
    .ite (fun _ => inside_decodeArrayVariant _) fun _ => inside_decodeScalarVariant _

theorem DataValue.inside_decodeAt (now : DateTime) : StaysInside (decodeAt now) := by
  apply inside.bind
  intro mask
  apply (StaysInside.optionally _ inside).bind
  intro value
  apply (inside_fieldOr _ inside).bind
  intro status
  apply (StaysInside.optionally _ inside).bind
  intro sourceTimestamp
  apply (inside_fieldOr _ inside).bind
  intro sourcePicoseconds
  apply (StaysInside.optionally _ inside).bind
  intro serverTimestamp
  exact (inside_fieldOr _ inside).map _

instance : SafeDecodable HelloMessage where
  inside := inside.bind fun _ => inside.bind fun _ =>
    inside.bind fun _ => inside.bind fun _ =>
    inside.bind fun _ => inside.map _

theorem OpcUaTransportCodec.inside_decodeBody (header : MessageHeader) {whole src : Bytes}
    (ahead : Ahead whole 0 src) :
    (codec.decodeBody header src src).Ends (fun _ => Ahead whole 0) (Ahead whole 0) := by
  by_cases sized : size ≤ header.messageSize.toNat
  · by_cases allowed : header.messageSize.toNat ≤ codec.maxMessageSize.toNat
    · by_cases complete : header.messageSize.toNat ≤ src.length
      · rw [decodeBody_complete codec sized allowed complete]
        exact ⟨Nat.zero_le _, (List.drop_suffix _ src).trans ahead.2⟩
      · rw [decodeBody_waiting codec sized allowed (Nat.not_le.mp complete)]
        exact ahead
    · rw [decodeBody_large codec sized (Nat.not_le.mp allowed)]
      exact ahead
  · rw [decodeBody_small codec (Nat.not_le.mp sized)]
    exact ahead

theorem OpcUaTransportCodec.inside_decode : StaysInside codec.decode := by
  intro whole src ahead
  by_cases short : src.length < size
  · rw [decode_short codec short]
    exact ahead
  · obtain ⟨result, parsed⟩ := decode_result (src.take size)
    rw [decode_long codec (Nat.not_lt.mp short), parsed]
    cases result with
    | error => exact ahead
    | ok header => exact codec.inside_decodeBody header ahead

/-- A value with a suffix of the input behind it, or an error: no read beyond the end. -/
def NeverPanics {Value : Type} (decoder : Decoder Value) : Prop :=
  ∀ input, (∃ value rest, decoder input = .ok value rest ∧ rest <:+ input) ∨
    ∃ error rest, decoder input = .err error rest

theorem decoders_never_panic (now : DateTime) (codec : OpcUaTransportCodec) :
    NeverPanics (decode : Decoder NodeId) ∧ NeverPanics (decode : Decoder String) ∧
      NeverPanics (decode : Decoder Bytes) ∧ NeverPanics (decode : Decoder DateTime) ∧
      NeverPanics (decode : Decoder Uuid) ∧ NeverPanics (decode : Decoder Variant) ∧
      NeverPanics (DataValue.decodeAt now) ∧ NeverPanics (decode : Decoder LocalizedText) ∧
      NeverPanics (decode : Decoder QualifiedName) ∧
      NeverPanics (decode : Decoder ExtensionObject) ∧
      NeverPanics (decode : Decoder HelloMessage) ∧
      (∀ buf : Bytes, (∃ header, MessageHeader.decode buf () = .ok header ()) ∨
        ∃ error, MessageHeader.decode buf () = .err error ()) ∧
      NeverPanics codec.decode := by
  have header (buf : Bytes) : (∃ header, MessageHeader.decode buf () = .ok header ()) ∨
      ∃ error, MessageHeader.decode buf () = .err error () := by
    obtain ⟨result, known⟩ := decode_result buf
    rw [known]
    cases result with
    | ok header => exact Or.inl ⟨header, rfl⟩
    | error error => exact Or.inr ⟨error, rfl⟩
  exact ⟨inside.returns, inside.returns, inside.returns,
    inside.returns, inside.returns, inside.returns,
    (DataValue.inside_decodeAt now).returns, inside.returns,
    inside.returns, inside.returns, inside.returns,
    header, codec.inside_decode.returns⟩

end Mabinogion.Opcua
