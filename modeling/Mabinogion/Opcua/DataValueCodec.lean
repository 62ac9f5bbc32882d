import Mabinogion.Opcua.VariantRoundTrip

/-!
# The binary codec: data values

A mask of the fields comes first. The decoder starts from a constructor that stamps a present
value with the current time, and a timestamp that was absent is not taken away again.
-/

namespace Mabinogion.Opcua

open Checked ByteCursor

namespace DataValue

def hasValue : UInt8 := 0x01

def hasStatus : UInt8 := 0x02

def hasSourceTimestamp : UInt8 := 0x04

def hasServerTimestamp : UInt8 := 0x08

def hasSourcePicoseconds : UInt8 := 0x10

def hasServerPicoseconds : UInt8 := 0x20

def mask (self : DataValue) : UInt8 :=
  flag self.value.isSome hasValue ||| flag (self.status.raw != 0) hasStatus |||
    flag self.sourceTimestamp.isSome hasSourceTimestamp |||
    flag self.serverTimestamp.isSome hasServerTimestamp |||
    flag (self.sourcePicoseconds != 0) hasSourcePicoseconds |||
    flag (self.serverPicoseconds != 0) hasServerPicoseconds

end DataValue

open DataValue in
instance : BinaryEncodable DataValue where
  encode self :=
    encode self.mask ++ (written encode self.value ++
      ((if self.mask &&& hasStatus != 0 then encode self.status else []) ++
      (written encode self.sourceTimestamp ++
      ((if self.mask &&& hasSourcePicoseconds != 0 then encode self.sourcePicoseconds else []) ++
      (written encode self.serverTimestamp ++
      (if self.mask &&& hasServerPicoseconds != 0 then encode self.serverPicoseconds else []))))))
  encodedSize self :=
    1 + (self.value.map encodedSize).getD 0 + (if self.status.raw != 0 then 4 else 0) +
      (if self.sourceTimestamp.isSome then 8 else 0) +
      (if self.sourcePicoseconds != 0 then 2 else 0) +
      (if self.serverTimestamp.isSome then 8 else 0) +
      (if self.serverPicoseconds != 0 then 2 else 0)

namespace DataValue

/-- The result of the decoder from the fields that it has read. -/
def rebuild (now : DateTime) (value : Option Variant) (status : StatusCode)
    (sourceTimestamp : Option DateTime) (sourcePicoseconds : UInt16)
    (serverTimestamp : Option DateTime) (serverPicoseconds : UInt16) : DataValue :=
  let dv := match value with
    | some value => withStatus now value status
    | none => { null with status }
  let dv := match sourceTimestamp with
    | some ts => { dv with sourceTimestamp := some ts }
    | none => dv
  let dv := if sourcePicoseconds != 0 then { dv with sourcePicoseconds } else dv
  let dv := match serverTimestamp with
    | some ts => { dv with serverTimestamp := some ts }
    | none => dv
  if serverPicoseconds != 0 then { dv with serverPicoseconds } else dv

def decodeAt (now : DateTime) : Decoder DataValue := do
  let mask ← (decode : Decoder UInt8)
  let value ← optionally (mask &&& hasValue != 0) decode
  let status ← fieldOr (mask &&& hasStatus != 0) .good decode
  let sourceTimestamp ← optionally (mask &&& hasSourceTimestamp != 0) decode
  let sourcePicoseconds ← fieldOr (mask &&& hasSourcePicoseconds != 0) 0 decode
  let serverTimestamp ← optionally (mask &&& hasServerTimestamp != 0) decode
  let serverPicoseconds ← fieldOr (mask &&& hasServerPicoseconds != 0) 0 decode
  pure (rebuild now value status sourceTimestamp sourcePicoseconds serverTimestamp
    serverPicoseconds)

variable (now : DateTime) (self : DataValue)

theorem mask_bits :
    (self.mask &&& hasValue != 0) = self.value.isSome ∧ (self.mask &&& hasStatus != 0) =
      (self.status.raw != 0) ∧ (self.mask &&& hasSourceTimestamp != 0) =
      self.sourceTimestamp.isSome ∧ (self.mask &&& hasServerTimestamp != 0) =
      self.serverTimestamp.isSome ∧ (self.mask &&& hasSourcePicoseconds != 0) =
      (self.sourcePicoseconds != 0) ∧ (self.mask &&& hasServerPicoseconds != 0) =
      (self.serverPicoseconds != 0) := by
  unfold mask
  generalize self.value.isSome = value
  generalize (self.status.raw != 0) = status
  generalize self.sourceTimestamp.isSome = sourceTimestamp
  generalize self.serverTimestamp.isSome = serverTimestamp
  generalize (self.sourcePicoseconds != 0) = sourcePicoseconds
  generalize (self.serverPicoseconds != 0) = serverPicoseconds
  revert value status sourceTimestamp serverTimestamp sourcePicoseconds serverPicoseconds
  decide

/-- What the decoder makes of the value: an absent timestamp beside a present value is the
current time. -/
def stamped (now : DateTime) (self : DataValue) : DataValue :=
  { self with
    sourceTimestamp := self.sourceTimestamp.or (self.value.map fun _ => now)
    serverTimestamp := self.serverTimestamp.or (self.value.map fun _ => now) }

theorem rebuild_fields :
    rebuild now self.value self.status self.sourceTimestamp self.sourcePicoseconds
      self.serverTimestamp self.serverPicoseconds = self.stamped now := by
  obtain ⟨value, status, sourceTimestamp, sourcePicoseconds, serverTimestamp,
    serverPicoseconds⟩ := self
  by_cases source : sourcePicoseconds = 0 <;> by_cases server : serverPicoseconds = 0 <;>
    cases value <;> cases sourceTimestamp <;> cases serverTimestamp <;>
    simp [rebuild, stamped, withStatus, null, source, server]

theorem stamped_eq_iff : self.stamped now = self ↔
      (self.value.isSome → self.sourceTimestamp.isSome ∧ self.serverTimestamp.isSome) := by
  obtain ⟨value, status, sourceTimestamp, sourcePicoseconds, serverTimestamp,
    serverPicoseconds⟩ := self
  cases value <;> cases sourceTimestamp <;> cases serverTimestamp <;> simp [stamped]

theorem reads_nonzero {Value : Type} [BinaryEncodable Value] [BinaryDecodable Value]
    {Regular Fits : Value → Prop} (lawful : LawfulCodec Value Regular Fits) {value absent : Value}
    {present : Bool} (regular : Regular value) (fits : Fits value)
    (zero : present = false → value = absent) :
    Reads (fieldOr present absent decode) (if present then encode value else []) value := by
  cases present with
  | false =>
    rw [zero rfl]
    exact reads_fieldOr_absent
  | true => exact lawful.reads value regular fits

/-- The variant reads back, and the timestamps are whole ticks from 1970 on and before 2262. -/
structure Regular (dv : DataValue) : Prop where
  variant : ∀ v ∈ dv.value, Reads (decode : Decoder Variant) (encode v) v
  source : ∀ ts ∈ dv.sourceTimestamp, ts.OnTicks
  server : ∀ ts ∈ dv.serverTimestamp, ts.OnTicks

theorem reads_stamped {dv : DataValue} (regular : dv.Regular) (now : DateTime) :
    Reads (decodeAt now) (encode dv) (dv.stamped now) := by
  obtain ⟨value, status, source, server, sourcePico, serverPico⟩ := dv.mask_bits
  have good : (dv.status.raw != 0) = false → dv.status = .good := by
    intro zero
    exact congrArg StatusCode.mk (bne_eq_false_iff_eq.mp zero)
  have dates (field : Option DateTime) (ticks : ∀ ts ∈ field, ts.OnTicks) :
      Reads (optionally field.isSome decode) (written encode field) field :=
    reads_optionally fun ts member => lawful_dateTime.reads ts (ticks ts member) trivial
  rw [← rebuild_fields]
  apply (lawful_uint8.reads dv.mask trivial trivial).bind
  simp only [value, status, source, server, sourcePico, serverPico]
  apply (reads_optionally regular.variant).bind
  apply (reads_nonzero StatusCode.lawful trivial trivial good).bind
  apply (dates dv.sourceTimestamp regular.source).bind
  apply (reads_nonzero lawful_uint16 trivial trivial bne_eq_false_iff_eq.mp).bind
  apply (dates dv.serverTimestamp regular.server).bind
  apply Reads.lastly (reads_nonzero lawful_uint16 trivial trivial bne_eq_false_iff_eq.mp)
  exact Reads.pure _

/-- A value without both timestamps does not come back. -/
theorem data_value_round_trips_iff (now : DateTime) (dv : DataValue) (regular : dv.Regular) :
    (∀ rest, decodeAt now (encode dv ++ rest) = .ok dv rest) ↔
      (dv.value.isSome → dv.sourceTimestamp.isSome ∧ dv.serverTimestamp.isSome) := by
  rw [← stamped_eq_iff now]
  have reads := reads_stamped regular now
  constructor
  · intro trip
    exact (Outcome.ok.inj ((reads []).symm.trans (trip []))).1
  · intro same
    rwa [same] at reads

theorem stamped_value_round_trips : (DataValue.new .unixEpoch (.boolean true)).Regular ∧
      ∀ rest, decodeAt .unixEpoch (encode (DataValue.new .unixEpoch (.boolean true)) ++ rest) =
        .ok (.new .unixEpoch (.boolean true)) rest := by
  have regular : (DataValue.new .unixEpoch (.boolean true)).Regular := by
    constructor
    · intro v member
      cases member
      exact (Variant.trips (.boolean true)).2 trivial trivial
    · intro ts member
      cases member
      exact unixEpoch_onTicks
    · intro ts member
      cases member
      exact unixEpoch_onTicks
  exact ⟨regular, (data_value_round_trips_iff _ _ regular).mpr fun _ => ⟨rfl, rfl⟩⟩

/-- The decoder stamps the value with its own time. -/
theorem missing_timestamps_invented :
    decodeAt .unixEpoch (encode (⟨some (.boolean true), .good, none, 0, none, 0⟩ : DataValue)) =
      .ok ⟨some (.boolean true), .good, some .unixEpoch, 0, some .unixEpoch, 0⟩ [] := by
  rfl

end DataValue

end Mabinogion.Opcua
