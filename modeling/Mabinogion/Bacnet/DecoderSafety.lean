import Mabinogion.Bacnet.PropertyFormat
import Mabinogion.Bacnet.ReadRange
import Mabinogion.Bacnet.SubscribeCov
import Mabinogion.Bacnet.FileAccess
import Mabinogion.Bacnet.CreateObject

/-!
# Panics of the service decoders

ReadProperty, ReadPropertyMultiple, ReadRange and SubscribeCOVProperty return for every byte
string. The others panic exactly where a request is well formed up to a faulty value.
-/

namespace Mabinogion.Bacnet

open Checked ApduDecoder PropertyService WritePropertyMultipleHandler AtomicWriteFileRequest

/-- Each decoder returns unless its request is well formed up to a faulty value. -/
theorem service_decoders_return_iff (data : Bytes) : decodeReadProperty data ≠ none ∧
    (decodeWriteProperty data ≠ none ↔ ¬PropertyService.WritePropertyFaulty data) ∧
    ReadPropertyMultipleHandler.decodeRequest data ≠ none ∧
    (decodeRequest data ≠ none ↔ ¬WritePropertyMultipleHandler.RequestFaulty data) ∧
    ReadRangeRequest.decode data ≠ none ∧
    (AtomicReadFileRequest.decode data ≠ none ↔ ¬FileAccess.RequestFaulty data) ∧
    (decode data ≠ none ↔ ¬FileAccess.RequestFaulty data) ∧
    (CreateObject.decodeCreateObjectRequest data ≠ none ↔ ¬CreateObject.RequestFaulty data) ∧
    SubscribeCov.decodeSubscribeCovProperty data ≠ none := by
  exact ⟨orderly_readProperty.returns _, not_congr (faultsOn_writeProperty.returned_none [] data),
    ReadPropertyMultipleHandler.orderly_readPropertyMultiple.returns _,
    not_congr (faultsOn_writePropertyMultiple.returned_none [] data),
    ReadRangeRequest.decode_returns data,
    not_congr (AtomicReadFileRequest.decode_faults_iff data),
    not_congr (decode_faults_iff data),
    not_congr (CreateObject.faultsOn_createObject.returned_none [] data),
    SubscribeCov.orderly_subscribeCovProperty.returns _⟩

/-- A signed value and a file position without bytes, and bit strings of no bits
of which one is unused. -/
theorem empty_signed_and_bit_string_panic : decodeWriteProperty
      [0x0C, 0, 0, 0, 1, 0x19, 85, 0x3E, 0x30, 0x3F] = none ∧
    decodeWriteProperty [0x0C, 0, 0, 0, 1, 0x19, 85, 0x3E, 0x81, 1, 0x3F] = none ∧
    decodeRequest [0x0C, 0, 0, 0, 1, 0x1E, 0x09, 85, 0x2E, 0x30, 0x2F, 0x1F] = none ∧
    AtomicReadFileRequest.decode [0xC4, 2, 0x80, 0, 1, 0x0E, 0x30, 0x21, 1, 0x0F] = none ∧
    decode [0xC4, 2, 0x80, 0, 1, 0x0E, 0x30, 0x61, 7, 0x0F] = none ∧
    CreateObject.decodeCreateObjectRequest
      [0x0E, 0x09, 0, 0x0F, 0x1E, 0x09, 85, 0x2E, 0x81, 1, 0x2F, 0x1F] = none :=
  ⟨rfl, rfl, rfl, rfl, rfl, rfl⟩

end Mabinogion.Bacnet
