import Mabinogion.Bacnet.ObjectTraits
import Mathlib.Data.UInt

/-!
# File objects

The properties of a file. Its octets or records are read and written by the file
services.
-/

namespace Mabinogion.Bacnet

inductive FileAccessMethod where
  | recordAccess | streamAccess

def FileAccessMethod.code : FileAccessMethod → UInt32
  | .recordAccess => 0
  | .streamAccess => 1

structure FileObject extends ObjectFields where
  accessMethod : FileAccessMethod
  readOnly : Bool
  fileData : List UInt8
  records : List (List UInt8)
  modificationCount : UInt64
  fileType : String

namespace FileObject

def withAccessMethod (instanceNumber : UInt32) (name : String) (accessMethod : FileAccessMethod) :
    FileObject where
  id := ⟨.file, instanceNumber⟩
  name
  description := ""
  properties := .ofList [(.eventState, .enumerated 0), (.reliability, .enumerated 0)]
  outOfService := false
  accessMethod
  readOnly := false
  fileData := []
  records := []
  modificationCount := 0
  fileType := "application/octet-stream"

def new (instanceNumber : UInt32) (name : String) : FileObject :=
  withAccessMethod instanceNumber name .streamAccess

variable (file : FileObject)

/-- The sizes of records are added as `u32`. -/
def fileSize : UInt32 :=
  match file.accessMethod with
  | .streamAccess => UInt32.ofNat file.fileData.length
  | .recordAccess => (file.records.map fun record => UInt32.ofNat record.length).sum

def readProperty : PropertyId → ReadResult
  | .fileType => .ok (.characterString file.fileType)
  | .fileSize => .ok (.unsigned file.fileSize)
  | .fileAccessMethod => .ok (.enumerated file.accessMethod.code)
  | .readOnly => .ok (.boolean file.readOnly)
  | .recordCount => .ok (.unsigned (UInt32.ofNat file.records.length))
  | .modificationDate => .ok (.unsigned64 file.modificationCount)
  | propertyId => file.readShared .file propertyId

/-- A description is stored as an override, which no read consults. -/
def writeProperty (propertyId : PropertyId) (value : BACnetValue) : WriteResult FileObject :=
  match propertyId with
  | .fileSize | .fileAccessMethod | .recordCount | .modificationDate =>
    refused file (.readOnly propertyId)
  | .description => setField file propertyId value.asString fun text =>
    { file with properties := file.properties.set propertyId (.characterString text) }
  | .fileType => setField file propertyId value.asString fun text => { file with fileType := text }
  | .readOnly => setField file propertyId value.asBool fun flag => { file with readOnly := flag }
  | _ => within (fun fields => { file with toObjectFields := fields })
      (file.writeShared propertyId value)

instance : BACnetObject FileObject where
  objectIdentifier := (·.id)
  objectName := (·.name)
  readProperty
  writeProperty

end FileObject

end Mabinogion.Bacnet
