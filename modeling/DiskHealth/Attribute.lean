import DiskHealth.Quantity
import DiskHealth.Text.Blank

/-!
The closed catalog of recognized health attributes. Each has a canonical name, a quantity that it
measures, a rule by which it is judged and, for those frozen at discovery, a flag. Tabular telemetry
names an attribute by a numeric code (`Attribute.ofCode?`). Names are distinct, so a name gives back
its attribute (`ofName?_name`).
-/

namespace DiskHealth

/-- A recognized health attribute. -/
inductive Attribute where
  | reallocatedSectors
  | powerOnHours
  | spinRetries
  | powerCycles
  | endToEndErrors
  | uncorrectableErrors
  | commandTimeoutCounter
  | temperature
  | reallocatedEvents
  | pendingSectors
  | udmaCrcErrors
  | crcErrors
  | criticalWarning
  | mediaAndDataIntegrityErrors
  | availableSpare
  | percentageUsed
  | errorInformationLogEntries
  | dataUnitsRead
  | dataUnitsWritten
  deriving DecidableEq, Repr

/-- The rule by which an attribute is judged. -/
inductive Policy where
  /-- Critical above the value at discovery. -/
  | growth
  /-- Critical below the spare threshold of the same reading. -/
  | spareThreshold
  /-- Like growth, but a normalized pair of the same reading has the last word. -/
  | normalizedCrossCheck
  /-- Critical if the counter rises too fast. -/
  | rateLimited
  /-- Never judged. -/
  | skipped
  deriving DecidableEq, Repr

namespace Attribute

/-- All attributes, in catalog order. -/
def all : List Attribute :=
  [reallocatedSectors, powerOnHours, spinRetries, powerCycles, endToEndErrors, uncorrectableErrors,
    commandTimeoutCounter, temperature, reallocatedEvents, pendingSectors, udmaCrcErrors, crcErrors,
    criticalWarning, mediaAndDataIntegrityErrors, availableSpare, percentageUsed,
    errorInformationLogEntries, dataUnitsRead, dataUnitsWritten]

/-- The canonical name, which keys the attribute in readings and baselines. -/
def name : Attribute → String
  | reallocatedSectors => "Reallocated_Sectors"
  | powerOnHours => "Power_On_Hours"
  | spinRetries => "Spin_Retries"
  | powerCycles => "Power_Cycles"
  | endToEndErrors => "End-to-End_Errors"
  | uncorrectableErrors => "Uncorrectable_Errors"
  | commandTimeoutCounter => "Command_Timeout_Counter"
  | temperature => "Temperature"
  | reallocatedEvents => "Reallocated_Events"
  | pendingSectors => "Pending_Sectors"
  | udmaCrcErrors => "UDMA_CRC_Errors"
  | crcErrors => "CRC_Errors"
  | criticalWarning => "Critical_Warning"
  | mediaAndDataIntegrityErrors => "Media_and_Data_Integrity_Errors"
  | availableSpare => "Available_Spare"
  | percentageUsed => "Percentage_Used"
  | errorInformationLogEntries => "Error_Information_Log_Entries"
  | dataUnitsRead => "Data_Units_Read"
  | dataUnitsWritten => "Data_Units_Written"

/-- The name under which a reading holds the limit of its available spare. -/
def spareThresholdName : String :=
  "Available_Spare_Threshold"

/-- Whether the value is frozen at discovery. -/
def isCaptured : Attribute → Bool
  | reallocatedSectors | spinRetries | endToEndErrors | uncorrectableErrors
  | commandTimeoutCounter | reallocatedEvents | pendingSectors | udmaCrcErrors | crcErrors
  | criticalWarning | mediaAndDataIntegrityErrors => true
  | _ => false

def quantity : Attribute → Quantity
  | powerOnHours => .hours
  | availableSpare | percentageUsed => .percent
  | dataUnitsRead | dataUnitsWritten => .bytes
  | _ => .count

/-- The rule by which the value is judged. -/
def policy : Attribute → Policy
  | temperature => .skipped
  | availableSpare => .spareThreshold
  | reallocatedEvents => .normalizedCrossCheck
  | commandTimeoutCounter => .rateLimited
  | _ => .growth

def render (a : Attribute) (value : Int64) : String :=
  a.quantity.render value

/-- The attribute with a canonical name. -/
def ofName? (name : String) : Option Attribute :=
  all.find? (·.name == name)

/-- The code that two attributes share; the vendor's label tells them apart. -/
def sharedCrcCode : Nat := 199

/-- The label under which the shared code counts errors of the UDMA transfer. -/
def udmaCrcLabel : String :=
  "UDMA_CRC_Error_Count"

/-- The attribute that tabular telemetry names by a code and a vendor's label. -/
def ofCode? (code : Nat) (label : String) : Option Attribute :=
  if code = sharedCrcCode then
    some (if label = udmaCrcLabel then udmaCrcErrors else crcErrors)
  else
    match code with
    | 5 => some reallocatedSectors
    | 9 => some powerOnHours
    | 10 => some spinRetries
    | 12 => some powerCycles
    | 184 => some endToEndErrors
    | 187 => some uncorrectableErrors
    | 188 => some commandTimeoutCounter
    | 194 => some temperature
    | 196 => some reallocatedEvents
    | 197 => some pendingSectors
    | _ => none

/-- A name as a phrase: its first word as it is, the others in lower case, with spaces. -/
def phrase (name : String) : String :=
  match Text.splitAtFirst? '_' name.toList with
  | none => name
  | some (first, rest) =>
    String.ofList (first ++ ' ' :: rest.map fun c => if c = '_' then ' ' else c.toLower)

def label : Attribute → String
  | crcErrors => "CRC errors"
  | udmaCrcErrors => "UDMA CRC errors"
  | powerOnHours => "Powered on"
  | a => phrase a.name

theorem mem_all (a : Attribute) : a ∈ all := by
  cases a <;> decide

theorem nodup_all : all.Nodup := by
  decide

theorem ofName?_name (a : Attribute) : ofName? a.name = some a := by
  cases a <;> decide

/-- Two attributes with one name are the same. -/
theorem name_injective {a b : Attribute} (h : a.name = b.name) : a = b := by
  have := ofName?_name a
  rw [h, ofName?_name b] at this
  exact (Option.some.inj this).symm

end Attribute

end DiskHealth
