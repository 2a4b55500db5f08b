/-
ZonedSet.Error — the causes for which the library refuses, and their wording.

A cause names the device, the path or the attribute at fault, and the failed call's number where
there was one. The wording of every cause is in `Error.message` and `Mismatch.message`, and
nowhere else. `Error.broken` stands apart: it says that the caller broke a promise, so that there
is no answer at all.
-/
import ZonedSet.Units
import ZonedSet.Errno
import ZonedSet.Content
import ZonedSet.Zone

namespace ZonedSet

/-- Which way a block travels. -/
inductive Direction where
  | read
  | write
  deriving DecidableEq, Repr, Inhabited

/-- The direction, in words. -/
def Direction.text : Direction → String
  | .read => "Read"
  | .write => "Write"

/-! ## Zones that do not fit the geometry -/

/-- How reported zones, or the devices' sizes, disagree with the expected geometry. -/
inductive Mismatch where
  /-- There are too many or too few zones. -/
  | zoneCount (expected got : Nat)
  /-- The last zone does not end where the address space does. -/
  | endSector (expected got : Nat)
  /-- A zone that is not its device's last has another length. -/
  | zoneSize (zone length expected : Nat)
  /-- Fewer sectors of a zone can be written than it is long. -/
  | zoneCapacity (zone capacity length : Nat)
  /-- A zone is one too many, or lies outside the 64-bit address space. -/
  | zoneStart (zone start : Nat)
  /-- A zone is in no known condition. -/
  | zoneCondition (zone : Nat) (code : UInt8)
  /-- Two zoned devices have different zone sizes. -/
  | zoneSizeDisagreement (expected got : Nat)
  /-- A device that another one follows does not end on a block boundary. -/
  | unalignedSpan (capacity : Nat)
  /-- A device is too small for a single zone. -/
  | noZones (capacity : Nat)
  /-- The zones outnumber the 32-bit zone numbers. -/
  | tooManyZones (count : Nat)
  deriving DecidableEq, Repr, Inhabited

/-- The disagreement, in words. -/
def Mismatch.message : Mismatch → String
  | .zoneCount expected got =>
    s!"Invalid number of zones (expected {expected}, got {got})"
  | .endSector expected got =>
    s!"Invalid zones (last sector reported is {got}, expected {expected})"
  | .zoneSize zone length expected =>
    s!"Invalid zone {zone} size ({length} sectors, expected {expected})"
  | .zoneCapacity zone capacity length =>
    "Unsupported device with zone capacity smaller than zone size " ++
      s!"(zone {zone}: capacity {capacity}, length {length})"
  | .zoneStart zone start => s!"Invalid zone {zone} start {start}"
  | .zoneCondition zone code => s!"Invalid zone {zone} condition " ++ Zone.hexText code
  | .zoneSizeDisagreement expected got => s!"zone size mismatch ({expected}/{got} sectors)"
  | .unalignedSpan capacity =>
    s!"capacity of {capacity} sectors is not a whole number of 4096-byte blocks"
  | .noZones capacity => s!"invalid number of zones (capacity {capacity} sectors)"
  | .tooManyZones count => s!"invalid number of zones ({count})"

/-! ## Broken promises -/

/-- A promise that a caller broke. -/
inductive Breach where
  /-- A sum of two words is no word. -/
  | sum
  /-- A word was taken from a smaller one. -/
  | difference
  /-- A product of two words is no word. -/
  | product
  /-- A descriptor was asked for that the report does not have. -/
  | reportIndex
  /-- Something was divided into pieces of size zero. -/
  | division
  /-- No device begins at sector zero. -/
  | sectorLayout
  /-- No device begins at block zero. -/
  | blockLayout
  /-- A zoned device was to be asked, and no buffer was prepared for its answer. -/
  | reportBuffer
  deriving DecidableEq, Repr, Inhabited

/-- The promise, in words. -/
def Breach.message : Breach → String
  | .sum => "attempt to add with overflow"
  | .difference => "attempt to subtract with overflow"
  | .product => "attempt to multiply with overflow"
  | .reportIndex => "zone report index out of range"
  | .division => "attempt to divide by zero"
  | .sectorLayout => "device set layout does not start at sector 0"
  | .blockLayout => "DeviceSet layout does not start at block 0"
  | .reportBuffer =>
    "internal error: entered unreachable code: zone report buffer missing for a zoned device"

/-! ## Causes -/

/-- Why there is no answer. -/
inductive Error where
  /-- A call to the operating system failed. -/
  | os (path context : String) (errno : Errno)
  | notABlockDevice (path : String)
  | deviceMounted (path : String)
  | deviceBusy (path holder : String)
  | existingContent (path : String) (content : Content)
  /-- A device could not be searched for content. -/
  | probeFailed (path : String) (errno : Errno)
  /-- A device attribute is missing or unreadable. -/
  | attributeInvalid (path reason : String)
  | zoneSizeInvalid (name : String) (zoneSectors : Nat)
  | geometry (label : String) (detail : Mismatch)
  /-- A block was moved in part, or not at all. -/
  | shortTransfer (name : String) (direction : Direction) (block transferred : Nat)
      (errno : Option Errno)
  | syncFailed (name : String) (errno : Errno)
  | invalidLayout (name reason : String)
  | invalidConfig (path : String)
  | broken (breach : Breach)
  deriving DecidableEq, Repr, Inhabited

namespace Error

/-- The cause, in words. The reason for which a configuration is invalid is left to the reader of
the file. -/
def message : Error → String
  | .os path context errno => path ++ ": " ++ context ++ " failed: " ++ errno.text
  | .notABlockDevice path => path ++ " is not a block device"
  | .deviceMounted path => path ++ " is mounted"
  | .deviceBusy path holder => path ++ " is in use (held by " ++ holder ++ ")"
  | .existingContent path content =>
    path ++ " appears to contain " ++ content.text ++
      ".  Use the overwrite option to format it anyway"
  | .probeFailed path errno =>
    path ++ ": probe failed, cannot detect existing filesystem: " ++ errno.text
  | .attributeInvalid path reason => path ++ ": " ++ reason
  | .zoneSizeInvalid name zoneSectors => name ++ s!": Invalid zone size {zoneSectors}"
  | .geometry label detail => label ++ ": " ++ detail.message
  | .shortTransfer name direction block transferred errno =>
    name ++ ": " ++ direction.text ++
      s!" block {block} failed ({transferred} of 4096 bytes)" ++
      match errno with
      | none => ""
      | some e => ": " ++ e.text
  | .syncFailed name errno => name ++ ": fsync failed: " ++ errno.text
  | .invalidLayout name reason => name ++ ": " ++ reason
  | .invalidConfig path => path ++ ": invalid configuration"
  | .broken breach => breach.message

end Error

end ZonedSet
