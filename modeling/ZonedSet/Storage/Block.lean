/-
ZonedSet.Storage.Block — what the system knows of a block device besides its bytes.
-/
import ZonedSet.Errno
import ZonedSet.Report.Buffer

namespace ZonedSet

/-- A block device. -/
structure BlockDevice where
  /-- The answer to a question for the capacity, in bytes. -/
  capacity : Except Errno UInt64
  /-- The failure of every zone report, if they fail. -/
  reportFailure : Option Errno
  /-- The zones that the device reports, in the order in which it does. -/
  zones : List Descriptor
  /-- The most zones in one report; zero stands for no limit. -/
  batch : Nat
  /-- The flags in the header of a report. -/
  flags : UInt32

namespace BlockDevice

/-- The zones for a report from a local sector on: those that are not over there, as many as were
asked for and as the device gives at once. -/
def zonesFrom (device : BlockDevice) (sector asked : Nat) : List Descriptor :=
  let most := if device.batch = 0 then asked else min asked device.batch
  (device.zones.filter fun d => sector < d.start.toNat + d.length.toNat).take most

/-- Fills a prepared buffer with the zones from a local sector on. -/
def report (device : BlockDevice) (sector : Nat) (buffer : ReportBuffer) :
    Except Errno ReportBuffer :=
  match device.reportFailure with
  | some e => .error e
  | none =>
    let zones := device.zonesFrom sector buffer.headerCount
    .ok (buffer.fill ⟨.ofNat zones.length, device.flags, zones⟩)

end BlockDevice

end ZonedSet
