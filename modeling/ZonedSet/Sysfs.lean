/-
ZonedSet.Sysfs — attributes of block devices, as the system publishes them in sysfs.

The root of the tree is a parameter. An attribute is a file, and what counts is its first word.
-/
import ZonedSet.Error
import ZonedSet.Member
import ZonedSet.Storage.Basic
import ZonedSet.Text.Blank
import ZonedSet.Text.Decimal

namespace ZonedSet.Sysfs

/-! ## Places in the tree -/

/-- The directory of a block device, whole disk or partition. -/
def deviceDirectory (root name : String) : String :=
  Path.join (Path.join root "class/block") name

/-- The directory of the request queue of a disk. -/
def queueDirectory (root name : String) : String :=
  Path.join (Path.join (Path.join root "block") name) "queue"

/-- The directory in which the holders of a device have their names. -/
def holdersDirectory (root name : String) : String :=
  Path.join (deviceDirectory root name) "holders"

/-! ## Attributes -/

/-- The first word of an attribute; `none` where there is no such attribute. -/
def readWord? (s : Storage) (attr : String) : Except Error (Option (List Char)) :=
  match s.readText attr with
  | .ok text =>
    match Text.firstWord? text with
    | some word => .ok (some word)
    | none => .error (.attributeInvalid attr "Invalid file format")
  | .error e =>
    if e = .noEntry then .ok none else .error (.os attr "read attribute" e)

/-- Puts a name into a list of names in ascending order. -/
def insertName (name : String) : List String → List String
  | [] => [name]
  | n :: rest => if n < name then n :: insertName name rest else name :: n :: rest

/-- Names in ascending order. -/
def sortNames (names : List String) : List String := names.foldr insertName []

/-- What is stacked on a device, such as an active mapping, in the order of the names. -/
def holders (s : Storage) (root name : String) : Except Error (List String) :=
  let directory := holdersDirectory root name
  match s.entryNames directory with
  | .error e => .error (.os directory "scan holders" e)
  | .ok names => .ok (sortNames names)

/-- The first holder of a device. -/
def holder? (s : Storage) (root name : String) : Except Error (Option String) :=
  (holders s root name).map List.head?

/-- Is the device a partition rather than a whole disk? -/
def isPartition (s : Storage) (root name : String) : Except Error Bool :=
  let attr := Path.join (deviceDirectory root name) "partition"
  match s.stat attr with
  | .ok _ => .ok true
  | .error e =>
    if e = .noEntry then .ok false else .error (.os attr "stat attribute" e)

/-- The zone model that a published word stands for; unknown words mean a regular device. -/
def modelOf (word : List Char) : Model :=
  if word = "host-aware".toList then .hostAware
  else if word = "host-managed".toList then .hostManaged
  else .regular

/-- The zone model of a device. Partitions are regular whatever their disk is, because their
zones are not reported. -/
def model (s : Storage) (root name : String) : Except Error Model := do
  if ← isPartition s root name then
    return .regular
  let word ← readWord? s (Path.join (queueDirectory root name) "zoned")
  return (word.map modelOf).getD .regular

/-- The zone size that an attribute's word stands for, in sectors. -/
def parseZoneSectors (attr : String) (word : List Char) : Except Error Nat :=
  match Text.Decimal.parse word with
  | .ok n => .ok n
  | .error fault =>
    .error (.attributeInvalid attr
      ("Invalid value " ++ String.ofList (Text.Quoted.quote word) ++ ": " ++ fault.message))

/-- The zone size of a device in sectors, as published: whether it can be used is another
question. -/
def zoneSectors (s : Storage) (root name : String) : Except Error Nat := do
  let attr := Path.join (queueDirectory root name) "chunk_sectors"
  match ← readWord? s attr with
  | none => throw (.attributeInvalid attr "No such attribute")
  | some word => parseZoneSectors attr word

end ZonedSet.Sysfs
