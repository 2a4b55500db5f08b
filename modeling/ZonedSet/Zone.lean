/-
ZonedSet.Zone — zones, their write semantics and their condition.

A zone is a run of sectors of a device set. Zoned devices report theirs; for a regular device they
are emulated. All sector numbers here are global: they count from the start of the set.
-/
import ZonedSet.Units
import ZonedSet.Text.Quoted

namespace ZonedSet

/-! ## Write semantics -/

/-- How a zone may be written. -/
inductive ZoneType where
  | unknown
  | conventional
  | sequentialRequired
  | sequentialPreferred
  deriving DecidableEq, Repr, Inhabited

namespace ZoneType

/-- The type that a device reports by this number. Numbers without a meaning, and the zero of
emulated zones, stand for the unknown type. -/
def ofCode (code : UInt8) : ZoneType :=
  if code = 1 then .conventional
  else if code = 2 then .sequentialRequired
  else if code = 3 then .sequentialPreferred
  else .unknown

/-- The number of a type. -/
def code : ZoneType → UInt8
  | .unknown => 0
  | .conventional => 1
  | .sequentialRequired => 2
  | .sequentialPreferred => 3

/-- The type, in words. -/
def text : ZoneType → String
  | .unknown => "Unknown-type"
  | .conventional => "Conventional"
  | .sequentialRequired => "Sequential-write-required"
  | .sequentialPreferred => "Sequential-write-preferred"

theorem ofCode_code (t : ZoneType) : ofCode t.code = t := by cases t <;> rfl

end ZoneType

/-! ## Condition -/

/-- The state that a zone is in. -/
inductive ZoneCondition where
  | notWritePointer
  | empty
  | implicitOpen
  | explicitOpen
  | closed
  | readOnly
  | full
  | offline
  deriving DecidableEq, Repr, Inhabited

namespace ZoneCondition

/-- The condition that a device reports by this number, if the number means one. -/
def ofCode? (code : UInt8) : Option ZoneCondition :=
  if code = 0 then some .notWritePointer
  else if code = 1 then some .empty
  else if code = 2 then some .implicitOpen
  else if code = 3 then some .explicitOpen
  else if code = 4 then some .closed
  else if code = 13 then some .readOnly
  else if code = 14 then some .full
  else if code = 15 then some .offline
  else none

/-- The number of a condition. -/
def code : ZoneCondition → UInt8
  | .notWritePointer => 0
  | .empty => 1
  | .implicitOpen => 2
  | .explicitOpen => 3
  | .closed => 4
  | .readOnly => 13
  | .full => 14
  | .offline => 15

/-- The condition, in words. -/
def text : ZoneCondition → String
  | .notWritePointer => "Not-write-pointer"
  | .empty => "Empty"
  | .implicitOpen => "Implicit-open"
  | .explicitOpen => "Explicit-open"
  | .closed => "Closed"
  | .readOnly => "Read-only"
  | .full => "Full"
  | .offline => "Offline"

theorem ofCode?_code (c : ZoneCondition) : ofCode? c.code = some c := by cases c <;> rfl

end ZoneCondition

/-! ## Zones -/

/-- A run of sectors with one write pointer, at most. -/
structure Zone where
  /-- First sector. -/
  start : Nat
  /-- Length in sectors. -/
  length : Nat
  /-- Writable sectors. -/
  capacity : Nat
  /-- Absent for emulated and for conventional zones. -/
  writePointer : Option Nat
  type : ZoneType
  condition : ZoneCondition
  needsReset : Bool
  nonSequential : Bool
  deriving DecidableEq, Repr, Inhabited

namespace Zone

/-- The zone that stands for a stretch of a regular device. -/
def emulated (start length : Nat) : Zone where
  start := start
  length := length
  capacity := length
  writePointer := none
  type := .unknown
  condition := .notWritePointer
  needsReset := false
  nonSequential := false

/-- The first sector after the zone. -/
def stop (z : Zone) : Nat := z.start + z.length

/-- The first sector after the zone, if it is a word. -/
def stop? (z : Zone) : Option Nat := Word.add? z.start z.length

def isConventional (z : Zone) : Bool := z.type == .conventional

def isEmpty (z : Zone) : Bool := z.condition == .empty

/-- Can the zone be written in any order? -/
def isRandom (z : Zone) : Bool := z.type == .conventional || z.type == .sequentialPreferred

def isSequentialRequired (z : Zone) : Bool := z.type == .sequentialRequired

def isUnknown (z : Zone) : Bool := z.type == .unknown

/-- A zone's number in a dump: six digits, or more where six are too few. -/
def idText (id : Nat) : String :=
  let digits := toString id
  String.ofList (List.replicate (6 - digits.length) '0') ++ digits

/-- A number in hexadecimal, after the customary mark. -/
def hexText (n : UInt8) : String := "0x" ++ String.ofList (Text.Quoted.hex n.toNat)

/-- One for true, zero for false. -/
def flagText (b : Bool) : String := if b then "1" else "0"

/-- The dump line of a zone, given its number and the name of its device. A zone without a write
pointer shows the largest word in its place. -/
def dumpLine (z : Zone) (id : Nat) (device : String) : String :=
  let head := "Zone " ++ idText id ++ " (" ++ device ++ "): "
  let cond := "cond " ++ hexText z.condition.code ++ " (" ++ z.condition.text ++ ")"
  let extent := "sector " ++ toString z.start ++ ", " ++ toString z.length ++ " sectors"
  match z.condition with
  | .readOnly => head ++ "readonly " ++ z.condition.text ++ " zone"
  | .offline => head ++ "offline " ++ z.condition.text ++ " zone"
  | _ =>
    if z.isConventional then head ++ "Conventional, " ++ cond ++ ", " ++ extent
    else
      head ++ "type " ++ hexText z.type.code ++ " (" ++ z.type.text ++ "), " ++ cond ++
        ", need_reset " ++ flagText z.needsReset ++ ", non_seq " ++ flagText z.nonSequential ++
        ", " ++ extent ++ ", wp sector " ++ toString (z.writePointer.getD Word.max)

end Zone

end ZonedSet
