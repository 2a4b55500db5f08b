/-
ZonedSet.Proofs.Blocks.Closing — closed is final, and harmless.

A set is closed by letting the files of its devices go. Everything else about it stays: what its
geometry answers is answered as before, by the same devices at the same places
(`DeviceSet.blockOwner?_close`). What needs a file is refused, in the name of the device that the
file belonged to, before anything is read or written (`DeviceSet.serve_close`). Only a block that
begins past all words comes to nothing before that (`Backing.closedFailure`).

Closing twice is closing once. So a request leaves a closed set as it is, a run of requests does,
and so does whatever else is asked of it in the meantime (`DeviceSet.closed_later`).
-/
import Mathlib.Data.List.Forall2
import ZonedSet.Proofs.Opening.Geometry
import ZonedSet.Proofs.Layout.ZoneSearch
import ZonedSet.Proofs.Blocks.Transfer
import ZonedSet.Proofs.Walk.Ends

namespace ZonedSet

namespace Backing

/-- The failure of every access to a device that has been closed. -/
def accessFailure (d : Backing) : Error := .os d.path "access closed device" .badHandle

/-- The failure of a transfer: the place of the block is computed before the file is missed. -/
def closedFailure (d : Backing) (l : Nat) : Error :=
  if l * bytesPerBlock < Word.limit then d.accessFailure else .broken .product

@[simp] theorem isOpen_close (d : Backing) : d.close.isOpen = false := rfl

@[simp] theorem path_close (d : Backing) : d.close.path = d.path := rfl

@[simp] theorem close_close (d : Backing) : d.close.close = d.close := rfl

theorem file_close (d : Backing) : d.close.file = .error d.accessFailure := rfl

variable (s : Storage) (d : Backing) (l global : Nat)

theorem readBlock_close : d.close.readBlock s l global = .error (d.closedFailure l) := by
  unfold closedFailure
  split
  · rename_i hword
    rw [readBlock, blockStart?_of_lt hword, file_close]
  · rename_i hlimit
    exact readBlock_of_limit_le (Nat.not_lt.mp hlimit)

theorem writeBlock_close (bytes : Array UInt8) :
    d.close.writeBlock s l global bytes = (s, .error (d.closedFailure l)) := by
  unfold closedFailure
  split
  · rename_i hword
    rw [writeBlock, blockStart?_of_lt hword, file_close]
  · rename_i hlimit
    exact writeBlock_of_limit_le (Nat.not_lt.mp hlimit)

theorem sync_close : d.close.sync s = .error d.accessFailure := by
  rw [sync, file_close]

end Backing

namespace DeviceSet

variable {set now later : DeviceSet} {options : OpenOptions} {paths : List String} {s₀ : Storage}

/-! ## What stays -/

@[simp] theorem close_close (set : DeviceSet) : set.close.close = set.close := by
  simp [close, Function.comp_def]

theorem isOpen_close (set : DeviceSet) : set.close.isOpen = false := by
  simp [isOpen, close]

@[simp] theorem blockOffsets_close (set : DeviceSet) :
    set.close.blockOffsets = set.blockOffsets := by
  simp [blockOffsets, close, Function.comp_def]

/-- An owner after closing: the device has been closed, and the local number is the same. -/
def closeOwner (owner : Backing × Nat) : Backing × Nat := (owner.1.close, owner.2)

theorem deviceAt_close (set : DeviceSet) (found : Nat × Nat) :
    set.close.deviceAt found = (set.deviceAt found).map closeOwner := by
  simp [deviceAt, close, closeOwner, Function.comp_def]

/-- **Every block keeps its owner.** -/
theorem blockOwner?_close (set : DeviceSet) (block : Nat) :
    set.close.blockOwner? block = (set.blockOwner? block).map closeOwner := by
  rw [blockOwner?, blockOffsets_close, blockOwner?]
  cases Layout.blockOwner? set.blockOffsets block with
  | none => rfl
  | some found => exact deviceAt_close set found

theorem sectorOwner?_close (set : DeviceSet) (sector : Nat) :
    set.close.sectorOwner? sector = (set.sectorOwner? sector).map closeOwner := by
  rw [sectorOwner?, blockOffsets_close, sectorOwner?]
  cases Layout.sectorOwner? set.blockOffsets sector with
  | none => rfl
  | some found => exact deviceAt_close set found

theorem named_closeOwner (owner : Option (Backing × Nat)) :
    named (owner.map closeOwner) = named owner := by
  cases owner <;> rfl

theorem dumpLine?_close (set : DeviceSet) (id : Nat) (z : Zone) :
    set.close.dumpLine? id z = set.dumpLine? id z := by
  rw [dumpLine?, sectorOwner?_close, dumpLine?]
  cases set.sectorOwner? z.start <;> rfl

theorem isCacheZone_close (set : DeviceSet) (z : Zone) :
    set.close.isCacheZone z = set.isCacheZone z := by
  simp [isCacheZone, close]

/-- The layout is a matter of zone models and names. -/
theorem checkCacheLayout_close (set : DeviceSet) :
    set.close.checkCacheLayout = set.checkCacheLayout := by
  have hdevices : set.close.devices = set.devices.map Backing.close := rfl
  unfold checkCacheLayout
  rw [hdevices]
  cases set.devices with
  | nil => rfl
  | cons first rest =>
    cases rest with
    | nil => rfl
    | cons second rest =>
      have hfind : (second.close :: rest.map Backing.close).find? (fun d => !d.model.isZoned) =
          ((second :: rest).find? fun d => !d.model.isZoned).map Backing.close := by
        rw [← List.map_cons, List.find?_map]
        rfl
      simp only [List.map_cons, hfind]
      cases (second :: rest).find? (fun d => !d.model.isZoned) <;> rfl

/-! ## One request -/

/-- What a set answers that has been closed. Blocks are refused by their owners, and the first
device refuses to make anything last. Nothing is open. The rest is what the open set would say, from
whatever storage. -/
inductive ClosedReply (set : DeviceSet) : Request → Reply → Prop
  | read {block l : Nat} {d : Backing} (owner : set.blockOwner? block = some (d, l)) :
      ClosedReply set (.read block) (.failed (d.closedFailure l))
  | write {block l : Nat} {d : Backing} (owner : set.blockOwner? block = some (d, l))
      (bytes : Array UInt8) : ClosedReply set (.write block bytes) (.failed (d.closedFailure l))
  | sync {d : Backing} (first : set.devices[0]? = some d) :
      ClosedReply set .sync (.failed d.accessFailure)
  | close : ClosedReply set .close (.isOpen false [])
  | isOpen : ClosedReply set .isOpen (.isOpen false (set.devices.map fun _ => false))
  | locate {n : Nat} {zone : Option UInt32} (found : set.zoneNumber? n = .ok zone) :
      ClosedReply set (.locate n)
        (.located (named (set.blockOwner? n)) (named (set.sectorOwner? n)) zone)
  | checkCacheLayout :
      ClosedReply set .checkCacheLayout (.ofExcept set.checkCacheLayout)
  | cacheZones (s : Storage) (limit : Nat) :
      ClosedReply set (.cacheZones limit) (set.serve s (.cacheZones limit)).2.2
  | zoneLines (s : Storage) (limit : Nat) :
      ClosedReply set (.zoneLines limit) (set.serve s (.zoneLines limit)).2.2

/-- In an opened set every block can be looked up. -/
theorem exists_zoneNumber_of_openAt (h : openAt s₀ options paths = .ok set) (block : Nat) :
    ∃ zone, set.zoneNumber? block = .ok zone := by
  obtain ⟨devices, -, -, h⟩ := exists_assemble_of_openAt h
  obtain ⟨adopted, stages⟩ := exists_stages h
  obtain ⟨passes, account⟩ := exists_account stages.collected
  refine Layout.exists_zoneNumber (fun i z hz => ?_) block
  exact account.stop_lt (List.mem_of_getElem? (by simpa using hz))

section

variable (coherent : set.Coherent)
  (numbered : ∀ block, ∃ zone, set.zoneNumber? block = .ok zone)
include coherent numbered

/-- **A request leaves a closed set and the storage as they are.** -/
theorem serve_close (s : Storage) (r : Request) :
    ∃ reply, set.close.serve s r = (s, set.close, reply) ∧ ClosedReply set r reply := by
  cases r with
  | read block =>
    obtain ⟨i, l, d, owner⟩ := coherent.exists_blockOwner block
    have hread : set.close.readBlock s block = .error (d.closedFailure l) := by
      simp [readBlock, blockOwner?_close, owner.blockOwner?_eq, closeOwner,
        Backing.readBlock_close]
    exact ⟨_, by rw [serve, hread], .read owner.blockOwner?_eq⟩
  | write block bytes =>
    obtain ⟨i, l, d, owner⟩ := coherent.exists_blockOwner block
    have hwrite : set.close.writeBlock s block bytes = (s, .error (d.closedFailure l)) := by
      simp [writeBlock, blockOwner?_close, owner.blockOwner?_eq, closeOwner,
        Backing.writeBlock_close]
    exact ⟨_, by rw [serve, hwrite]; rfl, .write owner.blockOwner?_eq bytes⟩
  | sync =>
    cases hdevices : set.devices with
    | nil => exact absurd hdevices coherent.nonempty
    | cons first rest =>
      have hsync : set.close.sync s = .error first.accessFailure := by
        simp [DeviceSet.sync, close, hdevices, syncDevices, Backing.sync_close]
      exact ⟨_, by rw [serve, hsync]; rfl, .sync (by simp [hdevices])⟩
  | close => exact ⟨_, by rw [serve, close_close, isOpen_close], .close⟩
  | isOpen =>
    have heach : set.close.devices.map Backing.isOpen = set.devices.map fun _ => false := by
      simp [close, Function.comp_def]
    exact ⟨_, by rw [serve, isOpen_close, heach], .isOpen⟩
  | locate n =>
    obtain ⟨zone, hzone⟩ := numbered n
    have hclosed : set.close.zoneNumber? n = .ok zone := hzone
    refine ⟨_, ?_, .locate hzone⟩
    rw [serve, hclosed, blockOwner?_close, sectorOwner?_close, named_closeOwner, named_closeOwner]
  | checkCacheLayout => exact ⟨_, by rw [serve, checkCacheLayout_close], .checkCacheLayout⟩
  | cacheZones limit =>
    refine ⟨_, ?_, .cacheZones s limit⟩
    simp only [serve, isCacheZone_close]
    rfl
  | zoneLines limit =>
    refine ⟨_, ?_, .zoneLines s limit⟩
    simp only [serve, dumpLine?_close]
    rfl

/-! ## Runs -/

/-- A run of requests does too. -/
theorem serveAll_close (s : Storage) (requests : List Request) :
    ∃ replies, set.close.serveAll s requests = (s, set.close, replies) ∧
      List.Forall₂ (ClosedReply set) requests replies := by
  induction requests with
  | nil => exact ⟨[], rfl, .nil⟩
  | cons r rest ih =>
    obtain ⟨reply, hserve, hreply⟩ := serve_close coherent numbered s r
    obtain ⟨replies, hall, hreplies⟩ := ih
    exact ⟨reply :: replies, by simp [serveAll, hserve, hall], .cons hreply hreplies⟩

end

/-- Before anything is closed, and after, a set is what it was, but for its files. -/
theorem Later.close_eq (before : set.Later now) : now.close = set.close := by
  induction before with
  | opened => rfl
  | served s r _ ih =>
    rename_i now _
    rcases serve_eq_or now s r with h | h
    · rw [h, ih]
    · rw [h, close_close, ih]

/-- **Nothing opens a closed set again.** -/
theorem closed_later (after : set.close.Later later) : later = set.close := by
  induction after with
  | opened => rfl
  | served s r _ ih =>
    rename_i now _
    rcases serve_eq_or now s r with h | h
    · rw [h, ih]
    · rw [h, ih, close_close]

/-- A set has the numbers and the translations of another one, and no open file. -/
structure ClosedFrom (set later : DeviceSet) : Prop where
  shut : later.isOpen = false
  each_shut : ∀ d ∈ later.devices, d.isOpen = false
  label_eq : later.label = set.label
  capacity_eq : later.capacity = set.capacity
  zoneSectors_eq : later.zoneSectors = set.zoneSectors
  zones_eq : later.zones = set.zones
  members_eq : membersOf later.devices = membersOf set.devices
  paths_eq : later.devices.map (·.path) = set.devices.map (·.path)
  zoneSizes_eq : later.devices.map (·.zoneSectors) = set.devices.map (·.zoneSectors)
  blockOwner_eq : ∀ block, later.blockOwner? block = (set.blockOwner? block).map closeOwner
  sectorOwner_eq : ∀ sector, later.sectorOwner? sector = (set.sectorOwner? sector).map closeOwner
  zoneNumber_eq : ∀ block, later.zoneNumber? block = set.zoneNumber? block

theorem closedFrom_close (set : DeviceSet) : set.ClosedFrom set.close where
  shut := isOpen_close set
  each_shut := by
    intro d hd
    obtain ⟨e, -, rfl⟩ := List.mem_map.mp hd
    exact Backing.isOpen_close e
  label_eq := rfl
  capacity_eq := rfl
  zoneSectors_eq := rfl
  zones_eq := rfl
  members_eq := membersOf_close set.devices
  paths_eq := by simp [close, Function.comp_def]
  zoneSizes_eq := by simp [close, Function.comp_def]
  blockOwner_eq := blockOwner?_close set
  sectorOwner_eq := sectorOwner?_close set
  zoneNumber_eq := fun _ => rfl

/-- **Closed is final, and harmless.** An opened set is used for a while and closed, and whatever
happens after that, to the set or to the storage: the set is closed and has the numbers it was
opened with. Requests, however many, leave it as it is and the storage too. Each of them is answered
as a closed set answers. To a transfer of any block below 2^52 that is the failure of an access to
its owner. -/
theorem openAt_closed (h : openAt s₀ options paths = .ok set) (before : set.Later now)
    (after : now.close.Later later) :
    set.ClosedFrom later ∧
      (∀ s requests, ∃ replies,
        later.serveAll s requests = (s, later, replies) ∧
          List.Forall₂ (ClosedReply set) requests replies) ∧
      ∀ block d l, block * bytesPerBlock < Word.limit → set.blockOwner? block = some (d, l) →
        d.closedFailure l = d.accessFailure := by
  rw [before.close_eq] at after
  obtain rfl := closed_later after
  have coherent := coherent_of_openAt h
  refine ⟨closedFrom_close set, ?_, ?_⟩
  · intro s requests
    exact serveAll_close coherent (exists_zoneNumber_of_openAt h) s requests
  · intro block d l hblock howner
    obtain ⟨i, m, e, owner⟩ := coherent.exists_blockOwner block
    rw [owner.blockOwner?_eq, Option.some.injEq, Prod.mk.injEq] at howner
    obtain ⟨rfl, rfl⟩ := howner
    have hle : m ≤ block := by
      have := owner.local_eq
      omega
    exact if_pos (Nat.lt_of_le_of_lt (Nat.mul_le_mul_right _ hle) hblock)

/-- Two image files, closed after a write, and asked for a block after that. -/
theorem openAt_closed_imageSet :
    openAt twoImages inspectFiles ["/a", "/b"] = .ok imageSet ∧ imageSet.Later imageSet ∧
      imageSet.close.Later imageSet.close ∧ imageSet.ClosedFrom imageSet.close ∧
      (∀ s requests, ∃ replies,
        imageSet.close.serveAll s requests = (s, imageSet.close, replies) ∧
          List.Forall₂ (ClosedReply imageSet) requests replies) ∧
      ∀ block d l, block * bytesPerBlock < Word.limit →
        imageSet.blockOwner? block = some (d, l) → d.closedFailure l = d.accessFailure := by
  have before : imageSet.Later imageSet := Later.opened.served twoImages (.write 1 #[])
  have after : imageSet.close.Later imageSet.close := Later.opened.served twoImages (.read 1)
  exact ⟨openAt_twoImages, before, after, openAt_closed openAt_twoImages before after⟩

end DeviceSet

end ZonedSet
