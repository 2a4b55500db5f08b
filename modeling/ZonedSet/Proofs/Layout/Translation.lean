/-
ZonedSet.Proofs.Layout.Translation — global and local numbers of blocks and sectors, and how they
translate into each other.

Which device a number belongs to depends on the offsets alone: it is the last one whose offset is
low enough (`Layout.owner?_lt_later`). Where offsets increase, that is the only device that can be
meant (`Layout.Owns.unique`), and halving the list finds it as well (`Layout.owns_search`). Sectors
go the same way as blocks, because their offsets are eight times as large (`Layout.owner?_scale`).

What a set adds is that its offsets do increase, and that each device ends where the next one
begins. `DeviceSet.Coherent.exists_blockOwner` gives every block its owner, and the last theorem
collects the rest: translation is a bijection that keeps the order, the same for blocks and
sectors.
-/
import ZonedSet.Proofs.Opening.Assembling

namespace ZonedSet

namespace Layout

variable {n i j l : Nat} {offsets : List Nat}

/-! ## The offset that is low enough -/

/-- The offset at `i` is low enough for `n`, and the next one is not. -/
def Owns (offsets : List Nat) (i n : Nat) : Prop :=
  (∃ o, offsets[i]? = some o ∧ o ≤ n) ∧ ∀ next, offsets[i + 1]? = some next → n < next

theorem owns_of_owner? (h : owner? n offsets = some (i, l)) : Owns offsets i n := by
  obtain ⟨o, ho, rfl⟩ := owner?_eq_some h
  exact ⟨⟨o, ho, by omega⟩, fun next hnext => owner?_lt_later h (Nat.lt_succ_self i) hnext⟩

/-- Where offsets increase, at most one device can own a number. -/
theorem Owns.unique (sorted : offsets.Pairwise (· < ·)) (hi : Owns offsets i n)
    (hj : Owns offsets j n) : i = j := by
  have hle : ∀ {i j : Nat}, Owns offsets i n → Owns offsets j n → j ≤ i := by
    intro i j ⟨_, hnext⟩ ⟨⟨o, ho, hle⟩, _⟩
    refine Nat.le_of_not_lt fun hlt => ?_
    obtain ⟨hj, rfl⟩ := List.getElem?_eq_some_iff.mp ho
    have hn := hnext offsets[i + 1] (List.getElem?_eq_getElem (by omega))
    rcases Nat.lt_or_eq_of_le (show i + 1 ≤ j by omega) with hij | rfl
    · have := List.pairwise_iff_getElem.mp sorted (i + 1) j (by omega) hj hij
      omega
    · omega
  exact Nat.le_antisymm (hle hj hi) (hle hi hj)

/-! ## Search by halving -/

/-- The owner of `n` among the offsets `low … low + size - 1`, found by halving them. -/
def searchFrom (offsets : List Nat) (n low size : Nat) : Nat :=
  if size ≤ 1 then low
  else if offsets.getD (low + size / 2) 0 ≤ n then
    searchFrom offsets n (low + size / 2) (size - size / 2)
  else searchFrom offsets n low (size / 2)
termination_by size
decreasing_by all_goals omega

/-- The owner of `n`, found by halving the offsets. -/
def search (offsets : List Nat) (n : Nat) : Nat := searchFrom offsets n 0 offsets.length

/-- The offset at `low` is low enough, and the one after the searched ones is not. Halving keeps
both. -/
theorem owns_searchFrom {low size : Nat} (hsize : 0 < size) (hlen : low + size ≤ offsets.length)
    (hlow : offsets.getD low 0 ≤ n) (hhigh : ∀ o, offsets[low + size]? = some o → n < o) :
    Owns offsets (searchFrom offsets n low size) n := by
  have hget : ∀ k < offsets.length, offsets[k]? = some (offsets.getD k 0) := by
    intro k hk
    simp [List.getElem?_eq_getElem hk]
  induction size using Nat.strongRecOn generalizing low with
  | ind size ih =>
    rw [searchFrom]
    split
    · obtain rfl : size = 1 := by omega
      exact ⟨⟨_, hget low (by omega), hlow⟩, hhigh⟩
    · split
      · rename_i hhalf
        refine ih (size - size / 2) (by omega) (by omega) (by omega) hhalf fun o ho => ?_
        exact hhigh o (by rwa [show low + size / 2 + (size - size / 2) = low + size by omega] at ho)
      · rename_i hhalf
        refine ih (size / 2) (by omega) (by omega) (by omega) hlow fun o ho => ?_
        rw [hget _ (by omega), Option.some.injEq] at ho
        omega

theorem owns_search {rest : List Nat} (h : offsets = 0 :: rest) (n : Nat) :
    Owns offsets (search offsets n) n := by
  subst h
  exact owns_searchFrom (by simp) (by simp) (by simp) (by simp)

/-! ## Sectors as blocks -/

/-- Offsets that are eight times as large have the same owners. -/
theorem owner?_scale (n : Nat) (offsets : List Nat) :
    owner? n (offsets.map (· * 8)) =
      (owner? (n / 8) offsets).map fun (i, l) => (i, 8 * l + n % 8) := by
  induction offsets with
  | nil => rfl
  | cons first rest ih =>
    rw [List.map_cons, owner?, owner?, ih]
    cases owner? (n / 8) rest with
    | some found => rfl
    | none =>
      by_cases hfirst : first ≤ n / 8
      · rw [Option.map_none, if_pos hfirst, if_pos (by omega)]
        simp only [Option.map_some, Option.some.injEq, Prod.mk.injEq, true_and]
        omega
      · rw [Option.map_none, if_neg hfirst, if_neg (by omega)]
        rfl

end Layout

/-! ## Offsets of devices that lie end to end -/

namespace LaidOut

variable {devices : List Member} {i j : Nat} {dev : Member} (laid : LaidOut devices)
include laid

theorem blockOffset_mul (hi : devices[i]? = some dev) :
    dev.blockOffset * 8 = totalCapacity (devices.take i) := by
  simpa using laid.endToEnd.contiguous.blockOffset_mul hi

theorem sectorOffset_eq_mul (hi : devices[i]? = some dev) :
    dev.sectorOffset = dev.blockOffset * 8 := by
  rw [laid.sectorOffset_eq hi, laid.blockOffset_mul hi]

theorem sectorOffsets_eq :
    (devices.map Member.blockOffset).map blocksToSectors =
      (devices.map Member.blockOffset).map (· * 8) := by
  rw [List.map_map, List.map_map]
  refine List.map_congr_left fun dev hdev => ?_
  obtain ⟨i, hi⟩ := List.mem_iff_getElem?.mp hdev
  exact laid.sectorOffset_eq_mul hi

/-- A device ends where the next one begins. -/
theorem stop_eq (hi : devices[i]? = some dev) :
    dev.stop = totalCapacity (devices.take (i + 1)) := by
  rw [Member.stop, laid.sectorOffset_eq hi, totalCapacity_take_succ hi]

theorem offsets_sorted : (devices.map Member.blockOffset).Pairwise (· < ·) := by
  rw [List.pairwise_map, List.pairwise_iff_getElem]
  intro i j hi hj hij
  have hle := laid.stop_le (List.getElem?_eq_getElem hi) (List.getElem?_eq_getElem hj) hij
  have hpos := laid.endToEnd.capacity_pos (List.getElem_mem hi)
  rw [Member.stop, laid.sectorOffset_eq_mul (List.getElem?_eq_getElem hi),
    laid.sectorOffset_eq_mul (List.getElem?_eq_getElem hj)] at hle
  omega

/-- A sector of the space is a sector of the device that owns its block. -/
theorem sector_local_lt {t : Nat} (hi : devices[i]? = some dev)
    (howns : Layout.Owns (devices.map Member.blockOffset) i (t / 8))
    (ht : t < totalCapacity devices) :
    8 * (t / 8 - dev.blockOffset) + t % 8 < dev.capacity := by
  obtain ⟨⟨o, ho, hle⟩, hnext⟩ := howns
  obtain rfl : dev.blockOffset = o := by simpa [hi] using ho
  have hstop := laid.stop_eq hi
  rw [Member.stop, laid.sectorOffset_eq_mul hi] at hstop
  cases hafter : devices[i + 1]? with
  | some next =>
    have := hnext next.blockOffset (by simp [hafter])
    have := laid.blockOffset_mul hafter
    omega
  | none =>
    rw [List.take_of_length_le (List.getElem?_eq_none_iff.mp hafter)] at hstop
    omega

/-- A whole block of the space is a whole block of its owner. -/
theorem block_local_lt {b : Nat} (hi : devices[i]? = some dev)
    (howns : Layout.Owns (devices.map Member.blockOffset) i b)
    (hb : b < sectorsToBlocks (totalCapacity devices)) :
    b - dev.blockOffset < sectorsToBlocks dev.capacity := by
  simp only [sectorsToBlocks, sectorsPerBlock] at *
  have hblock : (8 * b + 7) / 8 = b := by omega
  have := laid.sector_local_lt (t := 8 * b + 7) hi (by rwa [hblock]) (by omega)
  omega

/-- A device owns its own whole blocks. -/
theorem owns_local {l : Nat} (hi : devices[i]? = some dev) (hl : l < sectorsToBlocks dev.capacity) :
    Layout.Owns (devices.map Member.blockOffset) i (dev.blockOffset + l) := by
  refine ⟨⟨dev.blockOffset, by simp [hi], by omega⟩, fun o ho => ?_⟩
  obtain ⟨next, hnext, rfl⟩ : ∃ next, devices[i + 1]? = some next ∧ next.blockOffset = o := by
    simpa using ho
  have hstop := laid.stop_eq hi
  rw [Member.stop, laid.sectorOffset_eq_mul hi] at hstop
  have := laid.blockOffset_mul hnext
  simp only [sectorsToBlocks, sectorsPerBlock] at hl
  omega

end LaidOut

/-! ## Translation in a set -/

namespace DeviceSet

variable {set : DeviceSet} {b i l : Nat} {d : Backing}

theorem blockOffsets_eq (set : DeviceSet) :
    set.blockOffsets = (membersOf set.devices).map Member.blockOffset := by
  simp [blockOffsets, membersOf]

theorem member_getElem? (hi : set.devices[i]? = some d) :
    (membersOf set.devices)[i]? = some d.toMember := by
  simp [membersOf, hi]

/-- A block belongs to the device at an index, where it has a local number. No other device owns
it, a search by halving finds the same one, and a whole block stays within its owner. -/
structure BlockOwner (set : DeviceSet) (b i l : Nat) (d : Backing) : Prop where
  found : Layout.blockOwner? set.blockOffsets b = some (i, l)
  device : set.devices[i]? = some d
  local_eq : d.blockOffset + l = b
  unique : ∀ j, Layout.Owns set.blockOffsets j b ↔ j = i
  searched : Layout.search set.blockOffsets b = i
  inside : b < sectorsToBlocks set.capacity → l < sectorsToBlocks d.capacity

theorem BlockOwner.blockOwner?_eq (owner : set.BlockOwner b i l d) :
    set.blockOwner? b = some (d, l) := by
  simp [blockOwner?, owner.found, deviceAt, owner.device]

namespace Coherent

variable (coherent : set.Coherent)
include coherent

theorem blockOffsets_sorted : set.blockOffsets.Pairwise (· < ·) := by
  rw [blockOffsets_eq]
  exact coherent.laid.offsets_sorted

theorem exists_blockOffsets : ∃ rest, set.blockOffsets = 0 :: rest := by
  have hlaid := coherent.laid.endToEnd
  cases hdevices : set.devices with
  | nil => exact absurd hdevices coherent.nonempty
  | cons first rest =>
    rw [hdevices] at hlaid
    have hfirst : first.blockOffset = 0 := hlaid.1
    exact ⟨rest.map (·.blockOffset), by simp [blockOffsets, hdevices, hfirst]⟩

/-- **Every block has an owner.** -/
theorem exists_blockOwner (b : Nat) : ∃ i l d, set.BlockOwner b i l d := by
  obtain ⟨rest, hoffsets⟩ := coherent.exists_blockOffsets
  cases howner : Layout.blockOwner? set.blockOffsets b with
  | none =>
    have := Layout.lt_of_owner?_eq_none howner 0 (by simp [hoffsets])
    omega
  | some found =>
    obtain ⟨i, l⟩ := found
    obtain ⟨o, ho, hlocal⟩ := Layout.owner?_eq_some howner
    obtain ⟨d, hd, rfl⟩ : ∃ d, set.devices[i]? = some d ∧ d.blockOffset = o := by
      simpa [blockOffsets] using ho
    have howns := Layout.owns_of_owner? howner
    have hunique (j : Nat) : Layout.Owns set.blockOffsets j b ↔ j = i :=
      ⟨fun hj => hj.unique coherent.blockOffsets_sorted howns, fun hj => hj ▸ howns⟩
    refine ⟨i, l, d, howner, hd, hlocal, hunique,
      (hunique _).mp (Layout.owns_search hoffsets b), fun hb => ?_⟩
    rw [coherent.capacity_eq] at hb
    rw [blockOffsets_eq] at howns
    have := coherent.laid.block_local_lt (member_getElem? hd) howns hb
    omega

/-- Each whole block of a device is the translation of just one block. -/
theorem blockOwner?_eq_some_iff (hi : set.devices[i]? = some d)
    (hl : l < sectorsToBlocks d.capacity) :
    Layout.blockOwner? set.blockOffsets b = some (i, l) ↔ b = d.blockOffset + l := by
  constructor
  · intro h
    obtain ⟨o, ho, hlocal⟩ := Layout.owner?_eq_some h
    obtain rfl : d.blockOffset = o := by simpa [blockOffsets, hi] using ho
    exact hlocal.symm
  · rintro rfl
    obtain ⟨j, m, e, owner⟩ := coherent.exists_blockOwner (d.blockOffset + l)
    have howns := coherent.laid.owns_local (member_getElem? hi) hl
    rw [← blockOffsets_eq] at howns
    obtain rfl := (owner.unique i).mp howns
    obtain rfl : e = d := Option.some.inj (owner.device.symm.trans hi)
    have hlocal := owner.local_eq
    rw [owner.found, show m = l by omega]

theorem local_block_lt (hi : set.devices[i]? = some d) (hl : l < sectorsToBlocks d.capacity) :
    d.blockOffset + l < sectorsToBlocks set.capacity := by
  have hstop := coherent.laid.stop_le_total (member_getElem? hi)
  rw [Member.stop, coherent.laid.sectorOffset_eq_mul (member_getElem? hi),
    ← coherent.capacity_eq] at hstop
  simp only [sectorsToBlocks, sectorsPerBlock] at *
  omega

/-- A sector goes to the owner of its block, and keeps its place within the block. -/
theorem sectorOwner?_eq {t : Nat} (owner : set.BlockOwner (t / 8) i l d) :
    Layout.sectorOwner? set.blockOffsets t = some (i, 8 * l + t % 8) ∧
      (t < set.capacity → 8 * l + t % 8 < d.capacity) := by
  constructor
  · rw [Layout.sectorOwner?, blockOffsets_eq, coherent.laid.sectorOffsets_eq,
      Layout.owner?_scale, ← blockOffsets_eq, ← Layout.blockOwner?, owner.found]
    rfl
  · intro ht
    rw [coherent.capacity_eq] at ht
    have howns := (owner.unique i).mpr rfl
    rw [blockOffsets_eq] at howns
    have hlocal := owner.local_eq
    have := coherent.laid.sector_local_lt (member_getElem? owner.device) howns ht
    rwa [show t / 8 - d.toMember.blockOffset = l by omega] at this

end Coherent

/-- A later block has a later owner, or a larger number within the same one. -/
theorem blockOwner?_strictMono {b' i' l' : Nat} (hlt : b < b')
    (h : Layout.blockOwner? set.blockOffsets b = some (i, l))
    (h' : Layout.blockOwner? set.blockOffsets b' = some (i', l')) :
    i < i' ∨ i = i' ∧ l < l' := by
  obtain ⟨o, ho, hlocal⟩ := Layout.owner?_eq_some h
  obtain ⟨o', ho', hlocal'⟩ := Layout.owner?_eq_some h'
  rcases Nat.lt_trichotomy i i' with hi | rfl | hi
  · exact .inl hi
  · obtain rfl : o = o' := by simpa [ho] using ho'
    exact .inr ⟨rfl, by omega⟩
  · have := Layout.owner?_lt_later h' hi ho
    omega

/-! ## No block without an owner -/

/-- Only an overflow of the block's first byte is left to break a promise. -/
theorem readBlock_ne_blockLayout (owner : set.BlockOwner b i l d) (s : Storage) :
    set.readBlock s b ≠ .error (.broken .blockLayout) := by
  simp only [readBlock, owner.blockOwner?_eq, Backing.readBlock, Backing.file, Backing.short]
  cases Backing.blockStart? l with
  | none => simp
  | some start =>
    cases d.handle with
    | none => simp
    | some hd =>
      dsimp only
      split
      · simp
      · split <;> simp

theorem writeBlock_ne_blockLayout (owner : set.BlockOwner b i l d) (s : Storage)
    (bytes : Array UInt8) :
    (set.writeBlock s b bytes).2 ≠ .error (.broken .blockLayout) := by
  simp only [writeBlock, owner.blockOwner?_eq, Backing.writeBlock, Backing.file, Backing.short]
  cases Backing.blockStart? l with
  | none => simp
  | some start =>
    cases d.handle with
    | none => simp
    | some hd =>
      dsimp only
      split
      · simp
      · split <;> simp

/-- **Translation is a bijection that keeps the order.** Every block has one owner and one local
number, and every whole block of a device is the translation of one block of the space; a later
block comes later on its device, or on a later device. A sector goes the same way as its block. -/
theorem translation_bijective {s : Storage} {label : Option String} {devices : List Backing}
    {emulated : Option Nat} {set : DeviceSet} (h : assemble s label devices emulated = .ok set)
    (opened : ∀ d ∈ devices, d.Opened) :
    (∀ b, ∃ i l d, set.BlockOwner b i l d ∧ set.blockOwner? b = some (d, l) ∧
      ∀ (s' : Storage) (bytes : Array UInt8),
        set.readBlock s' b ≠ .error (.broken .blockLayout) ∧
          (set.writeBlock s' b bytes).2 ≠ .error (.broken .blockLayout)) ∧
    (∀ i l d, set.devices[i]? = some d → l < sectorsToBlocks d.capacity →
      ∃ b, b < sectorsToBlocks set.capacity ∧
        ∀ c, Layout.blockOwner? set.blockOffsets c = some (i, l) ↔ c = b) ∧
    (∀ b b' i i' l l', b < b' → Layout.blockOwner? set.blockOffsets b = some (i, l) →
      Layout.blockOwner? set.blockOffsets b' = some (i', l') → i < i' ∨ i = i' ∧ l < l') ∧
    (∀ t, ∃ i l d, set.BlockOwner (t / 8) i l d ∧
      Layout.sectorOwner? set.blockOffsets t = some (i, 8 * l + t % 8) ∧
      set.sectorOwner? t = some (d, 8 * l + t % 8) ∧
      (t < set.capacity → 8 * l + t % 8 < d.capacity)) := by
  have coherent := coherent_of_assemble h opened
  refine ⟨fun b => ?_, fun i l d hi hl => ?_, fun b b' i i' l l' => blockOwner?_strictMono,
    fun t => ?_⟩
  · obtain ⟨i, l, d, owner⟩ := coherent.exists_blockOwner b
    exact ⟨i, l, d, owner, owner.blockOwner?_eq, fun s' bytes =>
      ⟨readBlock_ne_blockLayout owner s', writeBlock_ne_blockLayout owner s' bytes⟩⟩
  · exact ⟨d.blockOffset + l, coherent.local_block_lt hi hl, fun c =>
      coherent.blockOwner?_eq_some_iff hi hl⟩
  · obtain ⟨i, l, d, owner⟩ := coherent.exists_blockOwner (t / 8)
    obtain ⟨hsector, hinside⟩ := coherent.sectorOwner?_eq owner
    refine ⟨i, l, d, owner, hsector, ?_, hinside⟩
    simp [sectorOwner?, hsector, deviceAt, owner.device]

/-- Two image files as one space. -/
theorem translation_bijective_imageSet :
    assemble twoImages none [imageA, imageB] (some 8) = .ok imageSet ∧
      (∀ d ∈ [imageA, imageB], d.Opened) ∧
      ∃ b, b < sectorsToBlocks imageSet.capacity ∧
        ∀ c, Layout.blockOwner? imageSet.blockOffsets c = some (1, 0) ↔ c = b := by
  have opened : ∀ d ∈ [imageA, imageB], d.Opened := by
    intro d hd
    obtain ⟨path, -, hopen⟩ := openDevices_ok openDevices_twoImages d hd
    exact ⟨_, _, _, _, path, d, hopen, .inl rfl⟩
  refine ⟨assemble_twoImages, opened, ?_⟩
  exact (translation_bijective assemble_twoImages opened).2.1 1 0 _ rfl (by decide)

end DeviceSet

end ZonedSet
