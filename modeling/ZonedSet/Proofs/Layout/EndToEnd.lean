/-
ZonedSet.Proofs.Layout.EndToEnd — what it means that devices lie end to end, and who owns a
sector then.

`LaidOut` is the promise under which a set's zones are collected: the first device begins at block
zero, every other one where the one before ends, all but the last end on a block boundary, and
the whole space fits a 64-bit word. The spans of the devices then cut the space into consecutive
stretches (`LaidOut.stop_le`, `LaidOut.holds_unique`), and the look-up of a sector finds the
device whose span holds it (`LaidOut.sectorOwner?_eq`).

The proofs go along the list of devices, with the block at which the list begins as the variable
that the induction generalises over.
-/
import ZonedSet.Report.Walk

namespace ZonedSet

/-! ## Sums over the devices -/

@[simp] theorem totalCapacity_nil : totalCapacity [] = 0 := rfl

@[simp] theorem totalCapacity_cons (d : Member) (rest : List Member) :
    totalCapacity (d :: rest) = d.capacity + totalCapacity rest := rfl

@[simp] theorem totalZones_nil : totalZones [] = 0 := rfl

@[simp] theorem totalZones_cons (d : Member) (rest : List Member) :
    totalZones (d :: rest) = d.zoneCount + totalZones rest := rfl

theorem totalCapacity_append (before after : List Member) :
    totalCapacity (before ++ after) = totalCapacity before + totalCapacity after := by
  induction before with
  | nil => simp
  | cons first rest ih =>
    rw [List.cons_append, totalCapacity_cons, totalCapacity_cons, ih]
    omega

theorem totalCapacity_take_succ {devices : List Member} {i : Nat} {dev : Member}
    (hi : devices[i]? = some dev) :
    totalCapacity (devices.take (i + 1)) = totalCapacity (devices.take i) + dev.capacity := by
  rw [List.take_add_one, hi, totalCapacity_append]
  simp

/-- The capacities of the devices before a device, and its own, are among all capacities. -/
theorem totalCapacity_take_add_le {devices : List Member} {i : Nat} {dev : Member}
    (hi : devices[i]? = some dev) :
    totalCapacity (devices.take i) + dev.capacity ≤ totalCapacity devices := by
  have hall := totalCapacity_append (devices.take (i + 1)) (devices.drop (i + 1))
  rw [List.take_append_drop, totalCapacity_take_succ hi] at hall
  omega

/-! ## Spans -/

/-- The first global sector after the device's span. -/
def Member.stop (d : Member) : Nat := d.sectorOffset + d.capacity

/-- The device's span holds a global sector. -/
def Member.Holds (d : Member) (sector : Nat) : Prop := d.sectorOffset ≤ sector ∧ sector < d.stop

instance (d : Member) (sector : Nat) : Decidable (d.Holds sector) :=
  inferInstanceAs (Decidable (_ ∧ _))

/-! ## Devices end to end -/

/-- The devices lie end to end from a block on. No device is empty, and only the last may end
within a block. -/
def EndToEnd (block : Nat) : List Member → Prop
  | [] => True
  | d :: rest =>
    d.blockOffset = block ∧ 0 < d.capacity ∧ (rest ≠ [] → d.capacity % sectorsPerBlock = 0) ∧
      EndToEnd (block + sectorsToBlocks d.capacity) rest

instance decidableEndToEnd : (block : Nat) → (devices : List Member) →
    Decidable (EndToEnd block devices)
  | _, [] => .isTrue trivial
  | block, d :: rest =>
    have := decidableEndToEnd (block + sectorsToBlocks d.capacity) rest
    inferInstanceAs (Decidable (_ ∧ _ ∧ _ ∧ _))

/-- The block offsets alone lie end to end: each device begins at the block where the one before it
ends. Only the last device may end within a block, and any device may be empty. -/
def Contiguous (block : Nat) : List Member → Prop
  | [] => True
  | d :: rest =>
    d.blockOffset = block ∧ (rest ≠ [] → d.capacity % sectorsPerBlock = 0) ∧
      Contiguous (block + sectorsToBlocks d.capacity) rest

/-- The devices lie end to end from block zero on, within 64-bit words. -/
structure LaidOut (devices : List Member) : Prop where
  endToEnd : EndToEnd 0 devices
  capacity_lt : totalCapacity devices < Word.limit

instance (devices : List Member) : Decidable (LaidOut devices) :=
  decidable_of_iff (EndToEnd 0 devices ∧ totalCapacity devices < Word.limit)
    ⟨fun h => ⟨h.1, h.2⟩, fun h => ⟨h.1, h.2⟩⟩

/-- Each device brings as many zones as it takes to cover its capacity. -/
def Counted (zoneSectors : Nat) (devices : List Member) : Prop :=
  ∀ d ∈ devices, pieces? d.capacity zoneSectors = some d.zoneCount

instance (zoneSectors : Nat) (devices : List Member) : Decidable (Counted zoneSectors devices) :=
  inferInstanceAs (Decidable (∀ d ∈ devices, _))

theorem pos_of_pieces? {total size n : Nat} (h : pieces? total size = some n) : 0 < size := by
  rcases Nat.eq_zero_or_pos size with rfl | hpos
  · cases h
  · exact hpos

/-- The pieces are those that begin below the total. -/
theorem lt_iff_of_pieces? {total size n : Nat} (h : pieces? total size = some n) (k : Nat) :
    k < n ↔ k * size < total := by
  have hpos := pos_of_pieces? h
  rw [pieces?, if_neg (by omega)] at h
  rw [← Option.some.inj h, ← Nat.succ_le_iff, Nat.le_div_iff_mul_le hpos, Nat.succ_mul]
  omega

theorem EndToEnd.head {block : Nat} {d : Member} {rest : List Member}
    (h : EndToEnd block (d :: rest)) (hlt : block * 8 + totalCapacity (d :: rest) < Word.limit) :
    d.sectorOffset = block * 8 := by
  rw [totalCapacity_cons] at hlt
  rw [Member.sectorOffset, h.1]
  exact blocksToSectors_of_lt (by omega)

/-- The devices after the first lie end to end from the sector on where the first one ends. -/
theorem EndToEnd.tail {block : Nat} {d : Member} {rest : List Member}
    (h : EndToEnd block (d :: rest)) (hlt : block * 8 + totalCapacity (d :: rest) < Word.limit)
    (hne : rest ≠ []) :
    ∃ next, EndToEnd next rest ∧ next * 8 = block * 8 + d.capacity ∧
      next * 8 + totalCapacity rest < Word.limit := by
  obtain ⟨-, -, haligned, hrest⟩ := h
  have haligned := haligned hne
  rw [totalCapacity_cons] at hlt
  refine ⟨_, hrest, ?_, ?_⟩
  · simp only [sectorsPerBlock, sectorsToBlocks] at *
    omega
  · simp only [sectorsPerBlock, sectorsToBlocks] at *
    omega

theorem EndToEnd.contiguous {block : Nat} {devices : List Member} (h : EndToEnd block devices) :
    Contiguous block devices := by
  induction devices generalizing block with
  | nil => trivial
  | cons d rest ih => exact ⟨h.1, h.2.2.1, ih h.2.2.2⟩

/-- A device begins at the block up to which the capacities of the devices before it reach. -/
theorem Contiguous.blockOffset_mul {block : Nat} {devices : List Member} {i : Nat} {dev : Member}
    (h : Contiguous block devices) (hi : devices[i]? = some dev) :
    dev.blockOffset * 8 = block * 8 + totalCapacity (devices.take i) := by
  induction devices generalizing block i with
  | nil => simp at hi
  | cons d rest ih =>
    obtain ⟨hblock, haligned, hrest⟩ := h
    cases i with
    | zero =>
      obtain rfl : d = dev := by simpa using hi
      simp [hblock]
    | succ i =>
      have hi : rest[i]? = some dev := by simpa using hi
      have haligned := haligned (by rintro rfl; simp at hi)
      simp only [sectorsPerBlock] at haligned
      rw [ih hrest hi, List.take_succ_cons, totalCapacity_cons, sectorsToBlocks, sectorsPerBlock]
      omega

/-- A device begins where the capacities of the devices before it end. -/
theorem Contiguous.sectorOffset_eq {block : Nat} {devices : List Member} {i : Nat} {dev : Member}
    (h : Contiguous block devices) (hlt : block * 8 + totalCapacity devices < Word.limit)
    (hi : devices[i]? = some dev) :
    dev.sectorOffset = block * 8 + totalCapacity (devices.take i) := by
  have hoffset := h.blockOffset_mul hi
  have hle := totalCapacity_take_add_le hi
  rw [Member.sectorOffset, blocksToSectors_of_lt (by omega), hoffset]

theorem EndToEnd.capacity_pos {block : Nat} {devices : List Member} {dev : Member}
    (h : EndToEnd block devices) (hmem : dev ∈ devices) : 0 < dev.capacity := by
  induction devices generalizing block with
  | nil => cases hmem
  | cons d rest ih =>
    obtain ⟨-, hpos, -, hrest⟩ := h
    rcases List.mem_cons.mp hmem with rfl | hmem
    · exact hpos
    · exact ih hrest hmem

/-- No sector of the space lies between two spans. -/
theorem EndToEnd.exists_holds {block sector : Nat} {devices : List Member}
    (h : EndToEnd block devices) (hlt : block * 8 + totalCapacity devices < Word.limit)
    (hge : block * 8 ≤ sector) (hs : sector < block * 8 + totalCapacity devices) :
    ∃ (i : Nat) (dev : Member), devices[i]? = some dev ∧ dev.Holds sector := by
  induction devices generalizing block with
  | nil =>
    rw [totalCapacity_nil] at hs
    omega
  | cons d rest ih =>
    have hoff := h.head hlt
    rw [totalCapacity_cons] at hs
    by_cases hd : sector < block * 8 + d.capacity
    · exact ⟨0, d, rfl, by rw [hoff]; exact hge, by rw [Member.stop, hoff]; exact hd⟩
    · have hne : rest ≠ [] := by
        rintro rfl
        rw [totalCapacity_nil] at hs
        omega
      obtain ⟨next, hrest, hnext, hlt⟩ := h.tail hlt hne
      obtain ⟨i, dev, hi, hdev⟩ := ih hrest hlt (by omega) (by omega)
      exact ⟨i + 1, dev, by simpa using hi, hdev⟩

/-! ## Facts on a layout -/

variable {devices : List Member} {i j : Nat} {dev other : Member}

namespace LaidOut

variable (laid : LaidOut devices)
include laid

theorem sectorOffset_eq (hi : devices[i]? = some dev) :
    dev.sectorOffset = totalCapacity (devices.take i) := by
  have h := laid.endToEnd.contiguous.sectorOffset_eq (by simpa using laid.capacity_lt) hi
  simpa using h

/-- Every span ends within the space. -/
theorem stop_le_total (hi : devices[i]? = some dev) : dev.stop ≤ totalCapacity devices := by
  rw [Member.stop, laid.sectorOffset_eq hi]
  exact totalCapacity_take_add_le hi

/-- A device that comes later begins after the span of one that comes earlier. -/
theorem stop_le (hi : devices[i]? = some dev) (hj : devices[j]? = some other) (hij : i < j) :
    dev.stop ≤ other.sectorOffset := by
  have hi' : (devices.take j)[i]? = some dev := by rw [List.getElem?_take, if_pos hij, hi]
  have hsum := totalCapacity_take_add_le hi'
  rw [List.take_take, Nat.min_eq_left (by omega)] at hsum
  rw [Member.stop, laid.sectorOffset_eq hi, laid.sectorOffset_eq hj]
  exact hsum

/-- No two spans overlap. -/
theorem holds_unique {sector : Nat} (hi : devices[i]? = some dev) (hj : devices[j]? = some other)
    (hdev : dev.Holds sector) (hother : other.Holds sector) : i = j := by
  obtain ⟨hdev, hdev'⟩ := hdev
  obtain ⟨hother, hother'⟩ := hother
  rcases Nat.lt_trichotomy i j with hij | hij | hij
  · have := laid.stop_le hi hj hij
    omega
  · exact hij
  · have := laid.stop_le hj hi hij
    omega

theorem exists_holds {sector : Nat} (hs : sector < totalCapacity devices) :
    ∃ (i : Nat) (dev : Member), devices[i]? = some dev ∧ dev.Holds sector :=
  laid.endToEnd.exists_holds (by simpa using laid.capacity_lt) (by omega) (by simpa using hs)

end LaidOut

/-! ## The look-up of a sector -/

/-- A number below every offset has no owner. -/
theorem Layout.owner?_eq_none {n : Nat} {offsets : List Nat} (h : ∀ o ∈ offsets, n < o) :
    Layout.owner? n offsets = none := by
  induction offsets with
  | nil => rfl
  | cons o rest ih =>
    have ho := h o (by simp)
    rw [Layout.owner?, ih fun p hp => h p (by simp [hp])]
    exact if_neg (by omega)

theorem Layout.lt_of_owner?_eq_none {n : Nat} {offsets : List Nat}
    (h : Layout.owner? n offsets = none) : ∀ o ∈ offsets, n < o := by
  induction offsets with
  | nil => simp
  | cons first rest ih =>
    rw [Layout.owner?] at h
    split at h
    · cases h
    · rename_i hrest
      split at h
      · cases h
      · rename_i hfirst
        exact List.forall_mem_cons.mpr ⟨by omega, ih hrest⟩

/-- No later offset than the owner's is low enough. -/
theorem Layout.owner?_lt_later {n i j l p : Nat} {offsets : List Nat}
    (h : Layout.owner? n offsets = some (i, l)) (hij : i < j) (hj : offsets[j]? = some p) :
    n < p := by
  induction offsets generalizing i j l with
  | nil => simp at hj
  | cons first rest ih =>
    obtain ⟨j, rfl⟩ : ∃ k, j = k + 1 := ⟨j - 1, by omega⟩
    have hj : rest[j]? = some p := by simpa using hj
    rw [Layout.owner?] at h
    split at h
    · rename_i k m hrest
      obtain ⟨rfl, rfl⟩ : k + 1 = i ∧ m = l := by simpa using h
      exact ih hrest (by omega) hj
    · rename_i hrest
      exact Layout.lt_of_owner?_eq_none hrest p (List.mem_of_getElem? hj)

/-- The last offset that is low enough owns the number, if the later ones are not. -/
theorem Layout.owner?_eq_of_split {n offset : Nat} (before : List Nat) {after : List Nat}
    (hle : offset ≤ n) (hafter : ∀ o ∈ after, n < o) :
    Layout.owner? n (before ++ offset :: after) = some (before.length, n - offset) := by
  induction before with
  | nil =>
    rw [List.nil_append, Layout.owner?, Layout.owner?_eq_none hafter]
    exact if_pos hle
  | cons o rest ih => rw [List.cons_append, Layout.owner?, ih]; rfl

/-- Where block offsets lie end to end, every sector of the space has an owner, and is one of the
owner's own sectors. What is left of the owner from there on is within the space. -/
theorem Contiguous.exists_sectorOwner (h : Contiguous 0 devices)
    (hlt : totalCapacity devices < Word.limit) {sector : Nat}
    (hs : sector < totalCapacity devices) :
    ∃ (i start : Nat) (dev : Member),
      Layout.sectorOwner? (devices.map Member.blockOffset) sector = some (i, start) ∧
        devices[i]? = some dev ∧ start < dev.capacity ∧
        sector + (dev.capacity - start) ≤ totalCapacity devices := by
  have hoffset {i : Nat} {dev : Member} (hi : devices[i]? = some dev) :
      dev.sectorOffset = totalCapacity (devices.take i) := by
    simpa using h.sectorOffset_eq (by simpa using hlt) hi
  rw [Layout.sectorOwner?, List.map_map]
  cases howner : Layout.owner? sector (devices.map (blocksToSectors ∘ Member.blockOffset)) with
  | none =>
    -- The first device begins at sector zero.
    cases devices with
    | nil => simp at hs
    | cons first rest =>
      have hfirst : first.sectorOffset = 0 := hoffset (i := 0) rfl
      have := Layout.lt_of_owner?_eq_none howner first.sectorOffset (by simp [Member.sectorOffset])
      omega
  | some found =>
    obtain ⟨i, start⟩ := found
    obtain ⟨o, ho, hlocal⟩ := Layout.owner?_eq_some howner
    obtain ⟨dev, hi, rfl⟩ : ∃ dev, devices[i]? = some dev ∧ dev.sectorOffset = o := by
      rw [List.getElem?_map] at ho
      exact Option.map_eq_some_iff.mp ho
    have hbefore := hoffset hi
    have hall := totalCapacity_take_add_le hi
    suffices hstart : start < dev.capacity from ⟨i, start, dev, rfl, hi, hstart, by omega⟩
    have hafter := totalCapacity_take_succ hi
    cases hnext : devices[i + 1]? with
    | some next =>
      have hlater := Layout.owner?_lt_later howner (Nat.lt_succ_self i)
        (show _ = some next.sectorOffset by simp [hnext, Member.sectorOffset])
      have := hoffset hnext
      omega
    | none =>
      rw [List.take_of_length_le (List.getElem?_eq_none_iff.mp hnext)] at hafter
      omega

/-- **The owner of a sector is the device whose span holds it.** -/
theorem LaidOut.sectorOwner?_eq (laid : LaidOut devices) {sector : Nat}
    (hi : devices[i]? = some dev) (hs : dev.Holds sector) :
    Layout.sectorOwner? (devices.map Member.blockOffset) sector =
      some (i, sector - dev.sectorOffset) := by
  obtain ⟨hlt, hdev⟩ := List.getElem?_eq_some_iff.mp hi
  have hsplit : devices = devices.take i ++ dev :: devices.drop (i + 1) := by
    rw [← hdev, List.getElem_cons_drop, List.take_append_drop]
  have hafter : ∀ o ∈ (devices.drop (i + 1)).map Member.sectorOffset, sector < o := by
    intro o ho
    obtain ⟨other, hmem, rfl⟩ := List.mem_map.mp ho
    obtain ⟨k, hk⟩ := List.mem_iff_getElem?.mp hmem
    rw [List.getElem?_drop] at hk
    have := laid.stop_le hi hk (by omega)
    have := hs.2
    omega
  have howner := Layout.owner?_eq_of_split ((devices.take i).map Member.sectorOffset) hs.1 hafter
  have hlen : (devices.take i).length = i := by simp; omega
  rw [Layout.sectorOwner?, List.map_map]
  conv => lhs; rw [hsplit]
  rw [List.map_append, List.map_cons]
  rw [List.length_map, hlen] at howner
  exact howner

end ZonedSet
