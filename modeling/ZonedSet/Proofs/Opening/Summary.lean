/-
ZonedSet.Proofs.Opening.Summary — the sizes in the summary of a set, and when there is one.

A summary shows lengths in sectors, each with its size in MiB, or in GiB for a whole device. For a
size the sectors are multiplied to bytes, and then divided. The product has to be a word, so a
length of 2^55 sectors or more has no size, and a text that would show it does not come about
(`sectorsText?_eq`).

No device is so long, because its length was counted in bytes to begin with
(`capacity_mul_lt_of_openAt`). Nor is a zone of another length than the common one, which ends where
its device ends. The common length itself has no such bound. It comes from the caller or out of the
sysfs tree, and all that is asked of it is that it is a positive number of whole blocks.
-/
import ZonedSet.Proofs.Opening.Assembling
import ZonedSet.Proofs.Walk.Lengths

namespace ZonedSet

/-! ## Sizes in words -/

/-- How many bytes a number of sectors has. -/
def exactBytes (sectors : Nat) : Nat := sectors * bytesPerSector

variable {s : Storage} {options : OpenOptions} {paths : List String} {d : Backing}
  {set : DeviceSet} {z : Zone}

/-- A device in three lines of words, with its exact size. -/
def Backing.summary (d : Backing) : List String :=
  [d.path ++ s!": {d.capacity} 512-byte sectors (" ++
      toString (exactBytes d.capacity / bytesPerGiB) ++ " GiB)",
    "  " ++ d.model.text,
    s!"  {d.zoneCount} zones, offset {d.blockOffset}"]

theorem Backing.describe?_eq (h : exactBytes d.capacity < Word.limit) :
    d.describe? = some d.summary := by
  rw [describe?, Word.mul?_of_lt h]
  rfl

namespace DeviceSet

/-- A length in sectors, with its exact size in whole MiB. -/
def lengthText (sectors : Nat) : String :=
  s!"{sectors} 512-byte sectors (" ++ toString (exactBytes sectors / bytesPerMiB) ++ " MiB)"

/-- **One length.** Its size is shown right if its bytes can be counted in a word, or else not at
all. -/
theorem sectorsText?_eq (sectors : Nat) :
    sectorsText? sectors =
      if exactBytes sectors < Word.limit then some (lengthText sectors) else none := by
  split
  · rename_i hlt
    rw [sectorsText?, Word.mul?_of_lt hlt]
    rfl
  · rename_i hlimit
    rw [sectorsText?, Word.mul?_eq_none_iff.mpr (Nat.not_lt.mp hlimit)]
    rfl

/-- The zones in words, with their exact sizes. -/
def summary (set : DeviceSet) : List String :=
  let (full, runts) := set.zones.toList.partition fun z => z.length == set.zoneSectors
  (s!"  {full.length} zones of " ++ lengthText set.zoneSectors) ::
    (runts.map fun z => "  1 runt zone of " ++ lengthText z.length) ++
    [s!"  {set.zoneBlocks} 4KB data blocks per zone"]

/-- The sizes of all lengths whose bytes can be counted. -/
theorem mapM_sectorsText? (zones : List Zone)
    (h : ∀ z ∈ zones, exactBytes z.length < Word.limit) :
    zones.mapM (fun z => sectorsText? z.length) =
      some (zones.map fun z => lengthText z.length) := by
  induction zones with
  | nil => rfl
  | cons z rest ih =>
    obtain ⟨hz, hrest⟩ := List.forall_mem_cons.mp h
    rw [List.mapM_cons, sectorsText?_eq, if_pos hz, ih hrest]
    rfl

/-- Where the bytes of all other lengths can be counted, the summary hangs on the common one. -/
theorem describe?_eq (h : ∀ z ∈ set.zones.toList, z.length ≠ set.zoneSectors →
      exactBytes z.length < Word.limit) :
    set.describe? =
      if exactBytes set.zoneSectors < Word.limit then some set.summary else none := by
  have hrunts := mapM_sectorsText?
    (set.zones.toList.filter (not ∘ fun z => z.length == set.zoneSectors)) fun z hz => by
      obtain ⟨hz, hne⟩ := List.mem_filter.mp hz
      exact h z hz (by simpa using hne)
  rw [describe?, List.partition_eq_filter_filter]
  dsimp only
  rw [hrunts, sectorsText?_eq]
  split
  · simp [summary, List.partition_eq_filter_filter, Function.comp_def]
  · rfl

/-! ## Where the lengths come from -/

/-- A zone of another length than the common one is a part of a device. -/
theorem length_le_capacity (h : openAt s options paths = .ok set) (hz : z ∈ set.zones.toList)
    (hne : z.length ≠ set.zoneSectors) : ∃ d ∈ set.devices, z.length ≤ d.capacity := by
  have laid := (coherent_of_openAt h).laid
  obtain ⟨devices, -, -, h⟩ := exists_assemble_of_openAt h
  obtain ⟨adopted, stages⟩ := exists_stages h
  obtain ⟨passes, account⟩ := exists_account stages.collected
  obtain ⟨p, -, hz, earlier, step⟩ := account.exists_step hz
  obtain ⟨member, hmember, hlengths⟩ := step.length_ne laid
  obtain ⟨hstart, hstop, -⟩ := hlengths z hz hne
  obtain ⟨d, hd, rfl⟩ := List.mem_map.mp (List.mem_of_getElem? hmember)
  have hend : d.stop = d.sectorOffset + d.capacity := rfl
  exact ⟨d, hd, by omega⟩

/-- Where the zone size of a set comes from. -/
inductive SizeFrom (s : Storage) (options : OpenOptions) (set : DeviceSet) : Prop where
  /-- From the caller, if no device is zoned. -/
  | caller (regular : ∀ d ∈ set.devices, d.model.isZoned = false)
      (given : options.zoneSectors = some set.zoneSectors)
  /-- From what is published for a zoned device. -/
  | device (d : Backing) (member : d ∈ set.devices) (zoned : d.model.isZoned = true)
      (published : Sysfs.zoneSectors s options.config.sysfsRoot d.name = .ok set.zoneSectors)

theorem sizeFrom_of_openAt (h : openAt s options paths = .ok set) : set.SizeFrom s options := by
  obtain ⟨devices, hdevices, opened, h⟩ := exists_assemble_of_openAt h
  have hsame := (assemble_ok h opened).1
  obtain ⟨adopted, stages⟩ := exists_stages h
  obtain ⟨first, rest, rfl, hchosen⟩ := stages.chosen
  obtain ⟨hagree, ⟨d, hd, hzoned⟩ | ⟨hregular, hgiven, -⟩⟩ := chooseZoneSize_cases hchosen
  · obtain ⟨path, -, hopen⟩ := openDevices_ok hdevices d hd
    have hpublished := Backing.published_of_openAt hopen hzoned
    rw [hagree d hd hzoned] at hpublished
    obtain ⟨e, he, hsame⟩ := Backing.exists_of_map_unplaced hsame.symm hd
    rw [Backing.model_eq_of_unplaced_eq hsame] at hzoned
    rw [Backing.name_eq_of_unplaced_eq hsame] at hpublished
    exact .device e he hzoned hpublished
  · refine .caller (fun e he => ?_) hgiven
    obtain ⟨d, hd, hsame⟩ := Backing.exists_of_map_unplaced hsame he
    rw [Backing.model_eq_of_unplaced_eq hsame]
    exact hregular d hd

/-! ## The summaries -/

/-- The bytes of a set's lengths, and whether its summaries come about and show them right. -/
structure Summarized (s : Storage) (options : OpenOptions) (set : DeviceSet) : Prop where
  device_lt : ∀ d ∈ set.devices, exactBytes d.capacity < Word.limit
  device_eq : ∀ d ∈ set.devices, d.describe? = some d.summary
  runt_lt : ∀ z ∈ set.zones.toList, z.length ≠ set.zoneSectors →
    exactBytes z.length < Word.limit
  sizeFrom : set.SizeFrom s options
  /-- What is left open. -/
  describe?_eq : set.describe? =
    if exactBytes set.zoneSectors < Word.limit then some set.summary else none

/-- **What the summaries of a set show.** The bytes of every device can be counted in a word, and so
can those of a zone of another length than the common one, and their sizes are shown right. The
common length is taken as it is given. The summary of the set is right if its bytes can be counted
in a word, too, and there is none if they cannot. -/
theorem openAt_summarized (bounded : s.Bounded) (h : openAt s options paths = .ok set) :
    set.Summarized s options := by
  have hdevice : ∀ d ∈ set.devices, exactBytes d.capacity < Word.limit :=
    fun d => capacity_mul_lt_of_openAt bounded h
  have hrunt : ∀ z ∈ set.zones.toList, z.length ≠ set.zoneSectors →
      exactBytes z.length < Word.limit := by
    intro z hz hne
    obtain ⟨d, hd, hle⟩ := length_le_capacity h hz hne
    exact Nat.lt_of_le_of_lt (Nat.mul_le_mul_right _ hle) (hdevice d hd)
  exact
    { device_lt := hdevice
      device_eq := fun d hd => Backing.describe?_eq (hdevice d hd)
      runt_lt := hrunt
      sizeFrom := sizeFrom_of_openAt h
      describe?_eq := DeviceSet.describe?_eq hrunt }

theorem openAt_summarized_imageSet :
    twoImages.Bounded ∧ openAt twoImages inspectFiles ["/a", "/b"] = .ok imageSet ∧
      imageSet.Summarized twoImages inspectFiles :=
  ⟨bounded_twoImages, openAt_twoImages, openAt_summarized bounded_twoImages openAt_twoImages⟩

/-- Looks at files, with zones of 2^55 sectors. -/
def inspectHuge : OpenOptions := { inspectFiles with zoneSectors := some 36028797018963968 }

def hugeSet : DeviceSet where
  label := "a"
  devices := [{ imageA with zoneCount := 1, zoneSectors := 36028797018963968 }]
  capacity := 16
  zoneSectors := 36028797018963968
  zones := #[.emulated 0 16]

/-- A set opens with a zone size whose bytes are no word. It has no summary. -/
theorem hugeSet_not_described :
    twoImages.Bounded ∧ openAt twoImages inspectHuge ["/a"] = .ok hugeSet ∧
      Word.limit ≤ exactBytes hugeSet.zoneSectors ∧ hugeSet.describe? = none := by
  refine ⟨bounded_twoImages, ?_, by decide, by decide +kernel⟩
  exact eq_ok_of_toOption (by decide +kernel)

end DeviceSet

end ZonedSet
