/-
ZonedSet.Proofs.Blocks.PastEnd — transfers of blocks that a set does not have whole.

Nothing compares a block with the capacity of its set. A block past the end goes to the last
device (`DeviceSet.BlockOwner.last_of_le`), and there the file decides. It ends before the block
does, so that a read comes out short and fails. A write does not fail for that: where faults and
the largest offset let it through, it makes the file longer, and the block is there from then on.
-/
import ZonedSet.Proofs.Blocks.FlatArray

namespace ZonedSet

namespace DeviceSet

variable {s₀ s : Storage} {options : OpenOptions} {paths : List String} {set : DeviceSet}
  {d : Backing} {b i l : Nat}

/-! ## The last device -/

/-- Past the end of the set, blocks belong to the last device and are past its end. -/
theorem BlockOwner.last_of_le (owner : set.BlockOwner b i l d) (coherent : set.Coherent)
    (hb : set.capacity < 8 * (b + 1)) :
    set.devices.getLast? = some d ∧ d.capacity < 8 * (l + 1) := by
  have hlaid := coherent.laid
  have hmember := member_getElem? owner.device
  rw [coherent.capacity_eq] at hb
  have hnone : set.devices[i + 1]? = none := by
    cases hnext : set.devices[i + 1]? with
    | none => rfl
    | some next =>
      -- The next device would begin past the end.
      have hlt := ((owner.unique i).mpr rfl).2 next.blockOffset (by simp [blockOffsets, hnext])
      have hle := hlaid.stop_le_total (member_getElem? hnext)
      rw [Member.stop, hlaid.sectorOffset_eq_mul (member_getElem? hnext)] at hle
      omega
  have hlength := List.getElem?_eq_none_iff.mp hnone
  obtain ⟨hi, -⟩ := List.getElem?_eq_some_iff.mp owner.device
  constructor
  · rw [List.getLast?_eq_getElem?, show set.devices.length - 1 = i by omega]
    exact owner.device
  · have hstop := hlaid.stop_eq hmember
    have hlocal := owner.local_eq
    rw [Member.stop, hlaid.sectorOffset_eq_mul hmember,
      List.take_of_length_le (by simpa [membersOf] using hlength)] at hstop
    omega

/-! ## Image files -/

/-- Every device is an image file that has kept its size since it was opened. -/
def OnImages (set : DeviceSet) (s₀ s : Storage) : Prop :=
  ∀ d ∈ set.devices, (∀ hd, d.handle = some hd → s₀.block? hd.path = none) ∧
    (d.image? s).map Image.size = (d.image? s₀).map Image.size

/-- An image file is as long as its device, but for less than a sector. -/
theorem OnImages.exists_image (images : set.OnImages s₀ s)
    (opened : openAt s₀ options paths = .ok set) (hd : d ∈ set.devices) :
    ∃ handle image, d.handle = some handle ∧ s.fileAt? handle.node = some image ∧
      d.capacity = image.size / bytesPerSector := by
  obtain ⟨path, -, e, hsame, hopen⟩ := exists_opening opened hd
  obtain ⟨handle, image₀, hhandle, hfile₀, hcapacity⟩ := Backing.exists_image_of_openAt hopen
  rw [← Backing.handle_eq_of_unplaced_eq hsame] at hhandle
  obtain ⟨hplain, hsize⟩ := images d hd
  have himage₀ : d.image? s₀ = some image₀ :=
    Backing.image?_eq_some_iff.mpr ⟨handle, hhandle, Storage.fileAt?_eq_some_iff.mpr hfile₀⟩
  rw [himage₀, Option.map_some, Option.map_eq_some_iff] at hsize
  obtain ⟨image, himage, hsize⟩ := hsize
  obtain ⟨handle', hhandle', hfile⟩ := Backing.image?_eq_some_iff.mp himage
  obtain rfl : handle = handle' := Option.some.inj (hhandle.symm.trans hhandle')
  refine ⟨handle, image, hhandle, hfile, ?_⟩
  rw [Backing.capacity_eq_of_unplaced_eq hsame, hcapacity (hplain handle hhandle), hsize]

end DeviceSet

/-! ## Transfers -/

namespace Backing

variable {s s' : Storage} {d : Backing} {hd : Handle} {image : Image} {l global : Nat}
  {bytes : Array UInt8}

/-- A block that is not all in the file cannot be read. -/
theorem readBlock_past_end (hword : l * bytesPerBlock < Word.limit) (hhandle : d.handle = some hd)
    (hfile : s.fileAt? hd.node = some image)
    (hpast : image.size < l * bytesPerBlock + bytesPerBlock) :
    ∃ moved errno, d.readBlock s l global = .error (d.short .read global moved errno) := by
  rw [readBlock_eq hword hhandle hfile]
  cases s.allowance .read hd (l * bytesPerBlock) bytesPerBlock with
  | error e => exact ⟨0, some e, rfl⟩
  | ok most =>
    have hshort : min most (image.size - l * bytesPerBlock) ≠ bytesPerBlock := by
      have : 0 < bytesPerBlock := by decide
      omega
    exact ⟨_, none, if_neg hshort⟩

/-- A write succeeds if all of the block may be moved. -/
theorem writeBlock_eq_ok_iff (hword : l * bytesPerBlock < Word.limit)
    (hhandle : d.handle = some hd) (hfile : s.fileAt? hd.node = some image)
    (hsize : bytes.size = bytesPerBlock) :
    (d.writeBlock s l global bytes).2 = .ok () ↔
      s.allowance .write hd (l * bytesPerBlock) bytesPerBlock = .ok bytesPerBlock := by
  rw [writeBlock_eq hword hhandle hfile, hsize]
  cases s.allowance .write hd (l * bytesPerBlock) bytesPerBlock with
  | error e => simp
  | ok most => simp

/-- A write that succeeds makes the file as long as that, and the block can be read. -/
theorem writeBlock_past_end (hhandle : d.handle = some hd)
    (hfile : s.fileAt? hd.node = some image)
    (hpast : image.size < l * bytesPerBlock + bytesPerBlock)
    (hsize : bytes.size = bytesPerBlock) (hwrite : d.writeBlock s l global bytes = (s', .ok ())) :
    s'.fileAt? hd.node = some (image.write (l * bytesPerBlock) bytes) ∧
      (image.write (l * bytesPerBlock) bytes).size = l * bytesPerBlock + bytesPerBlock ∧
      (s.faultOn .read hd.path = none → d.readBlock s' l global = .ok bytes.toList) := by
  obtain ⟨hd', hhandle', hlt, rfl⟩ := patch_of_writeBlock hwrite hsize
  obtain rfl : hd = hd' := Option.some.inj (hhandle.symm.trans hhandle')
  refine ⟨?_, ?_, fun hquiet => readBlock_patch_self hhandle hfile hquiet hlt hsize⟩
  · simp [Storage.fileAt?_patch, hfile]
  · rw [Image.size_write image _ (by rw [hsize]; decide), hsize]
    exact Nat.max_eq_right (Nat.le_of_lt hpast)

theorem fileAt?_writeBlock_of_ne (hhandle : d.handle = some hd) {node : Nat}
    (hne : node ≠ hd.node) :
    (d.writeBlock s l global bytes).1.fileAt? node = s.fileAt? node := by
  rcases writeBlock_fst hhandle l global bytes with h | ⟨most, -, -, h⟩
  · rw [h]
  · rw [h, Storage.fileAt?_patch, if_neg hne]

end Backing

namespace DeviceSet

variable {s₀ s : Storage} {options : OpenOptions} {paths : List String} {set : DeviceSet}
  {d : Backing} {b : Nat}

/-- **Past the end of a set of image files, reads fail and writes do not.** Such a block is one of
the last device, and its place ends past the end of the file. A read fails and changes nothing. A
write succeeds if all of it may be moved; then the file is as long as that, and the block can be
read. However a write ends, other files stay as they are. -/
theorem transfers_past_end (opened : openAt s₀ options paths = .ok set)
    (images : set.OnImages s₀ s) (hb : set.capacity < 8 * (b + 1))
    (hlast : set.devices.getLast? = some d)
    (hoffset : (b - d.blockOffset) * bytesPerBlock < Storage.offsetLimit) :
    ∃ l hd image, d.blockOffset + l = b ∧ d.handle = some hd ∧
      s.fileAt? hd.node = some image ∧ image.size < l * bytesPerBlock + bytesPerBlock ∧
      (∃ moved errno, set.readBlock s b = .error (d.short .read b moved errno)) ∧
      (set.serve s (.read b)).1 = s ∧
      ∀ bytes, bytes.size = bytesPerBlock →
        ((set.writeBlock s b bytes).2 = .ok () ↔
          s.allowance .write hd (l * bytesPerBlock) bytesPerBlock = .ok bytesPerBlock) ∧
        (∀ s', set.writeBlock s b bytes = (s', .ok ()) →
          s'.fileAt? hd.node = some (image.write (l * bytesPerBlock) bytes) ∧
          (image.write (l * bytesPerBlock) bytes).size = l * bytesPerBlock + bytesPerBlock ∧
          (s.faultOn .read hd.path = none → set.readBlock s' b = .ok bytes.toList)) ∧
        ∀ node, node ≠ hd.node → (set.writeBlock s b bytes).1.fileAt? node = s.fileAt? node := by
  have coherent := coherent_of_openAt opened
  obtain ⟨i, l, e, owner⟩ := coherent.exists_blockOwner b
  obtain ⟨hlast', hpast⟩ := owner.last_of_le coherent hb
  obtain rfl : d = e := Option.some.inj (hlast.symm.trans hlast')
  obtain ⟨hd, image, hhandle, hfile, hcapacity⟩ :=
    images.exists_image opened (List.mem_of_getElem? owner.device)
  have hlocal : b - d.blockOffset = l := by
    have := owner.local_eq
    omega
  have hword : l * bytesPerBlock < Word.limit := Backing.word_of_offset (hlocal ▸ hoffset)
  have hend := Backing.lt_block_of_capacity_lt hcapacity hpast
  simp only [readBlock, writeBlock, owner.blockOwner?_eq]
  refine ⟨l, hd, image, owner.local_eq, hhandle, hfile, hend,
    Backing.readBlock_past_end hword hhandle hfile hend, rfl, fun bytes hsize => ⟨?_, ?_, ?_⟩⟩
  · exact Backing.writeBlock_eq_ok_iff hword hhandle hfile hsize
  · intro s' hwrite
    exact Backing.writeBlock_past_end hhandle hfile hend hsize hwrite
  · intro node hne
    exact Backing.fileAt?_writeBlock_of_ne hhandle hne

/-- The second file as a device of the set. -/
def lastImage : Backing := { imageB with zoneCount := 2, zoneSectors := 8, blockOffset := 2 }

/-- Block 3 ends past the end of the second file. -/
theorem transfers_past_end_imageSet :
    openAt twoImages inspectFiles ["/a", "/b"] = .ok imageSet ∧
      imageSet.OnImages twoImages twoImages ∧ imageSet.capacity < 8 * (3 + 1) ∧
      imageSet.devices.getLast? = some lastImage ∧
      (3 - lastImage.blockOffset) * bytesPerBlock < Storage.offsetLimit ∧
      ∃ moved errno,
        imageSet.readBlock twoImages 3 = .error (lastImage.short .read 3 moved errno) := by
  have images : imageSet.OnImages twoImages twoImages := by
    have hblocks : twoImages.blocks = [] := rfl
    intro d hd
    exact ⟨fun handle _ => by simp [Storage.block?, hblocks], rfl⟩
  have hb : imageSet.capacity < 8 * (3 + 1) := by decide
  have hlast : imageSet.devices.getLast? = some lastImage := rfl
  have hoffset : (3 - lastImage.blockOffset) * bytesPerBlock < Storage.offsetLimit := by decide
  obtain ⟨l, hd, image, -, -, -, -, hread, -⟩ :=
    transfers_past_end openAt_twoImages images hb hlast hoffset
  exact ⟨openAt_twoImages, images, hb, hlast, hoffset, hread⟩

/-- Writing that block succeeds, and the file is longer than before. -/
theorem write_past_end_grows_file :
    openAt twoImages inspectFiles ["/a", "/b"] = .ok imageSet ∧
      imageSet.capacity < 8 * (3 + 1) ∧
      (twoImages.fileAt? 6).map Image.size = some 4608 ∧
      ∃ s', imageSet.writeBlock twoImages 3 sevens = (s', .ok ()) ∧
        (s'.fileAt? 6).map Image.size = some 8192 := by
  have howner : imageSet.blockOwner? 3 = some (lastImage, 1) := by decide
  have hfile : twoImages.fileAt? 6 = some (.zeros 4608) := by decide +kernel
  have hwrite : lastImage.writeBlock twoImages 1 3 sevens =
      ((lastImage.writeBlock twoImages 1 3 sevens).1, .ok ()) :=
    eq_mk_ok_of_toOption (by decide +kernel)
  obtain ⟨hgrown, hsize, -⟩ := Backing.writeBlock_past_end
    (rfl : lastImage.handle = some ⟨6, "/b"⟩) hfile (by decide) Array.size_replicate hwrite
  simp only [writeBlock, howner]
  refine ⟨openAt_twoImages, by decide, by rw [hfile]; rfl, _, hwrite, ?_⟩
  rw [hgrown, Option.map_some, hsize]
  decide

end DeviceSet

end ZonedSet
