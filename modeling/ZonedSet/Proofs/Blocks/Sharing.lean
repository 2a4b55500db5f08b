/-
ZonedSet.Proofs.Blocks.Sharing — which blocks of a set are the same bytes.

Opening never compares devices with each other. A file given twice, under one path or through a
link, has two places in the set, and a block of the one is a block of the other as well. There is
no other sharing: a write is one patch of one file, and shows in another block of the set only if
that lies in the same file under the same local number (`Backing.SameBlock`).

One more thing a write can do is to make a file longer that was too short for its device. Blocks
that had not been there can then be read, which is why an unchanged block has to be there before
(`Backing.Reaches`).
-/
import ZonedSet.Proofs.Blocks.FlatArray

namespace ZonedSet

namespace Backing

variable {s s' : Storage} {d e : Backing} {l m global : Nat} {bytes : Array UInt8}

/-- Two local blocks are the same bytes of one file. -/
def SameBlock (d : Backing) (l : Nat) (e : Backing) (m : Nat) : Prop :=
  d.node? = e.node? ∧ l = m

/-- A write does not show in a block that is not the same. -/
theorem readBlock_of_not_sameBlock (hwrite : d.writeBlock s l global bytes = (s', .ok ()))
    (hsize : bytes.size = bytesPerBlock) {he : Handle} (hhandle : e.handle = some he)
    (hdistinct : ¬d.SameBlock l e m) (reaches : d.node? = e.node? → e.Reaches s m) (n : Nat) :
    e.readBlock s' m n = e.readBlock s m n := by
  obtain ⟨hd, hhandle', -, rfl⟩ := patch_of_writeBlock hwrite hsize
  have hnode (h : he.node = hd.node) : d.node? = e.node? := by
    simp [node?, hhandle, hhandle', h]
  refine readBlock_patch hhandle (fun h => reaches (hnode h)) fun h => ?_
  have hne : l ≠ m := fun hlm => hdistinct ⟨hnode h, hlm⟩
  rw [hsize]
  simp only [bytesPerBlock]
  omega

/-- The same block holds what was written. -/
theorem readBlock_of_sameBlock (hwrite : d.writeBlock s l global bytes = (s', .ok ()))
    (hsize : bytes.size = bytesPerBlock) (hsame : d.SameBlock l e m) {he : Handle} {image : Image}
    (hhandle : e.handle = some he) (hfile : s.fileAt? he.node = some image)
    (hquiet : s.faultOn .read he.path = none) (n : Nat) :
    e.readBlock s' m n = .ok bytes.toList := by
  obtain ⟨hd, hhandle', hlt, rfl⟩ := patch_of_writeBlock hwrite hsize
  obtain ⟨hnode, rfl⟩ := hsame
  have hnode : hd.node = he.node := by simpa [node?, hhandle, hhandle'] using hnode
  rw [hnode]
  exact readBlock_patch_self hhandle hfile hquiet hlt hsize

end Backing

namespace DeviceSet

variable {s₀ s s' : Storage} {options : OpenOptions} {paths : List String} {set : DeviceSet}
  {d : Backing} {b b' l : Nat} {bytes : Array UInt8}

/-- **A write shows in no other block, unless two devices are one file.** Blocks of different files
or with different local numbers are apart: after a write to one, a read of the other gives what it
would have given before, as long as that block is there. The same local number in one file is met
at two devices only, and then a read gives what was written. -/
theorem writes_shared_by_node (opened : openAt s₀ options paths = .ok set) (hne : b ≠ b')
    (hsize : bytes.size = bytesPerBlock)
    (hwrite : set.writeBlock s b bytes = (s', .ok ())) :
    ∃ i l d j m e, set.BlockOwner b i l d ∧ set.BlockOwner b' j m e ∧
      (¬d.SameBlock l e m → (d.node? = e.node? → e.Reaches s m) →
        set.readBlock s' b' = set.readBlock s b') ∧
      (d.SameBlock l e m → i ≠ j ∧
        ∀ he image, e.handle = some he → s.fileAt? he.node = some image →
          s.faultOn .read he.path = none → set.readBlock s' b' = .ok bytes.toList) := by
  have coherent := coherent_of_openAt opened
  obtain ⟨i, l, d, owner⟩ := coherent.exists_blockOwner b
  obtain ⟨j, m, e, owner'⟩ := coherent.exists_blockOwner b'
  simp only [writeBlock, owner.blockOwner?_eq] at hwrite
  simp only [readBlock, owner'.blockOwner?_eq]
  refine ⟨i, l, d, j, m, e, owner, owner', fun hdistinct reaches => ?_, fun hsame => ⟨?_, ?_⟩⟩
  · obtain ⟨path, handle, -, hhandle⟩ :=
      exists_openFile opened (List.mem_of_getElem? owner'.device)
    exact Backing.readBlock_of_not_sameBlock hwrite hsize hhandle hdistinct reaches b'
  · rintro rfl
    -- One device gives different blocks different numbers.
    obtain rfl : d = e := Option.some.inj (owner.device.symm.trans owner'.device)
    refine hne ?_
    rw [← owner.local_eq, ← owner'.local_eq, hsame.2]
  · intro he image hhandle hfile hquiet
    exact Backing.readBlock_of_sameBlock hwrite hsize hsame hhandle hfile hquiet b'

/-- Block 0 is written, in the first file, and block 2 is in the second one. -/
theorem writes_shared_by_node_imageSet :
    openAt twoImages inspectFiles ["/a", "/b"] = .ok imageSet ∧ 0 ≠ 2 ∧
      sevens.size = bytesPerBlock ∧
      ∃ s', imageSet.writeBlock twoImages 0 sevens = (s', .ok ()) ∧
        imageSet.readBlock s' 2 = imageSet.readBlock twoImages 2 := by
  have hsize : sevens.size = bytesPerBlock := Array.size_replicate
  have hwrite : imageSet.writeBlock twoImages 0 sevens =
      ((imageSet.writeBlock twoImages 0 sevens).1, .ok ()) :=
    eq_mk_ok_of_toOption (by decide +kernel)
  have hne : 0 ≠ 2 := by decide
  obtain ⟨i, l, d, j, m, e, owner, owner', hapart, -⟩ :=
    writes_shared_by_node openAt_twoImages hne hsize hwrite
  have hfiles : d.node? ≠ e.node? := by
    have hi : (i, l) = (0, 0) := Option.some.inj (owner.found.symm.trans (by decide))
    have hj : (j, m) = (1, 0) := Option.some.inj (owner'.found.symm.trans (by decide))
    cases hi
    cases hj
    rw [← Option.some.inj owner.device, ← Option.some.inj owner'.device]
    decide
  exact ⟨openAt_twoImages, hne, hsize, _, hwrite,
    hapart (fun h => hfiles h.1) fun h => absurd h hfiles⟩

/-! ### One file twice, and a file that is too short -/

/-- The two files, and a link to the first. -/
def linkedImages : Storage := twoImages.putLink "/l" "a"

/-- The file, as the first device and as the second. -/
def linkedTo (blockOffset : Nat) : Backing :=
  { imageA with zoneCount := 2, zoneSectors := 8, blockOffset }

def linkedSet : DeviceSet where
  label := "a+a"
  devices := [linkedTo 0, linkedTo 2]
  capacity := 32
  zoneSectors := 8
  zones := #[.emulated 0 8, .emulated 8 8, .emulated 16 8, .emulated 24 8]

/-- A block device of two blocks, without a byte behind it. -/
def shortDisk : Storage :=
  (Storage.bare.putFile "/d" (.zeros 0)).attachBlock "/d" ⟨.ok 8192, none, [], 0, 1⟩

def shortDevice : Backing := ⟨⟨"d", .regular, 16, 2, 0⟩, "/d", some ⟨5, "/d"⟩, 8⟩

def shortSet : DeviceSet where
  label := "d"
  devices := [shortDevice]
  capacity := 16
  zoneSectors := 8
  zones := #[.emulated 0 8, .emulated 8 8]

/-- Through the link, block 2 is block 0. -/
theorem write_shows_through_link :
    ∃ s', linkedSet.writeBlock linkedImages 0 sevens = (s', .ok ()) ∧
      linkedSet.readBlock s' 2 ≠ linkedSet.readBlock linkedImages 2 := by
  have howner : linkedSet.blockOwner? 0 = some (linkedTo 0, 0) := by decide
  have howner' : linkedSet.blockOwner? 2 = some (linkedTo 2, 0) := by decide
  have hwrite : (linkedTo 0).writeBlock linkedImages 0 0 sevens =
      (((linkedTo 0).writeBlock linkedImages 0 0 sevens).1, .ok ()) :=
    eq_mk_ok_of_toOption (by decide +kernel)
  have hfile : linkedImages.fileAt? 5 = some (.zeros 8192) := by decide +kernel
  have hsame : (linkedTo 0).SameBlock 0 (linkedTo 2) 0 := ⟨rfl, rfl⟩
  have hread := Backing.readBlock_of_sameBlock hwrite Array.size_replicate hsame rfl hfile
    (by decide +kernel) 2
  have hbefore : ((linkedTo 2).readBlock linkedImages 0 2).toOption ≠ some sevens.toList := by
    decide +kernel
  simp only [writeBlock, howner, readBlock, howner']
  refine ⟨_, hwrite, fun hequal => hbefore ?_⟩
  rw [← hequal, hread]
  rfl

/-- Block 1 brings block 0 with it. -/
theorem write_brings_block :
    ∃ s', shortSet.writeBlock shortDisk 1 sevens = (s', .ok ()) ∧
      shortSet.readBlock s' 0 ≠ shortSet.readBlock shortDisk 0 := by
  have howner : shortSet.blockOwner? 1 = some (shortDevice, 1) := by decide
  have howner' : shortSet.blockOwner? 0 = some (shortDevice, 0) := by decide
  have hwrite : shortDevice.writeBlock shortDisk 1 1 sevens =
      ((shortDevice.writeBlock shortDisk 1 1 sevens).1, .ok ()) :=
    eq_mk_ok_of_toOption (by decide +kernel)
  obtain ⟨hd, hhandle, -, hpatch⟩ := Backing.patch_of_writeBlock hwrite Array.size_replicate
  obtain rfl : (⟨5, "/d"⟩ : Handle) = hd := Option.some.inj hhandle
  have hfile : shortDisk.fileAt? 5 = some (.zeros 0) := by decide +kernel
  have hfaults : shortDisk.faults = [] := by decide +kernel
  let grown := (Image.zeros 0).write (1 * bytesPerBlock) sevens
  have hsize : grown.size = 8192 := by decide +kernel
  simp only [writeBlock, howner, readBlock, howner']
  refine ⟨_, hwrite, ?_⟩
  rw [hpatch]
  have holds : shortDevice.Holds (shortDisk.patch 5 (1 * bytesPerBlock) sevens) 0
      ⟨5, "/d"⟩ grown :=
    { handle := rfl
      file := by simp [Storage.fileAt?_patch, hfile, grown]
      fits := by rw [hsize]; decide }
  have hquiet : (shortDisk.patch 5 (1 * bytesPerBlock) sevens).faultOn .read "/d" = none := by
    simp [Storage.faultOn, hfaults]
  have hafter : shortDevice.readBlock (shortDisk.patch 5 (1 * bytesPerBlock) sevens) 0 0 =
      .ok (grown.bytesFrom (0 * bytesPerBlock) bytesPerBlock) :=
    holds.readBlock_of_quiet hquiet (by rw [hsize]; decide)
  have hbefore : (shortDevice.readBlock shortDisk 0 0).toOption = none := by decide +kernel
  intro hequal
  rw [← hequal, hafter] at hbefore
  cases hbefore

/-- Different blocks may share storage, whether the file is given twice or met through a link; and
a block that was missing may appear. -/
theorem distinct_blocks_share_storage :
    openAt linkedImages inspectFiles ["/a", "/a"] = .ok linkedSet ∧
      openAt linkedImages inspectFiles ["/a", "/l"] = .ok linkedSet ∧
      2 < sectorsToBlocks linkedSet.capacity ∧
      (∃ s', linkedSet.writeBlock linkedImages 0 sevens = (s', .ok ()) ∧
        linkedSet.readBlock s' 2 ≠ linkedSet.readBlock linkedImages 2) ∧
      openAt shortDisk inspectFiles ["/d"] = .ok shortSet ∧
      1 < sectorsToBlocks shortSet.capacity ∧
      ∃ s', shortSet.writeBlock shortDisk 1 sevens = (s', .ok ()) ∧
        shortSet.readBlock s' 0 ≠ shortSet.readBlock shortDisk 0 := by
  refine ⟨?_, ?_, by decide, write_shows_through_link, ?_, by decide, write_brings_block⟩
  · exact eq_ok_of_toOption (by decide +kernel)
  · exact eq_ok_of_toOption (by decide +kernel)
  · exact eq_ok_of_toOption (by decide +kernel)

end DeviceSet

end ZonedSet
