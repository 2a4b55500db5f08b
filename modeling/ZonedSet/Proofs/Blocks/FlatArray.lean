/-
ZonedSet.Proofs.Blocks.FlatArray — an opened set is a flat array of blocks.

The specification knows nothing of devices: an array gives every block its bytes, a write replaces
those of one block, and a read returns them. `Represents` ties it to storage: each whole block of
each device lies in the file behind the device, at the place that its local number says. One
request keeps this (`Represents.serve`), and so does a run (`Represents.serveAll`).

Two things carry the step. A patch within one file leaves every other block as it is, since blocks
of one file do not overlap and different devices have different files. And translation is a
bijection, so that the one block that changes in the files is the one that changes in the array.

Faults are a matter of one step. Whatever they do to a write, it reaches no byte outside of its own
block, and every file stays as long as it was.
-/
import ZonedSet.Session
import ZonedSet.Proofs.Opening.Naming
import ZonedSet.Proofs.Layout.Translation
import ZonedSet.Proofs.Blocks.Transfer

namespace ZonedSet

/-! ## The array -/

/-- The bytes of every block. -/
abbrev BlockArray := Nat → List UInt8

namespace Request

/-- The request moves one of so many blocks, whole, or flushes. -/
def Moves (blocks : Nat) : Request → Prop
  | .read b => b < blocks
  | .write b bytes => b < blocks ∧ bytes.size = bytesPerBlock
  | .sync => True
  | _ => False

/-- What the request writes to a block. -/
def writes? (b : Nat) : Request → Option (List UInt8)
  | .write c bytes => if c = b then some bytes.toList else none
  | _ => none

/-- What the last of some requests that wrote to a block has written there. -/
def lastWrite? (b : Nat) : List Request → Option (List UInt8)
  | [] => none
  | r :: rest => (lastWrite? b rest).or (r.writes? b)

end Request

namespace BlockArray

/-- The array after a request. -/
def after (a : BlockArray) (r : Request) : BlockArray := fun b => (r.writes? b).getD (a b)

/-- What the array answers. -/
def answer (a : BlockArray) : Request → Reply
  | .read b => .bytes (a b)
  | _ => .done

/-- The answers to requests, one after the other. -/
def answers (a : BlockArray) : List Request → List Reply
  | [] => []
  | r :: rest => a.answer r :: answers (a.after r) rest

/-- After some requests a block holds what was written to it last, or what it held before. -/
theorem foldl_after (a : BlockArray) (requests : List Request) (b : Nat) :
    requests.foldl after a b = (Request.lastWrite? b requests).getD (a b) := by
  induction requests generalizing a with
  | nil => rfl
  | cons r rest ih =>
    rw [List.foldl_cons, ih, Request.lastWrite?]
    cases Request.lastWrite? b rest <;> simp [after]

theorem answers_getElem? {a : BlockArray} {requests : List Request} {k : Nat} {r : Request}
    (h : requests[k]? = some r) :
    (a.answers requests)[k]? = some (((requests.take k).foldl after a).answer r) := by
  induction requests generalizing a k with
  | nil => simp at h
  | cons first rest ih =>
    cases k with
    | zero =>
      obtain rfl : first = r := by simpa using h
      rfl
    | succ k => simpa [answers] using ih (a := a.after first) (by simpa using h)

end BlockArray

/-! ## Blocks in files -/

namespace Backing

variable {s : Storage} {d e : Backing} {hd he : Handle} {image image' : Image} {l m : Nat}
  {bytes : Array UInt8}

/-- The bytes in the place of a local block. -/
def storedBlock (s : Storage) (d : Backing) (l : Nat) : List UInt8 :=
  ((d.image? s).map (·.bytesFrom (l * bytesPerBlock) bytesPerBlock)).getD []

/-- The byte at an index of a node belongs to a local block. -/
def InBlock (d : Backing) (l node i : Nat) : Prop :=
  d.node? = some node ∧ l * bytesPerBlock ≤ i ∧ i < l * bytesPerBlock + bytesPerBlock

theorem Holds.storedBlock_eq (holds : d.Holds s l hd image) :
    d.storedBlock s l = image.bytesFrom (l * bytesPerBlock) bytesPerBlock := by
  have himage : d.image? s = some image := image?_eq_some_iff.mpr ⟨hd, holds.handle, holds.file⟩
  simp [storedBlock, himage]

/-- A whole block that is patched in holds the new bytes. -/
theorem Holds.storedBlock_patch_self (holds : d.Holds s l hd image)
    (hsize : bytes.size = bytesPerBlock) :
    d.storedBlock (s.patch hd.node (l * bytesPerBlock) bytes) l = bytes.toList := by
  have himage : d.image? (s.patch hd.node (l * bytesPerBlock) bytes) =
      some (image.write (l * bytesPerBlock) bytes) :=
    image?_eq_some_iff.mpr ⟨hd, holds.handle, by simp [Storage.fileAt?_patch, holds.file]⟩
  simp only [storedBlock, himage, Option.map_some, Option.getD_some]
  rw [← hsize]
  exact Image.bytesFrom_write_self image _ bytes

/-- The other blocks of a file, and those of other files, hold what they held. -/
theorem storedBlock_patch_of_ne (hsize : bytes.size = bytesPerBlock)
    (h : e.node? = some hd.node → m ≠ l) :
    e.storedBlock (s.patch hd.node (l * bytesPerBlock) bytes) m = e.storedBlock s m := by
  unfold storedBlock image?
  cases hnode : e.node? with
  | none => rfl
  | some node =>
    simp only [Option.bind_some, Storage.fileAt?_patch]
    split
    · rename_i hsame
      subst hsame
      have hne := h hnode
      cases s.fileAt? hd.node with
      | none => rfl
      | some image =>
        simp only [Option.map_some, Option.getD_some]
        rw [Image.bytesFrom_write_of_disjoint]
        simp only [hsize, bytesPerBlock]
        omega
    · rfl

end Backing

/-! ## Files behind a set -/

namespace DeviceSet

variable {s s' : Storage} {set : DeviceSet} {b i l : Nat} {d : Backing} {bytes : Array UInt8}

/-- Behind every device there is a file, as long as the device at least. No file reaches past the
largest offset. -/
def BackedBy (set : DeviceSet) (s : Storage) : Prop :=
  ∀ d ∈ set.devices, ∃ image, d.image? s = some image ∧
    d.capacity * bytesPerSector ≤ image.size ∧ image.size < Storage.offsetLimit

/-- The devices are different files. -/
def Apart (set : DeviceSet) : Prop := set.devices.Pairwise fun d e => d.node? ≠ e.node?

/-- No fault strikes a transfer or a flush. -/
def Quiet (set : DeviceSet) (s : Storage) : Prop :=
  ∀ d ∈ set.devices, ∀ hd, d.handle = some hd →
    s.faultOn .read hd.path = none ∧ s.faultOn .write hd.path = none ∧
      s.faultOn .sync hd.path = none

/-- Devices opened under different canonical paths are different files, if no file has two. -/
theorem apart_of_paths {options : OpenOptions} {paths : List String}
    (opened : openAt s options paths = .ok set) (single : s.SingleNamed)
    (hpaths : set.devices.Pairwise fun d e => d.handle.map Handle.path ≠ e.handle.map Handle.path) :
    set.Apart := by
  refine hpaths.imp_of_mem fun {d e} hd he hne => ?_
  obtain ⟨path, hhd, hopen, hhandle⟩ := exists_openFile opened hd
  obtain ⟨path', hhd', hopen', hhandle'⟩ := exists_openFile opened he
  have hnode := single.node_ne_of_path_ne hopen hopen' (by simpa [hhandle, hhandle'] using hne)
  simpa [Backing.node?, hhandle, hhandle'] using hnode

theorem BackedBy.holds (backed : set.BackedBy s) (hd : d ∈ set.devices)
    (hl : l < sectorsToBlocks d.capacity) :
    ∃ handle image, d.Holds s l handle image ∧ image.size < Storage.offsetLimit := by
  obtain ⟨image, himage, hlong, hlt⟩ := backed d hd
  obtain ⟨handle, hhandle, hfile⟩ := Backing.image?_eq_some_iff.mp himage
  have hfits := Nat.le_trans (Backing.block_le_of_lt hl) hlong
  exact ⟨handle, image, ⟨hhandle, hfile, hfits⟩, hlt⟩

/-- A patch that stays below the largest offset leaves every file long enough. -/
theorem BackedBy.patch (backed : set.BackedBy s) {node offset : Nat}
    (hlt : offset + bytes.size < Storage.offsetLimit) :
    set.BackedBy (s.patch node offset bytes) := by
  intro d hd
  obtain ⟨image, himage, hlong, hsize⟩ := backed d hd
  obtain ⟨handle, hhandle, hfile⟩ := Backing.image?_eq_some_iff.mp himage
  by_cases h : handle.node = node
  · subst h
    refine ⟨image.write offset bytes, Backing.image?_eq_some_iff.mpr ⟨handle, hhandle, ?_⟩, ?_, ?_⟩
    · simp [Storage.fileAt?_patch, hfile]
    · exact Nat.le_trans hlong (image.le_size_write offset bytes)
    · exact Image.size_write_lt hsize hlt
  · refine ⟨image, Backing.image?_eq_some_iff.mpr ⟨handle, hhandle, ?_⟩, hlong, hsize⟩
    rw [Storage.fileAt?_patch, if_neg h, hfile]

theorem Quiet.patch (quiet : set.Quiet s) (node offset : Nat) (bytes : Array UInt8) :
    set.Quiet (s.patch node offset bytes) := by
  intro d hd handle hhandle
  simpa [Storage.faultOn] using quiet d hd handle hhandle

/-! ## Requests -/

theorem syncDevices_ok {devices : List Backing}
    (h : ∀ d ∈ devices, ∃ hd, d.handle = some hd ∧ s.faultOn .sync hd.path = none) :
    syncDevices s devices = .ok () := by
  induction devices with
  | nil => rfl
  | cons d rest ih =>
    obtain ⟨⟨hd, hhandle, hquiet⟩, hrest⟩ := List.forall_mem_cons.mp h
    have hsync : d.sync s = .ok () := by
      simp [Backing.sync, Backing.file, hhandle, Storage.flush, Storage.failureOn, hquiet]
    rw [syncDevices, hsync]
    exact ih hrest

/-- The array that lies in the files behind a set. -/
def contents (s : Storage) (set : DeviceSet) : BlockArray := fun b =>
  match set.blockOwner? b with
  | some (d, l) => d.storedBlock s l
  | none => []

/-- The files behind a set hold the blocks of an array, and nothing keeps them from being moved. -/
structure Represents (s : Storage) (set : DeviceSet) (a : BlockArray) : Prop where
  backed : set.BackedBy s
  quiet : set.Quiet s
  stored : ∀ (i : Nat) (d : Backing) (l : Nat), set.devices[i]? = some d →
    l < sectorsToBlocks d.capacity → d.storedBlock s l = a (d.blockOffset + l)

variable {a : BlockArray}

theorem represents_contents (coherent : set.Coherent) (backed : set.BackedBy s)
    (quiet : set.Quiet s) : Represents s set (contents s set) := by
  refine ⟨backed, quiet, fun i d l hi hl => ?_⟩
  obtain ⟨j, m, e, owner⟩ := coherent.exists_blockOwner (d.blockOffset + l)
  have hfound := (coherent.blockOwner?_eq_some_iff hi hl).mpr rfl
  rw [owner.found, Option.some.injEq, Prod.mk.injEq] at hfound
  obtain ⟨rfl, rfl⟩ := hfound
  obtain rfl : e = d := Option.some.inj (owner.device.symm.trans hi)
  simp [contents, owner.blockOwner?_eq]

theorem Apart.node?_ne (apart : set.Apart) {j : Nat} {e : Backing} (hi : set.devices[i]? = some d)
    (hj : set.devices[j]? = some e) (hij : i ≠ j) : d.node? ≠ e.node? := by
  obtain ⟨hilt, rfl⟩ := List.getElem?_eq_some_iff.mp hi
  obtain ⟨hjlt, rfl⟩ := List.getElem?_eq_some_iff.mp hj
  rcases Nat.lt_or_gt_of_ne hij with h | h
  · exact List.pairwise_iff_getElem.mp apart i j hilt hjlt h
  · exact (List.pairwise_iff_getElem.mp apart j i hjlt hilt h).symm

namespace Represents

variable (rep : Represents s set a) (coherent : set.Coherent)
include rep coherent

theorem readBlock_eq (hb : b < sectorsToBlocks set.capacity) :
    set.readBlock s b = .ok (a b) := by
  obtain ⟨i, l, d, owner⟩ := coherent.exists_blockOwner b
  have hmem := List.mem_of_getElem? owner.device
  have hl := owner.inside hb
  obtain ⟨hd, image, holds, hlt⟩ := rep.backed.holds hmem hl
  simp only [readBlock, owner.blockOwner?_eq]
  rw [holds.readBlock_of_quiet (rep.quiet d hmem hd holds.handle).1 hlt, ← holds.storedBlock_eq,
    rep.stored i d l owner.device hl, owner.local_eq]

/-- The one block that changes in the files is the one that changes in the array. -/
theorem stored_patch (apart : set.Apart) {hd : Handle} (owner : set.BlockOwner b i l d)
    {image : Image} (holds : d.Holds s l hd image) (hsize : bytes.size = bytesPerBlock)
    {j m : Nat} {e : Backing} (hj : set.devices[j]? = some e)
    (hm : m < sectorsToBlocks e.capacity) :
    e.storedBlock (s.patch hd.node (l * bytesPerBlock) bytes) m =
      a.after (.write b bytes) (e.blockOffset + m) := by
  simp only [BlockArray.after, Request.writes?]
  by_cases hb : b = e.blockOffset + m
  · have hfound := (coherent.blockOwner?_eq_some_iff hj hm).mpr hb
    rw [owner.found, Option.some.injEq, Prod.mk.injEq] at hfound
    obtain ⟨rfl, rfl⟩ := hfound
    obtain rfl : d = e := Option.some.inj (owner.device.symm.trans hj)
    rw [if_pos hb, holds.storedBlock_patch_self hsize]
    rfl
  · rw [if_neg hb, Option.getD_none, ← rep.stored j e m hj hm]
    refine Backing.storedBlock_patch_of_ne hsize fun hnode hml => hb ?_
    -- One node means one device, and then one local number means one block.
    have hnode' : d.node? = some hd.node := by simp [Backing.node?, holds.handle]
    obtain rfl : i = j := Decidable.byContradiction fun hij =>
      apart.node?_ne owner.device hj hij (hnode'.trans hnode.symm)
    obtain rfl : d = e := Option.some.inj (owner.device.symm.trans hj)
    rw [hml, owner.local_eq]

theorem writeBlock (apart : set.Apart) (hb : b < sectorsToBlocks set.capacity)
    (hsize : bytes.size = bytesPerBlock) :
    ∃ s', set.writeBlock s b bytes = (s', .ok ()) ∧
      Represents s' set (a.after (.write b bytes)) := by
  obtain ⟨i, l, d, owner⟩ := coherent.exists_blockOwner b
  have hmem := List.mem_of_getElem? owner.device
  obtain ⟨hd, image, holds, hlt⟩ := rep.backed.holds hmem (owner.inside hb)
  have hfits := holds.fits
  refine ⟨s.patch hd.node (l * bytesPerBlock) bytes, ?_, ?_⟩
  · simp only [DeviceSet.writeBlock, owner.blockOwner?_eq]
    exact holds.writeBlock_of_quiet (rep.quiet d hmem hd holds.handle).2.1 hlt hsize
  · exact ⟨rep.backed.patch (by omega), rep.quiet.patch _ _ _, fun j e m hj hm =>
      rep.stored_patch coherent apart owner holds hsize hj hm⟩

omit coherent in
theorem sync_eq : set.sync s = .ok () := by
  refine syncDevices_ok fun d hmem => ?_
  obtain ⟨image, himage, -⟩ := rep.backed d hmem
  obtain ⟨hd, hhandle, -⟩ := Backing.image?_eq_some_iff.mp himage
  exact ⟨hd, hhandle, (rep.quiet d hmem hd hhandle).2.2⟩

/-- **One request.** The set answers as the array does, and goes on representing it. -/
theorem serve (apart : set.Apart) {r : Request} (hr : r.Moves (sectorsToBlocks set.capacity)) :
    ∃ s', set.serve s r = (s', set, a.answer r) ∧ Represents s' set (a.after r) := by
  cases r with
  | read b =>
    refine ⟨s, ?_, rep⟩
    simp [DeviceSet.serve, rep.readBlock_eq coherent hr, BlockArray.answer]
  | write b bytes =>
    obtain ⟨s', hwrite, rep'⟩ := rep.writeBlock coherent apart hr.1 hr.2
    refine ⟨s', ?_, rep'⟩
    simp [DeviceSet.serve, hwrite, BlockArray.answer, Reply.ofExcept]
  | sync =>
    refine ⟨s, ?_, rep⟩
    simp [DeviceSet.serve, rep.sync_eq, BlockArray.answer, Reply.ofExcept]
  | close => cases hr
  | isOpen => cases hr
  | locate n => cases hr
  | checkCacheLayout => cases hr
  | cacheZones limit => cases hr
  | zoneLines limit => cases hr

end Represents

/-- **A run.** -/
theorem Represents.serveAll (rep : Represents s set a) (coherent : set.Coherent)
    (apart : set.Apart) {requests : List Request}
    (hmoves : ∀ r ∈ requests, r.Moves (sectorsToBlocks set.capacity)) :
    ∃ s', set.serveAll s requests = (s', set, a.answers requests) ∧
      Represents s' set (requests.foldl BlockArray.after a) := by
  induction requests generalizing s a with
  | nil => exact ⟨s, rfl, rep⟩
  | cons r rest ih =>
    obtain ⟨hr, hrest⟩ := List.forall_mem_cons.mp hmoves
    obtain ⟨s', hserve, rep'⟩ := rep.serve coherent apart hr
    obtain ⟨s'', hall, rep''⟩ := ih rep' hrest
    exact ⟨s'', by simp [DeviceSet.serveAll, hserve, hall, BlockArray.answers], rep''⟩

/-! ## Faults -/

/-- However a write ends, it reaches no byte outside of its block. -/
theorem byteAt?_writeBlock (owner : set.BlockOwner b i l d) (backed : set.BackedBy s)
    (hb : b < sectorsToBlocks set.capacity) (hsize : bytes.size = bytesPerBlock) {node k : Nat}
    (hout : ¬d.InBlock l node k) :
    (set.writeBlock s b bytes).1.byteAt? node k = s.byteAt? node k := by
  obtain ⟨hd, image, holds, -⟩ := backed.holds (List.mem_of_getElem? owner.device) (owner.inside hb)
  have hfits := holds.fits
  simp only [writeBlock, owner.blockOwner?_eq]
  rcases Backing.writeBlock_fst holds.handle l b bytes with h | ⟨most, hle, -, h⟩
  · rw [h]
  · have htake := (size_take_le bytes most).2
    rw [h]
    refine Storage.byteAt?_patch holds.file (by omega) ?_
    rintro ⟨rfl, hstart, hstop⟩
    exact hout ⟨by simp [Backing.node?, holds.handle], hstart, by omega⟩

/-- However a write ends, no file has become too short. -/
theorem BackedBy.writeBlock (backed : set.BackedBy s) (owner : set.BlockOwner b i l d)
    (hb : b < sectorsToBlocks set.capacity) : set.BackedBy (set.writeBlock s b bytes).1 := by
  obtain ⟨hd, image, holds, -⟩ := backed.holds (List.mem_of_getElem? owner.device) (owner.inside hb)
  simp only [DeviceSet.writeBlock, owner.blockOwner?_eq]
  rcases Backing.writeBlock_fst holds.handle l b bytes with h | ⟨most, -, hlt, h⟩
  · rwa [h]
  · rw [h]
    have htake := (size_take_le bytes most).1
    exact backed.patch (by omega)

/-! ## The whole -/

/-- **An opened set is a flat array of blocks.** Without faults every request succeeds, and a read
returns what was written to the block last, or else what lay in the owner's file. With faults, a
write reaches nothing outside of its block and leaves the files long enough, and a read changes
nothing. -/
theorem serves_flat_array {s₀ : Storage} {options : OpenOptions} {paths : List String}
    (opened : openAt s₀ options paths = .ok set) (apart : set.Apart) (backed : set.BackedBy s) :
    (set.Quiet s → ∀ requests : List Request,
      (∀ r ∈ requests, r.Moves (sectorsToBlocks set.capacity)) →
      ∀ (k : Nat) (r : Request), requests[k]? = some r →
        (∀ b, r = .read b → ∃ d ∈ set.devices, ∃ l, l < sectorsToBlocks d.capacity ∧
          d.blockOffset + l = b ∧
          (set.serveAll s requests).2.2[k]? =
            some (.bytes ((Request.lastWrite? b (requests.take k)).getD (d.storedBlock s l)))) ∧
        ((∀ b, r ≠ .read b) → (set.serveAll s requests).2.2[k]? = some .done)) ∧
    (∀ (b : Nat) (bytes : Array UInt8), b < sectorsToBlocks set.capacity →
      bytes.size = bytesPerBlock →
      set.BackedBy (set.serve s (.write b bytes)).1 ∧
      ∃ d ∈ set.devices, ∃ l, l < sectorsToBlocks d.capacity ∧ d.blockOffset + l = b ∧
        ∀ node i, ¬d.InBlock l node i →
          (set.serve s (.write b bytes)).1.byteAt? node i = s.byteAt? node i) ∧
    (∀ b, (set.serve s (.read b)).1 = s) := by
  have coherent := coherent_of_openAt opened
  refine ⟨fun quiet requests hmoves k r hr => ?_, fun b bytes hb hsize => ?_, fun b => rfl⟩
  · have rep := represents_contents coherent backed quiet
    obtain ⟨s', hall, -⟩ := rep.serveAll coherent apart hmoves
    have hreply : (set.serveAll s requests).2.2[k]? = some
        (((requests.take k).foldl BlockArray.after (contents s set)).answer r) := by
      rw [hall]
      exact BlockArray.answers_getElem? hr
    constructor
    · rintro b rfl
      obtain ⟨i, l, d, owner⟩ := coherent.exists_blockOwner b
      refine ⟨d, List.mem_of_getElem? owner.device, l,
        owner.inside (hmoves _ (List.mem_of_getElem? hr)), owner.local_eq, ?_⟩
      simp [hreply, BlockArray.answer, BlockArray.foldl_after, contents, owner.blockOwner?_eq]
    · intro hne
      rw [hreply]
      cases r with
      | read b => exact absurd rfl (hne b)
      | _ => rfl
  · obtain ⟨i, l, d, owner⟩ := coherent.exists_blockOwner b
    exact ⟨backed.writeBlock owner hb, d, List.mem_of_getElem? owner.device, l,
      owner.inside hb, owner.local_eq, fun node k => byteAt?_writeBlock owner backed hb hsize⟩

/-! ### Two image files -/

theorem backedBy_imageSet : imageSet.BackedBy twoImages := by
  have ha : imageA.image? twoImages = some (.zeros 8192) := by decide +kernel
  have hb : imageB.image? twoImages = some (.zeros 4608) := by decide +kernel
  refine List.forall_mem_cons.mpr ⟨?_, List.forall_mem_cons.mpr ⟨?_, by simp⟩⟩
  · exact ⟨.zeros 8192, ha, by decide, by decide⟩
  · exact ⟨.zeros 4608, hb, by decide, by decide⟩

/-- The two files have different paths, and no file has two names. -/
theorem apart_imageSet : imageSet.Apart := by
  have single : twoImages.SingleNamed :=
    Storage.singleNamed_of_bindings (by decide +kernel) (by decide +kernel) rfl
  exact apart_of_paths openAt_twoImages single (by decide)

theorem quiet_imageSet : imageSet.Quiet twoImages := by
  have hfaults : twoImages.faults = [] := by decide +kernel
  intro d hd handle hhandle
  simp [Storage.faultOn, hfaults]

/-- A block of sevens. -/
def sevens : Array UInt8 := Array.replicate bytesPerBlock 7

/-- Block 2, the first one of the second file, is read back. -/
theorem serves_flat_array_imageSet :
    openAt twoImages inspectFiles ["/a", "/b"] = .ok imageSet ∧ imageSet.Apart ∧
      imageSet.BackedBy twoImages ∧ imageSet.Quiet twoImages ∧
      (∀ r ∈ [.write 2 sevens, .sync, .read 2],
        Request.Moves (sectorsToBlocks imageSet.capacity) r) ∧
      (imageSet.serveAll twoImages [.write 2 sevens, .sync, .read 2]).2.2[2]? =
        some (.bytes sevens.toList) := by
  have moves : ∀ r ∈ [.write 2 sevens, .sync, .read 2],
      Request.Moves (sectorsToBlocks imageSet.capacity) r := by
    have h : 2 < sectorsToBlocks imageSet.capacity := by decide
    simp [Request.Moves, h, sevens]
  refine ⟨openAt_twoImages, apart_imageSet, backedBy_imageSet, quiet_imageSet, moves, ?_⟩
  have whole := serves_flat_array openAt_twoImages apart_imageSet backedBy_imageSet
  obtain ⟨d, -, l, -, -, hreply⟩ := (whole.1 quiet_imageSet _ moves 2 (.read 2) rfl).1 2 rfl
  rw [hreply]
  rfl

end DeviceSet

end ZonedSet
