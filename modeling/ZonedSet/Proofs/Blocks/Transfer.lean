/-
ZonedSet.Proofs.Blocks.Transfer — moving one block between a device and its file.

A transfer is one call, and faults decide how many bytes the call moves (`Storage.allowance`).
`Backing.readBlock_eq` and `Backing.writeBlock_eq` say all that a transfer does, given the file
behind the device: a read returns what lies there or tells how much is missing, and a write patches
the file with the bytes that it was allowed to move, no matter how it ends (`Storage.patch`). A
block that begins past all words is not moved (`Backing.blockStart?_eq_none_iff`).

The rest is about patches. One patch changes one file, there just the bytes that it covers, and the
length only if it reaches past the end.
-/
import ZonedSet.DeviceSet

namespace ZonedSet

theorem size_take_le (bytes : Array UInt8) (n : Nat) :
    (bytes.take n).size ≤ n ∧ (bytes.take n).size ≤ bytes.size := by
  simp only [Array.take_eq_extract, Array.size_extract]
  omega

/-! ## Bytes of an image -/

namespace Image

variable {image : Image} {offset length : Nat} {bytes : Array UInt8}

theorem bytesFrom_write_self (image : Image) (offset : Nat) (bytes : Array UInt8) :
    (image.write offset bytes).bytesFrom offset bytes.size = bytes.toList := by
  apply List.ext_getElem
  · simp [bytesFrom]
  · intro i hi hi'
    have hi : i < bytes.size := by simpa [bytesFrom] using hi
    simp [bytesFrom, byteAt_write, hi, Array.getD_eq_getD_getElem?]

/-- Bytes that a write does not cover stay. -/
theorem bytesFrom_write_of_disjoint {start : Nat}
    (h : start + length ≤ offset ∨ offset + bytes.size ≤ start) :
    (image.write offset bytes).bytesFrom start length = image.bytesFrom start length := by
  unfold bytesFrom
  apply List.map_congr_left
  intro i hi
  have hi := List.mem_range.mp hi
  rw [byteAt_write, if_neg (by omega)]

theorem le_size_write (image : Image) (offset : Nat) (bytes : Array UInt8) :
    image.size ≤ (image.write offset bytes).size := by
  by_cases hempty : bytes.size = 0
  · have hsame : image.write offset bytes = image :=
      if_pos (by simpa [Array.isEmpty] using hempty)
    exact Nat.le_of_eq (congrArg size hsame.symm)
  · rw [size_write image offset hempty]
    exact Nat.le_max_left ..

theorem size_write_lt {limit : Nat} (hsize : image.size < limit)
    (hlt : offset + bytes.size < limit) : (image.write offset bytes).size < limit := by
  by_cases hempty : bytes.size = 0
  · rwa [write, if_pos (by simpa [Array.isEmpty] using hempty)]
  · rw [size_write image offset hempty]
    omega

theorem size_write_of_le (h : offset + bytes.size ≤ image.size) :
    (image.write offset bytes).size = image.size := by
  by_cases hempty : bytes.size = 0
  · rw [write, if_pos (by simpa [Array.isEmpty] using hempty)]
  · rw [size_write image offset hempty]
    omega

end Image

/-! ## Files -/

namespace Storage

variable {s : Storage} {node other offset : Nat} {image : Image} {bytes : Array UInt8}
  {hd : Handle} {site : FaultSite} {length most : Nat}

/-- The bytes of a node, if it is a file. -/
def fileAt? (s : Storage) (node : Nat) : Option Image :=
  match s.nodes[node]? with
  | some (.file image) => some image
  | _ => none

/-- One byte of a file; none past its end. -/
def byteAt? (s : Storage) (node i : Nat) : Option UInt8 :=
  (s.fileAt? node).bind fun image => if i < image.size then some (image.byteAt i) else none

theorem fileAt?_eq_some_iff :
    s.fileAt? node = some image ↔ s.nodes[node]? = some (.file image) := by
  unfold fileAt?
  constructor
  · intro h
    split at h
    · rename_i hnode
      rw [hnode, Option.some.inj h]
    · cases h
  · intro h
    rw [h]

/-- Writes bytes into a file, if the node is one. -/
def patch (s : Storage) (node offset : Nat) (bytes : Array UInt8) : Storage :=
  match s.fileAt? node with
  | some image => { s with nodes := s.nodes.setIfInBounds node (.file (image.write offset bytes)) }
  | none => s

@[simp] theorem faults_patch (s : Storage) (node offset : Nat) (bytes : Array UInt8) :
    (s.patch node offset bytes).faults = s.faults := by
  unfold patch
  split <;> rfl

@[simp] theorem allowance_patch (s : Storage) (node offset : Nat) (bytes : Array UInt8) :
    (s.patch node offset bytes).allowance = s.allowance := by
  funext site hd offset length
  simp [allowance, faultOn]

theorem fileAt?_patch (s : Storage) (node offset : Nat) (bytes : Array UInt8) (other : Nat) :
    (s.patch node offset bytes).fileAt? other =
      if other = node then (s.fileAt? node).map (·.write offset bytes) else s.fileAt? other := by
  unfold patch
  cases hnode : s.fileAt? node with
  | none =>
    dsimp only
    split
    · rename_i h
      rw [h, hnode]
      rfl
    · rfl
  | some image =>
    have hlt : node < s.nodes.size := by
      have := fileAt?_eq_some_iff.mp hnode
      exact (Array.getElem?_eq_some_iff.mp this).1
    unfold fileAt?
    simp only [Array.getElem?_setIfInBounds]
    by_cases h : other = node
    · subst h
      simp [hlt]
    · simp [h, Ne.symm h]

theorem nodes_patch_of_ne (h : other ≠ node) :
    (s.patch node offset bytes).nodes[other]? = s.nodes[other]? := by
  unfold patch
  split
  · simp [Ne.symm h]
  · rfl

/-- A patch within a file changes no byte that it does not cover. -/
theorem byteAt?_patch {i : Nat} (hfile : s.fileAt? node = some image)
    (hfit : offset + bytes.size ≤ image.size)
    (hout : ¬(other = node ∧ offset ≤ i ∧ i < offset + bytes.size)) :
    (s.patch node offset bytes).byteAt? other i = s.byteAt? other i := by
  unfold byteAt?
  rw [fileAt?_patch]
  by_cases h : other = node
  · subst h
    rw [if_pos rfl, hfile]
    simp only [Option.map_some, Option.bind_some, Image.size_write_of_le hfit]
    rw [Image.byteAt_write, if_neg fun hin => hout ⟨rfl, hin⟩]
  · rw [if_neg h]

/-! ## Allowances -/

theorem allowance_eq_ok (h : s.allowance site hd offset length = .ok most) :
    most ≤ length ∧ offset + most < offsetLimit := by
  unfold allowance at h
  cases hfault : s.faultOn site hd.path with
  | none =>
    simp only [hfault] at h
    split at h
    · cases h
    · cases h
      exact ⟨Nat.le_refl _, by omega⟩
  | some effect =>
    cases effect with
    | fail e =>
      simp only [hfault] at h
      cases h
    | cut n =>
      simp only [hfault] at h
      split at h
      · cases h
      · cases h
        exact ⟨Nat.min_le_left _ _, by omega⟩

/-- A call moves all bytes if no fault stops it or cuts it short, as far as offsets go. -/
theorem allowance_whole_iff :
    s.allowance site hd offset length = .ok length ↔
      (∀ e, s.faultOn site hd.path ≠ some (.fail e)) ∧
        (∀ n, s.faultOn site hd.path = some (.cut n) → length ≤ n) ∧
        offset + length < offsetLimit := by
  unfold allowance
  cases hfault : s.faultOn site hd.path with
  | none => simp
  | some effect =>
    cases effect with
    | fail e => simp
    | cut n =>
      simp only [reduceCtorEq, Option.some.injEq, FaultEffect.cut.injEq, ne_eq, not_false_eq_true,
        implies_true, true_and, forall_eq']
      constructor
      · intro h
        split at h
        · cases h
        · have hmin : min length n = length := Except.ok.inj h
          omega
      · rintro ⟨hle, hlt⟩
        rw [Nat.min_eq_left hle, if_neg (by omega)]

theorem allowance_of_quiet (hquiet : s.faultOn site hd.path = none)
    (hlt : offset + length < offsetLimit) : s.allowance site hd offset length = .ok length :=
  allowance_whole_iff.mpr ⟨by simp [hquiet], by simp [hquiet], hlt⟩

/-- A write fails and changes nothing, or patches the file with the bytes that it moves. Where
there is no file, that is nothing. -/
theorem writeAt_cases (s : Storage) (hd : Handle) (offset : Nat) (bytes : Array UInt8) :
    (∃ e, s.writeAt hd offset bytes = (s, .error e)) ∨
      ∃ most ≤ bytes.size, offset + most < offsetLimit ∧
        s.writeAt hd offset bytes = (s.patch hd.node offset (bytes.take most), .ok most) := by
  unfold writeAt
  cases hmost : s.allowance .write hd offset bytes.size with
  | error e => exact .inl ⟨e, rfl⟩
  | ok most =>
    obtain ⟨hle, hlt⟩ := allowance_eq_ok hmost
    cases hnode : s.nodes[hd.node]? with
    | none => exact .inl ⟨_, rfl⟩
    | some node =>
      cases node with
      | file image => exact .inr ⟨most, hle, hlt, by simp [patch, fileAt?, hnode]⟩
      | sink => exact .inr ⟨most, hle, hlt, by simp [patch, fileAt?, hnode]⟩
      | directory entries => exact .inl ⟨_, rfl⟩
      | link target => exact .inl ⟨_, rfl⟩

end Storage

/-! ## The place of a block -/

namespace Backing

/-- A whole block lies within the bytes of the device. -/
theorem block_le_of_lt {capacity l : Nat} (hl : l < sectorsToBlocks capacity) :
    l * bytesPerBlock + bytesPerBlock ≤ capacity * bytesPerSector := by
  have hsectors : (l + 1) * sectorsPerBlock ≤ capacity := by
    simp only [sectorsToBlocks, sectorsPerBlock] at *
    omega
  calc l * bytesPerBlock + bytesPerBlock = (l + 1) * bytesPerBlock := (Nat.succ_mul l _).symm
    _ = (l + 1) * sectorsPerBlock * bytesPerSector :=
      (Nat.mul_assoc (l + 1) sectorsPerBlock bytesPerSector).symm
    _ ≤ capacity * bytesPerSector := Nat.mul_le_mul_right _ hsectors

/-- A block that is not whole ends past the end of the bytes of the device. -/
theorem lt_block_of_capacity_lt {capacity size l : Nat}
    (hcapacity : capacity = size / bytesPerSector) (hpast : capacity < 8 * (l + 1)) :
    size < l * bytesPerBlock + bytesPerBlock :=
  calc size < 8 * (l + 1) * bytesPerSector := Nat.lt_mul_of_div_lt (hcapacity ▸ hpast) (by decide)
    _ = (l + 1) * sectorsPerBlock * bytesPerSector := by rw [Nat.mul_comm 8]; rfl
    _ = (l + 1) * bytesPerBlock := Nat.mul_assoc (l + 1) sectorsPerBlock bytesPerSector
    _ = l * bytesPerBlock + bytesPerBlock := Nat.succ_mul l _

theorem blockStart?_of_lt {l : Nat} (hword : l * bytesPerBlock < Word.limit) :
    blockStart? l = some (l * bytesPerBlock) :=
  Word.mul?_of_lt hword

theorem blockStart?_eq_none_iff {l : Nat} :
    blockStart? l = none ↔ Word.limit ≤ l * bytesPerBlock :=
  Word.mul?_eq_none_iff

/-- Offsets in files are words. -/
theorem word_of_offset {n : Nat} (h : n < Storage.offsetLimit) : n < Word.limit :=
  Nat.lt_trans h (by decide)

/-! ## Transfers -/

variable {s s' : Storage} {d : Backing} {hd : Handle} {image : Image} {l global : Nat}
  {bytes : Array UInt8}

/-- The node of an open device. -/
def node? (d : Backing) : Option Nat := d.handle.map Handle.node

/-- The file behind an open device. -/
def image? (s : Storage) (d : Backing) : Option Image := d.node?.bind s.fileAt?

theorem image?_eq_some_iff :
    d.image? s = some image ↔ ∃ hd, d.handle = some hd ∧ s.fileAt? hd.node = some image := by
  cases h : d.handle <;> simp [image?, node?, h]

/-- A block that begins past all words is not read. -/
theorem readBlock_of_limit_le (hlimit : Word.limit ≤ l * bytesPerBlock) :
    d.readBlock s l global = .error (.broken .product) := by
  rw [readBlock, blockStart?_eq_none_iff.mpr hlimit]

/-- Nor is it written. -/
theorem writeBlock_of_limit_le (hlimit : Word.limit ≤ l * bytesPerBlock) :
    d.writeBlock s l global bytes = (s, .error (.broken .product)) := by
  rw [writeBlock, blockStart?_eq_none_iff.mpr hlimit]

/-- **A read** returns the block if all of it is there and may be moved. -/
theorem readBlock_eq (hword : l * bytesPerBlock < Word.limit) (hhandle : d.handle = some hd)
    (hfile : s.fileAt? hd.node = some image) :
    d.readBlock s l global =
      match s.allowance .read hd (l * bytesPerBlock) bytesPerBlock with
      | .error e => .error (d.short .read global 0 (some e))
      | .ok most =>
        if min most (image.size - l * bytesPerBlock) = bytesPerBlock then
          .ok (image.bytesFrom (l * bytesPerBlock) bytesPerBlock)
        else .error (d.short .read global (min most (image.size - l * bytesPerBlock)) none) := by
  simp only [readBlock, blockStart?_of_lt hword, file, hhandle, Storage.readAt, Storage.imageOf,
    Storage.fileAt?_eq_some_iff.mp hfile]
  cases s.allowance .read hd (l * bytesPerBlock) bytesPerBlock with
  | error e => rfl
  | ok most =>
    simp only [Image.read, Image.length_bytesFrom]
    split
    · rename_i h
      rw [h]
    · rfl

/-- **A write** patches the file with what may be moved. -/
theorem writeBlock_eq (hword : l * bytesPerBlock < Word.limit) (hhandle : d.handle = some hd)
    (hfile : s.fileAt? hd.node = some image) :
    d.writeBlock s l global bytes =
      match s.allowance .write hd (l * bytesPerBlock) bytes.size with
      | .error e => (s, .error (d.short .write global 0 (some e)))
      | .ok most =>
        (s.patch hd.node (l * bytesPerBlock) (bytes.take most),
          if most = bytesPerBlock then .ok () else .error (d.short .write global most none)) := by
  simp only [writeBlock, blockStart?_of_lt hword, file, hhandle, Storage.writeAt, Storage.patch,
    hfile, Storage.fileAt?_eq_some_iff.mp hfile]
  cases s.allowance .write hd (l * bytesPerBlock) bytes.size with
  | error e => rfl
  | ok most =>
    dsimp only
    split <;> rfl

/-- However a write ends, it has patched the file with a beginning of the block, or not at all. -/
theorem writeBlock_fst (hhandle : d.handle = some hd) (l global : Nat) (bytes : Array UInt8) :
    (d.writeBlock s l global bytes).1 = s ∨
      ∃ most ≤ bytes.size, l * bytesPerBlock + most < Storage.offsetLimit ∧
        (d.writeBlock s l global bytes).1 =
          s.patch hd.node (l * bytesPerBlock) (bytes.take most) := by
  rcases Nat.lt_or_ge (l * bytesPerBlock) Word.limit with hword | hlimit
  · simp only [writeBlock, blockStart?_of_lt hword, file, hhandle]
    rcases s.writeAt_cases hd (l * bytesPerBlock) bytes with ⟨e, h⟩ | ⟨most, hle, hlt, h⟩
    · rw [h]
      exact .inl rfl
    · rw [h]
      refine .inr ⟨most, hle, hlt, ?_⟩
      dsimp only
      split <;> rfl
  · rw [writeBlock_of_limit_le hlimit]
    exact .inl rfl

/-- A write that succeeds has patched the whole block in. -/
theorem patch_of_writeBlock (h : d.writeBlock s l global bytes = (s', .ok ()))
    (hsize : bytes.size = bytesPerBlock) :
    ∃ hd, d.handle = some hd ∧ l * bytesPerBlock + bytesPerBlock < Storage.offsetLimit ∧
      s' = s.patch hd.node (l * bytesPerBlock) bytes := by
  have hword : l * bytesPerBlock < Word.limit := by
    refine Nat.lt_of_not_le fun hlimit => ?_
    simp [writeBlock_of_limit_le hlimit] at h
  simp only [writeBlock, blockStart?_of_lt hword, file] at h
  cases hhandle : d.handle with
  | none => simp [hhandle] at h
  | some hd =>
    simp only [hhandle] at h
    rcases s.writeAt_cases hd (l * bytesPerBlock) bytes with
      ⟨e, hwrite⟩ | ⟨most, -, hlt, hwrite⟩
    · simp [hwrite] at h
    · simp only [hwrite] at h
      split at h
      · rename_i hwhole
        have htake : bytes.take most = bytes := by simp [hwhole, ← hsize]
        rw [htake] at h
        exact ⟨hd, rfl, hwhole ▸ hlt, (congrArg Prod.fst h).symm⟩
      · simp at h

/-- A whole block that has been patched in is read back, unless a fault strikes. -/
theorem readBlock_patch_self (hhandle : d.handle = some hd)
    (hfile : s.fileAt? hd.node = some image) (hquiet : s.faultOn .read hd.path = none)
    (hlt : l * bytesPerBlock + bytesPerBlock < Storage.offsetLimit)
    (hsize : bytes.size = bytesPerBlock) :
    d.readBlock (s.patch hd.node (l * bytesPerBlock) bytes) l global = .ok bytes.toList := by
  have hword := word_of_offset (Nat.lt_of_le_of_lt (Nat.le_add_right _ _) hlt)
  have hpatched : (s.patch hd.node (l * bytesPerBlock) bytes).fileAt? hd.node =
      some (image.write (l * bytesPerBlock) bytes) := by
    simp [Storage.fileAt?_patch, hfile]
  have hlong : l * bytesPerBlock + bytesPerBlock ≤
      (image.write (l * bytesPerBlock) bytes).size := by
    rw [Image.size_write image _ (by rw [hsize]; decide), hsize]
    exact Nat.le_max_right ..
  rw [readBlock_eq hword hhandle hpatched, Storage.allowance_patch,
    Storage.allowance_of_quiet hquiet hlt]
  simp only
  rw [if_pos (by omega), ← hsize, Image.bytesFrom_write_self]

/-- The file behind a device, if there is one, reaches to the end of a local block. -/
def Reaches (s : Storage) (d : Backing) (l : Nat) : Prop :=
  ∀ image, d.image? s = some image → l * bytesPerBlock + bytesPerBlock ≤ image.size

/-- Whatever faults do, a patch elsewhere does not show in a block. -/
theorem readBlock_patch {node offset : Nat} (hhandle : d.handle = some hd)
    (reaches : hd.node = node → d.Reaches s l)
    (helsewhere : hd.node = node →
      l * bytesPerBlock + bytesPerBlock ≤ offset ∨ offset + bytes.size ≤ l * bytesPerBlock) :
    d.readBlock (s.patch node offset bytes) l global = d.readBlock s l global := by
  rcases Nat.lt_or_ge (l * bytesPerBlock) Word.limit with hword | hlimit
  case inr => rw [readBlock_of_limit_le hlimit, readBlock_of_limit_le hlimit]
  by_cases h : hd.node = node
  · subst h
    cases hfile : s.fileAt? hd.node with
    | none => simp [Storage.patch, hfile]
    | some image =>
      have hfits := reaches rfl image (image?_eq_some_iff.mpr ⟨hd, hhandle, hfile⟩)
      have hsize := image.le_size_write offset bytes
      have hpatched : (s.patch hd.node offset bytes).fileAt? hd.node =
          some (image.write offset bytes) := by
        simp [Storage.fileAt?_patch, hfile]
      rw [readBlock_eq hword hhandle hpatched, readBlock_eq hword hhandle hfile,
        Storage.allowance_patch]
      split
      · rfl
      · rename_i most hmost
        have hle := (Storage.allowance_eq_ok hmost).1
        rw [Image.bytesFrom_write_of_disjoint (helsewhere rfl), Nat.min_eq_left (by omega),
          Nat.min_eq_left (by omega)]
  · simp [readBlock, blockStart?_of_lt hword, file, hhandle, Storage.readAt, Storage.imageOf,
      Storage.nodes_patch_of_ne h]

/-! ## Blocks within their files -/

/-- A local block lies within the file behind the device. -/
structure Holds (s : Storage) (d : Backing) (l : Nat) (hd : Handle) (image : Image) : Prop where
  handle : d.handle = some hd
  file : s.fileAt? hd.node = some image
  fits : l * bytesPerBlock + bytesPerBlock ≤ image.size

namespace Holds

variable (holds : Holds s d l hd image)
include holds

theorem readBlock_of_quiet (hquiet : s.faultOn .read hd.path = none)
    (hlt : image.size < Storage.offsetLimit) :
    d.readBlock s l global = .ok (image.bytesFrom (l * bytesPerBlock) bytesPerBlock) := by
  have hfits := holds.fits
  have hword : l * bytesPerBlock < Word.limit := word_of_offset (by omega)
  rw [readBlock_eq hword holds.handle holds.file, Storage.allowance_of_quiet hquiet (by omega)]
  exact if_pos (by omega)

theorem writeBlock_of_quiet (hquiet : s.faultOn .write hd.path = none)
    (hlt : image.size < Storage.offsetLimit) (hsize : bytes.size = bytesPerBlock) :
    d.writeBlock s l global bytes = (s.patch hd.node (l * bytesPerBlock) bytes, .ok ()) := by
  have hfits := holds.fits
  have hword : l * bytesPerBlock < Word.limit := word_of_offset (by omega)
  have hwhole : bytes.take bytesPerBlock = bytes := by simp [← hsize]
  rw [writeBlock_eq hword holds.handle holds.file, hsize,
    Storage.allowance_of_quiet hquiet (by omega)]
  simp only [hwhole, if_true]

end Holds

end Backing

end ZonedSet
