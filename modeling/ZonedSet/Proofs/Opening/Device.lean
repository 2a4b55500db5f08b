/-
ZonedSet.Proofs.Opening.Device — what is known of a device once it is open.

`Backing.openAt_eq_ok_iff` lists the steps that opening has gone through: every check has passed,
and the device is what its classification says. `Backing.classify_ok` then reads off the parts of
the device, and `Backing.exists_image_of_openAt` ties them to the stored file behind it.

`Backing.Opened` forgets where and how a device was opened. All that stays is what opening makes
sure of for good, which is as much as a set can count on when it is assembled.
-/
import ZonedSet.Backing
import ZonedSet.Proofs.Layout.EndToEnd

namespace ZonedSet

/-- A sequence of two steps succeeds when both do. -/
theorem bind_eq_ok_iff {ε α β : Type} {x : Except ε α} {f : α → Except ε β} {b : β} :
    x >>= f = .ok b ↔ ∃ a, x = .ok a ∧ f a = .ok b := by
  cases x <;> simp [bind, Except.bind]

/-- A check that is made only under a condition. -/
theorem guard_eq_ok_iff {ε β : Type} {c : Prop} [Decidable c] {x : Except ε Unit}
    {y : Except ε β} {b : β} :
    (if c then x >>= fun _ => y else y) = .ok b ↔ (c → x = .ok ()) ∧ y = .ok b := by
  by_cases hc : c
  · rw [if_pos hc, bind_eq_ok_iff]
    exact ⟨fun ⟨_, hx, hy⟩ => ⟨fun _ => hx, hy⟩, fun ⟨hx, hy⟩ => ⟨(), hx hc, hy⟩⟩
  · simp [hc]

/-- No file reaches past the largest offset. -/
def Storage.Bounded (s : Storage) : Prop :=
  ∀ (node : Nat) (image : Image), s.nodes[node]? = some (.file image) →
    image.size < Storage.offsetLimit

namespace Backing

variable {s : Storage} {purpose : Purpose} {overwrite : Bool} {config : Config}
  {given path : String} {isBlock : Bool} {hd : Handle} {d e : Backing} {zoneSectors : Nat}

/-! ## Zone size -/

theorem zoneCountFor_eq_ok_iff {name : String} {capacity n : Nat} :
    zoneCountFor name capacity zoneSectors = .ok n ↔
      pieces? capacity zoneSectors = some n ∧ n ≠ 0 ∧ n ≤ zoneLimit := by
  unfold zoneCountFor
  cases hp : pieces? capacity zoneSectors with
  | none => simp
  | some count =>
    dsimp only
    split
    · rename_i hzero
      simp only [reduceCtorEq, Option.some.injEq, false_iff]
      rintro ⟨rfl, hne, -⟩
      exact hne hzero
    · rename_i hne
      split
      · rename_i hle
        simp only [Except.ok.injEq, Option.some.injEq]
        exact ⟨fun h => ⟨h, h ▸ hne, h ▸ hle⟩, fun h => h.1⟩
      · rename_i hlt
        simp only [reduceCtorEq, Option.some.injEq, false_iff]
        rintro ⟨rfl, -, hle⟩
        exact hlt hle

theorem withZoneSize_eq_ok_iff :
    d.withZoneSize zoneSectors = .ok e ↔
      ∃ n, zoneCountFor d.name d.capacity zoneSectors = .ok n ∧
        e = { d with zoneCount := n, zoneSectors := zoneSectors } := by
  unfold withZoneSize
  cases zoneCountFor d.name d.capacity zoneSectors with
  | error => simp
  | ok n => simp [eq_comm]

/-- Only a device with sectors has zones. -/
theorem capacity_pos_of_zoneCountFor {name : String} {capacity n : Nat}
    (h : zoneCountFor name capacity zoneSectors = .ok n) : 0 < capacity := by
  obtain ⟨hpieces, hne, -⟩ := zoneCountFor_eq_ok_iff.mp h
  have := (lt_iff_of_pieces? hpieces 0).mp (Nat.pos_of_ne_zero hne)
  omega

/-- The device has this zone size, and the number of zones that goes with it. -/
structure Sized (zoneSectors : Nat) (d : Backing) : Prop where
  zoneSectors_eq : d.zoneSectors = zoneSectors
  zoneCount_ok : zoneCountFor d.name d.capacity zoneSectors = .ok d.zoneCount

theorem Sized.capacity_pos (sized : d.Sized zoneSectors) : 0 < d.capacity :=
  capacity_pos_of_zoneCountFor sized.zoneCount_ok

theorem sized_of_withZoneSize (h : d.withZoneSize zoneSectors = .ok e) : e.Sized zoneSectors := by
  obtain ⟨n, hn, rfl⟩ := withZoneSize_eq_ok_iff.mp h
  exact ⟨rfl, hn⟩

/-! ## The steps of opening -/

/-- The checks that stand before the opening of a canonical path have passed. -/
structure Cleared (s : Storage) (purpose : Purpose) (overwrite : Bool) (config : Config)
    (path : String) (isBlock : Bool) : Prop where
  device : isBlockDevice s config path = .ok isBlock
  empty : purpose = .format → overwrite = false → refuseContent s path = .ok ()
  unmounted : refuseMounted s config path = .ok ()
  free : isBlock = true → purpose = .format → refuseHeld s config path = .ok ()

/-- **What opening goes through.** -/
theorem openAt_eq_ok_iff :
    openAt s purpose overwrite config given = .ok d ↔
      ∃ path isBlock hd, locate s given = .ok path ∧
        Cleared s purpose overwrite config path isBlock ∧
        s.openFile .openWrite path = .ok hd ∧ classify s config isBlock hd path = .ok d := by
  simp only [openAt, bind_eq_ok_iff, guard_eq_ok_iff]
  constructor
  · rintro ⟨path, hpath, isBlock, hdevice, hempty, _, hmount, hheld, h⟩
    split at h
    · cases h
    · rename_i hd hopen
      exact ⟨path, isBlock, hd, hpath, ⟨hdevice, fun h1 h2 => hempty ⟨h1, h2⟩, hmount,
        fun h1 h2 => hheld ⟨h1, h2⟩⟩, hopen, h⟩
  · rintro ⟨path, isBlock, hd, hpath, ⟨hdevice, hempty, hmount, hheld⟩, hopen, h⟩
    refine ⟨path, hpath, isBlock, hdevice, fun h => hempty h.1 h.2, (), hmount,
      fun h => hheld h.1 h.2, ?_⟩
    rw [hopen]
    exact h

/-! ## Classification -/

/-- What classification says of an open file. Only a block device can be zoned, and a zoned device
brings a zone size that can be used. -/
structure Classified (s : Storage) (isBlock : Bool) (hd : Handle) (path : String) (d : Backing) :
    Prop where
  path_eq : d.path = path
  handle_eq : d.handle = some hd
  capacity_eq : ∃ bytes, byteCapacity s isBlock hd = .ok bytes ∧ d.capacity = bytes / bytesPerSector
  regular : isBlock = false → d.model = .regular
  zoned : d.model.isZoned = true →
    validZoneSize d.zoneSectors = true ∧
      zoneCountFor d.name d.capacity d.zoneSectors = .ok d.zoneCount

/-- **What classification goes through.** The zone size of a zoned device is looked up, and has to
be one that can be used. -/
theorem classify_cases (h : classify s config isBlock hd path = .ok d) :
    ∃ model bytes, (isBlock = false → model = .regular) ∧
      byteCapacity s isBlock hd = .ok bytes ∧
      let found : Backing :=
        { name := Path.baseName path, model, capacity := bytes / bytesPerSector, zoneCount := 0,
          blockOffset := 0, path, handle := some hd, zoneSectors := 0 }
      (model.isZoned = false ∧ d = found ∨
        model.isZoned = true ∧ ∃ zoneSectors,
          Sysfs.zoneSectors s config.sysfsRoot found.name = .ok zoneSectors ∧
            validZoneSize zoneSectors = true ∧ found.withZoneSize zoneSectors = .ok d) := by
  unfold classify at h
  extract_lets name finish at h
  obtain ⟨model, hmodel, h⟩ :
      ∃ model, (isBlock = false → model = .regular) ∧ finish model = .ok d := by
    split at h
    · rename_i hb
      obtain ⟨model, -, h⟩ := bind_eq_ok_iff.mp h
      exact ⟨model, by simp [hb], h⟩
    · exact ⟨.regular, fun _ => rfl, h⟩
  dsimp only [finish] at h
  split at h
  · cases h
  rename_i bytes hbytes
  refine ⟨model, bytes, hmodel, hbytes, ?_⟩
  split at h
  · rename_i hzoned
    obtain ⟨zoneSectors, hsize, h⟩ := bind_eq_ok_iff.mp h
    split at h
    · rename_i hvalid
      exact .inr ⟨hzoned, zoneSectors, hsize, hvalid, h⟩
    · cases h
  · rename_i hregular
    cases h
    exact .inl ⟨by simpa using hregular, rfl⟩

theorem classify_ok (h : classify s config isBlock hd path = .ok d) :
    Classified s isBlock hd path d := by
  obtain ⟨model, bytes, hmodel, hbytes, hcases⟩ := classify_cases h
  rcases hcases with ⟨hregular, rfl⟩ | ⟨-, zoneSectors, -, hvalid, h⟩
  · refine ⟨rfl, rfl, ⟨bytes, hbytes, rfl⟩, hmodel, fun hzoned => ?_⟩
    simp [hregular] at hzoned
  · obtain ⟨n, hn, rfl⟩ := withZoneSize_eq_ok_iff.mp h
    exact ⟨rfl, rfl, ⟨bytes, hbytes, rfl⟩, hmodel, fun _ => ⟨hvalid, hn⟩⟩

/-- A zoned device has the zone size that is published for it. -/
theorem published_of_openAt (h : openAt s purpose overwrite config given = .ok d)
    (hzoned : d.model.isZoned = true) :
    Sysfs.zoneSectors s config.sysfsRoot d.name = .ok d.zoneSectors := by
  obtain ⟨path, isBlock, hd, -, -, -, h⟩ := openAt_eq_ok_iff.mp h
  obtain ⟨model, bytes, -, -, hcases⟩ := classify_cases h
  rcases hcases with ⟨hregular, rfl⟩ | ⟨-, zoneSectors, hpublished, -, h⟩
  · simp [hregular] at hzoned
  · obtain ⟨n, -, rfl⟩ := withZoneSize_eq_ok_iff.mp h
    exact hpublished

/-! ## The file behind a device -/

theorem handle_of_openFile {site : FaultSite} (h : s.openFile site path = .ok hd) :
    ∃ trail, s.resolve path = .ok trail ∧
      hd = ⟨Storage.nodeId trail, Storage.pathOf trail⟩ := by
  unfold Storage.openFile at h
  split at h
  · cases h
  split at h
  · cases h
  rename_i trail htrail
  split at h
  · cases h
  · cases h
    exact ⟨trail, htrail, rfl⟩

theorem file_of_stat {kind : FileKind} (h : s.stat path = .ok kind) (hkind : kind ≠ .other) :
    ∃ trail image, s.resolve path = .ok trail ∧
      s.nodes[Storage.nodeId trail]? = some (.file image) ∧
      (kind = .regular ↔ s.block? (Storage.pathOf trail) = none) := by
  unfold Storage.stat at h
  split at h
  · cases h
  split at h
  · cases h
  rename_i trail htrail
  split at h
  · rename_i image himage
    refine ⟨trail, image, htrail, himage, ?_⟩
    cases hblock : s.block? (Storage.pathOf trail) <;> simp [hblock] at h <;> simp [← h]
  · cases h
    exact absurd rfl hkind

theorem stat_of_isBlockDevice (h : isBlockDevice s config path = .ok isBlock) :
    ∃ kind, s.stat path = .ok kind ∧ kind ≠ .other ∧ (isBlock = false ↔ kind = .regular) := by
  unfold isBlockDevice at h
  split at h
  · cases h
  · rename_i hstat
    cases h
    exact ⟨_, hstat, by decide, by decide⟩
  · rename_i hstat
    split at h
    · cases h
      exact ⟨_, hstat, by decide, by decide⟩
    · cases h
  · cases h

/-- A path that leads to something usable, once opened, gives its file. Whether the device is an
image file or a block device shows in the list of block devices. -/
theorem file_of_openFile (hopen : s.openFile .openWrite path = .ok hd)
    (hdevice : isBlockDevice s config path = .ok isBlock) :
    ∃ image, s.nodes[hd.node]? = some (.file image) ∧
      (isBlock = false ↔ s.block? hd.path = none) := by
  obtain ⟨trail, htrail, rfl⟩ := handle_of_openFile hopen
  obtain ⟨kind, hstat, hkind, hblock⟩ := stat_of_isBlockDevice hdevice
  obtain ⟨trail', image, htrail', himage, hregular⟩ := file_of_stat hstat hkind
  obtain rfl : trail = trail' := by
    rw [htrail] at htrail'
    exact Except.ok.inj htrail'
  exact ⟨image, himage, hblock.trans hregular⟩

/-- **An opened device has its file.** An image file gives the device its capacity. -/
theorem exists_image_of_openAt (h : openAt s purpose overwrite config given = .ok d) :
    ∃ hd image, d.handle = some hd ∧ s.nodes[hd.node]? = some (.file image) ∧
      (s.block? hd.path = none → d.capacity = image.size / bytesPerSector) := by
  obtain ⟨path, isBlock, hd, -, hcleared, hopen, h⟩ := openAt_eq_ok_iff.mp h
  have hclass := classify_ok h
  obtain ⟨image, himage, hblock⟩ := file_of_openFile hopen hcleared.device
  refine ⟨hd, image, hclass.handle_eq, himage, fun hnone => ?_⟩
  obtain ⟨bytes, hbytes, hcapacity⟩ := hclass.capacity_eq
  rw [byteCapacity, hblock.mpr hnone] at hbytes
  simp only [Bool.false_eq_true, if_false, Storage.imageOf, himage] at hbytes
  cases hbytes
  exact hcapacity

theorem byteCapacity_lt (bounded : s.Bounded) {bytes : Nat}
    (h : byteCapacity s isBlock hd = .ok bytes) : bytes < Word.limit := by
  unfold byteCapacity at h
  split at h
  · unfold Storage.blockCapacity at h
    split at h
    · rename_i device _
      cases hcapacity : device.capacity with
      | error e => simp [hcapacity, Except.map] at h
      | ok n =>
        obtain rfl : n.toNat = bytes := by simpa [hcapacity, Except.map] using h
        exact n.toNat_lt
    · cases h
  · unfold Storage.imageOf at h
    split at h
    · rename_i image himage
      cases h
      exact Nat.lt_trans (bounded _ _ himage) (by decide)
    · cases h
      decide
    · cases h

/-- The bytes of a device can be counted in a word. -/
theorem capacity_mul_lt (bounded : s.Bounded)
    (h : openAt s purpose overwrite config given = .ok d) :
    d.capacity * bytesPerSector < Word.limit := by
  obtain ⟨path, isBlock, hd, -, -, -, h⟩ := openAt_eq_ok_iff.mp h
  obtain ⟨bytes, hbytes, hcapacity⟩ := (classify_ok h).capacity_eq
  calc d.capacity * bytesPerSector = bytes / bytesPerSector * bytesPerSector := by rw [hcapacity]
    _ ≤ bytes := Nat.div_mul_le_self ..
    _ < Word.limit := byteCapacity_lt bounded hbytes

/-! ## Devices from anywhere -/

/-- The device was opened, whenever and however, and may have been closed since. -/
def Opened (d : Backing) : Prop :=
  ∃ s purpose overwrite config given e,
    openAt s purpose overwrite config given = .ok e ∧ (d = e ∨ d = e.close)

/-- A zoned device has brought its zone size. -/
theorem Opened.zoned (opened : d.Opened) (zoned : d.model.isZoned = true) :
    validZoneSize d.zoneSectors = true ∧ d.Sized d.zoneSectors := by
  obtain ⟨s, purpose, overwrite, config, given, e, h, he⟩ := opened
  obtain ⟨path, isBlock, hd, -, -, -, h⟩ := openAt_eq_ok_iff.mp h
  have hclass := classify_ok h
  rcases he with rfl | rfl
  · obtain ⟨hvalid, hcount⟩ := hclass.zoned zoned
    exact ⟨hvalid, rfl, hcount⟩
  · obtain ⟨hvalid, hcount⟩ := hclass.zoned zoned
    exact ⟨hvalid, rfl, hcount⟩

end Backing

end ZonedSet
