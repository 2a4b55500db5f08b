/-
ZonedSet.Proofs.Opening.Policy — what opening asks for, by purpose.

Opening to inspect and opening to format go through the same steps, but for the checks that stand
only before formatting. So a device can be formatted where it can be inspected and those checks
pass, and what is opened is the same (`Backing.openAt_format_iff`). Devices are opened one after
the other and assembling does not know the purpose, so the same holds of sets.

The checks that all purposes have in common are `Backing.Eligible`.
-/
import ZonedSet.Proofs.Opening.Assembling

namespace ZonedSet

/-! ## Holders -/

namespace Sysfs

theorem insertName_ne_nil (name : String) (names : List String) : insertName name names ≠ [] := by
  cases names with
  | nil => simp [insertName]
  | cons n rest =>
    unfold insertName
    split <;> simp

theorem sortNames_eq_nil_iff {names : List String} : sortNames names = [] ↔ names = [] := by
  cases names with
  | nil => simp [sortNames]
  | cons name rest => simp [sortNames, insertName_ne_nil]

/-- A device is found to have no holder where the directory of its holders is read and empty. -/
theorem holder?_eq_none_iff {s : Storage} {root name : String} :
    holder? s root name = .ok none ↔ s.entryNames (holdersDirectory root name) = .ok [] := by
  unfold holder? holders
  dsimp only
  cases s.entryNames (holdersDirectory root name) with
  | error e => simp [Except.map]
  | ok names => simp [Except.map, sortNames_eq_nil_iff]

end Sysfs

namespace Backing

variable {s : Storage} {purpose : Purpose} {overwrite : Bool} {config : Config}
  {given path : String} {isBlock : Bool} {d : Backing}

/-! ## The checks -/

/-- A check that looks for something, and goes on upon one finding only. -/
theorem check_eq_ok_iff {α : Type} {look : Except Error α} {go : α → Except Error Unit} {pass : α}
    (hgo : ∀ a, go a = .ok () ↔ a = pass) : look >>= go = .ok () ↔ look = .ok pass := by
  rw [bind_eq_ok_iff]
  constructor
  · rintro ⟨a, ha, h⟩
    rw [ha, (hgo a).mp h]
  · intro h
    exact ⟨pass, h, (hgo pass).mpr rfl⟩

theorem refuseContent_eq_ok_iff :
    refuseContent s path = .ok () ↔ Probe.content? s path = .ok none := by
  unfold refuseContent
  refine check_eq_ok_iff fun found => ?_
  cases found with
  | none => exact iff_of_true rfl rfl
  | some content => exact iff_of_false nofun nofun

theorem refuseMounted_eq_ok_iff :
    refuseMounted s config path = .ok () ↔
      MountTable.isMounted s config.mountTable path = .ok false := by
  unfold refuseMounted
  refine check_eq_ok_iff fun mounted => ?_
  cases mounted with
  | false => exact iff_of_true rfl rfl
  | true => exact iff_of_false nofun nofun

theorem refuseHeld_eq_ok_iff :
    refuseHeld s config path = .ok () ↔
      s.entryNames (Sysfs.holdersDirectory config.sysfsRoot (Path.baseName path)) = .ok [] := by
  rw [← Sysfs.holder?_eq_none_iff]
  unfold refuseHeld
  refine check_eq_ok_iff fun found => ?_
  cases found with
  | none => exact iff_of_true rfl rfl
  | some holder => exact iff_of_false nofun nofun

/-- A block device does, and a plain file where files are allowed. -/
theorem isBlockDevice_eq_ok_iff :
    isBlockDevice s config path = .ok isBlock ↔
      s.stat path = .ok .blockDevice ∧ isBlock = true ∨
        (s.stat path = .ok .regular ∧ config.allowFiles = true) ∧ isBlock = false := by
  unfold isBlockDevice
  cases s.stat path with
  | error e => simp
  | ok kind =>
    cases kind with
    | blockDevice => cases isBlock <;> simp
    | regular => cases config.allowFiles <;> cases isBlock <;> simp
    | other => simp

/-- If the path is that of a block device, the directory of its holders can be read and is
empty. -/
def Unheld (s : Storage) (config : Config) (path : String) : Prop :=
  s.stat path = .ok .blockDevice →
    s.entryNames (Sysfs.holdersDirectory config.sysfsRoot (Path.baseName path)) = .ok []

/-- The path may be opened, as far as can be told without a purpose: it is that of a device, or of
a file where files are allowed, and the mount table can be read and does not list it. -/
structure Eligible (s : Storage) (config : Config) (path : String) : Prop where
  usable : s.stat path = .ok .blockDevice ∨ s.stat path = .ok .regular ∧ config.allowFiles = true
  unmounted : MountTable.isMounted s config.mountTable path = .ok false

theorem Cleared.eligible (cleared : Cleared s purpose overwrite config path isBlock) :
    Eligible s config path := by
  refine ⟨?_, refuseMounted_eq_ok_iff.mp cleared.unmounted⟩
  rcases isBlockDevice_eq_ok_iff.mp cleared.device with ⟨hstat, -⟩ | ⟨hfile, -⟩
  · exact .inl hstat
  · exact .inr hfile

/-- The holders are looked up for a block device, and for nothing else. -/
theorem refuseHeld_iff_unheld (device : isBlockDevice s config path = .ok isBlock) :
    (isBlock = true → refuseHeld s config path = .ok ()) ↔ Unheld s config path := by
  unfold Unheld
  rw [refuseHeld_eq_ok_iff]
  rcases isBlockDevice_eq_ok_iff.mp device with ⟨hstat, rfl⟩ | ⟨⟨hstat, -⟩, rfl⟩
  · simp [hstat]
  · simp [hstat]

/-- **The checks before formatting are those before inspecting, and two more.** -/
theorem cleared_format_iff :
    Cleared s .format overwrite config path isBlock ↔
      Cleared s .inspect false config path isBlock ∧
        (overwrite = false → Probe.content? s path = .ok none) ∧ Unheld s config path := by
  constructor
  · intro cleared
    refine ⟨⟨cleared.device, by simp, cleared.unmounted, by simp⟩, ?_, ?_⟩
    · intro hkeep
      exact refuseContent_eq_ok_iff.mp (cleared.empty rfl hkeep)
    · rw [← refuseHeld_iff_unheld cleared.device]
      intro hblock
      exact cleared.free hblock rfl
  · rintro ⟨cleared, hcontent, hunheld⟩
    refine ⟨cleared.device, ?_, cleared.unmounted, ?_⟩
    · intro _ hkeep
      exact refuseContent_eq_ok_iff.mpr (hcontent hkeep)
    · intro hblock _
      exact (refuseHeld_iff_unheld cleared.device).mpr hunheld hblock

/-! ## One device -/

theorem locate_eq_ok_iff : locate s given = .ok path ↔ s.canonicalPath given = .ok path := by
  unfold locate
  cases s.canonicalPath given with
  | error e => simp
  | ok canonical => simp

/-- Overwriting is no question before inspecting. -/
theorem openAt_inspect (overwrite : Bool) :
    openAt s .inspect overwrite config given = openAt s .inspect false config given := by
  simp [openAt]

/-- The two more checks pass at the path's canonical form. -/
def Spared (s : Storage) (overwrite : Bool) (config : Config) (given : String) : Prop :=
  ∀ c, s.canonicalPath given = .ok c →
    (overwrite = false → Probe.content? s c = .ok none) ∧ Unheld s config c

/-- **A device is formatted where it can be inspected and nothing is lost.** -/
theorem openAt_format_iff :
    openAt s .format overwrite config given = .ok d ↔
      openAt s .inspect false config given = .ok d ∧ Spared s overwrite config given := by
  simp only [openAt_eq_ok_iff, locate_eq_ok_iff]
  constructor
  · rintro ⟨path, isBlock, hd, hpath, hcleared, hopen⟩
    obtain ⟨hinspect, hmore⟩ := cleared_format_iff.mp hcleared
    refine ⟨⟨path, isBlock, hd, hpath, hinspect, hopen⟩, ?_⟩
    intro c hc
    obtain rfl : path = c := Except.ok.inj (hpath.symm.trans hc)
    exact hmore
  · rintro ⟨⟨path, isBlock, hd, hpath, hinspect, hopen⟩, hspared⟩
    exact ⟨path, isBlock, hd, hpath, cleared_format_iff.mpr ⟨hinspect, hspared path hpath⟩, hopen⟩

/-- An opened device was eligible. -/
theorem exists_eligible (h : openAt s purpose overwrite config given = .ok d) :
    ∃ c, s.canonicalPath given = .ok c ∧ Eligible s config c := by
  obtain ⟨path, isBlock, hd, hpath, hcleared, -⟩ := openAt_eq_ok_iff.mp h
  exact ⟨path, locate_eq_ok_iff.mp hpath, hcleared.eligible⟩

end Backing

/-! ## A set -/

namespace DeviceSet

variable {s : Storage} {options : OpenOptions} {overwrite : Bool} {paths : List String}
  {devices : List Backing} {set : DeviceSet}

theorem openDevices_inspect (overwrite : Bool) :
    openDevices s { options with purpose := .inspect, overwrite := overwrite } paths =
      openDevices s { options with purpose := .inspect } paths := by
  induction paths with
  | nil => rfl
  | cons path rest ih =>
    unfold openDevices
    rw [ih]
    dsimp only
    rw [Backing.openAt_inspect overwrite, Backing.openAt_inspect options.overwrite]

theorem openDevices_format_iff :
    openDevices s { options with purpose := .format, overwrite := overwrite } paths =
        .ok devices ↔
      openDevices s { options with purpose := .inspect } paths = .ok devices ∧
        ∀ p ∈ paths, Backing.Spared s overwrite options.config p := by
  induction paths generalizing devices with
  | nil => simp [openDevices]
  | cons path rest ih =>
    simp only [openDevices_cons_eq_ok_iff, ih, Backing.openAt_format_iff,
      Backing.openAt_inspect options.overwrite, List.forall_mem_cons]
    constructor
    · rintro ⟨d, more, ⟨hd, hspared⟩, ⟨hmore, hspareds⟩, rfl⟩
      exact ⟨⟨d, more, hd, hmore, rfl⟩, hspared, hspareds⟩
    · rintro ⟨⟨d, more, hd, hmore, rfl⟩, hspared, hspareds⟩
      exact ⟨d, more, ⟨hd, hspared⟩, ⟨hmore, hspareds⟩, rfl⟩

theorem openAt_format_iff :
    openAt s { options with purpose := .format, overwrite := overwrite } paths = .ok set ↔
      openAt s { options with purpose := .inspect } paths = .ok set ∧
        ∀ p ∈ paths, Backing.Spared s overwrite options.config p := by
  simp only [openAt_eq_ok_iff, openDevices_format_iff]
  constructor
  · rintro ⟨devices, ⟨hdevices, hspared⟩, h⟩
    exact ⟨⟨devices, hdevices, h⟩, hspared⟩
  · rintro ⟨⟨devices, hdevices, h⟩, hspared⟩
    exact ⟨devices, ⟨hdevices, hspared⟩, h⟩

theorem forall_eligible (h : openDevices s options paths = .ok devices) :
    ∀ p ∈ paths, ∃ c, s.canonicalPath p = .ok c ∧ Backing.Eligible s options.config c := by
  induction paths generalizing devices with
  | nil => simp
  | cons path rest ih =>
    obtain ⟨d, more, hd, hmore, -⟩ := openDevices_cons_eq_ok_iff.mp h
    exact List.forall_mem_cons.mpr ⟨Backing.exists_eligible hd, ih hmore⟩

/-- **What opening asks for, by purpose.** A set is opened for formatting where it is opened for
inspecting, the same set, and no block device of it has a holder; unless content may be overwritten,
none must be found either. Inspecting does not ask about overwriting. Whatever the purpose, every
path leads to a block device, or to a plain file where files are allowed, that the mount table does
not list. -/
theorem openAt_policy (s : Storage) (options : OpenOptions) (paths : List String)
    (set : DeviceSet) :
    (openAt s { options with purpose := .format, overwrite := false } paths = .ok set ↔
      openAt s { options with purpose := .inspect } paths = .ok set ∧
        ∀ p ∈ paths, ∀ c, s.canonicalPath p = .ok c →
          Probe.content? s c = .ok none ∧ Backing.Unheld s options.config c) ∧
    (openAt s { options with purpose := .format, overwrite := true } paths = .ok set ↔
      openAt s { options with purpose := .inspect } paths = .ok set ∧
        ∀ p ∈ paths, ∀ c, s.canonicalPath p = .ok c → Backing.Unheld s options.config c) ∧
    (∀ overwrite,
      openAt s { options with purpose := .inspect, overwrite := overwrite } paths =
        openAt s { options with purpose := .inspect } paths) ∧
    (openAt s options paths = .ok set →
      ∀ p ∈ paths, ∃ c, s.canonicalPath p = .ok c ∧
        (s.stat c = .ok .blockDevice ∨
          s.stat c = .ok .regular ∧ options.config.allowFiles = true) ∧
        MountTable.isMounted s options.config.mountTable c = .ok false) := by
  refine ⟨?_, ?_, ?_, ?_⟩
  · rw [openAt_format_iff]
    simp [Backing.Spared]
  · rw [openAt_format_iff]
    simp [Backing.Spared]
  · intro overwrite
    unfold openAt
    rw [openDevices_inspect overwrite]
  · intro h p hp
    obtain ⟨devices, hdevices, -⟩ := openAt_eq_ok_iff.mp h
    obtain ⟨c, hc, heligible⟩ := forall_eligible hdevices p hp
    exact ⟨c, hc, heligible.usable, heligible.unmounted⟩

end DeviceSet

end ZonedSet
