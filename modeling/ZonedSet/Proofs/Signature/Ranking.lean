/-
ZonedSet.Proofs.Signature.Ranking — which of several signatures on a device is the one reported.

A device may carry signatures of all kinds at once, since formatting leaves old ones behind.
`Signature.Carries` lists what a device carries, without an order. The sequence of tests reports one
of these contents whenever there is one (`Signature.carries_of_scan`,
`Signature.scan_eq_none_iff`), and prefers volumes to file systems and file systems to partition
tables, with one exception: an LVM2 label, looked for after the file systems, goes unreported on a
device that has a file system, too (`lvm_behind_filesystem`).

The proofs cut the sequence into one search for each kind (`Signature.scan_eq`). Each search is
sound, and complete for its kind.
-/
import ZonedSet.Proofs.Signature.Sampling

namespace ZonedSet

namespace Signature

variable {w : Window} {name : String} {c : Content}

/-! ## What a device carries -/

/-- The name of a volume with an LVM2 label. -/
def lvmName : String := "LVM2_member"

/-- The device has a signature that stands for this content. -/
inductive Carries (w : Window) : Content → Prop where
  | raid (h : isRaid w = true) : Carries w (.volume "linux_raid_member")
  | volume {m : Magic} (hm : m ∈ volumeMagics) (h : w.has m.offset m.bytes = true) :
      Carries w (.volume m.name)
  | zfs (h : isZfs w = true) : Carries w (.volume "zfs_member")
  | lvm (h : isLvm w = true) : Carries w (.volume lvmName)
  | ext {name : String} (h : ext? w = some name) : Carries w (.filesystem name)
  | filesystem {m : Magic} (hm : m ∈ filesystemMagics) (h : w.has m.offset m.bytes = true) :
      Carries w (.filesystem m.name)
  | fat (h : isFat w = true) : Carries w (.filesystem "vfat")
  | gpt (h : isGpt w = true) : Carries w (.partitionTable "gpt")
  | dos (h : isDos w = true) : Carries w (.partitionTable "dos")

/-- The device carries a file system, and no volume but by an LVM2 label. -/
structure LabelBehind (w : Window) : Prop where
  behind : ∃ name, Carries w (.filesystem name)
  label : ∀ name, Carries w (.volume name) → name = lvmName

/-! ## One search for each kind -/

/-- The first volume in the sequence of tests, LVM2 labels apart. -/
def member? (w : Window) : Option String :=
  if isRaid w then some "linux_raid_member"
  else (find? w volumeMagics).or (if isZfs w then some "zfs_member" else none)

/-- The first file system. -/
def filesystem? (w : Window) : Option String :=
  (ext? w).or ((find? w filesystemMagics).or (if isFat w then some "vfat" else none))

/-- The first partition table. -/
def partitionTable? (w : Window) : Option String :=
  if isGpt w then some "gpt" else if isDos w then some "dos" else none

/-- The sequence, kind by kind. -/
theorem scan_eq (w : Window) :
    scan w = ((member? w).map .volume).or (((filesystem? w).map .filesystem).or
      (if isLvm w then some (.volume lvmName) else (partitionTable? w).map .partitionTable)) := by
  unfold scan member? filesystem? partitionTable?
  cases isRaid w with
  | true => rfl
  | false =>
    cases find? w volumeMagics with
    | some name => rfl
    | none =>
      cases isZfs w with
      | true => rfl
      | false =>
        cases ext? w with
        | some name => rfl
        | none =>
          cases find? w filesystemMagics with
          | some name => rfl
          | none => cases isFat w <;> cases isLvm w <;> cases isGpt w <;> cases isDos w <;> rfl

theorem exists_of_find?_eq_some {magics : List Magic} (h : find? w magics = some name) :
    ∃ m ∈ magics, w.has m.offset m.bytes = true ∧ m.name = name := by
  obtain ⟨m, hm, hname⟩ := Option.map_eq_some_iff.mp h
  have hhas := List.find?_some (p := fun m : Magic => w.has m.offset m.bytes) hm
  exact ⟨m, List.mem_of_find?_eq_some hm, hhas, hname⟩

theorem find?_eq_none_iff {magics : List Magic} :
    find? w magics = none ↔ ∀ m ∈ magics, w.has m.offset m.bytes = false := by
  simp [find?]

/-- No volume that is looked for first goes by the name of one with an LVM2 label. -/
theorem carries_of_member? (h : member? w = some name) :
    Carries w (.volume name) ∧ name ≠ lvmName := by
  have hnames : ∀ m ∈ volumeMagics, m.name ≠ lvmName := by decide
  unfold member? at h
  split at h
  · rename_i hraid
    cases h
    exact ⟨.raid hraid, by decide⟩
  · rcases Option.or_eq_some_iff.mp h with hmagic | ⟨-, h⟩
    · obtain ⟨m, hm, hhas, rfl⟩ := exists_of_find?_eq_some hmagic
      exact ⟨.volume hm hhas, hnames m hm⟩
    · split at h
      · rename_i hzfs
        cases h
        exact ⟨.zfs hzfs, by decide⟩
      · cases h

/-- A volume that is not found first has an LVM2 label. -/
theorem lvm_of_carries (hmember : member? w = none) (h : Carries w (.volume name)) :
    name = lvmName ∧ isLvm w = true := by
  unfold member? at hmember
  split at hmember
  · cases hmember
  rename_i hraid
  obtain ⟨hmagic, hzfs⟩ := Option.or_eq_none_iff.mp hmember
  cases h with
  | raid h => exact absurd h hraid
  | volume hm h => simp [find?_eq_none_iff.mp hmagic _ hm] at h
  | zfs h => simp [h] at hzfs
  | lvm h => exact ⟨rfl, h⟩

theorem member?_eq_none_iff :
    member? w = none ↔ ∀ name, Carries w (.volume name) → name = lvmName := by
  constructor
  · intro hmember name h
    exact (lvm_of_carries hmember h).1
  · intro h
    rw [Option.eq_none_iff_forall_ne_some]
    intro name hmember
    obtain ⟨hcarries, hne⟩ := carries_of_member? hmember
    exact hne (h name hcarries)

theorem carries_of_filesystem? (h : filesystem? w = some name) :
    Carries w (.filesystem name) := by
  unfold filesystem? at h
  rcases Option.or_eq_some_iff.mp h with hext | ⟨-, h⟩
  · exact .ext hext
  · rcases Option.or_eq_some_iff.mp h with hmagic | ⟨-, h⟩
    · obtain ⟨m, hm, hhas, rfl⟩ := exists_of_find?_eq_some hmagic
      exact .filesystem hm hhas
    · split at h
      · rename_i hfat
        cases h
        exact .fat hfat
      · cases h

theorem filesystem?_eq_none_iff :
    filesystem? w = none ↔ ∀ name, ¬Carries w (.filesystem name) := by
  constructor
  · intro h name hcarries
    obtain ⟨hext, h⟩ := Option.or_eq_none_iff.mp h
    obtain ⟨hmagic, hfat⟩ := Option.or_eq_none_iff.mp h
    cases hcarries with
    | ext h => simp [hext] at h
    | filesystem hm h => simp [find?_eq_none_iff.mp hmagic _ hm] at h
    | fat h => simp [h] at hfat
  · intro h
    rw [Option.eq_none_iff_forall_ne_some]
    intro name hfilesystem
    exact h name (carries_of_filesystem? hfilesystem)

theorem carries_of_partitionTable? (h : partitionTable? w = some name) :
    Carries w (.partitionTable name) := by
  unfold partitionTable? at h
  split at h
  · rename_i hgpt
    cases h
    exact .gpt hgpt
  · split at h
    · rename_i hdos
      cases h
      exact .dos hdos
    · cases h

theorem partitionTable?_eq_none_iff :
    partitionTable? w = none ↔ ∀ name, ¬Carries w (.partitionTable name) := by
  constructor
  · intro h name hcarries
    unfold partitionTable? at h
    cases hcarries with
    | gpt hgpt => simp [hgpt] at h
    | dos hdos =>
      rw [hdos] at h
      split at h <;> cases h
  · intro h
    rw [Option.eq_none_iff_forall_ne_some]
    intro name hpartitionTable
    exact h name (carries_of_partitionTable? hpartitionTable)

/-! ## The sequence -/

/-- **What is reported is there.** -/
theorem carries_of_scan (h : scan w = some c) : Carries w c := by
  rw [scan_eq] at h
  rcases Option.or_eq_some_iff.mp h with h | ⟨-, h⟩
  · obtain ⟨name, hname, rfl⟩ := Option.map_eq_some_iff.mp h
    exact (carries_of_member? hname).1
  rcases Option.or_eq_some_iff.mp h with h | ⟨-, h⟩
  · obtain ⟨name, hname, rfl⟩ := Option.map_eq_some_iff.mp h
    exact carries_of_filesystem? hname
  split at h
  · rename_i hlvm
    cases h
    exact .lvm hlvm
  · obtain ⟨name, hname, rfl⟩ := Option.map_eq_some_iff.mp h
    exact carries_of_partitionTable? hname

/-- **What is there is reported,** or something else that is there. -/
theorem scan_eq_none_iff : scan w = none ↔ ∀ c, ¬Carries w c := by
  constructor
  · intro h c hcarries
    rw [scan_eq, Option.or_eq_none_iff, Option.or_eq_none_iff, Option.map_eq_none_iff,
      Option.map_eq_none_iff] at h
    obtain ⟨hmember, hfilesystem, h⟩ := h
    cases c with
    | volume name => simp [(lvm_of_carries hmember hcarries).2] at h
    | filesystem name => exact filesystem?_eq_none_iff.mp hfilesystem name hcarries
    | partitionTable name =>
      split at h
      · cases h
      · exact partitionTable?_eq_none_iff.mp (Option.map_eq_none_iff.mp h) name hcarries
  · intro h
    rw [Option.eq_none_iff_forall_ne_some]
    intro c hscan
    exact h c (carries_of_scan hscan)

/-- A volume that is not hidden behind a file system is reported. -/
theorem scan_volume (h : Carries w (.volume name)) (hbehind : ¬LabelBehind w) :
    ∃ name, scan w = some (.volume name) := by
  rw [scan_eq]
  cases hmember : member? w with
  | some first => exact ⟨first, rfl⟩
  | none =>
    have hlvm := (lvm_of_carries hmember h).2
    have hfilesystem : filesystem? w = none := by
      rw [filesystem?_eq_none_iff]
      intro other hother
      exact hbehind ⟨⟨other, hother⟩, member?_eq_none_iff.mp hmember⟩
    rw [hfilesystem, hlvm]
    exact ⟨lvmName, rfl⟩

/-- A file system is reported, unless there is a volume that comes first. -/
theorem scan_filesystem (h : Carries w (.filesystem name))
    (hvolume : ∀ name, Carries w (.volume name) → name = lvmName) :
    ∃ name, scan w = some (.filesystem name) := by
  rw [scan_eq, member?_eq_none_iff.mpr hvolume]
  cases hfilesystem : filesystem? w with
  | some first => exact ⟨first, rfl⟩
  | none => exact absurd h (filesystem?_eq_none_iff.mp hfilesystem name)

/-- A partition table is reported, unless there is anything else. -/
theorem scan_partitionTable (h : Carries w (.partitionTable name))
    (hvolume : ∀ name, ¬Carries w (.volume name))
    (hfilesystem : ∀ name, ¬Carries w (.filesystem name)) :
    ∃ name, scan w = some (.partitionTable name) := by
  cases hscan : scan w with
  | none => exact absurd h (scan_eq_none_iff.mp hscan _)
  | some c =>
    have hcarries := carries_of_scan hscan
    cases c with
    | volume other => exact absurd hcarries (hvolume other)
    | filesystem other => exact absurd hcarries (hfilesystem other)
    | partitionTable other => exact ⟨other, rfl⟩

/-- **How signatures are ranked.** A volume is reported before all else, unless all that it has is
an LVM2 label and there is a file system: then a file system is reported. Without a volume a file
system is reported, and without either a partition table. What is reported is on the image, and
nothing is reported only where nothing is. -/
theorem scan_ranks (image : Image) :
    ((∃ name, Carries image.window (.volume name)) → ¬LabelBehind image.window →
      ∃ name, Sample.scan image = some (.volume name)) ∧
    (LabelBehind image.window → ∃ name, Sample.scan image = some (.filesystem name)) ∧
    ((∀ name, ¬Carries image.window (.volume name)) →
      (∃ name, Carries image.window (.filesystem name)) →
        ∃ name, Sample.scan image = some (.filesystem name)) ∧
    ((∀ name, ¬Carries image.window (.volume name)) →
      (∀ name, ¬Carries image.window (.filesystem name)) →
        (∃ name, Carries image.window (.partitionTable name)) →
          ∃ name, Sample.scan image = some (.partitionTable name)) ∧
    (∀ c, Sample.scan image = some c → Carries image.window c) ∧
    (Sample.scan image = none ↔ ∀ c, ¬Carries image.window c) := by
  rw [Sample.scan_eq]
  refine ⟨?_, ?_, ?_, ?_, fun c => carries_of_scan, scan_eq_none_iff⟩
  · rintro ⟨name, h⟩ hbehind
    exact scan_volume h hbehind
  · rintro ⟨⟨name, h⟩, hlabel⟩
    exact scan_filesystem h hlabel
  · rintro hvolume ⟨name, h⟩
    exact scan_filesystem h fun other hother => absurd hother (hvolume other)
  · rintro hvolume hfilesystem ⟨name, h⟩
    exact scan_partitionTable h hvolume hfilesystem

/-! ## A label behind a file system -/

/-- An image with the label of LVM2 in its second sector, and an ext2 file system. -/
def labelAndExt : Image :=
  (((Image.zeros 2048).overwrite 512 (ascii "LABELONE").toArray).overwrite 536
    (ascii "LVM2 001").toArray).overwrite 1080 #[0x53, 0xEF]

/-- A volume may go unreported, for a file system. -/
theorem lvm_behind_filesystem :
    Carries labelAndExt.window (.volume lvmName) ∧
      Sample.scan labelAndExt = some (.filesystem "ext2") :=
  ⟨.lvm (by decide +kernel), by decide +kernel⟩

end Signature

end ZonedSet
