/-
ZonedSet.Signature.Scan — what a device holds, by the signatures on it.

A signature is a test on a few bytes at known offsets. The tests read through a `Window`: a size,
and a look at the bytes from an offset on that may fail. So one and the same sequence of tests runs
over a whole image and over a sample of it (`ZonedSet.Signature.Sample`).

Volumes come first, then file systems, then partition tables: a member of an array that holds a
file system counts as a member, and the protective boot record of a GPT disk as gpt. The LVM2
label is an exception; it is looked for after the file systems.
-/
import ZonedSet.Content
import ZonedSet.LittleEndian

namespace ZonedSet

/-- A device to look for signatures on: its size in bytes, and its bytes from an offset on, where
they can be had. -/
structure Window where
  size : Nat
  slice? : (offset length : Nat) → Option (List UInt8)

namespace Window

/-- Are these the bytes at the offset? -/
def has (w : Window) (offset : Nat) (bytes : List UInt8) : Bool :=
  w.slice? offset bytes.length == some bytes

/-- Do the bytes at the offset stand for this number in little-endian order? -/
def hasLittle (w : Window) (offset width n : Nat) : Bool :=
  w.has offset (LittleEndian.encode width n)

/-- Do the bytes at the offset stand for this number in big-endian order? -/
def hasBig (w : Window) (offset width n : Nat) : Bool :=
  w.has offset (LittleEndian.encode width n).reverse

/-- Do the bytes at the offset stand for this number in either order? -/
def hasEither (w : Window) (offset width n : Nat) : Bool :=
  w.hasLittle offset width n || w.hasBig offset width n

end Window

namespace Signature

/-- The bytes of an ASCII text. -/
def ascii (text : String) : List UInt8 := text.toList.map fun c => c.toNat.toUInt8

/-- Bytes that betray a format wherever they stand at their offset. -/
structure Magic where
  offset : Nat
  bytes : List UInt8
  name : String

/-- The name of the first magic in the list that the device has. -/
def find? (w : Window) (magics : List Magic) : Option String :=
  (magics.find? fun m => w.has m.offset m.bytes).map Magic.name

/-! ## Volumes -/

/-- The magic number of Linux software RAID. -/
def raidMagic : Nat := 0xa92b4efc

/-- Where version 1.0 of the RAID metadata lies: at least 8 KiB from the end, on a 4 KiB
boundary. -/
def raidTailOffset? (size : Nat) : Option Nat :=
  let sectors := size / 512
  if 16 ≤ sectors then some ((sectors - 16) / 8 * 8 * 512) else none

/-- Where version 0.90 of the RAID metadata lies: in the last whole 64 KiB. -/
def raidOldOffset? (size : Nat) : Option Nat :=
  let aligned := size / 65536 * 65536
  if 65536 ≤ aligned then some (aligned - 65536) else none

/-- A member of a RAID array: metadata at the start, at 4 KiB, near the end, or, in either byte
order, at the end. -/
def isRaid (w : Window) : Bool :=
  w.hasLittle 0 4 raidMagic || w.hasLittle 4096 4 raidMagic ||
    (raidTailOffset? w.size).any (w.hasLittle · 4 raidMagic) ||
    (raidOldOffset? w.size).any (w.hasEither · 4 raidMagic)

/-- Volumes with a magic at a fixed place. -/
def volumeMagics : List Magic :=
  [⟨0, ascii "LUKS" ++ [0xba, 0xbe], "crypto_LUKS"⟩,
    ⟨4120,
      [0xc6, 0x85, 0x73, 0xf6, 0x4e, 0x1a, 0x45, 0xca,
        0x82, 0x65, 0xf5, 0x7f, 0x48, 0xba, 0x6d, 0x81],
      "bcache"⟩]

/-- Bytes in a ZFS label. -/
def zfsLabelSize : Nat := 262144

/-- The magic number of a ZFS uberblock. -/
def zfsMagic : Nat := 0x00bab10c

/-- How many uberblocks make a ZFS member rather than a coincidence. -/
def zfsEnough : Nat := 4

/-- Where the labels of a ZFS member lie: two at the front, and two at the back when there is room
for two. On small devices they coincide, and a place is listed once. -/
def zfsLabels (size : Nat) : List Nat :=
  let aligned := size / zfsLabelSize * zfsLabelSize
  let back :=
    if 2 * zfsLabelSize ≤ aligned then [aligned - 2 * zfsLabelSize, aligned - zfsLabelSize] else []
  ([0, zfsLabelSize] ++ back).eraseDups

/-- The places of the 128 uberblocks in a label. -/
def zfsSlots (label : Nat) : List Nat :=
  (List.range 128).map fun i => label + 131072 + i * 1024

/-- A member of a ZFS pool: enough uberblocks, in either byte order. -/
def isZfs (w : Window) : Bool :=
  zfsEnough ≤ ((zfsLabels w.size).flatMap zfsSlots).countP (w.hasEither · 8 zfsMagic)

/-- The LVM2 label, which may lie in any of the first four sectors. -/
def isLvm (w : Window) : Bool :=
  (List.range 4).any fun i =>
    w.has (i * 512) (ascii "LABELONE") && w.has (i * 512 + 24) (ascii "LVM2 001")

/-! ## File systems -/

/-- The number of `width` bytes at an offset of a slice. -/
def field (bytes : List UInt8) (offset width : Nat) : Nat :=
  LittleEndian.decode ((bytes.drop offset).take width)

/-- Does a word of flags have one of the flags in the mask? -/
def hasFlag (flags mask : Nat) : Bool := flags &&& mask != 0

/-- The ext family, told apart by its feature flags: extents, 64-bit block numbers or flexible
groups make ext4, and of the others a journal makes ext3. -/
def ext? (w : Window) : Option String :=
  match w.slice? 1024 0x68 with
  | none => none
  | some sb =>
    if field sb 0x38 2 ≠ 0xEF53 then none
    else if hasFlag (field sb 0x60 4) 0x2C0 then some "ext4"
    else if hasFlag (field sb 0x5C 4) 0x4 then some "ext3"
    else some "ext2"

/-- File systems with a magic at a fixed place. The last one is the metadata of a dm-zoned
target. -/
def filesystemMagics : List Magic :=
  [⟨0, ascii "XFSB", "xfs"⟩,
    ⟨0x10040, ascii "_BHRfS_M", "btrfs"⟩,
    ⟨0x400, [0x10, 0x20, 0xf5, 0xf2], "f2fs"⟩,
    ⟨4086, ascii "SWAPSPACE2", "swap"⟩,
    ⟨4086, ascii "SWAP-SPACE", "swap"⟩,
    ⟨3, ascii "NTFS    ", "ntfs"⟩,
    ⟨0x8001, ascii "CD001", "iso9660"⟩,
    ⟨0, ascii "DBZD", "dm-zoned"⟩]

/-- The mark at the end of a boot sector. -/
def hasBootMark (w : Window) : Bool := w.has 510 [0x55, 0xaa]

/-- A FAT file system of any width. -/
def isFat (w : Window) : Bool :=
  hasBootMark w &&
    (w.has 0x52 (ascii "FAT32   ") || w.has 0x36 (ascii "FAT16   ") ||
      w.has 0x36 (ascii "FAT12   "))

/-! ## Partition tables -/

/-- A GUID partition table, or its backup in the last sector. -/
def isGpt (w : Window) : Bool :=
  w.has 512 (ascii "EFI PART") ||
    (1024 ≤ w.size && w.has ((w.size / 512 - 1) * 512) (ascii "EFI PART"))

/-- A DOS partition table: the boot mark, and a type for one of the four partitions. -/
def isDos (w : Window) : Bool :=
  hasBootMark w &&
    (List.range 4).any fun i => (w.slice? (446 + 16 * i + 4) 1).any (· != [0])

/-! ## The sequence -/

/-- What a device holds; `none` if it has no known signature. -/
def scan (w : Window) : Option Content :=
  if isRaid w then some (.volume "linux_raid_member")
  else
    match find? w volumeMagics with
    | some name => some (.volume name)
    | none =>
      if isZfs w then some (.volume "zfs_member")
      else
        match ext? w with
        | some name => some (.filesystem name)
        | none =>
          match find? w filesystemMagics with
          | some name => some (.filesystem name)
          | none =>
            if isFat w then some (.filesystem "vfat")
            else if isLvm w then some (.volume "LVM2_member")
            else if isGpt w then some (.partitionTable "gpt")
            else if isDos w then some (.partitionTable "dos")
            else none

end Signature

end ZonedSet
