/-
ZonedSet.Signature.Sample — the parts of a device that signatures can lie in.

Devices are too large to be read whole. A sample is the first 512 KiB and the last 1 MiB, which
hold all four labels of a ZFS member and every other signature. Small devices are sampled whole,
in two parts that meet; bytes that lie across the seam can not be had.
-/
import ZonedSet.Signature.Scan
import ZonedSet.Storage.Image

namespace ZonedSet

/-- The whole image, as a window. -/
def Image.window (image : Image) : Window := ⟨image.size, image.slice?⟩

namespace Sample

/-- Bytes at the front that are examined. -/
def headSize : Nat := 524288

/-- Bytes at the back that are examined. -/
def tailSize : Nat := 1048576

/-- Where the sampled head ends. -/
def headStop (size : Nat) : Nat := min size headSize

/-- Where the sampled tail begins. -/
def tailStart (size : Nat) : Nat := max (headStop size) (size - tailSize)

/-- Do the bytes lie within the head or within the tail? -/
def isSampled (size offset length : Nat) : Bool :=
  offset + length ≤ headStop size || (tailStart size ≤ offset && offset + length ≤ size)

/-- The sample of an image, as a window. -/
def window (image : Image) : Window where
  size := image.size
  slice? offset length :=
    if isSampled image.size offset length then some (image.bytesFrom offset length) else none

/-- What the sample of an image shows. -/
def scan (image : Image) : Option Content := Signature.scan (window image)

end Sample

end ZonedSet
