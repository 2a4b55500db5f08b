/-
ZonedSet.Probe — looking for content on a stored device.
-/
import ZonedSet.Error
import ZonedSet.Signature.Sample
import ZonedSet.Storage.Basic

namespace ZonedSet.Probe

/-- The image behind an open file, once its head and its tail could be read. -/
def sampled (s : Storage) (h : Handle) : Except Errno Image := do
  let image ← s.imageOf h
  let head := Sample.headStop image.size
  let tail := Sample.tailStart image.size
  s.readable h 0 head
  s.readable h tail (image.size - tail)
  return image

/-- What the device at a path holds. An error says that it could not be told. -/
def content? (s : Storage) (path : String) : Except Error (Option Content) :=
  match s.openFile .openRead path with
  | .error e => .error (.probeFailed path e)
  | .ok h =>
    match sampled s h with
    | .error e => .error (.probeFailed path e)
    | .ok image => .ok (Sample.scan image)

end ZonedSet.Probe
