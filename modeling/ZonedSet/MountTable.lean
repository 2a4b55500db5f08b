/-
ZonedSet.MountTable — which devices are mounted.

Every line of a mount table begins with the source of a mount. A source may hold any bytes, so the
kernel writes spaces, tabs, line feeds and backslashes as a backslash and three octal digits
(`escape`), and a reader puts the bytes back (`unescape`). A reader also takes escapes that the
kernel never writes: any three octal digits that make a byte, and a plus sign with two.
-/
import ZonedSet.Error
import ZonedSet.Storage.Basic
import ZonedSet.Text.Blank

namespace ZonedSet.MountTable

/-! ## Escapes -/

/-- The byte of the backslash. -/
def backslash : UInt8 := 0x5C

/-- The value of an octal digit. -/
def octalDigit? (b : UInt8) : Option Nat :=
  if 0x30 ≤ b ∧ b ≤ 0x37 then some (b.toNat - 0x30) else none

/-- The value of the first of three octal digits; a plus sign counts as zero. -/
def leadDigit? (b : UInt8) : Option Nat := if b = 0x2B then some 0 else octalDigit? b

/-- The byte that three characters after a backslash stand for. -/
def escaped? (x y z : UInt8) : Option UInt8 :=
  match leadDigit? x, octalDigit? y, octalDigit? z with
  | some a, some b, some c =>
    let n := (a * 8 + b) * 8 + c
    if n ≤ 255 then some (UInt8.ofNat n) else none
  | _, _, _ => none

/-- Puts the bytes back that were written as escapes, from left to right. A backslash that begins
no escape stays. -/
def unescape : List UInt8 → List UInt8
  | [] => []
  | b :: rest =>
    if b = backslash then
      match rest with
      | x :: y :: z :: more =>
        match escaped? x y z with
        | some v => v :: unescape more
        | none => b :: unescape (x :: y :: z :: more)
      | short => b :: unescape short
    else b :: unescape rest

/-- A byte as a backslash and three octal digits. -/
def octalEscape (b : UInt8) : List UInt8 :=
  [backslash, 0x30 + b / 64, 0x30 + b / 8 % 8, 0x30 + b % 8]

/-- Bytes as the kernel writes them into a mount table. -/
def escape (bytes : List UInt8) : List UInt8 :=
  bytes.flatMap fun b =>
    if b = 0x20 ∨ b = 0x09 ∨ b = 0x0A ∨ b = backslash then octalEscape b else [b]

/-! ## The table -/

/-- The source that a line's first word stands for. -/
def source (field : List Char) : List Char :=
  Text.Utf8.decodeLossy (unescape (Text.Utf8.encode field))

/-- Is the path the source of a line? -/
def lineNames (path line : List Char) : Bool :=
  match Text.firstWord? line with
  | some field => source field == path
  | none => false

/-- Is the path the source of any line? It is compared as text. -/
def lists (table path : List Char) : Bool := (Text.lines table).any (lineNames path)

/-- Does the mount table at a path list a device? -/
def isMounted (s : Storage) (table path : String) : Except Error Bool :=
  match s.readText table with
  | .error e => .error (.os table "read mount table" e)
  | .ok text => .ok (lists text path.toList)

end ZonedSet.MountTable
