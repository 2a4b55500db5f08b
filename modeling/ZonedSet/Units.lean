/-
ZonedSet.Units — sectors, metadata blocks, and the 64-bit words that hold them.

Positions and lengths are natural numbers that count 512-byte sectors, or 4096-byte metadata
blocks of eight sectors. The quantities they stand for live in 64-bit words, and a sum, a difference
or a product of words need not be a word. Where it is none there is no result (`Word.add?`,
`Word.sub?`, `Word.mul?`). Only a shift has one all the same: it drops the high bits (`Word.wrap`).
-/

namespace ZonedSet

/-! ## 64-bit words -/

namespace Word

/-- One more than the largest word: the 64th power of two. -/
def limit : Nat := 18446744073709551616

/-- The largest word. -/
def max : Nat := limit - 1

/-- A number with its high bits dropped. -/
def wrap (n : Nat) : Nat := n % limit

/-- The sum of two words, when it is a word. -/
def add? (a b : Nat) : Option Nat := if a + b < limit then some (a + b) else none

/-- The difference of two words, when it is a word. -/
def sub? (a b : Nat) : Option Nat := if b ≤ a then some (a - b) else none

/-- The product of two words, when it is a word. -/
def mul? (a b : Nat) : Option Nat := if a * b < limit then some (a * b) else none

theorem wrap_of_lt {n : Nat} (h : n < limit) : wrap n = n := Nat.mod_eq_of_lt h

theorem add?_eq_some_iff {a b c : Nat} : add? a b = some c ↔ a + b = c ∧ c < limit := by
  unfold add?
  split <;> simp <;> omega

theorem add?_of_lt {a b : Nat} (h : a + b < limit) : add? a b = some (a + b) := if_pos h

theorem add?_eq_none_iff {a b : Nat} : add? a b = none ↔ limit ≤ a + b := by
  unfold add?
  split <;> simp <;> omega

theorem sub?_of_le {a b : Nat} (h : b ≤ a) : sub? a b = some (a - b) := if_pos h

theorem mul?_of_lt {a b : Nat} (h : a * b < limit) : mul? a b = some (a * b) := if_pos h

theorem mul?_eq_none_iff {a b : Nat} : mul? a b = none ↔ limit ≤ a * b := by
  unfold mul?
  split <;> simp <;> omega

end Word

/-! ## Sectors and blocks -/

/-- Bytes in a sector, whatever the device's own sector size. -/
def bytesPerSector : Nat := 512

/-- Bytes in a metadata block. -/
def bytesPerBlock : Nat := 4096

/-- Sectors in a metadata block. -/
def sectorsPerBlock : Nat := 8

/-- Bytes in a MiB. -/
def bytesPerMiB : Nat := 1048576

/-- Bytes in a GiB. -/
def bytesPerGiB : Nat := 1073741824

/-- The first sector of a block. The count is shifted within its word, so a block
number of more than 61 bits loses its high ones. -/
def blocksToSectors (blocks : Nat) : Nat := Word.wrap (blocks * sectorsPerBlock)

/-- The number of whole blocks in a count of sectors. -/
def sectorsToBlocks (sectors : Nat) : Nat := sectors / sectorsPerBlock

/-- The least number of pieces of `size` that cover `total`; `none` for pieces of size zero. -/
def pieces? (total size : Nat) : Option Nat :=
  if size = 0 then none else some ((total + size - 1) / size)

theorem blocksToSectors_of_lt {b : Nat} (h : b * 8 < Word.limit) :
    blocksToSectors b = b * 8 := Word.wrap_of_lt h

end ZonedSet
