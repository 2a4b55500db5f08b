/-
ZonedSet.LittleEndian — numbers as bytes, the lowest byte first.
-/

namespace ZonedSet.LittleEndian

/-- How many numbers there are of so many bytes. -/
def span : (width : Nat) → Nat
  | 0 => 1
  | width + 1 => 256 * span width

/-- The low `width` bytes of a number, lowest first. -/
def encode : (width n : Nat) → List UInt8
  | 0, _ => []
  | width + 1, n => UInt8.ofNat n :: encode width (n / 256)

/-- The number that the bytes stand for. -/
def decode : List UInt8 → Nat
  | [] => 0
  | b :: rest => b.toNat + 256 * decode rest

theorem length_encode (width n : Nat) : (encode width n).length = width := by
  induction width generalizing n with
  | zero => rfl
  | succ w ih => simp [encode, ih]

theorem decode_encode {width n : Nat} (h : n < span width) : decode (encode width n) = n := by
  induction width generalizing n with
  | zero =>
    rw [span] at h
    simp [encode, decode]
    omega
  | succ w ih =>
    rw [span] at h
    have hq : n / 256 < span w := by omega
    simp only [encode, decode, ih hq, UInt8.toNat_ofNat']
    omega

end ZonedSet.LittleEndian
