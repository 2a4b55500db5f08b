/-
ZonedSet.Text.Utf8 — bytes as text.

`decode` splits a byte string into characters and into malformed runs, a run being the longest
start of a character that the next byte breaks off. From it come the strict reading, which refuses
malformed bytes, and the lenient one, which puts U+FFFD for each malformed run.
-/

namespace ZonedSet.Text.Utf8

/-- The bytes of a text. -/
def encode (text : List Char) : List UInt8 := text.flatMap String.utf8EncodeChar

/-- A byte that continues a character. -/
def isContinuation (b : UInt8) : Bool := 0x80 ≤ b && b ≤ 0xBF

/-- May `c` follow the first byte `b` of a character of three bytes? Overlong forms and
surrogates are left out. -/
def secondOfThree (b c : UInt8) : Bool :=
  if b == 0xE0 then 0xA0 ≤ c && c ≤ 0xBF
  else if b == 0xED then 0x80 ≤ c && c ≤ 0x9F
  else isContinuation c

/-- May `c` follow the first byte `b` of a character of four bytes? Overlong forms and numbers
past U+10FFFF are left out. -/
def secondOfFour (b c : UInt8) : Bool :=
  if b == 0xF0 then 0x90 ≤ c && c ≤ 0xBF
  else if b == 0xF4 then 0x80 ≤ c && c ≤ 0x8F
  else isContinuation c

/-- The payload bits of a continuation byte. -/
def payload (b : UInt8) : Nat := b.toNat % 64

/-- Characters, and `none` for every malformed run. -/
def decode : List UInt8 → List (Option Char)
  | [] => []
  | b :: r =>
    if b < 0x80 then some (Char.ofNat b.toNat) :: decode r
    else if 0xC2 ≤ b && b ≤ 0xDF then
      match r with
      | [] => [none]
      | c :: r1 =>
        if isContinuation c then
          some (Char.ofNat (b.toNat % 32 * 64 + payload c)) :: decode r1
        else none :: decode (c :: r1)
    else if 0xE0 ≤ b && b ≤ 0xEF then
      match r with
      | [] => [none]
      | c :: r1 =>
        if secondOfThree b c then
          match r1 with
          | [] => [none]
          | d :: r2 =>
            if isContinuation d then
              some (Char.ofNat ((b.toNat % 16 * 64 + payload c) * 64 + payload d)) :: decode r2
            else none :: decode (d :: r2)
        else none :: decode (c :: r1)
    else if 0xF0 ≤ b && b ≤ 0xF4 then
      match r with
      | [] => [none]
      | c :: r1 =>
        if secondOfFour b c then
          match r1 with
          | [] => [none]
          | d :: r2 =>
            if isContinuation d then
              match r2 with
              | [] => [none]
              | e :: r3 =>
                if isContinuation e then
                  some (Char.ofNat
                    (((b.toNat % 8 * 64 + payload c) * 64 + payload d) * 64 + payload e))
                    :: decode r3
                else none :: decode (e :: r3)
            else none :: decode (d :: r2)
        else none :: decode (c :: r1)
    else none :: decode r

/-- The text that the bytes encode, if nothing in them is malformed. -/
def decode? (bytes : List UInt8) : Option (List Char) := (decode bytes).mapM id

/-- The text that the bytes encode, with U+FFFD for every malformed run. -/
def decodeLossy (bytes : List UInt8) : List Char :=
  (decode bytes).map (·.getD '\uFFFD')

end ZonedSet.Text.Utf8
