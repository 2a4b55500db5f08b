/-
ZonedSet.Text.Quoted — a word between double quotes, safe to print.

Quotes, backslashes and the four named controls take a backslash; every other character that is
not printable is written by its code point, in hexadecimal between braces.
-/
import ZonedSet.Text.Printable

namespace ZonedSet.Text.Quoted

/-- A number in lower-case hexadecimal. -/
def hex (n : Nat) : List Char := Nat.toDigits 16 n

/-- One character inside the quotes. -/
def escape (c : Char) : List Char :=
  if c = '\x00' then ['\\', '0']
  else if c = '\t' then ['\\', 't']
  else if c = '\r' then ['\\', 'r']
  else if c = '\n' then ['\\', 'n']
  else if c = '\\' ∨ c = '"' then ['\\', c]
  else if isPrintable c then [c]
  else ['\\', 'u', '\x7b'] ++ hex c.toNat ++ ['\x7d']

/-- The quoted form of a word. -/
def quote (word : List Char) : List Char := '"' :: (word.flatMap escape ++ ['"'])

end ZonedSet.Text.Quoted
