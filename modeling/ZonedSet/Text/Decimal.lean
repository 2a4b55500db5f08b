/-
ZonedSet.Text.Decimal — 64-bit words written in decimal.

A word is an optional single plus sign and one or more ASCII digits, leading zeros allowed. It is
read from the left and reading stops at the first character that makes it wrong, so a text that is
too large before it is malformed counts as too large.
-/
import ZonedSet.Units

namespace ZonedSet.Text.Decimal

/-- Why a text is no 64-bit word. -/
inductive Fault where
  | invalidDigit
  | tooLarge
  deriving DecidableEq, Repr

/-- The fault, in words. -/
def Fault.message : Fault → String
  | .invalidDigit => "invalid digit found in string"
  | .tooLarge => "number too large to fit in target type"

/-- The value of an ASCII digit. -/
def digit? (c : Char) : Option Nat :=
  if '0' ≤ c ∧ c ≤ '9' then some (c.toNat - '0'.toNat) else none

/-- Appends digits to a number, as long as it stays a word. -/
def extend (value : Nat) : List Char → Except Fault Nat
  | [] => .ok value
  | c :: rest =>
    match digit? c with
    | none => .error .invalidDigit
    | some d =>
      if value * 10 + d < Word.limit then extend (value * 10 + d) rest else .error .tooLarge

/-- Reads one or more digits. -/
def digits (text : List Char) : Except Fault Nat :=
  if text.isEmpty then .error .invalidDigit else extend 0 text

/-- Reads a word. -/
def parse (text : List Char) : Except Fault Nat :=
  match text with
  | '+' :: rest => digits rest
  | _ => digits text

end ZonedSet.Text.Decimal
