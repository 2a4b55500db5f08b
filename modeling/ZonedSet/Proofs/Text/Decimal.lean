/-
ZonedSet.Proofs.Text.Decimal — which texts are 64-bit words, and what is wrong with the others.

A reader goes from digit to digit with the value of those behind it, and stops where a character is
no digit or the value is no word any more. Values do not fall from one digit to the next, so the
value of all digits is a word just where none was too large on the way (`le_ofDigitChars`). What is
found wrong is what comes first: a text is too large where some digits at its front are, whatever
stands behind them, and leading zeros do not count (`parse_eq_tooLarge_iff`).
-/
import Mathlib.Data.List.Infix
import ZonedSet.Text.Decimal

namespace ZonedSet.Text.Decimal

/-! ## Numerals -/

/-- A text without the plus sign that it may begin with. -/
def unsigned : List Char → List Char
  | '+' :: rest => rest
  | text => text

/-- One or more digits, and at most one plus sign before them. -/
def IsNumeral (text : List Char) : Prop :=
  unsigned text ≠ [] ∧ ∀ c ∈ unsigned text, c.isDigit = true

instance (text : List Char) : Decidable (IsNumeral text) :=
  decidable_of_iff (unsigned text ≠ [] ∧ (unsigned text).all Char.isDigit = true)
    (and_congr_right' List.all_eq_true)

/-- The number that is written in these digits. -/
def value (digits : List Char) : Nat := Nat.ofDigitChars 10 digits 0

/-- Some digits at the front of a text make more than a word. -/
def Overflows (text : List Char) : Prop :=
  ∃ front, front <+: unsigned text ∧ (∀ c ∈ front, c.isDigit = true) ∧ Word.limit ≤ value front

/-! ## Digits -/

theorem digit?_eq (c : Char) :
    digit? c = if c.isDigit = true then some (c.toNat - '0'.toNat) else none := by
  unfold digit? Char.isDigit
  simp only [Char.le_def, ge_iff_le, Bool.and_eq_true, decide_eq_true_eq]

/-- A value does not fall when digits are appended. -/
theorem le_ofDigitChars (digits : List Char) (n : Nat) : n ≤ Nat.ofDigitChars 10 digits n := by
  induction digits generalizing n with
  | nil => exact Nat.le_refl n
  | cons c rest ih =>
    rw [Nat.ofDigitChars_cons]
    exact Nat.le_trans (by omega) (ih _)

/-! ## Reading digits -/

variable {n m : Nat} {text : List Char}

/-- Some digits at the front make more than a word when they are appended to a number. -/
def OverflowsFrom (n : Nat) (text : List Char) : Prop :=
  ∃ front, front <+: text ∧ (∀ c ∈ front, c.isDigit = true) ∧
    Word.limit ≤ Nat.ofDigitChars 10 front n

theorem not_overflowsFrom_nil (hn : n < Word.limit) : ¬ OverflowsFrom n [] := by
  rintro ⟨front, hfront, -, hle⟩
  rw [List.prefix_nil.mp hfront, Nat.ofDigitChars_nil] at hle
  omega

theorem overflowsFrom_cons_iff (hn : n < Word.limit) {c : Char} {rest : List Char} :
    OverflowsFrom n (c :: rest) ↔
      c.isDigit = true ∧ OverflowsFrom (10 * n + (c.toNat - '0'.toNat)) rest := by
  constructor
  · rintro ⟨front, hfront, hdigits, hle⟩
    cases front with
    | nil =>
      rw [Nat.ofDigitChars_nil] at hle
      omega
    | cons d front =>
      obtain ⟨rfl, htail⟩ := List.cons_prefix_cons.mp hfront
      rw [List.forall_mem_cons] at hdigits
      rw [Nat.ofDigitChars_cons] at hle
      exact ⟨hdigits.1, front, htail, hdigits.2, hle⟩
  · rintro ⟨hc, front, hfront, hdigits, hle⟩
    rw [← Nat.ofDigitChars_cons] at hle
    exact ⟨c :: front, List.cons_prefix_cons.mpr ⟨rfl, hfront⟩,
      List.forall_mem_cons.mpr ⟨hc, hdigits⟩, hle⟩

theorem overflowsFrom_of_le (h : Word.limit ≤ n) (text : List Char) : OverflowsFrom n text :=
  ⟨[], List.nil_prefix, nofun, h⟩

theorem extend_cons (n : Nat) (c : Char) (rest : List Char) :
    extend n (c :: rest) =
      if c.isDigit = true then
        if 10 * n + (c.toNat - '0'.toNat) < Word.limit then
          extend (10 * n + (c.toNat - '0'.toNat)) rest
        else .error .tooLarge
      else .error .invalidDigit := by
  rw [extend, digit?_eq, Nat.mul_comm n 10]
  by_cases hc : c.isDigit = true
  · rw [if_pos hc, if_pos hc]
  · rw [if_neg hc, if_neg hc]

theorem extend_eq_ok_iff (hn : n < Word.limit) :
    extend n text = .ok m ↔
      (∀ c ∈ text, c.isDigit = true) ∧ Nat.ofDigitChars 10 text n = m ∧ m < Word.limit := by
  induction text generalizing n with
  | nil =>
    rw [extend, Except.ok.injEq, Nat.ofDigitChars_nil]
    constructor
    · rintro rfl
      exact ⟨nofun, rfl, hn⟩
    · exact fun h => h.2.1
  | cons c rest ih =>
    rw [extend_cons, List.forall_mem_cons, Nat.ofDigitChars_cons]
    by_cases hc : c.isDigit = true
    · rw [if_pos hc, and_iff_right hc]
      by_cases hlt : 10 * n + (c.toNat - '0'.toNat) < Word.limit
      · rw [if_pos hlt, ih hlt]
      · rw [if_neg hlt]
        refine iff_of_false nofun ?_
        rintro ⟨-, rfl, hword⟩
        -- from here on the value only grows
        exact hlt (Nat.lt_of_le_of_lt (le_ofDigitChars rest _) hword)
    · rw [if_neg hc]
      exact iff_of_false nofun fun h => hc h.1.1

theorem extend_eq_tooLarge_iff (hn : n < Word.limit) :
    extend n text = .error .tooLarge ↔ OverflowsFrom n text := by
  induction text generalizing n with
  | nil => exact iff_of_false nofun (not_overflowsFrom_nil hn)
  | cons c rest ih =>
    rw [extend_cons, overflowsFrom_cons_iff hn]
    by_cases hc : c.isDigit = true
    · rw [if_pos hc, and_iff_right hc]
      by_cases hlt : 10 * n + (c.toNat - '0'.toNat) < Word.limit
      · rw [if_pos hlt, ih hlt]
      · rw [if_neg hlt]
        exact iff_of_true rfl (overflowsFrom_of_le (Nat.le_of_not_lt hlt) rest)
    · rw [if_neg hc]
      exact iff_of_false nofun fun h => hc h.1

/-! ## Reading a word -/

theorem parse_eq_digits (text : List Char) : parse text = digits (unsigned text) := by
  unfold parse
  split
  · rfl
  · rename_i hplus
    rw [unsigned.eq_2 text hplus]

theorem digits_nil : digits [] = .error .invalidDigit := rfl

theorem digits_of_ne_nil (h : text ≠ []) : digits text = extend 0 text := by
  rw [digits, if_neg (by simpa using h)]

/-- **What is read as a word:** a numeral, and its value, if that is a word. -/
theorem parse_eq_ok_iff :
    parse text = .ok n ↔ IsNumeral text ∧ value (unsigned text) = n ∧ n < Word.limit := by
  rw [parse_eq_digits, IsNumeral]
  by_cases hne : unsigned text = []
  · rw [hne, digits_nil]
    exact iff_of_false nofun fun h => h.1.1 rfl
  · rw [digits_of_ne_nil hne, extend_eq_ok_iff (by decide), and_assoc, and_iff_right hne]
    rfl

/-- **What is too large:** a text with too many digits at its front, whatever comes after them. -/
theorem parse_eq_tooLarge_iff : parse text = .error .tooLarge ↔ Overflows text := by
  have hfrom : Overflows text ↔ OverflowsFrom 0 (unsigned text) := Iff.rfl
  rw [parse_eq_digits, hfrom]
  by_cases hne : unsigned text = []
  · rw [hne, digits_nil]
    exact iff_of_false nofun (not_overflowsFrom_nil (by decide))
  · rw [digits_of_ne_nil hne, extend_eq_tooLarge_iff (by decide)]

end ZonedSet.Text.Decimal
