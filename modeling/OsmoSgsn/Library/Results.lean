import Mathlib

/-!
# What is known of a result

A program that may fail ensures something if what it returns has it. A failure ensures everything,
so this is about safety and not about success. The parts of a program are looked at one by one.
-/

universe u v

namespace Except

variable {ε : Type u} {α β : Type v} {P : α → Prop} {Q : β → Prop} {x : Except ε α} {a : α}

/-- What is returned satisfies a condition. -/
def Ensures (P : α → Prop) (x : Except ε α) : Prop := ∀ a, x = .ok a → P a

theorem ensures_ok : Ensures P (.ok a : Except ε α) ↔ P a :=
  ⟨fun h ↦ h a rfl, fun h _ heq ↦ Except.ok.inj heq ▸ h⟩

theorem ensures_pure : Ensures P (pure a : Except ε α) ↔ P a := ensures_ok

theorem ensures_error (e : ε) : Ensures P (.error e : Except ε α) :=
  fun _ h ↦ absurd h (by simp)

/-- One part after the other. -/
theorem Ensures.bind {k : α → Except ε β} (hx : Ensures P x) (hk : ∀ a, P a → Ensures Q (k a)) :
    Ensures Q (x >>= k) := by
  cases x with
  | ok a => exact hk a (hx a rfl)
  | error e => exact ensures_error e

theorem Ensures.mono {P' : α → Prop} (hx : Ensures P x) (h : ∀ a, P a → P' a) : Ensures P' x :=
  fun a ha ↦ h a (hx a ha)

theorem ensures_true (x : Except ε α) : Ensures (fun _ ↦ True) x := fun _ _ ↦ trivial

end Except
