import Mathlib

/-!
# Preconditions of programs with state and faults

`wp m Q E s` says where the program `m` gets to from the state `s`: if it returns a value, `Q` holds
of the value and the state, and if it faults, `E` holds of the fault and the state. The rules below
compute it along the structure of a program, so a proof about a program walks through its text and
calls the lemma about each part by name.
-/

universe u

namespace EStateM

variable {ε σ α β : Type u}

/-- What a program does from a state. -/
def wp (m : EStateM ε σ α) (Q : α → σ → Prop) (E : ε → σ → Prop) (s : σ) : Prop :=
  match m s with
  | .ok a s' => Q a s'
  | .error e s' => E e s'

section Rules

variable {m : EStateM ε σ α} {k : α → EStateM ε σ β} {Q Q' : α → σ → Prop} {R : β → σ → Prop}
  {E E' : ε → σ → Prop} {s : σ}

@[simp] theorem wp_pure (a : α) : wp (pure a : EStateM ε σ α) Q E s ↔ Q a s := Iff.rfl

@[simp] theorem wp_throw (e : ε) : wp (throw e : EStateM ε σ α) Q E s ↔ E e s := Iff.rfl

@[simp] theorem wp_get {Q : σ → σ → Prop} : wp (get : EStateM ε σ σ) Q E s ↔ Q s s := Iff.rfl

@[simp] theorem wp_set {Q : PUnit → σ → Prop} (s' : σ) :
    wp (set s' : EStateM ε σ PUnit) Q E s ↔ Q ⟨⟩ s' := Iff.rfl

@[simp] theorem wp_modify {Q : PUnit → σ → Prop} (f : σ → σ) :
    wp (modify f : EStateM ε σ PUnit) Q E s ↔ Q ⟨⟩ (f s) := Iff.rfl

theorem wp_bind : wp (m >>= k) R E s ↔ wp m (fun a s' ↦ wp (k a) R E s') E s := by
  unfold wp
  simp only [bind, EStateM.bind]
  cases m s with
  | ok a s' => exact Iff.rfl
  | error e s' => exact Iff.rfl

/-- Another name for each fault. -/
theorem wp_adaptExcept {ε' : Type u} {f : ε → ε'} {E : ε' → σ → Prop} :
    wp (adaptExcept f m) Q E s ↔ wp m Q (fun e s' ↦ E (f e) s') s := by
  unfold wp adaptExcept
  cases m s with
  | ok a s' => exact Iff.rfl
  | error e s' => exact Iff.rfl

/-- A weaker conclusion about the values and about the faults. -/
theorem wp_mono (h : wp m Q E s) (hQ : ∀ a s', Q a s' → Q' a s') (hE : ∀ e s', E e s' → E' e s') :
    wp m Q' E' s := by
  unfold wp at *
  cases hm : m s with
  | ok a s' =>
    rw [hm] at h
    exact hQ a s' h
  | error e s' =>
    rw [hm] at h
    exact hE e s' h

/-- Two things that are known about a program. -/
theorem wp_and (h : wp m Q E s) (h' : wp m Q' E' s) :
    wp m (fun a s' ↦ Q a s' ∧ Q' a s') (fun e s' ↦ E e s' ∧ E' e s') s := by
  unfold wp at *
  cases hm : m s with
  | ok a s' =>
    rw [hm] at h h'
    exact ⟨h, h'⟩
  | error e s' =>
    rw [hm] at h h'
    exact ⟨h, h'⟩

/-- From what is known about a program to what its run from a state gives. -/
theorem wp_ok (h : wp m Q E s) {a : α} {s' : σ} (hm : m s = .ok a s') : Q a s' := by
  unfold wp at h
  rw [hm] at h
  exact h

theorem wp_error (h : wp m Q E s) {e : ε} {s' : σ} (hm : m s = .error e s') : E e s' := by
  unfold wp at h
  rw [hm] at h
  exact h

end Rules

/-! ## Runs that return

The same rules read backwards: what a program that has returned did on the way. -/

section Returned

variable {m : EStateM ε σ α} {k : α → EStateM ε σ β} {s s' : σ}

theorem pure_eq_ok {a b : α} :
    (pure a : EStateM ε σ α) s = .ok b s' ↔ b = a ∧ s' = s := by
  simp [pure, EStateM.pure, eq_comm]

theorem throw_eq_ok {e : ε} {b : α} : (throw e : EStateM ε σ α) s = .ok b s' ↔ False := by
  simp [throw, throwThe, MonadExceptOf.throw, EStateM.throw]

theorem set_eq_ok {t : σ} {u : PUnit} :
    (set t : EStateM ε σ PUnit) s = .ok u s' ↔ s' = t := by
  simp [set, MonadStateOf.set, EStateM.set, eq_comm]

theorem modify_eq_ok {f : σ → σ} {u : PUnit} :
    (modify f : EStateM ε σ PUnit) s = .ok u s' ↔ s' = f s := by
  simp [modify, modifyGet, MonadStateOf.modifyGet, EStateM.modifyGet, eq_comm]

theorem get_bind_apply (k : σ → EStateM ε σ β) : (get >>= k) s = k s s := rfl

theorem set_bind_apply (t : σ) (k : PUnit → EStateM ε σ β) : (set t >>= k) s = k ⟨⟩ t := rfl

theorem modify_bind_apply (f : σ → σ) (k : PUnit → EStateM ε σ β) :
    (modify f >>= k) s = k ⟨⟩ (f s) := rfl

theorem pure_bind_apply (a : α) (k : α → EStateM ε σ β) : (pure a >>= k) s = k a s := rfl

theorem bind_apply_ok {a : α} (hm : m s = .ok a s') : (m >>= k) s = k a s' := by
  simp only [bind, EStateM.bind, hm]

/-- The value and the state that a program has returned. -/
def Result.returned : Result ε σ α → Option (α × σ)
  | .ok a s => some (a, s)
  | .error _ _ => none

theorem returned_eq_some {a : α} : (m s).returned = some (a, s') ↔ m s = .ok a s' := by
  cases m s with
  | ok b t => simp [Result.returned]
  | error e t => simp [Result.returned]

theorem bind_eq_ok {b : β} :
    (m >>= k) s = .ok b s' ↔ ∃ a t, m s = .ok a t ∧ k a t = .ok b s' := by
  simp only [bind, EStateM.bind]
  cases hm : m s with
  | ok a t =>
    constructor
    · exact fun h ↦ ⟨a, t, rfl, h⟩
    · rintro ⟨a', t', heq, h⟩
      cases heq
      exact h
  | error e t => simp

end Returned

end EStateM
