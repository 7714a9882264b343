import OsmoSgsn.Library.Wp

/-!
# Two runs of programs with state and faults

That a program does not depend on a part of its input is a statement about two of its runs. Two
programs agree from a state if both fault in the same way, or both return, and then in the same
state and with values that are related. As with preconditions, the rules follow the text of the
programs.
-/

universe u

namespace EStateM

variable {ε σ α α' β β' : Type u}

/-- Two results with one state, and with one fault or with related values. -/
inductive Result.Agree (R : α → α' → Prop) : Result ε σ α → Result ε σ α' → Prop
  | ok {a : α} {a' : α'} {s : σ} (h : R a a') : Agree R (.ok a s) (.ok a' s)
  | error {e : ε} {s : σ} : Agree R (.error e s) (.error e s)

/-- Two programs agree from a state. -/
def agree (R : α → α' → Prop) (m : EStateM ε σ α) (m' : EStateM ε σ α') (s : σ) : Prop :=
  Result.Agree R (m s) (m' s)

section Rules

variable {R : α → α' → Prop} {S : β → β' → Prop} {m : EStateM ε σ α} {m' : EStateM ε σ α'} {s : σ}

theorem agree_refl (m : EStateM ε σ α) (s : σ) : agree Eq m m s := by
  unfold agree
  cases m s with
  | ok a t => exact .ok rfl
  | error e t => exact .error

theorem agree_pure {a : α} {a' : α'} (h : R a a') :
    agree R (pure a : EStateM ε σ α) (pure a') s := .ok h

theorem agree_throw (e : ε) : agree R (throw e : EStateM ε σ α) (throw e) s := .error

theorem agree_bind {k : α → EStateM ε σ β} {k' : α' → EStateM ε σ β'} (hm : agree R m m' s)
    (hk : ∀ a a' t, R a a' → agree S (k a) (k' a') t) : agree S (m >>= k) (m' >>= k') s := by
  unfold agree at hm ⊢
  simp only [bind, EStateM.bind]
  generalize m s = r at hm ⊢
  generalize m' s = r' at hm ⊢
  cases hm with
  | ok h => exact hk _ _ _ h
  | error => exact .error

/-- Two programs that begin with the same. -/
theorem agree_bind_same {k k' : α → EStateM ε σ β} {S : β → β → Prop}
    (hk : ∀ a t, agree S (k a) (k' a) t) : agree S (m >>= k) (m >>= k') s := by
  refine agree_bind (agree_refl m s) fun a a' t heq ↦ ?_
  rw [← heq]
  exact hk a t

theorem agree_get_bind {k : σ → EStateM ε σ β} {k' : σ → EStateM ε σ β'}
    (hk : agree S (k s) (k' s) s) : agree S (get >>= k) (get >>= k') s := hk

/-- What is seen of related values is the same. -/
theorem map_eq_of_agree {f : α → β} {f' : α' → β} (hm : agree R m m' s)
    (hf : ∀ a a', R a a' → f a = f' a') : (f <$> m) s = (f' <$> m') s := by
  unfold agree at hm
  simp only [Functor.map, EStateM.map]
  generalize m s = r at hm ⊢
  generalize m' s = r' at hm ⊢
  cases hm with
  | ok h => simp only [hf _ _ h]
  | error => rfl

/-- A fault ends a program. -/
theorem bind_apply_error {k : α → EStateM ε σ β} {e : ε} {s' : σ} (hm : m s = .error e s') :
    (m >>= k) s = .error e s' := by
  simp only [bind, EStateM.bind, hm]

theorem map_eq_ok {f : α → β} {b : β} {s' : σ} :
    (f <$> m) s = .ok b s' ↔ ∃ a, m s = .ok a s' ∧ f a = b := by
  simp only [Functor.map, EStateM.map]
  cases m s with
  | ok a t =>
    constructor
    · intro h
      cases h
      exact ⟨a, rfl, rfl⟩
    · rintro ⟨a', heq, rfl⟩
      cases heq
      rfl
  | error e t => simp

end Rules

end EStateM
