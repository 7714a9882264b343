import OsmoSgsn.Library.Wp

/-!
# Programs along a preorder

What a program may do to the state, at most, is a relation between the states before and after it.
Where the relation is reflexive and transitive it is enough to look at the parts of the program one
by one.

`along` is about one state and about programs that return; one that faults may do anything. `Within`
is about every state, and about faults too. It is a class: what is known about the parts of a
program is found by the way the program is put together, and only a case split has to be written
out.
-/

universe u

namespace EStateM

variable {ε σ α β : Type u}

/-! ## From a state -/

/-- A program that returns has changed the state along a relation. -/
def along (R : σ → σ → Prop) (m : EStateM ε σ α) (s : σ) : Prop :=
  wp m (fun _ s' ↦ R s s') (fun _ _ ↦ True) s

section Along

variable {R : σ → σ → Prop} {m : EStateM ε σ α} {k : α → EStateM ε σ β} {s s' : σ}

theorem along_set {t : σ} (h : R s t) : along R (set t : EStateM ε σ PUnit) s := h

theorem along_modify {f : σ → σ} (h : R s (f s)) :
    along R (modify f : EStateM ε σ PUnit) s := h

/-- One part after the other. -/
theorem along_bind (htrans : ∀ s s' s'', R s s' → R s' s'' → R s s'') (hm : along R m s)
    (hk : ∀ a s', m s = .ok a s' → along R (k a) s') : along R (m >>= k) s := by
  unfold along wp at *
  simp only [bind, EStateM.bind]
  cases hrun : m s with
  | ok a s' =>
    rw [hrun] at hm
    have hnext := hk a s' hrun
    revert hnext
    simp only
    cases k a s' with
    | ok b s'' => exact fun hnext ↦ htrans s s' s'' hm hnext
    | error e s'' => exact fun _ ↦ trivial
  | error e s' => trivial

theorem along_get_bind {k : σ → EStateM ε σ β} (hk : along R (k s) s) :
    along R (get >>= k) s := hk

theorem along_of_ok (h : ∀ a s', m s = .ok a s' → R s s') : along R m s := by
  unfold along wp
  cases hrun : m s with
  | ok a s' => exact h a s' hrun
  | error e s' => trivial

/-- What a run that returns has done to the state. -/
theorem along_ok (hm : along R m s) {a : α} (hrun : m s = .ok a s') : R s s' := wp_ok hm hrun

end Along

/-! ## From every state -/

/-- What holds before goes on to hold. -/
def Keeps (P : σ → Prop) (s s' : σ) : Prop := P s → P s'

instance {P : σ → Prop} : Std.Refl (Keeps P) := ⟨fun _ h ↦ h⟩

instance {P : σ → Prop} : IsTrans σ (Keeps P) := ⟨fun _ _ _ h h' ↦ h' ∘ h⟩

/-- A program changes the state along a relation, whether it returns or faults. -/
class Within (R : σ → σ → Prop) (m : EStateM ε σ α) : Prop where
  wp : ∀ s, wp m (fun _ s' ↦ R s s') (fun _ s' ↦ R s s') s

section Within

variable {R : σ → σ → Prop} {m m' : EStateM ε σ α} {k : α → EStateM ε σ β}

/-- A property that a program keeps holds wherever it ends. -/
theorem Within.keeps {P : σ → Prop} {s : σ} [hm : Within (Keeps P) m] (hs : P s) :
    EStateM.wp m (fun _ s' ↦ P s') (fun _ s' ↦ P s') s :=
  wp_mono (hm.wp s) (fun _ _ h ↦ h hs) fun _ _ h ↦ h hs

/-- A program that looks at the state first. -/
theorem Within.get_bind {k : σ → EStateM ε σ β}
    (h : ∀ s, EStateM.wp (k s) (fun _ s' ↦ R s s') (fun _ s' ↦ R s s') s) :
    Within R (get >>= k) := ⟨h⟩

theorem Within.modify {f : σ → σ} (h : ∀ s, R s (f s)) :
    Within R (modify f : EStateM ε σ PUnit) := ⟨h⟩

instance [hm : Within R m] [hm' : Within R m'] {c : Prop} [Decidable c] :
    Within R (if c then m else m') := by
  split
  · exact hm
  · exact hm'

section Refl

variable [Std.Refl R]

instance (a : α) : Within R (pure a : EStateM ε σ α) := ⟨fun s ↦ (Std.Refl.refl s : R s s)⟩

instance (e : ε) : Within R (throw e : EStateM ε σ α) := ⟨fun s ↦ (Std.Refl.refl s : R s s)⟩

instance : Within R (get : EStateM ε σ σ) := ⟨fun s ↦ (Std.Refl.refl s : R s s)⟩

end Refl

section Trans

variable [IsTrans σ R]

/-- One part after the other, where something is known about the state between them. -/
theorem Within.bind_of_wp {Q : σ → α → σ → Prop}
    (hm : ∀ s, EStateM.wp m (fun a s' ↦ R s s' ∧ Q s a s') (fun _ s' ↦ R s s') s)
    (hk : ∀ s a s', Q s a s' → EStateM.wp (k a) (fun _ t ↦ R s' t) (fun _ t ↦ R s' t) s') :
    Within R (m >>= k) := by
  refine ⟨fun s ↦ wp_bind.mpr (wp_mono (hm s) (fun a s' h ↦ ?_) fun _ _ h ↦ h)⟩
  refine wp_mono (hk s a s' h.2) (fun _ _ h' ↦ ?_) fun _ _ h' ↦ ?_
  · exact Trans.trans h.1 h'
  · exact Trans.trans h.1 h'

/-- One part after the other. -/
theorem Within.bind [hm : Within R m] (hk : ∀ a, Within R (k a)) : Within R (m >>= k) :=
  .bind_of_wp (Q := fun _ _ _ ↦ True)
    (fun s ↦ wp_mono (hm.wp s) (fun _ _ h ↦ ⟨h, trivial⟩) fun _ _ h ↦ h)
    fun _ a s' _ ↦ (hk a).wp s'

theorem Within.andThen (hm : Within R m) (hk : ∀ a, Within R (k a)) : Within R (m >>= k) := .bind hk

instance [Within R m] [hk : ∀ a, Within R (k a)] : Within R (m >>= k) := .bind hk

end Trans

end Within

end EStateM
