import Mathlib

/-!
# Deterministic machines with output

A machine takes one event at a time, moves to a next state and emits outputs. Nondeterminism is in
the events: whatever the environment may choose (a message, an answer, a random number) is part of
the event, so one list of events stands for one run.

A law about runs is reduced to one about steps in two ways. `invariant_run` carries an invariant
through every run whose steps all meet a condition, and `forall_mem_trace` concludes from an
invariant about every output. The condition may depend on the state that a step starts in.
-/

/-- A deterministic machine: states, events, and the outputs of a step. -/
structure Machine (State Event Output : Type*) where
  /-- One step. -/
  step : State → Event → State × List Output

namespace Machine

variable {State Event Output : Type*} (M : Machine State Event Output)

/-- The state after a list of events. -/
def run (s : State) : List Event → State
  | [] => s
  | e :: es => run (M.step s e).1 es

/-- The outputs of a list of events, in order. -/
def trace (s : State) : List Event → List Output
  | [] => []
  | e :: es => (M.step s e).2 ++ trace (M.step s e).1 es

/-- Every step of the run meets a condition on the state it starts in and its event. -/
def Meets (ok : State → Event → Prop) (s : State) : List Event → Prop
  | [] => True
  | e :: es => ok s e ∧ Meets ok (M.step s e).1 es

@[simp] theorem run_nil (s : State) : M.run s [] = s := rfl

@[simp] theorem run_cons (s : State) (e : Event) (es : List Event) :
    M.run s (e :: es) = M.run (M.step s e).1 es := rfl

@[simp] theorem trace_nil (s : State) : M.trace s [] = [] := rfl

@[simp] theorem trace_cons (s : State) (e : Event) (es : List Event) :
    M.trace s (e :: es) = (M.step s e).2 ++ M.trace (M.step s e).1 es := rfl

theorem run_append (s : State) (es es' : List Event) :
    M.run s (es ++ es') = M.run (M.run s es) es' := by
  induction es generalizing s with
  | nil => rfl
  | cons e es ih => exact ih _

theorem trace_append (s : State) (es es' : List Event) :
    M.trace s (es ++ es') = M.trace s es ++ M.trace (M.run s es) es' := by
  induction es generalizing s with
  | nil => rfl
  | cons e es ih => simp [ih]

variable {M}

/-- **Invariants of runs.** What every step of the permitted kind preserves, a run preserves. -/
theorem invariant_run (ok : State → Event → Prop) (Inv : State → Prop)
    (hstep : ∀ s e, Inv s → ok s e → Inv (M.step s e).1) {s : State} {es : List Event}
    (hs : Inv s) (hes : M.Meets ok s es) : Inv (M.run s es) := by
  induction es generalizing s with
  | nil => exact hs
  | cons e es ih => exact ih (hstep s e hs hes.1) hes.2

/-- **Laws of outputs.** If from a state that meets an invariant every permitted step emits only
good outputs, a permitted run does. -/
theorem forall_mem_trace (ok : State → Event → Prop) (Inv : State → Prop) {Good : Output → Prop}
    (hstep : ∀ s e, Inv s → ok s e → Inv (M.step s e).1)
    (hgood : ∀ s e, Inv s → ok s e → ∀ o ∈ (M.step s e).2, Good o) {s : State} {es : List Event}
    (hs : Inv s) (hes : M.Meets ok s es) : ∀ o ∈ M.trace s es, Good o := by
  induction es generalizing s with
  | nil => simp
  | cons e es ih =>
    intro o ho
    rcases List.mem_append.mp ho with ho | ho
    · exact hgood s e hs hes.1 o ho
    · exact ih (hstep s e hs hes.1) hes.2 o ho

/-- **Laws of outputs, exactly.** If under an invariant a step emits only good outputs exactly when
it meets a condition, a run does exactly when all of its steps do. -/
theorem forall_mem_trace_iff_of_invariant (ok : State → Event → Prop) (Inv : State → Prop)
    {Good : Output → Prop} (hinv : ∀ s e, Inv s → Inv (M.step s e).1)
    (hstep : ∀ s e, Inv s → ((∀ o ∈ (M.step s e).2, Good o) ↔ ok s e)) {s : State}
    {es : List Event} (hs : Inv s) : (∀ o ∈ M.trace s es, Good o) ↔ M.Meets ok s es := by
  induction es generalizing s with
  | nil => exact ⟨fun _ ↦ trivial, fun _ ↦ by simp⟩
  | cons e es ih => rw [trace_cons, List.forall_mem_append, hstep s e hs, ih (hinv s e hs), Meets]

/-- Laws of outputs that hold of every state. -/
theorem forall_mem_trace_iff (ok : State → Event → Prop) {Good : Output → Prop}
    (hstep : ∀ s e, (∀ o ∈ (M.step s e).2, Good o) ↔ ok s e) {s : State} {es : List Event} :
    (∀ o ∈ M.trace s es, Good o) ↔ M.Meets ok s es :=
  forall_mem_trace_iff_of_invariant ok (fun _ ↦ True) (fun _ _ _ ↦ trivial)
    (fun s e _ ↦ hstep s e) trivial

/-- **Laws of states, exactly.** If under an invariant a step keeps a property exactly when it meets
a condition, all states of a run have the property exactly when all of its steps meet the
condition. -/
theorem forall_take_iff (ok : State → Event → Prop) (Inv : State → Prop) {Good : State → Prop}
    (hinv : ∀ s e, Inv s → Inv (M.step s e).1)
    (hstep : ∀ s e, Inv s → Good s → (Good (M.step s e).1 ↔ ok s e)) {s : State}
    {es : List Event} (hs : Inv s) (hgood : Good s) :
    (∀ n, Good (M.run s (es.take n))) ↔ M.Meets ok s es := by
  induction es generalizing s with
  | nil => exact ⟨fun _ ↦ trivial, fun _ n ↦ by simpa using hgood⟩
  | cons e es ih =>
    have hone := hstep s e hs hgood
    constructor
    · intro hall
      have hnext : Good (M.step s e).1 := by simpa using hall 1
      exact ⟨hone.mp hnext, (ih (hinv s e hs) hnext).mp fun n ↦ by simpa using hall (n + 1)⟩
    · rintro ⟨hok, hrest⟩ n
      cases n with
      | zero => simpa using hgood
      | succ n => simpa using (ih (hinv s e hs) (hone.mpr hok)).mpr hrest n

/-- **What is given out once.** Each thing that a permitted step hands out was there before it and
is gone after it, and no permitted step brings anything back: so a permitted run hands out nothing
twice. -/
theorem nodup_filterMap_trace {Thing : Type*} (ok : State → Event → Prop) (Inv : State → Prop)
    (There : State → Thing → Prop) (handed : Output → Option Thing)
    (hstep : ∀ s e, Inv s → ok s e → Inv (M.step s e).1)
    (hkeep : ∀ s e x, Inv s → ok s e → There (M.step s e).1 x → There s x)
    (hout : ∀ s e, Inv s → ok s e → ((M.step s e).2.filterMap handed).Nodup ∧
      ∀ x ∈ (M.step s e).2.filterMap handed, There s x ∧ ¬ There (M.step s e).1 x)
    {s : State} {es : List Event} (hs : Inv s) (hes : M.Meets ok s es) :
    ((M.trace s es).filterMap handed).Nodup ∧
      ∀ x ∈ (M.trace s es).filterMap handed, There s x := by
  induction es generalizing s with
  | nil => simp
  | cons e es ih =>
    obtain ⟨hok, hes⟩ := hes
    obtain ⟨hnodup, hthere⟩ := ih (hstep s e hs hok) hes
    obtain ⟨hfirst, hgone⟩ := hout s e hs hok
    rw [trace_cons, List.filterMap_append]
    refine ⟨List.nodup_append.mpr ⟨hfirst, hnodup, ?_⟩, ?_⟩
    · -- what the first step handed out is no longer there for the others
      rintro x hx y hy rfl
      exact (hgone x hx).2 (hthere x hy)
    · intro x hx
      rcases List.mem_append.mp hx with hx | hx
      · exact (hgone x hx).1
      · exact hkeep s e x hs hok (hthere x hx)

/-- A condition that every step meets is met by every run. -/
theorem meets_of_forall {ok : State → Event → Prop} (hok : ∀ s e, ok s e) (s : State)
    (es : List Event) : M.Meets ok s es := by
  induction es generalizing s with
  | nil => trivial
  | cons e es ih => exact ⟨hok s e, ih _⟩

/-- Two conditions on every step are one. -/
theorem Meets.and {ok ok' : State → Event → Prop} {s : State} {es : List Event}
    (h : M.Meets ok s es) (h' : M.Meets ok' s es) :
    M.Meets (fun s e ↦ ok s e ∧ ok' s e) s es := by
  induction es generalizing s with
  | nil => trivial
  | cons e es ih => exact ⟨⟨h.1, h'.1⟩, ih h.2 h'.2⟩

end Machine

/-- **Invariants of partial runs.** Where a step may have no next state, a run that has one keeps
what every step that has one keeps. -/
theorem List.foldlM_invariant {State Event : Type*} {step : State → Event → Option State}
    (Inv : State → Prop) (hstep : ∀ s e s', Inv s → step s e = some s' → Inv s')
    {s s' : State} {es : List Event} (hs : Inv s) (hrun : es.foldlM step s = some s') : Inv s' := by
  induction es generalizing s with
  | nil =>
    obtain rfl : s = s' := by simpa using hrun
    exact hs
  | cons e es ih =>
    rw [List.foldlM_cons, Option.bind_eq_bind, Option.bind_eq_some_iff] at hrun
    obtain ⟨s₁, hfirst, hrest⟩ := hrun
    exact ih (hstep s e s₁ hs hfirst) hrest
