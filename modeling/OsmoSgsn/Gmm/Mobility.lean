import OsmoSgsn.Gmm.Pointers

/-!
# Mobility states

A context has three FSMs: one for its registration and one for its mobility on each radio access.
They are moved by different events, and what holds between them is that the one of the other access
is idle and that a registered mobile station can be reached.

`Kept` is all that is known about the registry of a gateway: what always holds, and for each promise
what holds while it is kept.
-/

namespace OsmoSgsn.Gmm

variable {r r' : Registry} {p : Promises}

/-! ## The radio access -/

/-- **The other radio access stays idle**, as long as an LLC entity is given to contexts on Gb only
and gone when a context leaves Gb. -/
theorem Every.fitsStep (hp : p.ran) (h : Every Entry.FitsRan r) (hs : Step p r r') :
    Every Entry.FitsRan r' := by
  let f (e : Entry) := (e.ranType, e.pmm, e.llme)
  have hf : ∀ e e' : Entry, f e' = f e → e.FitsRan → e'.FitsRan := by
    intro e e' heq hfits
    obtain ⟨h1, h2, h3⟩ : e'.ranType = e.ranType ∧ e'.pmm = e.pmm ∧ e'.llme = e.llme := by
      simpa [f] using heq
    rwa [Entry.FitsRan, h1, h2, h3]
  cases hs with
  | @pmm id e he pmm hdet hiu =>
    refine h.write rfl ?_
    have hfits := h id e he
    unfold Entry.FitsRan at hfits ⊢
    cases hran : e.ranType with
    | utranIu =>
      simp only [hran] at hfits ⊢
      exact hfits
    | geranGb =>
      simp only [hran] at hfits ⊢
      by_contra hne
      exact absurd ((hiu hfits hne).symm.trans hran) (by simp)
  | @takeLlme id e he l _ hran =>
    refine h.write rfl ?_
    have hfits := h id e he
    simpa only [Entry.FitsRan, hran hp] using hfits
  | @toIu id e he _ hran =>
    split
    · rename_i hidle
      refine h.write rfl ?_
      exact (hran hp).resolve_left (not_not_intro hidle)
    · have hset : Every Entry.FitsRan (r.set id { e with
          ranType := .utranIu, gmm := .deregistered, mmGb := .idle, llme := none }) :=
        h.write rfl rfl
      exact hset.carry hf ((Carries.of_entry rfl).dropLlme _)
  | toGb _ _ _ _ _ _ => exact h.write rfl rfl
  | alloc ranType ra =>
    refine h.write rfl ?_
    cases ranType with
    | geranGb => rfl
    | utranIu => rfl
  | free _ => exact h.carry hf (.free _ _ _)
  | freeUe ue => exact h.carry hf (.freeUe (fun _ ↦ rfl) _ _)
  | request _ _ | addUe _ _ | addLlme _ | assign _ _ | freeLlme _ _ =>
    exact h.carry hf (.of_entry rfl)
  | attach he _ _ | gmm he _ _ | mmGb he _ _ | dropUe he | takeUe he _ _ | place he _
  | tlli he _ _ | imsi he _ _ | givePtmsi he _ _ _ _ _ | takePtmsi he _ _ _ _ _
  | dropPtmsiOld he | session he _ _ =>
    exact h.carry hf (.update he rfl rfl)

/-! ## Registration -/

/-- A mobile station that is registered can be reached. -/
def Entry.Paged (e : Entry) : Prop := e.gmm.isRegistered = true → e.Reachable

/-- **Registered mobile stations stay reachable**, as long as a registration is completed only for
one that can be reached. -/
theorem Every.pagedStep (hp : p.reach) (h : Every Entry.Paged r) (hs : Step p r r') :
    Every Entry.Paged r' := by
  let f (e : Entry) := (e.ranType, e.gmm, e.mmGb, e.pmm)
  have hf : ∀ e e' : Entry, f e' = f e → e.Paged → e'.Paged := by
    intro e e' heq hpaged
    obtain ⟨h1, h2, h3, h4⟩ :
        e'.ranType = e.ranType ∧ e'.gmm = e.gmm ∧ e'.mmGb = e.mmGb ∧ e'.pmm = e.pmm := by
      simpa [f] using heq
    rwa [Entry.Paged, Entry.Reachable, h1, h2, h3, h4]
  cases hs with
  | @gmm id e he gmm hgmm =>
    refine h.write rfl fun hreg ↦ ?_
    rcases hgmm hp hreg with hold | hreach
    · exact h id e he hold
    · exact hreach
  | @mmGb id e he mmGb hidle =>
    refine h.write rfl fun hreg ↦ ?_
    have hreach := h id e he hreg
    unfold Entry.Reachable at hreach ⊢
    cases hran : e.ranType with
    | utranIu =>
      simp only [hran] at hreach ⊢
      exact hreach
    | geranGb =>
      simp only [hran] at hreach ⊢
      exact fun heq ↦ hreach (hidle heq)
  | @pmm id e he pmm hdet _ =>
    refine h.write rfl fun hreg ↦ ?_
    have hreach := h id e he hreg
    unfold Entry.Reachable at hreach ⊢
    cases hran : e.ranType with
    | geranGb =>
      simp only [hran] at hreach ⊢
      exact hreach
    | utranIu =>
      simp only [hran] at hreach ⊢
      exact fun heq ↦ hreach (hdet heq)
  | @toIu id e he _ _ =>
    split
    · exact h.write rfl fun hreg ↦ absurd hreg (by simp [GmmState.isRegistered])
    · have hset : Every Entry.Paged (r.set id { e with
          ranType := .utranIu, gmm := .deregistered, mmGb := .idle, llme := none }) :=
        h.write rfl fun hreg ↦ absurd hreg (by simp [GmmState.isRegistered])
      exact hset.carry hf ((Carries.of_entry rfl).dropLlme _)
  | toGb _ _ _ _ _ _ =>
    exact h.write rfl fun hreg ↦ absurd hreg (by simp [GmmState.isRegistered])
  | alloc ranType ra =>
    exact h.write rfl fun hreg ↦
      absurd hreg (by simp [GmmState.isRegistered, MmCtx.entry, MmCtx.fresh])
  | free _ => exact h.carry hf (.free _ _ _)
  | freeUe ue => exact h.carry hf (.freeUe (fun _ ↦ rfl) _ _)
  | request _ _ | addUe _ _ | addLlme _ | assign _ _ | freeLlme _ _ =>
    exact h.carry hf (.of_entry rfl)
  | attach he _ _ | dropUe he | takeUe he _ _ | takeLlme he _ _ _ | place he _ | tlli he _ _
  | imsi he _ _ | givePtmsi he _ _ _ _ _ | takePtmsi he _ _ _ _ _ | dropPtmsiOld he
  | session he _ _ =>
    exact h.carry hf (.update he rfl rfl)

/-! ## State changes -/

namespace Registry

@[simp] theorem freeUe_denied (r : Registry) (ue : UeId) : (r.freeUe ue).denied = r.denied := by
  unfold freeUe dropUe
  repeat' split
  all_goals rfl

end Registry

/-- The state `ST_REJECT` is left within the event that enters it. -/
def Entry.Settled (e : Entry) : Prop := e.att ≠ .reject

theorem Every.settledStep (h : Every Entry.Settled r) (hs : Step p r r') :
    Every Entry.Settled r' := by
  have hf : ∀ e e' : Entry, e'.att = e.att → e.Settled → e'.Settled := by
    intro e e' heq hsettled
    rwa [Entry.Settled, heq]
  cases hs with
  | attach _ att hatt => exact h.write rfl hatt
  | alloc ranType ra => exact h.write rfl (by simp [Entry.Settled, MmCtx.entry, MmCtx.fresh])
  | free _ => exact h.carry hf (.free _ _ _)
  | freeUe ue => exact h.carry hf (.freeUe (fun _ ↦ rfl) _ _)
  | toIu he _ _ => exact h.carry hf (.toIu he rfl rfl)
  | request _ _ | addUe _ _ | addLlme _ | assign _ _ | freeLlme _ _ =>
    exact h.carry hf (.of_entry rfl)
  | gmm he _ _ | mmGb he _ _ | pmm he _ _ _ | dropUe he | takeUe he _ _ | takeLlme he _ _ _
  | toGb he _ _ _ _ _ | place he _ | tlli he _ _ | imsi he _ _ | givePtmsi he _ _ _ _ _
  | takePtmsi he _ _ _ _ _ | dropPtmsiOld he | session he _ _ =>
    exact h.carry hf (.update he rfl rfl)

/-- **No state change is denied**, as long as none is asked for that the table does not allow. -/
theorem Step.denied (hp : p.change) (hs : Step p r r') (h : r.denied = false) :
    r'.denied = false := by
  cases hs with
  | request ok hok => simp [h, hok hp]
  | freeUe ue => simpa using h
  | free _ => exact h
  | toIu _ _ _ =>
    split
    · exact h
    · exact h
  | attach _ _ _ | gmm _ _ _ | mmGb _ _ _ | pmm _ _ _ _ | dropUe _ | takeUe _ _ _ | addUe _ _
  | takeLlme _ _ _ _ | addLlme _ | assign _ _ | freeLlme _ _ | toGb _ _ _ _ _ _ | place _ _
  | tlli _ _ _ | imsi _ _ _ | givePtmsi _ _ _ _ _ _ | takePtmsi _ _ _ _ _ _ | dropPtmsiOld _
  | session _ _ _ | alloc _ _ =>
    exact h

/-! ## All that is known -/

/-- A context has a P-TMSI that a TLLI can be made from. -/
def Entry.Assignable (e : Entry) : Prop := localTlli e.pTmsi ≠ tlliUnassigned

theorem Every.assignableStep (hp : p.llme) (h : Every Entry.Assignable r) (hs : Step p r r') :
    Every Entry.Assignable r' := by
  refine h.ptmsiStep hs ?_ ?_ ?_ ?_ ?_
  · intro e e' heq hassign
    have hpt : e'.pTmsi = e.pTmsi := congrArg (·.1.1) heq
    rwa [Entry.Assignable, hpt]
  · intro e heq
    have hpt : e.pTmsi = 0 := congrArg (·.1.1) heq
    rw [Entry.Assignable, hpt]
    decide
  · intro e t _ h1 hlocal
    change localTlli t ≠ _
    rw [hlocal]
    exact h1
  · intro e t _ _ hllme
    exact hllme hp
  · intro e hassign
    exact hassign

/-- All that is known about a registry. -/
structure Kept (p : Promises) (r : Registry) : Prop where
  indexed : Indexed r
  ptmsi : UniquePtmsi r
  presented : Every Entry.Presented r
  fresh : FreshLlmes r
  served : Every Entry.Served r
  ues : ListedUes r
  settled : Every Entry.Settled r
  imsi : p.imsi → UniqueImsi r
  reserved : p.reserved → Every Entry.Unreserved r
  llme : p.llme → OwnedLlmes r ∧ Every Entry.Assignable r
  ue : p.ue → BoundUes r
  ran : p.ran → Every Entry.FitsRan r
  reach : p.reach → Every Entry.Paged r
  change : p.change → r.denied = false

theorem Kept.step (h : Kept p r) (hs : Step p r r') : Kept p r' where
  indexed := h.indexed.step hs
  ptmsi := h.ptmsi.step hs
  presented := presented_step h.presented hs
  fresh := h.fresh.step hs
  served := h.served.servedStep hs
  ues := h.ues.step hs
  settled := h.settled.settledStep hs
  imsi hp := (h.imsi hp).step hp hs
  reserved hp := unreserved_step hp (h.reserved hp) hs
  llme hp := ⟨(h.llme hp).1.step hp hs, (h.llme hp).2.assignableStep hp hs⟩
  ue hp := (h.ue hp).step hp h.indexed hs
  ran hp := (h.ran hp).fitsStep hp hs
  reach hp := (h.reach hp).pagedStep hp hs
  change hp := hs.denied hp (h.change hp)

/-- **What the rules keep, the code keeps.** -/
theorem Kept.steps (h : Kept p r) (hs : Steps p r r') : Kept p r' :=
  hs.invariant (fun _ _ ↦ Kept.step) h

end OsmoSgsn.Gmm
