import OsmoSgsn.Gmm.Indexed

/-!
# Identities

An IMSI, and a P-TMSI that is neither zero nor the reserved value, identify one mobile station:
no two contexts have the same. And what a context has as a P-TMSI is one that its mobile station was
given or has come with.

The rules that write an identity have a guard that says so; every other rule carries the identities
over.
-/

namespace OsmoSgsn.Gmm

variable {r r' r'' : Registry} {p : Promises} {id : CtxId} {e e' : Entry}

/-! ## Values that are carried over -/

/-- The contexts that are left have the values that they had. -/
def Carries {α : Type} (f : Entry → α) (r r' : Registry) : Prop :=
  ∀ id e', r'.entry id = some e' → ∃ e, r.entry id = some e ∧ f e' = f e

section Carries

variable {α : Type} {f : Entry → α}

theorem Carries.of_entry (h : r'.entry = r.entry) : Carries f r r' := by
  intro id e' he'
  exact ⟨e', h ▸ he', rfl⟩

theorem Carries.trans (h : Carries f r r') (h' : Carries f r' r'') : Carries f r r'' := by
  intro id e'' he''
  obtain ⟨e', he', hf'⟩ := h' id e'' he''
  obtain ⟨e, he, hf⟩ := h id e' he'
  exact ⟨e, he, hf'.trans hf⟩

/-- A write that keeps the value of a context. -/
theorem Carries.update (he : r.entry id = some e)
    (hr : r'.entry = Function.update r.entry id (some e')) (hf : f e' = f e) : Carries f r r' := by
  intro j x hx
  rw [hr] at hx
  by_cases hj : j = id
  · subst hj
    rw [Function.update_self, Option.some.injEq] at hx
    exact ⟨e, he, hx ▸ hf⟩
  · rw [Function.update_of_ne hj] at hx
    exact ⟨x, hx, rfl⟩

theorem Carries.set (he : r.entry id = some e) (hf : f e' = f e) : Carries f r (r.set id e') :=
  .update he rfl hf

theorem Carries.dropLlme (h : Carries f r r') (l : Option LlmeId) :
    Carries f r (r'.dropLlme l) :=
  h.trans (.of_entry rfl)

theorem Carries.free (r : Registry) (id : CtxId) (e : Entry) : Carries f r (r.free id e) := by
  intro j x hx
  by_cases hj : j = id
  · subst hj
    simp [Registry.free] at hx
  · exact ⟨x, by simpa [Registry.free, hj] using hx, rfl⟩

theorem Carries.dropUe (hf : ∀ e : Entry, f { e with ueCtx := none } = f e) (r : Registry)
    (id : CtxId) : Carries f r (r.dropUe id) := by
  rcases r.dropUe_eq id with ⟨-, heq⟩ | ⟨e, he, heq⟩
  · exact .of_entry (by rw [heq])
  · rw [heq]
    exact .set he (hf e)

theorem Carries.freeUe (hf : ∀ e : Entry, f { e with ueCtx := none } = f e) (r : Registry)
    (ue : UeId) : Carries f r (r.freeUe ue) := by
  unfold Registry.freeUe
  cases r.byUe ue with
  | none => exact .of_entry rfl
  | some id => exact (Carries.dropUe hf r id).trans (.of_entry rfl)

theorem Carries.toIu {e₁ e₂ : Entry} {c : Prop} [Decidable c] {l : Option LlmeId}
    (he : r.entry id = some e) (hf₁ : f e₁ = f e) (hf₂ : f e₂ = f e) :
    Carries f r (if c then r.set id e₁ else (r.set id e₂).dropLlme l) := by
  split
  · exact .set he hf₁
  · exact (Carries.set he hf₂).dropLlme l

end Carries

/-- Every context has a property. -/
def Every (P : Entry → Prop) (r : Registry) : Prop := ∀ id e, r.entry id = some e → P e

section Every

variable {P : Entry → Prop}

theorem Every.carry {α : Type} {f : Entry → α} (h : Every P r)
    (hP : ∀ e e' : Entry, f e' = f e → P e → P e') (hc : Carries f r r') : Every P r' := by
  intro id e' he'
  obtain ⟨e, he, hf⟩ := hc id e' he'
  exact hP e e' hf (h id e he)

theorem Every.write (h : Every P r) (hr : r'.entry = Function.update r.entry id (some e'))
    (hP : P e') : Every P r' := by
  intro j x hx
  rw [hr] at hx
  by_cases hj : j = id
  · subst hj
    rw [Function.update_self, Option.some.injEq] at hx
    exact hx ▸ hP
  · rw [Function.update_of_ne hj] at hx
    exact h j x hx

end Every

/-! ## IMSIs -/

/-- No two contexts have the same IMSI. -/
def UniqueImsi (r : Registry) : Prop :=
  ∀ id e id' e', r.entry id = some e → r.entry id' = some e' → e.imsi = e'.imsi → e.imsi ≠ [] →
    id = id'

theorem UniqueImsi.carry (h : UniqueImsi r) (hc : Carries (·.imsi) r r') : UniqueImsi r' := by
  intro id e id' e' he he' heq hne
  obtain ⟨x, hx, hf⟩ := hc id e he
  obtain ⟨x', hx', hf'⟩ := hc id' e' he'
  exact h id x id' x' hx hx' (hf.symm.trans (heq.trans hf')) fun hx0 ↦ hne (hf.trans hx0)

/-- A context gets an IMSI that no other one has. -/
theorem UniqueImsi.write (h : UniqueImsi r) {imsi : Digits}
    (hfor : imsi ≠ [] → r.ImsiFor id imsi) (hi : e'.imsi = imsi)
    (hr : r'.entry = Function.update r.entry id (some e')) : UniqueImsi r' := by
  intro i x j y hx hy heq hne
  rw [hr] at hx hy
  by_cases hii : i = id
  · subst hii
    rw [Function.update_self, Option.some.injEq] at hx
    subst hx
    by_contra hij
    rw [Function.update_of_ne (Ne.symm hij)] at hy
    rw [hi] at heq hne
    exact hfor hne j y hy (Ne.symm hij) heq.symm
  · rw [Function.update_of_ne hii] at hx
    by_cases hji : j = id
    · subst hji
      rw [Function.update_self, Option.some.injEq] at hy
      subst hy
      rw [hi] at heq
      exact absurd heq (hfor (heq ▸ hne) i x hx hii)
    · rw [Function.update_of_ne hji] at hy
      exact h i x j y hx hy heq hne

/-- **IMSIs stay unique**, as long as a context that has one is not given that of another one. -/
theorem UniqueImsi.step (hp : p.imsi) (h : UniqueImsi r) (hs : Step p r r') : UniqueImsi r' := by
  cases hs with
  | imsi _ imsi hfor => exact h.write (hfor hp) rfl rfl
  | alloc ranType ra => exact h.write (fun hne ↦ absurd rfl hne) (rfl : _ = []) rfl
  | free _ => exact h.carry (.free _ _ _)
  | freeUe ue => exact h.carry (.freeUe (fun _ ↦ rfl) _ _)
  | toIu he _ _ => exact h.carry (.toIu he rfl rfl)
  | request _ _ | addUe _ _ | addLlme _ | assign _ _ | freeLlme _ _ =>
    exact h.carry (.of_entry rfl)
  | attach he _ _ | gmm he _ _ | mmGb he _ _ | pmm he _ _ _ | dropUe he | takeUe he _ _
  | takeLlme he _ _ _ | toGb he _ _ _ _ _ | place he _ | tlli he _ _ | givePtmsi he _ _ _ _ _
  | takePtmsi he _ _ _ _ _ | dropPtmsiOld he | session he _ _ =>
    exact h.carry (.update he rfl rfl)

/-! ## P-TMSIs -/

/-- A context has a P-TMSI, be it the old one. Zero and the reserved value are not P-TMSIs. -/
def Entry.Bears (e : Entry) (pTmsi : BitVec 32) : Prop :=
  pTmsi ≠ 0 ∧ pTmsi ≠ gsmReservedTmsi ∧ (e.pTmsi = pTmsi ∨ e.pTmsiOld = pTmsi)

/-- No two contexts have the same P-TMSI. -/
def UniquePtmsi (r : Registry) : Prop :=
  ∀ id e id' e' pTmsi, r.entry id = some e → r.entry id' = some e' → e.Bears pTmsi →
    e'.Bears pTmsi → id = id'

/-- What a context has as its P-TMSIs. -/
def Entry.ptmsis (e : Entry) : BitVec 32 × BitVec 32 := (e.pTmsi, e.pTmsiOld)

theorem Entry.Bears.congr {pTmsi : BitVec 32} (h : e'.Bears pTmsi) (hp : e'.ptmsis = e.ptmsis) :
    e.Bears pTmsi := by
  obtain ⟨h1, h2⟩ := Prod.mk.inj hp
  exact ⟨h.1, h.2.1, h1 ▸ h2 ▸ h.2.2⟩

theorem UniquePtmsi.carry (h : UniquePtmsi r) (hc : Carries Entry.ptmsis r r') :
    UniquePtmsi r' := by
  intro id e id' e' t he he' hb hb'
  obtain ⟨x, hx, hf⟩ := hc id e he
  obtain ⟨x', hx', hf'⟩ := hc id' e' he'
  exact h id x id' x' t hx hx' (hb.congr hf) (hb'.congr hf')

/-- A context gets a P-TMSI that no other one has; one that it had it may keep. -/
theorem UniquePtmsi.write (h : UniquePtmsi r)
    (hb : ∀ t, e'.Bears t → r.PtmsiFor id t ∨ ∃ e, r.entry id = some e ∧ e.Bears t)
    (hr : r'.entry = Function.update r.entry id (some e')) : UniquePtmsi r' := by
  have hnew : ∀ j y t, r.entry j = some y → j ≠ id → e'.Bears t → ¬ y.Bears t := by
    intro j y t hy hj ht hyt
    rcases hb t ht with hfor | ⟨e, he, het⟩
    · obtain ⟨h1, h2⟩ := hfor j y hy hj
      exact hyt.2.2.elim h1 h2
    · exact hj (h j y id e t hy he hyt het)
  intro i x j y t hx hy hxt hyt
  rw [hr] at hx hy
  by_cases hii : i = id
  · subst hii
    rw [Function.update_self, Option.some.injEq] at hx
    subst hx
    by_contra hij
    rw [Function.update_of_ne (Ne.symm hij)] at hy
    exact hnew j y t hy (Ne.symm hij) hxt hyt
  · rw [Function.update_of_ne hii] at hx
    by_cases hji : j = id
    · subst hji
      rw [Function.update_self, Option.some.injEq] at hy
      subst hy
      exact absurd hxt (hnew i x t hx hii hyt)
    · rw [Function.update_of_ne hji] at hy
      exact h i x j y t hx hy hxt hyt

/-- **P-TMSIs stay unique.** -/
theorem UniquePtmsi.step (h : UniquePtmsi r) (hs : Step p r r') : UniquePtmsi r' := by
  cases hs with
  | @givePtmsi _ e he pTmsi _ _ _ hfor =>
    refine h.write (fun t ht ↦ ?_) rfl
    rcases ht.2.2 with rfl | hold
    · exact .inl hfor
    · exact .inr ⟨e, he, ht.1, ht.2.1, .inl hold⟩
  | @takePtmsi _ e he pTmsi hold hfor _ _ =>
    refine h.write (fun t ht ↦ ?_) rfl
    rcases ht.2.2 with rfl | hold
    · exact .inl (hfor ht.1 ht.2.1)
    · exact .inr ⟨e, he, ht.1, ht.2.1, .inr hold⟩
  | @dropPtmsiOld _ e he =>
    refine h.write (fun t ht ↦ .inr ⟨e, he, ht.1, ht.2.1, ?_⟩) rfl
    rcases ht.2.2 with hnew | hzero
    · exact .inl hnew
    · exact absurd hzero.symm ht.1
  | alloc ranType ra =>
    refine h.write (fun t ht ↦ ?_) rfl
    rcases ht.2.2 with hzero | hzero
    · exact absurd hzero.symm ht.1
    · exact absurd hzero.symm ht.1
  | free _ => exact h.carry (.free _ _ _)
  | freeUe ue => exact h.carry (.freeUe (fun _ ↦ rfl) _ _)
  | toIu he _ _ => exact h.carry (.toIu he rfl rfl)
  | request _ _ | addUe _ _ | addLlme _ | assign _ _ | freeLlme _ _ =>
    exact h.carry (.of_entry rfl)
  | attach he _ _ | gmm he _ _ | mmGb he _ _ | pmm he _ _ _ | dropUe he | takeUe he _ _
  | takeLlme he _ _ _ | toGb he _ _ _ _ _ | place he _ | tlli he _ _ | imsi he _ _
  | session he _ _ =>
    exact h.carry (.update he rfl rfl)

/-! ## Where a P-TMSI comes from -/

/-- What a context has as a P-TMSI is one that its mobile station was given or has come with. -/
structure Entry.Presented (e : Entry) : Prop where
  pTmsi : e.pTmsi ≠ 0 → e.pTmsi ∈ e.ptmsiHistory
  pTmsiOld : e.pTmsiOld ≠ 0 → e.pTmsiOld ∈ e.ptmsiHistory

/-- The reserved value is not among the P-TMSIs of a context. -/
def Entry.Unreserved (e : Entry) : Prop := gsmReservedTmsi ∉ e.ptmsiHistory

/-- What the P-TMSIs of a context are and were. -/
def Entry.ptmsiRecord (e : Entry) : (BitVec 32 × BitVec 32) × List (BitVec 32) :=
  (e.ptmsis, e.ptmsiHistory)

section Every

variable {P : Entry → Prop}

/-- What the rules about P-TMSIs keep, every rule keeps. -/
theorem Every.ptmsiStep (h : Every P r) (hs : Step p r r')
    (hP : ∀ e e' : Entry, e'.ptmsiRecord = e.ptmsiRecord → P e → P e')
    (hfresh : ∀ e : Entry, e.ptmsiRecord = ((0, 0), []) → P e)
    (hgive : ∀ (e : Entry) (t : BitVec 32), P e → t ≠ gsmReservedTmsi → localTlli t = t →
      P { e with pTmsiOld := e.pTmsi, pTmsi := t, ptmsiHistory := t :: e.ptmsiHistory })
    (htake : ∀ (e : Entry) (t : BitVec 32), P e → (p.reserved → t ≠ gsmReservedTmsi) →
      (p.llme → localTlli t ≠ tlliUnassigned) →
      P { e with pTmsi := t, ptmsiHistory := t :: e.ptmsiHistory })
    (hdrop : ∀ e : Entry, P e → P { e with pTmsiOld := 0 }) : Every P r' := by
  cases hs with
  | givePtmsi he pTmsi _ h1 hlocal _ => exact h.write rfl (hgive _ _ (h _ _ he) h1 hlocal)
  | takePtmsi he pTmsi _ _ hres hllme => exact h.write rfl (htake _ _ (h _ _ he) hres hllme)
  | dropPtmsiOld he => exact h.write rfl (hdrop _ (h _ _ he))
  | alloc ranType ra => exact h.write rfl (hfresh _ rfl)
  | free _ => exact h.carry hP (.free _ _ _)
  | freeUe ue => exact h.carry hP (.freeUe (fun _ ↦ rfl) _ _)
  | toIu he _ _ => exact h.carry hP (.toIu he rfl rfl)
  | request _ _ | addUe _ _ | addLlme _ | assign _ _ | freeLlme _ _ =>
    exact h.carry hP (.of_entry rfl)
  | attach he _ _ | gmm he _ _ | mmGb he _ _ | pmm he _ _ _ | dropUe he | takeUe he _ _
  | takeLlme he _ _ _ | toGb he _ _ _ _ _ | place he _ | tlli he _ _ | imsi he _ _
  | session he _ _ =>
    exact h.carry hP (.update he rfl rfl)

end Every

/-- **A P-TMSI of a context is one that its mobile station was given or has come with.** -/
theorem presented_step (h : Every Entry.Presented r) (hs : Step p r r') :
    Every Entry.Presented r' := by
  refine h.ptmsiStep hs ?_ ?_ ?_ ?_ ?_
  · intro e e' heq hpr
    simp only [Entry.ptmsiRecord, Entry.ptmsis, Prod.mk.injEq] at heq
    obtain ⟨⟨h1, h2⟩, h3⟩ := heq
    exact ⟨by rw [h1, h3]; exact hpr.pTmsi, by rw [h2, h3]; exact hpr.pTmsiOld⟩
  · intro e heq
    simp only [Entry.ptmsiRecord, Entry.ptmsis, Prod.mk.injEq] at heq
    obtain ⟨⟨h1, h2⟩, -⟩ := heq
    exact ⟨fun hne ↦ absurd h1 hne, fun hne ↦ absurd h2 hne⟩
  · intro e t hpr _ _
    exact ⟨fun _ ↦ List.mem_cons_self, fun hne ↦ List.mem_cons_of_mem _ (hpr.pTmsi hne)⟩
  · intro e t hpr _ _
    exact ⟨fun _ ↦ List.mem_cons_self, fun hne ↦ List.mem_cons_of_mem _ (hpr.pTmsiOld hne)⟩
  · intro e hpr
    exact ⟨hpr.pTmsi, fun hne ↦ absurd rfl hne⟩

/-- The reserved value never becomes a P-TMSI, as long as no mobile station presents it. -/
theorem unreserved_step (hp : p.reserved) (h : Every Entry.Unreserved r)
    (hs : Step p r r') : Every Entry.Unreserved r' := by
  refine h.ptmsiStep hs ?_ ?_ ?_ ?_ ?_
  · intro e e' heq hun
    simp only [Entry.ptmsiRecord, Prod.mk.injEq] at heq
    rw [Entry.Unreserved, heq.2]
    exact hun
  · intro e heq
    simp only [Entry.ptmsiRecord, Prod.mk.injEq] at heq
    rw [Entry.Unreserved, heq.2]
    exact List.not_mem_nil
  · intro e t hun h1 _
    exact List.not_mem_cons_of_ne_of_not_mem (Ne.symm h1) hun
  · intro e t hun h1 _
    exact List.not_mem_cons_of_ne_of_not_mem (Ne.symm (h1 hp)) hun
  · intro e hun
    exact hun

end OsmoSgsn.Gmm
