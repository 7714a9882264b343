import OsmoSgsn.Sm.Session

/-!
# PDP contexts and what they are linked to

`Linked` is what holds of PDP contexts between events and also while one is handled: a PDP context
and its MM context point at each other, a context that the GGSN has not let go of is still attached
to it and has a handle, and the requests that the library holds are those of contexts that they fit.

`Act` is what handling an event may do to the contexts, whatever the event: it writes to contexts,
sends Delete requests for them and frees them. Only the MM context that goes away detaches its own.
-/

namespace OsmoSgsn.Sm

/-- What is known of a PDP context and the requests that the library holds. -/
structure PdpCtx.Sound (c : PdpCtx) (s : SessState) (p : PdpPtr) : Prop where
  lib : c.ggsn.isSome → c.lib = true
  ggsn : c.ggsnReleased = false → c.ggsn.isSome
  create : p ∈ s.creates → c.createAccepted = false
  delete : p ∈ s.deletes → c.deleteSent = true

/-- The contexts, the lists that they are in and the requests that the library holds agree. -/
structure Linked (s : SessState) : Prop where
  listed : ∀ p, p ∈ s.pdpList ↔ (s.ctxs p).isSome
  nodup : ∀ m mm, s.mms m = some mm → mm.pdpList.Nodup
  mmOf : ∀ p c m, s.ctxs p = some c → c.mm = some m → ∃ mm, s.mms m = some mm ∧ p ∈ mm.pdpList
  ofMm : ∀ m mm p, s.mms m = some mm → p ∈ mm.pdpList → ∃ c, s.ctxs p = some c ∧ c.mm = some m
  sound : ∀ p c, s.ctxs p = some c → c.Sound s p
  creates : s.creates.Nodup
  fresh : ∀ p, p ∈ s.pdpList ∨ p ∈ s.creates ∨ p ∈ s.deletes → p < s.nextPdp

variable {s : SessState} {p q : PdpPtr} {c c' : PdpCtx} {m : SessMmPtr} {mm : SessMm}
  {takes : Takes}

@[simp] theorem setPdp_setPdp (s : SessState) (p : PdpPtr) (c c' : PdpCtx) :
    (s.setPdp p c).setPdp p c' = s.setPdp p c' := by
  simp [SessState.setPdp]

@[simp] theorem setPdp_ctxs_self (s : SessState) (p : PdpPtr) (c : PdpCtx) :
    (s.setPdp p c).ctxs p = some c := by
  simp [SessState.setPdp]

theorem setPdp_ctxs_of_ne (c : PdpCtx) (h : q ≠ p) : (s.setPdp p c).ctxs q = s.ctxs q := by
  simp [SessState.setPdp, h]

/-! ## Writing, asking and freeing -/

/-- Writing to a context. -/
theorem Linked.write (h : Linked s) (hc : s.ctxs p = some c) (hmm : c'.mm = c.mm)
    (hsound : c'.Sound s p) : Linked (s.setPdp p c') where
  listed := by
    intro q
    by_cases hq : q = p
    · subst hq
      exact ⟨fun _ ↦ by simp, fun _ ↦ (h.listed q).mpr (Option.isSome_of_eq_some hc)⟩
    · rw [setPdp_ctxs_of_ne c' hq]
      exact h.listed q
  nodup := h.nodup
  mmOf := by
    intro q x m hx hm
    by_cases hq : q = p
    · subst hq
      obtain rfl : c' = x := by simpa using hx
      exact h.mmOf q c m hc (hmm ▸ hm)
    · rw [setPdp_ctxs_of_ne c' hq] at hx
      exact h.mmOf q x m hx hm
  ofMm := by
    intro m mm q hm hq
    obtain ⟨x, hx, hxm⟩ := h.ofMm m mm q hm hq
    by_cases hqp : q = p
    · subst hqp
      obtain rfl := Option.some.inj (hc.symm.trans hx)
      exact ⟨c', by simp, hmm.trans hxm⟩
    · exact ⟨x, (setPdp_ctxs_of_ne c' hqp).trans hx, hxm⟩
  sound := by
    intro q x hx
    by_cases hq : q = p
    · subst hq
      obtain rfl : c' = x := by simpa using hx
      exact ⟨hsound.lib, hsound.ggsn, hsound.create, hsound.delete⟩
    · rw [setPdp_ctxs_of_ne c' hq] at hx
      obtain ⟨hlib, hggsn, hcreate, hdelete⟩ := h.sound q x hx
      exact ⟨hlib, hggsn, hcreate, hdelete⟩
  creates := h.creates
  fresh := h.fresh

/-- A Delete request is sent for a context. -/
theorem Linked.request (h : Linked s) (hc : s.ctxs p = some c) :
    Linked { s.setPdp p { c with deleteSent := true } with deletes := p :: s.deletes } := by
  have hsound := h.sound p c hc
  have hwrite : Linked (s.setPdp p { c with deleteSent := true }) :=
    h.write hc rfl ⟨hsound.lib, hsound.ggsn, hsound.create, fun _ ↦ rfl⟩
  refine ⟨hwrite.listed, hwrite.nodup, hwrite.mmOf, hwrite.ofMm, ?_, hwrite.creates, ?_⟩
  · intro q x hx
    have hq := hwrite.sound q x hx
    refine ⟨hq.lib, hq.ggsn, hq.create, fun hmem ↦ ?_⟩
    rcases List.mem_cons.mp hmem with rfl | hmem
    · obtain rfl : { c with deleteSent := true } = x := by simpa using hx
      rfl
    · exact hq.delete hmem
  · rintro q (hq | hq | hq)
    · exact h.fresh q (.inl hq)
    · exact h.fresh q (.inr (.inl hq))
    · rcases List.mem_cons.mp hq with rfl | hq
      · exact h.fresh q (.inl ((h.listed q).mpr (Option.isSome_of_eq_some hc)))
      · exact h.fresh q (.inr (.inr hq))

/-- A context leaves the list of its MM context. -/
theorem unlinkMm_mms (h : Linked s) (hc : s.ctxs p = some c) (hmm : c'.mm = c.mm) {x : SessMm}
    (hx : (s.unlinkMm p c').mms m = some x) :
    ∃ y, s.mms m = some y ∧ x.pdpList = y.pdpList.filter (· ≠ p) := by
  have hother : ∀ y, s.mms m = some y → c.mm ≠ some m → y.pdpList = y.pdpList.filter (· ≠ p) := by
    intro y hy hne
    refine (List.filter_eq_self.mpr fun q hq ↦ ?_).symm
    have hqp : q ≠ p := by
      rintro rfl
      obtain ⟨z, hz, hzm⟩ := h.ofMm m y q hy hq
      obtain rfl := Option.some.inj (hc.symm.trans hz)
      exact hne hzm
    simpa using hqp
  rw [SessState.unlinkMm, hmm] at hx
  cases hcm : c.mm with
  | none =>
    rw [hcm] at hx
    exact ⟨x, hx, hother x hx (by simp [hcm])⟩
  | some n =>
    obtain ⟨y, hy, -⟩ := h.mmOf p c n hc hcm
    simp only [hcm, hy, SessState.setMm] at hx
    by_cases hmn : m = n
    · subst hmn
      rw [Function.update_self] at hx
      obtain rfl := Option.some.inj hx
      exact ⟨y, hy, rfl⟩
    · rw [Function.update_of_ne hmn] at hx
      exact ⟨x, hx, hother x hx (by simpa [hcm] using Ne.symm hmn)⟩

theorem unlinkMm_mms_of_some (h : Linked s) (hc : s.ctxs p = some c) (hmm : c'.mm = c.mm)
    {y : SessMm}
    (hy : s.mms m = some y) :
    ∃ x, (s.unlinkMm p c').mms m = some x ∧ x.pdpList = y.pdpList.filter (· ≠ p) := by
  have hsome : ∃ x, (s.unlinkMm p c').mms m = some x := by
    rw [SessState.unlinkMm, hmm]
    cases hcm : c.mm with
    | none => exact ⟨y, hy⟩
    | some n =>
      obtain ⟨z, hz, -⟩ := h.mmOf p c n hc hcm
      simp only [hz, SessState.setMm]
      by_cases hmn : m = n
      · subst hmn
        exact ⟨_, Function.update_self ..⟩
      · exact ⟨y, (Function.update_of_ne hmn _ _).trans hy⟩
  obtain ⟨x, hx⟩ := hsome
  obtain ⟨y', hy', hlist⟩ := unlinkMm_mms h hc hmm hx
  obtain rfl := Option.some.inj (hy.symm.trans hy')
  exact ⟨x, hx, hlist⟩

/-- Taking a context out of a list writes to the MM contexts only. -/
theorem unlinkMm_eq (s : SessState) (p : PdpPtr) (c : PdpCtx) :
    s.unlinkMm p c = { s with mms := (s.unlinkMm p c).mms } := by
  rw [SessState.unlinkMm]
  split
  · rfl
  · split <;> rfl

@[simp] theorem unlinkMm_ctxs (s : SessState) (p : PdpPtr) (c : PdpCtx) :
    (s.unlinkMm p c).ctxs = s.ctxs := by
  rw [unlinkMm_eq]

@[simp] theorem unlinkMm_pdpList (s : SessState) (p : PdpPtr) (c : PdpCtx) :
    (s.unlinkMm p c).pdpList = s.pdpList := by
  rw [unlinkMm_eq]

@[simp] theorem unlinkMm_creates (s : SessState) (p : PdpPtr) (c : PdpCtx) :
    (s.unlinkMm p c).creates = s.creates := by
  rw [unlinkMm_eq]

@[simp] theorem unlinkMm_deletes (s : SessState) (p : PdpPtr) (c : PdpCtx) :
    (s.unlinkMm p c).deletes = s.deletes := by
  rw [unlinkMm_eq]

@[simp] theorem unlinkMm_nextPdp (s : SessState) (p : PdpPtr) (c : PdpCtx) :
    (s.unlinkMm p c).nextPdp = s.nextPdp := by
  rw [unlinkMm_eq]

/-- A context is freed. -/
theorem Linked.free (h : Linked s) (hc : s.ctxs p = some c) (hmm : c'.mm = c.mm) :
    Linked (s.pdpCtxFree p c').1 where
  listed := by
    intro q
    by_cases hq : q = p
    · simp [SessState.pdpCtxFree, hq]
    · simpa [SessState.pdpCtxFree, hq] using h.listed q
  nodup := by
    intro m x hx
    obtain ⟨y, hy, hlist⟩ := unlinkMm_mms h hc hmm hx
    rw [hlist]
    exact (h.nodup m y hy).filter _
  mmOf := by
    intro q x m hx hm
    by_cases hq : q = p
    · simp [SessState.pdpCtxFree, hq] at hx
    · have hx : s.ctxs q = some x := by simpa [SessState.pdpCtxFree, hq] using hx
      obtain ⟨y, hy, hmem⟩ := h.mmOf q x m hx hm
      obtain ⟨z, hz, hlist⟩ := unlinkMm_mms_of_some h hc hmm hy
      exact ⟨z, hz, by rw [hlist]; exact List.mem_filter.mpr ⟨hmem, by simpa using hq⟩⟩
  ofMm := by
    intro m x q hx hq
    obtain ⟨y, hy, hlist⟩ := unlinkMm_mms h hc hmm hx
    rw [hlist] at hq
    obtain ⟨hmem, hqp⟩ := List.mem_filter.mp hq
    obtain ⟨z, hz, hzm⟩ := h.ofMm m y q hy hmem
    exact ⟨z, by simpa [SessState.pdpCtxFree, show q ≠ p by simpa using hqp] using hz, hzm⟩
  sound := by
    intro q x hx
    by_cases hq : q = p
    · simp [SessState.pdpCtxFree, hq] at hx
    · have hx : s.ctxs q = some x := by simpa [SessState.pdpCtxFree, hq] using hx
      obtain ⟨hlib, hggsn, hcreate, hdelete⟩ := h.sound q x hx
      exact ⟨hlib, hggsn, by simpa [SessState.pdpCtxFree] using hcreate,
        by simpa [SessState.pdpCtxFree] using hdelete⟩
  creates := by simpa [SessState.pdpCtxFree] using h.creates
  fresh := by
    rintro q (hq | hq | hq)
    · have hq : q ∈ s.pdpList := by
        simp only [SessState.pdpCtxFree, unlinkMm_pdpList] at hq
        exact List.mem_of_mem_filter hq
      simpa [SessState.pdpCtxFree] using h.fresh q (.inl hq)
    · simpa [SessState.pdpCtxFree] using
        h.fresh q (.inr (.inl (by simpa [SessState.pdpCtxFree] using hq)))
    · simpa [SessState.pdpCtxFree] using
        h.fresh q (.inr (.inr (by simpa [SessState.pdpCtxFree] using hq)))

/-! ## What handling an event may do -/

/-- A message that ends nothing, or an answer for a context that is gone. -/
def SessOut.EndsNothing : SessOut → Prop
  | .deleteReq _ | .freed .. | .terminated .. => False
  | _ => True

/-- What handling an event may do to PDP contexts: write to them, ask the GGSN to delete them, and
free them as what `G` permits. -/
inductive Act (G : PdpCtx → Prop) : SessState → SessState × List SessOut → Prop
  | done (s : SessState) : Act G s (s, [])
  | say (s : SessState) {o : SessOut} (ho : o.EndsNothing) : Act G s (s, [o])
  | write {s : SessState} {p : PdpPtr} {c c' : PdpCtx} (hc : s.ctxs p = some c)
      (hmm : c'.mm = c.mm) (hsound : c'.Sound s p) : Act G s (s.setPdp p c', [])
  | request {s : SessState} {p : PdpPtr} {c : PdpCtx} (hc : s.ctxs p = some c) :
      Act G s ({ s.setPdp p { c with deleteSent := true } with deletes := p :: s.deletes },
        [.deleteReq p])
  | free {s : SessState} {p : PdpPtr} {c c' : PdpCtx} (hc : s.ctxs p = some c)
      (hmm : c'.mm = c.mm) (hG : G c') : Act G s (s.pdpCtxFree p c')
  | seq {s₁ s₂ s₃ : SessState} {o₁ o₂ : List SessOut} (h₁ : Act G s₁ (s₂, o₁))
      (h₂ : Act G s₂ (s₃, o₂)) : Act G s₁ (s₃, o₁ ++ o₂)

/-- An observation frees and leaves contexts only as what `G` permits. -/
def SessOut.Leaves (G : PdpCtx → Prop) : SessOut → Prop
  | .freed _ c | .terminated _ c => G c
  | _ => True

/-- A context that belongs to no MM context waits for an answer of its GGSN. -/
def Waits (s : SessState) : Prop :=
  ∀ p c, s.ctxs p = some c → c.mm = none → p ∈ s.creates ∨ p ∈ s.deletes

variable {G : PdpCtx → Prop} {r : SessState × List SessOut}

theorem Act.linked (ha : Act G s r) (h : Linked s) : Linked r.1 := by
  induction ha with
  | done => exact h
  | say => exact h
  | write hc hmm hsound => exact h.write hc hmm hsound
  | request hc => exact h.request hc
  | free hc hmm => exact h.free hc hmm
  | seq h₁ h₂ ih₁ ih₂ => exact ih₂ (ih₁ h)

theorem Act.leaves (ha : Act G s r) : ∀ o ∈ r.2, o.Leaves G := by
  induction ha with
  | done => simp
  | say s ho =>
    intro o hmem
    obtain rfl := List.mem_singleton.mp hmem
    cases o <;> trivial
  | write => simp
  | request =>
    intro o hmem
    obtain rfl := List.mem_singleton.mp hmem
    trivial
  | free hc hmm hG =>
    intro o hmem
    obtain rfl := List.mem_singleton.mp hmem
    exact hG
  | seq h₁ h₂ ih₁ ih₂ =>
    intro o hmem
    rcases List.mem_append.mp hmem with hmem | hmem
    · exact ih₁ o hmem
    · exact ih₂ o hmem

theorem Act.waits (ha : Act G s r) (h : Waits s) : Waits r.1 := by
  induction ha with
  | done => exact h
  | say => exact h
  | @write s p c c' hc hmm hsound =>
    intro q x hx hxm
    by_cases hq : q = p
    · subst hq
      obtain rfl : c' = x := by simpa using hx
      exact h q c hc (hmm ▸ hxm)
    · rw [setPdp_ctxs_of_ne c' hq] at hx
      exact h q x hx hxm
  | @request s p c hc =>
    intro q x hx hxm
    by_cases hq : q = p
    · exact .inr (hq ▸ List.mem_cons_self)
    · have hx : s.ctxs q = some x := (setPdp_ctxs_of_ne _ hq).symm.trans hx
      exact (h q x hx hxm).imp_right (List.mem_cons_of_mem _)
  | @free s p c c' hc hmm hG =>
    intro q x hx hxm
    by_cases hq : q = p
    · simp [SessState.pdpCtxFree, hq] at hx
    · have hx : s.ctxs q = some x := by simpa [SessState.pdpCtxFree, hq] using hx
      simpa [SessState.pdpCtxFree] using h q x hx hxm
  | seq h₁ h₂ ih₁ ih₂ => exact ih₂ (ih₁ h)

theorem Act.mono {G' : PdpCtx → Prop} (ha : Act G s r) (hG : ∀ c, G c → G' c) : Act G' s r := by
  induction ha with
  | done => exact .done _
  | say s ho => exact .say s ho
  | write hc hmm hsound => exact .write hc hmm hsound
  | request hc => exact .request hc
  | free hc hmm h => exact .free hc hmm (hG _ h)
  | seq h₁ h₂ ih₁ ih₂ => exact .seq ih₁ ih₂

/-- Messages that are sent first, or none. -/
theorem Act.saying {outs : List SessOut} (ha : Act G s r) (ho : ∀ o ∈ outs, o.EndsNothing) :
    Act G s (r.1, outs ++ r.2) := by
  induction outs with
  | nil => exact ha
  | cons o outs ih =>
    have hfirst : Act G s (s, [o]) := .say s (ho o List.mem_cons_self)
    have hrest := Act.seq hfirst (ih fun o' ho' ↦ ho o' (List.mem_cons_of_mem _ ho'))
    exact hrest

/-- What is done to a context that was just written. -/
theorem Act.writing (hc : s.ctxs p = some c) (hmm : c'.mm = c.mm) (hsound : c'.Sound s p)
    (ha : Act G (s.setPdp p c') r) : Act G s r :=
  .seq (.write hc hmm hsound) ha

/-- A loop over contexts. -/
theorem act_forPdps {f : SessState → PdpPtr → SessState × List SessOut}
    (hf : ∀ s p, Linked s → Act G s (f s p)) (ps : List PdpPtr) (h : Linked s) :
    Act G s (forPdps f ps s) := by
  induction ps generalizing s with
  | nil => exact .done s
  | cons p ps ih =>
    have hfirst := hf s p h
    exact .seq hfirst (ih (hfirst.linked h))

/-! ## Deleting and dropping -/

/-- A session is released: the GGSN has never accepted it, a Delete request was sent for it, or the
GGSN has let go of it. -/
def PdpCtx.Released (c : PdpCtx) : Prop :=
  c.createAccepted = true → c.deleteSent = true ∨ c.ggsnReleased = true

theorem PdpCtx.Sound.released (h : c.Sound s p) (hggsn : c.ggsn = none) : c.Released := by
  intro _
  refine .inr ?_
  by_contra hnot
  have hsome := h.ggsn (by simpa using hnot)
  rw [hggsn] at hsome
  cases hsome

theorem act_deletePdpCtx (takes : Takes) (hc : s.ctxs p = some c) :
    Act G s (s.deletePdpCtx takes p c) := by
  rw [SessState.deletePdpCtx]
  split_ifs
  · exact .request hc
  · exact .done s

theorem act_deactivate (h : Linked s) (hc : s.ctxs p = some c) :
    Act PdpCtx.Released s (s.deactivate takes p c) := by
  rw [SessState.deactivate]
  split_ifs with hggsn
  · exact act_deletePdpCtx takes hc
  · exact .free hc rfl ((h.sound p c hc).released (by simpa using hggsn))

theorem setPdp_pdpCtxFree (s : SessState) (p : PdpPtr) (c c' : PdpCtx) :
    (s.setPdp p c').pdpCtxFree p c = s.pdpCtxFree p c := by
  have hunlink : ((s.setPdp p c').unlinkMm p c).mms = (s.unlinkMm p c).mms := by
    rw [SessState.unlinkMm, SessState.unlinkMm]
    cases c.mm with
    | none => rfl
    | some m =>
      cases hm : s.mms m with
      | none => simp [SessState.setPdp, hm]
      | some mm => simp [SessState.setPdp, SessState.setMm, hm]
  rw [SessState.pdpCtxFree, SessState.pdpCtxFree, unlinkMm_eq, unlinkMm_eq s, hunlink]
  simp [SessState.setPdp]

/-- Dropping a context that was written to first. It may be without its handle then. -/
theorem act_ggsnCtxDropPdp (hc : s.ctxs p = some c) (hmm : c'.mm = c.mm)
    (hggsn : c'.ggsnReleased = false → c'.ggsn.isSome ∧ c'.lib = true)
    (hcreate : p ∈ s.creates → c'.createAccepted = false)
    (hdelete : p ∈ s.deletes → c'.deleteSent = true) :
    Act PdpCtx.Released s ((s.setPdp p c').ggsnCtxDropPdp takes p) := by
  rw [SessState.ggsnCtxDropPdp, setPdp_ctxs_self]
  have hreleased : ¬ (c'.lib = true ∧ c'.ggsn.isSome = true) → c'.ggsnReleased = true := by
    intro hnot
    by_contra hg
    exact hnot (hggsn (by simpa using hg)).symm
  by_cases hreg : (s.setPdp p c').registered c' = true
  · -- The mobile station is asked to deactivate.
    simp only [hreg, if_true, setPdp_setPdp]
    have hmsg : ∀ o ∈ [SessOut.deactPdpReq p], o.EndsNothing := by simp [SessOut.EndsNothing]
    by_cases hlib : c'.lib = true ∧ c'.ggsn.isSome = true
    · rw [if_pos hlib]
      have hwrite : Act PdpCtx.Released s (s.setPdp p { c' with timer := some 0 }, []) :=
        .write hc hmm ⟨fun _ ↦ hlib.1, fun _ ↦ hlib.2, hcreate, hdelete⟩
      exact (Act.seq hwrite (act_deletePdpCtx takes (setPdp_ctxs_self ..))).saying hmsg
    · rw [if_neg hlib]
      have hwrite : Act PdpCtx.Released s (s.setPdp p { c' with
          ggsn := none, lib := if c'.ggsn.isSome then false else c'.lib, timer := some 0 },
        []) := by
        refine .write hc hmm ⟨fun h ↦ by simp at h, fun hg ↦ ?_, hcreate, hdelete⟩
        exact absurd (hreleased hlib) (by simpa using hg)
      exact hwrite.saying hmsg
  · simp only [hreg, Bool.false_eq_true, if_false, setPdp_setPdp, List.nil_append]
    by_cases hlib : c'.lib = true ∧ c'.ggsn.isSome = true
    · rw [if_pos hlib]
      have hwrite : Act PdpCtx.Released s (s.setPdp p c', []) :=
        .write hc hmm ⟨fun _ ↦ hlib.1, fun _ ↦ hlib.2, hcreate, hdelete⟩
      exact .seq hwrite (act_deletePdpCtx takes (setPdp_ctxs_self ..))
    · rw [if_neg hlib, setPdp_pdpCtxFree]
      exact .free hc hmm fun _ ↦ .inr (hreleased hlib)

theorem act_cbDeleteContext (h : Linked s) : Act PdpCtx.Released s (s.cbDeleteContext p takes) := by
  rw [SessState.cbDeleteContext]
  cases hc : s.ctxs p with
  | none => exact .done s
  | some c =>
    have hsound := h.sound p c hc
    exact act_ggsnCtxDropPdp hc rfl (fun hg ↦ by cases hg) hsound.create hsound.delete

theorem act_dropLost (restarted : Bool) (s : SessState) (p : PdpPtr) (h : Linked s) :
    Act PdpCtx.Released s (SessState.dropLost restarted takes s p) := by
  rw [SessState.dropLost]
  cases hc : s.ctxs p with
  | none => exact .done s
  | some c =>
    have hsound := h.sound p c hc
    refine act_ggsnCtxDropPdp hc rfl (fun hg ↦ ?_) hsound.create hsound.delete
    have hnot : c.ggsnReleased = false := (Bool.or_eq_false_iff.mp hg).1
    exact ⟨hsound.ggsn hnot, hsound.lib (hsound.ggsn hnot)⟩

/-! ## Messages and timers -/

/-- Deactivating a context after a field was written that its soundness does not look at. -/
theorem act_setPdp_deactivate (h : Linked s) (hc : s.ctxs p = some c) (hmm : c'.mm = c.mm)
    (hsound : c.Sound s p → c'.Sound s p) :
    Act PdpCtx.Released s ((s.setPdp p c').deactivate takes p c') := by
  have hs := hsound (h.sound p c hc)
  exact .writing hc hmm hs (act_deactivate (h.write hc hmm hs) (setPdp_ctxs_self ..))

/-- Messages after a context was written. -/
theorem act_write_say (hc : s.ctxs p = some c) (hmm : c'.mm = c.mm) (hs : c'.Sound s p)
    {outs : List SessOut} (ho : ∀ o ∈ outs, o.EndsNothing) : Act G s (s.setPdp p c', outs) := by
  have hwrite : Act G s (s.setPdp p c', []) := .write hc hmm hs
  simpa using hwrite.saying ho

/-- Messages after a field was written that the soundness of the context does not look at. -/
theorem act_setPdp_say (h : Linked s) (hc : s.ctxs p = some c) (hmm : c'.mm = c.mm)
    (hsound : c.Sound s p → c'.Sound s p) {outs : List SessOut} (ho : ∀ o ∈ outs, o.EndsNothing) :
    Act G s (s.setPdp p c', outs) :=
  act_write_say hc hmm (hsound (h.sound p c hc)) ho

theorem act_rxGsmDeactPdpReq (h : Linked s) (m : SessMmPtr) (mm : SessMm) (ti : ℕ) :
    Act PdpCtx.Released s (s.rxGsmDeactPdpReq m mm ti takes) := by
  rw [SessState.rxGsmDeactPdpReq]
  split
  · exact .say s trivial
  · split
    · exact .done s
    · next hc => exact act_deactivate h hc

theorem act_rxGsmDeactPdpAck (h : Linked s) (mm : SessMm) (ti : ℕ) :
    Act PdpCtx.Released s (s.rxGsmDeactPdpAck mm ti takes) := by
  rw [SessState.rxGsmDeactPdpAck]
  split
  · exact .done s
  · split
    · exact .done s
    · next hc =>
      exact act_setPdp_deactivate h hc rfl fun hs ↦ ⟨hs.lib, hs.ggsn, hs.create, hs.delete⟩

theorem act_processCtxStatus (takes : Takes) (status : BitVec 16) (s : SessState) (p : PdpPtr)
    (h : Linked s) :
    Act PdpCtx.Released s (SessState.processCtxStatus status takes s p) := by
  rw [SessState.processCtxStatus]
  split
  · exact .done s
  · next c hc =>
    split_ifs
    · exact .done s
    · exact act_setPdp_deactivate h hc rfl fun hs ↦ ⟨hs.lib, hs.ggsn, hs.create, hs.delete⟩

theorem act_pdpctxTimerCb (h : Linked s) (p : PdpPtr) :
    Act PdpCtx.Released s (s.pdpctxTimerCb p takes) := by
  rw [SessState.pdpctxTimerCb]
  split
  · exact .done s
  · next c hc =>
    split
    · exact .done s
    · split_ifs
      · exact act_setPdp_deactivate h hc rfl fun hs ↦ ⟨hs.lib, hs.ggsn, hs.create, hs.delete⟩
      · refine act_setPdp_say h hc ?_ (fun hs ↦ ?_) ?_
        · rfl
        · exact ⟨hs.lib, hs.ggsn, hs.create, hs.delete⟩
        · simp [SessOut.EndsNothing]

theorem act_deleteOne (s : SessState) (p : PdpPtr) :
    Act PdpCtx.Released s (SessState.deleteOne takes s p) := by
  rw [SessState.deleteOne]
  split
  · exact .done s
  · next hc => exact act_deletePdpCtx takes hc

theorem act_ranapRabAssResp (h : Linked s) (m : SessMmPtr) (mm : SessMm) (rabId : ℕ)
    (usable update tx : Bool) :
    Act PdpCtx.Released s (s.ranapRabAssResp m mm rabId usable update takes tx) := by
  rw [SessState.ranapRabAssResp]
  split
  · exact .done s
  · next p hp =>
    split
    · exact .done s
    · next c hc =>
      by_cases hlib : c.lib = true
      swap
      · rw [if_pos hlib]
        exact .done s
      rw [if_neg (not_not_intro hlib)]
      by_cases husable : usable = true ∧ (update = true → c.ggsn.isSome = true)
      · have hmsg : ∀ o ∈ (if update then [SessOut.updateReq p] else []), o.EndsNothing := by
          cases update <;> simp [SessOut.EndsNothing]
        rw [if_pos husable]
        by_cases hconf : c.state = .crConf
        · simpa [hconf] using (Act.done s).saying hmsg
        · simp only [ne_eq, hconf, not_false_eq_true, if_true]
          refine act_setPdp_say h hc ?_ (fun hs ↦ ?_) ?_
          · cases tx <;> rfl
          · cases tx <;> exact ⟨hs.lib, hs.ggsn, hs.create, hs.delete⟩
          · cases update <;> cases tx <;> simp [PdpCtx.sendActPdpContAcc, SessOut.EndsNothing]
      · rw [if_neg husable]
        by_cases hconf : c.state = .crConf
        · simp only [ne_eq, hconf, not_true_eq_false, if_false]
          refine act_setPdp_say h hc ?_ (fun hs ↦ ?_) ?_
          · rfl
          · exact ⟨hs.lib, hs.ggsn, hs.create, hs.delete⟩
          · simp [SessOut.EndsNothing]
        · simp only [ne_eq, hconf, not_false_eq_true, if_true]
          have hdel := act_deletePdpCtx (G := PdpCtx.Released) takes hc
          have hmsg : ∀ o ∈ [SessOut.actPdpRej m c.ti], o.EndsNothing := by
            simp [SessOut.EndsNothing]
          exact hdel.saying hmsg

/-- A request for a context that there is. -/
theorem act_doActPdpReq (h : Linked s) {g : Option GgsnPtr} {nsapi sapi ti : ℕ} {tx rabTx : Bool}
    (hnew : s.pdpCtxByNsapi mm nsapi = none → nsapi < 5 ∨ 15 < nsapi ∨ g = none) :
    Act PdpCtx.Released s (s.doActPdpReq m mm g nsapi sapi ti takes tx rabTx) := by
  unfold SessState.doActPdpReq
  by_cases hrange : nsapi < 5 ∨ 15 < nsapi
  · rw [if_pos hrange]
    exact .say s trivial
  rw [if_neg hrange]
  cases hfind : s.pdpCtxByNsapi mm nsapi with
  | none =>
    have hg : g = none := by
      rcases hnew hfind with h | h | h
      · exact absurd (.inl h) hrange
      · exact absurd (.inr h) hrange
      · exact h
    rw [hg]
    exact .done s
  | some p =>
    cases hc : s.ctxs p with
    | none =>
      simp only [hc]
      exact .done s
    | some c =>
      simp only [hc]
      by_cases hlib : c.lib = true
      swap
      · rw [if_pos hlib]
        exact .say s trivial
      rw [if_neg (not_not_intro hlib)]
      by_cases hsame : c.sapi = sapi ∧ c.ti = ti
      swap
      · rw [if_neg hsame]
        exact .say s trivial
      rw [if_pos hsame]
      by_cases hiu : mm.ranType = .utranIu ∧ c.state ≠ .crConf
      · rw [if_pos hiu]
        have hmsg : ∀ o ∈ (if mm.ueCtx = true ∧ rabTx = true then [SessOut.rabActivate p] else []),
            o.EndsNothing := by
          split_ifs <;> simp [SessOut.EndsNothing]
        simpa using (Act.done s).saying hmsg
      rw [if_neg hiu]
      cases tx with
      | false => exact .done s
      | true =>
        refine act_setPdp_say h hc ?_ (fun hs ↦ ?_) ?_
        · rfl
        · exact ⟨hs.lib, hs.ggsn, hs.create, hs.delete⟩
        · simp [SessOut.EndsNothing]

/-! ## Making a context -/

/-- A pointer that was not given out is to no context. -/
theorem Linked.ctxs_nextPdp (h : Linked s) : s.ctxs s.nextPdp = none := by
  by_contra hsome
  have hmem := (h.listed s.nextPdp).mpr (Option.isSome_iff_ne_none.mpr hsome)
  exact absurd (h.fresh _ (.inl hmem)) (lt_irrefl _)

theorem Linked.ne_nextPdp (h : Linked s) (hc : s.ctxs q = some c) : q ≠ s.nextPdp := by
  rintro rfl
  rw [h.ctxs_nextPdp] at hc
  simp at hc

theorem Linked.ne_nextPdp_of_mem (h : Linked s) (hm : s.mms m = some mm) (hq : q ∈ mm.pdpList) :
    q ≠ s.nextPdp := by
  obtain ⟨c, hc, -⟩ := h.ofMm m mm q hm hq
  exact h.ne_nextPdp hc

/-- The list of an MM context is as it was, or it is that of the one that gets the new context. -/
theorem mms_alloc_cases (hm : s.mms m = some mm) {n : SessMmPtr} {x : SessMm}
    (hx : Function.update s.mms m
      (some { mm with pdpList := s.nextPdp :: mm.pdpList }) n = some x) :
    ∃ y, s.mms n = some y ∧
      (x.pdpList = y.pdpList ∧ n ≠ m ∨ x.pdpList = s.nextPdp :: y.pdpList ∧ n = m) := by
  by_cases hn : n = m
  · subst hn
    obtain rfl : { mm with pdpList := s.nextPdp :: mm.pdpList } = x := by simpa using hx
    exact ⟨mm, hm, .inr ⟨rfl, rfl⟩⟩
  · exact ⟨x, by simpa [hn] using hx, .inl ⟨rfl, hn⟩⟩

theorem ctxs_alloc_cases {new x : PdpCtx}
    (hx : Function.update s.ctxs s.nextPdp (some new) q = some x) :
    q = s.nextPdp ∧ x = new ∨ s.ctxs q = some x := by
  by_cases hq : q = s.nextPdp
  · subst hq
    exact .inl ⟨rfl, by simpa using hx.symm⟩
  · exact .inr (by simpa [hq] using hx)

/-- A PDP context is made for an MM context. -/
theorem Linked.alloc (h : Linked s) (hm : s.mms m = some mm) {new : PdpCtx}
    (hmm : new.mm = some m) (hlib : new.ggsn.isSome → new.lib = true)
    (hggsn : new.ggsnReleased = false → new.ggsn.isSome) (hcreate : new.createAccepted = false)
    {creates : List PdpPtr} (hcreates : creates = s.creates ∨ creates = s.nextPdp :: s.creates) :
    Linked { (s.setPdp s.nextPdp new).setMm m
      (some { mm with pdpList := s.nextPdp :: mm.pdpList }) with
        pdpList := s.nextPdp :: s.pdpList, nextPdp := s.nextPdp + 1, creates := creates } := by
  refine ⟨?listed, ?nodup, ?mmOf, ?ofMm, ?sound, ?creates, ?fresh⟩
  case listed =>
    intro q
    by_cases hq : q = s.nextPdp
    · subst hq
      simp [SessState.setMm, SessState.setPdp]
    · simpa [SessState.setMm, SessState.setPdp, hq] using h.listed q
  case nodup =>
    intro n x hx
    obtain ⟨y, hy, ⟨hlist, -⟩ | ⟨hlist, -⟩⟩ := mms_alloc_cases hm hx
    · rw [hlist]
      exact h.nodup n y hy
    · rw [hlist]
      exact List.nodup_cons.mpr ⟨fun hmem ↦ h.ne_nextPdp_of_mem hy hmem rfl, h.nodup n y hy⟩
  case mmOf =>
    intro q x n hx hn
    rcases ctxs_alloc_cases hx with ⟨rfl, rfl⟩ | hx
    · obtain rfl := Option.some.inj (hmm.symm.trans hn)
      exact ⟨_, Function.update_self .., List.mem_cons_self⟩
    · obtain ⟨y, hy, hmem⟩ := h.mmOf q x n hx hn
      by_cases hnm : n = m
      · subst hnm
        obtain rfl := Option.some.inj (hm.symm.trans hy)
        exact ⟨_, Function.update_self .., List.mem_cons_of_mem _ hmem⟩
      · exact ⟨y, (Function.update_of_ne hnm _ _).trans hy, hmem⟩
  case ofMm =>
    intro n x q hx hq
    have hold : ∀ y, s.mms n = some y → q ∈ y.pdpList →
        ∃ z, Function.update s.ctxs s.nextPdp (some new) q = some z ∧ z.mm = some n := by
      intro y hy hq
      obtain ⟨z, hz, hzn⟩ := h.ofMm n y q hy hq
      exact ⟨z, (Function.update_of_ne (h.ne_nextPdp hz) _ _).trans hz, hzn⟩
    obtain ⟨y, hy, ⟨hlist, -⟩ | ⟨hlist, rfl⟩⟩ := mms_alloc_cases hm hx
    · rw [hlist] at hq
      exact hold y hy hq
    · rw [hlist] at hq
      rcases List.mem_cons.mp hq with rfl | hq
      · exact ⟨new, Function.update_self .., hmm⟩
      · exact hold y hy hq
  case sound =>
    intro q x hx
    rcases ctxs_alloc_cases hx with ⟨rfl, rfl⟩ | hold
    · refine ⟨hlib, hggsn, fun _ ↦ hcreate, fun hmem ↦ ?_⟩
      exact absurd (h.fresh _ (.inr (.inr hmem))) (lt_irrefl _)
    · have hs := h.sound q x hold
      refine ⟨hs.lib, hs.ggsn, fun hmem ↦ hs.create ?_, hs.delete⟩
      rcases hcreates with rfl | rfl
      · exact hmem
      · exact (List.mem_cons.mp hmem).resolve_left (h.ne_nextPdp hold)
  case creates =>
    rcases hcreates with rfl | rfl
    · exact h.creates
    · refine List.nodup_cons.mpr ⟨fun hmem ↦ ?_, h.creates⟩
      exact absurd (h.fresh _ (.inr (.inl hmem))) (lt_irrefl _)
  case fresh =>
    have hlt : ∀ q, q = s.nextPdp ∨ (q ∈ s.pdpList ∨ q ∈ s.creates ∨ q ∈ s.deletes) →
        q < s.nextPdp + 1 := by
      rintro q (rfl | hq)
      · exact Nat.lt_succ_self _
      · exact (h.fresh q hq).trans (Nat.lt_succ_self _)
    rintro q (hq | hq | hq)
    · exact hlt q ((List.mem_cons.mp hq).imp_right .inl)
    · rcases hcreates with rfl | rfl
      · exact hlt q (.inr (.inr (.inl hq)))
      · exact hlt q ((List.mem_cons.mp hq).imp_right fun hq ↦ .inr (.inl hq))
    · exact hlt q (.inr (.inr (.inr hq)))

theorem Linked.activateGgsn (h : Linked s) (hm : s.mms m = some mm) (g : GgsnPtr)
    (nsapi sapi ti : ℕ) : Linked (s.activateGgsn m mm g nsapi sapi ti takes).1 := by
  rw [SessState.activateGgsn]
  split
  · exact h
  · by_cases htakes : takes s.nextPdp = true
    · simp only [htakes, if_true]
      exact h.alloc hm rfl (fun _ ↦ rfl) (fun _ ↦ rfl) rfl (.inr rfl)
    · simp only [htakes, Bool.false_eq_true, if_false]
      exact h.alloc hm rfl (fun _ ↦ rfl) (fun _ ↦ rfl) rfl (.inl rfl)

/-! ## Answers of the library -/

/-- The library has answered a request. -/
theorem Linked.answer (h : Linked s) {creates deletes : List PdpPtr}
    (hcreates : creates.Sublist s.creates) (hdeletes : deletes.Sublist s.deletes) :
    Linked { s with creates := creates, deletes := deletes } where
  listed := h.listed
  nodup := h.nodup
  mmOf := h.mmOf
  ofMm := h.ofMm
  sound := by
    intro q x hx
    have hs := h.sound q x hx
    exact ⟨hs.lib, hs.ggsn, fun hmem ↦ hs.create (hcreates.subset hmem),
      fun hmem ↦ hs.delete (hdeletes.subset hmem)⟩
  creates := h.creates.sublist hcreates
  fresh := by
    rintro q (hq | hq | hq)
    · exact h.fresh q (.inl hq)
    · exact h.fresh q (.inr (.inl (hcreates.subset hq)))
    · exact h.fresh q (.inr (.inr (hdeletes.subset hq)))

/-- A Create request is sent again. -/
theorem Linked.again (h : Linked s) (hc : s.ctxs p = some c) (hp : p ∉ s.creates)
    (hnew : c.createAccepted = false) : Linked { s with creates := p :: s.creates } where
  listed := h.listed
  nodup := h.nodup
  mmOf := h.mmOf
  ofMm := h.ofMm
  sound := by
    intro q x hx
    have hs := h.sound q x hx
    refine ⟨hs.lib, hs.ggsn, fun hmem ↦ ?_, hs.delete⟩
    rcases List.mem_cons.mp hmem with rfl | hmem
    · obtain rfl := Option.some.inj (hc.symm.trans hx)
      exact hnew
    · exact hs.create hmem
  creates := List.nodup_cons.mpr ⟨hp, h.creates⟩
  fresh := by
    rintro q (hq | hq | hq)
    · exact h.fresh q (.inl hq)
    · rcases List.mem_cons.mp hq with rfl | hq
      · exact h.fresh q (.inl ((h.listed q).mpr (Option.isSome_of_eq_some hc)))
      · exact h.fresh q (.inr (.inl hq))
    · exact h.fresh q (.inr (.inr hq))

theorem act_createPdpRejected (hc : s.ctxs p = some c) (hmm : c'.mm = c.mm)
    (hG : G { c' with state := .none, lib := false }) :
    Act G s (s.createPdpRejected p c') := by
  have hfree : Act G s (s.pdpCtxFree p { c' with state := .none, lib := false }) :=
    .free hc hmm hG
  refine hfree.saying fun o ho ↦ ?_
  -- the only message is the reject, if there still is an MM context
  dsimp only at ho
  split at ho
  · obtain rfl := List.mem_singleton.mp ho
    trivial
  · exact absurd ho List.not_mem_nil

/-- A Delete request was answered. -/
theorem act_deletePdpConf (hc : s.ctxs p = some c) (hG : G c) : Act G s (s.deletePdpConf p) := by
  have hfree : Act G s (s.pdpCtxFree p c) := .free hc rfl hG
  simp only [SessState.deletePdpConf, hc]
  refine hfree.saying fun o ho ↦ ?_
  -- the MS gets an accept only if it has asked for the end
  split at ho
  · split_ifs at ho
    · obtain rfl := List.mem_singleton.mp ho
      trivial
    · exact absurd ho List.not_mem_nil
  · exact absurd ho List.not_mem_nil

/-- A Create request that the GGSN has accepted is rejected: the MM context is gone, or the RAB
Assignment Request fails on the Iu connection that there is. -/
def Rejects (s : SessState) (c : PdpCtx) (rabTx : Bool) : Prop :=
  c.mm = none ∨ ∃ m mm, c.mm = some m ∧ s.mms m = some mm ∧ mm.ranType = .utranIu ∧
    mm.ueCtx = true ∧ ¬ (c.lib = true ∧ rabTx = true)

/-- What the answer that the GGSN has accepted a context does. -/
theorem createPdpAnswered_accepted (takes : Takes) (c' : PdpCtx) (h : Linked s)
    (hc : s.ctxs p = some c) (hmm : c'.mm = c.mm)
    (hs : c'.Sound s p) (lib tx rabTx : Bool) :
    (Rejects s c' rabTx ∧
        s.createPdpAnswered p c' .accepted lib takes tx rabTx = s.createPdpRejected p c') ∨
      (¬ Rejects s c' rabTx ∧
        Act PdpCtx.Released s (s.createPdpAnswered p c' .accepted lib takes tx rabTx)) := by
  rw [SessState.createPdpAnswered.eq_def]
  cases hm : c'.mm with
  | none => exact .inl ⟨.inl hm, rfl⟩
  | some m =>
    obtain ⟨mm, hmem, -⟩ := h.mmOf p c m hc (hmm ▸ hm)
    have hrej : Rejects s c' rabTx ↔
        mm.ranType = .utranIu ∧ mm.ueCtx = true ∧ ¬ (c'.lib = true ∧ rabTx = true) := by
      constructor
      · rintro (hno | ⟨m', mm', hm', hmm', hiu⟩)
        · exact absurd (hm.symm.trans hno) (by simp)
        · obtain rfl := Option.some.inj (hm.symm.trans hm')
          obtain rfl := Option.some.inj (hmem.symm.trans hmm')
          exact hiu
      · exact fun hiu ↦ .inr ⟨m, mm, hm, hmem, hiu⟩
    simp only [hmem]
    cases hran : mm.ranType with
    | geranGb =>
      refine .inr ⟨fun hyes ↦ by simp [hrej, hran] at hyes, ?_⟩
      refine act_write_say hc ?_ ?_ ?_
      · cases tx <;> exact hmm
      · cases tx <;> exact ⟨hs.lib, hs.ggsn, hs.create, hs.delete⟩
      · cases tx <;> simp [PdpCtx.sendActPdpContAcc, SessOut.EndsNothing]
    | utranIu =>
      by_cases hfail : mm.ueCtx = true ∧ ¬ (c'.lib = true ∧ rabTx = true)
      · exact .inl ⟨hrej.mpr ⟨hran, hfail⟩, if_pos hfail⟩
      · refine .inr ⟨fun hyes ↦ hfail (hrej.mp hyes).2, ?_⟩
        simp only [if_neg hfail]
        refine act_write_say hc hmm hs ?_
        split_ifs <;> simp [SessOut.EndsNothing]

/-- What another answer does. -/
theorem createPdpAnswered_of_ne (hc : s.ctxs p = some c) (hs : c.Sound s p)
    (hnew : c.createAccepted = false) {cause : CreateCause} (hcause : cause ≠ .accepted)
    (lib tx rabTx : Bool) :
    Act PdpCtx.Released s (s.createPdpAnswered p c cause lib takes tx rabTx) ∨
      s.createPdpAnswered p c cause lib takes tx rabTx =
        ({ s.setPdp p { c with version1 := false } with creates := p :: s.creates },
          [.createReq p]) := by
  have hrej : Act PdpCtx.Released s (s.createPdpRejected p c) :=
    act_createPdpRejected hc rfl fun hyes ↦ absurd hyes (by simp [hnew])
  rw [SessState.createPdpAnswered.eq_def]
  cases hm : c.mm with
  | none => exact .inl hrej
  | some m =>
    cases cause with
    | accepted => exact absurd rfl hcause
    | rejected => exact .inl hrej
    | timeout =>
      simp only []
      split_ifs
      · exact .inr rfl
      · refine .inl (.write hc ?_ ?_)
        · exact hm.symm
        · exact ⟨hs.lib, hs.ggsn, hs.create, hs.delete⟩
      · exact .inl hrej

/-! ## MM contexts -/

/-- Writing to an MM context that keeps its PDP contexts. -/
theorem Linked.setMm (h : Linked s) {new : SessMm}
    (hnew : new.pdpList = (s.mms m).elim [] (·.pdpList)) :
    Linked (s.setMm m (some new)) := by
  have hmms : ∀ n x, Function.update s.mms m (some new) n = some x →
      x.pdpList = (s.mms n).elim [] (·.pdpList) := by
    intro n x hx
    by_cases hn : n = m
    · subst hn
      obtain rfl : new = x := by simpa using hx
      exact hnew
    · have hx : s.mms n = some x := by simpa [hn] using hx
      rw [hx]
      rfl
  refine ⟨h.listed, ?_, ?_, ?_, ?_, h.creates, h.fresh⟩
  · intro n x hx
    rw [hmms n x hx]
    cases hn : s.mms n with
    | none => exact List.nodup_nil
    | some y => exact h.nodup n y hn
  · intro q x n hx hn
    obtain ⟨y, hy, hmem⟩ := h.mmOf q x n hx hn
    by_cases hnm : n = m
    · subst hnm
      refine ⟨new, Function.update_self .., ?_⟩
      rw [hnew, hy]
      exact hmem
    · exact ⟨y, (Function.update_of_ne hnm _ _).trans hy, hmem⟩
  · intro n x q hx hq
    rw [hmms n x hx] at hq
    cases hn : s.mms n with
    | none => simp [hn] at hq
    | some y => exact h.ofMm n y q hn (by simpa [hn] using hq)
  · intro q x hx
    have hs := h.sound q x hx
    exact ⟨hs.lib, hs.ggsn, hs.create, hs.delete⟩

/-- An MM context that has no PDP context goes away. -/
theorem Linked.dropMm (h : Linked s) (hempty : ∀ x, s.mms m = some x → x.pdpList = []) :
    Linked (s.setMm m none) := by
  have hmms : ∀ n x, Function.update s.mms m none n = some x → s.mms n = some x := by
    intro n x hx
    by_cases hn : n = m
    · simp [hn] at hx
    · simpa [hn] using hx
  refine ⟨h.listed, fun n x hx ↦ h.nodup n x (hmms n x hx), ?_,
    fun n x q hx ↦ h.ofMm n x q (hmms n x hx), ?_, h.creates, h.fresh⟩
  · intro q x n hx hn
    obtain ⟨y, hy, hmem⟩ := h.mmOf q x n hx hn
    have hnm : n ≠ m := by
      rintro rfl
      rw [hempty y hy] at hmem
      cases hmem
    exact ⟨y, (Function.update_of_ne hnm _ _).trans hy, hmem⟩
  · intro q x hx
    have hs := h.sound q x hx
    exact ⟨hs.lib, hs.ggsn, hs.create, hs.delete⟩

/-- A context is detached from its MM context. -/
theorem Linked.detach (h : Linked s) (hc : s.ctxs p = some c) (hnone : c'.mm = none)
    (hs : c'.Sound s p) : Linked ((s.unlinkMm p c).setPdp p c') where
  listed := by
    intro q
    by_cases hq : q = p
    · subst hq
      simpa [SessState.setPdp] using (h.listed q).mpr (Option.isSome_of_eq_some hc)
    · simpa [SessState.setPdp, hq] using h.listed q
  nodup := by
    intro m x hx
    obtain ⟨y, hy, hlist⟩ := unlinkMm_mms h hc rfl hx
    rw [hlist]
    exact (h.nodup m y hy).filter _
  mmOf := by
    intro q x m hx hm
    by_cases hq : q = p
    · subst hq
      obtain rfl : c' = x := by simpa using hx
      exact absurd (hnone.symm.trans hm) (by simp)
    · have hx : s.ctxs q = some x := by simpa [SessState.setPdp, hq] using hx
      obtain ⟨y, hy, hmem⟩ := h.mmOf q x m hx hm
      obtain ⟨z, hz, hlist⟩ := unlinkMm_mms_of_some h hc rfl hy
      exact ⟨z, hz, by rw [hlist]; exact List.mem_filter.mpr ⟨hmem, by simpa using hq⟩⟩
  ofMm := by
    intro m x q hx hq
    obtain ⟨y, hy, hlist⟩ := unlinkMm_mms h hc rfl hx
    rw [hlist] at hq
    obtain ⟨hmem, hqp⟩ := List.mem_filter.mp hq
    obtain ⟨z, hz, hzm⟩ := h.ofMm m y q hy hmem
    exact ⟨z, by simpa [SessState.setPdp, show q ≠ p by simpa using hqp] using hz, hzm⟩
  sound := by
    intro q x hx
    by_cases hq : q = p
    · subst hq
      obtain rfl : c' = x := by simpa using hx
      exact ⟨hs.lib, hs.ggsn, by simpa [SessState.setPdp] using hs.create,
        by simpa [SessState.setPdp] using hs.delete⟩
    · have hx : s.ctxs q = some x := by simpa [SessState.setPdp, hq] using hx
      have hs := h.sound q x hx
      exact ⟨hs.lib, hs.ggsn, by simpa [SessState.setPdp] using hs.create,
        by simpa [SessState.setPdp] using hs.delete⟩
  creates := by simpa [SessState.setPdp] using h.creates
  fresh := by
    intro q hq
    simpa [SessState.setPdp] using h.fresh q (by simpa [SessState.setPdp] using hq)

end OsmoSgsn.Sm
