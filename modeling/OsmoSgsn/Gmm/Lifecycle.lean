import OsmoSgsn.Gmm.Walk

/-!
# Life of a context, step by step

What the parts that authorization and attach call do to the registry: giving up an LLC entity, the
mobility FSMs, the GMM FSM, the change of the radio access and the end of a context. The last two
write the registry in an order in which it is not as it should be in between, so here it is said
what they have done when they return.
-/

namespace OsmoSgsn.Gmm

open EStateM

variable {p : Promises} {s : Sgsn} {id : CtxId} {mm : MmCtx} {e : Entry}

/-! ## LLC entities -/

/-- An LLC entity is given up by the pointer to it. -/
theorem moves_gprsLlgmmUnassign {l : LlmeId} :
    Moves p (gprsLlgmmUnassign l) s (s.view.dropLlme (some l)) := by
  refine .getLlme fun x hx ↦ .getLlme fun _ _ ↦ ?_
  have hfind : s.view.llmes.find? (·.id = l) = some x := hx
  change Registry.mk _ _ _ _ _ _ _ _ _ _ = _
  simp only [Registry.dropLlme, Registry.dropped, hfind]
  congr 1
  by_cases htlli : x.tlli = tlliUnassigned
  · have hall : ∀ y : Llme,
        (if y.id = l then y.assign x.tlli tlliUnassigned else some y) = some y := by
      intro y
      simp [Llme.assign, htlli]
    simp only [hall, List.filterMap_some, if_pos htlli]
    rfl
  · rw [if_neg htlli, ← List.filterMap_eq_filter]
    refine List.filterMap_congr fun y _ ↦ ?_
    by_cases hy : y.id = l
    · simp [Llme.assign, hy, htlli, Option.guard]
    · simp [hy, Option.guard]

/-- An assignment that frees no LLC entity. -/
theorem ids_assign {l : LlmeId} {oldTlli newTlli : BitVec 32}
    (h : ¬ (newTlli = tlliUnassigned ∧ oldTlli ≠ tlliUnassigned)) (llmes : List Llme) :
    (llmes.filterMap fun y ↦ if y.id = l then y.assign oldTlli newTlli else some y).map (·.id) =
      llmes.map (·.id) := by
  have hkeep : ∀ y : Llme, ∃ y', y'.id = y.id ∧
      (if y.id = l then y.assign oldTlli newTlli else some y) = some y' := by
    intro y
    by_cases hy : y.id = l
    · simp only [if_pos hy, Llme.assign]
      split_ifs with h1 h2 h2
      · exact ⟨y, rfl, rfl⟩
      · exact absurd ⟨h1, h2⟩ h
      · exact ⟨{ y with tlli := newTlli, oldTlli := tlliUnassigned }, rfl, rfl⟩
      · exact ⟨{ y with tlli := newTlli, oldTlli := oldTlli }, rfl, rfl⟩
    · exact ⟨y, rfl, if_neg hy⟩
  choose f hid hf using hkeep
  simp only [hf, List.filterMap_eq_map', List.map_map]
  exact List.map_congr_left fun y _ ↦ hid y

/-- An LLC entity gets other TLLIs. It is freed if the new one means that there is none. -/
theorem walks_gprsLlgmmAssign {l : LlmeId} {oldTlli newTlli : BitVec 32}
    (h : p.llme → newTlli ≠ tlliUnassigned ∨ oldTlli = tlliUnassigned) :
    Walks p (gprsLlgmmAssign l oldTlli newTlli) Any s := by
  unfold gprsLlgmmAssign
  refine .quiet .getLlme fun _ s₁ hs₁ ↦ .last (.modify (fun _ ↦ ?_) (.pure trivial))
  by_cases hfree : newTlli = tlliUnassigned ∧ oldTlli ≠ tlliUnassigned
  · have hdrop : s₁.llmes.filterMap (fun y ↦ if y.id = l then y.assign oldTlli newTlli else some y)
        = s₁.llmes.filter (·.id ≠ l) := by
      rw [← List.filterMap_eq_filter]
      refine List.filterMap_congr fun y _ ↦ ?_
      by_cases hy : y.id = l
      · simp [Llme.assign, hy, hfree.1, hfree.2, Option.guard]
      · simp [hy, Option.guard]
    simp only [Sgsn.view, hdrop]
    refine .single (.freeLlme l fun hp ↦ ?_)
    exact absurd (h hp) (by simp [hfree.1, hfree.2])
  · exact .single (.assign (r := s₁.view) _ (ids_assign hfree s₁.llmes))

/-! ## Mobility on Gb -/

/-- Only the detach leads to the idle state. -/
theorem MmGbState.after_eq_idle {st : MmGbState} {ev : MmGbEvent} :
    st.after ev = some .idle ↔ ev = .gprsDetach ∧ st ≠ .idle := by
  cases st <;> cases ev <;> decide

/-- An event other than the detach does not lead to the idle state, and the attach leads out of
it. -/
theorem moves_mmStateGb {ev : MmGbEvent} (hev : ev ≠ .gprsDetach)
    (he : s.view.entry id = some e) :
    ∃ g, (g = .idle → e.mmGb = .idle ∧ ev ≠ .gprsAttach) ∧
      Moves p (mmStateGb id ev) s (s.view.set id { e with mmGb := g }) := by
  cases hst : e.mmGb.after ev with
  | none =>
    refine ⟨e.mmGb, fun hidle ↦ ⟨hidle, ?_⟩, .read he ?_⟩
    · rintro rfl
      simp [hidle, MmGbState.after] at hst
    · rintro mm rfl
      have hnone : mm.mmGb.after ev = none := hst
      rw [hnone]
      exact .done (Registry.set_eq_self he).symm
  | some st =>
    refine ⟨st, ?_, .read he ?_⟩
    · rintro rfl
      exact absurd (MmGbState.after_eq_idle.mp hst).1 hev
    · rintro mm rfl
      have hsome : mm.mmGb.after ev = some st := hst
      have hidle : st ≠ .idle := by
        rintro rfl
        exact hev (MmGbState.after_eq_idle.mp hst).1
      rw [hsome]
      refine .write he (x := { mm.entry with mmGb := st }) ?_ fun s' hs' ↦ ?_
      · intro mm' hmm'
        rw [← hmm']
        rfl
      · rw [if_neg hidle]
        exact .done hs'

/-- Entering the idle state, the LLC entity is given up. -/
theorem moves_stMmIdleOnEnter (he : s.view.entry id = some e) :
    Moves p (stMmIdleOnEnter id) s ((s.view.set id { e with llme := none }).dropLlme e.llme) := by
  refine .write he (x := e) (fun mm hmm ↦ hmm) fun s₁ hs₁ ↦ ?_
  rw [Registry.set_eq_self he] at hs₁
  rw [← hs₁] at he ⊢
  refine .read he fun mm hmm ↦ ?_
  have hl : mm.llme = e.llme := congrArg Entry.llme hmm
  rw [hl]
  cases hel : e.llme with
  | none =>
    have hsame : { e with llme := none } = e := by rw [← hel]
    rw [hsame, Registry.set_eq_self he]
    exact .pure _
  | some l =>
    refine .bind moves_gprsLlgmmUnassign rfl fun _ s₂ hs₂ ↦ ?_
    have he₂ : s₂.view.entry id = some e := by rw [hs₂]; exact he
    refine .last (.write he₂ (x := { e with llme := none }) ?_ fun s₃ hs₃ ↦ .done ?_)
    · intro mm' hmm'
      rw [← hmm']
      rfl
    · rw [hs₃, hs₂]
      rfl

/-- The detach: the LLC entity is given up, unless the state is idle. -/
theorem moves_mmStateGb_detach (he : s.view.entry id = some e) :
    Moves p (mmStateGb id .gprsDetach) s
      (if e.mmGb = .idle then s.view
      else (s.view.set id { e with mmGb := .idle, llme := none }).dropLlme e.llme) := by
  refine .read he fun mm hmm ↦ ?_
  have hgb : mm.mmGb = e.mmGb := congrArg Entry.mmGb hmm
  rw [hgb]
  by_cases hidle : e.mmGb = .idle
  · rw [if_pos hidle, hidle]
    exact .pure _
  · rw [if_neg hidle, MmGbState.after_eq_idle.mpr ⟨rfl, hidle⟩]
    refine .write he (x := { e with mmGb := .idle }) ?_ fun s₁ hs₁ ↦ ?_
    · intro mm' hmm'
      rw [← hmm']
      rfl
    · have he₁ : s₁.view.entry id = some { e with mmGb := .idle } := by
        rw [hs₁, Registry.set_entry_self]
      have hmoves := moves_stMmIdleOnEnter (p := p) he₁
      rwa [hs₁, Registry.set_set] at hmoves

/-! ## Connections -/

theorem byUe_view (s : Sgsn) (ue : UeId) : s.view.byUe ue = sgsnMmCtxByUeCtx s ue := by
  simp only [Registry.byUe, sgsnMmCtxByUeCtx, Sgsn.findMm, Sgsn.view, Option.any_map]
  rfl

/-- The first context on Iu that has a connection loses it when it is freed. -/
theorem moves_sgsnRanapIuFreeUe {ue : UeId} :
    Moves p (sgsnRanapIuFreeUe ue) s (s.view.freeUe ue) := by
  have hrest : ∀ s₁ : Sgsn, Moves p (do
      let _ ← getUe ue
      modify (·.freeUe ue)) s₁ { s₁.view with
        ues := Function.update s₁.view.ues ue false, ueList := s₁.view.ueList.erase ue } := by
    intro s₁
    refine .getUe fun _ _ ↦ ?_
    change (s₁.freeUe ue).view = _
    simp only [Sgsn.view, Sgsn.freeUe, Registry.mk.injEq, and_true, true_and]
    funext u
    by_cases hu : u = ue
    · subst hu
      simp
    · simp [hu]
  refine .get ?_
  rw [Registry.freeUe, byUe_view]
  cases hby : sgsnMmCtxByUeCtx s ue with
  | none => exact .bind (.pure _) rfl fun _ s₁ hs₁ ↦ hs₁ ▸ hrest s₁
  | some owner =>
    have hp := List.find?_some hby
    obtain ⟨mm, hmm, -⟩ := (Option.any_eq_true _ _).mp hp
    have he := view_entry_of_some hmm
    refine .write he (x := { mm.entry with ueCtx := none }) ?_ fun s₁ hs₁ ↦ ?_
    · intro mm' hmm'
      rw [← hmm']
      rfl
    · simp only [Registry.dropUe, he]
      rw [← hs₁]
      exact hrest s₁

/-- A context loses its connection. -/
theorem walks_dropUe {f : MmCtx → MmCtx}
    (hf : ∀ mm, (f mm).entry = { mm.entry with ueCtx := none }) :
    Walks p (modMm id f) (fun _ s' ↦ ∀ e, s.view.entry id = some e →
      s'.view.entry id = some { e with ueCtx := none }) s := by
  refine .last (.modMmStep (fun mm hmm _ ↦ ?_) fun mm hmm ↦ .pure fun e he ↦ ?_)
  · rw [hf mm]
    exact .dropUe (view_entry_of_some hmm)
  · obtain rfl := Option.some.inj ((view_entry_of_some hmm).symm.trans he)
    rw [view_setCtx, Registry.set_entry_self, hf mm]

/-- The entry of a context after a connection is freed. -/
theorem freeUe_entry {r : Registry} {ue : UeId} (he : r.entry id = some e) :
    ∃ u, (r.freeUe ue).entry id = some { e with ueCtx := u } := by
  unfold Registry.freeUe
  cases r.byUe ue with
  | none => exact ⟨e.ueCtx, he⟩
  | some owner =>
    rcases r.dropUe_eq owner with ⟨-, heq⟩ | ⟨x, hx, heq⟩
    · exact ⟨e.ueCtx, by simpa [heq] using he⟩
    · by_cases ho : id = owner
      · subst ho
        obtain rfl := Option.some.inj (hx.symm.trans he)
        exact ⟨none, by simp [heq]⟩
      · exact ⟨e.ueCtx, by simpa [heq, Registry.set, ho] using he⟩

/-- All that a context loses is its connection. -/
def LosesUe (id : CtxId) (s s' : Sgsn) : Prop :=
  ∀ e, s.view.entry id = some e → ∃ u, s'.view.entry id = some { e with ueCtx := u }

theorem walks_sgsnMmCtxIuRanapFree :
    Walks p (sgsnMmCtxIuRanapFree id) (fun _ s' ↦ LosesUe id s s') s := by
  refine .getMm fun mm hmm ↦ ?_
  split
  · exact .pure fun e he ↦ ⟨e.ueCtx, he⟩
  · rename_i ue _
    refine .moves moves_sgsnRanapIuFreeUe (fun _ ↦ .single (.freeUe ue)) fun _ s₁ hs₁ ↦ ?_
    refine (walks_dropUe fun _ ↦ rfl).mono fun _ s₂ hs₂ e he ↦ ?_
    obtain ⟨u, hu⟩ : ∃ u, (s.view.freeUe ue).entry id = some { e with ueCtx := u } :=
      freeUe_entry he
    rw [← hs₁] at hu
    exact ⟨none, hs₂ { e with ueCtx := u } hu⟩

/-- The connection is released, and the context has none. -/
theorem moves_sgsnMmCtxIuRanapReleaseFree (he : s.view.entry id = some e) :
    Moves p (sgsnMmCtxIuRanapReleaseFree id) s (s.view.set id { e with ueCtx := none }) := by
  refine .read he fun mm hmm ↦ ?_
  have hue : mm.ueCtx = e.ueCtx := congrArg Entry.ueCtx hmm
  rw [hue]
  cases heu : e.ueCtx with
  | none =>
    have hsame : { e with ueCtx := none } = e := by rw [← heu]
    rw [hsame, Registry.set_eq_self he]
    exact .pure _
  | some ue =>
    refine .bind (quiet_sgsnRanapIuTxReleaseFree p s) rfl fun _ s₁ hs₁ ↦ ?_
    rw [← hs₁] at he ⊢
    refine .last (.write he ?_ fun s₂ hs₂ ↦ .done hs₂)
    intro mm' hmm'
    rw [← hmm']
    rfl

/-! ## Mobility on Iu -/

/-- The bearers are asked for on Iu only. -/
theorem moves_sgsnPdpCtxIuRabActivate {pdp : PdpCtx} (he : s.view.entry id = some e)
    (hiu : p.ran → e.ranType = .utranIu) :
    Moves p (sgsnPdpCtxIuRabActivate id pdp) s s.view := by
  refine .read he fun mm hmm ↦ ?_
  have hran : mm.ranType = e.ranType := congrArg Entry.ranType hmm
  split
  · rename_i hne
    exact ⟨fun _ hp ↦ hne (hran.trans (hiu hp)), fun _ h ↦ h⟩
  · split
    · exact .pure _
    · split
      · exact quiet_iuUeTx p s
      · exact .pure _

theorem moves_activateRabs (he : s.view.entry id = some e) (hiu : p.ran → e.ranType = .utranIu)
    (pdps : List PdpCtx) : Moves p (activateRabs id pdps) s s.view := by
  induction pdps generalizing s with
  | nil => exact .pure _
  | cons pdp pdps ih =>
    have hone : Moves p (if pdp.lib then sgsnPdpCtxIuRabActivate id pdp else pure true) s
        s.view := by
      split
      · exact moves_sgsnPdpCtxIuRabActivate he hiu
      · exact .pure _
    refine .bind hone rfl fun _ s₁ hs₁ ↦ ?_
    rw [← hs₁] at he ⊢
    exact ih he

theorem moves_sgsnMmCtxIuActivateRabs (he : s.view.entry id = some e)
    (hiu : p.ran → e.ranType = .utranIu) :
    Moves p (sgsnMmCtxIuActivateRabs id) s s.view := by
  refine .read he fun mm hmm ↦ ?_
  have hran : mm.ranType = e.ranType := congrArg Entry.ranType hmm
  split
  · rename_i hne
    exact ⟨fun _ hp ↦ hne (hran.trans (hiu hp)), fun _ h ↦ h⟩
  · split
    · exact moves_activateRabs he hiu _
    · exact .pure _

/-- The detach: a connection that is in use is released. -/
theorem moves_mmStateIu_psDetach (he : s.view.entry id = some e) :
    Moves p (mmStateIu id .psDetach) s (s.view.set id { e with
      pmm := .detached, ueCtx := if e.pmm = .connected then none else e.ueCtx }) := by
  refine .read he fun mm hmm ↦ ?_
  have hpmm : mm.pmm = e.pmm := congrArg Entry.pmm hmm
  rw [hpmm]
  cases hst : e.pmm with
  | detached =>
    have hsame : { e with pmm := .detached, ueCtx := e.ueCtx } = e := by rw [← hst]
    simp only [reduceCtorEq, if_false, hsame]
    exact .done (Registry.set_eq_self he).symm
  | connected =>
    simp only [if_true]
    refine .bind (moves_sgsnMmCtxIuRanapReleaseFree he) rfl fun _ s₁ hs₁ ↦ ?_
    have he₁ : s₁.view.entry id = some { e with ueCtx := none } := by
      rw [hs₁, Registry.set_entry_self]
    refine .last (.write he₁ (x := { e with pmm := .detached, ueCtx := none }) ?_
      fun s₂ hs₂ ↦ .done ?_)
    · intro mm' hmm'
      change { mm'.entry with pmm := .detached } = _
      rw [hmm']
    · rw [hs₂, hs₁, Registry.set_set]
  | idle =>
    simp only [reduceCtorEq, if_false]
    refine .last (.write he ?_ fun s₁ hs₁ ↦ .done hs₁)
    intro mm' hmm'
    rw [← hmm']
    rfl

/-- The state is left for the connected one, where the event is for that. -/
theorem moves_mmStateIu_connect {ev : PmmEvent}
    (hev : ev = .psAttach ∨ ev = .psConnEstablish ∨ ev = .raUpdate)
    (he : s.view.entry id = some e) (hiu : p.ran → e.pmm = .idle → e.ranType = .utranIu) :
    Moves p (mmStateIu id ev) s (s.view.set id { e with
      pmm := if e.pmm = .detached ∧ ev ≠ .psAttach then .detached else .connected }) := by
  refine .read he fun mm hmm ↦ ?_
  have hpmm : mm.pmm = e.pmm := congrArg Entry.pmm hmm
  rw [hpmm]
  have hwrite : ∀ {pmm : PmmState} (mm' : MmCtx), mm'.entry = e →
      { mm' with pmm := pmm }.entry = { e with pmm := pmm } := by
    intro pmm mm' hmm'
    rw [← hmm']
    rfl
  have hidle : e.pmm = .idle → Moves p (do
      modMm id fun mm ↦ { mm with pmm := .connected }
      sgsnMmCtxIuActivateRabs id) s (s.view.set id { e with pmm := .connected }) := by
    intro hst
    refine .write he hwrite fun s₁ hs₁ ↦ ?_
    have he₁ : s₁.view.entry id = some { e with pmm := .connected } := by
      rw [hs₁, Registry.set_entry_self]
    rw [← hs₁]
    exact moves_sgsnMmCtxIuActivateRabs he₁ fun hp ↦ hiu hp hst
  have hstay : ∀ {pmm : PmmState}, e.pmm = pmm →
      Moves p (pure ()) s (s.view.set id { e with pmm := pmm }) := by
    rintro pmm rfl
    exact .done (Registry.set_eq_self he).symm
  cases hst : e.pmm with
  | detached =>
    rcases hev with rfl | rfl | rfl
    · simp only [ne_eq, not_true, and_false, if_false]
      exact .last (.write he hwrite fun s₁ hs₁ ↦ .done hs₁)
    · exact hstay hst
    · exact hstay hst
  | connected =>
    simp only [reduceCtorEq, false_and, if_false]
    rcases hev with rfl | rfl | rfl <;> exact hstay hst
  | idle =>
    simp only [reduceCtorEq, false_and, if_false]
    rcases hev with rfl | rfl | rfl <;> exact hidle hst

/-! ## The GMM FSM -/

/-- The state after an event. -/
def GmmState.after (st : GmmState) (ev : GmmEvent) : GmmState :=
  match st.request ev with
  | some next => if st.mayLeaveFor next then next else st
  | none => st

/-- The one change that is asked for and not allowed. -/
theorem GmmState.request_allowed {st next : GmmState} {ev : GmmEvent}
    (h : st.request ev = some next) (hev : ¬ (st = .deregistered ∧ ev = .attachSuccess)) :
    st.mayLeaveFor next = true := by
  cases st <;> cases ev <;> simp_all [GmmState.request] <;> subst h <;> rfl

theorem view_observe (s : Sgsn) (o : Obs) :
    (s.observe o).view = { s.view with denied := o.denied || s.view.denied } := by
  simp [Sgsn.view, Sgsn.observe]

theorem moves_gmmFsmStateChg {next : GmmState} (he : s.view.entry id = some e)
    (h : e.gmm.mayLeaveFor next = true) :
    Moves p (gmmFsmStateChg id next) s (s.view.set id { e with gmm := next }) := by
  refine .read he fun mm hmm ↦ ?_
  have hgmm : mm.gmm = e.gmm := congrArg Entry.gmm hmm
  refine .bind (v := s.view) (quiet_observe (by simp [Obs.denied, hgmm, h]) p s) rfl
    fun _ s₁ hs₁ ↦ ?_
  rw [hgmm, if_pos h]
  rw [← hs₁] at he ⊢
  refine .write he (x := { e with gmm := next }) ?_ fun s₂ hs₂ ↦ ?_
  · intro mm' hmm'
    rw [← hmm']
    rfl
  · rw [← hs₂]
    split
    · exact quiet_observe rfl p s₂
    · exact .pure _

theorem moves_gmmFsm (ev : GmmEvent) (he : s.view.entry id = some e)
    (hev : ¬ (e.gmm = .deregistered ∧ ev = .attachSuccess)) :
    Moves p (gmmFsm id ev) s (s.view.set id { e with gmm := e.gmm.after ev }) := by
  refine .read he fun mm hmm ↦ ?_
  have hgmm : mm.gmm = e.gmm := congrArg Entry.gmm hmm
  rw [hgmm]
  unfold GmmState.after
  cases hreq : e.gmm.request ev with
  | none => exact .done (Registry.set_eq_self he).symm
  | some next =>
    have hallowed := GmmState.request_allowed hreq hev
    simp only [if_pos hallowed]
    exact moves_gmmFsmStateChg he hallowed

/-- Only a procedure that is completed registers a mobile station. -/
theorem GmmState.isRegistered_after {st : GmmState} {ev : GmmEvent}
    (h : (st.after ev).isRegistered = true) :
    st.isRegistered = true ∨
      st = .commonProcInit ∧ (ev = .commonProcSuccess ∨ ev = .attachSuccess) := by
  cases st <;> cases ev <;> revert h <;> decide

/-- An event of the GMM FSM. -/
theorem walks_gmmFsm {ev : GmmEvent}
    (hreach : p.reach → ∀ e, s.view.entry id = some e → e.gmm = .commonProcInit →
      (ev = .commonProcSuccess ∨ ev = .attachSuccess) → e.Reachable)
    (hchange : p.change → ∀ e, s.view.entry id = some e → e.gmm = .deregistered →
      ev ≠ .attachSuccess) :
    Walks p (gmmFsm id ev) (fun _ s' ↦ ∀ e, s.view.entry id = some e →
      s'.view.entry id = some { e with gmm := e.gmm.after ev }) s := by
  cases he : s.view.entry id with
  | none =>
    refine .getMm fun mm hmm ↦ ?_
    exact absurd (view_entry_of_some hmm) (by simp [he])
  | some e =>
    by_cases hden : e.gmm = .deregistered ∧ ev = .attachSuccess
    · obtain ⟨hgmm, rfl⟩ := hden
      have hno : ¬ p.change := fun hp ↦ hchange hp e he hgmm rfl
      refine .getMm fun mm hmm ↦ ?_
      have hme : mm.entry = e := Option.some.inj ((view_entry_of_some hmm).symm.trans he)
      have hmg : mm.gmm = .deregistered := (congrArg Entry.gmm hme).trans hgmm
      rw [hmg]
      refine .getMm fun mm' hmm' ↦ ?_
      obtain rfl : mm = mm' := by simpa [hmm] using hmm'
      rw [hmg]
      refine .modify (fun _ ↦ ?_) (.pure fun e' he' ↦ ?_)
      · rw [view_observe]
        have hstep := Step.request (p := p) (r := s.view) false fun hp ↦ absurd hp hno
        have hor : (!false || s.view.denied) = (s.view.denied || !false) := Bool.or_comm _ _
        refine .single ?_
        simpa [Obs.denied, GmmState.mayLeaveFor, hor] using hstep
      · obtain rfl := Option.some.inj he'
        have hsame : { e with gmm := e.gmm.after .attachSuccess } = e := by
          have hafter : e.gmm.after .attachSuccess = e.gmm := by rw [hgmm]; rfl
          rw [hafter]
        rw [hsame]
        exact he
    · refine .last (.moves (moves_gmmFsm ev he hden) (fun _ ↦ ?_) fun _ s' hs' ↦ .pure ?_)
      · refine .single (.gmm he _ fun hp hreg ↦ ?_)
        rcases GmmState.isRegistered_after hreg with hold | ⟨hgmm, hev⟩
        · exact .inl hold
        · exact .inr (hreach hp e he hgmm hev)
      · intro e' he'
        obtain rfl := Option.some.inj he'
        rw [hs', Registry.set_entry_self]

/-! ## The change of the radio access -/

theorem GmmState.after_cleanup (st : GmmState) : st.after .cleanup = .deregistered := by
  cases st <;> rfl

/-- The end of the change: the new access is noted and the registration is given up. -/
theorem moves_ratChanged (newRanType : SgsnRanType) (he : s.view.entry id = some e) :
    Moves p (do
      modMm id fun mm ↦ { mm with ranType := newRanType }
      gmmFsm id .cleanup) s
      (s.view.set id { e with ranType := newRanType, gmm := .deregistered }) := by
  refine .write he (x := { e with ranType := newRanType }) ?_ fun s₁ hs₁ ↦ ?_
  · intro mm' hmm'
    rw [← hmm']
    rfl
  · have he₁ : s₁.view.entry id = some { e with ranType := newRanType } := by
      rw [hs₁, Registry.set_entry_self]
    have hmoves := moves_gmmFsm (p := p) .cleanup he₁ (by simp)
    rwa [GmmState.after_cleanup, hs₁, Registry.set_set] at hmoves

/-- The beginning of the change: a registration procedure is broken off. -/
theorem moves_ratChanging (he : s.view.entry id = some e) :
    Moves p (if e.gmm = .commonProcInit then gmmFsmStateChg id .deregistered else pure ()) s
      (s.view.set id { e with
        gmm := if e.gmm = .commonProcInit then .deregistered else e.gmm }) := by
  by_cases hgmm : e.gmm = .commonProcInit
  · simp only [if_pos hgmm]
    exact moves_gmmFsmStateChg he (by rw [hgmm]; rfl)
  · simp only [if_neg hgmm]
    exact .done (Registry.set_eq_self he).symm

/-- The context leaves Gb. -/
theorem moves_gmmFsmRatChange_toIu {newRanType : SgsnRanType} {llme : Option LlmeId}
    (he : s.view.entry id = some e) (hgb : e.ranType = .geranGb) :
    Moves p (gmmFsmRatChange id newRanType llme) s (if e.mmGb = .idle then
        s.view.set id { e with ranType := newRanType, gmm := .deregistered }
      else (s.view.set id { e with
        ranType := newRanType, gmm := .deregistered, mmGb := .idle, llme := none }).dropLlme
          e.llme) := by
  refine .read he fun mm hmm ↦ ?_
  obtain ⟨hgmm, hran⟩ : mm.gmm = e.gmm ∧ mm.ranType = .geranGb :=
    ⟨congrArg Entry.gmm hmm, (congrArg Entry.ranType hmm).trans hgb⟩
  rw [hgmm, hran]
  refine .bind (moves_ratChanging he) rfl fun _ s₁ hs₁ ↦ ?_
  have he₁ := hs₁ ▸ Registry.set_entry_self s.view id _
  have hdetach := moves_mmStateGb_detach (p := p) he₁
  by_cases hidle : e.mmGb = .idle
  · rw [if_pos hidle] at hdetach ⊢
    refine .bind hdetach rfl fun _ s₂ hs₂ ↦ ?_
    rw [hs₁] at hs₂
    have hmoves := moves_ratChanged (p := p) newRanType
      (hs₂ ▸ Registry.set_entry_self s.view id _)
    rwa [hs₂, Registry.set_set] at hmoves
  · rw [if_neg hidle] at hdetach ⊢
    refine .bind hdetach rfl fun _ s₂ hs₂ ↦ ?_
    rw [hs₁, Registry.set_set] at hs₂
    have he₂ : s₂.view.entry id = some { e with
        gmm := if e.gmm = .commonProcInit then .deregistered else e.gmm
        mmGb := .idle, llme := none } := by
      rw [hs₂]
      exact Registry.set_entry_self s.view id _
    have hmoves := moves_ratChanged (p := p) newRanType he₂
    rw [hs₂] at hmoves
    simpa only [Registry.dropLlme, Registry.set, Function.update_idem] using hmoves

/-- The context leaves Iu. -/
theorem moves_gmmFsmRatChange_toGb {newRanType : SgsnRanType} {llme : Option LlmeId}
    (he : s.view.entry id = some e) (hiu : e.ranType = .utranIu) :
    Moves p (gmmFsmRatChange id newRanType llme) s (s.view.set id { e with
      ranType := newRanType, gmm := .deregistered, llme := llme, pmm := .detached
      ueCtx := if e.pmm = .connected then none else e.ueCtx }) := by
  refine .read he fun mm hmm ↦ ?_
  obtain ⟨hgmm, hran⟩ : mm.gmm = e.gmm ∧ mm.ranType = .utranIu :=
    ⟨congrArg Entry.gmm hmm, (congrArg Entry.ranType hmm).trans hiu⟩
  rw [hgmm, hran]
  refine .bind (moves_ratChanging he) rfl fun _ s₁ hs₁ ↦ ?_
  have he₁ := hs₁ ▸ Registry.set_entry_self s.view id _
  have hdetach : Moves p (do
      mmStateIu id .psDetach
      modMm id fun mm ↦ { mm with llme := llme }) s₁ (s.view.set id { e with
        gmm := if e.gmm = .commonProcInit then .deregistered else e.gmm, llme := llme
        pmm := .detached, ueCtx := if e.pmm = .connected then none else e.ueCtx }) := by
    refine .bind (moves_mmStateIu_psDetach he₁) rfl fun _ s₂ hs₂ ↦ ?_
    have he₂ := hs₂ ▸ Registry.set_entry_self s₁.view id _
    refine .last (.write he₂ (x := { e with
        gmm := if e.gmm = .commonProcInit then .deregistered else e.gmm, llme := llme
        pmm := .detached, ueCtx := if e.pmm = .connected then none else e.ueCtx }) ?_
      fun s₃ hs₃ ↦ .done ?_)
    · intro mm' hmm'
      change { mm'.entry with llme := llme } = _
      rw [hmm']
    · rw [hs₃, hs₂, hs₁, Registry.set_set, Registry.set_set]
  refine .bind hdetach (by rw [hs₁]; rfl) fun _ s₂ hs₂ ↦ ?_
  have hmoves := moves_ratChanged (p := p) newRanType
      (hs₂ ▸ Registry.set_entry_self s.view id _)
  rwa [hs₂, Registry.set_set] at hmoves

/-! ## The end of a context -/

theorem view_freed (s : Sgsn) (id : CtxId) :
    (s.freeCtx id).view = { s.view with entry := Function.update s.view.entry id none } := by
  simp only [Sgsn.view, Sgsn.freeCtx, Registry.mk.injEq, and_true, true_and]
  funext j
  by_cases hj : j = id
  · subst hj
    simp
  · simp [hj]

/-- The context is freed. Its LLC entity must be gone by then on Iu. -/
theorem moves_sgsnMmCtxCleanupFree (he : s.view.entry id = some e)
    (hran : p.ran → e.ranType = .utranIu → e.llme = none) :
    Moves p (sgsnMmCtxCleanupFree id) s (s.view.free id e) := by
  refine .goes goes_modify ?_
  rintro - - rfl
  refine ⟨rfl, ?_⟩
  have he₀ : (s.unlinkCtx id).view.entry id = some e := he
  refine .read he₀ fun mm hmm ↦ ?_
  obtain ⟨hmr, hml⟩ : mm.ranType = e.ranType ∧ mm.llme = e.llme :=
    ⟨congrArg Entry.ranType hmm, congrArg Entry.llme hmm⟩
  rw [hmr, hml]
  refine .bind (v := (s.unlinkCtx id).view) ?_ rfl fun _ s₁ hs₁ ↦ ?_
  · split
    · rename_i hbad
      refine ⟨fun _ hp ↦ hbad.2 (hran hp ?_), fun _ h ↦ h⟩
      cases hr : e.ranType with
      | utranIu => rfl
      | geranGb => exact absurd hr hbad.1
    · exact .pure _
  have he₁ : s₁.view.entry id = some e := by rw [hs₁]; exact he
  refine .write he₁ (x := { e with session := false }) ?_ fun s₂ hs₂ ↦ ?_
  · intro mm' hmm'
    rw [← hmm']
    rfl
  refine .bind (v := s₂.view) ?_ rfl fun _ s₃ hs₃ ↦ ?_
  · split
    · exact .pure _
    · exact (quiet_modSubscr.bind fun _ ↦ quiet_gprsSubscrCleanup.bind fun _ ↦
        quiet_gprsSubscrPut) p s₂
  refine .goes goes_modify ?_
  rintro - - rfl
  refine ⟨rfl, ?_⟩
  have hview : (s₃.freeCtx id).view = { s.view with
      entry := Function.update s.view.entry id none
      mmList := s.view.mmList.erase id, tables := s.view.tables.hashRemove id } := by
    rw [view_freed, hs₃, hs₂, hs₁]
    simp only [Registry.set, Function.update_idem]
    rfl
  cases hel : e.llme with
  | none =>
    refine .done ?_
    rw [hview, Registry.free, hel]
    rfl
  | some l =>
    have hmoves := moves_gprsLlgmmUnassign (p := p) (s := s₃.freeCtx id) (l := l)
    rw [hview] at hmoves
    rw [Registry.free, hel]
    exact hmoves

/-- The end of a context, after its procedures are broken off. -/
theorem moves_gprsGmmMmCtxCleanupFree (he : s.view.entry id = some e)
    (hran : p.ran → e.FitsRan) :
    Moves p (gprsGmmMmCtxCleanupFree id) s (s.view.free id e) := by
  refine .bind (moves_gmmFsm .cleanup he (by simp)) rfl fun _ s₁ hs₁ ↦ ?_
  rw [GmmState.after_cleanup] at hs₁
  have he₁ : s₁.view.entry id = some { e with gmm := .deregistered } := by
    rw [hs₁, Registry.set_entry_self]
  refine .read he₁ fun mm hmm ↦ ?_
  have hmr : mm.ranType = e.ranType := congrArg Entry.ranType hmm
  rw [hmr]
  cases hr : e.ranType with
  | utranIu =>
    have hnone : p.ran → e.llme = none := fun hp ↦ by
      have hfits := hran hp
      rwa [Entry.FitsRan, hr] at hfits
    refine .bind (moves_mmStateIu_psDetach he₁) rfl fun _ s₂ hs₂ ↦ ?_
    have he₂ := hs₂ ▸ Registry.set_entry_self s₁.view id _
    have hmoves := moves_sgsnMmCtxCleanupFree he₂ fun hp _ ↦ hnone hp
    rw [hs₂, hs₁] at hmoves
    simpa only [Registry.free, Registry.set, Function.update_idem] using hmoves
  | geranGb =>
    have hdetach := moves_mmStateGb_detach (p := p) he₁
    have hgb : ∀ {e' : Entry}, e'.ranType = e.ranType →
        p.ran → e'.ranType = .utranIu → e'.llme = none := by
      intro e' hre _ hiu
      exact absurd (hiu.symm.trans (hre.trans hr)) (by simp)
    by_cases hidle : e.mmGb = .idle
    · rw [if_pos hidle] at hdetach
      refine .bind hdetach rfl fun _ s₂ hs₂ ↦ ?_
      have he₂ : s₂.view.entry id = some { e with gmm := .deregistered } := by rw [hs₂, he₁]
      have hmoves := moves_sgsnMmCtxCleanupFree he₂ (hgb rfl)
      rw [hs₂, hs₁] at hmoves
      simpa only [Registry.free, Registry.set, Function.update_idem] using hmoves
    · rw [if_neg hidle] at hdetach
      refine .bind hdetach rfl fun _ s₂ hs₂ ↦ ?_
      have he₂ : s₂.view.entry id =
          some { e with gmm := .deregistered, mmGb := .idle, llme := none } := by
        rw [hs₂]
        exact Registry.set_entry_self s₁.view id _
      have hmoves := moves_sgsnMmCtxCleanupFree he₂ (hgb rfl)
      rw [hs₂, hs₁] at hmoves
      simpa only [Registry.free, Registry.set, Registry.dropLlme, Registry.dropped,
        Function.update_idem] using hmoves

theorem walks_gprsGmmMmCtxCleanupFree : Walks p (gprsGmmMmCtxCleanupFree id) Any s := by
  refine .kept fun hk ↦ ?_
  cases he : s.view.entry id with
  | none =>
    refine .bind (Q := fun _ _ ↦ False) (.getMm fun mm hmm ↦ ?_) fun _ _ hf ↦ hf.elim
    exact absurd (view_entry_of_some hmm) (by simp [he])
  | some e =>
    exact .of_moves (moves_gprsGmmMmCtxCleanupFree he fun hp ↦ hk.ran hp id e he) fun _ ↦
      .single (.free he)

end OsmoSgsn.Gmm
