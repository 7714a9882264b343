import OsmoSgsn.Gmm.Follows

/-!
# Keys, TLLIs and completions

A rehash follows each write of a key, so between two states that the rules relate there are two
writes. Here are the programs that do so, for the requests and the completions of a mobile station:
a P-TMSI is allocated that nobody has, a TLLI is made from it, and the old ones are forgotten.

The completions also let the mobile station in: the registration and what makes it reachable come
in the wrong order, and only the state behind both of them is one that the rules lead to.
-/

namespace OsmoSgsn.Gmm

open EStateM

variable {p : Promises} {α β : Type} {s s' : Sgsn} {r r' : Registry} {id : CtxId} {e : Entry}
  {ue : UeId} {l : LlmeId}

/-! ## What a context may come to point to -/

namespace Registry

/-- Nobody but a context is written to. -/
structure Beside (id : CtxId) (r r' : Registry) : Prop where
  entry : ∀ j, j ≠ id → r'.entry j = r.entry j
  llmes : r.liveLlmes ⊆ r'.liveLlmes
  ues : r'.ues = r.ues

theorem Beside.refl (id : CtxId) (r : Registry) : r.Beside id r := ⟨fun _ _ ↦ rfl, fun _ h ↦ h, rfl⟩

theorem Beside.trans {r'' : Registry} (h : r.Beside id r') (h' : r'.Beside id r'') :
    r.Beside id r'' :=
  ⟨fun j hj ↦ (h'.entry j hj).trans (h.entry j hj), fun _ hl ↦ h'.llmes (h.llmes hl),
    h'.ues.trans h.ues⟩

theorem Beside.set (r : Registry) (id : CtxId) (e : Entry) : r.Beside id (r.set id e) :=
  ⟨fun _ hj ↦ Function.update_of_ne hj .., fun _ h ↦ h, rfl⟩

theorem LlmeFor.beside (h : r.LlmeFor id l) (hb : r.Beside id r') : r'.LlmeFor id l :=
  ⟨hb.llmes h.1, fun j e he hj ↦ h.2 j e ((hb.entry j hj) ▸ he) hj⟩

theorem UeFor.beside (h : r.UeFor id ue) (hb : r.Beside id r') : r'.UeFor id ue :=
  ⟨hb.ues ▸ h.1, fun j e he hj ↦ h.2 j e ((hb.entry j hj) ▸ he) hj⟩

theorem ImsiFor.beside {imsi : Digits} (h : r.ImsiFor id imsi) (hb : r.Beside id r') :
    r'.ImsiFor id imsi :=
  fun j e he hj ↦ h j e ((hb.entry j hj) ▸ he) hj

end Registry

/-! ## Keys -/

/-- The writes of a rehash. -/
def rehash (id : CtxId) (g : MmTables → MmCtx → MmTables) : SgsnM Unit := do
  let mm ← getMm id
  modify fun s ↦ { s with tables := g s.tables mm }

section Rekey

variable {g : MmTables → MmCtx → MmTables} {f : MmCtx → MmCtx}

/-- A context is written to and then rehashed. -/
theorem goes_rekey : Goes (modMm id f >>= fun _ ↦ rehash id g) (fun _ s' ↦ ∃ mm,
    s.ctxs id = some mm ∧ s'.view = { s.view.set id (f mm).entry with
      tables := g s.tables (f mm) }) s := by
  unfold Goes
  refine wp_bind.mpr (wp_mono goes_modMm ?_ fun _ _ h ↦ h)
  rintro - - ⟨mm, hmm, rfl⟩
  have hmm' : (s.setCtx id (f mm)).ctxs id = some (f mm) := Function.update_self ..
  unfold rehash
  rw [wp_bind, wp_getMm hmm', wp_modify]
  refine ⟨mm, hmm, ?_⟩
  rw [← view_setCtx]
  rfl

theorem Walks.rekeys {k : Unit → SgsnM β} {Q : β → Sgsn → Prop}
    (hsteps : ∀ mm, s.ctxs id = some mm →
      Steps p s.view { s.view.set id (f mm).entry with tables := g s.tables (f mm) })
    (hk : ∀ mm s', s.ctxs id = some mm →
      s'.view = { s.view.set id (f mm).entry with tables := g s.tables (f mm) } →
        Walks p (k ()) Q s') :
    Walks p (Gmm.modMm id f >>= fun _ ↦ rehash id g >>= k) Q s := by
  rw [← bind_assoc]
  refine .goes goes_rekey fun _ s' h ↦ ?_
  obtain ⟨mm, hmm, hview⟩ := h
  exact ⟨fun _ ↦ hview ▸ hsteps mm hmm, hk mm s' hmm hview⟩

theorem Walks.rekey {k : Unit → SgsnM β} {Q : β → Sgsn → Prop}
    (hstep : ∀ mm, s.ctxs id = some mm →
      Step p s.view { s.view.set id (f mm).entry with tables := g s.tables (f mm) })
    (hk : ∀ mm s', s.ctxs id = some mm →
      s'.view = { s.view.set id (f mm).entry with tables := g s.tables (f mm) } →
        Walks p (k ()) Q s') :
    Walks p (Gmm.modMm id f >>= fun _ ↦ rehash id g >>= k) Q s :=
  .rekeys (fun mm hmm ↦ .single (hstep mm hmm)) hk

theorem Moves.rekey {x : Entry} {tables : MmTables} (he : s.view.entry id = some e)
    (hf : ∀ mm : MmCtx, mm.entry = e → (f mm).entry = x ∧ g s.tables (f mm) = tables) :
    Moves p (Gmm.modMm id f >>= fun _ ↦ rehash id g) s
      { s.view.set id x with tables := tables } := by
  refine wp_mono goes_rekey ?_ ?_
  · rintro - s' ⟨mm, hmm, hview⟩
    obtain ⟨hx, ht⟩ := hf mm (Option.some.inj ((view_entry_of_some hmm).symm.trans he))
    rw [hview, hx, ht]
  · rintro fault s' ⟨hfault, rfl⟩
    exact .of_ne hfault

end Rekey

/-! ## P-TMSIs and TLLIs -/

theorem localTlli_localTlli (t : BitVec 32) : localTlli (localTlli t) = localTlli t := by
  rw [localTlli, localTlli, BitVec.or_assoc, BitVec.or_self]

theorem localTlli_ne_zero (t : BitVec 32) : localTlli t ≠ 0 := by
  intro h
  have hbit := congrArg (·.getLsbD 31) h
  simp [localTlli] at hbit

/-- A P-TMSI by which no context is found is that of none. -/
theorem ptmsiFor_of_none (h : Indexed s.view) {pTmsi : BitVec 32} (h0 : pTmsi ≠ 0)
    (h1 : pTmsi ≠ gsmReservedTmsi) (hf : sgsnMmCtxByPtmsi s pTmsi = none) (id : CtxId) :
    s.view.PtmsiFor id pTmsi := by
  have hnone := hf ▸ finds_ptmsi h pTmsi
  intro j e he _
  obtain ⟨mm, hmm, rfl⟩ := Option.map_eq_some_iff.mp he
  have hnot : ¬ _ := fun hP ↦ hnone j ⟨mem_mmList h hmm, mm, hmm, hP⟩
  rw [not_or] at hnot
  exact ⟨fun heq ↦ hnot.1 ⟨heq, h0, h1⟩, fun heq ↦ hnot.2 ⟨heq, h0⟩⟩

/-- An IMSI by which no context is found is that of none. -/
theorem imsiFor_of_none (h : Indexed s.view) {imsi : Digits} (hi : imsi ≠ [])
    (hf : sgsnMmCtxByImsi s imsi = none) (id : CtxId) : s.view.ImsiFor id imsi := by
  have hnone := hf ▸ finds_imsi h hi
  intro j e he _ heq
  obtain ⟨mm, hmm, rfl⟩ := Option.map_eq_some_iff.mp he
  exact hnone j ⟨mem_mmList h hmm, mm, hmm, heq⟩

/-- A P-TMSI that is allocated is one that may be given to any context. -/
def Fresh (r : Registry) (t : BitVec 32) : Prop :=
  t ≠ gsmReservedTmsi → t ≠ 0 ∧ localTlli t = t ∧ ∀ id, r.PtmsiFor id t

theorem walks_sgsnAllocPtmsi (tries : ℕ) :
    Walks p (sgsnAllocPtmsi tries) (fun t s' ↦ s'.view = s.view ∧ Fresh s.view t) s := by
  induction tries generalizing s with
  | zero => exact .pure ⟨rfl, fun h ↦ absurd rfl h⟩
  | succ tries ih =>
    refine .quiet quiet_osmoGetRandId fun rand s₁ hs₁ ↦ ?_
    rw [← hs₁]
    cases rand with
    | none => exact .pure ⟨rfl, fun h ↦ absurd rfl h⟩
    | some rand =>
      refine .kept fun hkept ↦ .get ?_
      split
      · exact ih
      · rename_i hgood
        simp only [not_or, ne_eq, not_not] at hgood
        refine .pure ⟨rfl, fun h1 ↦ ⟨localTlli_ne_zero _, localTlli_localTlli _, ?_⟩⟩
        exact ptmsiFor_of_none hkept.indexed (localTlli_ne_zero _) h1 hgood.2.2

section Loose

variable [Loose p]

instance : Follows p (ptmsiUpdate id) := by
  have hgive : Follows p (do
      let ptmsi ← sgsnAllocPtmsi 101
      if ptmsi ≠ gsmReservedTmsi then
        modMm id fun mm ↦ { mm with
          pTmsiOld := mm.pTmsi, pTmsi := ptmsi, ptmsiHistory := ptmsi :: mm.ptmsiHistory }
        sgsnMmCtxRehashPtmsi id) := by
    refine ⟨fun s ↦ .bind (walks_sgsnAllocPtmsi 101) fun t s₁ h ↦ ?_⟩
    obtain ⟨hs₁, hfresh⟩ := h
    split
    · rename_i hres
      obtain ⟨h0, hlocal, hfor⟩ := hfresh hres
      rw [← hs₁] at hfor
      refine .last ?_
      rw [bind_assoc]
      refine .rekey (g := fun t mm ↦ t.rehashPtmsi id mm.pTmsi mm.pTmsiOld) (fun mm hmm ↦ ?_)
        fun _ _ _ _ ↦ .pure trivial
      exact .givePtmsi (view_entry_of_some hmm) t h0 hres hlocal (hfor id)
    · exact .pure trivial
  unfold ptmsiUpdate
  exact .bind fun mm ↦ inferInstance

/-- The LLC entity of a context gets the TLLI that is made from its P-TMSI. -/
instance : Follows p (assignTlliNew id) := by
  refine ⟨fun s ↦ .getMm fun mm hmm ↦ ?_⟩
  cases mm.ranType with
  | utranIu => exact .pure trivial
  | geranGb =>
    refine .rekey (g := fun t mm ↦ t.rehashTlli id mm.tlli mm.tlliNew) (fun mm hmm ↦ ?_)
      fun mm s₁ hmm hs₁ ↦ ?_
    · exact .tlli (view_entry_of_some hmm) mm.tlli (localTlli mm.pTmsi)
    · refine .kept fun hkept ↦ .getMm fun mm₁ hmm₁ ↦ .quiet quiet_useLlme fun l s₂ hs₂ ↦ ?_
      refine walks_gprsLlgmmAssign fun hp ↦ .inl ?_
      have he₁ := view_entry_of_some hmm₁
      have hset : s₁.view.entry id = some { mm.entry with tlliNew := localTlli mm.pTmsi } := by
        rw [hs₁]
        exact Registry.set_entry_self ..
      have hassign := (hkept.llme hp).2 id _ he₁
      have heq := Option.some.inj (he₁.symm.trans hset)
      have hnew : mm₁.tlliNew = localTlli mm.pTmsi := congrArg Entry.tlliNew heq
      have hpt : mm₁.pTmsi = mm.pTmsi := congrArg Entry.pTmsi heq
      rw [hnew, ← hpt]
      exact hassign

instance : Follows p (takeTlliNew id) := by
  refine ⟨fun s ↦ .last ?_⟩
  unfold takeTlliNew
  rw [bind_assoc]
  exact .rekey (g := fun t mm ↦ t.rehashTlli id mm.tlli mm.tlliNew)
    (fun mm hmm ↦ .tlli (view_entry_of_some hmm) mm.tlliNew mm.tlliNew)
    fun _ _ _ _ ↦ .pure trivial

instance : Follows p (dropTlliOld id) := by
  have (l : LlmeId) (t : BitVec 32) : Follows p (gprsLlgmmAssign l tlliUnassigned t) :=
    ⟨fun _ ↦ walks_gprsLlgmmAssign fun _ ↦ .inr rfl⟩
  unfold dropTlliOld
  infer_instance

instance : Follows p (dropPtmsiOld id) := by
  refine ⟨fun s ↦ .rekey (g := fun t mm ↦ t.rehashPtmsi id mm.pTmsi mm.pTmsiOld)
    (fun mm hmm ↦ .dropPtmsiOld (view_entry_of_some hmm)) fun _ s₁ _ _ ↦ ?_⟩
  exact Follows.walks (m := modMm id fun mm ↦ { mm with pendingReq := .none }) s₁

instance : Follows p (gsm48RxGmmPtmsiReallCompl id) := by
  unfold gsm48RxGmmPtmsiReallCompl
  refine .bind fun _ ↦ .bind fun mm ↦ ?_
  split <;> infer_instance

instance : Follows p (authCiphRejected id) := by
  unfold authCiphRejected
  infer_instance

instance {powerOff : Bool} : Follows p (gsm48RxGmmDetReq id powerOff) := by
  unfold gsm48RxGmmDetReq
  infer_instance

variable {c : Calls} [c.Follow p]

instance {resp : AuthCiphResponse} : Follows p (gsm48RxGmmAuthCiphResp c id resp) := by
  unfold gsm48RxGmmAuthCiphResp
  refine .bind fun mm ↦ ?_
  split
  · infer_instance
  · split
    · infer_instance
    · refine .bind fun _ ↦ ?_
      split
      · refine .bind fun _ ↦ .bind fun mm ↦ ?_
        split
        · refine .andThen (.of_quiet (.modMm fun mm ↦ ?_)) fun _ ↦ inferInstance
          cases hran : mm.ranType <;> simp [MmCtx.entry, hran]
        · infer_instance
      · infer_instance

instance {fail : AuthCiphFailure} : Follows p (gsm48RxGmmAuthCiphFail c id fail) := by
  unfold gsm48RxGmmAuthCiphFail
  split <;> infer_instance

end Loose

/-! ## Completed procedures -/

theorem walks_dropPtmsiOld : Walks p (dropPtmsiOld id) (fun _ s' ↦ ∃ e,
    s.view.entry id = some e ∧ s'.view.entry id = some { e with pTmsiOld := 0 }) s := by
  refine .rekey (g := fun t mm ↦ t.rehashPtmsi id mm.pTmsi mm.pTmsiOld)
    (fun mm hmm ↦ .dropPtmsiOld (view_entry_of_some hmm)) fun mm s₁ hmm hs₁ ↦ .last ?_
  refine .quiet (.modMm fun _ ↦ rfl) fun _ s₂ hs₂ ↦ .pure ⟨mm.entry, view_entry_of_some hmm, ?_⟩
  rw [hs₂, hs₁]
  exact Registry.set_entry_self ..

theorem moves_takeTlliNew (he : s.view.entry id = some e) :
    Moves p (takeTlliNew id) s { s.view.set id { e with tlli := e.tlliNew } with
      tables := s.view.tables.rehashTlli id e.tlliNew e.tlliNew } := by
  refine Moves.rekey (g := fun t mm ↦ t.rehashTlli id mm.tlli mm.tlliNew) he ?_
  rintro mm rfl
  exact ⟨rfl, rfl⟩

/-- The LLC entities have other TLLIs, and are the same. -/
def Relabelled (r r' : Registry) : Prop :=
  ∃ llmes : List Llme, llmes.map (·.id) = r.llmes.map (·.id) ∧ r' = { r with llmes := llmes }

section Completed

variable [Loose p]

/-- An LLC entity that takes one TLLI in place of all others is not freed. -/
theorem wp_dropTlliOld {d : Bool} :
    wp (dropTlliOld id) (fun _ s' ↦ Relabelled s.view s'.view) (Stops p d) s := by
  have hassign (l : LlmeId) (tlli : BitVec 32) (s : Sgsn) :
      wp (gprsLlgmmAssign l tlliUnassigned tlli) (fun _ s' ↦ Relabelled s.view s'.view)
        (Stops p d) s := by
    unfold gprsLlgmmAssign
    refine wp_bind.mpr (wp_mono goes_getLlme ?_ fun _ _ _ ↦ Loose.stops _ _)
    rintro x - ⟨-, rfl⟩
    exact ⟨_, ids_assign (by simp) _, rfl⟩
  unfold dropTlliOld
  refine wp_getMm_bind (Loose.stops _ _) fun mm _ ↦ ?_
  refine wp_bind.mpr (wp_mono (quiet_useLlme p s) (fun l s₁ hs₁ ↦ ?_) fun _ _ _ ↦ Loose.stops _ _)
  rw [← hs₁]
  exact hassign l mm.tlliNew s₁

/-- A registration that is completed by a routing area update: nothing makes the mobile station
reachable that is not. -/
theorem walks_gsm48RxGmmRaUpdCompl (h : p.reach → ∀ e, s.view.entry id = some e →
    e.gmm = .commonProcInit → e.Reachable) : Walks p (gsm48RxGmmRaUpdCompl id) Any s := by
  unfold gsm48RxGmmRaUpdCompl
  refine .bind walks_dropPtmsiOld fun _ s₁ hs₁ ↦ .then (m := gmmFsm id .commonProcSuccess) ?_
    fun _ s₂ ↦ ?_
  · obtain ⟨e, he, he₁⟩ := hs₁
    refine (walks_gmmFsm (fun hp e' he' hgmm _ ↦ ?_) fun hp ↦ absurd hp Loose.change).any
    obtain rfl := Option.some.inj (he₁.symm.trans he')
    exact h hp e he hgmm
  · refine .follows fun mm s₃ ↦ ?_
    split <;> exact Follows.walks s₃

/-- A mobile station that attaches is registered first and made reachable then. Where that is news,
the rules take the second step before the first. -/
theorem walks_attachSuccess_new (he : s.view.entry id = some e) (hgmm : e.gmm = .commonProcInit) :
    Walks p (do
      gmmFsm id .attachSuccess
      match (← getMm id).ranType with
      | .utranIu => mmStateIu id .psAttach
      | .geranGb => do
        takeTlliNew id
        dropTlliOld id
        mmStateGb id .gprsAttach) Any s := by
  intro _
  have hafter : e.gmm.after .attachSuccess = .registeredNormal := by
    rw [hgmm]
    rfl
  have hfsm := moves_gmmFsm (p := p) .attachSuccess he (by simp [hgmm])
  rw [hafter] at hfsm
  refine wp_bind.mpr (wp_mono hfsm (fun _ s₁ hs₁ ↦ ?_) fun _ _ _ ↦ Loose.stops _ _)
  have he₁ := hs₁ ▸ Registry.set_entry_self s.view id _
  refine wp_getMm_bind (Loose.stops _ _) fun mm hmm ↦ ?_
  have hmm₁ : mm.entry = { e with gmm := .registeredNormal } :=
    Option.some.inj ((view_entry_of_some hmm).symm.trans he₁)
  have hran : mm.ranType = e.ranType := congrArg Entry.ranType hmm₁
  rw [hran]
  cases hr : e.ranType with
  | utranIu =>
    have hmoves := moves_mmStateIu_connect (p := p) (.inl rfl) he₁ fun hp ↦ absurd hp Loose.ran
    refine wp_mono hmoves (fun _ s₂ hs₂ ↦ ⟨?_, trivial⟩) fun _ _ _ ↦ Loose.stops _ _
    have hreach : ({ e with pmm := .connected } : Entry).Reachable := by
      simp [Entry.Reachable, hr]
    have hpmm : Step p s.view (s.view.set id { e with pmm := .connected }) :=
      .pmm he .connected (by simp) fun _ _ ↦ hr
    have hreg := Step.gmm (p := p) (Registry.set_entry_self s.view id { e with pmm := .connected })
      .registeredNormal fun _ _ ↦ .inr hreach
    rw [Registry.set_set] at hreg
    rw [hs₂, hs₁, Registry.set_set]
    simpa using (Relation.ReflTransGen.single hpmm).tail hreg
  | geranGb =>
    refine wp_bind.mpr (wp_mono (moves_takeTlliNew (p := p) he₁) (fun _ s₂ hs₂ ↦ ?_)
      fun _ _ _ ↦ Loose.stops _ _)
    refine wp_bind.mpr (wp_mono (wp_dropTlliOld (p := p) (d := s.view.denied)) (fun _ s₃ hs₃ ↦ ?_)
      fun _ _ _ ↦ Loose.stops _ _)
    obtain ⟨llmes, hids, hs₃⟩ := hs₃
    have he₃ : s₃.view.entry id = some { e with gmm := .registeredNormal, tlli := e.tlliNew } := by
      rw [hs₃, hs₂]
      exact Registry.set_entry_self s₁.view id _
    obtain ⟨g, hg, hmoves⟩ := moves_mmStateGb (p := p)
      (by simp : MmGbEvent.gprsAttach ≠ .gprsDetach) he₃
    refine wp_mono hmoves (fun _ s₄ hs₄ ↦ ⟨?_, trivial⟩) fun _ _ _ ↦ Loose.stops _ _
    have hne : g ≠ .idle := fun hidle ↦ (hg hidle).2 rfl
    have hreach : ({ e with mmGb := g } : Entry).Reachable := by
      simpa [Entry.Reachable, hr] using hne
    have hids' : llmes.map (·.id) = s.view.llmes.map (·.id) := by
      rw [hids, hs₂, hs₁]
      rfl
    have hgb : Step p s.view (s.view.set id { e with mmGb := g }) := .mmGb he g (absurd · hne)
    have hreg := Step.gmm (p := p) (Registry.set_entry_self s.view id { e with mmGb := g })
      .registeredNormal fun _ _ ↦ .inr hreach
    have htlli := Step.tlli (p := p) (Registry.set_entry_self (s.view.set id { e with mmGb := g })
      id { e with mmGb := g, gmm := .registeredNormal }) e.tlliNew e.tlliNew
    refine ((Relation.ReflTransGen.single hgb).tail hreg |>.tail htlli).tail ?_
    have hassign := Step.assign (p := p) (r := { (s.view.set id { e with mmGb := g }).set id
        { e with mmGb := g, gmm := .registeredNormal, tlli := e.tlliNew } with
        tables := s.view.tables.rehashTlli id e.tlliNew e.tlliNew }) llmes hids'
    have hview : s₄.view = { (s.view.set id { e with mmGb := g }).set id
        { e with mmGb := g, gmm := .registeredNormal, tlli := e.tlliNew } with
        tables := s.view.tables.rehashTlli id e.tlliNew e.tlliNew, llmes := llmes } := by
      rw [hs₄, hs₃, hs₂, hs₁]
      simp only [Registry.set, Function.update_idem]
    rw [hview]
    simpa only [Registry.set, Function.update_idem] using hassign

theorem walks_psAttach (he : s.view.entry id = some e) (hiu : e.ranType = .utranIu) :
    Walks p (mmStateIu id .psAttach) Any s := by
  refine .of_moves (moves_mmStateIu_connect (.inl rfl) he fun hp ↦ absurd hp Loose.ran) fun _ ↦
    .single (.pmm he _ ?_ fun _ _ ↦ hiu)
  simp

/-- The mobile station is registered, and reachable by what follows. -/
instance : Follows p (gsm48RxGmmAttCompl id) := by
  refine ⟨fun s ↦ .bind walks_dropPtmsiOld fun _ s₁ hs₁ ↦ ?_⟩
  obtain ⟨e, -, he⟩ := hs₁
  have hend (s : Sgsn) : Walks p (attachCompleteRecv id) Any s := Follows.walks s
  by_cases hgmm : e.gmm = .commonProcInit
  · have hnew := walks_attachSuccess_new (p := p) he hgmm
    have hall := hnew.then fun _ s₂ ↦ hend s₂
    simp only [bind_assoc] at hall
    exact hall
  · refine .then (m := gmmFsm id .attachSuccess) ?_ fun _ s₂ ↦ ?_
    · refine (walks_gmmFsm (fun hp e' he' hgmm' _ ↦ ?_) fun hp ↦ absurd hp Loose.change).any
      obtain rfl := Option.some.inj (he.symm.trans he')
      exact absurd hgmm' hgmm
    · refine .getMm fun mm hmm ↦ ?_
      cases hran : mm.ranType with
      | utranIu => exact (walks_psAttach (view_entry_of_some hmm) hran).then fun _ s₃ ↦ hend s₃
      | geranGb =>
        have hgb (s : Sgsn) : Walks p (do
            takeTlliNew id
            dropTlliOld id
            mmStateGb id .gprsAttach) Any s := Follows.walks s
        exact (hgb s₂).then fun _ s₃ ↦ hend s₃

end Completed

end OsmoSgsn.Gmm
