import OsmoSgsn.Gmm.Plain
import OsmoSgsn.Gmm.Lifecycle

/-!
# Programs that follow the rules

Most of the code follows the rules of the registry from every state, whatever is promised. Which
programs these are is found by the way a program is put together; what is said here is only where a
program splits into cases, and what it does where it writes the registry itself.

Nothing is promised here about assertions and about state changes that are asked for in vain, so a
program may fault wherever it likes.
-/

namespace OsmoSgsn.Gmm

open EStateM

variable {p : Promises} {α β : Type} {s s' : Sgsn} {id : CtxId} {e : Entry}

/-- From every state, a program follows the rules. -/
class Follows (p : Promises) (m : SgsnM α) : Prop where
  walks : ∀ s, Walks p m Any s

/-- Nothing is promised about assertions and about state changes. -/
class Loose (p : Promises) : Prop where
  ran : ¬ p.ran
  change : ¬ p.change

theorem Loose.stops [h : Loose p] {denied : Bool} (f : Fault) (s : Sgsn) : Stops p denied f s :=
  ⟨fun _ ↦ h.ran, fun hp ↦ absurd hp h.change⟩

/-! ## Composition -/

section Composition

variable {m m' : SgsnM α} {k : α → SgsnM β} {Q : β → Sgsn → Prop}

/-- What follows needs to know nothing about the state in between. -/
theorem Walks.then (hm : Walks p m Any s) (hk : ∀ a s', Walks p (k a) Q s') :
    Walks p (m >>= k) Q s := .bind hm fun a s' _ ↦ hk a s'

theorem Walks.follows [hm : Follows p m] (hk : ∀ a s', Walks p (k a) Q s') :
    Walks p (m >>= k) Q s := (hm.walks s).then hk

/-- A program that reads a context that is not there stops. -/
theorem Walks.entry {k : MmCtx → SgsnM β}
    (h : ∀ e, s.view.entry id = some e → Walks p (Gmm.getMm id >>= k) Q s) :
    Walks p (Gmm.getMm id >>= k) Q s := by
  cases he : s.view.entry id with
  | none => exact .getMm fun mm hmm ↦ absurd (view_entry_of_some hmm) (by simp [he])
  | some e => exact h e he

theorem Follows.of_quiet (hm : Quiet m) : Follows p m := ⟨fun _ ↦ .of_quiet hm⟩

theorem Follows.of_sends (hm : Sends m) : Follows p m :=
  ⟨fun _ ↦ .last (.sends hm fun _ _ _ ↦ .pure trivial)⟩

theorem Follows.bind [hm : Follows p m] (hk : ∀ a, Follows p (k a)) : Follows p (m >>= k) :=
  ⟨fun s ↦ (hm.walks s).then fun a s' ↦ (hk a).walks s'⟩

theorem Follows.andThen (hm : Follows p m) (hk : ∀ a, Follows p (k a)) : Follows p (m >>= k) :=
  .bind hk

/-- A program that looks at the state first. -/
theorem Follows.get_bind {k : Sgsn → SgsnM β} (h : ∀ s, Walks p (k s) Any s) :
    Follows p (get >>= k) := ⟨h⟩

instance [Follows p m] [hk : ∀ a, Follows p (k a)] : Follows p (m >>= k) := .bind hk

instance [hm : Follows p m] [hm' : Follows p m'] {q : Prop} [Decidable q] :
    Follows p (if q then m else m') := by
  split
  · exact hm
  · exact hm'

instance (a : α) : Follows p (pure a : SgsnM α) := .of_quiet (.pure a)

instance : Follows p (get : SgsnM Sgsn) := .of_quiet .get

instance [Loose p] (f : Fault) : Follows p (throw f : SgsnM α) := ⟨fun s _ ↦ Loose.stops f s⟩

end Composition

/-! ## Writes to a context -/

/-- A write to a context that the registry does not see. -/
class Unseen (f : MmCtx → MmCtx) : Prop where
  entry : ∀ mm, (f mm).entry = mm.entry

/-- A write to the PDP contexts of a context that brings no first one. -/
class Shrinks (f : MmCtx → MmCtx) : Prop where
  entry : ∀ mm, ∃ session, (f mm).entry = { mm.entry with session := session } ∧
    (session = true → mm.entry.session = true)

section Writes

variable {f : MmCtx → MmCtx} {imei : MmCtx → Digits} {newKey answered timerPending : MmCtx → Bool}
  {serviceType authReattempt acRefNrUsed timerNr numTExp : MmCtx → ℕ}
  {attachReq : MmCtx → Option Bytes} {idType t3370IdType : MmCtx → MiType}
  {authTriplet : MmCtx → GsmAuthTuple} {ueCipherMask : MmCtx → BitVec 8}
  {msNetworkCapa : MmCtx → Bytes} {t3350Mode : MmCtx → T3350Mode}
  {pendingReq : MmCtx → PendingReq} {authState : MmCtx → SgsnAuthState}
  {secCtx : MmCtx → SubAuthType} {subscr : MmCtx → Option SubId}

instance : Unseen fun mm ↦
    ⟨mm.ranType, mm.imsi, imei mm, mm.pTmsi, mm.pTmsiOld, mm.ptmsiHistory, mm.ra, mm.gmm, mm.llme,
      mm.tlli, mm.tlliNew, mm.mmGb, mm.ueCtx, newKey mm, serviceType mm, mm.pmm, mm.att,
      attachReq mm, idType mm, authReattempt mm, authTriplet mm, answered mm, ueCipherMask mm,
      acRefNrUsed mm, msNetworkCapa mm, mm.pdpList, timerPending mm, timerNr mm, numTExp mm,
      t3350Mode mm, t3370IdType mm, pendingReq mm, authState mm, secCtx mm, mm.ggsnLookup,
      subscr mm⟩ := ⟨fun _ ↦ rfl⟩

instance : Unseen (·.timerStop) := ⟨fun _ ↦ rfl⟩

theorem MmCtx.entry_timerStart (mm : MmCtx) (nr : ℕ) : (mm.timerStart nr).entry = mm.entry := by
  unfold MmCtx.timerStart
  split <;> rfl

instance {nr : ℕ} : Unseen fun mm ↦ mm.timerStart nr := ⟨fun mm ↦ mm.entry_timerStart nr⟩

instance [hf : Unseen f] : Follows p (modMm id f) := .of_quiet (.modMm hf.entry)

instance [hf : Shrinks f] : Follows p (modMm id f) := by
  refine ⟨fun s ↦ .last (.modMmStep (fun mm hmm _ ↦ ?_) fun _ _ ↦ .pure trivial)⟩
  obtain ⟨session, heq, hle⟩ := hf.entry mm
  rw [heq]
  exact .session (view_entry_of_some hmm) session fun h ↦ .inl (hle h)

end Writes

/-! ## Primitives -/

section Primitives

variable {sid : SubId} {ue : UeId} {l : LlmeId} {imsi : Digits} {req : GsupRequest}
  {auts : Option Bytes} {msg : Downlink} {radio : Radio} {tlli : BitVec 32} {mm : MmCtx}

instance : Follows p (getMm id) := .of_quiet .getMm
instance : Follows p (getSubscr sid) := .of_quiet .getSubscr
instance : Follows p (getUe ue) := .of_quiet .getUe
instance : Follows p (getLlme l) := .of_quiet .getLlme
instance : Follows p osmoGetRandId := .of_quiet quiet_osmoGetRandId
instance : Follows p (iuUeTx ue) := .of_quiet quiet_iuUeTx
instance {f : Subscr → Subscr} : Follows p (modSubscr sid f) := .of_quiet quiet_modSubscr
instance : Follows p (sgsnRanapIuTxSecModeCmd id ue) := .of_quiet quiet_sgsnRanapIuTxSecModeCmd
instance : Follows p (sgsnRanapIuTxReleaseFree ue) := .of_quiet quiet_sgsnRanapIuTxReleaseFree
instance : Follows p (gprsSubscrPut sid) := .of_quiet quiet_gprsSubscrPut
instance : Follows p (gprsSubscrGetByImsi imsi) := .of_quiet quiet_gprsSubscrGetByImsi
instance : Follows p (gprsSubscrGetOrCreateByMmctx id) :=
  .of_quiet quiet_gprsSubscrGetOrCreateByMmctx
instance : Follows p (gprsSubscrRequestAuthInfo id auts) :=
  .of_quiet quiet_gprsSubscrRequestAuthInfo
instance : Follows p (gprsSubscrRequestUpdateLocation id) :=
  .of_quiet quiet_gprsSubscrRequestUpdateLocation
instance : Follows p (gprsSubscrCleanup sid) := .of_quiet quiet_gprsSubscrCleanup
instance : Follows p (gprsSubscrResetAuthTriplets sid) := .of_quiet quiet_modSubscr
instance : Follows p (sgsnAuthGetTuple id) := .of_quiet quiet_sgsnAuthGetTuple
instance : Follows p (mmSubscr id) := .of_quiet quiet_mmSubscr
instance : Follows p (lacksIntegrity mm) := .of_quiet quiet_lacksIntegrity
instance : Follows p (useLlme id) := .of_quiet quiet_useLlme
instance : Follows p (gprsLleGetOrCreate tlli) := .of_sends sends_gprsLleGetOrCreate
instance : Follows p (gsm48GmmSendmsg id msg) := .of_sends sends_gsm48GmmSendmsg
instance : Follows p (sendOldmsg radio msg) := .of_sends sends_sendOldmsg
instance : Follows p (gsm48TxGmmAuthCiphReq id) := .of_sends sends_gsm48TxGmmAuthCiphReq
instance : Follows p (gprsGmmMmCtxCleanupFree id) := ⟨fun _ ↦ walks_gprsGmmMmCtxCleanupFree⟩
instance : Follows p (sgsnRanapIuFreeUe ue) :=
  ⟨fun _ ↦ .of_moves moves_sgsnRanapIuFreeUe fun _ ↦ .single (.freeUe ue)⟩
instance : Follows p (sgsnMmCtxIuRanapFree id) := ⟨fun _ ↦ walks_sgsnMmCtxIuRanapFree.any⟩

theorem follows_observe {o : Obs} (ho : o.denied = false) : Follows p (observe o) :=
  .of_quiet (quiet_observe ho)

instance {omm : Option MmCtx} : Follows p (observe (.sent omm msg)) := follows_observe rfl
instance {subscr : Option Subscr} : Follows p (observe (.attachAccepted mm subscr)) :=
  follows_observe rfl
instance : Follows p (observe (.createPdp mm)) := follows_observe rfl

instance : Follows p (sgsnMmCtxIuRanapReleaseFree id) :=
  ⟨fun _ ↦ .entry fun _ he ↦
    .of_moves (moves_sgsnMmCtxIuRanapReleaseFree he) fun _ ↦ .single (.dropUe he)⟩

end Primitives

/-! ## The FSMs -/

section Fsms

theorem follows_mmStateGb {ev : MmGbEvent} (hev : ev ≠ .gprsDetach) :
    Follows p (mmStateGb id ev) := by
  refine ⟨fun s ↦ .entry fun e he ↦ ?_⟩
  obtain ⟨g, hg, hmoves⟩ := moves_mmStateGb (p := p) hev he
  exact .of_moves hmoves fun _ ↦ .single (.mmGb he g fun hidle ↦ (hg hidle).1)

instance : Follows p (mmStateGb id .pduReception) := follows_mmStateGb (by simp)
instance : Follows p (mmStateGb id .readyTimerExpiry) := follows_mmStateGb (by simp)
instance : Follows p (mmStateGb id .gprsAttach) := follows_mmStateGb (by simp)
instance : Follows p (mmStateGb id .raUpdate) := follows_mmStateGb (by simp)

instance : Follows p (gprsGbRecvPdu id) := by
  unfold gprsGbRecvPdu
  infer_instance

/-- The connected state is left for the idle one: the connection is freed first. -/
theorem walks_pmmIdle (he : s.view.entry id = some e) (hconn : e.pmm = .connected) :
    Walks p (do
      sgsnMmCtxIuRanapFree id
      modMm id fun mm ↦ { mm with pmm := .idle }) Any s := by
  refine .bind walks_sgsnMmCtxIuRanapFree fun _ s₁ hs₁ ↦ .last (.modMmStep ?_ fun _ _ ↦
    .pure trivial)
  intro mm hmm _
  obtain ⟨u, hu⟩ := hs₁ e he
  have hme := Option.some.inj ((view_entry_of_some hmm).symm.trans hu)
  refine .pmm (view_entry_of_some hmm) .idle (by simp) fun hdet _ ↦ ?_
  rw [hme] at hdet
  exact absurd (hconn.symm.trans hdet) (by simp)

section Loose

variable [Loose p]

omit [Loose p] in
theorem follows_mmStateIu_leave {ev : PmmEvent}
    (hev : ev = .psConnRelease ∨ ev = .rxGgsnGtpuDtEi) : Follows p (mmStateIu id ev) := by
  refine ⟨fun s ↦ .getMm fun mm hmm ↦ ?_⟩
  cases hpmm : mm.pmm with
  | connected =>
    rcases hev with rfl | rfl <;> exact walks_pmmIdle (view_entry_of_some hmm) hpmm
  | detached | idle =>
    rcases hev with rfl | rfl <;> exact .pure trivial

theorem follows_mmStateIu_enter {ev : PmmEvent} (hev : ev = .psConnEstablish ∨ ev = .raUpdate) :
    Follows p (mmStateIu id ev) := by
  refine ⟨fun s ↦ .entry fun e he ↦ ?_⟩
  have hev' : ev = .psAttach ∨ ev = .psConnEstablish ∨ ev = .raUpdate := .inr hev
  refine .of_moves (moves_mmStateIu_connect hev' he fun hp ↦ absurd hp Loose.ran) fun _ ↦
    .single (.pmm he _ ?_ ?_)
  · intro hdet
    by_contra hne
    simp [hne] at hdet
  · intro hdet hne
    have hattach : ev ≠ .psAttach := by rcases hev with rfl | rfl <;> simp
    simp [hdet, hattach] at hne

instance : Follows p (mmStateIu id .psConnRelease) := follows_mmStateIu_leave (.inl rfl)
instance : Follows p (mmStateIu id .rxGgsnGtpuDtEi) := follows_mmStateIu_leave (.inr rfl)
instance : Follows p (mmStateIu id .psConnEstablish) := follows_mmStateIu_enter (.inl rfl)
instance : Follows p (mmStateIu id .raUpdate) := follows_mmStateIu_enter (.inr rfl)

theorem follows_gmmFsm {ev : GmmEvent} (hev : ¬ (ev = .commonProcSuccess ∨ ev = .attachSuccess)) :
    Follows p (gmmFsm id ev) :=
  ⟨fun _ ↦ (walks_gmmFsm (fun _ _ _ _ h ↦ absurd h hev) fun hp ↦ absurd hp Loose.change).any⟩

instance : Follows p (gmmFsm id .commonProcInitReq) := follows_gmmFsm (by simp)
instance : Follows p (gmmFsm id .suspend) := follows_gmmFsm (by simp)
instance : Follows p (gmmFsm id .resume) := follows_gmmFsm (by simp)
instance : Follows p (gmmFsm id .cleanup) := follows_gmmFsm (by simp)

end Loose

end Fsms

/-! ## Authorization and the attach procedure -/

/-- A state of the attach FSM that may last. -/
class AttachState.Lasts (st : AttachState) : Prop where
  ne_reject : st ≠ .reject

instance : AttachState.init.Lasts := ⟨by simp⟩
instance : AttachState.identity.Lasts := ⟨by simp⟩
instance : AttachState.auth.Lasts := ⟨by simp⟩
instance : AttachState.askVlr.Lasts := ⟨by simp⟩
instance : AttachState.iuSecurityCmd.Lasts := ⟨by simp⟩
instance : AttachState.accept.Lasts := ⟨by simp⟩

section Attach

variable [Loose p]

/-- A state change is asked for, be it in vain. -/
theorem steps_observe (s : Sgsn) (o : Obs) : Steps p s.view (s.observe o).view := by
  have hstep := Step.request (p := p) (r := s.view) (!o.denied) fun hp ↦ absurd hp Loose.change
  rw [Bool.not_not, Bool.or_comm] at hstep
  rw [view_observe]
  exact .single hstep

instance {o : Obs} : Follows p (observe o) :=
  ⟨fun s ↦ .last (.modify (fun _ ↦ steps_observe s o) (.pure trivial))⟩

instance {next : AttachState} [h : next.Lasts] :
    Follows p (modMm id fun mm ↦ { mm with att := next }) :=
  ⟨fun _ ↦ .last (.modMmStep (fun _ hmm _ ↦ .attach (view_entry_of_some hmm) next h.ne_reject)
    fun _ _ ↦ .pure trivial)⟩

instance {next : AttachState} [next.Lasts] {onenter : SgsnM Unit} [Follows p onenter] :
    Follows p (gmmAttachFsmStateChg id next onenter) := by
  unfold gmmAttachFsmStateChg
  infer_instance

/-- A context is freed whose entry was written over, but not its LLC entity. -/
theorem moves_free_of_set {r : Registry} {x : Entry} (hs : s.view = r.set id x)
    (hx : x.llme = e.llme) : Moves p (gprsGmmMmCtxCleanupFree id) s (r.free id e) := by
  have he : s.view.entry id = some x := by rw [hs, Registry.set_entry_self]
  have hmoves := moves_gprsGmmMmCtxCleanupFree (p := p) he fun hp ↦ absurd hp Loose.ran
  rw [hs] at hmoves
  simpa only [Registry.free, Registry.set, Function.update_idem, hx] using hmoves

omit [Loose p] in
theorem Sent.of_set {r r' : Registry} {x : Entry} (h : Sent (r.set id x) r') :
    ∃ r₀, Sent r r₀ ∧ r' = r₀.set id x := by
  induction h with
  | refl => exact ⟨r, .refl, rfl⟩
  | tail _ hlast ih =>
    obtain ⟨tlli, rfl⟩ := hlast
    obtain ⟨r₀, hr₀, rfl⟩ := ih
    exact ⟨r₀.addLlme tlli, hr₀.tail ⟨tlli, rfl⟩, rfl⟩

/-- Between two registries the rules were followed, but for the state of an attach FSM. -/
def Rejecting (p : Promises) (id : CtxId) (e : Entry) (r r' : Registry) : Prop :=
  ∃ r₀ att, Steps p r r₀ ∧ r₀.entry id = some e ∧ r' = r₀.set id { e with att := att }

omit [Loose p] in
theorem Rejecting.of_steps {r r' : Registry} (h : Steps p r r') (he : r'.entry id = some e) :
    Rejecting p id e r r' := ⟨r', e.att, h, he, (Registry.set_eq_self he).symm⟩

/-- The attach FSM enters `ST_REJECT`, which is no state to stay in. -/
theorem wp_rejecting {mm : MmCtx} (hmm : s.ctxs id = some mm) :
    wp (if mm.att ≠ .reject then gmmAttachFsmStateChg id .reject (pure ()) else pure ())
      (fun _ s' ↦ Rejecting p id mm.entry s.view s'.view) (Stops p s.view.denied) s := by
  have he := view_entry_of_some hmm
  split
  · refine (wp_getMm_bind (Loose.stops _ _) fun mm' hmm' ↦ ?_)
    obtain rfl : mm = mm' := Option.some.inj (hmm.symm.trans hmm')
    rw [wp_bind, observe, wp_modify]
    set t := s.observe (.attachChange mm.att .reject)
    have ht : Steps p s.view t.view := steps_observe s _
    split
    · rw [wp_bind, wp_modMm (s := t) hmm]
      exact ⟨t.view, .reject, ht, he, view_setCtx t id _⟩
    · exact .of_steps ht he
  · exact .of_steps .refl he

/-- A reject: whatever the state of the attach FSM, the context is freed. -/
instance {cause : Option ℕ} : Follows p (attachReject id cause) := by
  refine ⟨fun s ↦ .getMm fun mm hmm _ ↦ ?_⟩
  have hsend : Sends (match cause with
      | none => pure true
      | some cause => gsm48GmmSendmsg id (.attachReject cause)) := by
    split
    · exact .pure _
    · exact sends_gsm48GmmSendmsg
  have hstop : Quiet (modMm id (·.timerStop)) := .modMm fun _ ↦ rfl
  refine wp_bind.mpr (wp_mono (wp_rejecting (p := p) hmm) ?_ fun _ _ h ↦ h)
  rintro - t ⟨r, att, hr, he, ht⟩
  refine wp_bind.mpr (wp_mono (hstop p t) (fun _ t₁ ht₁ ↦ ?_) fun _ _ _ ↦ Loose.stops _ _)
  refine wp_bind.mpr (wp_mono (hsend p t₁) (fun _ t₂ ht₂ ↦ ?_) fun _ _ _ ↦ Loose.stops _ _)
  rw [ht₁, ht] at ht₂
  obtain ⟨r₀, hr₀, hview⟩ := ht₂.of_set
  refine wp_mono (moves_free_of_set (p := p) (e := mm.entry) hview rfl)
    (fun _ t₃ ht₃ ↦ ⟨?_, trivial⟩) fun _ _ _ ↦ Loose.stops _ _
  rw [ht₃]
  refine (hr.trans hr₀.steps).tail (.free ?_)
  rw [hr₀.entry, he]

instance {gmmCause : Option ℕ} : Follows p (gsm0408GprsAccessDenied id gmmCause) := by
  unfold gsm0408GprsAccessDenied
  refine .bind fun mm ↦ ?_
  split <;> infer_instance

instance {gmmCause : Option ℕ} : Follows p (gsm0408GprsAccessCancelled id gmmCause) := by
  unfold gsm0408GprsAccessCancelled
  split <;> infer_instance

instance : Follows p (stAcceptOnEnter id) := by
  unfold stAcceptOnEnter
  exact .bind fun mm ↦ .bind fun subscr ↦ .bind fun _ ↦
    .andThen (.of_quiet (.modMm fun _ ↦ rfl)) fun _ ↦ inferInstance

instance : Follows p (stIdentityOnEnter id) := by
  unfold stIdentityOnEnter
  infer_instance

instance : Follows p (stIuSecurityCmdOnEnter id) := by
  unfold stIuSecurityCmdOnEnter
  refine .bind fun mm ↦ ?_
  split <;> infer_instance

instance {attachReq : Bytes} : Follows p (stInit id attachReq) := by
  unfold stInit
  exact .andThen (.of_quiet (.modMm fun _ ↦ rfl)) fun _ ↦ inferInstance

instance {attachReq : Bytes} : Follows p (attachReqRecv id attachReq) := by
  unfold attachReqRecv
  refine .bind fun mm ↦ ?_
  split <;> infer_instance

instance : Follows p (attachCompleteRecv id) := by
  unfold attachCompleteRecv
  infer_instance

instance : Follows p (gmmAttachTimerCb id) := by
  unfold gmmAttachTimerCb
  refine .bind fun _ ↦ .bind fun mm ↦ ?_
  split
  · infer_instance
  · split <;> infer_instance

instance : Follows p (gmmAttReqAbortOnIuLoss id) := by
  unfold gmmAttReqAbortOnIuLoss
  infer_instance

instance {pdp : PdpCtx} : Follows p (sgsnPdpCtxIuRabActivate id pdp) := by
  unfold sgsnPdpCtxIuRabActivate
  refine .bind fun mm ↦ ?_
  split
  · infer_instance
  · split <;> infer_instance

instance (pdps : List PdpCtx) : Follows p (activateRabs id pdps) := by
  induction pdps with
  | nil => exact inferInstanceAs (Follows p (pure ()))
  | cons pdp pdps ih =>
    unfold activateRabs
    infer_instance

instance : Follows p (sgsnMmCtxIuActivateRabs id) := by
  unfold sgsnMmCtxIuActivateRabs
  infer_instance

instance : Follows p (gsm48GmmAuthorized id) := by
  have : Unseen fun mm ↦ { mm.timerStart 3350 with t3350Mode := .att } :=
    ⟨fun mm ↦ mm.entry_timerStart 3350⟩
  unfold gsm48GmmAuthorized
  refine .bind fun mm ↦ ?_
  split <;> infer_instance

end Attach

/-- The calls into the layers above follow the rules. -/
class Calls.Follow (p : Promises) (c : Calls) : Prop where
  vlrAnswered : ∀ id, Follows p (c.vlrAnswered id)
  gmmAuthorize : ∀ id, Follows p (c.gmmAuthorize id)

attribute [instance] Calls.Follow.vlrAnswered Calls.Follow.gmmAuthorize

section Calls

variable [Loose p] {c : Calls} [c.Follow p]

instance : Follows p (gsm0408GprsAuthenticate c id) := by
  unfold gsm0408GprsAuthenticate
  infer_instance

instance : Follows p (gsm0408GprsAccessGranted c id) := by
  unfold gsm0408GprsAccessGranted
  infer_instance

instance {authState : SgsnAuthState} : Follows p (sgsnAuthUpdateTo c id authState) := by
  unfold sgsnAuthUpdateTo
  refine .bind fun mm ↦ ?_
  split
  · infer_instance
  · refine .bind fun _ ↦ ?_
    split
    · split <;> infer_instance
    all_goals infer_instance

instance : Follows p (sgsnAuthUpdate c id) := by
  unfold sgsnAuthUpdate
  refine .bind fun mm ↦ .bind fun subscr ↦ .bind fun s ↦ ?_
  extract_lets cfg verdict authState
  split
  · refine .bind fun t ↦ ?_
    split <;> infer_instance
  · infer_instance

instance {need : Bool} : Follows p (sgsnAuthRequestLocation c id need) := by
  unfold sgsnAuthRequestLocation
  infer_instance

instance : Follows p (sgsnAuthRequest c id) := by
  unfold sgsnAuthRequest
  refine .bind fun s ↦ ?_
  extract_lets cfg
  split
  · infer_instance
  · refine .bind fun mm ↦ .bind fun sid ↦ .bind fun _ ↦ .bind fun x ↦ ?_
    split
    · infer_instance
    · split
      · refine .bind fun t ↦ ?_
        split <;> infer_instance
      · infer_instance

instance : Follows p (stAskVlrOnEnter c id) := by
  unfold stAskVlrOnEnter
  infer_instance

instance : Follows p (stAuthOnEnter c id) := by
  unfold stAuthOnEnter
  refine .bind fun _ ↦ .bind fun mm ↦ .bind fun subscr ↦ .bind fun s ↦ ?_
  extract_lets cfg
  split
  all_goals infer_instance

instance : Follows p (attachProceedAfterAuth c id) := by
  unfold attachProceedAfterAuth
  infer_instance

instance : Follows p (attachVlrAnswered c id) := by
  unfold attachVlrAnswered
  refine .bind fun mm ↦ ?_
  split <;> infer_instance

instance : Follows p (gsm48GmmAuthorize c id) := by
  have {type : MiType} : Unseen fun mm ↦ { mm.timerStart 3370 with t3370IdType := type } :=
    ⟨fun mm ↦ mm.entry_timerStart 3370⟩
  unfold gsm48GmmAuthorize
  refine .bind fun mm ↦ ?_
  split
  · infer_instance
  · split
    · infer_instance
    · refine .bind fun _ ↦ ?_
      repeat' split
      all_goals infer_instance

instance {type : MiType} : Follows p (attachIdenRespRecv c id type) := by
  unfold attachIdenRespRecv
  infer_instance

instance : Follows p (attachAuthRespSuccess c id) := by
  unfold attachAuthRespSuccess
  infer_instance

instance : Follows p (attachAuthRespResync c id) := by
  unfold attachAuthRespResync
  infer_instance

instance : Follows p (attachIuSecurityCmdComplete c id) := by
  unfold attachIuSecurityCmdComplete
  infer_instance

end Calls

instance [Loose p] (depth : ℕ) : (calls depth).Follow p := by
  induction depth with
  | zero =>
    exact ⟨fun _ ↦ inferInstanceAs (Follows p (throw _)),
      fun _ ↦ inferInstanceAs (Follows p (throw _))⟩
  | succ depth ih =>
    exact ⟨fun id ↦ inferInstanceAs (Follows p (attachVlrAnswered (calls depth) id)),
      fun id ↦ inferInstanceAs (Follows p (gsm48GmmAuthorize (calls depth) id))⟩

/-! ## PDP contexts -/

section Session

variable [Loose p] {nsapi : ℕ} {pdp : PdpCtx} {msg : Downlink}

omit [Loose p] in
/-- The PDP contexts of a context are written to, and not all of them are new. -/
theorem follows_modPdpList {f : List PdpCtx → List PdpCtx} (hf : f [] = []) :
    Follows p (modMm id fun mm ↦ { mm with pdpList := f mm.pdpList }) := by
  have : Shrinks fun mm ↦ { mm with pdpList := f mm.pdpList } := by
    refine ⟨fun mm ↦ ⟨_, rfl, fun h ↦ ?_⟩⟩
    simp only [MmCtx.entry, decide_eq_true_eq] at h ⊢
    refine h.imp_left fun hne hnil ↦ hne ?_
    rw [hnil, hf]
  infer_instance

instance : Follows p (sgsnPdpCtxFree id pdp) := follows_modPdpList (f := (·.erase pdp)) rfl

instance {f : PdpCtx → PdpCtx} : Follows p (modPdp id nsapi f) :=
  follows_modPdpList (f := (·.map fun pdp ↦ if pdp.nsapi = nsapi then f pdp else pdp)) rfl

instance : Follows p (deactPdp id pdp) := by
  have : Follows p (modMm id fun mm ↦ { mm with pdpList := mm.pdpList.erase pdp }) :=
    follows_modPdpList (f := (·.erase pdp)) rfl
  unfold deactPdp
  infer_instance

instance : Follows p (sendActPdpContAcc id nsapi) := by
  unfold sendActPdpContAcc
  refine .bind fun ok ↦ ?_
  split <;> infer_instance

instance : Follows p (createPdpRejected id pdp) := by
  unfold createPdpRejected
  infer_instance

instance {accepted : Bool} : Follows p (createPdpConf id nsapi accepted) := by
  unfold createPdpConf
  refine .bind fun mm ↦ ?_
  split
  · infer_instance
  · split
    · infer_instance
    · split <;> infer_instance

instance : Follows p (sgsnPdpCtxIuRabDeactivate id) := by
  unfold sgsnPdpCtxIuRabDeactivate
  infer_instance

instance : Follows p (deletePdpConf id nsapi) := by
  unfold deletePdpConf
  refine .bind fun mm ↦ ?_
  split
  · infer_instance
  · split <;> infer_instance

instance : Follows p (sgsnGgsnCtxDropPdp id pdp) := by
  unfold sgsnGgsnCtxDropPdp
  infer_instance

instance : Follows p (cbDeleteContext id nsapi) := by
  unfold cbDeleteContext
  refine .bind fun _ ↦ .bind fun mm ↦ ?_
  split <;> infer_instance

instance : Follows p (ggsnLost id nsapi) := by
  unfold ggsnLost
  refine .bind fun mm ↦ ?_
  split <;> infer_instance

instance : Follows p (cbUpdateContextErrorInd id nsapi) := by
  unfold cbUpdateContextErrorInd
  infer_instance

instance {last : Bool} : Follows p (pdpctxTimerCb id nsapi last) := by
  unfold pdpctxTimerCb
  refine .bind fun mm ↦ ?_
  split <;> infer_instance

instance {rab : RabAssignment} : Follows p (sgsnRanapRabAssResp id rab) := by
  unfold sgsnRanapRabAssResp
  refine .bind fun mm ↦ ?_
  split <;> infer_instance

instance {ev : GtpEvent} : Follows p (gtpEvent id nsapi ev) := by
  cases ev with
  | createConf accepted => exact inferInstanceAs (Follows p (createPdpConf id nsapi accepted))
  | deleteConf => exact inferInstanceAs (Follows p (deletePdpConf id nsapi))
  | deleted => exact inferInstanceAs (Follows p (cbDeleteContext id nsapi))
  | ggsnLost => exact inferInstanceAs (Follows p (ggsnLost id nsapi))
  | errorInd => exact inferInstanceAs (Follows p (cbUpdateContextErrorInd id nsapi))

end Session

/-! ## The HLR, timers and Iu -/

section Node

variable [Loose p] {c : Calls} [c.Follow p] {ue : UeId}

instance {sid : SubId} : Follows p (gprsSubscrUpdate c sid) := by
  unfold gprsSubscrUpdate
  refine .bind fun x ↦ ?_
  split <;> infer_instance

instance {sid : SubId} {msg : GsupMsg} : Follows p (gprsSubscrHandleGsup c sid msg) := by
  unfold gprsSubscrHandleGsup
  refine .bind fun _ ↦ .bind fun _ ↦ ?_
  split
  case h_4 =>
    refine .bind fun x ↦ ?_
    split <;> infer_instance
  all_goals infer_instance

instance {imsi : Digits} {msg : GsupMsg} : Follows p (gprsSubscrRxGsupMessage c imsi msg) := by
  unfold gprsSubscrRxGsupMessage
  refine .bind fun sid ↦ ?_
  split <;> infer_instance

instance : Follows p (mmctxTimerCb.reschedule id) := by
  unfold mmctxTimerCb.reschedule
  infer_instance

instance : Follows p (mmctxTimerCb id) := by
  unfold mmctxTimerCb
  refine .bind fun _ ↦ .bind fun mm ↦ ?_
  split
  · split
    · infer_instance
    · split <;> infer_instance
  · infer_instance

instance {tlli : BitVec 32} {raid : RaId} {ev : GmmEvent}
    [∀ id, Follows p (gmmFsm id ev)] : Follows p (gprsGmmRxSuspend tlli raid ev) := by
  unfold gprsGmmRxSuspend
  refine .bind fun s ↦ ?_
  split <;> infer_instance

instance {tlli : BitVec 32} {raid : RaId} : Follows p (sndcpRecvPdu tlli raid) := by
  unfold sndcpRecvPdu
  refine .bind fun s ↦ ?_
  split <;> infer_instance

instance {k : MmCtx → SgsnM Unit} [∀ mm, Follows p (k mm)] : Follows p (whenMm id k) := by
  unfold whenMm
  refine .bind fun s ↦ ?_
  split <;> infer_instance

instance : Follows p (iuSecurityModeComplete c ue) := by
  unfold iuSecurityModeComplete
  refine .bind fun s ↦ ?_
  split
  · infer_instance
  · have hue : Follows p (do
        let conn ← getUe ue
        modify (·.setUe ue { conn with integrityActive := true })) := .of_quiet quiet_modUe
    have hrest (id : CtxId) : Follows p (do
        let _ ← iuUeTx ue
        if (← getMm id).pendingReq ≠ .attachReq then gsm48GmmAuthorize c id
        else attachIuSecurityCmdComplete c id) := inferInstance
    simpa only [bind_assoc] using hue.andThen fun _ ↦ hrest _

instance : Follows p (iuRelease ue) := by
  unfold iuRelease
  refine .bind fun s ↦ ?_
  split <;> infer_instance

instance {rab : RabAssignment} : Follows p (iuRabAssign rab ue) := by
  unfold iuRabAssign
  refine .bind fun s ↦ ?_
  split <;> infer_instance

instance {handler : UeId → SgsnM Unit} [∀ ue, Follows p (handler ue)] :
    Follows p (globalIuEvent ue handler) := by
  unfold globalIuEvent
  refine .bind fun s ↦ ?_
  split <;> infer_instance

instance : Follows p (sgsnMmIuHandleRncLoss id) := by
  unfold sgsnMmIuHandleRncLoss
  infer_instance

instance {rnc : ℕ} (ues : List UeId) : Follows p (rncLossConnected rnc ues) := by
  induction ues with
  | nil => exact inferInstanceAs (Follows p (pure ()))
  | cons ue ues ih =>
    refine .bind fun conn ↦ .bind fun s ↦ .andThen ?_ fun _ ↦ ih
    split <;> infer_instance

instance {rnc : ℕ} {areas : List RaId} : Follows p (sgsnMmCtxOnRnc id rnc areas) := by
  unfold sgsnMmCtxOnRnc
  refine .bind fun mm ↦ ?_
  split <;> infer_instance

instance {rnc : ℕ} {areas : List RaId} (ids : List CtxId) :
    Follows p (rncLossIdle rnc areas ids) := by
  induction ids with
  | nil => exact inferInstanceAs (Follows p (pure ()))
  | cons id ids ih =>
    unfold rncLossIdle
    infer_instance

instance : Follows p (ueConnCtxLinkInvalidatedFree ue) := by
  unfold ueConnCtxLinkInvalidatedFree
  refine .bind fun _ ↦ .bind fun s ↦ ?_
  split <;> infer_instance

instance {rnc : ℕ} (ues : List UeId) : Follows p (rncDiscardUes rnc ues) := by
  induction ues with
  | nil => exact inferInstanceAs (Follows p (pure ()))
  | cons ue ues ih =>
    unfold rncDiscardUes
    infer_instance

instance {rnc : ℕ} {areas : List RaId} : Follows p (iuRncDiscardAllUeCtx rnc areas) := by
  unfold iuRncDiscardAllUeCtx
  infer_instance

end Node

end OsmoSgsn.Gmm
