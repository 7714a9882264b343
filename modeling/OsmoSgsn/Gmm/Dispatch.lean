import OsmoSgsn.Gmm.Messages

/-!
# Events and the rules

A message from a mobile station belongs to the context that has its TLLI in the routing area of its
cell, or its connection. What must be so for an event to follow the rules is said here in terms of
the state in which it is taken; for all events but messages nothing has to be.
-/

namespace OsmoSgsn.Gmm

open EStateM

variable {p : Promises} {α β : Type} {s s' : Sgsn} {r r' : Registry} {id : CtxId} {e : Entry}
  {ue : UeId} {l : LlmeId} {ctx : Option CtxId} {radio : Radio} {cell : RaId} {tlli : BitVec 32}

/-! ## The protocol discriminator -/

/-- A message that is only taken for a context, and that is answered where there is none. -/
def GmmMsg.NeedsContext : GmmMsg → Prop
  | .attachReq _ | .raUpdReq _ | .detachReq true => False
  | _ => True

/-- What a message needs. -/
structure UplinkMsg.Fits (p : Promises) (s : Sgsn) (ctx : Option CtxId) (radio : Radio)
    (msg : UplinkMsg) : Prop where
  attachReq : ∀ req, msg = .gmm (.attachReq req) → req.Fits p s ctx radio
  raUpdReq : ∀ req, msg = .gmm (.raUpdReq req) → req.Fits p s ctx radio
  serviceReq : ∀ req ue mi id e, msg = .gmm (.serviceReq req) → radio = .iu ue →
    req.mi = some mi → serviceReqContext s ctx mi = some id → s.view.entry id = some e →
      (ctx = some id → e.ranType = .utranIu) → p.ue → e.ranType = .utranIu ∧ s.view.UeFor id ue
  idResp : ∀ id mm imsi, msg = .gmm (.idResp (some (.imsi imsi))) → ctx = some id →
    s.ctxs id = some mm → mm.ranType = radio.ranType → mm.t3370IdType ≠ .none → mm.imsi ≠ [] →
      imsi ≠ [] → p.imsi → s.view.ImsiFor id imsi
  raUpdCompl : ∀ id e, msg = .gmm .raUpdCompl → ctx = some id → s.view.entry id = some e →
    e.ranType = radio.ranType → e.gmm = .commonProcInit → p.reach → e.Reachable
  unknown : ∀ tlli cell l msg', msg = .gmm msg' → ctx = none → radio = .gb tlli cell l →
    msg'.NeedsContext → p.llme → s.view.LlmeUnused l
  sm : ∀ id msg', msg = .sm msg' → ctx = some id → s.view.Linked id

section Loose

variable [Loose p]

omit [Loose p] in
theorem walks_gsm0408RcvGmmUnknown {msg : GmmMsg}
    (h : msg ≠ .detachReq true → p.llme → s.view.LlmeUnused l) :
    Walks p (gsm0408RcvGmmUnknown radio l msg) Any s := by
  have hgone (hmsg : msg ≠ .detachReq true) (answer : Downlink) : Walks p (do
      sendOldmsg radio answer
      gprsLlgmmUnassign l) Any s := by
    refine .sends sends_sendOldmsg fun _ s₁ hs₁ ↦ walks_gprsLlgmmUnassign fun hp id e he ↦ ?_
    exact h hmsg hp id e (by rwa [← hs₁.entry])
  unfold gsm0408RcvGmmUnknown
  split
  · exact walks_gprsLlgmmUnassign (h (by simp))
  · exact walks_gprsLlgmmUnassign (h (by simp))
  · exact .pure trivial
  · exact hgone (by simp) _
  · exact hgone (by assumption) _

section Calls

variable {c : Calls} [c.Follow p] {msg : GmmMsg}

theorem walks_gsm0408RcvGmmCtx
    (hid : ∀ imsi mm, msg = .idResp (some (.imsi imsi)) → s.ctxs id = some mm →
      mm.t3370IdType ≠ .none → mm.imsi ≠ [] → imsi ≠ [] → p.imsi → s.view.ImsiFor id imsi)
    (hcompl : ∀ e, msg = .raUpdCompl → s.view.entry id = some e → e.gmm = .commonProcInit →
      p.reach → e.Reachable) :
    Walks p (gsm0408RcvGmmCtx c id msg) Any s := by
  cases msg with
  | idResp o =>
    refine walks_gsm48RxGmmIdResp ?_
    rintro hp mm imsi hmm htype rfl himsi hne
    exact hid imsi mm rfl hmm htype himsi hne hp
  | detachReq powerOff => exact Follows.walks (m := gsm48RxGmmDetReq id powerOff) s
  | detachAck => exact Follows.walks (m := gprsGmmMmCtxCleanupFree id) s
  | attachCompl => exact Follows.walks (m := gsm48RxGmmAttCompl id) s
  | raUpdCompl => exact walks_gsm48RxGmmRaUpdCompl fun hp e he hgmm ↦ hcompl e rfl he hgmm hp
  | ptmsiReallCompl => exact Follows.walks (m := gsm48RxGmmPtmsiReallCompl id) s
  | authCiphResp resp => exact Follows.walks (m := gsm48RxGmmAuthCiphResp c id resp) s
  | authCiphFail fail => exact Follows.walks (m := gsm48RxGmmAuthCiphFail c id fail) s
  | unknown =>
    exact Follows.walks (m := do
      let _ ← gsm48GmmSendmsg id (.gmmStatus 97)) s
  | attachReq _ | raUpdReq _ | serviceReq _ | status => exact .pure trivial

theorem walks_gsm0408RcvGmm (h : (UplinkMsg.gmm msg).Fits p s ctx radio) :
    Walks p (gsm0408RcvGmm c ctx radio msg) Any s := by
  unfold gsm0408RcvGmm
  split
  · exact walks_gsm48RxGmmRaUpdReq (h.raUpdReq _ rfl)
  · exact walks_gsm48RxGmmAttReq (h.attachReq _ rfl)
  · rename_i hrau hatt
    refine walks_gsm0408RcvGmmUnknown fun hdet ↦ h.unknown _ _ _ msg rfl rfl rfl ?_
    unfold GmmMsg.NeedsContext
    split
    · exact absurd rfl (hatt _)
    · exact absurd rfl (hrau _)
    · exact hdet rfl
    · trivial
  · rename_i req ue
    exact walks_gsm48RxGmmServiceReq fun hp mi id e hmi hctx he ↦
      h.serviceReq req ue mi id e rfl rfl hmi hctx he (fun hnone ↦ absurd hnone (by simp)) hp
  · exact .pure trivial
  · rename_i id hrau hatt
    refine .getMm fun mm hmm ↦ ?_
    have he := view_entry_of_some hmm
    split
    · exact .pure trivial
    · rename_i hran
      rw [not_not] at hran
      split
      · rename_i req ue
        refine walks_gsm48RxGmmServiceReq fun hp mi id' e hmi hctx he' ↦ ?_
        refine h.serviceReq req ue mi id' e rfl rfl hmi hctx he' (fun heq ↦ ?_) hp
        obtain rfl := Option.some.inj heq
        obtain rfl := Option.some.inj (he.symm.trans he')
        exact hran
      · refine walks_gsm0408RcvGmmCtx (fun imsi mm' hmsg hmm' ↦ ?_) fun e hmsg he' ↦ ?_
        · obtain rfl := Option.some.inj (hmm.symm.trans hmm')
          exact h.idResp id mm imsi (congrArg _ hmsg) rfl hmm hran
        · obtain rfl := Option.some.inj (he.symm.trans he')
          exact h.raUpdCompl id _ (congrArg _ hmsg) rfl he hran

theorem walks_gsm0408GprsRcvmsg {msg : UplinkMsg} (h : msg.Fits p s ctx radio) :
    Walks p (gsm0408GprsRcvmsg c ctx radio msg) Any s := by
  cases msg with
  | gmm msg => exact walks_gsm0408RcvGmm h
  | sm msg => exact walks_gsm0408RcvGsm fun id hctx ↦ h.sm id msg rfl hctx
  | unknown => exact .pure trivial

end Calls

/-! ## Where a message comes from -/

/-- A message writes to a context where it has come from, and that it is there. -/
structure MmCtx.Touched (mm mm' : MmCtx) : Prop where
  ranType : mm'.ranType = mm.ranType
  imsi : mm'.imsi = mm.imsi
  gmm : mm'.gmm = mm.gmm
  ueCtx : mm'.ueCtx = mm.ueCtx
  pmm : mm'.pmm = mm.pmm
  mmGb : mm'.mmGb = .idle ↔ mm.mmGb = .idle
  t3370IdType : mm'.t3370IdType = mm.t3370IdType

omit [Loose p] in
theorem setCtx_setCtx (s : Sgsn) (id : CtxId) (mm mm' : MmCtx) :
    (s.setCtx id mm).setCtx id mm' = s.setCtx id mm' := by
  simp [Sgsn.setCtx]

/-- The context of a message over Gb takes the LLC entity that it has come through. -/
theorem walks_takeLlme (hl : p.llme → s.view.LlmeFor id l) :
    Walks p (do
      modMm id fun mm ↦ { mm with llme := some l }
      gprsGbRecvPdu id) (fun _ s' ↦ ∃ mm mm', s.ctxs id = some mm ∧ mm.Touched mm' ∧
        mm'.llme = some l ∧ mm'.ra = mm.ra ∧ s' = s.setCtx id mm') s := by
  refine .modMmStep (fun mm hmm _ ↦ .takeLlme (view_entry_of_some hmm) l hl
    fun hp ↦ absurd hp Loose.ran) fun mm hmm ↦ ?_
  set mm₁ : MmCtx := { mm with llme := some l }
  have hmm₁ : (s.setCtx id mm₁).ctxs id = some mm₁ := Function.update_self ..
  have hstay : mm.Touched mm₁ := ⟨rfl, rfl, rfl, rfl, rfl, .rfl, rfl⟩
  unfold gprsGbRecvPdu mmStateGb
  refine .getMm fun mm₂ hmm₂ ↦ ?_
  obtain rfl := Option.some.inj (hmm₁.symm.trans hmm₂)
  rw [if_pos (Option.some_ne_none l)]
  refine .getMm fun mm₂ hmm₂ ↦ ?_
  obtain rfl := Option.some.inj (hmm₁.symm.trans hmm₂)
  cases hgb : mm.mmGb with
  | idle | ready =>
    exact .pure ⟨mm, mm₁, hmm, hstay, rfl, rfl, rfl⟩
  | standby =>
    refine .modMmStep (fun mm₂ hmm₂ _ ↦ .mmGb (view_entry_of_some hmm₂) .ready (by simp))
      fun mm₂ hmm₂ ↦ ?_
    obtain rfl := Option.some.inj (hmm₁.symm.trans hmm₂)
    refine .pure ⟨mm, { mm₁ with mmGb := .ready }, hmm, ?_, rfl, rfl, setCtx_setCtx ..⟩
    exact ⟨rfl, rfl, rfl, rfl, rfl, by simp [hgb], rfl⟩

end Loose

/-! ## Messages that break a promise -/

/-- A message as it is taken: the context that it belongs to, how it has come, and what it is. -/
structure Uplink where
  ctx : Option CtxId
  radio : Radio
  msg : UplinkMsg

/-- Downlink data for the mobile station is dropped. -/
def MmCtx.lost (mm : MmCtx) : Bool :=
  match mm.ranType with
  | .geranGb => mm.mmGb = .idle
  | .utranIu => mm.pmm = .detached

/-- A context that has a connection, which it would keep if it left Iu. -/
def MmCtx.strays (mm : MmCtx) : Bool :=
  mm.ranType = .utranIu ∧ mm.ueCtx ≠ none ∧ mm.pmm ≠ .connected

/-- A context has a property. -/
def Sgsn.ctxHas (s : Sgsn) (P : MmCtx → Bool) (id : CtxId) : Bool := (s.ctxs id).any P

namespace Uplink

variable (s : Sgsn) (u : Uplink)

/-- The context that a message is carried out for. Some may be for another one than that which they
belong to. -/
def target : Option CtxId :=
  match u.msg with
  | .gmm (.attachReq req) => attReqFor s u.ctx req
  | .gmm (.raUpdReq req) => raUpdReqFor s u.ctx u.radio req
  | .gmm (.serviceReq req) => req.mi.bind (serviceReqContext s u.ctx)
  | _ => u.ctx

/-- An identity response gives a context that has an IMSI the one of another context. -/
def MergesImsi : Prop :=
  match u.msg with
  | .gmm (.idResp (some (.imsi imsi))) => imsi ≠ [] ∧
    (u.ctx.any (s.ctxHas fun mm ↦
      mm.ranType = u.radio.ranType ∧ mm.t3370IdType ≠ .none ∧ mm.imsi ≠ []) ∧
    ∃ id ∈ s.mmList, u.ctx ≠ some id ∧ s.ctxHas (·.imsi = imsi) id)
  | _ => False

/-- A context is made for an attach request with the P-TMSI `t`. -/
def MakesPtmsi (t : BitVec 32) : Prop :=
  match u.msg with
  | .gmm (.attachReq req) =>
    ¬ req.Malformed ∧ req.mi = some (.tmsi t) ∧ attReqFor s u.ctx req = none
  | _ => False

/-- A message over Gb leaves its LLC entity to a context that points to it. -/
def Spares (id : CtxId) : Prop :=
  match u.ctx, u.msg with
  | some own, _ => id = own
  | none, .gmm (.attachReq _) => u.target s = some id
  | none, .gmm (.raUpdReq req) =>
    match u.target s with
    | some found => s.ctxHas (·.ranType = .geranGb) found ∨ id = found
    | none => ¬ req.Refused ∧ s.ctxHas (·.ranType = .geranGb) id
  | none, .gmm msg => ¬ msg.NeedsContext
  | none, _ => True

/-- A message over Gb gives its LLC entity to a second context, or gives it up, while a context
points to it. -/
def SplitsLlme : Prop :=
  match u.radio with
  | .gb _ _ l => ∃ id ∈ s.mmList, s.ctxHas (·.llme = some l) id ∧ ¬ u.Spares s id
  | .iu _ => False

/-- A context on Gb is bound to a connection, or one leaves Iu that keeps its connection. -/
def StraysUe : Prop :=
  match u.radio, u.msg with
  | .gb .., .gmm (.attachReq _) | .gb .., .gmm (.raUpdReq _) =>
    (u.target s).any (s.ctxHas MmCtx.strays)
  | .iu _, .gmm (.serviceReq _) =>
    u.ctx = none ∧ (u.target s).any (s.ctxHas (·.ranType = .geranGb))
  | _, _ => False

/-- A routing area update is completed for a context that cannot be reached. -/
def RegistersLost : Prop :=
  u.msg = .gmm .raUpdCompl ∧ u.ctx.any (s.ctxHas fun mm ↦
    mm.ranType = u.radio.ranType ∧ mm.gmm = .commonProcInit ∧ mm.lost)

/-- A message keeps what is promised. -/
structure Keeps (p : Promises) : Prop where
  imsi : p.imsi → ¬ u.MergesImsi s
  reserved : p.reserved → ¬ u.MakesPtmsi s gsmReservedTmsi
  llme : p.llme → ¬ u.SplitsLlme s
  assignable : p.llme → ∀ t, localTlli t = tlliUnassigned → ¬ u.MakesPtmsi s t
  ue : p.ue → ¬ u.StraysUe s
  reach : p.reach → ¬ u.RegistersLost s

/-- What a message keeps depends on the contexts, and on nothing else of the gateway. -/
theorem Keeps.elsewhere {s : Sgsn} {u : Uplink} (h : u.Keeps s p) (llmes : List Llme)
    (nextLlme : LlmeId) (ues : UeId → Option UeConn) (ueList : List UeId) (env : Env)
    (obs : List Obs) : u.Keeps { s with
      llmes := llmes, nextLlme := nextLlme, ues := ues, ueList := ueList, env := env,
      obs := obs } p :=
  ⟨h.imsi, h.reserved, h.llme, h.assignable, h.ue, h.reach⟩

end Uplink

/-! ## Where a message leads -/

theorem ctxHas_of_entry {P : MmCtx → Bool} {mm : MmCtx} (hmm : s.ctxs id = some mm) :
    s.ctxHas P id = P mm := by
  rw [Sgsn.ctxHas, hmm, Option.any_some]

theorem attReqFor_own {own : CtxId} {req : AttachRequest} (s s' : Sgsn) :
    attReqFor s (some own) req = attReqFor s' (some own) req := by
  unfold attReqFor
  congr 2

theorem eq_own_of_attReqFor {req : AttachRequest} (h : attReqFor s ctx req = some id)
    {own : CtxId} (hown : ctx = some own) : own = id := by
  subst hown
  unfold attReqFor at h
  split at h
  · exact absurd h (by simp)
  · obtain ⟨mi, -, hmi⟩ := Option.bind_eq_some_iff.mp h
    cases mi with
    | imsi _ | tmsi _ => exact Option.some.inj hmi
    | imei _ | imeisv _ => exact absurd hmi (by simp [attReqFound])

theorem not_own_of_attReqFor {req : AttachRequest} {t : BitVec 32} (hwell : ¬ req.Malformed)
    (hmi : req.mi = some (.tmsi t)) (h : attReqFor s ctx req = none) : ctx = none := by
  rw [attReqFor, if_neg hwell, hmi] at h
  exact (orElse_eq_none.mp h).1

theorem raUpdReqFor_own {req : RaUpdRequest} {own : CtxId}
    (h : raUpdReqFor s (some own) radio req = some id) :
    own = id ∧ s.ctxHas (fun mm ↦ mm.ra = req.oldRai ∧ mm.gmm ≠ .deregistered) own = true := by
  unfold raUpdReqFor raUpdReqFound at h
  split at h
  · exact absurd h (by simp)
  · obtain ⟨hhas, heq⟩ := Option.ite_none_right_eq_some.mp h
    exact ⟨Option.some.inj heq, hhas⟩

theorem eq_own_of_serviceReq {mi : MobileIdentity} (h : serviceReqContext s ctx mi = some id)
    {own : CtxId} (hown : ctx = some own) : own = id := by
  subst hown
  cases mi with
  | imsi _ | tmsi _ => exact Option.some.inj h
  | imei _ | imeisv _ => exact absurd h (by simp [serviceReqContext])

/-- What a message has written before it is taken: nothing if it belongs to no context. -/
structure Uplink.Bound (u : Uplink) (s s' : Sgsn) : Prop where
  unowned : u.ctx = none → s' = s
  owned : ∀ id, u.ctx = some id → ∃ mm mm', s.ctxs id = some mm ∧ mm.Touched mm' ∧
    (mm'.ra = mm.ra ∨ u.radio.ranType = .utranIu) ∧ s' = s.setCtx id mm'

theorem MmCtx.Touched.lost {mm mm' : MmCtx} (h : mm.Touched mm') (hlost : ¬ mm'.entry.Reachable) :
    mm.lost = true := by
  have hran : mm'.entry.ranType = mm.ranType := h.ranType
  unfold Entry.Reachable at hlost
  unfold MmCtx.lost
  cases hr : mm.ranType with
  | geranGb =>
    simp only [hran, hr, not_not] at hlost
    exact decide_eq_true (h.mmGb.mp hlost)
  | utranIu =>
    simp only [hran, hr, not_not] at hlost
    exact decide_eq_true (h.pmm.symm.trans hlost)

namespace Uplink

variable {u : Uplink}

theorem Bound.beside (hb : u.Bound s s') (hown : ∀ own, u.ctx = some own → own = id) :
    s.view.Beside id s'.view := by
  cases hctx : u.ctx with
  | none =>
    rw [hb.unowned hctx]
    exact .refl ..
  | some own =>
    obtain ⟨mm, mm', -, -, -, rfl⟩ := hb.owned own hctx
    obtain rfl := hown own hctx
    rw [view_setCtx]
    exact .set ..

/-- The context that a message is carried out for, before and after the own one is written to. -/
theorem Bound.touched (hb : u.Bound s s') (hown : ∀ own, u.ctx = some own → own = id)
    {mm' : MmCtx} (hmm' : s'.ctxs id = some mm') : ∃ mm, s.ctxs id = some mm ∧ mm.Touched mm' ∧
      (mm'.ra = mm.ra ∨ u.radio.ranType = .utranIu) := by
  cases hctx : u.ctx with
  | none =>
    rw [hb.unowned hctx] at hmm'
    exact ⟨mm', hmm', ⟨rfl, rfl, rfl, rfl, rfl, .rfl, rfl⟩, .inl rfl⟩
  | some own =>
    obtain rfl := hown own hctx
    obtain ⟨mm, mm₁, hmm, htouch, hra, rfl⟩ := hb.owned own hctx
    obtain rfl : mm₁ = mm' := by simpa [Sgsn.setCtx] using hmm'
    exact ⟨mm, hmm, htouch, hra⟩

theorem not_strays {mm : MmCtx} (h : mm.strays = false) (hiu : mm.ranType = .utranIu) :
    mm.pmm = .connected ∨ mm.ueCtx = none := by
  simp only [MmCtx.strays, hiu, true_and, decide_eq_false_iff_not, not_and_or, not_not] at h
  exact h.symm

theorem spares_of_not_splits (h : ¬ u.SplitsLlme s) (hidx : Indexed s.view)
    (hr : u.radio = .gb tlli cell l) (he : s.view.entry id = some e) (hl : e.llme = some l) :
    u.Spares s id := by
  obtain ⟨mm, hmm, rfl⟩ := Option.map_eq_some_iff.mp he
  by_contra hspares
  refine h ?_
  simp only [SplitsLlme, hr]
  refine ⟨id, mem_mmList hidx hmm, ?_, hspares⟩
  rw [ctxHas_of_entry hmm]
  exact decide_eq_true hl

theorem llmeUnused (h : ¬ u.SplitsLlme s) (hidx : Indexed s.view)
    (hr : u.radio = .gb tlli cell l) (hspares : ∀ j, ¬ u.Spares s j) : s.view.LlmeUnused l :=
  fun j _ he hl ↦ hspares j (spares_of_not_splits h hidx hr he hl)

theorem llmeFor (h : ¬ u.SplitsLlme s) (hidx : Indexed s.view) (hr : u.radio = .gb tlli cell l)
    (hlive : l ∈ s.view.liveLlmes) (hown : ∀ own, u.ctx = some own → own = id)
    (hspares : u.ctx = none → ∀ j, u.Spares s j → j = id) : s.view.LlmeFor id l := by
  refine ⟨hlive, fun j e he hj hl ↦ hj ?_⟩
  have hs := spares_of_not_splits h hidx hr he hl
  cases hctx : u.ctx with
  | none => exact hspares hctx j hs
  | some own =>
    simp only [Spares, hctx] at hs
    exact hs.trans (hown own hctx)

/-- Where a message has come from is there, and no other context has it. -/
structure Arrives (p : Promises) (s s' : Sgsn) (u : Uplink) : Prop where
  bound : u.Bound s s'
  llme : ∀ tlli cell l, u.radio = .gb tlli cell l → l ∈ s.view.liveLlmes
  ue : ∀ ue, u.radio = .iu ue → p.ue → ∀ id, (∀ own, u.ctx = some own → own = id) →
    s.view.UeFor id ue
  linked : ∀ id, u.ctx = some id → s'.view.Linked id

variable (h : u.Keeps s p) (hidx : Indexed s.view) (ha : u.Arrives p s s')

include h hidx ha

theorem Keeps.attachFits {req : AttachRequest} (hmsg : u.msg = .gmm (.attachReq req)) :
    req.Fits p s' u.ctx u.radio := by
  have hspares (hnone : u.ctx = none) (j : CtxId) :
      u.Spares s j ↔ attReqFor s none req = some j := by
    simp only [Spares, target, hnone, hmsg]
  have hfor : attReqFor s' u.ctx req = attReqFor s u.ctx req := by
    cases hctx : u.ctx with
    | none => rw [ha.bound.unowned hctx]
    | some own => exact attReqFor_own ..
  refine ⟨fun id hid ↦ ?_, fun hid hnone ↦ ?_, fun t hwell hmi hid ↦ ?_⟩
  · have hown := fun own (hctx : u.ctx = some own) ↦ eq_own_of_attReqFor hid hctx
    cases hr : u.radio with
    | iu ue => exact fun hp ↦ (ha.ue ue hr hp id hown).beside (ha.bound.beside hown)
    | gb tlli cell l =>
      refine ⟨fun hp ↦ Registry.LlmeFor.beside ?_ (ha.bound.beside hown), fun hp e he hiu ↦ ?_⟩
      · refine llmeFor (h.llme hp) hidx hr (ha.llme _ _ _ hr) hown fun hnone j hj ↦ ?_
        rw [hspares hnone, ← hnone, ← hfor, hid] at hj
        exact (Option.some.inj hj).symm
      · obtain ⟨mm', hmm', rfl⟩ := Option.map_eq_some_iff.mp he
        obtain ⟨mm, hmm, htouch, -⟩ := ha.bound.touched hown hmm'
        have hstrays := h.ue hp
        simp only [StraysUe, hr, hmsg, target] at hstrays
        rw [← hfor, hid, Option.any_some, ctxHas_of_entry hmm, Bool.not_eq_true] at hstrays
        have hleave := not_strays hstrays (htouch.ranType.symm.trans hiu)
        rwa [← htouch.pmm, ← htouch.ueCtx] at hleave
  · rw [ha.bound.unowned hnone]
    have hown : ∀ id own, u.ctx = some own → own = id := by simp [hnone]
    cases hr : u.radio with
    | iu ue => exact fun hp id ↦ ha.ue ue hr hp id (hown id)
    | gb tlli cell l =>
      refine fun hp id ↦ llmeFor (h.llme hp) hidx hr (ha.llme _ _ _ hr) (hown id) fun _ j hj ↦ ?_
      rw [hspares hnone, ← hnone, ← hfor, hid] at hj
      exact absurd hj (by simp)
  · have hnone := not_own_of_attReqFor hwell hmi hid
    have hmakes : u.MakesPtmsi s t := by
      simp only [MakesPtmsi, hmsg]
      exact ⟨hwell, hmi, hfor ▸ hid⟩
    refine ⟨fun hp heq ↦ h.reserved hp (heq ▸ hmakes), fun hp heq ↦ h.assignable hp t heq hmakes⟩

theorem Keeps.raUpdFits {req : RaUpdRequest} (hmsg : u.msg = .gmm (.raUpdReq req)) :
    req.Fits p s' u.ctx u.radio := by
  -- over Gb a message changes nothing that the context is chosen by
  have hfor (id : CtxId) (hgb : u.radio.ranType = .geranGb)
      (hid : raUpdReqFor s' u.ctx u.radio req = some id) :
      raUpdReqFor s u.ctx u.radio req = some id := by
    cases hctx : u.ctx with
    | none => rwa [ha.bound.unowned hctx, hctx] at hid
    | some own =>
      rw [hctx] at hid
      obtain ⟨rfl, hhas⟩ := raUpdReqFor_own hid
      obtain ⟨mm, mm', hmm, htouch, hra, rfl⟩ := ha.bound.owned own hctx
      have hra := hra.resolve_right (by simp [hgb])
      have hmm' : (s.setCtx own mm').ctxs own = some mm' := Function.update_self ..
      have hok : ¬ req.Refused := fun hbad ↦ by simp [raUpdReqFor, hbad] at hid
      rw [ctxHas_of_entry hmm', hra, htouch.gmm] at hhas
      rw [raUpdReqFor, if_neg hok]
      exact if_pos ((ctxHas_of_entry hmm).trans hhas)
  have hnospares (hnone : u.ctx = none) (hno : raUpdReqFor s none u.radio req = none) (j : CtxId) :
      u.Spares s j ↔ ¬ req.Refused ∧ s.ctxHas (·.ranType = .geranGb) j := by
    simp only [Spares, target, hnone, hmsg, hno]
  refine ⟨fun hbad hnone ↦ ?_, fun id hid ↦ ?_, fun tlli cell l hok hnone hr hid hby ↦ ?_⟩
  · rw [ha.bound.unowned hnone]
    cases hr : u.radio with
    | iu ue => trivial
    | gb tlli cell l =>
      refine fun hp ↦ llmeUnused (h.llme hp) hidx hr fun j hj ↦ ?_
      exact ((hnospares hnone (if_pos hbad) j).mp hj).1 hbad
  · have hown (own : CtxId) (hctx : u.ctx = some own) : own = id := by
      rw [hctx] at hid
      exact (raUpdReqFor_own hid).1
    cases hr : u.radio with
    | iu ue => exact fun hp ↦ (ha.ue ue hr hp id hown).beside (ha.bound.beside hown)
    | gb tlli cell l =>
      intro e he hiu
      obtain ⟨mm', hmm', rfl⟩ := Option.map_eq_some_iff.mp he
      obtain ⟨mm, hmm, htouch, -⟩ := ha.bound.touched hown hmm'
      have hfor := hfor id (by rw [hr]; rfl) hid
      have hiu := htouch.ranType.symm.trans hiu
      refine ⟨fun hp ↦ Registry.LlmeFor.beside ?_ (ha.bound.beside hown), fun hp ↦ ?_⟩
      · refine llmeFor (h.llme hp) hidx hr (ha.llme _ _ _ hr) hown fun hnone j hj ↦ ?_
        simp only [Spares, target, hnone, hmsg] at hj
        rw [← hnone, hfor] at hj
        refine hj.resolve_left fun hgb ↦ ?_
        rw [ctxHas_of_entry hmm, decide_eq_true_eq] at hgb
        exact absurd (hiu.symm.trans hgb) (by simp)
      · have hstrays := h.ue hp
        simp only [StraysUe, hr, hmsg, target] at hstrays
        rw [← hr, hfor, Option.any_some, ctxHas_of_entry hmm, Bool.not_eq_true] at hstrays
        have hleave := not_strays hstrays hiu
        rwa [← htouch.pmm, ← htouch.ueCtx] at hleave
  · rw [ha.bound.unowned hnone] at hid hby ⊢
    rw [hr]
    intro hp j e he hl
    have hs := spares_of_not_splits (h.llme hp) hidx hr he hl
    rw [hnospares hnone (by rwa [hnone] at hid)] at hs
    obtain ⟨mm, hmm, rfl⟩ := Option.map_eq_some_iff.mp he
    rw [ctxHas_of_entry hmm, decide_eq_true_eq] at hs
    have hnot := List.find?_eq_none.mp hby j (mem_mmList hidx hmm)
    rw [hmm, Option.any_some, decide_eq_true_eq] at hnot
    exact hnot ⟨hs.2, hl⟩

/-- A message that keeps what is promised has what it needs. -/
theorem Keeps.fits : u.msg.Fits p s' u.ctx u.radio where
  attachReq _ := h.attachFits hidx ha
  raUpdReq _ := h.raUpdFits hidx ha
  serviceReq req ue mi id e hmsg hr hmi hctx he hown hp := by
    have hfrom := fun own (howner : u.ctx = some own) ↦ eq_own_of_serviceReq hctx howner
    refine ⟨?_, (ha.ue ue hr hp id hfrom).beside (ha.bound.beside hfrom)⟩
    cases hnone : u.ctx with
    | some own =>
      obtain rfl := hfrom own hnone
      exact hown hnone
    | none =>
      have hstrays := h.ue hp
      rw [hnone, ha.bound.unowned hnone] at hctx
      simp only [StraysUe, hr, hmsg, hnone, target, hmi, Option.bind_some, hctx, Option.any_some,
        true_and] at hstrays
      obtain ⟨mm', hmm', rfl⟩ := Option.map_eq_some_iff.mp he
      obtain ⟨mm, hmm, htouch, -⟩ := ha.bound.touched hfrom hmm'
      rw [ctxHas_of_entry hmm, decide_eq_true_eq] at hstrays
      change mm'.ranType = .utranIu
      rw [htouch.ranType]
      cases hran : mm.ranType with
      | geranGb => exact absurd hran hstrays
      | utranIu => rfl
  idResp id mm' imsi hmsg hctx hmm' hran htype hold hne hp := by
    have hown (own : CtxId) (howner : u.ctx = some own) : own = id :=
      Option.some.inj (howner.symm.trans hctx)
    obtain ⟨mm, hmm, htouch, -⟩ := ha.bound.touched hown hmm'
    refine Registry.ImsiFor.beside ?_ (ha.bound.beside hown)
    intro j e he hj himsi
    obtain ⟨x, hx, rfl⟩ := Option.map_eq_some_iff.mp he
    refine h.imsi hp ?_
    simp only [MergesImsi, hmsg, hctx, Option.any_some]
    refine ⟨hne, ?_, j, mem_mmList hidx hx, fun heq ↦ hj (Option.some.inj heq).symm, ?_⟩
    · rw [ctxHas_of_entry hmm, decide_eq_true_eq, ← htouch.ranType, ← htouch.t3370IdType,
        ← htouch.imsi]
      exact ⟨hran, htype, hold⟩
    · rw [ctxHas_of_entry hx]
      exact decide_eq_true himsi
  raUpdCompl id e hmsg hctx he hran hgmm hp := by
    have hown (own : CtxId) (howner : u.ctx = some own) : own = id :=
      Option.some.inj (howner.symm.trans hctx)
    obtain ⟨mm', hmm', rfl⟩ := Option.map_eq_some_iff.mp he
    obtain ⟨mm, hmm, htouch, -⟩ := ha.bound.touched hown hmm'
    by_contra hlost
    refine h.reach hp ⟨hmsg, ?_⟩
    rw [hctx, Option.any_some, ctxHas_of_entry hmm, decide_eq_true_eq, ← htouch.ranType,
      ← htouch.gmm]
    exact ⟨hran, hgmm, htouch.lost hlost⟩
  unknown tlli cell l msg hmsg hnone hr hneeds hp := by
    rw [ha.bound.unowned hnone]
    refine llmeUnused (h.llme hp) hidx hr fun j hj ↦ ?_
    cases msg with
    | attachReq _ | raUpdReq _ => exact hneeds
    | _ =>
      simp only [Spares, hnone, hmsg] at hj
      exact hj hneeds
  sm id _ _ hctx := ha.linked id hctx

omit h hidx ha

end Uplink

/-! ## Entry points -/

/-- The LLC entity that a frame with a TLLI comes through. -/
def Sgsn.llmeFor (s : Sgsn) (tlli : BitVec 32) : LlmeId :=
  match s.llmeByTlli tlli with
  | some llme => llme.id
  | none => s.nextLlme

/-- A message that is dropped is taken as one that does nothing. -/
def UplinkMsg.passed (drop : Bool) : UplinkMsg → UplinkMsg
  | .gmm msg => if drop then .unknown else .gmm msg
  | msg => msg

/-- The message of an event. -/
def Event.uplink (s : Sgsn) : Event → Option Uplink
  | .gb tlli cell drop msg =>
    some ⟨sgsnMmCtxByTlli s tlli cell, .gb tlli cell (s.llmeFor tlli), msg.passed drop⟩
  | .iuInitial ue _ _ msg =>
    if (s.ues ue).isNone then some ⟨sgsnMmCtxByUeCtx s ue, .iu ue, msg⟩ else none
  | .iuData ue _ msg =>
    if (s.ues ue).isSome then some ⟨sgsnMmCtxByUeCtx s ue, .iu ue, msg⟩ else none
  | _ => none

/-- An event keeps what is promised. -/
def Event.Keeps (p : Promises) (s : Sgsn) (e : Event) : Prop :=
  ∀ u, e.uplink s = some u → u.Keeps s p

theorem walks_gprsLleGetOrCreate : Walks p (gprsLleGetOrCreate tlli) (fun l s' ↦
    l = s.llmeFor tlli ∧ (s' = s ∨ s' = s.addLlme tlli) ∧ l ∈ s'.view.liveLlmes) s := by
  unfold gprsLleGetOrCreate Sgsn.llmeFor
  refine .get ?_
  cases hby : s.llmeByTlli tlli with
  | some llme =>
    exact .pure ⟨rfl, .inl rfl, List.mem_map_of_mem (List.mem_of_find?_eq_some hby)⟩
  | none =>
    refine .modify (f := fun _ ↦ s.addLlme tlli) (fun _ ↦ .single (.addLlme tlli)) (.pure ?_)
    exact ⟨rfl, .inr rfl, List.mem_cons_self ..⟩

section Loose

variable [Loose p] {c : Calls} [c.Follow p]

theorem walks_gsm0408GprsRcvmsgGb {drop : Bool} {msg : UplinkMsg}
    (h : (Uplink.mk (sgsnMmCtxByTlli s tlli cell) (.gb tlli cell l) (msg.passed drop)).Keeps s p)
    (hl : l ∈ s.view.liveLlmes) :
    Walks p (gsm0408GprsRcvmsgGb c tlli cell l drop msg) Any s := by
  set u : Uplink := ⟨sgsnMmCtxByTlli s tlli cell, .gb tlli cell l, msg.passed drop⟩
  refine .kept fun hkept ↦ .get (.bind (Q := fun _ s' ↦ u.Arrives p s s') ?_ fun _ s₁ hs₁ ↦ ?_)
  rotate_left
  · -- a message that is dropped is one that says nothing
    have hwalks : Walks p (gsm0408GprsRcvmsg c u.ctx u.radio u.msg) Any s₁ :=
      walks_gsm0408GprsRcvmsg (h.fits hkept.indexed hs₁)
    cases msg <;> cases drop <;> exact hwalks
  have hlive : ∀ tlli cell l, u.radio = .gb tlli cell l → l ∈ s.view.liveLlmes := by
    intro _ _ l' hr
    obtain ⟨-, -, rfl⟩ := Radio.gb.inj hr
    exact hl
  have hue : ∀ ue, u.radio = .iu ue → p.ue → ∀ id, (∀ own, u.ctx = some own → own = id) →
      s.view.UeFor id ue := fun ue hr ↦ absurd hr (by simp [u])
  cases hctx : sgsnMmCtxByTlli s tlli cell with
  | none =>
    refine .pure ⟨⟨fun _ ↦ rfl, fun id hid ↦ ?_⟩, hlive, hue, fun id hid ↦ ?_⟩
    · exact absurd (hctx.symm.trans hid) (by simp)
    · exact absurd (hctx.symm.trans hid) (by simp)
  | some id =>
    have hown : ∀ own, u.ctx = some own → own = id := fun own hid ↦
      Option.some.inj (hid.symm.trans hctx)
    have hfor (hp : p.llme) : s.view.LlmeFor id l :=
      Uplink.llmeFor (h.llme hp) hkept.indexed rfl hl hown fun hnone ↦
        absurd (hctx.symm.trans hnone) (by simp)
    refine (walks_takeLlme hfor).mono ?_
    rintro - s₁ ⟨mm, mm', hmm, htouch, hllme, hra, rfl⟩
    refine ⟨⟨fun hnone ↦ ?_, fun own hid ↦ ?_⟩, hlive, hue, fun own hid e he ↦ .inr ?_⟩
    · exact absurd (hctx.symm.trans hnone) (by simp)
    · obtain rfl := hown own hid
      exact ⟨mm, mm', hmm, htouch, .inl hra, rfl⟩
    · obtain rfl := hown own hid
      rw [view_setCtx, Registry.set_entry_self] at he
      obtain rfl := Option.some.inj he
      change mm'.llme ≠ none
      rw [hllme]
      exact Option.some_ne_none l

omit [Loose p] [c.Follow p] in
theorem setCtx_self {mm : MmCtx} (hmm : s.ctxs id = some mm) : s.setCtx id mm = s := by
  rw [Sgsn.setCtx, ← hmm, Function.update_eq_self]

omit [Loose p] [c.Follow p] in
/-- A connection belongs to the context that is found by it, or to none. -/
theorem ueFor_of_byUe (h : BoundUes s.view) (hidx : Indexed s.view) (hue : s.view.ues ue = true)
    (hown : ∀ own, sgsnMmCtxByUeCtx s ue = some own → own = id) : s.view.UeFor id ue := by
  refine ⟨hue, fun j e he hj hiu hj' ↦ ?_⟩
  cases hby : sgsnMmCtxByUeCtx s ue with
  | none =>
    obtain ⟨mm, hmm, rfl⟩ := Option.map_eq_some_iff.mp he
    have hnot := List.find?_eq_none.mp hby j (mem_mmList hidx hmm)
    rw [hmm, Option.any_some, decide_eq_true_eq] at hnot
    exact hnot ⟨hiu, hj'⟩
  | some own =>
    obtain rfl := hown own hby
    have hhas := List.find?_some (l := s.mmList) hby
    obtain ⟨mm, hmm, hp⟩ := Option.any_eq_true _ _ |>.mp hhas
    obtain ⟨-, hmmue⟩ := of_decide_eq_true hp
    exact hj (h.owned.unique j e own _ ue he (view_entry_of_some hmm) hj' hmmue)

theorem walks_gsm0408GprsRcvmsgIu {ra : Option RaId} {msg : UplinkMsg}
    (h : (Uplink.mk (sgsnMmCtxByUeCtx s ue) (.iu ue) msg).Keeps s p)
    (hue : s.view.ues ue = true) : Walks p (gsm0408GprsRcvmsgIu c ue ra msg) Any s := by
  set u : Uplink := ⟨sgsnMmCtxByUeCtx s ue, .iu ue, msg⟩
  refine .kept fun hkept ↦ .get ?_
  refine .bind (Q := fun _ s' ↦ u.Arrives p s s') ?_ fun _ s₁ hs₁ ↦
    walks_gsm0408GprsRcvmsg (h.fits hkept.indexed hs₁)
  have hllme : ∀ tlli cell l, u.radio = .gb tlli cell l → l ∈ s.view.liveLlmes :=
    fun _ _ _ hr ↦ absurd hr (by simp [u])
  have hfor : ∀ ue', u.radio = .iu ue' → p.ue → ∀ id, (∀ own, u.ctx = some own → own = id) →
      s.view.UeFor id ue' := by
    intro ue' hr hp id hown
    obtain rfl := Radio.iu.inj hr
    exact ueFor_of_byUe (hkept.ue hp) hkept.indexed hue hown
  cases hctx : sgsnMmCtxByUeCtx s ue with
  | none =>
    refine .pure ⟨⟨fun _ ↦ rfl, fun id hid ↦ ?_⟩, hllme, hfor, fun id hid ↦ ?_⟩
    · exact absurd (hctx.symm.trans hid) (by simp)
    · exact absurd (hctx.symm.trans hid) (by simp)
  | some id =>
    have hhas := List.find?_some (l := s.mmList) hctx
    obtain ⟨mm, hmm, hp⟩ := Option.any_eq_true _ _ |>.mp hhas
    obtain ⟨hiu, -⟩ := of_decide_eq_true hp
    have harrives (mm' : MmCtx) (htouch : mm.Touched mm') : u.Arrives p s (s.setCtx id mm') := by
      have hown : ∀ own, u.ctx = some own → own = id := fun own hid ↦
        Option.some.inj (hid.symm.trans hctx)
      refine ⟨⟨fun hnone ↦ ?_, fun own hid ↦ ?_⟩, hllme, hfor, fun own hid e he ↦ .inl ?_⟩
      · exact absurd (hctx.symm.trans hnone) (by simp)
      · obtain rfl := hown own hid
        exact ⟨mm, mm', hmm, htouch, .inr rfl, rfl⟩
      · obtain rfl := hown own hid
        rw [view_setCtx, Registry.set_entry_self] at he
        obtain rfl := Option.some.inj he
        exact htouch.ranType.trans hiu
    cases ra with
    | none =>
      refine .pure ?_
      have hstay := harrives mm ⟨rfl, rfl, rfl, rfl, rfl, .rfl, rfl⟩
      rwa [setCtx_self hmm] at hstay
    | some ra =>
      refine .last (.modMmStep (fun mm' hmm' _ ↦ .place (view_entry_of_some hmm') ra)
        fun mm' hmm' ↦ .pure ?_)
      obtain rfl := Option.some.inj (hmm.symm.trans hmm')
      exact harrives _ ⟨rfl, rfl, rfl, rfl, rfl, .rfl, rfl⟩

omit [Loose p] [c.Follow p] in
theorem view_addUe {conn : UeConn} :
    ({ s.setUe ue conn with ueList := ue :: s.ueList } : Sgsn).view = s.view.addUe ue := by
  simp only [Sgsn.view, Sgsn.setUe, Registry.addUe, Registry.mk.injEq, and_true, true_and]
  funext u
  by_cases hu : u = ue
  · subst hu
    simp
  · simp [hu]

theorem walks_ranapHandleCoInitialUe {rnc : ℕ} {ra : RaId} {msg : UplinkMsg}
    (hnew : s.ues ue = none)
    (h : (Uplink.mk (sgsnMmCtxByUeCtx s ue) (.iu ue) msg).Keeps s p) :
    Walks p (ranapHandleCoInitialUe c ue rnc ra msg) Any s := by
  refine .modify (fun _ ↦ ?_) (walks_gsm0408GprsRcvmsgIu (h.elsewhere _ _ _ _ _ _) ?_)
  · rw [view_addUe]
    exact .single (.addUe ue (by simp [Sgsn.view, hnew]))
  · rw [view_addUe]
    exact Function.update_self ..

omit [Loose p] in
instance : Follows p (sgsnLlmeCleanupFree l) := by
  refine ⟨fun s ↦ .kept fun hkept ↦ .get ?_⟩
  split
  · exact Follows.walks s
  · rename_i hnone
    refine walks_gprsLlgmmUnassign fun _ id e he hl ↦ ?_
    obtain ⟨mm, hmm, rfl⟩ := Option.map_eq_some_iff.mp he
    have hnot := List.find?_eq_none.mp hnone id (mem_mmList hkept.indexed hmm)
    rw [hmm, Option.any_some, decide_eq_true_eq] at hnot
    exact hnot hl

/-- **The code follows the rules**: an event that keeps what is promised is handled by them. -/
theorem walks_handle (ev : Event) (h : ev.Keeps p s) : Walks p (handle c ev) Any s := by
  cases ev with
  | gb tlli cell drop msg =>
    refine .bind walks_gprsLleGetOrCreate ?_
    rintro l s₁ ⟨rfl, rfl | rfl, hlive⟩
    · exact walks_gsm0408GprsRcvmsgGb (h _ rfl) hlive
    · exact walks_gsm0408GprsRcvmsgGb ((h _ rfl).elsewhere _ _ _ _ _ _) hlive
  | iuInitial ue rnc ra msg =>
    refine .get ?_
    cases hue : s.ues ue with
    | none => exact walks_ranapHandleCoInitialUe hue (h _ (by simp [Event.uplink, hue]))
    | some conn => exact .pure trivial
  | iuData ue ra msg =>
    refine .get ?_
    cases hue : s.ues ue with
    | none => exact .pure trivial
    | some conn =>
      exact walks_gsm0408GprsRcvmsgIu (h _ (by simp [Event.uplink, hue])) (by simp [Sgsn.view, hue])
  | dnsAnswer id answer =>
    refine .get ?_
    split
    · rename_i mm hmm
      beta_reduce
      split
      · rename_i lookup hlookup
        exact walks_ggsnLookupCb hmm hlookup
      · exact .pure trivial
    · exact .pure trivial
  | llmeTimeout llme =>
    refine .get ?_
    split
    · exact .pure trivial
    · exact Follows.walks s
  | llcFrame _ | sndcpPdu _ _ | gsup _ _ | mmTimer _ | attachTimer _ | readyTimer _
  | pdpTimer _ _ _ | suspend _ _ | resume _ _ | securityModeComplete _ | rabAssign _ _
  | iuRelease _ | linkInvalidated _ | rncLoss _ _ | gtp _ _ _ | cancel _ | detach _ =>
    -- nothing is promised about these
    refine (?_ : Follows p _).walks s
    unfold handle
    infer_instance

end Loose

end OsmoSgsn.Gmm
