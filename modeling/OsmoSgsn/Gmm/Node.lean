import OsmoSgsn.Library.Machine
import OsmoSgsn.Gmm.Session

/-!
# The gateway as a machine

What happens at a gateway: a mobile station or the HLR sends a message, a timer expires, the state
of an Iu connection changes, an RNC is lost, a GGSN confirms a PDP context, a name is looked up, the
operator removes a subscriber. Each event is handled to its end before the next one is taken. What
the layers below answer while it is handled is part of the event.

A fault ends the process: the node stays as it is and takes no event any more.
-/

namespace OsmoSgsn.Gmm

/-! ## Messages from the HLR -/

/-- The GSUP messages that the gateway takes. -/
inductive GsupMsg
  | authInfoResult (vectors : List AuthVector)
  | authInfoError (cause : ℕ)
  | updateLocationResult
  | updateLocationError (cause : ℕ)
  | purgeResult
  | purgeError
  | insertData
  | deleteData (ps : Bool)
  | locationCancel (updateProcedure : Bool)
  | other
  deriving DecidableEq, Repr

/-- The kinds of error cause. -/
inductive CauseError
  | eacces | ehostunreach | einval
  deriving DecidableEq, Repr

/-- `check_cause`. -/
def checkCause (cause : ℕ) : CauseError :=
  if 2 ≤ cause ∧ cause ≤ 14 then .eacces
  else if 16 ≤ cause ∧ cause ≤ 22 then .ehostunreach
  else .einval

/-- The cause of an error message, where a missing one is a network failure. -/
def gsupCause (cause : ℕ) : ℕ := if cause = 0 then 17 else cause

/-- The tuples that authentication vectors fill. -/
def tripletsOf (vectors : List AuthVector) : List GsmAuthTuple :=
  (List.range 5).map fun i ↦ match vectors[i]? with
    | some vec => ⟨0, i, vec⟩
    | none => .cleared

/-- What a message writes to the record, up to the call into the authorization layer. -/
def GsupMsg.record : GsupMsg → Subscr → Subscr
  | .authInfoResult vectors, x => { x with
      authTriplets := if vectors = [] then x.authTriplets else tripletsOf vectors
      authTripletsUpdated := true, errorCause := none, authInfoPending := false }
  | .authInfoError cause, x =>
    let cause := gsupCause cause
    match checkCause cause with
    | .eacces => { x with
        authTriplets := List.replicate 5 .cleared, authorized := false, errorCause := some cause,
        authInfoPending := false }
    | .ehostunreach => { x with errorCause := some cause, authInfoPending := false }
    | .einval => { x with errorCause := some cause }
  | .updateLocationError cause, x =>
    let cause := gsupCause cause
    match checkCause cause with
    | .eacces =>
      { x with authorized := false, errorCause := some cause, authInfoPending := false }
    | .ehostunreach => { x with errorCause := some cause, authInfoPending := false }
    | .einval => x
  | .updateLocationResult, x | .insertData, x =>
    { x with authorized := true, errorCause := none, enablePurge := true, locationPending := false }
  | .purgeResult, x | .purgeError, x | .locationCancel true, x => { x with
      errorCause := none, authorized := false, cancelled := true, enablePurge := false,
      locationPending := false }
  | .locationCancel false, x => { x with
      errorCause := some 10, authorized := false, cancelled := true, enablePurge := false,
      locationPending := false }
  | .deleteData _, x | .other, x => x

/-- Whether the authorization layer is called after that. -/
def GsupMsg.updates : GsupMsg → Bool
  | .authInfoError cause | .updateLocationError cause => checkCause (gsupCause cause) ≠ .einval
  | .deleteData _ | .other => false
  | _ => true

section Calls

variable (c : Calls)

/-- `gprs_subscr_update` and `gprs_subscr_update_auth_info`, after the flags are cleared. -/
def gprsSubscrUpdate (sid : SubId) : SgsnM Unit := do
  match (← getSubscr sid).mm with
  | some id => sgsnAuthUpdate c id
  | none => pure ()

/-- The handlers of `gprs_subscr_rx_gsup_message`. The answers to the HLR are not modelled. -/
def gprsSubscrHandleGsup (sid : SubId) (msg : GsupMsg) : SgsnM Unit := do
  modSubscr sid msg.record
  (if msg.updates then gprsSubscrUpdate c sid else pure ())
  match msg with
  | .purgeResult | .purgeError | .locationCancel _ => gprsSubscrCleanup sid
  | .deleteData true =>
    match (← getSubscr sid).mm with
    | some id => gsm0408GprsAccessCancelled id (some 7)
    | none => throw .noContext
  | _ => pure ()

/-- `gprs_subscr_rx_gsup_message`. -/
def gprsSubscrRxGsupMessage (imsi : Digits) (msg : GsupMsg) : SgsnM Unit := do
  match ← gprsSubscrGetByImsi imsi with
  | none => pure ()
  | some sid =>
    gprsSubscrHandleGsup c sid msg
    gprsSubscrPut sid

/-! ## Timers -/

/-- `mmctx_timer_cb`. The timer is no longer pending when it is called. -/
def mmctxTimerCb (id : CtxId) : SgsnM Unit := do
  modMm id fun mm ↦ { mm with timerPending := false, numTExp := mm.numTExp + 1 }
  let mm ← getMm id
  if mm.timerNr = 3350 then
    if 5 ≤ mm.numTExp then
      if mm.att ≠ .init ∧ mm.att ≠ .reject then attachReject id none
      else gprsGmmMmCtxCleanupFree id
    else
      let _ ← (match mm.t3350Mode with
        | .att => gsm48GmmSendmsg id .attachAccept
        | .rau => gsm48GmmSendmsg id .raUpdAccept
        | _ => pure true)
      reschedule
  else if mm.timerNr = 3360 then
    if 5 ≤ mm.numTExp ∨ mm.authTriplet.keySeq = gsmKeySeqInval then gprsGmmMmCtxCleanupFree id
    else
      let ok ← gsm48TxGmmAuthCiphReq id
      if ok then reschedule
  else if mm.timerNr = 3370 then
    if 5 ≤ mm.numTExp then
      let _ ← gsm48GmmSendmsg id (.attachReject 9)
      gprsGmmMmCtxCleanupFree id
    else
      let _ ← gsm48GmmSendmsg id (.idReq mm.t3370IdType)
      reschedule
where
  reschedule : SgsnM Unit := modMm id fun mm ↦ { mm with timerPending := true }

/-- `sgsn_llme_cleanup_free`, for an LLC entity that was not used for long. -/
def sgsnLlmeCleanupFree (llme : LlmeId) : SgsnM Unit := do
  match (← get).findMm fun mm ↦ mm.llme = some llme with
  | some id => gsm0408GprsAccessCancelled id none
  | none => gprsLlgmmUnassign llme

/-! ## Gb -/

/-- `gmm_fsm_is_registered`. -/
def GmmState.isRegistered : GmmState → Bool
  | .registeredNormal | .registeredSuspended => true
  | _ => false

/-- `gprs_gmm_rx_suspend` and `gprs_gmm_rx_resume`. -/
def gprsGmmRxSuspend (tlli : BitVec 32) (raid : RaId) (ev : GmmEvent) : SgsnM Unit := do
  match sgsnMmCtxByTlli (← get) tlli raid with
  | none => pure ()
  | some id => if (← getMm id).gmm.isRegistered then gmmFsm id ev

/-- `gprs_gb_recv_pdu` for user data. -/
def sndcpRecvPdu (tlli : BitVec 32) (raid : RaId) : SgsnM Unit := do
  match sgsnMmCtxByTlli (← get) tlli raid with
  | none => pure ()
  | some id => gprsGbRecvPdu id

/-! ## Iu -/

/-- `sgsn_ranap_iu_event` for a Security Mode Complete. -/
def iuSecurityModeComplete (ue : UeId) : SgsnM Unit := do
  match sgsnMmCtxByUeCtx (← get) ue with
  | none => sgsnRanapIuFreeUe ue
  | some id =>
    let conn ← getUe ue
    modify (·.setUe ue { conn with integrityActive := true })
    let _ ← iuUeTx ue
    if (← getMm id).pendingReq ≠ .attachReq then gsm48GmmAuthorize c id
    else attachIuSecurityCmdComplete c id

/-- `sgsn_ranap_iu_event` for the release of a connection and for the loss of its link. -/
def iuRelease (ue : UeId) : SgsnM Unit := do
  match sgsnMmCtxByUeCtx (← get) ue with
  | none => sgsnRanapIuFreeUe ue
  | some id =>
    mmStateIu id .psConnRelease
    sgsnMmCtxIuRanapFree id
    let mm ← getMm id
    if mm.ranType = .utranIu ∧ mm.att ≠ .init then attachReject id none

/-- `global_iu_event`. -/
def globalIuEvent (ue : UeId) (handler : UeId → SgsnM Unit) : SgsnM Unit := do
  match (← get).ues ue with
  | none => pure ()
  | some conn => if conn.notification then handler ue

/-- `ue_conn_ctx_link_invalidated_free`. -/
def ueConnCtxLinkInvalidatedFree (ue : UeId) : SgsnM Unit := do
  globalIuEvent ue iuRelease
  match (← get).ues ue with
  | none => pure ()
  | some conn => if conn.freeOnRelease then sgsnRanapIuFreeUe ue

/-- `sgsn_mm_iu_handle_rnc_loss`. The context is used after the attach procedure was aborted. -/
def sgsnMmIuHandleRncLoss (id : CtxId) : SgsnM Unit := do
  if (← getMm id).ranType = .utranIu then
    gmmAttReqAbortOnIuLoss id
    if (← getMm id).pmm = .connected then mmStateIu id .psConnRelease
    else sgsnMmCtxIuRanapFree id

/-- The first loop of `sgsn_rnc_handle_ps_loss`, over the connections of the RNC. -/
def rncLossConnected (rnc : ℕ) : List UeId → SgsnM Unit
  | [] => pure ()
  | ue :: ues => do
    let conn ← getUe ue
    let s ← get
    (match if conn.rnc = rnc then sgsnMmCtxByUeCtx s ue else none with
      | some id => sgsnMmIuHandleRncLoss id
      | none => pure ())
    rncLossConnected rnc ues

/-- `sgsn_mm_ctx_on_rnc`, for a context that has no connection to the RNC. -/
def sgsnMmCtxOnRnc (id : CtxId) (rnc : ℕ) (areas : List RaId) : SgsnM Bool := do
  let mm ← getMm id
  match mm.ranType, mm.ueCtx with
  | .geranGb, _ => pure false
  | .utranIu, none => pure (decide (mm.ra ∈ areas))
  | .utranIu, some ue =>
    let conn ← getUe ue
    pure (decide (conn.rnc ≠ rnc ∧ mm.ra ∈ areas))

/-- The second loop of `sgsn_rnc_handle_ps_loss`, over the contexts that were last seen in a
routing area of the RNC. -/
def rncLossIdle (rnc : ℕ) (areas : List RaId) : List CtxId → SgsnM Unit
  | [] => pure ()
  | id :: ids => do
    let onRnc ← sgsnMmCtxOnRnc id rnc areas
    (if onRnc then sgsnMmIuHandleRncLoss id else pure ())
    rncLossIdle rnc areas ids

/-- The loop of `iu_rnc_discard_all_ue_ctx`. -/
def rncDiscardUes (rnc : ℕ) : List UeId → SgsnM Unit
  | [] => pure ()
  | ue :: ues => do
    let conn ← getUe ue
    (if conn.rnc = rnc then ueConnCtxLinkInvalidatedFree ue else pure ())
    rncDiscardUes rnc ues

/-- `iu_rnc_discard_all_ue_ctx`. The loops run over the lists as they are when they start: they
keep the next element safe, and a pass removes no element but its own. -/
def iuRncDiscardAllUeCtx (rnc : ℕ) (areas : List RaId) : SgsnM Unit := do
  rncLossConnected rnc (← get).ueList
  rncLossIdle rnc areas (← get).mmList
  rncDiscardUes rnc (← get).ueList

/-- `ranap_handle_co_initial_ue`. -/
def ranapHandleCoInitialUe (ue : UeId) (rnc : ℕ) (ra : RaId) (msg : UplinkMsg) : SgsnM Unit := do
  modify fun s ↦
    { s.setUe ue ⟨rnc, ra, false, true, false, false⟩ with ueList := ue :: s.ueList }
  gsm0408GprsRcvmsgIu c ue (some ra) msg

/-- `sgsn_ranap_iu_event` for a RAB assignment. -/
def iuRabAssign (rab : RabAssignment) (ue : UeId) : SgsnM Unit := do
  match sgsnMmCtxByUeCtx (← get) ue with
  | none => sgsnRanapIuFreeUe ue
  | some id => sgsnRanapRabAssResp id rab

end Calls

/-! ## Names -/

/-- What a look-up of a GGSN gives. -/
inductive DnsAnswer
  | found (room : Bool)
  /-- The name with two digits is not known and the one with three is asked for. -/
  | again
  | failed
  deriving DecidableEq, Repr

/-- `ggsn_lookup_cb`. -/
def ggsnLookupCb (id : CtxId) (lookup : GgsnLookup) : DnsAnswer → SgsnM Unit
  | .found room => do
    modMm id fun mm ↦ { mm with ggsnLookup := none }
    activateGgsn id lookup.nsapi lookup.sapi lookup.ti room
  | .again => pure ()
  | .failed => do
    let _ ← gsm48GmmSendmsg id .actPdpRej
    modMm id fun mm ↦ { mm with ggsnLookup := none }

/-! ## The machine -/

/-- What the GTP library tells about a PDP context. -/
inductive GtpEvent
  | createConf (accepted : Bool)
  | deleteConf
  | deleted
  | ggsnLost
  | errorInd
  deriving DecidableEq, Repr

/-- The events. -/
inductive Event
  | gb (tlli : BitVec 32) (cell : RaId) (drop : Bool) (msg : UplinkMsg)
  /-- A frame for the signalling SAP that carries no message that is passed on. -/
  | llcFrame (tlli : BitVec 32)
  | sndcpPdu (tlli : BitVec 32) (ra : RaId)
  | iuInitial (ue : UeId) (rnc : ℕ) (ra : RaId) (msg : UplinkMsg)
  | iuData (ue : UeId) (ra : Option RaId) (msg : UplinkMsg)
  | gsup (imsi : Digits) (msg : GsupMsg)
  | mmTimer (id : CtxId)
  | attachTimer (id : CtxId)
  | readyTimer (id : CtxId)
  | pdpTimer (id : CtxId) (nsapi : ℕ) (last : Bool)
  | llmeTimeout (llme : LlmeId)
  | suspend (tlli : BitVec 32) (ra : RaId)
  | resume (tlli : BitVec 32) (ra : RaId)
  | securityModeComplete (ue : UeId)
  | rabAssign (ue : UeId) (rab : RabAssignment)
  | iuRelease (ue : UeId)
  | linkInvalidated (ue : UeId)
  | rncLoss (rnc : ℕ) (areas : List RaId)
  | gtp (id : CtxId) (nsapi : ℕ) (ev : GtpEvent)
  | dnsAnswer (id : CtxId) (answer : DnsAnswer)
  /-- The operator removes a context, or another SGSN has taken it over. -/
  | cancel (id : CtxId)
  /-- The operator detaches a mobile station. -/
  | detach (id : CtxId)
  deriving DecidableEq, Repr

/-- The handler of what the GTP library tells. -/
def gtpEvent (id : CtxId) (nsapi : ℕ) : GtpEvent → SgsnM Unit
  | .createConf accepted => createPdpConf id nsapi accepted
  | .deleteConf => deletePdpConf id nsapi
  | .deleted => cbDeleteContext id nsapi
  | .ggsnLost => ggsnLost id nsapi
  | .errorInd => cbUpdateContextErrorInd id nsapi

/-- Do something with a context, if there is one. -/
def whenMm (id : CtxId) (k : MmCtx → SgsnM Unit) : SgsnM Unit := do
  match (← get).ctxs id with
  | some mm => k mm
  | none => pure ()

/-- The handler of an event. An event that cannot happen in a state (a timer that is not running, a
message on a connection that is not there) has no effect. -/
def handle (c : Calls) : Event → SgsnM Unit
  | .gb tlli cell drop msg => do
    let llme ← gprsLleGetOrCreate tlli
    gsm0408GprsRcvmsgGb c tlli cell llme drop msg
  | .llcFrame tlli => do
    let _ ← gprsLleGetOrCreate tlli
  | .sndcpPdu tlli ra => sndcpRecvPdu tlli ra
  | .iuInitial ue rnc ra msg => do
    match (← get).ues ue with
    | none => ranapHandleCoInitialUe c ue rnc ra msg
    | some _ => pure ()
  | .iuData ue ra msg => do
    match (← get).ues ue with
    | none => pure ()
    | some _ => gsm0408GprsRcvmsgIu c ue ra msg
  | .gsup imsi msg => gprsSubscrRxGsupMessage c imsi msg
  | .mmTimer id => whenMm id fun mm ↦ if mm.timerPending then mmctxTimerCb id else pure ()
  | .attachTimer id => whenMm id fun mm ↦
    if mm.att ≠ .init ∧ mm.att ≠ .reject then gmmAttachTimerCb id else pure ()
  | .readyTimer id => whenMm id fun _ ↦ mmStateGb id .readyTimerExpiry
  | .pdpTimer id nsapi last => whenMm id fun _ ↦ pdpctxTimerCb id nsapi last
  | .llmeTimeout llme => do
    match (← get).llme? llme with
    | none => pure ()
    | some _ => sgsnLlmeCleanupFree llme
  | .suspend tlli ra => gprsGmmRxSuspend tlli ra .suspend
  | .resume tlli ra => gprsGmmRxSuspend tlli ra .resume
  | .securityModeComplete ue => globalIuEvent ue (iuSecurityModeComplete c)
  | .rabAssign ue rab => globalIuEvent ue (iuRabAssign rab)
  | .iuRelease ue => globalIuEvent ue iuRelease
  | .linkInvalidated ue => ueConnCtxLinkInvalidatedFree ue
  | .rncLoss rnc areas => iuRncDiscardAllUeCtx rnc areas
  | .gtp id nsapi ev => whenMm id fun _ ↦ gtpEvent id nsapi ev
  | .dnsAnswer id answer => whenMm id fun mm ↦
    match mm.ggsnLookup with
    | some lookup => ggsnLookupCb id lookup answer
    | none => pure ()
  | .cancel id => whenMm id fun _ ↦ gsm0408GprsAccessCancelled id none
  | .detach id => whenMm id fun _ ↦ gsm0408GprsAccessDenied id (some 10)

/-- A gateway and the fault that has ended it. -/
structure Node where
  sgsn : Sgsn
  fault : Option Fault

/-- The state in which an event is handled. -/
def Sgsn.enter (s : Sgsn) (env : Env) : Sgsn := { s with env := env, obs := [] }

/-- One event and what the layers below answer while it is handled, with calls of the authorization
and the attach code into each other to a depth. -/
def Node.step (depth : ℕ) (n : Node) (e : Event × Env) : Node × List Obs :=
  match n.fault with
  | some _ => (n, [])
  | none =>
    match handle (calls depth) e.1 (n.sgsn.enter e.2) with
    | .ok _ s => (⟨s, none⟩, s.obs.reverse)
    | .error fault s => (⟨s, some fault⟩, s.obs.reverse)

/-- The machine of the gateway. -/
def node (depth : ℕ) : Machine Node (Event × Env) Obs where
  step := Node.step depth

/-- A gateway that was just started. -/
def Node.start (cfg : SgsnConfig) (hash : Hashing) : Node where
  sgsn := {
    cfg := cfg, hash := hash, mmList := [], ctxs := fun _ ↦ none, nextCtx := 0,
    tables := ⟨[], [], [], [], []⟩, llmes := [], nextLlme := 0, subscrs := [], nextSubscr := 0,
    ues := fun _ ↦ none, ueList := [], env := {}, obs := [] }
  fault := none

end OsmoSgsn.Gmm
