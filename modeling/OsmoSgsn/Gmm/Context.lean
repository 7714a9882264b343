import OsmoSgsn.Gmm.Index

/-!
# Life of a context

The parts that authorization, attach and session management call: the GMM FSM and the two mobility
FSMs of a context, the references that a context and its subscriber record hold to each other, the
connection of a UE, sending, timers, and the end of a context.

An FSM of the source is a table: a state lists the events it takes and the states it may be left
for. An event that a state does not take is logged and dropped, a state change that the table does
not allow is refused; both return to the caller, and neither is a fault.
-/

namespace OsmoSgsn.Gmm

/-! ## LLC entities -/

/-- `lle_by_tlli_sapi`, for the entity that has the SAPs. -/
def Sgsn.llmeByTlli (s : Sgsn) (tlli : BitVec 32) : Option Llme :=
  s.llmes.find? fun l ↦ l.tlli = tlli ∨ l.oldTlli = tlli

/-- Add an LLC entity. -/
def Sgsn.addLlme (s : Sgsn) (tlli : BitVec 32) : Sgsn :=
  { s with llmes := ⟨s.nextLlme, tlli, tlliUnassigned⟩ :: s.llmes, nextLlme := s.nextLlme + 1 }

/-- `gprs_lle_get_or_create`, which is also what a frame does that carries a signalling message. -/
def gprsLleGetOrCreate (tlli : BitVec 32) : SgsnM LlmeId := do
  let s ← get
  match s.llmeByTlli tlli with
  | some llme => pure llme.id
  | none =>
    set (s.addLlme tlli)
    pure s.nextLlme

/-- The TLLIs of an LLC entity after an assignment; none is for an entity that is freed. -/
def Llme.assign (llme : Llme) (oldTlli newTlli : BitVec 32) : Option Llme :=
  if newTlli = tlliUnassigned then
    if oldTlli = tlliUnassigned then some llme else none
  else if oldTlli = tlliUnassigned then
    some { llme with tlli := newTlli, oldTlli := tlliUnassigned }
  else some { llme with tlli := newTlli, oldTlli := oldTlli }

/-- `gprs_llgmm_assign`. -/
def gprsLlgmmAssign (id : LlmeId) (oldTlli newTlli : BitVec 32) : SgsnM Unit := do
  let _ ← getLlme id
  modify fun s ↦ { s with llmes := s.llmes.filterMap fun l ↦
    if l.id = id then l.assign oldTlli newTlli else some l }

/-- `gprs_llgmm_unassign`. An entity that has no TLLI is not freed. -/
def gprsLlgmmUnassign (id : LlmeId) : SgsnM Unit := do
  let llme ← getLlme id
  gprsLlgmmAssign id llme.tlli tlliUnassigned

/-- The LLC entity of a context is used. -/
def useLlme (id : CtxId) : SgsnM LlmeId := do
  match (← getMm id).llme with
  | none => throw .nullPointer
  | some llme =>
    let _ ← getLlme llme
    pure llme

/-! ## Sending -/

/-- `gprs_llc_tx_ui`. An entity is made for a TLLI that has none. -/
def gprsLlcTxUi (tlli : BitVec 32) : SgsnM Bool := do
  let _ ← gprsLleGetOrCreate tlli
  txAnswer

/-- `iu_ue_tx`: hand a message to the RNC of a connection. -/
def iuUeTx (ue : UeId) : SgsnM Bool := do
  let _ ← getUe ue
  txAnswer

/-- `gsm48_gmm_sendmsg` for a context, with the addresses that `mmctx2msgid` takes from it. -/
def gsm48GmmSendmsg (id : CtxId) (msg : Downlink) : SgsnM Bool := do
  let mm ← getMm id
  let ok ← (match mm.ranType, mm.ueCtx with
    | .utranIu, none => pure false
    | .geranGb, none => gprsLlcTxUi mm.tlli
    | _, some ue => iuUeTx ue)
  (if ok then observe (.sent (some mm) msg) else pure ())
  pure ok

/-- A message in answer to one for which there is no context, or no longer, with the addresses that
`gmm_copy_id` takes from that one. -/
def sendOldmsg (radio : Radio) (msg : Downlink) : SgsnM Unit := do
  let ok ← (match radio with
    | .gb tlli _ _ => gprsLlcTxUi tlli
    | .iu ue => iuUeTx ue)
  if ok then observe (.sent none msg)

/-- `gsm48_tx_gmm_auth_ciph_req`. -/
def gsm48TxGmmAuthCiphReq (id : CtxId) : SgsnM Bool := do
  match ← osmoGetRandId with
  | none => pure false
  | some rbyte =>
    modMm id fun mm ↦ { mm with acRefNrUsed := rbyte.toNat % 256 }
    let mm ← getMm id
    gsm48GmmSendmsg id (.authCiphReq mm.authTriplet.keySeq)

/-- `sgsn_ranap_iu_tx_sec_mode_cmd`, and the flag that its callers clear behind it. -/
def sgsnRanapIuTxSecModeCmd (id : CtxId) (ue : UeId) : SgsnM Bool := do
  let mm ← getMm id
  let ok ← iuUeTx ue
  (if ok then do
    observe (.secModeCmd mm ue)
    let conn ← getUe ue
    modify (·.setUe ue { conn with secModeCmdSent := true })
  else pure ())
  modMm id fun mm ↦ { mm with newKey := false }
  pure ok

/-! ## Timers -/

/-- `mmctx_attach_fsm_owns_timer`. -/
def MmCtx.attachFsmOwnsTimer (mm : MmCtx) (nr : ℕ) : Bool :=
  mm.att ≠ .init ∧ (nr = 3350 ∨ nr = 3360 ∨ nr = 3370)

/-- `mmctx_timer_start`, on the context alone. -/
def MmCtx.timerStart (mm : MmCtx) (nr : ℕ) : MmCtx :=
  if mm.attachFsmOwnsTimer nr then mm
  else { mm with timerNr := nr, numTExp := 0, timerPending := true }

/-- `mmctx_timer_stop` and `gprs_gmm_mm_timer_stop_all`: both stop whatever timer is running. -/
def MmCtx.timerStop (mm : MmCtx) : MmCtx := { mm with timerPending := false }

/-! ## Mobility FSMs -/

/-- The events of the Gb mobility FSM. -/
inductive MmGbEvent
  | gprsAttach | pduReception | gprsDetach | readyTimerExpiry | raUpdate
  deriving DecidableEq, Repr

/-- The state table of the Gb mobility FSM: the state that an event leads to. -/
def MmGbState.after : MmGbState → MmGbEvent → Option MmGbState
  | .idle, .gprsAttach | .standby, .pduReception => some .ready
  | .ready, .readyTimerExpiry => some .standby
  | .ready, .gprsDetach | .standby, .gprsDetach => some .idle
  | _, _ => none

/-- `st_mm_idle_on_enter`: T3350 stops and the LLC entity is given up. -/
def stMmIdleOnEnter (id : CtxId) : SgsnM Unit := do
  modMm id fun mm ↦ { mm with timerPending := mm.timerPending && mm.timerNr ≠ 3350 }
  match (← getMm id).llme with
  | none => pure ()
  | some llme =>
    gprsLlgmmUnassign llme
    modMm id fun mm ↦ { mm with llme := none }

/-- A dispatch to the Gb mobility FSM. -/
def mmStateGb (id : CtxId) (ev : MmGbEvent) : SgsnM Unit := do
  match (← getMm id).mmGb.after ev with
  | none => pure ()
  | some st =>
    modMm id fun mm ↦ { mm with mmGb := st }
    if st = .idle then stMmIdleOnEnter id

/-- `gprs_gb_recv_pdu`. -/
def gprsGbRecvPdu (id : CtxId) : SgsnM Unit := do
  if (← getMm id).llme ≠ none then mmStateGb id .pduReception

/-- The events of the Iu mobility FSM. -/
inductive PmmEvent
  | psAttach | psConnRelease | psConnEstablish | psDetach | raUpdate | rxGgsnGtpuDtEi
  deriving DecidableEq, Repr

/-- `sgsn_ranap_iu_free_ue`: the first context that has the connection loses it. -/
def sgsnRanapIuFreeUe (ue : UeId) : SgsnM Unit := do
  let s ← get
  (match sgsnMmCtxByUeCtx s ue with
    | some owner => modMm owner fun mm ↦ { mm with ueCtx := none }
    | none => pure ())
  let _ ← getUe ue
  modify (·.freeUe ue)

/-- `sgsn_mm_ctx_iu_ranap_free`. -/
def sgsnMmCtxIuRanapFree (id : CtxId) : SgsnM Unit := do
  match (← getMm id).ueCtx with
  | none => pure ()
  | some ue =>
    sgsnRanapIuFreeUe ue
    modMm id fun mm ↦ { mm with ueCtx := none }

/-- `sgsn_ranap_iu_tx_release_free`. -/
def sgsnRanapIuTxReleaseFree (ue : UeId) : SgsnM Unit := do
  let conn ← getUe ue
  modify (·.setUe ue { conn with notification := false, freeOnRelease := true })
  let _ ← iuUeTx ue

/-- `sgsn_mm_ctx_iu_ranap_release_free`. -/
def sgsnMmCtxIuRanapReleaseFree (id : CtxId) : SgsnM Unit := do
  match (← getMm id).ueCtx with
  | none => pure ()
  | some ue =>
    sgsnRanapIuTxReleaseFree ue
    modMm id fun mm ↦ { mm with ueCtx := none }

/-- `sgsn_pdp_ctx_iu_rab_activate`. -/
def sgsnPdpCtxIuRabActivate (id : CtxId) (pdp : PdpCtx) : SgsnM Bool := do
  let mm ← getMm id
  if mm.ranType ≠ .utranIu then throw .assertion
  else match mm.ueCtx with
    | none => pure false
    | some ue => if pdp.lib then iuUeTx ue else pure false

/-- The loop of `sgsn_mm_ctx_iu_activate_rabs`. -/
def activateRabs (id : CtxId) : List PdpCtx → SgsnM Unit
  | [] => pure ()
  | pdp :: pdps => do
    let _ ← (if pdp.lib then sgsnPdpCtxIuRabActivate id pdp else pure true)
    activateRabs id pdps

/-- `sgsn_mm_ctx_iu_activate_rabs`. -/
def sgsnMmCtxIuActivateRabs (id : CtxId) : SgsnM Unit := do
  let mm ← getMm id
  if mm.ranType ≠ .utranIu then throw .assertion
  else if mm.ueCtx ≠ none then activateRabs id mm.pdpList

/-- A dispatch to the Iu mobility FSM. What it tells the GGSNs is not modelled. -/
def mmStateIu (id : CtxId) (ev : PmmEvent) : SgsnM Unit := do
  match (← getMm id).pmm, ev with
  | .detached, .psAttach => modMm id fun mm ↦ { mm with pmm := .connected }
  | .connected, .psConnRelease | .connected, .rxGgsnGtpuDtEi =>
    sgsnMmCtxIuRanapFree id
    modMm id fun mm ↦ { mm with pmm := .idle }
  | .connected, .psDetach =>
    sgsnMmCtxIuRanapReleaseFree id
    modMm id fun mm ↦ { mm with pmm := .detached }
  | .idle, .psAttach | .idle, .psConnEstablish | .idle, .raUpdate =>
    modMm id fun mm ↦ { mm with pmm := .connected }
    sgsnMmCtxIuActivateRabs id
  | .idle, .psDetach => modMm id fun mm ↦ { mm with pmm := .detached }
  | _, _ => pure ()

/-! ## The GMM FSM -/

/-- The events of the GMM FSM, the change of the radio access apart. -/
inductive GmmEvent
  | commonProcInitReq | commonProcSuccess | attachSuccess | suspend | resume | cleanup
  deriving DecidableEq, Repr

/-- The state table of the GMM FSM: the states that a state may be left for. -/
def GmmState.mayLeaveFor : GmmState → GmmState → Bool
  | .deregistered, .commonProcInit => true
  | .commonProcInit, .deregistered | .commonProcInit, .registeredNormal => true
  | .registeredNormal, .deregistered | .registeredNormal, .commonProcInit
  | .registeredNormal, .deregisteredInit | .registeredNormal, .registeredSuspended => true
  | .registeredSuspended, .deregistered | .registeredSuspended, .registeredNormal
  | .registeredSuspended, .commonProcInit => true
  | .deregisteredInit, .deregistered => true
  | _, _ => false

/-- The change that the action of a state asks for, where the state takes the event. -/
def GmmState.request : GmmState → GmmEvent → Option GmmState
  | .deregistered, .cleanup => none
  | _, .cleanup => some .deregistered
  | .deregistered, .commonProcInitReq => some .commonProcInit
  | .deregistered, .attachSuccess => some .registeredNormal
  | .commonProcInit, .commonProcSuccess | .commonProcInit, .attachSuccess => some .registeredNormal
  | .registeredNormal, .commonProcInitReq => some .commonProcInit
  | .registeredNormal, .suspend => some .registeredSuspended
  | .registeredSuspended, .resume => some .registeredNormal
  | .registeredSuspended, .commonProcInitReq => some .commonProcInit
  | _, _ => none

/-- `gmm_fsm_state_chg`: a change that the table does not allow is refused. -/
def gmmFsmStateChg (id : CtxId) (next : GmmState) : SgsnM Unit := do
  let mm ← getMm id
  observe (.gmmChange mm.gmm next)
  if mm.gmm.mayLeaveFor next then
    modMm id fun mm ↦ { mm with gmm := next }
    if mm.gmm = .commonProcInit ∧ next = .registeredNormal then observe (.registered mm)

/-- A dispatch to the GMM FSM. -/
def gmmFsm (id : CtxId) (ev : GmmEvent) : SgsnM Unit := do
  match (← getMm id).gmm.request ev with
  | some next => gmmFsmStateChg id next
  | none => pure ()

/-- `E_GMM_RAT_CHANGE`: the mobility FSM of the old access is detached, and the action falls
through to the cleanup. -/
def gmmFsmRatChange (id : CtxId) (newRanType : SgsnRanType) (llme : Option LlmeId) :
    SgsnM Unit := do
  let mm ← getMm id
  (if mm.gmm = .commonProcInit then gmmFsmStateChg id .deregistered else pure ())
  (match mm.ranType with
    | .geranGb => mmStateGb id .gprsDetach
    | .utranIu => do
      mmStateIu id .psDetach
      modMm id fun mm ↦ { mm with llme := llme })
  modMm id fun mm ↦ { mm with ranType := newRanType }
  gmmFsm id .cleanup

/-! ## Subscriber records -/

/-- `gprs_subscr_get`. -/
def gprsSubscrGet (sid : SubId) : SgsnM Unit :=
  modSubscr sid fun x ↦ { x with useCount := x.useCount + 1 }

/-- `gprs_subscr_put`: the record is freed with its last reference. -/
def gprsSubscrPut (sid : SubId) : SgsnM Unit := do
  modSubscr sid fun x ↦ { x with useCount := x.useCount - 1 }
  modify (·.dropSubscr sid)

/-- `gprs_subscr_get_by_imsi`. -/
def gprsSubscrGetByImsi (imsi : Digits) : SgsnM (Option SubId) := do
  match (← get).subscrByImsi? imsi with
  | none => pure none
  | some x =>
    gprsSubscrGet x.id
    pure (some x.id)

/-- The record that `gprs_subscr_alloc` and `sgsn_subscriber_data_alloc` make. -/
def Subscr.fresh (sid : SubId) (imsi : Digits) : Subscr where
  id := sid
  useCount := 1
  keepInRam := false
  imsi := imsi
  authorized := false
  authInfoPending := false
  locationPending := false
  cancelled := false
  enablePurge := false
  mm := none
  authTriplets := List.replicate 5 .cleared
  authTripletsUpdated := false
  errorCause := none

/-- `gprs_subscr_get_or_create`, where no record has the identity. -/
def gprsSubscrCreate (imsi : Digits) : SgsnM SubId := do
  let sid := (← get).nextSubscr
  modify (·.addSubscr (.fresh sid imsi))
  pure sid

/-- What a context writes to the record that it takes. -/
def Subscr.takenBy (x : Subscr) (id : CtxId) (mm : MmCtx) : Subscr :=
  { x with imsi := if mm.imsi = [] then x.imsi else mm.imsi, mm := some id }

/-- `gprs_subscr_get_or_create_by_mmctx`. -/
def gprsSubscrGetOrCreateByMmctx (id : CtxId) : SgsnM SubId := do
  let mm ← getMm id
  match mm.subscr with
  | some sid =>
    gprsSubscrGet sid
    pure sid
  | none =>
    let found ← gprsSubscrGetByImsi mm.imsi
    let sid ← (match found with
      | some sid => pure sid
      | none => gprsSubscrCreate mm.imsi)
    modSubscr sid (·.takenBy id mm)
    gprsSubscrGet sid
    modMm id fun mm ↦ { mm with subscr := some sid }
    pure sid

/-- `gprs_subscr_tx_gsup_message` for a request. -/
def gprsSubscrTxGsup (sid : SubId) (req : GsupRequest) : SgsnM Bool := do
  let x ← getSubscr sid
  let ok ← gsupAnswer
  (if ok then observe (.gsup x.imsi req) else pure ())
  pure ok

/-- `gprs_subscr_request_auth_info`. -/
def gprsSubscrRequestAuthInfo (id : CtxId) (auts : Option Bytes) : SgsnM Bool := do
  let sid ← gprsSubscrGetOrCreateByMmctx id
  modSubscr sid fun x ↦ { x with authInfoPending := true }
  let ok ← gprsSubscrTxGsup sid (.sendAuthInfo auts)
  (if ok then pure () else modSubscr sid fun x ↦ { x with authInfoPending := false })
  gprsSubscrPut sid
  pure ok

/-- `gprs_subscr_request_update_location`. -/
def gprsSubscrRequestUpdateLocation (id : CtxId) : SgsnM Bool := do
  let sid ← gprsSubscrGetOrCreateByMmctx id
  modSubscr sid fun x ↦ { x with locationPending := true }
  let ok ← gprsSubscrTxGsup sid .updateLocation
  gprsSubscrPut sid
  pure ok

/-- `gprs_subscr_reset_auth_triplets`. -/
def gprsSubscrResetAuthTriplets (sid : SubId) : SgsnM Unit :=
  modSubscr sid fun x ↦ { x with
    authTriplets := List.replicate 5 .cleared, authTripletsUpdated := false,
    authInfoPending := false }

/-- `gprs_subscr_cleanup`. -/
def gprsSubscrCleanup (sid : SubId) : SgsnM Unit := do
  let x ← getSubscr sid
  (match x.mm with
    | none => pure ()
    | some m => do
      let mm ← getMm m
      (match mm.subscr with
        | none => throw .nullPointer
        | some sid' => gprsSubscrPut sid')
      modMm m fun mm ↦ { mm with subscr := none }
      modSubscr sid fun x ↦ { x with mm := none })
  if x.enablePurge then
    let _ ← gprsSubscrTxGsup sid .purgeMs
    modSubscr sid fun x ↦ { x with enablePurge := false }

/-! ## The end of a context -/

/-- `sgsn_mm_ctx_cleanup_free`. The LLC entity is given up after the context is freed. -/
def sgsnMmCtxCleanupFree (id : CtxId) : SgsnM Unit := do
  modify (·.unlinkCtx id)
  let mm ← getMm id
  (if mm.ranType ≠ .geranGb ∧ mm.llme ≠ none then throw .assertion else pure ())
  modMm id fun mm ↦ { mm with ggsnLookup := none, pdpList := [], timerPending := false }
  (match mm.subscr with
    | none => pure ()
    | some sid => do
      gprsSubscrGet sid
      gprsSubscrCleanup sid
      gprsSubscrPut sid)
  modify (·.freeCtx id)
  match mm.llme with
  | none => pure ()
  | some llme => gprsLlgmmUnassign llme

/-- `gprs_gmm_mm_ctx_cleanup_free`. -/
def gprsGmmMmCtxCleanupFree (id : CtxId) : SgsnM Unit := do
  gmmFsm id .cleanup
  (match (← getMm id).ranType with
    | .utranIu => mmStateIu id .psDetach
    | .geranGb => mmStateGb id .gprsDetach)
  sgsnMmCtxCleanupFree id

end OsmoSgsn.Gmm
