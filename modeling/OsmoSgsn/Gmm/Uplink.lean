import OsmoSgsn.Gmm.Attach

/-!
# Messages from a mobile station

The handlers of mobility and session management messages. Decoding is not part of the model: a
message is given by the fields that its handler reads, and a field that may be missing, or may fail
to decode, is optional.

A message arrives over Gb, with the TLLI, the cell and the LLC entity, or over Iu, on the
connection of a UE. The LLC entity is the one that has the TLLI; the context is the one that has it
in the routing area of the cell, and so the two need not belong together.
-/

namespace OsmoSgsn.Gmm

/-! ## Messages -/

/-- ATTACH REQUEST. -/
structure AttachRequest where
  /-- All octets, which is what tells a retransmission from a new request. -/
  octets : Bytes
  msNetworkCapa : Bytes
  mi : Option MobileIdentity
  msRaAccCapLen : ℕ
  deriving DecidableEq, Repr

/-- ROUTING AREA UPDATE REQUEST. -/
structure RaUpdRequest where
  /-- The cause with which `gprs_gmm_parse_ra_upd_req` refuses the message. -/
  parseCause : Option ℕ
  updateType : ℕ
  oldRai : RaId
  /-- The P-TMSI element, when it is there, and what it decodes to. -/
  allocPtmsi : Option (Option MobileIdentity)
  pdpCtxStatus : Option (BitVec 16)
  deriving DecidableEq, Repr

/-- SERVICE REQUEST. -/
structure ServiceRequest where
  serviceType : ℕ
  mi : Option MobileIdentity
  pdpCtxStatus : Option (BitVec 16)
  deriving DecidableEq, Repr

/-- AUTHENTICATION AND CIPHERING RESPONSE. -/
structure AuthCiphResponse where
  acRefNr : ℕ
  /-- The SRES element, of four octets. -/
  sres : Option Bytes
  /-- The length of the IMEISV element and what it decodes to. -/
  imeisv : Option (ℕ × Option MobileIdentity)
  resExt : Option Bytes
  deriving DecidableEq, Repr

/-- AUTHENTICATION AND CIPHERING FAILURE. -/
structure AuthCiphFailure where
  gmmCause : ℕ
  auts : Option Bytes
  deriving DecidableEq, Repr

/-- The mobility management messages. -/
inductive GmmMsg
  | attachReq (req : AttachRequest)
  | raUpdReq (req : RaUpdRequest)
  | serviceReq (req : ServiceRequest)
  | idResp (mi : Option MobileIdentity)
  | status
  | detachReq (powerOff : Bool)
  | detachAck
  | attachCompl
  | raUpdCompl
  | ptmsiReallCompl
  | authCiphResp (resp : AuthCiphResponse)
  | authCiphFail (fail : AuthCiphFailure)
  | unknown
  deriving DecidableEq, Repr

/-- What `sgsn_mm_ctx_find_ggsn_ctx` finds for the APN that was asked for. -/
inductive GgsnChoice
  /-- A configured GGSN, and whether the GTP library has room for another PDP context. -/
  | ggsn (room : Bool)
  /-- No GGSN but a name that may be looked up, and whether the query starts. -/
  | byName (started : Bool)
  | refused
  deriving DecidableEq, Repr

/-- ACTIVATE PDP CONTEXT REQUEST. -/
structure ActPdpRequest where
  nsapi : ℕ
  sapi : ℕ
  ti : ℕ
  choice : GgsnChoice
  deriving DecidableEq, Repr

/-- The session management messages. -/
inductive SmMsg
  | actPdpReq (req : ActPdpRequest)
  | deactPdpReq (ti : ℕ)
  | deactPdpAck (ti : ℕ)
  | status
  | unknown
  deriving DecidableEq, Repr

/-- A message by its protocol discriminator. -/
inductive UplinkMsg
  | gmm (msg : GmmMsg)
  | sm (msg : SmMsg)
  | unknown
  deriving DecidableEq, Repr

/-! ## Contexts -/

/-- The context that `sgsn_mm_ctx_alloc` makes. -/
def MmCtx.fresh (ranType : SgsnRanType) (ra : RaId) : MmCtx where
  ranType := ranType
  imsi := []
  imei := []
  pTmsi := 0
  pTmsiOld := 0
  ptmsiHistory := []
  ra := ra
  gmm := .deregistered
  llme := none
  tlli := 0
  tlliNew := 0
  mmGb := .idle
  ueCtx := none
  newKey := false
  serviceType := 0
  pmm := .detached
  att := .init
  attachReq := none
  idType := .none
  authReattempt := 0
  authTriplet := .cleared
  answered := false
  ueCipherMask := 0
  acRefNrUsed := 0
  msNetworkCapa := []
  pdpList := []
  timerPending := false
  timerNr := 0
  numTExp := 0
  t3350Mode := .none
  t3370IdType := .none
  pendingReq := .none
  authState := .unknown
  secCtx := .none
  ggsnLookup := none
  subscr := none

/-- Add a context at the head of the list. -/
def Sgsn.addCtx (s : Sgsn) (mm : MmCtx) : Sgsn :=
  { s with
    ctxs := Function.update s.ctxs s.nextCtx (some mm)
    mmList := s.nextCtx :: s.mmList
    nextCtx := s.nextCtx + 1 }

/-- `sgsn_mm_ctx_alloc_gb`. -/
def sgsnMmCtxAllocGb (tlli : BitVec 32) (raid : RaId) : SgsnM CtxId := do
  let id := (← get).nextCtx
  modify (·.addCtx { MmCtx.fresh .geranGb raid with tlli := tlli })
  sgsnMmCtxRehashTlli id
  pure id

/-- `sgsn_mm_ctx_alloc_iu`. -/
def sgsnMmCtxAllocIu (ue : UeId) : SgsnM CtxId := do
  let conn ← getUe ue
  let id := (← get).nextCtx
  modify (·.addCtx { MmCtx.fresh .utranIu conn.ra with ueCtx := some ue, newKey := true })
  pure id

/-- `msgid2mmctx`, where the identifiers of Gb are not modelled. -/
def MmCtx.msgid (mm : MmCtx) : Radio → MmCtx
  | .gb .. => mm
  | .iu ue => { mm with ueCtx := some ue }

/-- `sgsn_alloc_ptmsi` with a number of tries left. -/
def sgsnAllocPtmsi : ℕ → SgsnM (BitVec 32)
  | 0 => pure gsmReservedTmsi
  | tries + 1 => do
    match ← osmoGetRandId with
    | none => pure gsmReservedTmsi
    | some rand =>
      let ptmsi := localTlli rand
      let s ← get
      if 0xc0000000 ≤ rand ∨ ptmsi = gsmReservedTmsi ∨ sgsnMmCtxByPtmsi s ptmsi ≠ none then
        sgsnAllocPtmsi tries
      else pure ptmsi

/-- `ptmsi_update`. -/
def ptmsiUpdate (id : CtxId) : SgsnM Unit := do
  (if (← getMm id).gmm ≠ .commonProcInit then do
    let ptmsi ← sgsnAllocPtmsi 101
    if ptmsi ≠ gsmReservedTmsi then
      modMm id fun mm ↦ { mm with
        pTmsiOld := mm.pTmsi, pTmsi := ptmsi, ptmsiHistory := ptmsi :: mm.ptmsiHistory }
      sgsnMmCtxRehashPtmsi id
  else pure ())
  gmmFsm id .commonProcInitReq

/-- A request over Gb is answered with a new TLLI, which the LLC entity takes beside the old one. -/
def assignTlliNew (id : CtxId) : SgsnM Unit := do
  match (← getMm id).ranType with
  | .utranIu => pure ()
  | .geranGb =>
    modMm id fun mm ↦ { mm with tlliNew := localTlli mm.pTmsi }
    sgsnMmCtxRehashTlli id
    let mm ← getMm id
    let llme ← useLlme id
    gprsLlgmmAssign llme mm.tlli mm.tlliNew

/-- The new TLLI is confirmed and replaces the old one. -/
def takeTlliNew (id : CtxId) : SgsnM Unit := do
  modMm id fun mm ↦ { mm with tlli := mm.tlliNew }
  sgsnMmCtxRehashTlli id

/-- The LLC entity loses its old TLLI. -/
def dropTlliOld (id : CtxId) : SgsnM Unit := do
  let mm ← getMm id
  let llme ← useLlme id
  gprsLlgmmAssign llme tlliUnassigned mm.tlliNew

/-- The old P-TMSI is not in use any more. -/
def dropPtmsiOld (id : CtxId) : SgsnM Unit := do
  modMm id fun mm ↦ { mm.timerStop with t3350Mode := .none, pTmsiOld := 0 }
  sgsnMmCtxRehashPtmsi id
  modMm id fun mm ↦ { mm with pendingReq := .none }

/-- `process_ms_ctx_status`: PDP contexts that the mobile station does not list are dropped. Those
that the GGSN still has wait for its answer. -/
def MmCtx.processMsCtxStatus (mm : MmCtx) (pdpStatus : BitVec 16) : MmCtx :=
  let active (pdp : PdpCtx) : Bool := 5 ≤ pdp.nsapi ∧ pdpStatus.getLsbD pdp.nsapi
  { mm with pdpList :=
      ((mm.pdpList.filter fun pdp ↦ active pdp ∨ pdp.ggsn).map fun pdp ↦
        { pdp with uePdpActive := pdp.uePdpActive ∧ active pdp }) }

/-! ## Attach -/

/-- `gprs_ms_net_cap_gea_mask`. -/
def gprsMsNetCapGeaMask : Bytes → BitVec 8
  | [] => 1
  | b :: rest =>
    let gea1 : BitVec 8 := if b.toBitVec.getLsbD 7 then 3 else 1
    match rest with
    | [] => gea1
    | c :: _ =>
      gea1 ||| (if c.toBitVec.getLsbD 6 then 4 else 0) ||| (if c.toBitVec.getLsbD 5 then 8 else 0)
        ||| (if c.toBitVec.getLsbD 4 then 16 else 0)

/-- `sgsn_mm_ctx_is_r99`. -/
def MmCtx.isR99 (mm : MmCtx) : Bool := mm.msNetworkCapa.head?.any fun b ↦ b.toBitVec.getLsbD 0

section Calls

variable (c : Calls)

/-- The end of `gsm48_rx_gmm_att_req` for a request that is refused. -/
def attReqRejected (ctx : Option CtxId) (radio : Radio) (cause : ℕ) : SgsnM Unit := do
  sendOldmsg radio (.attachReject cause)
  match ctx, radio with
  | some id, _ => gprsGmmMmCtxCleanupFree id
  | none, .gb _ _ llme => gprsLlgmmUnassign llme
  | none, .iu _ => pure ()

/-- The context for an attach: the one that the message belongs to, one with the identity that it
has, or a new one. None is for an identity of the wrong kind. -/
def attReqContext (ctx : Option CtxId) (radio : Radio) (rai : RaId) :
    MobileIdentity → SgsnM (Option CtxId)
  | .imsi imsi => do
    match ctx <|> sgsnMmCtxByImsi (← get) imsi with
    | some id => pure (some id)
    | none =>
      let id ← (match radio with
        | .gb .. => sgsnMmCtxAllocGb 0 rai
        | .iu ue => sgsnMmCtxAllocIu ue)
      modMm id fun mm ↦ { mm with imsi := imsi }
      sgsnMmCtxRehashImsi id
      pure (some id)
  | .tmsi tmsi => do
    match ctx <|> sgsnMmCtxByPtmsi (← get) tmsi with
    | some id => pure (some id)
    | none =>
      let id ← (match radio with
        | .gb tlli .. => sgsnMmCtxAllocGb tlli rai
        | .iu ue => sgsnMmCtxAllocIu ue)
      modMm id fun mm ↦ { mm with pTmsi := tmsi, ptmsiHistory := tmsi :: mm.ptmsiHistory }
      sgsnMmCtxRehashPtmsi id
      pure (some id)
  | _ => pure none

/-- The part of `gsm48_rx_gmm_att_req` that binds the context to where the request has come from. -/
def attReqBind (id : CtxId) (radio : Radio) (rai : RaId) (req : AttachRequest) : SgsnM Unit := do
  (if (← getMm id).ranType ≠ radio.ranType then gmmFsmRatChange id radio.ranType radio.llme
    else pure ())
  (match radio with
    | .gb tlli _ llme => do
      modMm id fun mm ↦ { mm with tlli := tlli }
      sgsnMmCtxRehashTlli id
      modMm id fun mm ↦ { mm with llme := some llme }
    | .iu _ => pure ())
  modMm id fun mm ↦ { mm.msgid radio with
    ra := rai
    msNetworkCapa := req.msNetworkCapa
    ueCipherMask := gprsMsNetCapGeaMask req.msNetworkCapa }

/-- The second half of `gsm48_rx_gmm_att_req`, once there is a context. -/
def attReqProceed (id : CtxId) (radio : Radio) (rai : RaId) (req : AttachRequest) :
    SgsnM Unit := do
  attReqBind id radio rai req
  let mm ← getMm id
  let cfg := (← get).cfg
  if mm.ueCipherMask &&& cfg.geaEncryptionMask = 0 then attReqRejected (some id) radio 111
  else
    ptmsiUpdate id
    assignTlliNew id
    attachReqRecv id req.octets

/-- `gsm48_rx_gmm_att_req`. -/
def gsm48RxGmmAttReq (ctx : Option CtxId) (radio : Radio) (req : AttachRequest) :
    SgsnM Unit := do
  let rai ← (match radio with
    | .gb _ cell _ => pure cell
    | .iu ue => do
      let conn ← getUe ue
      pure conn.ra)
  if 8 < req.msNetworkCapa.length then attReqRejected ctx radio 95
  else match req.mi with
    | none => attReqRejected ctx radio 95
    | some mi =>
      if 50 < req.msRaAccCapLen then attReqRejected ctx radio 95
      else
        match ← attReqContext ctx radio rai mi with
        | none => attReqRejected ctx radio 9
        | some id => attReqProceed id radio rai req

/-- `gsm48_rx_gmm_att_compl`. -/
def gsm48RxGmmAttCompl (id : CtxId) : SgsnM Unit := do
  dropPtmsiOld id
  gmmFsm id .attachSuccess
  (match (← getMm id).ranType with
    | .utranIu => mmStateIu id .psAttach
    | .geranGb => do
      takeTlliNew id
      dropTlliOld id
      mmStateGb id .gprsAttach)
  attachCompleteRecv id

/-! ## Routing area update and service request -/

/-- The end of `gsm48_rx_gmm_ra_upd_req` for a request that is refused. -/
def raUpdReqRejected (ctx : Option CtxId) (radio : Radio) (cause : ℕ) : SgsnM Unit := do
  sendOldmsg radio (.raUpdRej cause)
  match ctx, radio with
  | some id, _ => gprsGmmMmCtxCleanupFree id
  | none, .gb _ _ llme => gprsLlgmmUnassign llme
  | none, .iu ue => sgsnRanapIuTxReleaseFree ue

/-- The second half of `gsm48_rx_gmm_ra_upd_req`, once there is a context. T3350 starts before
anything is known about the authorization. -/
def raUpdReqProceed (id : CtxId) (radio : Radio) (req : RaUpdRequest) : SgsnM Unit := do
  (if (← getMm id).ranType ≠ radio.ranType then do
    gmmFsmRatChange id radio.ranType radio.llme
    gmmFsm id .commonProcInitReq
  else pure ())
  (match radio with
    | .gb tlli cell _ => do
      modMm id fun mm ↦ { mm with ra := cell, tlli := tlli }
      sgsnMmCtxRehashTlli id
    | .iu ue => modMm id fun mm ↦ { mm with ueCtx := some ue })
  ptmsiUpdate id
  modMm id fun mm ↦ { mm with t3350Mode := .rau }.timerStart 3350
  assignTlliNew id
  modMm id fun mm ↦
    let mm := match req.pdpCtxStatus with
      | some status => mm.processMsCtxStatus status
      | none => mm
    { mm with pendingReq := .raUpdReq }
  gsm48GmmAuthorize c id

/-- `gsm48_rx_gmm_ra_upd_req`. -/
def gsm48RxGmmRaUpdReq (ctx : Option CtxId) (radio : Radio) (req : RaUpdRequest) :
    SgsnM Unit := do
  match req.parseCause with
  | some cause => raUpdReqRejected ctx radio cause
  | none =>
    if req.updateType = 1 ∨ req.updateType = 2 then raUpdReqRejected ctx radio 111
    else match ctx, radio, req.allocPtmsi with
      | some id, _, _ =>
        let mm ← getMm id
        if mm.ra ≠ req.oldRai ∨ mm.gmm = .deregistered then raUpdReqRejected ctx radio 10
        else raUpdReqProceed c id radio req
      | none, .gb tlli _ llme, _ =>
        match sgsnMmCtxByTlliAndPtmsi (← get) tlli req.oldRai with
        | some id => raUpdReqFound id
        | none =>
          -- the context of the LLC entity goes with it
          raUpdReqRejected (sgsnMmCtxByLlme (← get) llme) radio 10
      | none, .iu _, none => raUpdReqRejected none radio 10
      | none, .iu _, some (some (.tmsi tmsi)) =>
        match sgsnMmCtxByPtmsi (← get) tmsi with
        | some id => raUpdReqFound id
        | none => raUpdReqRejected none radio 10
      | none, .iu _, some _ => raUpdReqRejected none radio 111
where
  raUpdReqFound (id : CtxId) : SgsnM Unit := do
    let mm ← getMm id
    (if mm.ranType = radio.ranType then gmmFsm id .commonProcInitReq else pure ())
    raUpdReqProceed c id radio req

/-- `gsm48_rx_gmm_ra_upd_compl`. -/
def gsm48RxGmmRaUpdCompl (id : CtxId) : SgsnM Unit := do
  dropPtmsiOld id
  gmmFsm id .commonProcSuccess
  match (← getMm id).ranType with
  | .utranIu => mmStateIu id .raUpdate
  | .geranGb =>
    takeTlliNew id
    dropTlliOld id
    mmStateGb id .raUpdate

/-- `gsm48_rx_gmm_ptmsi_reall_compl`. -/
def gsm48RxGmmPtmsiReallCompl (id : CtxId) : SgsnM Unit := do
  dropPtmsiOld id
  match (← getMm id).ranType with
  | .utranIu => pure ()
  | .geranGb => takeTlliNew id

/-- The context of a service request. -/
def serviceReqContext (s : Sgsn) (ctx : Option CtxId) : MobileIdentity → Option CtxId
  | .imsi imsi => ctx <|> sgsnMmCtxByImsi s imsi
  | .tmsi tmsi => ctx <|> sgsnMmCtxByPtmsi s tmsi
  | _ => none

/-- `pdp_status_has_active_nsapis`. -/
def pdpStatusHasActiveNsapis (pdpStatus : BitVec 16) : Bool := pdpStatus >>> 5 ≠ 0

/-- `gsm48_rx_gmm_service_req`. The context stays when the request is refused. -/
def gsm48RxGmmServiceReq (ctx : Option CtxId) (ue : UeId) (req : ServiceRequest) :
    SgsnM Unit := do
  match req.mi with
  | none => sendOldmsg (.iu ue) (.serviceRej 95)
  | some mi =>
    if mi.type ≠ .imsi ∧ mi.type ≠ .tmsi then sendOldmsg (.iu ue) (.serviceRej 9)
    else match serviceReqContext (← get) ctx mi with
      | none => sendOldmsg (.iu ue) (.serviceRej 10)
      | some id =>
        modMm id fun mm ↦ { mm with ueCtx := some ue }
        gmmFsm id .commonProcInitReq
        modMm id fun mm ↦
          let mm := { mm with serviceType := req.serviceType }
          match req.pdpCtxStatus with
          | some status => mm.processMsCtxStatus status
          | none => mm
        let mm ← getMm id
        if mm.pdpList = [] ∧ req.pdpCtxStatus.any pdpStatusHasActiveNsapis then
          sendOldmsg (.iu ue) (.serviceRej 40)
        else
          modMm id fun mm ↦ { mm with pendingReq := .serviceReq }
          gsm48GmmAuthorize c id

/-! ## Identity and authentication -/

/-- `gsm48_rx_gmm_id_resp`. An identity is taken whenever one has been asked for since the last
authorization, whatever the state of the context is. -/
def gsm48RxGmmIdResp (id : CtxId) : Option MobileIdentity → SgsnM Unit
  | none => pure ()
  | some mi => do
    let mm ← getMm id
    if mm.t3370IdType = .none then pure ()
    else
      (if mi.type = mm.t3370IdType then modMm id (·.timerStop) else pure ())
      storeIdentity mm mi
      attachIdenRespRecv c id mi.type
where
  storeIdentity (mm : MmCtx) : MobileIdentity → SgsnM Unit
    | .imsi imsi => do
      let s ← get
      (match if mm.imsi = [] then sgsnMmCtxByImsi s imsi else none with
        | some old => gprsGmmMmCtxCleanupFree old
        | none => pure ())
      modMm id fun mm ↦ { mm with imsi := imsi }
      sgsnMmCtxRehashImsi id
    | .imei imei => modMm id fun mm ↦ { mm with imei := imei }
    | _ => pure ()

/-- `check_auth_resp`, as it is called for both radio accesses. -/
def checkAuthResp (mm : MmCtx) (res : Bytes) : SubAuthType :=
  let vec := mm.authTriplet.vec
  if mm.isR99 ∧ vec.umts ∧ 4 < res.length then if res = vec.res then .umts else .none
  else if vec.gsm ∧ res = vec.sres then .gsm
  else .none

/-- `gsm48_tx_gmm_auth_ciph_rej` and the end of the context. -/
def authCiphRejected (id : CtxId) : SgsnM Unit := do
  let _ ← gsm48GmmSendmsg id .authCiphRej
  gprsGmmMmCtxCleanupFree id

/-- `gsm48_rx_gmm_auth_ciph_resp`. -/
def gsm48RxGmmAuthCiphResp (id : CtxId) (resp : AuthCiphResponse) : SgsnM Unit := do
  let mm ← getMm id
  if mm.authTriplet.keySeq = gsmKeySeqInval then pure ()
  else if resp.acRefNr ≠ mm.acRefNrUsed then pure ()
  else
    modMm id (·.timerStop)
    match resp.sres, resp.imeisv with
    | some sres, some (9, some (.imeisv imeisv)) =>
      let res := sres ++ (resp.resExt.getD []).take 12
      modMm id fun mm ↦ { mm with imei := imeisv, secCtx := checkAuthResp mm res }
      if (← getMm id).isAuthenticated then
        modMm id fun mm ↦ match mm.ranType with
          | .utranIu => { mm with answered := true, newKey := true }
          | .geranGb => { mm with answered := true }
        attachAuthRespSuccess c id
      else authCiphRejected id
    | _, _ => pure ()

/-- `gsm48_rx_gmm_auth_ciph_fail`. -/
def gsm48RxGmmAuthCiphFail (id : CtxId) (fail : AuthCiphFailure) : SgsnM Unit := do
  match fail.auts with
  | none => authCiphRejected id
  | some auts =>
    if fail.gmmCause ≠ 21 then authCiphRejected id
    else if auts.length ≠ 14 then pure ()
    else
      modMm id fun mm ↦ { mm with
        authTriplet := { mm.authTriplet with keySeq := gsmKeySeqInval }, authState := .umtsResync }
      let ok ← gprsSubscrRequestAuthInfo id (some auts)
      if ok then attachAuthRespResync c id else authCiphRejected id

/-! ## Mobility management -/

/-- `gsm48_rx_gmm_det_req`. -/
def gsm48RxGmmDetReq (id : CtxId) (powerOff : Bool) : SgsnM Unit := do
  let _ ← (if powerOff then pure true else gsm48GmmSendmsg id .detachAck)
  gprsGmmMmCtxCleanupFree id

/-- A message over Gb for which there is no context and which cannot make one. The LLC entity goes,
except after the announcement of a power off. -/
def gsm0408RcvGmmUnknown (radio : Radio) (llme : LlmeId) : GmmMsg → SgsnM Unit
  | .status | .detachAck => gprsLlgmmUnassign llme
  | .detachReq true => pure ()
  | .detachReq false => do
    sendOldmsg radio .detachAck
    gprsLlgmmUnassign llme
  | _ => do
    sendOldmsg radio (.detachReq 10)
    gprsLlgmmUnassign llme

/-- The messages for which there must be a context. -/
def gsm0408RcvGmmCtx (id : CtxId) : GmmMsg → SgsnM Unit
  | .idResp mi => gsm48RxGmmIdResp c id mi
  | .detachReq powerOff => gsm48RxGmmDetReq id powerOff
  | .detachAck => gprsGmmMmCtxCleanupFree id
  | .attachCompl => gsm48RxGmmAttCompl id
  | .raUpdCompl => gsm48RxGmmRaUpdCompl id
  | .ptmsiReallCompl => gsm48RxGmmPtmsiReallCompl id
  | .authCiphResp resp => gsm48RxGmmAuthCiphResp c id resp
  | .authCiphFail fail => gsm48RxGmmAuthCiphFail c id fail
  | .unknown => do
    let _ ← gsm48GmmSendmsg id (.gmmStatus 97)
  | _ => pure ()

/-- `gsm0408_rcv_gmm`. A change of the radio access is only taken from the two messages that can
deal with it. -/
def gsm0408RcvGmm (ctx : Option CtxId) (radio : Radio) (msg : GmmMsg) : SgsnM Unit := do
  match msg, radio, ctx with
  | .raUpdReq req, _, _ => gsm48RxGmmRaUpdReq c ctx radio req
  | .attachReq req, _, _ => gsm48RxGmmAttReq ctx radio req
  | _, .gb _ _ llme, none => gsm0408RcvGmmUnknown radio llme msg
  | .serviceReq req, .iu ue, none => gsm48RxGmmServiceReq c none ue req
  | _, .iu _, none => pure ()
  | _, _, some id =>
    if (← getMm id).ranType ≠ radio.ranType then pure ()
    else match msg, radio with
      | .serviceReq req, .iu ue => gsm48RxGmmServiceReq c ctx ue req
      | _, _ => gsm0408RcvGmmCtx c id msg

end Calls

/-! ## Session management -/

/-- `activate_ggsn`. -/
def activateGgsn (id : CtxId) (nsapi sapi ti : ℕ) (room : Bool) : SgsnM Unit := do
  let mm ← getMm id
  observe (.createPdp mm)
  if room then
    modMm id fun mm ↦
      { mm with pdpList := ⟨nsapi, sapi, ti, false, true, true, false⟩ :: mm.pdpList }

/-- `gsm48_rx_gsm_act_pdp_req`. Nothing about the mobility management state is looked at. -/
def gsm48RxGsmActPdpReq (id : CtxId) (req : ActPdpRequest) : SgsnM Unit := do
  let mm ← getMm id
  let cfg := (← get).cfg
  if req.nsapi < 5 ∨ 15 < req.nsapi then reject
  else match mm.pdpList.find? (·.nsapi = req.nsapi) with
    | some pdp =>
      if ¬ pdp.lib then reject
      else if pdp.sapi = req.sapi ∧ pdp.ti = req.ti then
        if mm.ranType = .utranIu ∧ ¬ pdp.confirmed then
          let _ ← sgsnPdpCtxIuRabActivate id pdp
        else
          let ok ← gsm48GmmSendmsg id .actPdpAcc
          if ok ∧ mm.ranType = .geranGb then
            let _ ← useLlme id
      else reject
    | none =>
      if mm.ggsnLookup.any fun l ↦ l.sapi = req.sapi ∧ l.ti = req.ti then pure ()
      else match req.choice with
        | .ggsn room => activateGgsn id req.nsapi req.sapi req.ti room
        | .byName started =>
          if ¬ cfg.dynamicLookup then reject
          else
            modMm id fun mm ↦ { mm with ggsnLookup := some ⟨req.nsapi, req.sapi, req.ti⟩ }
            if ¬ started then reject
        | .refused => reject
where
  reject : SgsnM Unit := do
    let _ ← gsm48GmmSendmsg id .actPdpRej

/-- A PDP context that the mobile station gives up: the GGSN is told, if there still is one. -/
def deactPdp (id : CtxId) (pdp : PdpCtx) : SgsnM Unit :=
  if pdp.ggsn then pure () else modMm id fun mm ↦ { mm with pdpList := mm.pdpList.erase pdp }

/-- `gsm0408_rcv_gsm`. -/
def gsm0408RcvGsm (ctx : Option CtxId) (radio : Radio) (msg : SmMsg) : SgsnM Unit := do
  match ctx, msg with
  | none, .status => pure ()
  | none, _ => sendOldmsg radio (.detachReq 10)
  | some id, .actPdpReq req => gsm48RxGsmActPdpReq id req
  | some id, .deactPdpReq ti =>
    match (← getMm id).pdpList.find? (·.ti = ti) with
    | some pdp => deactPdp id pdp
    | none => let _ ← gsm48GmmSendmsg id .deactPdpAcc
  | some id, .deactPdpAck ti =>
    match (← getMm id).pdpList.find? (·.ti = ti) with
    | some pdp => deactPdp id pdp
    | none => pure ()
  | some _, .status => pure ()
  | some id, .unknown => let _ ← gsm48GmmSendmsg id .smStatus

section Calls

variable (c : Calls)

/-- A message by its protocol discriminator. -/
def gsm0408GprsRcvmsg (ctx : Option CtxId) (radio : Radio) : UplinkMsg → SgsnM Unit
  | .gmm msg => gsm0408RcvGmm c ctx radio msg
  | .sm msg => gsm0408RcvGsm ctx radio msg
  | .unknown => pure ()

/-! ## Entry points -/

/-- `gsm0408_gprs_rcvmsg_gb`. A message that should have been ciphered and was not is dropped. -/
def gsm0408GprsRcvmsgGb (tlli : BitVec 32) (cell : RaId) (llme : LlmeId) (drop : Bool)
    (msg : UplinkMsg) : SgsnM Unit := do
  let ctx := sgsnMmCtxByTlli (← get) tlli cell
  (match ctx with
    | some id => do
      modMm id fun mm ↦ { mm with llme := some llme }
      gprsGbRecvPdu id
    | none => pure ())
  match msg, drop with
  | .gmm _, true => pure ()
  | _, _ => gsm0408GprsRcvmsg c ctx (.gb tlli cell llme) msg

/-- `gsm0408_gprs_rcvmsg_iu`. -/
def gsm0408GprsRcvmsgIu (ue : UeId) (ra : Option RaId) (msg : UplinkMsg) : SgsnM Unit := do
  let ctx := sgsnMmCtxByUeCtx (← get) ue
  (match ctx, ra with
    | some id, some ra => modMm id fun mm ↦ { mm with ra := ra }
    | _, _ => pure ())
  gsm0408GprsRcvmsg c ctx (.iu ue) msg

end Calls

end OsmoSgsn.Gmm
