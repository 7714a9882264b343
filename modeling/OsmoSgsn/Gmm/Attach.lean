import OsmoSgsn.Gmm.Context

/-!
# Authorization and the attach procedure

Whether a mobile station is let in is decided by three pieces of code that call each other: the
authorization layer computes a verdict and tells the GMM layer when it changes, the GMM layer
passes the news on as an event of the attach FSM, and the attach FSM asks the authorization layer
again when it enters a state. The calls come back synchronously, from inside entry actions.

The functions below take the two calls that close the circle as an argument. `calls` ties the knot
to a given depth of calls into each other, and what is said about the code is said for every depth.
-/

namespace OsmoSgsn.Gmm

/-! ## The verdict -/

/-- `sgsn_auth_state`, for a context and the record that its `subscr` points to. -/
def sgsnAuthState (cfg : SgsnConfig) (mm : MmCtx) (subscr : Option Subscr) : SgsnAuthState :=
  let acl := if mm.imsi ∈ cfg.imsiAcl then .accepted else .rejected
  match cfg.authPolicy, subscr with
  | .policyOpen, _ => .accepted
  | .policyRemote, none => mm.authState
  | .policyRemote, some x =>
    if x.authInfoPending ∨ x.locationPending then mm.authState
    -- the HLR has denied the identity: do not ask for vectors again
    else if x.errorCause ≠ none ∧ x.authorized = false then .rejected
    else if cfg.requireAuthentication ∧ (mm.isAuthenticated = false ∨ x.authTripletsUpdated) then
      .authenticate
    else if x.authorized then .accepted
    else .rejected
  | .policyClosed, _ =>
    if mm.imsi = [] then .unknown
    else if mm.imsi.take mm.ra.plmn.length = mm.ra.plmn then .accepted
    else acl
  | .policyAclOnly, _ => if mm.imsi = [] then .unknown else acl

/-- The tuple that `sgsn_auth_get_tuple` chooses: the next unused one after a key sequence
number. -/
def nextTuple (triplets : List GsmAuthTuple) (keySeq : ℕ) : Option ℕ :=
  let idx := if keySeq = gsmKeySeqInval then 4 else keySeq
  ((List.range 5).map fun k ↦ (idx + 1 + k) % 5).find? fun i ↦
    triplets[i]?.any fun t ↦ t.keySeq ≠ gsmKeySeqInval ∧ t.useCount = 0

/-- `sgsn_auth_get_tuple`. -/
def sgsnAuthGetTuple (id : CtxId) : SgsnM (Option GsmAuthTuple) := do
  let mm ← getMm id
  match mm.subscr with
  | none => pure none
  | some sid =>
    let x ← getSubscr sid
    match nextTuple x.authTriplets mm.authTriplet.keySeq with
    | none => pure none
    | some i =>
      modSubscr sid fun x ↦ { x with
        authTriplets := x.authTriplets.modify i fun t ↦ { t with useCount := 1 } }
      pure (x.authTriplets[i]?.map fun t ↦ { t with useCount := 1 })

/-- The record of a context. -/
def mmSubscr (id : CtxId) : SgsnM (Option Subscr) := do
  match (← getMm id).subscr with
  | none => pure none
  | some sid =>
    let x ← getSubscr sid
    pure (some x)

/-- The calls of the authorization layer into the layers above it. -/
structure Calls where
  /-- Dispatch `E_VLR_ANSWERED` to the attach FSM. -/
  vlrAnswered : CtxId → SgsnM Unit
  /-- `gsm48_gmm_authorize`. -/
  gmmAuthorize : CtxId → SgsnM Unit

/-! ## Rejecting -/

/-- The state table of the attach FSM: the states that a state may be left for. -/
def AttachState.mayLeaveFor : AttachState → AttachState → Bool
  | .init, .init | .init, .identity | .init, .auth | .init, .accept => true
  | .askVlr, .identity => false
  | .askVlr, _ => true
  | .identity, .askVlr | .identity, .iuSecurityCmd => false
  | .identity, _ => true
  | .auth, .identity => false
  | .auth, _ => true
  | .iuSecurityCmd, .identity => false
  | .iuSecurityCmd, _ => true
  | .accept, .init | .accept, .reject => true
  | .reject, .init => true
  | _, _ => false

/-- `gmm_attach_fsm_state_chg`: a change that the table does not allow is refused. -/
def gmmAttachFsmStateChg (id : CtxId) (next : AttachState) (onenter : SgsnM Unit) :
    SgsnM Unit := do
  let mm ← getMm id
  observe (.attachChange mm.att next)
  if mm.att.mayLeaveFor next then
    modMm id fun mm ↦ { mm with att := next }
    onenter

/-- `E_REJECT`: taken in every state. No cause is `GMM_DISCARD_MS_WITHOUT_REJECT`. -/
def attachReject (id : CtxId) (cause : Option ℕ) : SgsnM Unit := do
  let mm ← getMm id
  (if mm.att ≠ .reject then gmmAttachFsmStateChg id .reject (pure ()) else pure ())
  modMm id (·.timerStop)
  let _ ← (match cause with
    | none => pure true
    | some cause => gsm48GmmSendmsg id (.attachReject cause))
  gprsGmmMmCtxCleanupFree id

/-- `gsm0408_gprs_access_denied`. -/
def gsm0408GprsAccessDenied (id : CtxId) (gmmCause : Option ℕ) : SgsnM Unit := do
  let cause := gmmCause.getD 7
  let mm ← getMm id
  match mm.gmm with
  | .commonProcInit => if mm.att ≠ .init then attachReject id (some cause)
  | .registeredNormal | .registeredSuspended =>
    let _ ← gsm48GmmSendmsg id (.detachReq cause)
    gprsGmmMmCtxCleanupFree id
  | _ => gprsGmmMmCtxCleanupFree id

/-- `gsm0408_gprs_access_cancelled`. -/
def gsm0408GprsAccessCancelled (id : CtxId) (gmmCause : Option ℕ) : SgsnM Unit :=
  match gmmCause with
  | some _ => gsm0408GprsAccessDenied id gmmCause
  | none => gprsGmmMmCtxCleanupFree id

section Calls

variable (c : Calls)

/-! ## The authorization layer -/

/-- `gsm0408_gprs_authenticate`. -/
def gsm0408GprsAuthenticate (id : CtxId) : SgsnM Unit := do
  modMm id fun mm ↦ { mm with secCtx := .none }
  if (← getMm id).att ≠ .init then c.vlrAnswered id else c.gmmAuthorize id

/-- `gsm0408_gprs_access_granted`. -/
def gsm0408GprsAccessGranted (id : CtxId) : SgsnM Unit := do
  let mm ← getMm id
  if mm.gmm = .commonProcInit ∧ mm.att ≠ .init then c.vlrAnswered id

/-- The second half of `sgsn_auth_update`: a verdict that is news is stored and told. -/
def sgsnAuthUpdateTo (id : CtxId) (authState : SgsnAuthState) : SgsnM Unit := do
  let mm ← getMm id
  if mm.authState = authState then pure ()
  else
    modMm id fun mm ↦ { mm with authState := authState }
    match authState with
    | .authenticate =>
      (match mm.subscr with
        | none => pure ()
        | some sid => modSubscr sid fun x ↦ { x with authTripletsUpdated := false })
      gsm0408GprsAuthenticate c id
    | .accepted => gsm0408GprsAccessGranted c id
    | .rejected =>
      let subscr ← mmSubscr id
      let gmmCause := subscr.bind (·.errorCause)
      if subscr.any (·.cancelled) then gsm0408GprsAccessCancelled id gmmCause
      else gsm0408GprsAccessDenied id gmmCause
    | _ => pure ()

/-- `sgsn_auth_update`. -/
def sgsnAuthUpdate (id : CtxId) : SgsnM Unit := do
  let mm ← getMm id
  let subscr ← mmSubscr id
  let cfg := (← get).cfg
  let verdict := sgsnAuthState cfg mm subscr
  let authState := if verdict = .unknown ∧
      subscr.any (fun x ↦ x.authInfoPending = false ∧ x.locationPending = false) then .rejected
    else verdict
  if authState = .authenticate ∧ mm.authTriplet.keySeq = gsmKeySeqInval then
    match ← sgsnAuthGetTuple id with
    | some t =>
      modMm id fun mm ↦ { mm with authTriplet := t, answered := false }
      sgsnAuthUpdateTo c id authState
    | none =>
      if cfg.authPolicy = .policyRemote ∧ cfg.requireAuthentication ∧
          subscr.any (fun x ↦ x.authInfoPending = false ∧ x.errorCause = none) then
        modMm id fun mm ↦ { mm with secCtx := .none }
        let ok ← gprsSubscrRequestAuthInfo id none
        if ok then pure () else sgsnAuthUpdateTo c id .rejected
      else sgsnAuthUpdateTo c id .rejected
  else sgsnAuthUpdateTo c id authState

/-- The end of `sgsn_auth_request`: there are vectors, or none are required. -/
def sgsnAuthRequestLocation (id : CtxId) (needUpdateLocation : Bool) : SgsnM Unit := do
  let subscr ← mmSubscr id
  if needUpdateLocation ∧ subscr.any (·.locationPending = false) then
    let _ ← gprsSubscrRequestUpdateLocation id
  else sgsnAuthUpdate c id

/-- `sgsn_auth_request`. -/
def sgsnAuthRequest (id : CtxId) : SgsnM Unit := do
  let cfg := (← get).cfg
  if cfg.authPolicy ≠ .policyRemote then sgsnAuthUpdate c id
  else
    let mm ← getMm id
    let needUpdateLocation := cfg.requireUpdateLocation ∧
      (mm.subscr = none ∨ mm.pendingReq = .attachReq)
    -- this has the side effect of registering the record with the context
    let sid ← gprsSubscrGetOrCreateByMmctx id
    gprsSubscrPut sid
    let x ← getSubscr sid
    if x.errorCause ≠ none ∧ x.authorized = false then sgsnAuthUpdate c id
    else if cfg.requireAuthentication ∧ mm.isAuthenticated = false then
      let freshAttach := decide (mm.pendingReq = .attachReq)
      -- always query the HLR on a fresh attach
      match ← (if freshAttach then pure none else sgsnAuthGetTuple id) with
      | none =>
        modMm id fun mm ↦ { mm with
          secCtx := .none, authTriplet := { mm.authTriplet with keySeq := gsmKeySeqInval } }
        (if freshAttach then gprsSubscrResetAuthTriplets sid else pure ())
        let _ ← gprsSubscrRequestAuthInfo id none
      | some t =>
        modMm id fun mm ↦ { mm with authTriplet := t, answered := false }
        sgsnAuthRequestLocation c id needUpdateLocation
    else sgsnAuthRequestLocation c id needUpdateLocation

/-! ## The attach FSM -/

/-- `st_identity_on_enter`. -/
def stIdentityOnEnter (id : CtxId) : SgsnM Unit := do
  modMm id fun mm ↦ { mm with numTExp := 0 }
  let mm ← getMm id
  if mm.idType = .imei ∨ mm.idType = .imsi then
    modMm id fun mm ↦ { mm with t3370IdType := mm.idType }
    let ok ← gsm48GmmSendmsg id (.idReq mm.idType)
    if ok then pure () else attachReject id (some 0)
  else attachReject id (some 0)

/-- `st_accept_on_enter`. -/
def stAcceptOnEnter (id : CtxId) : SgsnM Unit := do
  let mm ← getMm id
  let subscr ← mmSubscr id
  observe (.attachAccepted mm subscr)
  modMm id fun mm ↦ { mm.timerStop with numTExp := 0, pendingReq := .none }
  let _ ← gsm48GmmSendmsg id .attachAccept

/-- `st_iu_security_cmd_on_enter`. -/
def stIuSecurityCmdOnEnter (id : CtxId) : SgsnM Unit := do
  match (← getMm id).ueCtx with
  | none => throw .nullPointer
  | some ue =>
    let conn ← getUe ue
    if conn.integrityActive then gmmAttachFsmStateChg id .accept (stAcceptOnEnter id)
    else let _ ← sgsnRanapIuTxSecModeCmd id ue

/-- `st_ask_vlr_on_enter`. -/
def stAskVlrOnEnter (id : CtxId) : SgsnM Unit := do
  if (← getMm id).authState = .umtsResync then pure () else sgsnAuthRequest c id

/-- `st_auth_on_enter`. -/
def stAuthOnEnter (id : CtxId) : SgsnM Unit := do
  modMm id fun mm ↦ { mm with numTExp := 0 }
  let mm ← getMm id
  let subscr ← mmSubscr id
  let cfg := (← get).cfg
  match if cfg.authPolicy ≠ .policyRemote then sgsnAuthState cfg mm subscr else mm.authState with
  | .umtsResync | .unknown => gmmAttachFsmStateChg id .askVlr (stAskVlrOnEnter c id)
  | .rejected => attachReject id (some 7)
  | .accepted => gmmAttachFsmStateChg id .accept (stAcceptOnEnter id)
  | .authenticate =>
    if mm.authTriplet.keySeq = gsmKeySeqInval then
      gmmAttachFsmStateChg id .askVlr (stAskVlrOnEnter c id)
    else
      let ok ← gsm48TxGmmAuthCiphReq id
      (if ok then pure () else attachReject id (some 17))
      -- the context is written to also after a reject
      modMm id fun mm ↦ { mm with authReattempt := mm.authReattempt + 1 }

/-- `attach_needs_update_location`. -/
def attachNeedsUpdateLocation (cfg : SgsnConfig) (subscr : Option Subscr) : Bool :=
  cfg.authPolicy = .policyRemote ∧ cfg.requireUpdateLocation ∧
    ¬ subscr.any (fun x ↦ x.locationPending = false ∧ x.authorized)

/-- The context has an Iu connection on which integrity protection is not running. -/
def lacksIntegrity (mm : MmCtx) : SgsnM Bool := do
  match mm.ranType, mm.ueCtx with
  | .utranIu, some ue =>
    let conn ← getUe ue
    pure (conn.integrityActive = false)
  | _, _ => pure false

/-- `attach_proceed_after_auth`. -/
def attachProceedAfterAuth (id : CtxId) : SgsnM Unit := do
  let mm ← getMm id
  if ← lacksIntegrity mm then
    if mm.att ≠ .iuSecurityCmd then
      gmmAttachFsmStateChg id .iuSecurityCmd (stIuSecurityCmdOnEnter id)
  else
    let subscr ← mmSubscr id
    let cfg := (← get).cfg
    if attachNeedsUpdateLocation cfg subscr then
      gmmAttachFsmStateChg id .askVlr (stAskVlrOnEnter c id)
    else gmmAttachFsmStateChg id .accept (stAcceptOnEnter id)

/-- `E_VLR_ANSWERED`. `ST_IU_SECURITY_CMD` and `ST_ACCEPT` take it and do nothing but log. -/
def attachVlrAnswered (id : CtxId) : SgsnM Unit := do
  let mm ← getMm id
  match mm.att with
  | .askVlr =>
    if mm.isAuthenticated then attachProceedAfterAuth c id
    else gmmAttachFsmStateChg id .auth (stAuthOnEnter c id)
  | .auth => if mm.isAuthenticated then attachProceedAfterAuth c id
  | _ => pure ()

/-! ## Requests other than attach -/

/-- The end of `gsm48_gmm_authorize`: the request that was waiting is answered. -/
def gsm48GmmAuthorized (id : CtxId) : SgsnM Unit := do
  let mm ← getMm id
  match mm.pendingReq with
  | .none => pure ()
  | .attachReq =>
    modMm id fun mm ↦ { mm with pendingReq := .none }
    -- the attach FSM owns T3350 once it leaves `ST_INIT`
    if mm.att ≠ .init then pure ()
    else
      modMm id fun mm ↦ { mm.timerStart 3350 with t3350Mode := .att }
      let _ ← gsm48GmmSendmsg id .attachAccept
  | .serviceReq =>
    modMm id fun mm ↦ { mm with pendingReq := .none }
    mmStateIu id .psConnEstablish
    let _ ← gsm48GmmSendmsg id .serviceAccept
    if (← getMm id).serviceType ≠ 0 then sgsnMmCtxIuActivateRabs id
  | .raUpdReq =>
    modMm id fun mm ↦ { mm with pendingReq := .none }
    let _ ← gsm48GmmSendmsg id .raUpdAccept

/-- `gsm48_gmm_authorize`. -/
def gsm48GmmAuthorize (id : CtxId) : SgsnM Unit := do
  let mm ← getMm id
  if mm.imei = [] then
    modMm id fun mm ↦ { mm.timerStart 3370 with t3370IdType := .imei }
    let _ ← gsm48GmmSendmsg id (.idReq .imei)
  else if mm.imsi = [] then
    modMm id fun mm ↦ { mm.timerStart 3370 with t3370IdType := .imsi }
    let _ ← gsm48GmmSendmsg id (.idReq .imsi)
  else
    -- all information required for authentication is available
    modMm id fun mm ↦ { mm with t3370IdType := .none }
    if mm.authState = .unknown then sgsnAuthRequest c id
    else if mm.authState = .authenticate ∧ mm.isAuthenticated = false then
      modMm id (·.timerStart 3360)
      let _ ← gsm48TxGmmAuthCiphReq id
    else if mm.authState = .authenticate ∧ mm.authTriplet.keySeq ≠ gsmKeySeqInval then
      -- check again for authorization
      sgsnAuthRequest c id
    else if mm.authState ≠ .accepted then pure ()
    else match mm.ranType, mm.ueCtx with
      | .utranIu, none => throw .nullPointer
      | .utranIu, some ue =>
        let conn ← getUe ue
        if conn.integrityActive then gsm48GmmAuthorized id
        else let _ ← sgsnRanapIuTxSecModeCmd id ue
      | .geranGb, _ => gsm48GmmAuthorized id

/-! ## Events of the attach FSM -/

/-- `st_init`. The source asks for the IMEI first, a compile-time choice. -/
def stInit (id : CtxId) (attachReq : Bytes) : SgsnM Unit := do
  modMm id fun mm ↦ { mm.timerStop with
    attachReq := some attachReq, authState := .unknown, secCtx := .none,
    authTriplet := { mm.authTriplet with keySeq := gsmKeySeqInval }, authReattempt := 0,
    pendingReq := .attachReq, idType := .imei }
  gmmAttachFsmStateChg id .identity (stIdentityOnEnter id)

/-- `E_ATTACH_REQ_RECV`. In the middle of the procedure only a different request starts it again,
and `ST_IU_SECURITY_CMD` ignores every one. -/
def attachReqRecv (id : CtxId) (attachReq : Bytes) : SgsnM Unit := do
  let mm ← getMm id
  match mm.att with
  | .init | .reject => stInit id attachReq
  | .accept =>
    gmmAttachFsmStateChg id .init (pure ())
    stInit id attachReq
  | .askVlr | .auth | .identity =>
    if mm.attachReq.any (· ≠ attachReq) then
      gmmAttachFsmStateChg id .init (pure ())
      stInit id attachReq
  | .iuSecurityCmd => pure ()

/-- `E_IDEN_RESP_RECV`. -/
def attachIdenRespRecv (id : CtxId) (type : MiType) : SgsnM Unit := do
  let mm ← getMm id
  if mm.att = .identity then
    if type = .imei ∨ type = .imsi then
      if type = mm.idType then
        if type = .imei ∧ mm.imsi = [] then
          modMm id fun mm ↦ { mm with idType := .imsi }
          gmmAttachFsmStateChg id .identity (stIdentityOnEnter id)
        else gmmAttachFsmStateChg id .auth (stAuthOnEnter c id)
    else attachReject id (some 17)

/-- `E_AUTH_RESP_RECV_SUCCESS`. -/
def attachAuthRespSuccess (id : CtxId) : SgsnM Unit := do
  if (← getMm id).att = .auth then
    sgsnAuthRequest c id
    attachProceedAfterAuth c id

/-- `E_AUTH_RESP_RECV_RESYNC`, which every state takes. -/
def attachAuthRespResync (id : CtxId) : SgsnM Unit := do
  if (← getMm id).authReattempt ≤ 1 then
    gmmAttachFsmStateChg id .askVlr (stAskVlrOnEnter c id)
  else attachReject id (some 21)

/-- `E_IU_SECURITY_CMD_COMPLETE`. -/
def attachIuSecurityCmdComplete (id : CtxId) : SgsnM Unit := do
  if (← getMm id).att = .iuSecurityCmd then attachProceedAfterAuth c id

/-- `E_ATTACH_COMPLETE_RECV`. -/
def attachCompleteRecv (id : CtxId) : SgsnM Unit := do
  if (← getMm id).att = .accept then gmmAttachFsmStateChg id .init (pure ())

/-- `gmm_attach_timer_cb`. -/
def gmmAttachTimerCb (id : CtxId) : SgsnM Unit := do
  modMm id fun mm ↦ { mm with numTExp := mm.numTExp + 1 }
  let mm ← getMm id
  if mm.ranType = .utranIu ∧ mm.att ≠ .askVlr ∧ mm.ueCtx = none then attachReject id none
  else match mm.att with
    | .askVlr => attachReject id (some 17)
    | .identity =>
      if 5 ≤ mm.numTExp then attachReject id (some 9)
      else let _ ← gsm48GmmSendmsg id (.idReq mm.idType)
    | .auth =>
      if 5 ≤ mm.numTExp then attachReject id none
      else let _ ← gsm48TxGmmAuthCiphReq id
    | .accept =>
      if 5 ≤ mm.numTExp then attachReject id none
      else let _ ← gsm48GmmSendmsg id .attachAccept
    | _ => pure ()

/-- `gmm_att_req_abort_on_iu_loss`. -/
def gmmAttReqAbortOnIuLoss (id : CtxId) : SgsnM Unit := do
  let mm ← getMm id
  if mm.ranType = .utranIu ∧ mm.att ≠ .init ∧ mm.att ≠ .reject then attachReject id none

end Calls

/-! ## Tying the knot -/

/-- The calls into the layers above, to a depth. -/
def calls : ℕ → Calls
  | 0 => ⟨fun _ ↦ throw .callDepth, fun _ ↦ throw .callDepth⟩
  | n + 1 => ⟨attachVlrAnswered (calls n), gsm48GmmAuthorize (calls n)⟩

end OsmoSgsn.Gmm
