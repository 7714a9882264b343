import OsmoSgsn.Gmm.Uplink

/-!
# PDP contexts between a mobile station and a GGSN

What the GTP library and the RNC tell the gateway about a PDP context: that the GGSN has confirmed
or refused it, that it is gone, that the radio bearer is there. A PDP context is named by the
context that it belongs to and by its NSAPI; one whose mobility context was freed belongs to none
and is left out here.

Requests to the GGSN are not modelled, and nothing that they are answered with is promised: a
confirmation may come at any time.
-/

namespace OsmoSgsn.Gmm

/-- `sgsn_pdp_ctx_by_nsapi`. -/
def MmCtx.pdpByNsapi (mm : MmCtx) (nsapi : ℕ) : Option PdpCtx :=
  mm.pdpList.find? (·.nsapi = nsapi)

/-- `sgsn_pdp_ctx_free`. -/
def sgsnPdpCtxFree (id : CtxId) (pdp : PdpCtx) : SgsnM Unit :=
  modMm id fun mm ↦ { mm with pdpList := mm.pdpList.erase pdp }

/-- Write fields of a PDP context. -/
def modPdp (id : CtxId) (nsapi : ℕ) (f : PdpCtx → PdpCtx) : SgsnM Unit :=
  modMm id fun mm ↦ { mm with
    pdpList := mm.pdpList.map fun pdp ↦ if pdp.nsapi = nsapi then f pdp else pdp }

/-- `send_act_pdp_cont_acc`. -/
def sendActPdpContAcc (id : CtxId) (nsapi : ℕ) : SgsnM Unit := do
  let ok ← gsm48GmmSendmsg id .actPdpAcc
  if ok then
    modPdp id nsapi fun pdp ↦ { pdp with uePdpActive := true }
    if (← getMm id).ranType = .geranGb then
      let _ ← useLlme id

/-! ## Confirmations of the GGSN -/

/-- The end of `create_pdp_conf` for a PDP context that does not come about. -/
def createPdpRejected (id : CtxId) (pdp : PdpCtx) : SgsnM Unit := do
  let _ ← gsm48GmmSendmsg id .actPdpRej
  sgsnPdpCtxFree id pdp

/-- `create_pdp_conf`. On Iu a radio bearer comes first, and one that cannot be asked for now is
asked for on the next connection. -/
def createPdpConf (id : CtxId) (nsapi : ℕ) (accepted : Bool) : SgsnM Unit := do
  let mm ← getMm id
  match mm.pdpByNsapi nsapi with
  | none => pure ()
  | some pdp =>
    if ¬ accepted then createPdpRejected id pdp
    else match mm.ranType with
      | .geranGb =>
        let _ ← useLlme id
        sendActPdpContAcc id nsapi
      | .utranIu =>
        let ok ← sgsnPdpCtxIuRabActivate id pdp
        if ok ∨ mm.ueCtx = none then pure () else createPdpRejected id pdp

/-- `sgsn_pdp_ctx_iu_rab_deactivate`. -/
def sgsnPdpCtxIuRabDeactivate (id : CtxId) : SgsnM Unit := do
  if (← getMm id).ranType ≠ .utranIu then throw .assertion

/-- `delete_pdp_conf`. -/
def deletePdpConf (id : CtxId) (nsapi : ℕ) : SgsnM Unit := do
  let mm ← getMm id
  match mm.pdpByNsapi nsapi with
  | none => pure ()
  | some pdp =>
    (match mm.ranType with
      | .geranGb => do
        let _ ← useLlme id
      | .utranIu => sgsnPdpCtxIuRabDeactivate id)
    let _ ← (if pdp.uePdpActive then gsm48GmmSendmsg id .deactPdpAcc else pure true)
    sgsnPdpCtxFree id pdp

/-- `sgsn_ggsn_ctx_drop_pdp`. A registered mobile station is asked to deactivate; one that the GGSN
still knows waits for its answer. -/
def sgsnGgsnCtxDropPdp (id : CtxId) (pdp : PdpCtx) : SgsnM Unit := do
  let mm ← getMm id
  let _ ← (if mm.gmm = .registeredNormal then gsm48GmmSendmsg id .deactPdpReq else pure true)
  if pdp.lib ∧ pdp.ggsn then pure ()
  else if mm.gmm = .registeredNormal then
    modPdp id pdp.nsapi fun pdp ↦ { pdp with ggsn := false, lib := pdp.lib && ¬ pdp.ggsn }
  else sgsnPdpCtxFree id pdp

/-- `cb_delete_context`: the library has let go of a PDP context. -/
def cbDeleteContext (id : CtxId) (nsapi : ℕ) : SgsnM Unit := do
  modPdp id nsapi fun pdp ↦ { pdp with lib := false }
  match (← getMm id).pdpByNsapi nsapi with
  | none => pure ()
  | some pdp => sgsnGgsnCtxDropPdp id pdp

/-- One turn of the loop of `sgsn_ggsn_ctx_drop_all_pdp_except`, after a GGSN has lost its state. -/
def ggsnLost (id : CtxId) (nsapi : ℕ) : SgsnM Unit := do
  match (← getMm id).pdpByNsapi nsapi with
  | none => pure ()
  | some pdp => sgsnGgsnCtxDropPdp id pdp

/-- `cb_update_context_ind` with an error indication from the RNC. -/
def cbUpdateContextErrorInd (id : CtxId) (nsapi : ℕ) : SgsnM Unit := do
  let mm ← getMm id
  if mm.ranType = .utranIu ∧ mm.pdpByNsapi nsapi ≠ none then mmStateIu id .rxGgsnGtpuDtEi

/-- `pdpctx_timer_cb` for T3395. How often it has expired is part of the event. -/
def pdpctxTimerCb (id : CtxId) (nsapi : ℕ) (last : Bool) : SgsnM Unit := do
  match (← getMm id).pdpByNsapi nsapi with
  | none => pure ()
  | some pdp =>
    if last then deactPdp id pdp
    else let _ ← gsm48GmmSendmsg id .deactPdpReq

/-! ## Answers of the RNC -/

/-- A RAB Assignment Response for a bearer: whether its address can be used, and whether there is
one or a TEI. -/
structure RabAssignment where
  rabId : ℕ
  usable : Bool
  update : Bool
  deriving DecidableEq, Repr

/-- `sgsn_ranap_rab_ass_resp`. -/
def sgsnRanapRabAssResp (id : CtxId) (rab : RabAssignment) : SgsnM Unit := do
  match (← getMm id).pdpByNsapi rab.rabId with
  | none => sgsnMmCtxIuRanapReleaseFree id
  | some pdp =>
    if ¬ pdp.lib then pure ()
    else if rab.usable ∧ (rab.update → pdp.ggsn) then
      if ¬ pdp.confirmed then
        sendActPdpContAcc id pdp.nsapi
        modPdp id pdp.nsapi fun pdp ↦ { pdp with confirmed := true }
    else
      let _ ← gsm48GmmSendmsg id (if pdp.confirmed then .deactPdpReq else .actPdpRej)

end OsmoSgsn.Gmm
