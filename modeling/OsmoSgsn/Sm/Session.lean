import OsmoSgsn.Library.Machine
import OsmoSgsn.Gmm.State

/-!
# PDP contexts and their GGSN sessions

A PDP context is in the list of its MM context, in that of its GGSN context and in `sgsn->pdp_list`,
and has a handle of the GTP library. It is made with a Create PDP Context Request to the GGSN, and
it is freed when the GGSN refuses it, when a Delete PDP Context Request is answered, or when there
is no GGSN any more. An MM context that goes away leaves its PDP contexts behind, detached, to wait
for the answers of the GGSN.

The library keeps the requests that it was given and answers each once. What it is given and what it
answers is part of the events, and so is what the rest of the gateway does to MM contexts.
-/

namespace OsmoSgsn.Sm

open Gmm (SgsnRanType)

/-- A pointer to an MM context. The memory of a context that is gone may be used again. -/
abbrev SessMmPtr := ℕ

/-- A pointer to a PDP context. -/
abbrev PdpPtr := ℕ

/-- A pointer to a GGSN context. -/
abbrev GgsnPtr := ℕ

/-- `enum pdp_ctx_state`, where `PDP_STATE_INACTIVE` is `PDP_STATE_NONE`. -/
inductive PdpCtxState
  | none | crReq | crConf
  deriving DecidableEq, Repr

/-- `struct sgsn_pdp_ctx`. -/
structure PdpCtx where
  nsapi : ℕ
  sapi : ℕ
  ti : ℕ
  mm : Option SessMmPtr
  ggsn : Option GgsnPtr
  /-- There is a handle of the GTP library. -/
  lib : Bool
  /-- The handle has GTP version 1. -/
  version1 : Bool
  state : PdpCtxState
  uePdpActive : Bool
  /-- `num_T_exp` while T3395 is running. -/
  timer : Option ℕ
  /-- History: an Activate PDP Context Accept was sent. -/
  actAccSent : Bool
  /-- History: the GGSN has accepted the context. -/
  createAccepted : Bool
  /-- History: a Delete PDP Context Request was sent. -/
  deleteSent : Bool
  /-- History: the GGSN has deleted the context, does not know it, or was restarted. -/
  ggsnReleased : Bool
  deriving DecidableEq, Repr

/-- `struct sgsn_mm_ctx`, as far as its PDP contexts are concerned. -/
structure SessMm where
  ranType : SgsnRanType
  /-- There is an Iu connection. -/
  ueCtx : Bool
  /-- `ST_GMM_REGISTERED_NORMAL`. -/
  registered : Bool
  pdpList : List PdpPtr
  deriving DecidableEq, Repr

/-- The MM contexts, the PDP contexts, `sgsn->pdp_list`, and the PDP contexts whose Create and
Delete requests the library has not answered. -/
structure SessState where
  mms : SessMmPtr → Option SessMm
  ctxs : PdpPtr → Option PdpCtx
  pdpList : List PdpPtr
  creates : List PdpPtr
  deletes : List PdpPtr
  nextPdp : PdpPtr

/-- What can be seen of sessions. -/
inductive SessOut
  | actPdpAcc (p : PdpPtr)
  | actPdpRej (mm : SessMmPtr) (ti : ℕ)
  | deactPdpReq (p : PdpPtr)
  | deactPdpAcc (mm : SessMmPtr) (ti : ℕ)
  | rabActivate (p : PdpPtr)
  | createReq (p : PdpPtr)
  | updateReq (p : PdpPtr)
  | deleteReq (p : PdpPtr)
  /-- `sgsn_pdp_ctx_free` of a context as it is then. -/
  | freed (p : PdpPtr) (c : PdpCtx)
  /-- `sgsn_pdp_ctx_terminate` has left a context as it is now. -/
  | terminated (p : PdpPtr) (c : PdpCtx)
  /-- The library answers a request of a context that is gone. -/
  | useAfterFree (p : PdpPtr)
  deriving DecidableEq, Repr

/-- Whether the library takes a request for a context. -/
abbrev Takes := PdpPtr → Bool

namespace SessState

variable (s : SessState)

/-! ## Objects -/

/-- Write a PDP context. -/
def setPdp (p : PdpPtr) (c : PdpCtx) : SessState :=
  { s with ctxs := Function.update s.ctxs p (some c) }

/-- Write an MM context. -/
def setMm (m : SessMmPtr) (mm : Option SessMm) : SessState :=
  { s with mms := Function.update s.mms m mm }

/-- Take a PDP context out of the list of its MM context. -/
def unlinkMm (p : PdpPtr) (c : PdpCtx) : SessState :=
  match c.mm with
  | none => s
  | some m =>
    match s.mms m with
    | none => s
    | some mm => s.setMm m (some { mm with pdpList := mm.pdpList.filter (· ≠ p) })

/-- The MM context of a PDP context is registered. -/
def registered (c : PdpCtx) : Bool := (c.mm.bind s.mms).any (·.registered)

/-- `sgsn_pdp_ctx_by_nsapi`. -/
def pdpCtxByNsapi (mm : SessMm) (nsapi : ℕ) : Option PdpPtr :=
  mm.pdpList.find? fun p ↦ (s.ctxs p).any (·.nsapi = nsapi)

/-- `sgsn_pdp_ctx_by_tid`. -/
def pdpCtxByTid (mm : SessMm) (ti : ℕ) : Option PdpPtr :=
  mm.pdpList.find? fun p ↦ (s.ctxs p).any (·.ti = ti)

/-! ## Making, deleting and dropping a PDP context -/

/-- `sgsn_pdp_ctx_free`. -/
def pdpCtxFree (p : PdpPtr) (c : PdpCtx) : SessState × List SessOut :=
  let s := s.unlinkMm p c
  ({ s with ctxs := Function.update s.ctxs p none, pdpList := s.pdpList.filter (· ≠ p) },
    [.freed p c])

/-- `sgsn_delete_pdp_ctx`. A context that is not confirmed is skipped. -/
def deletePdpCtx (takes : Takes) (p : PdpPtr) (c : PdpCtx) : SessState × List SessOut :=
  if c.ggsn.isSome ∧ c.lib ∧ c.state = .crConf ∧ takes p then
    ({ s.setPdp p { c with deleteSent := true } with deletes := p :: s.deletes }, [.deleteReq p])
  else (s, [])

/-- How a mobile station deactivates: at the GGSN, or at once if there is none. -/
def deactivate (takes : Takes) (p : PdpPtr) (c : PdpCtx) : SessState × List SessOut :=
  if c.ggsn.isSome then s.deletePdpCtx takes p c else s.pdpCtxFree p c

/-- `sgsn_pdp_ctx_terminate`. -/
def pdpCtxTerminate (takes : Takes) (s : SessState) (p : PdpPtr) : SessState × List SessOut :=
  match s.ctxs p with
  | none => (s, [])
  | some c =>
    let c' := { c with mm := none, timer := none }
    let s := (s.unlinkMm p c).setPdp p c'
    let (s, outs) := if c'.ggsn.isSome then s.deletePdpCtx takes p c' else (s, [])
    (s, outs ++ [.terminated p ((s.ctxs p).getD c')])

/-- `sgsn_ggsn_ctx_drop_pdp`. -/
def ggsnCtxDropPdp (takes : Takes) (s : SessState) (p : PdpPtr) : SessState × List SessOut :=
  match s.ctxs p with
  | none => (s, [])
  | some c =>
    let registered := s.registered c
    let c := if registered then { c with timer := some 0 } else c
    let out : List SessOut := if registered then [.deactPdpReq p] else []
    if c.lib ∧ c.ggsn.isSome then
      let (s, outs) := (s.setPdp p c).deletePdpCtx takes p c
      (s, out ++ outs)
    else if registered then
      (s.setPdp p { c with ggsn := none, lib := if c.ggsn.isSome then false else c.lib }, out)
    else s.pdpCtxFree p c

/-- `sgsn_create_pdp_ctx` and `activate_ggsn`. -/
def activateGgsn (m : SessMmPtr) (mm : SessMm) (g : GgsnPtr) (nsapi sapi ti : ℕ) (takes : Takes) :
    SessState × List SessOut :=
  match s.pdpCtxByNsapi mm nsapi with
  | some _ => (s, [])
  | none =>
    let p := s.nextPdp
    let c : PdpCtx :=
      ⟨nsapi, sapi, ti, some m, some g, true, true, .crReq, false, none, false, false,
      false, false⟩
    let s := (s.setPdp p c).setMm m (some { mm with pdpList := p :: mm.pdpList })
    let s := { s with pdpList := p :: s.pdpList, nextPdp := p + 1 }
    if takes p then ({ s with creates := p :: s.creates }, [.createReq p]) else (s, [])

end SessState

/-- `send_act_pdp_cont_acc`. -/
def PdpCtx.sendActPdpContAcc (c : PdpCtx) (p : PdpPtr) (tx : Bool) : PdpCtx × List SessOut :=
  if tx then ({ c with uePdpActive := true, actAccSent := true }, [.actPdpAcc p]) else (c, [])

/-- Do something to the contexts of a list, one after the other. -/
def forPdps (f : SessState → PdpPtr → SessState × List SessOut) :
    List PdpPtr → SessState → SessState × List SessOut
  | [], s => (s, [])
  | p :: ps, s =>
    let (s, outs) := f s p
    let (s, more) := forPdps f ps s
    (s, outs ++ more)

/-! ## Answers of the GGSN -/

/-- The answers to a Create PDP Context Request. -/
inductive CreateCause
  | timeout | accepted | rejected
  deriving DecidableEq, Repr

namespace SessState

variable (s : SessState)

/-- The end of `create_pdp_conf` for a context that does not come about. -/
def createPdpRejected (p : PdpPtr) (c : PdpCtx) : SessState × List SessOut :=
  let c := { c with state := .none, lib := false }
  let out : List SessOut := match c.mm with
    | some m => [.actPdpRej m c.ti]
    | none => []
  let (s, outs) := s.pdpCtxFree p c
  (s, out ++ outs)

/-- The body of `create_pdp_conf`, for a context that knows what the GGSN has answered. -/
def createPdpAnswered (p : PdpPtr) (c : PdpCtx) (cause : CreateCause) (lib : Bool) (takes : Takes)
    (tx rabTx : Bool) : SessState × List SessOut :=
  match c.mm, cause with
  | none, _ => s.createPdpRejected p c
  | some _, .timeout =>
    if lib ∧ c.version1 then
      let s := s.setPdp p { c with version1 := false }
      if takes p then ({ s with creates := p :: s.creates }, [.createReq p]) else (s, [])
    else s.createPdpRejected p c
  | some _, .rejected => s.createPdpRejected p c
  | some m, .accepted =>
    match s.mms m with
    | none => (s, [.useAfterFree p])
    | some mm =>
      match mm.ranType with
      | .geranGb => (s.setPdp p (c.sendActPdpContAcc p tx).1, (c.sendActPdpContAcc p tx).2)
      | .utranIu =>
        -- A radio bearer that cannot be asked for now is asked for on the next connection.
        if mm.ueCtx ∧ ¬ (c.lib ∧ rabTx) then s.createPdpRejected p c
        else (s.setPdp p c, if mm.ueCtx then [.rabActivate p] else [])

/-- `create_pdp_conf`. `lib` is whether the library hands its handle over; `tx` and `rabTx` are
whether a message to the mobile station and a RAB Assignment Request are sent. -/
def createPdpConf (p : PdpPtr) (cause : CreateCause) (lib : Bool) (takes : Takes)
    (tx rabTx : Bool) :
    SessState × List SessOut :=
  match s.ctxs p with
  | none => (s, [.useAfterFree p])
  | some c =>
    s.createPdpAnswered p
      { c with createAccepted := c.createAccepted || decide (cause = CreateCause.accepted) }
      cause lib takes tx rabTx

/-- `delete_pdp_conf`. -/
def deletePdpConf (p : PdpPtr) : SessState × List SessOut :=
  match s.ctxs p with
  | none => (s, [.useAfterFree p])
  | some c =>
    let out : List SessOut := match c.mm with
      | some m => if c.uePdpActive then [.deactPdpAcc m c.ti] else []
      | none => []
    let (s, outs) := s.pdpCtxFree p c
    (s, out ++ outs)

/-- `cb_delete_context`. -/
def cbDeleteContext (p : PdpPtr) (takes : Takes) : SessState × List SessOut :=
  match s.ctxs p with
  | none => (s, [])
  | some c => (s.setPdp p { c with lib := false, ggsnReleased := true }).ggsnCtxDropPdp takes p

/-- `update_pdp_conf`. The library frees the handle of a context that the GGSN does not know. -/
def updatePdpConf (p : PdpPtr) (nonExist : Bool) (takes : Takes) : SessState × List SessOut :=
  match s.ctxs p with
  | none => (s, [.useAfterFree p])
  | some c => if nonExist ∧ c.lib ∧ c.ggsn.isSome then s.cbDeleteContext p takes else (s, [])

/-- The PDP contexts of a GGSN context. -/
def pdpsOfGgsn (g : GgsnPtr) : List PdpPtr :=
  s.pdpList.filter fun p ↦ (s.ctxs p).any (·.ggsn = some g)

/-- The body of the loop of `sgsn_ggsn_ctx_drop_all_pdp_except`. -/
def dropLost (restarted : Bool) (takes : Takes) (s : SessState) (p : PdpPtr) :
    SessState × List SessOut :=
  match s.ctxs p with
  | none => (s, [])
  | some c =>
    (s.setPdp p { c with ggsnReleased := c.ggsnReleased || restarted }).ggsnCtxDropPdp takes p

/-- `sgsn_ggsn_ctx_drop_all_pdp_except`, after a GGSN was restarted or has not answered. -/
def ggsnCtxDropAllPdpExcept (g : GgsnPtr) (except : Option PdpPtr) (restarted : Bool)
    (takes : Takes) : SessState × List SessOut :=
  forPdps (dropLost restarted takes) ((s.pdpsOfGgsn g).filter (some · ≠ except)) s

/-! ## Messages of the mobile station and of the RNC -/

/-- `do_act_pdp_req`, with the GGSN that is chosen. Without one the request is rejected, or the name
of the access point is looked up. -/
def doActPdpReq (m : SessMmPtr) (mm : SessMm) (g : Option GgsnPtr) (nsapi sapi ti : ℕ)
    (takes : Takes) (tx rabTx : Bool) : SessState × List SessOut :=
  if nsapi < 5 ∨ 15 < nsapi then (s, [.actPdpRej m ti])
  else
    match s.pdpCtxByNsapi mm nsapi with
    | none =>
      match g with
      | none => (s, [])
      | some g => s.activateGgsn m mm g nsapi sapi ti takes
    | some p =>
      match s.ctxs p with
      | none => (s, [])
      | some c =>
        if ¬ c.lib then (s, [.actPdpRej m ti])
        else if c.sapi = sapi ∧ c.ti = ti then
          if mm.ranType = .utranIu ∧ c.state ≠ .crConf then
            (s, if mm.ueCtx ∧ rabTx then [.rabActivate p] else [])
          else if tx then (s.setPdp p { c with actAccSent := true }, [.actPdpAcc p])
          else (s, [])
        else (s, [.actPdpRej m ti])

/-- `gsm48_rx_gsm_deact_pdp_req`. -/
def rxGsmDeactPdpReq (m : SessMmPtr) (mm : SessMm) (ti : ℕ) (takes : Takes) :
    SessState × List SessOut :=
  match s.pdpCtxByTid mm ti with
  | none => (s, [.deactPdpAcc m ti])
  | some p =>
    match s.ctxs p with
    | none => (s, [])
    | some c => s.deactivate takes p c

/-- `gsm48_rx_gsm_deact_pdp_ack`. -/
def rxGsmDeactPdpAck (mm : SessMm) (ti : ℕ) (takes : Takes) : SessState × List SessOut :=
  match s.pdpCtxByTid mm ti with
  | none => (s, [])
  | some p =>
    match s.ctxs p with
    | none => (s, [])
    | some c => (s.setPdp p { c with timer := none }).deactivate takes p { c with timer := none }

/-- A PDP context status marks an NSAPI as active. -/
def activeIn (status : BitVec 16) (nsapi : ℕ) : Bool := (status &&& 0xffe0).getLsbD nsapi

/-- The body of the loop of `process_ms_ctx_status`. -/
def processCtxStatus (status : BitVec 16) (takes : Takes) (s : SessState) (p : PdpPtr) :
    SessState × List SessOut :=
  match s.ctxs p with
  | none => (s, [])
  | some c =>
    if activeIn status c.nsapi then (s, [])
    else (s.setPdp p { c with uePdpActive := false }).deactivate takes p
      { c with uePdpActive := false }

/-- `process_ms_ctx_status`. -/
def processMsCtxStatus (mm : SessMm) (status : BitVec 16) (takes : Takes) :
    SessState × List SessOut :=
  forPdps (processCtxStatus status takes) mm.pdpList s

/-- `T339X_MAX_RETRANS`. -/
def t339xMaxRetrans : ℕ := 4

/-- `pdpctx_timer_cb` for T3395. -/
def pdpctxTimerCb (p : PdpPtr) (takes : Takes) : SessState × List SessOut :=
  match s.ctxs p with
  | none => (s, [])
  | some c =>
    match c.timer with
    | none => (s, [])
    | some n =>
      if t339xMaxRetrans < n + 1 then
        let c := { c with timer := none, state := .none }
        (s.setPdp p c).deactivate takes p c
      else (s.setPdp p { c with timer := some (n + 1) }, [.deactPdpReq p])

/-- Delete one context at the GGSN. -/
def deleteOne (takes : Takes) (s : SessState) (p : PdpPtr) : SessState × List SessOut :=
  match s.ctxs p with
  | none => (s, [])
  | some c => s.deletePdpCtx takes p c

/-- `sgsn_mm_ctx_delete_all_pdp_gn`, and the loop of `ctx_xfer_finish`. -/
def deleteAllPdp (mm : SessMm) (takes : Takes) : SessState × List SessOut :=
  forPdps (deleteOne takes) mm.pdpList s

/-- `sgsn_ranap_rab_ass_resp`: whether its address can be used, and whether there is an address or a
TEI. -/
def ranapRabAssResp (m : SessMmPtr) (mm : SessMm) (rabId : ℕ) (usable update : Bool) (takes : Takes)
    (tx : Bool) : SessState × List SessOut :=
  match s.pdpCtxByNsapi mm rabId with
  | none => (s, [])
  | some p =>
    match s.ctxs p with
    | none => (s, [])
    | some c =>
      if ¬ c.lib then (s, [])
      else if usable ∧ (update → c.ggsn.isSome) then
        let out : List SessOut := if update then [.updateReq p] else []
        if c.state ≠ .crConf then
          let (c, outs) := c.sendActPdpContAcc p tx
          (s.setPdp p { c with state := .crConf }, out ++ outs)
        else (s, out)
      else if c.state ≠ .crConf then
        let (s, outs) := s.deletePdpCtx takes p c
        (s, .actPdpRej m c.ti :: outs)
      else (s.setPdp p { c with timer := some 0 }, [.deactPdpReq p])

/-- Free one context. -/
def freeOne (s : SessState) (p : PdpPtr) : SessState × List SessOut :=
  match s.ctxs p with
  | none => (s, [])
  | some c => s.pdpCtxFree p c

/-- `sgsn_mm_ctx_free`. -/
def mmCtxFree (m : SessMmPtr) : SessState × List SessOut :=
  match s.mms m with
  | none => (s, [])
  | some mm =>
    let (s, outs) := forPdps freeOne mm.pdpList s
    (s.setMm m none, outs)

/-- `sgsn_mm_ctx_cleanup_free`. -/
def mmCtxCleanupFree (m : SessMmPtr) (mm : SessMm) (takes : Takes) : SessState × List SessOut :=
  let (s, outs) := forPdps (pdpCtxTerminate takes) mm.pdpList s
  let (s, more) := s.mmCtxFree m
  (s, outs ++ more)

end SessState

/-! ## The machine -/

/-- What happens at the gateway. -/
inductive SessEvent
  | mmAlloc (m : SessMmPtr) (ranType : SgsnRanType)
  /-- The rest of the gateway writes to an MM context. -/
  | mmChange (m : SessMmPtr) (ranType : SgsnRanType) (ueCtx registered : Bool)
  | mmFree (m : SessMmPtr) (takes : Takes)
  | actPdpReq (m : SessMmPtr) (g : Option GgsnPtr) (nsapi sapi ti : ℕ) (takes : Takes)
      (tx rabTx : Bool)
  /-- A name was looked up for a request. -/
  | ggsnFound (m : SessMmPtr) (g : GgsnPtr) (nsapi sapi ti : ℕ) (takes : Takes)
  | deactPdpReq (m : SessMmPtr) (ti : ℕ) (takes : Takes)
  | deactPdpAck (m : SessMmPtr) (ti : ℕ) (takes : Takes)
  /-- A Routing Area Update or a Service Request has a PDP context status. -/
  | ctxStatus (m : SessMmPtr) (status : BitVec 16) (takes : Takes)
  | t3395 (p : PdpPtr) (takes : Takes)
  /-- The PDP contexts of an MM context are deleted at the GGSN. -/
  | deleteAll (m : SessMmPtr) (takes : Takes)
  | rabAssResp (m : SessMmPtr) (rabId : ℕ) (usable update : Bool) (takes : Takes) (tx : Bool)
  | createConf (p : PdpPtr) (cause : CreateCause) (lib : Bool) (takes : Takes) (tx rabTx : Bool)
  | deleteConf (p : PdpPtr)
  | updateConf (p : PdpPtr) (nonExist : Bool) (takes : Takes)
  /-- The GGSN deletes a context. -/
  | deleteContext (p : PdpPtr) (takes : Takes)
  /-- A GGSN was restarted or has not answered an Echo Request. -/
  | ggsnLost (g : GgsnPtr) (except : Option PdpPtr) (restarted : Bool) (takes : Takes)

namespace SessState

/-- Do something to an MM context, if there is one. -/
def whenMm (s : SessState) (m : SessMmPtr) (k : SessMm → SessState × List SessOut) :
    SessState × List SessOut :=
  match s.mms m with
  | none => (s, [])
  | some mm => k mm

/-- One event. The library answers only requests that it was given, and each of them once; it tells
about a context only while that has a handle. -/
def step (s : SessState) : SessEvent → SessState × List SessOut
  | .mmAlloc m ranType =>
    match s.mms m with
    | none => (s.setMm m (some ⟨ranType, false, false, []⟩), [])
    | some _ => (s, [])
  | .mmChange m ranType ueCtx registered => s.whenMm m fun mm ↦
    (s.setMm m (some { mm with ranType := ranType, ueCtx := ueCtx, registered := registered }), [])
  | .mmFree m takes => s.whenMm m fun mm ↦ s.mmCtxCleanupFree m mm takes
  | .actPdpReq m g nsapi sapi ti takes tx rabTx => s.whenMm m fun mm ↦
    s.doActPdpReq m mm g nsapi sapi ti takes tx rabTx
  | .ggsnFound m g nsapi sapi ti takes => s.whenMm m fun mm ↦
    s.activateGgsn m mm g nsapi sapi ti takes
  | .deactPdpReq m ti takes => s.whenMm m fun mm ↦ s.rxGsmDeactPdpReq m mm ti takes
  | .deactPdpAck m ti takes => s.whenMm m fun mm ↦ s.rxGsmDeactPdpAck mm ti takes
  | .ctxStatus m status takes => s.whenMm m fun mm ↦ s.processMsCtxStatus mm status takes
  | .t3395 p takes => s.pdpctxTimerCb p takes
  | .deleteAll m takes => s.whenMm m fun mm ↦ s.deleteAllPdp mm takes
  | .rabAssResp m rabId usable update takes tx => s.whenMm m fun mm ↦
    s.ranapRabAssResp m mm rabId usable update takes tx
  | .createConf p cause lib takes tx rabTx =>
    if p ∈ s.creates then
      { s with creates := s.creates.erase p }.createPdpConf p cause lib takes tx rabTx
    else (s, [])
  | .deleteConf p =>
    if p ∈ s.deletes then { s with deletes := s.deletes.erase p }.deletePdpConf p else (s, [])
  | .updateConf p nonExist takes => s.updatePdpConf p nonExist takes
  | .deleteContext p takes =>
    if (s.ctxs p).any (·.lib) then s.cbDeleteContext p takes else (s, [])
  | .ggsnLost g except restarted takes => s.ggsnCtxDropAllPdpExcept g except restarted takes

/-- A gateway that was just started. -/
def start : SessState where
  mms _ := none
  ctxs _ := none
  pdpList := []
  creates := []
  deletes := []
  nextPdp := 0

end SessState

/-- The machine of PDP contexts. -/
def sessMachine : Machine SessState SessEvent SessOut where
  step := SessState.step

end OsmoSgsn.Sm
