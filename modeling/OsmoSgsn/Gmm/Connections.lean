import OsmoSgsn.Gmm.Plain

/-!
# Connections that stay

A connection of a UE is opened by an InitialUE message and by nothing else. Whatever mobility
management does, it opens none, moves none to another RNC, and has none that it does not want to
hear of and does not free with its release. So what holds of every connection on the list, and
depends on its RNC alone, goes on to hold.

Only a few functions write a connection at all; the others are programs made of these.
-/

namespace OsmoSgsn.Gmm

open EStateM

variable {s s' s'' : Sgsn} {ue : UeId} {conn conn' : UeConn}

/-! ## The list of connections -/

/-- The list of connections has every connection that is there once. -/
structure Sgsn.UesListed (s : Sgsn) : Prop where
  nodup : s.ueList.Nodup
  mem_iff : ∀ ue, ue ∈ s.ueList ↔ s.ues ue ≠ none
  released : ∀ ue conn, s.ues ue = some conn → conn.Released

/-- No connection is opened and none is moved. -/
structure Fewer (s s' : Sgsn) : Prop where
  listed : s.UesListed → s'.UesListed
  kept : ∀ ue conn', s'.ues ue = some conn' → ∃ conn, s.ues ue = some conn ∧ conn.rnc = conn'.rnc

theorem Fewer.of_eq (hues : s'.ues = s.ues) (hlist : s'.ueList = s.ueList) : Fewer s s' where
  listed h := by
    refine ⟨hlist ▸ h.nodup, ?_, ?_⟩
    · rw [hlist, hues]
      exact h.mem_iff
    · rw [hues]
      exact h.released
  kept ue conn' h := ⟨conn', hues ▸ h, rfl⟩

instance : Std.Refl Fewer := ⟨fun _ ↦ .of_eq rfl rfl⟩

instance : IsTrans Sgsn Fewer where
  trans s s' s'' h h' := by
    refine ⟨fun hs ↦ h'.listed (h.listed hs), fun ue conn'' hue ↦ ?_⟩
    obtain ⟨conn', hconn', hrnc'⟩ := h'.kept ue conn'' hue
    obtain ⟨conn, hconn, hrnc⟩ := h.kept ue conn' hconn'
    exact ⟨conn, hconn, hrnc.trans hrnc'⟩

/-- A connection that is gone does not come back. -/
theorem Fewer.none (h : Fewer s s') (hue : s.ues ue = none) : s'.ues ue = none := by
  cases hue' : s'.ues ue with
  | none => rfl
  | some conn' =>
    obtain ⟨conn, hconn, -⟩ := h.kept ue conn' hue'
    exact absurd (hconn.symm.trans hue) (by simp)

theorem Fewer.freeUe (s : Sgsn) (ue : UeId) : Fewer s (s.freeUe ue) where
  listed h := by
    refine ⟨h.nodup.erase ue, fun u ↦ ?_, fun u conn hu ↦ ?_⟩
    · rw [Sgsn.freeUe, h.nodup.mem_erase_iff, h.mem_iff u]
      by_cases hue : u = ue
      · simp [hue]
      · simp [hue]
    · by_cases hue : u = ue
      · simp [Sgsn.freeUe, hue] at hu
      · exact h.released u conn (by simpa [Sgsn.freeUe, hue] using hu)
  kept u conn hu := by
    by_cases hue : u = ue
    · simp [Sgsn.freeUe, hue] at hu
    · exact ⟨conn, by simpa [Sgsn.freeUe, hue] using hu, rfl⟩

theorem Fewer.setUe (hue : s.ues ue = some conn) (hrnc : conn'.rnc = conn.rnc)
    (hrel : conn.Released → conn'.Released) : Fewer s (s.setUe ue conn') where
  listed h := by
    refine ⟨h.nodup, fun u ↦ ?_, fun u x hu ↦ ?_⟩
    · rw [Sgsn.setUe, h.mem_iff u]
      by_cases heq : u = ue
      · simp [heq, hue]
      · simp [heq]
    · by_cases heq : u = ue
      · obtain rfl : conn' = x := by simpa [Sgsn.setUe, heq] using hu
        exact hrel (h.released ue conn hue)
      · exact h.released u x (by simpa [Sgsn.setUe, heq] using hu)
  kept u x hu := by
    by_cases heq : u = ue
    · obtain rfl : conn' = x := by simpa [Sgsn.setUe, heq] using hu
      exact ⟨conn, heq ▸ hue, hrnc.symm⟩
    · exact ⟨x, by simpa [Sgsn.setUe, heq] using hu, rfl⟩

/-! ## Primitives -/

section Primitives

variable {id : CtxId} {sid : SubId} {o : Obs}

instance : PlainWrites Fewer where
  other h := .of_eq h.ues h.ueList
  observe _ _ := .of_eq rfl rfl
  setCtx _ _ := .of_eq rfl rfl
  addCtx _ _ _ := .of_eq rfl rfl
  freeCtx _ _ := .of_eq rfl rfl
  modSubscr _ _ _ := .of_eq rfl rfl
  dropSubscr _ _ := .of_eq rfl rfl
  setUe := .setUe
  freeUe := .freeUe

instance {f : MmCtx → MmCtx} : Within Fewer (modMm id f) := by
  unfold modMm
  exact .bind fun mm ↦ .modify fun s ↦ .of_eq rfl rfl

instance {f : Subscr → Subscr} : Within Fewer (modSubscr sid f) := by
  unfold modSubscr
  exact .bind fun x ↦ .modify fun s ↦ .of_eq rfl rfl

instance : Within Fewer (observe o) := .modify fun _ ↦ .of_eq rfl rfl

end Primitives

/-! ## The parts of a context -/

section Context

variable {id : CtxId} {msg : Downlink} {imsi : Digits}

instance : Within Fewer (gsm48GmmSendmsg id msg) := by
  unfold gsm48GmmSendmsg
  refine .bind fun mm ↦ ?_
  split <;> infer_instance

instance : Within Fewer (gsm48TxGmmAuthCiphReq id) := by
  unfold gsm48TxGmmAuthCiphReq
  refine .bind fun rand ↦ ?_
  split <;> infer_instance

instance : Within Fewer (gprsSubscrCreate imsi) := by
  unfold gprsSubscrCreate
  have (x : Subscr) : Within Fewer (modify (·.addSubscr x) : SgsnM PUnit) :=
    .modify fun _ ↦ .of_eq rfl rfl
  infer_instance

instance : Within Fewer (gprsSubscrGetOrCreateByMmctx id) := by
  unfold gprsSubscrGetOrCreateByMmctx
  refine .bind fun mm ↦ ?_
  split
  · infer_instance
  · refine .bind fun found ↦ ?_
    split <;> infer_instance

instance : PlainPrograms Fewer := ⟨fun _ ↦ inferInstance⟩

end Context

/-! ## Authorization and the attach procedure -/

section Attach

variable {id : CtxId}

instance {next : AttachState} {onenter : SgsnM Unit} [Within Fewer onenter] :
    Within Fewer (gmmAttachFsmStateChg id next onenter) := by
  unfold gmmAttachFsmStateChg
  infer_instance

instance {attachReq : Bytes} : Within Fewer (stInit id attachReq) := by
  unfold stInit
  infer_instance

instance {attachReq : Bytes} : Within Fewer (attachReqRecv id attachReq) := by
  unfold attachReqRecv
  refine .bind fun mm ↦ ?_
  split <;> infer_instance

instance : Within Fewer (gmmAttachTimerCb id) := by
  unfold gmmAttachTimerCb
  refine .bind fun _ ↦ .bind fun mm ↦ ?_
  split
  · infer_instance
  · split <;> infer_instance

end Attach

/-- The calls into the layers above open no connection. -/
class Calls.Fewer (c : Calls) : Prop where
  vlrAnswered : ∀ id, Within Gmm.Fewer (c.vlrAnswered id)
  gmmAuthorize : ∀ id, Within Gmm.Fewer (c.gmmAuthorize id)

attribute [instance] Calls.Fewer.vlrAnswered Calls.Fewer.gmmAuthorize

section Calls

variable {c : Calls} [c.Fewer] {id : CtxId}

instance : Within Fewer (gsm0408GprsAuthenticate c id) := by
  unfold gsm0408GprsAuthenticate
  infer_instance

instance : Within Fewer (gsm0408GprsAccessGranted c id) := by
  unfold gsm0408GprsAccessGranted
  infer_instance

instance {authState : SgsnAuthState} : Within Fewer (sgsnAuthUpdateTo c id authState) := by
  unfold sgsnAuthUpdateTo
  refine .bind fun mm ↦ ?_
  split
  · infer_instance
  · refine .bind fun _ ↦ ?_
    split
    · split <;> infer_instance
    all_goals infer_instance

instance : Within Fewer (sgsnAuthUpdate c id) := by
  unfold sgsnAuthUpdate
  refine .bind fun mm ↦ .bind fun subscr ↦ .bind fun s ↦ ?_
  extract_lets cfg verdict authState
  split
  · refine .bind fun t ↦ ?_
    split <;> infer_instance
  · infer_instance

instance {need : Bool} : Within Fewer (sgsnAuthRequestLocation c id need) := by
  unfold sgsnAuthRequestLocation
  infer_instance

instance : Within Fewer (sgsnAuthRequest c id) := by
  unfold sgsnAuthRequest
  refine .bind fun s ↦ ?_
  extract_lets cfg
  split
  · infer_instance
  · refine .bind fun mm ↦ .bind fun sid ↦ .bind fun _ ↦ .bind fun x ↦ ?_
    split
    · infer_instance
    · split
      · refine .bind fun t ↦ ?_
        split <;> infer_instance
      · infer_instance

instance : Within Fewer (stAskVlrOnEnter c id) := by
  unfold stAskVlrOnEnter
  infer_instance

instance : Within Fewer (stAuthOnEnter c id) := by
  unfold stAuthOnEnter
  refine .bind fun _ ↦ .bind fun mm ↦ .bind fun subscr ↦ .bind fun s ↦ ?_
  extract_lets cfg
  split
  all_goals infer_instance

instance : Within Fewer (attachProceedAfterAuth c id) := by
  unfold attachProceedAfterAuth
  infer_instance

instance : Within Fewer (attachVlrAnswered c id) := by
  unfold attachVlrAnswered
  refine .bind fun mm ↦ ?_
  split <;> infer_instance

instance : Within Fewer (gsm48GmmAuthorize c id) := by
  unfold gsm48GmmAuthorize
  refine .bind fun mm ↦ ?_
  split
  · infer_instance
  · split
    · infer_instance
    · refine .bind fun _ ↦ ?_
      repeat' split
      all_goals infer_instance

instance {type : MiType} : Within Fewer (attachIdenRespRecv c id type) := by
  unfold attachIdenRespRecv
  infer_instance

instance : Within Fewer (attachAuthRespSuccess c id) := by
  unfold attachAuthRespSuccess
  infer_instance

instance : Within Fewer (attachAuthRespResync c id) := by
  unfold attachAuthRespResync
  infer_instance

instance : Within Fewer (attachIuSecurityCmdComplete c id) := by
  unfold attachIuSecurityCmdComplete
  infer_instance

end Calls

instance (depth : ℕ) : (calls depth).Fewer := by
  induction depth with
  | zero =>
    exact ⟨fun _ ↦ inferInstanceAs (Within Fewer (throw _)),
      fun _ ↦ inferInstanceAs (Within Fewer (throw _))⟩
  | succ depth ih =>
    exact ⟨fun id ↦ inferInstanceAs (Within Fewer (attachVlrAnswered (calls depth) id)),
      fun id ↦ inferInstanceAs (Within Fewer (gsm48GmmAuthorize (calls depth) id))⟩

/-! ## Messages of mobile stations -/

section Uplink

variable {id : CtxId} {ctx : Option CtxId} {radio : Radio} {cause : ℕ} {rai : RaId}

instance {req : AttachRequest} : Within Fewer (attReqProceed id radio rai req) := by
  unfold attReqProceed
  infer_instance

instance {req : AttachRequest} : Within Fewer (gsm48RxGmmAttReq ctx radio req) := by
  unfold gsm48RxGmmAttReq
  refine .andThen ?_ fun rai ↦ ?_
  · split <;> infer_instance
  · split
    · infer_instance
    · split
      · infer_instance
      · split
        · infer_instance
        · refine .bind fun id ↦ ?_
          split <;> infer_instance

section Calls

variable {c : Calls} [c.Fewer]

instance {req : RaUpdRequest} : Within Fewer (raUpdReqProceed c id radio req) := by
  unfold raUpdReqProceed
  refine .bind fun mm ↦ .bind fun _ ↦ .andThen ?_ fun _ ↦ .bind fun _ ↦ ?_
  · split <;> infer_instance
  · infer_instance

instance {req : RaUpdRequest} : Within Fewer (gsm48RxGmmRaUpdReq.raUpdReqFound c radio req id) := by
  unfold gsm48RxGmmRaUpdReq.raUpdReqFound
  infer_instance

instance {req : RaUpdRequest} : Within Fewer (gsm48RxGmmRaUpdReq c ctx radio req) := by
  unfold gsm48RxGmmRaUpdReq
  split
  · infer_instance
  · split
    · infer_instance
    · split
      case h_2 | h_4 =>
        refine .bind fun s ↦ ?_
        split <;> infer_instance
      all_goals infer_instance

instance {req : ServiceRequest} : Within Fewer (gsm48RxGmmServiceReq c ctx ue req) := by
  unfold gsm48RxGmmServiceReq
  split
  · infer_instance
  · split
    · infer_instance
    · refine .bind fun s ↦ ?_
      split
      · infer_instance
      · refine .bind fun _ ↦ .bind fun _ ↦ .bind fun _ ↦ ?_
        infer_instance

instance {mm : MmCtx} {mi : MobileIdentity} :
    Within Fewer (gsm48RxGmmIdResp.storeIdentity id mm mi) := by
  cases mi with
  | imsi imsi =>
    refine .bind fun s ↦ ?_
    split <;> infer_instance
  | imei imei => exact inferInstanceAs (Within Fewer (modMm id _))
  | imeisv _ | tmsi _ => exact inferInstanceAs (Within Fewer (pure ()))

instance {mi : Option MobileIdentity} : Within Fewer (gsm48RxGmmIdResp c id mi) := by
  unfold gsm48RxGmmIdResp
  split <;> infer_instance

instance {resp : AuthCiphResponse} : Within Fewer (gsm48RxGmmAuthCiphResp c id resp) := by
  unfold gsm48RxGmmAuthCiphResp
  refine .bind fun mm ↦ ?_
  split
  · infer_instance
  · split
    · infer_instance
    · refine .bind fun _ ↦ ?_
      split <;> infer_instance

instance {fail : AuthCiphFailure} : Within Fewer (gsm48RxGmmAuthCiphFail c id fail) := by
  unfold gsm48RxGmmAuthCiphFail
  split <;> infer_instance

instance {msg : GmmMsg} : Within Fewer (gsm0408RcvGmmCtx c id msg) := by
  unfold gsm0408RcvGmmCtx
  split <;> infer_instance

instance {msg : GmmMsg} : Within Fewer (gsm0408RcvGmm c ctx radio msg) := by
  unfold gsm0408RcvGmm
  split
  case h_6 =>
    refine .bind fun mm ↦ ?_
    split
    · infer_instance
    · split <;> infer_instance
  all_goals infer_instance

instance {msg : UplinkMsg} : Within Fewer (gsm0408GprsRcvmsg c ctx radio msg) := by
  unfold gsm0408GprsRcvmsg
  split <;> infer_instance

instance {tlli : BitVec 32} {cell : RaId} {llme : LlmeId} {drop : Bool} {msg : UplinkMsg} :
    Within Fewer (gsm0408GprsRcvmsgGb c tlli cell llme drop msg) := by
  unfold gsm0408GprsRcvmsgGb
  refine .bind fun s ↦ ?_
  dsimp only
  refine .andThen ?_ fun _ ↦ ?_
  · split <;> infer_instance
  · split <;> infer_instance

instance {ra : Option RaId} {msg : UplinkMsg} : Within Fewer (gsm0408GprsRcvmsgIu c ue ra msg) := by
  unfold gsm0408GprsRcvmsgIu
  refine .bind fun s ↦ ?_
  dsimp only
  split <;> infer_instance

end Calls

end Uplink

/-! ## The HLR and timers -/

section Node

variable {id : CtxId} {c : Calls} [c.Fewer]

instance {sid : SubId} : Within Fewer (gprsSubscrUpdate c sid) := by
  unfold gprsSubscrUpdate
  refine .bind fun x ↦ ?_
  split <;> infer_instance

instance {sid : SubId} {msg : GsupMsg} : Within Fewer (gprsSubscrHandleGsup c sid msg) := by
  unfold gprsSubscrHandleGsup
  refine .bind fun _ ↦ .bind fun _ ↦ ?_
  split
  case h_4 =>
    refine .bind fun x ↦ ?_
    split <;> infer_instance
  all_goals infer_instance

instance {imsi : Digits} {msg : GsupMsg} : Within Fewer (gprsSubscrRxGsupMessage c imsi msg) := by
  unfold gprsSubscrRxGsupMessage
  refine .bind fun sid ↦ ?_
  split <;> infer_instance

instance : Within Fewer (mmctxTimerCb.reschedule id) := by
  unfold mmctxTimerCb.reschedule
  infer_instance

instance : Within Fewer (mmctxTimerCb id) := by
  unfold mmctxTimerCb
  refine .bind fun _ ↦ .bind fun mm ↦ ?_
  split
  · split
    · infer_instance
    · split <;> infer_instance
  · infer_instance

/-! ## Iu -/

instance : Within Fewer (iuSecurityModeComplete c ue) := by
  unfold iuSecurityModeComplete
  refine .bind fun s ↦ ?_
  split
  · infer_instance
  · exact within_modUe ue (fun _ ↦ rfl) fun _ h ↦ h

end Node

end OsmoSgsn.Gmm
