import OsmoSgsn.Library.Along
import OsmoSgsn.Gmm.Node

/-!
# Programs that leave authentication alone

The authorization layer decides by the tuple of a context, by what has become of it, and by the
record of the subscriber. Most of mobility and session management writes none of this, and sends no
challenge. `PlainWrites` lists what it does write. Any relation between states that admits these
writes holds between the states before and after each of the programs below, and which programs
these are is said once for all such relations.
-/

namespace OsmoSgsn.Gmm

open EStateM

/-! ## Writes to a context -/

/-- What the authorization layer goes by in a context, apart from its record. -/
structure Standing where
  authTriplet : GsmAuthTuple
  answered : Bool
  authState : SgsnAuthState
  secCtx : SubAuthType
  imsi : Digits
  idType : MiType
  deriving DecidableEq, Repr

/-- The standing of a context. -/
def MmCtx.standing (mm : MmCtx) : Standing where
  authTriplet := mm.authTriplet
  answered := mm.answered
  authState := mm.authState
  secCtx := mm.secCtx
  imsi := mm.imsi
  idType := mm.idType

/-- T3360, which repeats a challenge, is running. -/
def MmCtx.t3360Running (mm : MmCtx) : Bool := mm.timerPending && mm.timerNr = 3360

/-- A context is written to, and not by the authorization layer. -/
structure MmCtx.Plain (mm mm' : MmCtx) : Prop where
  standing : mm'.standing = mm.standing
  subscr : mm'.subscr = mm.subscr ∨ mm'.subscr = none
  att : mm'.att = mm.att ∨ (mm'.att ≠ .auth ∧ mm'.att ≠ .identity)
  timer : mm'.t3360Running = true → mm.t3360Running = true

namespace MmCtx.Plain

variable {mm mm' mm'' : MmCtx}

theorem answered (h : mm.Plain mm') : mm'.answered = mm.answered := congrArg (·.answered) h.standing

theorem authTriplet (h : mm.Plain mm') : mm'.authTriplet = mm.authTriplet :=
  congrArg (·.authTriplet) h.standing

theorem authState (h : mm.Plain mm') : mm'.authState = mm.authState :=
  congrArg (·.authState) h.standing

theorem imsi (h : mm.Plain mm') : mm'.imsi = mm.imsi := congrArg (·.imsi) h.standing

theorem isAuthenticated (h : mm.Plain mm') : mm'.isAuthenticated = mm.isAuthenticated := by
  have hsec : mm'.secCtx = mm.secCtx := congrArg (·.secCtx) h.standing
  rw [MmCtx.isAuthenticated, MmCtx.isAuthenticated, hsec]

theorem of_eq (hstanding : mm'.standing = mm.standing) (hsubscr : mm'.subscr = mm.subscr)
    (hatt : mm'.att = mm.att) (htimer : mm'.t3360Running = mm.t3360Running) : mm.Plain mm' :=
  ⟨hstanding, .inl hsubscr, .inl hatt, fun hrun ↦ htimer ▸ hrun⟩

theorem refl (mm : MmCtx) : mm.Plain mm := .of_eq rfl rfl rfl rfl

theorem trans (h : mm.Plain mm') (h' : mm'.Plain mm'') : mm.Plain mm'' where
  standing := h'.standing.trans h.standing
  subscr := by
    rcases h'.subscr with heq | hnone
    · rw [heq]
      exact h.subscr
    · exact .inr hnone
  att := by
    rcases h'.att with heq | haside
    · rw [heq]
      exact h.att
    · exact .inr haside
  timer hrun := h.timer (h'.timer hrun)

theorem timerStop (mm : MmCtx) : mm.Plain mm.timerStop :=
  ⟨rfl, .inl rfl, .inl rfl, fun h ↦ (Bool.false_ne_true h).elim⟩

theorem timerStart {nr : ℕ} (hnr : nr ≠ 3360) (mm : MmCtx) : mm.Plain (mm.timerStart nr) := by
  unfold MmCtx.timerStart
  split
  · exact refl mm
  · exact ⟨rfl, .inl rfl, .inl rfl, fun h ↦ absurd h (by simp [t3360Running, hnr])⟩

end MmCtx.Plain

/-- A function that writes to contexts, and is not the authorization layer's. -/
class PlainWrite (f : MmCtx → MmCtx) : Prop where
  plain : ∀ mm : MmCtx, mm.Plain (f mm)

section Writes

variable {ranType : MmCtx → SgsnRanType} {imei : MmCtx → Digits}
  {pTmsi pTmsiOld tlli tlliNew : MmCtx → BitVec 32} {ptmsiHistory : MmCtx → List (BitVec 32)}
  {ra : MmCtx → RaId} {gmm : MmCtx → GmmState} {llme : MmCtx → Option LlmeId}
  {mmGb : MmCtx → MmGbState} {ueCtx : MmCtx → Option UeId} {newKey : MmCtx → Bool}
  {serviceType authReattempt acRefNrUsed timerNr numTExp : MmCtx → ℕ} {pmm : MmCtx → PmmState}
  {attachReq : MmCtx → Option Bytes} {t3370IdType : MmCtx → MiType}
  {ueCipherMask : MmCtx → BitVec 8} {msNetworkCapa : MmCtx → Bytes} {pdpList : MmCtx → List PdpCtx}
  {t3350Mode : MmCtx → T3350Mode} {pendingReq : MmCtx → PendingReq}
  {ggsnLookup : MmCtx → Option GgsnLookup}

/-- The record may be given up. -/
instance : PlainWrite fun mm ↦ { mm with subscr := none } :=
  ⟨fun _ ↦ ⟨rfl, .inr rfl, .inl rfl, id⟩⟩

/-- The timer may be stopped, and fields be written that concern no one else. -/
instance : PlainWrite fun mm ↦
    ⟨ranType mm, mm.imsi, imei mm, pTmsi mm, pTmsiOld mm, ptmsiHistory mm, ra mm, gmm mm, llme mm,
      tlli mm, tlliNew mm, mmGb mm, ueCtx mm, newKey mm, serviceType mm, pmm mm, mm.att,
      attachReq mm, mm.idType, authReattempt mm, mm.authTriplet, mm.answered, ueCipherMask mm,
      acRefNrUsed mm, msNetworkCapa mm, pdpList mm, false, timerNr mm, numTExp mm, t3350Mode mm,
      t3370IdType mm, pendingReq mm, mm.authState, mm.secCtx, ggsnLookup mm, mm.subscr⟩ :=
  ⟨fun _ ↦ ⟨rfl, .inl rfl, .inl rfl, fun h ↦ (Bool.false_ne_true h).elim⟩⟩

/-- Fields may be written that concern no one else. -/
instance : PlainWrite fun mm ↦
    ⟨ranType mm, mm.imsi, imei mm, pTmsi mm, pTmsiOld mm, ptmsiHistory mm, ra mm, gmm mm, llme mm,
      tlli mm, tlliNew mm, mmGb mm, ueCtx mm, newKey mm, serviceType mm, pmm mm, mm.att,
      attachReq mm, mm.idType, authReattempt mm, mm.authTriplet, mm.answered, ueCipherMask mm,
      acRefNrUsed mm, msNetworkCapa mm, pdpList mm, mm.timerPending, mm.timerNr, numTExp mm,
      t3350Mode mm, t3370IdType mm, pendingReq mm, mm.authState, mm.secCtx, ggsnLookup mm,
      mm.subscr⟩ :=
  ⟨fun _ ↦ ⟨rfl, .inl rfl, .inl rfl, id⟩⟩

end Writes

theorem PlainWrite.comp {f g : MmCtx → MmCtx} (hf : PlainWrite f) (hg : PlainWrite g) :
    PlainWrite fun mm ↦ g (f mm) := ⟨fun mm ↦ (hf.plain mm).trans (hg.plain (f mm))⟩

instance : PlainWrite (·.timerStop) := ⟨.timerStop⟩

/-! ## Writes to a record -/

/-- A record is written to, and its vectors are not made new ones. -/
structure Subscr.Plain (x x' : Subscr) : Prop where
  id : x'.id = x.id
  imsi : x'.imsi = x.imsi
  authorized : x'.authorized = x.authorized
  errorCause : x'.errorCause = x.errorCause
  updated : x'.authTripletsUpdated = true → x.authTripletsUpdated = true

theorem Subscr.Plain.refl (x : Subscr) : x.Plain x := ⟨rfl, rfl, rfl, rfl, fun h ↦ h⟩

/-- A function that writes to records and brings no new vectors. -/
class PlainRecord (f : Subscr → Subscr) : Prop where
  plain : ∀ x : Subscr, x.Plain (f x)

section Writes

variable {useCount : Subscr → ℤ}
  {keepInRam authInfoPending locationPending cancelled enablePurge : Subscr → Bool}
  {mm : Subscr → Option CtxId} {authTriplets : Subscr → List GsmAuthTuple}

instance : PlainRecord fun x ↦
    ⟨x.id, useCount x, keepInRam x, x.imsi, x.authorized, authInfoPending x, locationPending x,
      cancelled x, enablePurge x, mm x, authTriplets x, x.authTripletsUpdated, x.errorCause⟩ :=
  ⟨fun _ ↦ ⟨rfl, rfl, rfl, rfl, id⟩⟩

instance : PlainRecord fun x ↦
    ⟨x.id, useCount x, keepInRam x, x.imsi, x.authorized, authInfoPending x, locationPending x,
      cancelled x, enablePurge x, mm x, authTriplets x, false, x.errorCause⟩ :=
  ⟨fun _ ↦ ⟨rfl, rfl, rfl, rfl, fun h ↦ (Bool.false_ne_true h).elim⟩⟩

end Writes

/-! ## Observations and states -/

/-- A message is a challenge. -/
def Downlink.isChallenge : Downlink → Bool
  | .authCiphReq _ => true
  | _ => false

/-- A message was sent that is a challenge. -/
def Obs.isChallenge : Obs → Bool
  | .sent _ msg => msg.isChallenge
  | _ => false

/-- A message is no challenge. -/
class Downlink.Plain (msg : Downlink) : Prop where
  plain : msg.isChallenge = false

/-- An observation is no challenge. -/
class Obs.Plain (o : Obs) : Prop where
  plain : o.isChallenge = false

/-- A state of the attach FSM in which it waits for no identity and for no answer to a challenge. -/
class AttachState.Aside (st : AttachState) : Prop where
  ne_auth : st ≠ .auth
  ne_identity : st ≠ .identity

section Instances

variable {cause : ℕ} {type : MiType} {msg msg' : Downlink} {mm : MmCtx} {omm : Option MmCtx}

instance : Downlink.attachAccept.Plain := ⟨rfl⟩
instance : (Downlink.attachReject cause).Plain := ⟨rfl⟩
instance : (Downlink.detachReq cause).Plain := ⟨rfl⟩
instance : Downlink.detachAck.Plain := ⟨rfl⟩
instance : (Downlink.idReq type).Plain := ⟨rfl⟩
instance : Downlink.authCiphRej.Plain := ⟨rfl⟩
instance : Downlink.raUpdAccept.Plain := ⟨rfl⟩
instance : (Downlink.raUpdRej cause).Plain := ⟨rfl⟩
instance : Downlink.serviceAccept.Plain := ⟨rfl⟩
instance : (Downlink.serviceRej cause).Plain := ⟨rfl⟩
instance : (Downlink.gmmStatus cause).Plain := ⟨rfl⟩
instance : Downlink.smStatus.Plain := ⟨rfl⟩
instance : Downlink.actPdpAcc.Plain := ⟨rfl⟩
instance : Downlink.actPdpRej.Plain := ⟨rfl⟩
instance : Downlink.deactPdpReq.Plain := ⟨rfl⟩
instance : Downlink.deactPdpAcc.Plain := ⟨rfl⟩

instance [hmsg : msg.Plain] [hmsg' : msg'.Plain] {p : Prop} [Decidable p] :
    (if p then msg else msg').Plain := by
  split
  · exact hmsg
  · exact hmsg'

instance [hmsg : msg.Plain] : (Obs.sent omm msg).Plain :=
  ⟨hmsg.plain⟩

instance {ue : UeId} : (Obs.secModeCmd mm ue).Plain := ⟨rfl⟩
instance {imsi : Digits} {req : GsupRequest} : (Obs.gsup imsi req).Plain := ⟨rfl⟩
instance : (Obs.registered mm).Plain := ⟨rfl⟩
instance {subscr : Option Subscr} : (Obs.attachAccepted mm subscr).Plain := ⟨rfl⟩
instance : (Obs.createPdp mm).Plain := ⟨rfl⟩
instance {st next : GmmState} : (Obs.gmmChange st next).Plain := ⟨rfl⟩
instance {st next : AttachState} : (Obs.attachChange st next).Plain := ⟨rfl⟩

instance : AttachState.init.Aside := ⟨nofun, nofun⟩
instance : AttachState.askVlr.Aside := ⟨nofun, nofun⟩
instance : AttachState.iuSecurityCmd.Aside := ⟨nofun, nofun⟩
instance : AttachState.accept.Aside := ⟨nofun, nofun⟩
instance : AttachState.reject.Aside := ⟨nofun, nofun⟩

end Instances

/-- Two states have the same objects. -/
structure Sgsn.SameObjects (s s' : Sgsn) : Prop where
  cfg : s'.cfg = s.cfg
  ctxs : s'.ctxs = s.ctxs
  nextCtx : s'.nextCtx = s.nextCtx
  subscrs : s'.subscrs = s.subscrs
  nextSubscr : s'.nextSubscr = s.nextSubscr
  ues : s'.ues = s.ues
  ueList : s'.ueList = s.ueList
  obs : s'.obs = s.obs

/-- A connection that the upper layer does not hear of is freed with its release. -/
def UeConn.Released (conn : UeConn) : Prop := conn.notification = false → conn.freeOnRelease = true

/-- A relation admits the writes that are none of the authorization layer's. -/
class PlainWrites (R : Sgsn → Sgsn → Prop) : Prop extends Std.Refl R, IsTrans Sgsn R where
  other : ∀ {s s' : Sgsn}, s.SameObjects s' → R s s'
  observe : ∀ (s : Sgsn) (o : Obs) [o.Plain], R s (s.observe o)
  setCtx : ∀ {s : Sgsn} {id : CtxId} {mm mm' : MmCtx}, s.ctxs id = some mm →
    (mm'.answered = true → mm.Plain mm') → R s (s.setCtx id mm')
  addCtx : ∀ (s : Sgsn) (mm : MmCtx), mm.answered = false → R s (s.addCtx mm)
  freeCtx : ∀ (s : Sgsn) (id : CtxId), R s (s.freeCtx id)
  modSubscr : ∀ (s : Sgsn) (sid : SubId) (f : Subscr → Subscr) [PlainRecord f],
    R s (s.modSubscr sid f)
  dropSubscr : ∀ (s : Sgsn) (sid : SubId), R s (s.dropSubscr sid)
  setUe : ∀ {s : Sgsn} {ue : UeId} {conn conn' : UeConn}, s.ues ue = some conn →
    conn'.rnc = conn.rnc → (conn.Released → conn'.Released) → R s (s.setUe ue conn')
  freeUe : ∀ (s : Sgsn) (ue : UeId), R s (s.freeUe ue)

/-- A relation admits too that a context takes its record, which is done in several writes. -/
class PlainPrograms (R : Sgsn → Sgsn → Prop) : Prop extends PlainWrites R where
  link : ∀ id, Within R (gprsSubscrGetOrCreateByMmctx id)

attribute [instance] PlainPrograms.link

section Access

variable {s : Sgsn} {id : CtxId} {mm : MmCtx} {E : Fault → Sgsn → Prop}

theorem wp_getMm {Q : MmCtx → Sgsn → Prop} (hmm : s.ctxs id = some mm) :
    wp (getMm id) Q E s ↔ Q mm s := by
  unfold getMm
  rw [wp_bind, wp_get, hmm]
  exact Iff.rfl

theorem wp_modMm {Q : Unit → Sgsn → Prop} (hmm : s.ctxs id = some mm) {f : MmCtx → MmCtx} :
    wp (modMm id f) Q E s ↔ Q () (s.setCtx id (f mm)) := by
  unfold modMm
  rw [wp_bind, wp_getMm hmm, wp_modify]

/-- A context that may have been freed is read. -/
theorem wp_getMm_bind {α : Type} {k : MmCtx → SgsnM α} {Q : α → Sgsn → Prop}
    (hgone : E .useAfterFree s) (hk : ∀ mm, s.ctxs id = some mm → wp (k mm) Q E s) :
    wp (getMm id >>= k) Q E s := by
  rw [wp_bind]
  cases hmm : s.ctxs id with
  | none =>
    unfold getMm
    rw [wp_bind, wp_get, hmm]
    exact hgone
  | some mm => exact (wp_getMm hmm).mpr (hk mm hmm)

end Access

variable {R : Sgsn → Sgsn → Prop} [PlainWrites R] {ue : UeId}

/-! ## Primitives -/

section Primitives

variable {id : CtxId} {sid : SubId} {l : LlmeId} {o : Obs} {mm : MmCtx}

theorem within_modify {f : Sgsn → Sgsn} (h : ∀ s : Sgsn, s.SameObjects (f s)) :
    Within R (modify f : SgsnM PUnit) := .modify fun s ↦ PlainWrites.other (h s)

instance : Within R (getMm id) := by
  unfold getMm
  refine .bind fun s ↦ ?_
  split <;> infer_instance

/-- A context is read and written to. -/
theorem within_modMm {f : MmCtx → MmCtx}
    (h : ∀ mm : MmCtx, (f mm).answered = true → mm.Plain (f mm)) : Within R (modMm id f) := by
  refine ⟨fun s ↦ ?_⟩
  unfold modMm
  refine wp_getMm_bind (Std.Refl.refl s) fun mm hmm ↦ ?_
  exact PlainWrites.setCtx hmm (h mm)

instance {f : MmCtx → MmCtx} [hf : PlainWrite f] : Within R (modMm id f) :=
  within_modMm fun mm _ ↦ hf.plain mm

instance : Within R (getSubscr sid) := by
  unfold getSubscr
  refine .bind fun s ↦ ?_
  split <;> infer_instance

instance {f : Subscr → Subscr} [PlainRecord f] : Within R (modSubscr sid f) := by
  unfold modSubscr
  exact .bind fun x ↦ .modify fun s ↦ PlainWrites.modSubscr s sid f

instance : Within R (getUe ue) := by
  unfold getUe
  refine .bind fun s ↦ ?_
  split <;> infer_instance

instance : Within R (getLlme l) := by
  unfold getLlme
  refine .bind fun s ↦ ?_
  split <;> infer_instance

instance [o.Plain] : Within R (observe o) := .modify fun s ↦ PlainWrites.observe s o

instance : Within R txAnswer := by
  refine .get_bind fun s ↦ ?_
  split
  · exact Std.Refl.refl s
  · exact PlainWrites.other ⟨rfl, rfl, rfl, rfl, rfl, rfl, rfl, rfl⟩

instance : Within R gsupAnswer := by
  refine .get_bind fun s ↦ ?_
  split
  · exact Std.Refl.refl s
  · exact PlainWrites.other ⟨rfl, rfl, rfl, rfl, rfl, rfl, rfl, rfl⟩

instance : Within R osmoGetRandId := by
  refine .get_bind fun s ↦ ?_
  split
  · exact Std.Refl.refl s
  · exact PlainWrites.other ⟨rfl, rfl, rfl, rfl, rfl, rfl, rfl, rfl⟩

/-- A write to a connection that is there, and what follows. -/
theorem within_modUe (ue : UeId) {α : Type} {f : UeConn → UeConn} {k : UeConn → SgsnM α}
    [hk : ∀ conn, Within R (k conn)] (hrnc : ∀ conn, (f conn).rnc = conn.rnc)
    (hrel : ∀ conn : UeConn, conn.Released → (f conn).Released) :
    Within R (do
      let conn ← getUe ue
      modify (·.setUe ue (f conn))
      k conn) := by
  refine .bind_of_wp (Q := fun s conn s' ↦ s' = s ∧ s.ues ue = some conn) (fun s ↦ ?_) ?_
  · unfold getUe
    rw [wp_bind, wp_get]
    cases hue : s.ues ue with
    | none => exact Std.Refl.refl s
    | some conn => exact ⟨Std.Refl.refl s, rfl, rfl⟩
  · rintro s conn s' ⟨rfl, hue⟩
    have hset : R s' (s'.setUe ue (f conn)) := PlainWrites.setUe hue (hrnc conn) (hrel conn)
    refine wp_bind.mpr (wp_modify _ |>.mpr (wp_mono ((hk conn).wp _) (fun _ _ h ↦ ?_) ?_))
    · exact Trans.trans hset h
    · exact fun _ _ h ↦ Trans.trans hset h

end Primitives

/-! ## The parts of a context -/

section Context

variable {id : CtxId} {tlli : BitVec 32} {radio : Radio} {msg : Downlink} {sid : SubId}
  {imsi : Digits}

instance : Within R (gprsLleGetOrCreate tlli) := by
  unfold gprsLleGetOrCreate
  refine .get_bind fun s ↦ ?_
  split
  · exact Std.Refl.refl s
  · exact PlainWrites.other ⟨rfl, rfl, rfl, rfl, rfl, rfl, rfl, rfl⟩

instance {l : LlmeId} {oldTlli newTlli : BitVec 32} :
    Within R (gprsLlgmmAssign l oldTlli newTlli) := by
  unfold gprsLlgmmAssign
  exact .bind fun _ ↦ within_modify fun _ ↦ ⟨rfl, rfl, rfl, rfl, rfl, rfl, rfl, rfl⟩

instance {l : LlmeId} : Within R (gprsLlgmmUnassign l) := by
  unfold gprsLlgmmUnassign
  infer_instance

instance : Within R (useLlme id) := by
  unfold useLlme
  refine .bind fun mm ↦ ?_
  split <;> infer_instance

instance : Within R (gprsLlcTxUi tlli) := by
  unfold gprsLlcTxUi
  infer_instance

instance : Within R (iuUeTx ue) := by
  unfold iuUeTx
  infer_instance

instance [msg.Plain] : Within R (gsm48GmmSendmsg id msg) := by
  unfold gsm48GmmSendmsg
  refine .bind fun mm ↦ ?_
  split <;> infer_instance

instance [msg.Plain] : Within R (sendOldmsg radio msg) := by
  unfold sendOldmsg
  split <;> infer_instance

instance : Within R (sgsnRanapIuTxSecModeCmd id ue) := by
  have hsent : Within R (do
      let conn ← getUe ue
      modify (·.setUe ue { conn with secModeCmdSent := true })) := by
    have hunit := within_modUe (R := R) ue (k := fun _ ↦ pure PUnit.unit)
      (f := fun conn ↦ { conn with secModeCmdSent := true }) (fun _ ↦ rfl) fun _ h ↦ h
    simpa only [bind_pure_unit] using hunit
  unfold sgsnRanapIuTxSecModeCmd
  infer_instance

instance : Within R (stMmIdleOnEnter id) := by
  unfold stMmIdleOnEnter
  refine .andThen ?_ fun _ ↦ .bind fun mm ↦ ?_
  · refine within_modMm fun mm _ ↦ ⟨rfl, .inl rfl, .inl rfl, fun hrun ↦ ?_⟩
    simp only [MmCtx.t3360Running, Bool.and_eq_true, decide_eq_true_eq] at hrun ⊢
    exact ⟨hrun.1.1, hrun.2⟩
  · split <;> infer_instance

instance {ev : MmGbEvent} : Within R (mmStateGb id ev) := by
  unfold mmStateGb
  refine .bind fun mm ↦ ?_
  split <;> infer_instance

instance : Within R (gprsGbRecvPdu id) := by
  unfold gprsGbRecvPdu
  infer_instance

instance : Within R (sgsnRanapIuFreeUe ue) := by
  have : Within R (modify (·.freeUe ue) : SgsnM PUnit) :=
    .modify fun s ↦ PlainWrites.freeUe s ue
  unfold sgsnRanapIuFreeUe
  refine .bind fun s ↦ ?_
  split <;> infer_instance

instance : Within R (sgsnMmCtxIuRanapFree id) := by
  unfold sgsnMmCtxIuRanapFree
  refine .bind fun mm ↦ ?_
  split <;> infer_instance

instance : Within R (sgsnRanapIuTxReleaseFree ue) := by
  unfold sgsnRanapIuTxReleaseFree
  exact within_modUe ue (fun _ ↦ rfl) fun _ _ _ ↦ rfl

instance : Within R (sgsnMmCtxIuRanapReleaseFree id) := by
  unfold sgsnMmCtxIuRanapReleaseFree
  refine .bind fun mm ↦ ?_
  split <;> infer_instance

instance {pdp : PdpCtx} : Within R (sgsnPdpCtxIuRabActivate id pdp) := by
  unfold sgsnPdpCtxIuRabActivate
  refine .bind fun mm ↦ ?_
  split
  · infer_instance
  · split <;> infer_instance

instance (pdps : List PdpCtx) : Within R (activateRabs id pdps) := by
  induction pdps with
  | nil =>
    unfold activateRabs
    infer_instance
  | cons pdp pdps ih =>
    unfold activateRabs
    infer_instance

instance : Within R (sgsnMmCtxIuActivateRabs id) := by
  unfold sgsnMmCtxIuActivateRabs
  infer_instance

instance {ev : PmmEvent} : Within R (mmStateIu id ev) := by
  unfold mmStateIu
  refine .bind fun mm ↦ ?_
  split <;> infer_instance

instance {next : GmmState} : Within R (gmmFsmStateChg id next) := by
  unfold gmmFsmStateChg
  infer_instance

instance {ev : GmmEvent} : Within R (gmmFsm id ev) := by
  unfold gmmFsm
  refine .bind fun mm ↦ ?_
  split <;> infer_instance

instance {newRanType : SgsnRanType} {llme : Option LlmeId} :
    Within R (gmmFsmRatChange id newRanType llme) := by
  unfold gmmFsmRatChange
  refine .bind fun mm ↦ .bind fun _ ↦ ?_
  split <;> infer_instance

instance : Within R (gprsSubscrGet sid) := by
  unfold gprsSubscrGet
  infer_instance

instance : Within R (gprsSubscrPut sid) := by
  unfold gprsSubscrPut
  exact .bind fun _ ↦ .modify fun s ↦ PlainWrites.dropSubscr s sid

instance : Within R (gprsSubscrGetByImsi imsi) := by
  unfold gprsSubscrGetByImsi
  refine .bind fun s ↦ ?_
  split <;> infer_instance

instance {req : GsupRequest} : Within R (gprsSubscrTxGsup sid req) := by
  unfold gprsSubscrTxGsup
  infer_instance

instance {R : Sgsn → Sgsn → Prop} [PlainPrograms R] {auts : Option Bytes} :
    Within R (gprsSubscrRequestAuthInfo id auts) := by
  unfold gprsSubscrRequestAuthInfo
  exact .bind fun sid ↦ .bind fun _ ↦ .bind fun ok ↦ inferInstance

instance {R : Sgsn → Sgsn → Prop} [PlainPrograms R] :
    Within R (gprsSubscrRequestUpdateLocation id) := by
  unfold gprsSubscrRequestUpdateLocation
  infer_instance

instance : Within R (gprsSubscrResetAuthTriplets sid) := by
  unfold gprsSubscrResetAuthTriplets
  infer_instance

instance : Within R (gprsSubscrCleanup sid) := by
  unfold gprsSubscrCleanup
  refine .bind fun x ↦ ?_
  split
  · infer_instance
  · refine .andThen (.bind fun mm ↦ ?_) fun _ ↦ inferInstance
    split <;> infer_instance

instance : Within R (sgsnMmCtxCleanupFree id) := by
  have hunlink : Within R (modify (·.unlinkCtx id) : SgsnM PUnit) :=
    within_modify fun _ ↦ ⟨rfl, rfl, rfl, rfl, rfl, rfl, rfl, rfl⟩
  have hfree : Within R (modify (·.freeCtx id) : SgsnM PUnit) :=
    .modify fun s ↦ PlainWrites.freeCtx s id
  unfold sgsnMmCtxCleanupFree
  refine .bind fun _ ↦ .bind fun mm ↦ .bind fun _ ↦ .bind fun _ ↦ ?_
  split <;> split <;> infer_instance

instance : Within R (gprsGmmMmCtxCleanupFree id) := by
  unfold gprsGmmMmCtxCleanupFree
  refine .bind fun _ ↦ .bind fun mm ↦ ?_
  split <;> infer_instance

end Context

/-! ## Authorization and the attach procedure -/

section Attach

variable {id : CtxId}

instance : Within R (sgsnAuthGetTuple id) := by
  unfold sgsnAuthGetTuple
  refine .bind fun mm ↦ ?_
  split
  · infer_instance
  · refine .bind fun x ↦ ?_
    split <;> infer_instance

instance : Within R (mmSubscr id) := by
  unfold mmSubscr
  refine .bind fun mm ↦ ?_
  split <;> infer_instance

instance {next : AttachState} [h : next.Aside] {onenter : SgsnM Unit} [Within R onenter] :
    Within R (gmmAttachFsmStateChg id next onenter) := by
  have hatt : Within R (modMm id fun mm ↦ { mm with att := next }) :=
    within_modMm fun _ _ ↦ ⟨rfl, .inl rfl, .inr ⟨h.ne_auth, h.ne_identity⟩, fun hrun ↦ hrun⟩
  unfold gmmAttachFsmStateChg
  infer_instance

instance {cause : Option ℕ} : Within R (attachReject id cause) := by
  unfold attachReject
  refine .bind fun mm ↦ .bind fun _ ↦ .bind fun _ ↦ ?_
  split <;> infer_instance

instance {gmmCause : Option ℕ} : Within R (gsm0408GprsAccessDenied id gmmCause) := by
  unfold gsm0408GprsAccessDenied
  refine .bind fun mm ↦ ?_
  split <;> infer_instance

instance {gmmCause : Option ℕ} : Within R (gsm0408GprsAccessCancelled id gmmCause) := by
  unfold gsm0408GprsAccessCancelled
  split <;> infer_instance

instance : Within R (stAcceptOnEnter id) := by
  unfold stAcceptOnEnter
  refine .bind fun mm ↦ .bind fun subscr ↦ .bind fun _ ↦ .andThen ?_ fun _ ↦ inferInstance
  exact within_modMm fun mm _ ↦ (MmCtx.Plain.timerStop mm).trans (.of_eq rfl rfl rfl rfl)

instance : Within R (stIdentityOnEnter id) := by
  unfold stIdentityOnEnter
  exact .bind fun _ ↦ .bind fun mm ↦ inferInstance

instance : Within R (stIuSecurityCmdOnEnter id) := by
  unfold stIuSecurityCmdOnEnter
  refine .bind fun mm ↦ ?_
  split <;> infer_instance

instance {mm : MmCtx} : Within R (lacksIntegrity mm) := by
  unfold lacksIntegrity
  split <;> infer_instance

instance : Within R (gsm48GmmAuthorized id) := by
  have hstart : Within R (modMm id fun mm ↦ { mm.timerStart 3350 with t3350Mode := .att }) :=
    within_modMm fun mm _ ↦
      (MmCtx.Plain.timerStart (by decide) mm).trans (.of_eq rfl rfl rfl rfl)
  unfold gsm48GmmAuthorized
  refine .bind fun mm ↦ ?_
  split
  · infer_instance
  · infer_instance
  · exact .bind fun _ ↦ .bind fun _ ↦ inferInstance
  · infer_instance

instance : Within R (attachCompleteRecv id) := by
  unfold attachCompleteRecv
  infer_instance

instance : Within R (gmmAttReqAbortOnIuLoss id) := by
  unfold gmmAttReqAbortOnIuLoss
  infer_instance

end Attach

/-! ## Messages of mobile stations -/

section Uplink

variable {id : CtxId} {ctx : Option CtxId} {radio : Radio} {cause : ℕ} {rai : RaId}

instance : Within R (sgsnMmCtxRehashImsi id) := by
  unfold sgsnMmCtxRehashImsi
  exact .bind fun _ ↦ within_modify fun _ ↦ ⟨rfl, rfl, rfl, rfl, rfl, rfl, rfl, rfl⟩

instance : Within R (sgsnMmCtxRehashPtmsi id) := by
  unfold sgsnMmCtxRehashPtmsi
  exact .bind fun _ ↦ within_modify fun _ ↦ ⟨rfl, rfl, rfl, rfl, rfl, rfl, rfl, rfl⟩

instance : Within R (sgsnMmCtxRehashTlli id) := by
  unfold sgsnMmCtxRehashTlli
  exact .bind fun _ ↦ within_modify fun _ ↦ ⟨rfl, rfl, rfl, rfl, rfl, rfl, rfl, rfl⟩

/-- A program returns a context that was just made. -/
def Makes (R : Sgsn → Sgsn → Prop) (m : SgsnM CtxId) : Prop :=
  ∀ s, wp m (fun id s' ↦ R s s' ∧ ∃ mm, s'.ctxs id = some mm ∧ mm.answered = false)
    (fun _ s' ↦ R s s') s

theorem makes_sgsnMmCtxAllocGb (tlli : BitVec 32) : Makes R (sgsnMmCtxAllocGb tlli rai) := by
  intro s
  have hadd : R s (s.addCtx { MmCtx.fresh .geranGb rai with tlli := tlli }) :=
    PlainWrites.addCtx s _ rfl
  have hmm : (s.addCtx { MmCtx.fresh .geranGb rai with tlli := tlli }).ctxs s.nextCtx =
      some { MmCtx.fresh .geranGb rai with tlli := tlli } := Function.update_self ..
  unfold sgsnMmCtxAllocGb sgsnMmCtxRehashTlli
  rw [wp_bind, wp_get, wp_bind, wp_modify, wp_bind, wp_bind, wp_getMm hmm]
  refine ⟨?_, _, hmm, rfl⟩
  refine IsTrans.trans _ _ _ hadd ?_
  exact PlainWrites.other ⟨rfl, rfl, rfl, rfl, rfl, rfl, rfl, rfl⟩

theorem makes_sgsnMmCtxAllocIu (ue : UeId) : Makes R (sgsnMmCtxAllocIu ue) := by
  intro s
  unfold sgsnMmCtxAllocIu getUe
  rw [wp_bind, wp_bind, wp_get]
  cases s.ues ue with
  | none => exact Std.Refl.refl s
  | some conn => exact ⟨PlainWrites.addCtx s _ rfl, _, Function.update_self .., rfl⟩

omit [PlainWrites R] in
theorem Makes.within {m : SgsnM CtxId} (hm : Makes R m) : Within R m :=
  ⟨fun s ↦ wp_mono (hm s) (fun _ _ h ↦ h.1) fun _ _ h ↦ h⟩

instance {tlli : BitVec 32} : Within R (sgsnMmCtxAllocGb tlli rai) :=
  (makes_sgsnMmCtxAllocGb tlli).within

instance : Within R (sgsnMmCtxAllocIu ue) := (makes_sgsnMmCtxAllocIu ue).within

instance (tries : ℕ) : Within R (sgsnAllocPtmsi tries) := by
  induction tries with
  | zero =>
    unfold sgsnAllocPtmsi
    infer_instance
  | succ tries ih =>
    unfold sgsnAllocPtmsi
    refine .bind fun rand ↦ ?_
    split <;> infer_instance

instance : Within R (ptmsiUpdate id) := by
  unfold ptmsiUpdate
  infer_instance

instance : Within R (assignTlliNew id) := by
  unfold assignTlliNew
  refine .bind fun mm ↦ ?_
  split <;> infer_instance

instance : Within R (takeTlliNew id) := by
  unfold takeTlliNew
  infer_instance

instance : Within R (dropTlliOld id) := by
  unfold dropTlliOld
  infer_instance

instance : Within R (dropPtmsiOld id) := by
  unfold dropPtmsiOld
  refine .andThen ?_ fun _ ↦ inferInstance
  exact within_modMm fun mm _ ↦ (MmCtx.Plain.timerStop mm).trans (.of_eq rfl rfl rfl rfl)

instance : Within R (attReqRejected ctx radio cause) := by
  unfold attReqRejected
  refine .bind fun _ ↦ ?_
  split <;> infer_instance

/-- The identity of a context that was just made is written. -/
theorem within_setImsi {m : SgsnM CtxId} {α : Type} {k : CtxId → SgsnM α} {imsi : Digits}
    (hm : Makes R m) (hk : ∀ id, Within R (k id)) :
    Within R (do
      let id ← m
      modMm id fun mm ↦ { mm with imsi := imsi }
      k id) := by
  refine .bind_of_wp hm fun s id s' ⟨mm, hmm, hanswered⟩ ↦ ?_
  rw [wp_bind, wp_modMm hmm]
  have hset : R s' (s'.setCtx id { mm with imsi := imsi }) :=
    PlainWrites.setCtx hmm fun h ↦ absurd (hanswered.symm.trans h) Bool.false_ne_true
  refine wp_mono ((hk id).wp _) (fun _ _ h ↦ ?_) fun _ _ h ↦ ?_
  · exact Trans.trans hset h
  · exact Trans.trans hset h

instance {mi : MobileIdentity} : Within R (attReqContext ctx radio rai mi) := by
  cases mi with
  | imsi imsi =>
    refine .bind fun s ↦ ?_
    split
    · infer_instance
    · cases radio with
      | gb tlli cell llme => exact within_setImsi (makes_sgsnMmCtxAllocGb 0) fun _ ↦ inferInstance
      | iu ue => exact within_setImsi (makes_sgsnMmCtxAllocIu ue) fun _ ↦ inferInstance
  | tmsi _ =>
    refine .bind fun s ↦ ?_
    split
    · infer_instance
    · split <;> infer_instance
  | imei _ | imeisv _ => exact inferInstanceAs (Within R (pure none))

instance {req : AttachRequest} : Within R (attReqBind id radio rai req) := by
  have hmsgid : Within R (modMm id fun mm ↦ { mm.msgid radio with
      ra := rai
      msNetworkCapa := req.msNetworkCapa
      ueCipherMask := gprsMsNetCapGeaMask req.msNetworkCapa }) := by
    refine within_modMm fun mm _ ↦ ?_
    cases radio <;> exact .of_eq rfl rfl rfl rfl
  unfold attReqBind
  refine .bind fun mm ↦ .bind fun _ ↦ .andThen ?_ fun _ ↦ hmsgid
  cases radio with
  | gb tlli cell llme => exact .bind fun _ ↦ inferInstance
  | iu ue => exact inferInstanceAs (Within R (pure ()))

instance : Within R (gsm48RxGmmAttCompl id) := by
  unfold gsm48RxGmmAttCompl
  refine .bind fun _ ↦ .bind fun _ ↦ .bind fun mm ↦ ?_
  split <;> infer_instance

instance : Within R (raUpdReqRejected ctx radio cause) := by
  unfold raUpdReqRejected
  refine .bind fun _ ↦ ?_
  split <;> infer_instance

instance : Within R (gsm48RxGmmRaUpdCompl id) := by
  unfold gsm48RxGmmRaUpdCompl
  refine .bind fun _ ↦ .bind fun _ ↦ .bind fun mm ↦ ?_
  split <;> infer_instance

instance : Within R (gsm48RxGmmPtmsiReallCompl id) := by
  unfold gsm48RxGmmPtmsiReallCompl
  refine .bind fun _ ↦ .bind fun mm ↦ ?_
  split <;> infer_instance

instance : Within R (authCiphRejected id) := by
  unfold authCiphRejected
  infer_instance

instance {powerOff : Bool} : Within R (gsm48RxGmmDetReq id powerOff) := by
  unfold gsm48RxGmmDetReq
  infer_instance

instance {llme : LlmeId} {msg : GmmMsg} : Within R (gsm0408RcvGmmUnknown radio llme msg) := by
  unfold gsm0408RcvGmmUnknown
  split <;> infer_instance

instance {nsapi sapi ti : ℕ} {room : Bool} : Within R (activateGgsn id nsapi sapi ti room) := by
  unfold activateGgsn
  infer_instance

instance : Within R (gsm48RxGsmActPdpReq.reject id) := by
  unfold gsm48RxGsmActPdpReq.reject
  infer_instance

instance {req : ActPdpRequest} : Within R (gsm48RxGsmActPdpReq id req) := by
  unfold gsm48RxGsmActPdpReq
  refine .bind fun mm ↦ .bind fun s ↦ ?_
  extract_lets cfg
  split
  · infer_instance
  · split
    · infer_instance
    · split
      · infer_instance
      · split <;> infer_instance

instance {pdp : PdpCtx} : Within R (deactPdp id pdp) := by
  unfold deactPdp
  infer_instance

instance {msg : SmMsg} : Within R (gsm0408RcvGsm ctx radio msg) := by
  unfold gsm0408RcvGsm
  split
  case h_4 | h_5 =>
    refine .bind fun mm ↦ ?_
    split <;> infer_instance
  all_goals infer_instance

end Uplink

/-! ## PDP contexts -/

section Session

variable {id : CtxId} {nsapi : ℕ} {pdp : PdpCtx}

instance : Within R (sgsnPdpCtxFree id pdp) := by
  unfold sgsnPdpCtxFree
  infer_instance

instance {f : PdpCtx → PdpCtx} : Within R (modPdp id nsapi f) := by
  unfold modPdp
  infer_instance

instance : Within R (sendActPdpContAcc id nsapi) := by
  unfold sendActPdpContAcc
  refine .bind fun ok ↦ ?_
  split <;> infer_instance

instance : Within R (createPdpRejected id pdp) := by
  unfold createPdpRejected
  infer_instance

instance {accepted : Bool} : Within R (createPdpConf id nsapi accepted) := by
  unfold createPdpConf
  refine .bind fun mm ↦ ?_
  split
  · infer_instance
  · split
    · infer_instance
    · split <;> infer_instance

instance : Within R (sgsnPdpCtxIuRabDeactivate id) := by
  unfold sgsnPdpCtxIuRabDeactivate
  infer_instance

instance : Within R (deletePdpConf id nsapi) := by
  unfold deletePdpConf
  refine .bind fun mm ↦ ?_
  split
  · infer_instance
  · split <;> infer_instance

instance : Within R (sgsnGgsnCtxDropPdp id pdp) := by
  unfold sgsnGgsnCtxDropPdp
  infer_instance

instance : Within R (cbDeleteContext id nsapi) := by
  unfold cbDeleteContext
  refine .bind fun _ ↦ .bind fun mm ↦ ?_
  split <;> infer_instance

instance : Within R (ggsnLost id nsapi) := by
  unfold ggsnLost
  refine .bind fun mm ↦ ?_
  split <;> infer_instance

instance : Within R (cbUpdateContextErrorInd id nsapi) := by
  unfold cbUpdateContextErrorInd
  infer_instance

instance {last : Bool} : Within R (pdpctxTimerCb id nsapi last) := by
  unfold pdpctxTimerCb
  refine .bind fun mm ↦ ?_
  split <;> infer_instance

instance {rab : RabAssignment} : Within R (sgsnRanapRabAssResp id rab) := by
  unfold sgsnRanapRabAssResp
  refine .bind fun mm ↦ ?_
  split <;> infer_instance

instance {ev : GtpEvent} : Within R (gtpEvent id nsapi ev) := by
  cases ev with
  | createConf accepted => exact inferInstanceAs (Within R (createPdpConf id nsapi accepted))
  | deleteConf => exact inferInstanceAs (Within R (deletePdpConf id nsapi))
  | deleted => exact inferInstanceAs (Within R (cbDeleteContext id nsapi))
  | ggsnLost => exact inferInstanceAs (Within R (ggsnLost id nsapi))
  | errorInd => exact inferInstanceAs (Within R (cbUpdateContextErrorInd id nsapi))

instance {lookup : GgsnLookup} {answer : DnsAnswer} :
    Within R (ggsnLookupCb id lookup answer) := by
  unfold ggsnLookupCb
  split <;> infer_instance

end Session

/-! ## The HLR and timers -/

section Node

variable {id : CtxId}

instance {llme : LlmeId} : Within R (sgsnLlmeCleanupFree llme) := by
  unfold sgsnLlmeCleanupFree
  refine .bind fun s ↦ ?_
  split <;> infer_instance

instance {tlli : BitVec 32} {raid : RaId} {ev : GmmEvent} :
    Within R (gprsGmmRxSuspend tlli raid ev) := by
  unfold gprsGmmRxSuspend
  refine .bind fun s ↦ ?_
  split <;> infer_instance

instance {tlli : BitVec 32} {raid : RaId} : Within R (sndcpRecvPdu tlli raid) := by
  unfold sndcpRecvPdu
  refine .bind fun s ↦ ?_
  split <;> infer_instance

instance {k : MmCtx → SgsnM Unit} [∀ mm, Within R (k mm)] : Within R (whenMm id k) := by
  unfold whenMm
  refine .bind fun s ↦ ?_
  split <;> infer_instance

/-! ## Iu -/

instance : Within R (iuRelease ue) := by
  unfold iuRelease
  refine .bind fun s ↦ ?_
  split <;> infer_instance

instance {rab : RabAssignment} : Within R (iuRabAssign rab ue) := by
  unfold iuRabAssign
  refine .bind fun s ↦ ?_
  split <;> infer_instance

instance {handler : UeId → SgsnM Unit} [∀ ue, Within R (handler ue)] :
    Within R (globalIuEvent ue handler) := by
  unfold globalIuEvent
  refine .bind fun s ↦ ?_
  split <;> infer_instance

instance : Within R (sgsnMmIuHandleRncLoss id) := by
  unfold sgsnMmIuHandleRncLoss
  infer_instance

instance {rnc : ℕ} (ues : List UeId) : Within R (rncLossConnected rnc ues) := by
  induction ues with
  | nil => exact inferInstanceAs (Within R (pure ()))
  | cons ue ues ih =>
    refine .bind fun conn ↦ .bind fun s ↦ .andThen ?_ fun _ ↦ ih
    split <;> infer_instance

instance {rnc : ℕ} {areas : List RaId} : Within R (sgsnMmCtxOnRnc id rnc areas) := by
  unfold sgsnMmCtxOnRnc
  refine .bind fun mm ↦ ?_
  split <;> infer_instance

instance {rnc : ℕ} {areas : List RaId} (ids : List CtxId) :
    Within R (rncLossIdle rnc areas ids) := by
  induction ids with
  | nil => exact inferInstanceAs (Within R (pure ()))
  | cons id ids ih =>
    unfold rncLossIdle
    infer_instance

instance : Within R (ueConnCtxLinkInvalidatedFree ue) := by
  unfold ueConnCtxLinkInvalidatedFree
  refine .bind fun _ ↦ .bind fun s ↦ ?_
  split <;> infer_instance

instance {rnc : ℕ} (ues : List UeId) : Within R (rncDiscardUes rnc ues) := by
  induction ues with
  | nil => exact inferInstanceAs (Within R (pure ()))
  | cons ue ues ih =>
    unfold rncDiscardUes
    infer_instance

instance {rnc : ℕ} {areas : List RaId} : Within R (iuRncDiscardAllUeCtx rnc areas) := by
  unfold iuRncDiscardAllUeCtx
  infer_instance

end Node

end OsmoSgsn.Gmm
