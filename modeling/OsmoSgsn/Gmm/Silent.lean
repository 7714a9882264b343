import OsmoSgsn.Library.Wp
import OsmoSgsn.Gmm.Records

/-!
# Programs that leave records alone

Most programs write nothing that concerns records. Such a program is silent for a context: it uses
no record that is gone, and it uses no context that is gone if that one is there. The rules compose
silent programs, and all FSMs, timers and messages of a context follow from them.
-/

namespace OsmoSgsn.Gmm

open EStateM

variable {α β : Type} {m : SgsnM α} {k : α → SgsnM β} {s s' : Sgsn} {id : CtxId} {mm : MmCtx}
  {held : SubId → ℕ} {sid : SubId}

/-- A fault that is none of those that records can bring about. A context is used after it was freed
only where that is said. -/
structure Harmless (gone : Prop) (f : Fault) : Prop where
  subscr : f ≠ .staleSubscr
  context : f ≠ .noContext
  used : f = .useAfterFree → gone

/-- A program, from a state, writes nothing that concerns records. -/
def SilentAt (id : CtxId) (m : SgsnM α) (s : Sgsn) : Prop :=
  ∀ held, Counted held s.records →
    wp m (fun _ s' ↦ s'.records = s.records) (fun f _ ↦ Harmless (s.ctxs id = none) f) s

/-- A program writes nothing that concerns records. -/
def Silent (id : CtxId) (m : SgsnM α) : Prop := ∀ s, SilentAt id m s

/-! ## Rules -/

theorem Harmless.of_ne {gone : Prop} {f : Fault} (h1 : f ≠ .staleSubscr) (h2 : f ≠ .noContext)
    (h3 : f ≠ .useAfterFree) : Harmless gone f :=
  ⟨h1, h2, fun heq ↦ absurd heq h3⟩

theorem Harmless.mono {gone gone' : Prop} {f : Fault} (h : Harmless gone f)
    (himp : gone → gone') : Harmless gone' f :=
  ⟨h.subscr, h.context, fun heq ↦ himp (h.used heq)⟩

/-- Which contexts are there is seen in the records. -/
theorem gone_iff (h : s'.records = s.records) (id : CtxId) :
    s'.ctxs id = none ↔ s.ctxs id = none := by
  have heq := congrFun (congrArg Records.ctxs h) id
  change (s'.ctxs id).map _ = (s.ctxs id).map _ at heq
  rw [← Option.map_eq_none_iff (f := MmCtx.subscription), heq, Option.map_eq_none_iff]

theorem records_setCtx (s : Sgsn) (id : CtxId) (mm : MmCtx) :
    (s.setCtx id mm).records = s.records.set id (some mm.subscription) := by
  simp only [Sgsn.records, Sgsn.setCtx, Records.set, Records.mk.injEq, and_true, true_and]
  funext j
  by_cases hj : j = id
  · subst hj
    simp
  · simp [hj]

/-- A write that records do not see. -/
theorem records_setCtx_same (hmm : s.ctxs id = some mm) {mm' : MmCtx}
    (h : mm'.subscription = mm.subscription) : (s.setCtx id mm').records = s.records := by
  rw [records_setCtx, h]
  have hself : s.records.ctxs id = some mm.subscription := by simp [Sgsn.records, hmm]
  rw [Records.set, ← hself, Function.update_eq_self]

theorem pointer_of_some (hmm : s.ctxs id = some mm) : s.records.pointer id = mm.subscr := by
  simp [Records.pointer, Sgsn.records, hmm, MmCtx.subscription]

namespace SilentAt

theorem pure (a : α) : SilentAt id (Pure.pure a : SgsnM α) s := fun _ _ ↦ rfl

theorem bind (hm : SilentAt id m s)
    (hk : ∀ a s', s'.records = s.records → SilentAt id (k a) s') : SilentAt id (m >>= k) s := by
  intro held h
  refine wp_bind.mpr (wp_mono (hm held h) (fun a s' hs' ↦ ?_) fun _ _ hf ↦ hf)
  refine wp_mono (hk a s' hs' held (hs'.symm ▸ h)) (fun _ _ h' ↦ h'.trans hs') fun f t hf ↦ ?_
  exact hf.mono (gone_iff hs' id).mp

theorem get {k : Sgsn → SgsnM β} (hk : SilentAt id (k s) s) :
    SilentAt id (MonadState.get >>= k) s := hk

theorem getMm {k : MmCtx → SgsnM β} (hk : ∀ mm, s.ctxs id = some mm → SilentAt id (k mm) s) :
    SilentAt id (getMm id >>= k) s := by
  intro held h
  unfold Gmm.getMm
  rw [wp_bind, wp_bind, wp_get]
  cases hmm : s.ctxs id with
  | none => exact ⟨by simp, by simp, fun _ ↦ rfl⟩
  | some mm =>
    have hw := hk mm hmm held h
    rw [hmm] at hw
    exact hw

theorem modMm {i : CtxId} {f : MmCtx → MmCtx} {k : Unit → SgsnM β}
    (hf : ∀ mm, (f mm).subscription = mm.subscription) (hi : i = id ∨ (s.ctxs i).isSome)
    (hk : ∀ s', s'.records = s.records → SilentAt id (k ()) s') :
    SilentAt id (modMm i f >>= k) s := by
  intro held h
  unfold Gmm.modMm Gmm.getMm
  rw [wp_bind, wp_bind, wp_bind, wp_get]
  cases hmm : s.ctxs i with
  | none =>
    refine ⟨by simp, by simp, fun _ ↦ ?_⟩
    rcases hi with rfl | hi
    · exact hmm
    · rw [hmm] at hi
      exact absurd hi (by simp)
  | some mm =>
    rw [wp_pure, wp_modify]
    have hsame := records_setCtx_same hmm (hf mm)
    refine wp_mono (hk _ hsame held (hsame.symm ▸ h)) (fun _ _ h' ↦ h'.trans hsame) fun f t hf ↦ ?_
    exact hf.mono (gone_iff hsame id).mp

/-- The record of a context is there. -/
theorem getSubscr {k : Subscr → SgsnM β} (hp : s.records.pointer id = some sid)
    (hk : ∀ x, s.subscr? sid = some x → SilentAt id (k x) s) :
    SilentAt id (getSubscr sid >>= k) s := by
  intro held h
  obtain ⟨x, hx⟩ := h.pointed hp
  unfold Gmm.getSubscr
  rw [wp_bind, wp_bind, wp_get]
  have hx' : s.subscr? sid = some x := hx
  rw [hx']
  exact hk x hx' held h

theorem last (h : SilentAt id (m >>= Pure.pure) s) : SilentAt id m s := by
  rwa [bind_pure] at h

end SilentAt

namespace Silent

theorem pure (a : α) : Silent id (Pure.pure a : SgsnM α) := fun _ ↦ .pure a

theorem throw {f : Fault} (hf : Harmless False f) : Silent id (throw f : SgsnM α) :=
  fun _ _ _ ↦ hf.mono False.elim

theorem bind (hm : Silent id m) (hk : ∀ a, Silent id (k a)) : Silent id (m >>= k) :=
  fun s ↦ .bind (hm s) fun a s' _ ↦ hk a s'

theorem get : Silent id (MonadState.get : SgsnM Sgsn) := fun _ _ _ ↦ rfl

theorem getMm : Silent id (getMm id) := fun _ ↦ .last (.getMm fun _ _ ↦ .pure _)

theorem modMm {f : MmCtx → MmCtx} (hf : ∀ mm, (f mm).subscription = mm.subscription) :
    Silent id (modMm id f) :=
  fun _ ↦ .last (.modMm hf (.inl rfl) fun _ _ ↦ .pure _)

theorem modify {f : Sgsn → Sgsn} (hf : ∀ s, (f s).records = s.records) : Silent id (modify f) :=
  fun s _ _ ↦ hf s

theorem getUe {ue : UeId} : Silent id (getUe ue) := by
  intro s held _
  unfold Gmm.getUe
  rw [wp_bind, wp_get]
  cases s.ues ue with
  | none => exact .of_ne (by simp) (by simp) (by simp)
  | some conn => exact rfl

theorem getLlme {l : LlmeId} : Silent id (getLlme l) := by
  intro s held _
  unfold Gmm.getLlme
  rw [wp_bind, wp_get]
  cases s.llme? l with
  | none => exact .of_ne (by simp) (by simp) (by simp)
  | some llme => exact rfl

end Silent

/-! ## Messages and timers -/

theorem silent_observe {o : Obs} : Silent id (observe o) := .modify fun _ ↦ rfl

theorem silent_txAnswer : Silent id txAnswer := by
  intro s
  refine .get ?_
  cases s.env.tx with
  | nil => exact .pure _
  | cons b bs => exact fun _ _ ↦ rfl

theorem silent_gsupAnswer : Silent id gsupAnswer := by
  intro s
  refine .get ?_
  cases s.env.gsup with
  | nil => exact .pure _
  | cons b bs => exact fun _ _ ↦ rfl

theorem silent_osmoGetRandId : Silent id osmoGetRandId := by
  intro s
  refine .get ?_
  cases s.env.rand with
  | nil => exact .pure _
  | cons b bs => exact fun _ _ ↦ rfl

theorem silent_gprsLleGetOrCreate {tlli : BitVec 32} : Silent id (gprsLleGetOrCreate tlli) := by
  intro s
  refine .get ?_
  split
  · exact .pure _
  · exact fun _ _ ↦ rfl

theorem silent_gprsLlgmmAssign {l : LlmeId} {oldTlli newTlli : BitVec 32} :
    Silent id (gprsLlgmmAssign l oldTlli newTlli) :=
  .bind .getLlme fun _ ↦ .modify fun _ ↦ rfl

theorem silent_gprsLlgmmUnassign {l : LlmeId} : Silent id (gprsLlgmmUnassign l) :=
  .bind .getLlme fun _ ↦ silent_gprsLlgmmAssign

theorem silent_useLlme : Silent id (useLlme id) := by
  refine .bind .getMm fun mm ↦ ?_
  split
  · exact .throw (.of_ne (by simp) (by simp) (by simp))
  · exact .bind .getLlme fun _ ↦ .pure _

theorem silent_gprsLlcTxUi {tlli : BitVec 32} : Silent id (gprsLlcTxUi tlli) :=
  .bind silent_gprsLleGetOrCreate fun _ ↦ silent_txAnswer

theorem silent_iuUeTx {ue : UeId} : Silent id (iuUeTx ue) := .bind .getUe fun _ ↦ silent_txAnswer

theorem silent_gsm48GmmSendmsg {msg : Downlink} : Silent id (gsm48GmmSendmsg id msg) := by
  refine .bind .getMm fun mm ↦ .bind ?_ fun ok ↦ .bind ?_ fun _ ↦ .pure _
  · split
    · exact .pure _
    · exact silent_gprsLlcTxUi
    · exact silent_iuUeTx
  · split
    · exact silent_observe
    · exact .pure _

theorem silent_sendOldmsg {radio : Radio} {msg : Downlink} : Silent id (sendOldmsg radio msg) := by
  refine .bind ?_ fun ok ↦ ?_
  · split
    · exact silent_gprsLlcTxUi
    · exact silent_iuUeTx
  · split
    · exact silent_observe
    · exact .pure _

theorem silent_gsm48TxGmmAuthCiphReq : Silent id (gsm48TxGmmAuthCiphReq id) := by
  refine .bind silent_osmoGetRandId fun rand ↦ ?_
  split
  · exact .pure _
  · exact .bind (.modMm fun _ ↦ rfl) fun _ ↦ .bind .getMm fun _ ↦ silent_gsm48GmmSendmsg

theorem silent_sgsnRanapIuTxSecModeCmd {ue : UeId} :
    Silent id (sgsnRanapIuTxSecModeCmd id ue) := by
  refine .bind .getMm fun mm ↦ .bind silent_iuUeTx fun ok ↦ .bind ?_ fun _ ↦
    .bind (.modMm fun _ ↦ rfl) fun _ ↦ .pure _
  split
  · exact .bind silent_observe fun _ ↦ .bind .getUe fun _ ↦ .modify fun _ ↦ rfl
  · exact .pure _

@[simp] theorem subscription_timerStart (mm : MmCtx) (nr : ℕ) :
    (mm.timerStart nr).subscription = mm.subscription := by
  rw [MmCtx.timerStart]
  split
  · rfl
  · rfl

/-! ## Mobility -/

theorem silent_stMmIdleOnEnter : Silent id (stMmIdleOnEnter id) := by
  refine .bind (.modMm fun _ ↦ rfl) fun _ ↦ .bind .getMm fun mm ↦ ?_
  split
  · exact .pure _
  · exact .bind silent_gprsLlgmmUnassign fun _ ↦ .modMm fun _ ↦ rfl

theorem silent_mmStateGb {ev : MmGbEvent} : Silent id (mmStateGb id ev) := by
  refine .bind .getMm fun mm ↦ ?_
  split
  · exact .pure _
  · refine .bind (.modMm fun _ ↦ rfl) fun _ ↦ ?_
    split
    · exact silent_stMmIdleOnEnter
    · exact .pure _

theorem silent_gprsGbRecvPdu : Silent id (gprsGbRecvPdu id) := by
  refine .bind .getMm fun mm ↦ ?_
  split
  · exact silent_mmStateGb
  · exact .pure _

/-- A context that is found is there. -/
theorem isSome_of_findMm {p : MmCtx → Bool} {i : CtxId} (h : s.findMm p = some i) :
    (s.ctxs i).isSome := by
  have hany := List.find?_some h
  obtain ⟨mm, hmm, -⟩ := (Option.any_eq_true _ _).mp hany
  exact Option.isSome_of_eq_some hmm

theorem silent_sgsnRanapIuFreeUe {ue : UeId} : Silent id (sgsnRanapIuFreeUe ue) := by
  intro s
  refine .get ?_
  have hrest : Silent id (do
      let _ ← getUe ue
      modify (·.freeUe ue)) := .bind .getUe fun _ ↦ .modify fun _ ↦ rfl
  cases hfind : sgsnMmCtxByUeCtx s ue with
  | none => exact hrest s
  | some owner =>
    exact .modMm (fun _ ↦ rfl) (.inr (isSome_of_findMm hfind)) fun s' _ ↦ hrest s'

theorem silent_sgsnMmCtxIuRanapFree : Silent id (sgsnMmCtxIuRanapFree id) := by
  refine .bind .getMm fun mm ↦ ?_
  split
  · exact .pure _
  · exact .bind silent_sgsnRanapIuFreeUe fun _ ↦ .modMm fun _ ↦ rfl

theorem silent_sgsnRanapIuTxReleaseFree {ue : UeId} : Silent id (sgsnRanapIuTxReleaseFree ue) :=
  .bind .getUe fun _ ↦ .bind (.modify fun _ ↦ rfl) fun _ ↦ .bind silent_iuUeTx fun _ ↦ .pure _

theorem silent_sgsnMmCtxIuRanapReleaseFree : Silent id (sgsnMmCtxIuRanapReleaseFree id) := by
  refine .bind .getMm fun mm ↦ ?_
  split
  · exact .pure _
  · exact .bind silent_sgsnRanapIuTxReleaseFree fun _ ↦ .modMm fun _ ↦ rfl

theorem silent_sgsnPdpCtxIuRabActivate {pdp : PdpCtx} :
    Silent id (sgsnPdpCtxIuRabActivate id pdp) := by
  refine .bind .getMm fun mm ↦ ?_
  split
  · exact .throw (.of_ne (by simp) (by simp) (by simp))
  · split
    · exact .pure _
    · split
      · exact silent_iuUeTx
      · exact .pure _

theorem silent_activateRabs (pdps : List PdpCtx) : Silent id (activateRabs id pdps) := by
  induction pdps with
  | nil => exact .pure _
  | cons pdp pdps ih =>
    refine .bind ?_ fun _ ↦ ih
    split
    · exact silent_sgsnPdpCtxIuRabActivate
    · exact .pure _

theorem silent_sgsnMmCtxIuActivateRabs : Silent id (sgsnMmCtxIuActivateRabs id) := by
  refine .bind .getMm fun mm ↦ ?_
  split
  · exact .throw (.of_ne (by simp) (by simp) (by simp))
  · split
    · exact silent_activateRabs _
    · exact .pure _

theorem silent_mmStateIu {ev : PmmEvent} : Silent id (mmStateIu id ev) := by
  refine .bind .getMm fun mm ↦ ?_
  split
  · exact .modMm fun _ ↦ rfl
  · exact .bind silent_sgsnMmCtxIuRanapFree fun _ ↦ .modMm fun _ ↦ rfl
  · exact .bind silent_sgsnMmCtxIuRanapFree fun _ ↦ .modMm fun _ ↦ rfl
  · exact .bind silent_sgsnMmCtxIuRanapReleaseFree fun _ ↦ .modMm fun _ ↦ rfl
  · exact .bind (.modMm fun _ ↦ rfl) fun _ ↦ silent_sgsnMmCtxIuActivateRabs
  · exact .bind (.modMm fun _ ↦ rfl) fun _ ↦ silent_sgsnMmCtxIuActivateRabs
  · exact .bind (.modMm fun _ ↦ rfl) fun _ ↦ silent_sgsnMmCtxIuActivateRabs
  · exact .modMm fun _ ↦ rfl
  · exact .pure _

/-! ## Registration -/

theorem silent_gmmFsmStateChg {next : GmmState} : Silent id (gmmFsmStateChg id next) := by
  refine .bind .getMm fun mm ↦ .bind silent_observe fun _ ↦ ?_
  split
  · refine .bind (.modMm fun _ ↦ rfl) fun _ ↦ ?_
    split
    · exact silent_observe
    · exact .pure _
  · exact .pure _

theorem silent_gmmFsm {ev : GmmEvent} : Silent id (gmmFsm id ev) := by
  refine .bind .getMm fun mm ↦ ?_
  split
  · exact silent_gmmFsmStateChg
  · exact .pure _

theorem silent_gmmFsmRatChange {newRanType : SgsnRanType} {llme : Option LlmeId} :
    Silent id (gmmFsmRatChange id newRanType llme) := by
  refine .bind .getMm fun mm ↦ .bind ?_ fun _ ↦ .bind ?_ fun _ ↦
    .bind (.modMm fun _ ↦ rfl) fun _ ↦ silent_gmmFsm
  · split
    · exact silent_gmmFsmStateChg
    · exact .pure _
  · split
    · exact silent_mmStateGb
    · exact .bind silent_mmStateIu fun _ ↦ .modMm fun _ ↦ rfl

/-! ## The attach FSM -/

theorem silent_gmmAttachFsmStateChg {next : AttachState} {onenter : SgsnM Unit}
    (h : Silent id onenter) : Silent id (gmmAttachFsmStateChg id next onenter) := by
  refine .bind .getMm fun mm ↦ .bind silent_observe fun _ ↦ ?_
  split
  · exact .bind (.modMm fun _ ↦ rfl) fun _ ↦ h
  · exact .pure _

theorem silent_mmSubscr : Silent id (mmSubscr id) := by
  intro s
  refine .getMm fun mm hmm ↦ ?_
  split
  · exact .pure _
  · rename_i sid hsid
    exact .getSubscr ((pointer_of_some hmm).trans hsid) fun _ _ ↦ .pure _

theorem silent_stAcceptOnEnter : Silent id (stAcceptOnEnter id) :=
  .bind .getMm fun _ ↦ .bind silent_mmSubscr fun _ ↦ .bind silent_observe fun _ ↦
    .bind (.modMm fun _ ↦ rfl) fun _ ↦ .bind silent_gsm48GmmSendmsg fun _ ↦ .pure _

theorem silent_stIuSecurityCmdOnEnter : Silent id (stIuSecurityCmdOnEnter id) := by
  refine .bind .getMm fun mm ↦ ?_
  split
  · exact .throw (.of_ne (by simp) (by simp) (by simp))
  · refine .bind .getUe fun conn ↦ ?_
    split
    · exact silent_gmmAttachFsmStateChg silent_stAcceptOnEnter
    · exact .bind silent_sgsnRanapIuTxSecModeCmd fun _ ↦ .pure _

theorem silent_lacksIntegrity {mm : MmCtx} : Silent id (lacksIntegrity mm) := by
  unfold lacksIntegrity
  split
  · exact .bind .getUe fun _ ↦ .pure _
  · exact .pure _

theorem silent_gsm48GmmAuthorized : Silent id (gsm48GmmAuthorized id) := by
  refine .bind .getMm fun mm ↦ ?_
  split
  · exact .pure _
  · refine .bind (.modMm fun _ ↦ rfl) fun _ ↦ ?_
    split
    · exact .pure _
    · exact .bind (.modMm fun mm ↦ subscription_timerStart mm 3350) fun _ ↦
        .bind silent_gsm48GmmSendmsg fun _ ↦ .pure _
  · refine .bind (.modMm fun _ ↦ rfl) fun _ ↦ .bind silent_mmStateIu fun _ ↦
      .bind silent_gsm48GmmSendmsg fun _ ↦ .bind .getMm fun mm ↦ ?_
    split
    · exact silent_sgsnMmCtxIuActivateRabs
    · exact .pure _
  · exact .bind (.modMm fun _ ↦ rfl) fun _ ↦ .bind silent_gsm48GmmSendmsg fun _ ↦ .pure _

end OsmoSgsn.Gmm
