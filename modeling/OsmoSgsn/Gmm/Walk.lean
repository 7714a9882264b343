import OsmoSgsn.Library.Wp
import OsmoSgsn.Gmm.Mobility

/-!
# The code follows the rules

A program walks from a state if, as long as what is known about the registry holds there, it either
gets to a state that the rules get to, or stops. The rules below compose walks along the structure
of a program.

Most of a program writes nothing that is in the registry, or only makes LLC entities for messages
that it sends. A few parts write the registry more than once between two states that the rules
relate; for those it is said exactly what they do.
-/

namespace OsmoSgsn.Gmm

open EStateM

variable {p : Promises} {α β : Type} {m : SgsnM α} {k : α → SgsnM β} {s s' : Sgsn}
  {r r' : Registry} {id : CtxId} {mm : MmCtx} {e : Entry}

/-! ## Views -/

theorem view_setCtx (s : Sgsn) (id : CtxId) (mm : MmCtx) :
    (s.setCtx id mm).view = s.view.set id mm.entry := by
  simp only [Sgsn.view, Sgsn.setCtx, Registry.set, Registry.mk.injEq, and_true, true_and]
  funext j
  by_cases hj : j = id
  · subst hj
    simp
  · simp [hj]

theorem Registry.set_eq_self (he : r.entry id = some e) : r.set id e = r := by
  rw [Registry.set, ← he, Function.update_eq_self]

@[simp] theorem Registry.set_entry_self (r : Registry) (id : CtxId) (e : Entry) :
    (r.set id e).entry id = some e := Function.update_self ..

theorem Registry.set_set (r : Registry) (id : CtxId) (e e' : Entry) :
    (r.set id e).set id e' = r.set id e' := by
  simp only [Registry.set, Function.update_idem]

/-- A write that the registry does not see. -/
theorem view_setCtx_same (hmm : s.ctxs id = some mm) {mm' : MmCtx} (he : mm'.entry = mm.entry) :
    (s.setCtx id mm').view = s.view := by
  rw [view_setCtx, he]
  exact Registry.set_eq_self (view_entry_of_some hmm)

/-! ## Programs -/

/-- A program stops by a fault. An assertion fails only where nothing is promised about pointers and
radio accesses, and the fault is no excuse for a state change that is denied. -/
structure Stops (p : Promises) (denied : Bool) (f : Fault) (s : Sgsn) : Prop where
  assertion : f = .assertion → ¬ p.ran
  denied : p.change → denied = false → s.view.denied = false

/-- A program gets to a registry. -/
def Moves (p : Promises) (m : SgsnM α) (s : Sgsn) (r' : Registry) : Prop :=
  wp m (fun _ s' ↦ s'.view = r') (Stops p s.view.denied) s

/-- A program writes nothing that is in the registry. -/
def Quiet (m : SgsnM α) : Prop := ∀ p s, Moves p m s s.view

/-- A program follows the rules, and something is known where it gets to. -/
def Walks (p : Promises) (m : SgsnM α) (Q : α → Sgsn → Prop) (s : Sgsn) : Prop :=
  Kept p s.view → wp m (fun a s' ↦ Steps p s.view s'.view ∧ Q a s') (Stops p s.view.denied) s

/-- Nothing is known. -/
def Any (_ : α) (_ : Sgsn) : Prop := True

theorem Stops.of_ne {f : Fault} (hf : f ≠ .assertion) : Stops p s.view.denied f s :=
  ⟨fun heq ↦ absurd heq hf, fun _ h ↦ h⟩

theorem Stops.mono {d d' : Bool} {f : Fault} (h : Stops p d' f s)
    (hd : p.change → d = false → d' = false) : Stops p d f s :=
  ⟨h.assertion, fun hp h0 ↦ h.denied hp (hd hp h0)⟩

/-- A primitive of the model: it does what is said, or stops where it is. -/
def Goes (m : SgsnM α) (R : α → Sgsn → Prop) (s : Sgsn) : Prop :=
  wp m R (fun f s' ↦ f ≠ .assertion ∧ s' = s) s

/-! ## Primitives -/

theorem goes_get : Goes get (fun a s' ↦ a = s ∧ s' = s) s := ⟨rfl, rfl⟩

theorem goes_getMm : Goes (getMm id) (fun mm s' ↦ s.ctxs id = some mm ∧ s' = s) s := by
  unfold Goes getMm
  rw [wp_bind, wp_get]
  cases hmm : s.ctxs id with
  | none => exact ⟨by simp, rfl⟩
  | some mm => exact ⟨rfl, rfl⟩

theorem goes_modMm {f : MmCtx → MmCtx} :
    Goes (modMm id f) (fun _ s' ↦ ∃ mm, s.ctxs id = some mm ∧ s' = s.setCtx id (f mm)) s := by
  refine wp_bind.mpr (wp_mono goes_getMm (fun mm s' ↦ ?_) fun _ _ h ↦ h)
  rintro ⟨hmm, rfl⟩
  exact ⟨mm, hmm, rfl⟩

theorem goes_modify {f : Sgsn → Sgsn} : Goes (modify f) (fun _ s' ↦ s' = f s) s := by
  rw [Goes, wp_modify]

theorem goes_getSubscr {sid : SubId} :
    Goes (getSubscr sid) (fun x s' ↦ s.subscr? sid = some x ∧ s' = s) s := by
  unfold Goes getSubscr
  rw [wp_bind, wp_get]
  cases hx : s.subscr? sid with
  | none => exact ⟨by simp, rfl⟩
  | some x => exact ⟨rfl, rfl⟩

theorem goes_getUe {ue : UeId} :
    Goes (getUe ue) (fun conn s' ↦ s.ues ue = some conn ∧ s' = s) s := by
  unfold Goes getUe
  rw [wp_bind, wp_get]
  cases hx : s.ues ue with
  | none => exact ⟨by simp, rfl⟩
  | some x => exact ⟨rfl, rfl⟩

theorem goes_getLlme {l : LlmeId} :
    Goes (getLlme l) (fun llme s' ↦ s.llme? l = some llme ∧ s' = s) s := by
  unfold Goes getLlme
  rw [wp_bind, wp_get]
  cases hx : s.llme? l with
  | none => exact ⟨by simp, rfl⟩
  | some x => exact ⟨rfl, rfl⟩

/-! ## Exact programs -/

namespace Moves

theorem pure (a : α) : Moves p (pure a : SgsnM α) s s.view := rfl

theorem throw {f : Fault} (hf : f ≠ .assertion) : Moves p (throw f : SgsnM α) s r' :=
  Stops.of_ne hf

theorem bind {v w : Registry} (hm : Moves p m s v) (hd : v.denied = s.view.denied)
    (hk : ∀ a s', s'.view = v → Moves p (k a) s' w) : Moves p (m >>= k) s w := by
  refine wp_bind.mpr (wp_mono hm (fun a s' hs' ↦ ?_) fun _ _ h ↦ h)
  refine wp_mono (hk a s' hs') (fun _ _ h ↦ h) fun f t hf ↦ hf.mono fun _ h0 ↦ ?_
  rw [hs', hd, h0]

theorem goes {R : α → Sgsn → Prop} (hm : Goes m R s)
    (hk : ∀ a s', R a s' → s'.view.denied = s.view.denied ∧ Moves p (k a) s' r') :
    Moves p (m >>= k) s r' := by
  refine wp_bind.mpr (wp_mono hm (fun a s' hR ↦ ?_) ?_)
  · obtain ⟨hd, hmoves⟩ := hk a s' hR
    exact wp_mono hmoves (fun _ _ h ↦ h) fun f t hf ↦ hf.mono fun _ h0 ↦ hd.trans h0
  · rintro f s' ⟨hf, rfl⟩
    exact .of_ne hf

theorem get {k : Sgsn → SgsnM β} (hk : Moves p (k s) s r') :
    Moves p (MonadState.get >>= k) s r' := hk

theorem getUe {ue : UeId} {k : UeConn → SgsnM β}
    (hk : ∀ conn, s.ues ue = some conn → Moves p (k conn) s r') :
    Moves p (getUe ue >>= k) s r' :=
  .goes goes_getUe fun conn _ h ↦ ⟨by rw [h.2], h.2 ▸ hk conn h.1⟩

theorem getLlme {l : LlmeId} {k : Llme → SgsnM β}
    (hk : ∀ llme, s.llme? l = some llme → Moves p (k llme) s r') :
    Moves p (getLlme l >>= k) s r' :=
  .goes goes_getLlme fun llme _ h ↦ ⟨by rw [h.2], h.2 ▸ hk llme h.1⟩

theorem getMm {k : MmCtx → SgsnM β} (hk : ∀ mm, s.ctxs id = some mm → Moves p (k mm) s r') :
    Moves p (getMm id >>= k) s r' :=
  .goes goes_getMm fun mm _ h ↦ ⟨by rw [h.2], h.2 ▸ hk mm h.1⟩

theorem modMm {f : MmCtx → MmCtx} {k : Unit → SgsnM β}
    (hk : ∀ mm, s.ctxs id = some mm → Moves p (k ()) (s.setCtx id (f mm)) r') :
    Moves p (modMm id f >>= k) s r' := by
  refine .goes goes_modMm fun _ s' h ↦ ?_
  obtain ⟨mm, hmm, rfl⟩ := h
  exact ⟨rfl, hk mm hmm⟩

/-- Read a context whose entry is known. -/
theorem read {k : MmCtx → SgsnM β} (he : s.view.entry id = some e)
    (hk : ∀ mm, mm.entry = e → Moves p (k mm) s r') : Moves p (Gmm.getMm id >>= k) s r' := by
  refine .getMm fun mm hmm ↦ hk mm ?_
  exact Option.some.inj ((view_entry_of_some hmm).symm.trans he)

/-- Write to a context whose entry is known. -/
theorem write {f : MmCtx → MmCtx} {k : Unit → SgsnM β} (he : s.view.entry id = some e)
    {x : Entry} (hf : ∀ mm : MmCtx, mm.entry = e → (f mm).entry = x)
    (hk : ∀ s', s'.view = s.view.set id x → Moves p (k ()) s' r') :
    Moves p (Gmm.modMm id f >>= k) s r' := by
  refine .modMm fun mm hmm ↦ hk _ ?_
  rw [view_setCtx, hf mm (Option.some.inj ((view_entry_of_some hmm).symm.trans he))]

/-- A program that has written before. -/
theorem done {a : α} (h : s.view = r') : Moves p (Pure.pure a : SgsnM α) s r' := h

/-- A program that is only a write. -/
theorem last (h : Moves p (m >>= Pure.pure) s r') : Moves p m s r' := by
  rwa [bind_pure] at h

end Moves

namespace Quiet

variable {m : SgsnM α} {k : α → SgsnM β}

theorem pure (a : α) : Quiet (Pure.pure a : SgsnM α) := fun _ _ ↦ rfl

theorem throw {f : Fault} (hf : f ≠ .assertion) : Quiet (throw f : SgsnM α) :=
  fun _ _ ↦ Stops.of_ne hf

theorem bind (hm : Quiet m) (hk : ∀ a, Quiet (k a)) : Quiet (m >>= k) := by
  intro p s
  refine Moves.bind (hm p s) rfl fun a s' hs' ↦ ?_
  rw [← hs']
  exact hk a p s'

theorem goes {R : Sgsn → α → Sgsn → Prop} (hm : ∀ s, Goes m (R s) s)
    (hR : ∀ s a s', R s a s' → s'.view = s.view) : Quiet m := by
  intro p s
  refine wp_mono (hm s) (hR s) ?_
  rintro f s' ⟨hf, rfl⟩
  exact .of_ne hf

theorem get : Quiet MonadState.get := .goes (fun _ ↦ goes_get) fun _ _ _ h ↦ by rw [h.2]

theorem getMm : Quiet (getMm id) := .goes (fun _ ↦ goes_getMm) fun _ _ _ h ↦ by rw [h.2]

theorem getSubscr {sid : SubId} : Quiet (getSubscr sid) :=
  .goes (fun _ ↦ goes_getSubscr) fun _ _ _ h ↦ by rw [h.2]

theorem getUe {ue : UeId} : Quiet (getUe ue) :=
  .goes (fun _ ↦ goes_getUe) fun _ _ _ h ↦ by rw [h.2]

theorem getLlme {l : LlmeId} : Quiet (getLlme l) :=
  .goes (fun _ ↦ goes_getLlme) fun _ _ _ h ↦ by rw [h.2]

theorem modify {f : Sgsn → Sgsn} (hf : ∀ s, (f s).view = s.view) : Quiet (modify f) :=
  .goes (fun _ ↦ goes_modify) fun s _ _ h ↦ by rw [h, hf]

theorem modMm {f : MmCtx → MmCtx} (hf : ∀ mm, (f mm).entry = mm.entry) :
    Quiet (modMm id f) := by
  refine .goes (fun _ ↦ goes_modMm) ?_
  rintro s - - ⟨mm, hmm, rfl⟩
  exact view_setCtx_same hmm (hf mm)

end Quiet

/-! ## What the registry does not see -/

theorem quiet_observe {o : Obs} (ho : o.denied = false) : Quiet (observe o) :=
  .modify fun s ↦ by simp [Sgsn.view, Sgsn.observe, ho]

theorem quiet_txAnswer : Quiet txAnswer := by
  intro p s
  refine .get ?_
  cases s.env.tx with
  | nil => exact .pure _
  | cons b bs => rfl

theorem quiet_gsupAnswer : Quiet gsupAnswer := by
  intro p s
  refine .get ?_
  cases s.env.gsup with
  | nil => exact .pure _
  | cons b bs => rfl

theorem quiet_osmoGetRandId : Quiet osmoGetRandId := by
  intro p s
  refine .get ?_
  cases s.env.rand with
  | nil => exact .pure _
  | cons b bs => rfl

theorem quiet_iuUeTx {ue : UeId} : Quiet (iuUeTx ue) := .bind .getUe fun _ ↦ quiet_txAnswer

/-- A write to a connection that is there. -/
theorem quiet_modUe {ue : UeId} {f : UeConn → UeConn} :
    Quiet (do
      let conn ← getUe ue
      modify (·.setUe ue (f conn))) := by
  intro p s
  refine .getUe fun conn hconn ↦ ?_
  change (s.setUe ue (f conn)).view = s.view
  simp only [Sgsn.view, Sgsn.setUe, Registry.mk.injEq, and_true, true_and]
  funext u
  by_cases hu : u = ue
  · subst hu
    simp [hconn]
  · simp [hu]

theorem quiet_sgsnRanapIuTxSecModeCmd {ue : UeId} : Quiet (sgsnRanapIuTxSecModeCmd id ue) := by
  refine .bind .getMm fun mm ↦ .bind quiet_iuUeTx fun ok ↦ .bind ?_ fun _ ↦
    .bind (.modMm fun _ ↦ rfl) fun _ ↦ .pure _
  split
  · exact .bind (quiet_observe rfl) fun _ ↦ quiet_modUe
  · exact .pure _

theorem quiet_sgsnRanapIuTxReleaseFree {ue : UeId} : Quiet (sgsnRanapIuTxReleaseFree ue) := by
  have hmod : Quiet (do
      let conn ← getUe ue
      modify (·.setUe ue { conn with notification := false, freeOnRelease := true })) := quiet_modUe
  have htx : Quiet (iuUeTx ue) := quiet_iuUeTx
  have hall := hmod.bind fun _ ↦ htx.bind fun _ ↦ Quiet.pure PUnit.unit
  simpa only [sgsnRanapIuTxReleaseFree, bind_assoc] using hall

theorem quiet_modSubscr {sid : SubId} {f : Subscr → Subscr} : Quiet (modSubscr sid f) :=
  .bind .getSubscr fun _ ↦ .modify fun _ ↦ rfl

theorem quiet_gprsSubscrPut {sid : SubId} : Quiet (gprsSubscrPut sid) :=
  .bind quiet_modSubscr fun _ ↦ .modify fun _ ↦ rfl

theorem quiet_gprsSubscrGetByImsi {imsi : Digits} : Quiet (gprsSubscrGetByImsi imsi) := by
  refine .bind .get fun s ↦ ?_
  split
  · exact .pure _
  · exact .bind quiet_modSubscr fun _ ↦ .pure _

theorem quiet_gprsSubscrGetOrCreateByMmctx : Quiet (gprsSubscrGetOrCreateByMmctx id) := by
  refine .bind .getMm fun mm ↦ ?_
  split
  · exact .bind quiet_modSubscr fun _ ↦ .pure _
  · refine .bind quiet_gprsSubscrGetByImsi fun found ↦ .bind ?_ fun sid ↦
      .bind quiet_modSubscr fun _ ↦ .bind quiet_modSubscr fun _ ↦
        .bind (.modMm fun _ ↦ rfl) fun _ ↦ .pure _
    split
    · exact .pure _
    · exact .bind .get fun s ↦ .bind (.modify fun _ ↦ rfl) fun _ ↦ .pure _

theorem quiet_gprsSubscrTxGsup {sid : SubId} {req : GsupRequest} :
    Quiet (gprsSubscrTxGsup sid req) := by
  refine .bind .getSubscr fun x ↦ .bind quiet_gsupAnswer fun ok ↦ .bind ?_ fun _ ↦ .pure _
  split
  · exact quiet_observe rfl
  · exact .pure _

theorem quiet_gprsSubscrRequestAuthInfo {auts : Option Bytes} :
    Quiet (gprsSubscrRequestAuthInfo id auts) := by
  refine .bind quiet_gprsSubscrGetOrCreateByMmctx fun sid ↦ .bind quiet_modSubscr fun _ ↦
    .bind quiet_gprsSubscrTxGsup fun ok ↦ .bind ?_ fun _ ↦
      .bind quiet_gprsSubscrPut fun _ ↦ .pure _
  split
  · exact .pure _
  · exact quiet_modSubscr

theorem quiet_gprsSubscrRequestUpdateLocation :
    Quiet (gprsSubscrRequestUpdateLocation id) :=
  .bind quiet_gprsSubscrGetOrCreateByMmctx fun _ ↦ .bind quiet_modSubscr fun _ ↦
    .bind quiet_gprsSubscrTxGsup fun _ ↦ .bind quiet_gprsSubscrPut fun _ ↦ .pure _

theorem quiet_gprsSubscrCleanup {sid : SubId} : Quiet (gprsSubscrCleanup sid) := by
  refine .bind .getSubscr fun x ↦ .bind ?_ fun _ ↦ ?_
  · split
    · exact .pure _
    · refine .bind .getMm fun mm ↦ .bind ?_ fun _ ↦ .bind (.modMm fun _ ↦ rfl) fun _ ↦
        quiet_modSubscr
      split
      · exact .throw (by simp)
      · exact quiet_gprsSubscrPut
  · split
    · exact .bind quiet_gprsSubscrTxGsup fun _ ↦ quiet_modSubscr
    · exact .pure _

theorem quiet_sgsnAuthGetTuple : Quiet (sgsnAuthGetTuple id) := by
  refine .bind .getMm fun mm ↦ ?_
  split
  · exact .pure _
  · refine .bind .getSubscr fun x ↦ ?_
    split
    · exact .pure _
    · exact .bind quiet_modSubscr fun _ ↦ .pure _

theorem quiet_mmSubscr : Quiet (mmSubscr id) := by
  refine .bind .getMm fun mm ↦ ?_
  split
  · exact .pure _
  · exact .bind .getSubscr fun _ ↦ .pure _

theorem quiet_lacksIntegrity : Quiet (lacksIntegrity mm) := by
  unfold lacksIntegrity
  split
  · exact .bind .getUe fun _ ↦ .pure _
  · exact .pure _

theorem quiet_useLlme : Quiet (useLlme id) := by
  refine .bind .getMm fun mm ↦ ?_
  split
  · exact .throw (by simp)
  · exact .bind .getLlme fun _ ↦ .pure _

/-! ## Messages -/

/-- LLC entities are made, for messages that are sent to TLLIs that have none. -/
abbrev Sent : Registry → Registry → Prop :=
  Relation.ReflTransGen fun r r' ↦ ∃ tlli, r' = r.addLlme tlli

theorem Sent.entry (h : Sent r r') : r'.entry = r.entry := by
  induction h with
  | refl => rfl
  | tail _ hlast ih =>
    obtain ⟨tlli, rfl⟩ := hlast
    exact ih

theorem Sent.denied (h : Sent r r') : r'.denied = r.denied := by
  induction h with
  | refl => rfl
  | tail _ hlast ih =>
    obtain ⟨tlli, rfl⟩ := hlast
    exact ih

theorem Sent.steps (h : Sent r r') : Steps p r r' := by
  induction h with
  | refl => exact .refl
  | tail _ hlast ih =>
    obtain ⟨tlli, rfl⟩ := hlast
    exact ih.tail (.addLlme tlli)

/-- A program writes nothing that is in the registry, except that it makes LLC entities. -/
def Sends (m : SgsnM α) : Prop :=
  ∀ p s, wp m (fun _ s' ↦ Sent s.view s'.view) (Stops p s.view.denied) s

namespace Sends

variable {m : SgsnM α} {k : α → SgsnM β}

theorem of_quiet (hm : Quiet m) : Sends m :=
  fun p s ↦ wp_mono (hm p s) (fun _ _ h ↦ h ▸ .refl) fun _ _ h ↦ h

theorem pure (a : α) : Sends (Pure.pure a : SgsnM α) := .of_quiet (.pure a)

theorem bind (hm : Sends m) (hk : ∀ a, Sends (k a)) : Sends (m >>= k) := by
  intro p s
  refine wp_bind.mpr (wp_mono (hm p s) (fun a s' hs' ↦ ?_) fun _ _ h ↦ h)
  refine wp_mono (hk a p s') (fun _ _ h ↦ hs'.trans h) fun f t hf ↦ hf.mono fun _ h0 ↦ ?_
  rw [hs'.denied, h0]

end Sends

theorem sends_gprsLleGetOrCreate {tlli : BitVec 32} : Sends (gprsLleGetOrCreate tlli) := by
  intro p s
  unfold gprsLleGetOrCreate
  rw [wp_bind, wp_get]
  cases s.llmeByTlli tlli with
  | some llme => exact .refl
  | none => exact .single ⟨tlli, rfl⟩

theorem sends_gprsLlcTxUi {tlli : BitVec 32} : Sends (gprsLlcTxUi tlli) :=
  .bind sends_gprsLleGetOrCreate fun _ ↦ .of_quiet quiet_txAnswer

theorem sends_gsm48GmmSendmsg {msg : Downlink} : Sends (gsm48GmmSendmsg id msg) := by
  refine .bind (.of_quiet .getMm) fun mm ↦ .bind ?_ fun ok ↦ .bind ?_ fun _ ↦ .pure _
  · split
    · exact .pure _
    · exact sends_gprsLlcTxUi
    · exact .of_quiet quiet_iuUeTx
  · split
    · exact .of_quiet (quiet_observe rfl)
    · exact .pure _

theorem sends_sendOldmsg {radio : Radio} {msg : Downlink} : Sends (sendOldmsg radio msg) := by
  refine .bind ?_ fun ok ↦ ?_
  · split
    · exact sends_gprsLlcTxUi
    · exact .of_quiet quiet_iuUeTx
  · split
    · exact .of_quiet (quiet_observe rfl)
    · exact .pure _

theorem sends_gsm48TxGmmAuthCiphReq : Sends (gsm48TxGmmAuthCiphReq id) := by
  refine .bind (.of_quiet quiet_osmoGetRandId) fun rand ↦ ?_
  split
  · exact .pure _
  · exact .bind (.of_quiet (.modMm fun _ ↦ rfl)) fun _ ↦ .bind (.of_quiet .getMm) fun _ ↦
      sends_gsm48GmmSendmsg

/-! ## Walks -/

namespace Walks

variable {Q Q' : α → Sgsn → Prop} {R : β → Sgsn → Prop}

/-- What is known about the registry may be used. -/
theorem kept (h : Kept p s.view → Walks p m Q s) : Walks p m Q s := fun hk ↦ h hk hk

theorem mono (h : Walks p m Q s) (hQ : ∀ a s', Q a s' → Q' a s') : Walks p m Q' s :=
  fun hk ↦ wp_mono (h hk) (fun a s' ha ↦ ⟨ha.1, hQ a s' ha.2⟩) fun _ _ hf ↦ hf

theorem any (h : Walks p m Q s) : Walks p m Any s := h.mono fun _ _ _ ↦ trivial

theorem pure {a : α} (h : Q a s) : Walks p (Pure.pure a) Q s := fun _ ↦ ⟨.refl, h⟩

theorem throw {f : Fault} (hf : f ≠ .assertion) : Walks p (throw f) Q s := fun _ ↦ Stops.of_ne hf

theorem bind (hm : Walks p m Q s) (hk : ∀ a s', Q a s' → Walks p (k a) R s') :
    Walks p (m >>= k) R s := by
  intro hkept
  refine wp_bind.mpr (wp_mono (hm hkept) ?_ fun _ _ hf ↦ hf)
  rintro a s' ⟨hsteps, hQ⟩
  refine wp_mono (hk a s' hQ (hkept.steps hsteps)) (fun b t hb ↦ ⟨hsteps.trans hb.1, hb.2⟩)
    fun f t hf ↦ hf.mono fun hp _ ↦ ?_
  exact (hkept.steps hsteps).change hp

/-- A program that has written before. -/
theorem last (h : Walks p (m >>= Pure.pure) Q s) : Walks p m Q s := by
  rwa [bind_pure] at h

theorem goes {Q : α → Sgsn → Prop} (hm : Goes m Q s)
    (hk : ∀ a s', Q a s' → (Kept p s.view → Steps p s.view s'.view) ∧ Walks p (k a) R s') :
    Walks p (m >>= k) R s := by
  refine .bind (Q := Q) (fun hkept ↦ wp_mono hm (fun a s' hQ ↦ ⟨(hk a s' hQ).1 hkept, hQ⟩) ?_)
    fun a s' hQ ↦ (hk a s' hQ).2
  rintro f s' ⟨hf, rfl⟩
  exact .of_ne hf

theorem get {k : Sgsn → SgsnM β} (hk : Walks p (k s) R s) :
    Walks p (MonadState.get >>= k) R s := hk

theorem getMm {k : MmCtx → SgsnM β} (hk : ∀ mm, s.ctxs id = some mm → Walks p (k mm) R s) :
    Walks p (getMm id >>= k) R s :=
  .goes goes_getMm fun mm _ h ↦ ⟨fun _ ↦ by rw [h.2], h.2 ▸ hk mm h.1⟩

theorem getUe {ue : UeId} {k : UeConn → SgsnM β}
    (hk : ∀ conn, s.ues ue = some conn → Walks p (k conn) R s) :
    Walks p (getUe ue >>= k) R s :=
  .goes goes_getUe fun conn _ h ↦ ⟨fun _ ↦ by rw [h.2], h.2 ▸ hk conn h.1⟩

theorem getSubscr {sid : SubId} {k : Subscr → SgsnM β}
    (hk : ∀ x, s.subscr? sid = some x → Walks p (k x) R s) :
    Walks p (getSubscr sid >>= k) R s :=
  .goes goes_getSubscr fun x _ h ↦ ⟨fun _ ↦ by rw [h.2], h.2 ▸ hk x h.1⟩

/-- A write that is a rule. -/
theorem modMmStep {f : MmCtx → MmCtx} {k : Unit → SgsnM β}
    (hf : ∀ mm, s.ctxs id = some mm → Kept p s.view →
      Step p s.view (s.view.set id (f mm).entry))
    (hk : ∀ mm, s.ctxs id = some mm → Walks p (k ()) R (s.setCtx id (f mm))) :
    Walks p (modMm id f >>= k) R s := by
  refine .goes goes_modMm fun _ s' h ↦ ?_
  obtain ⟨mm, hmm, rfl⟩ := h
  exact ⟨fun hkept ↦ view_setCtx s id (f mm) ▸ .single (hf mm hmm hkept), hk mm hmm⟩

/-- A write that the registry does not see. -/
theorem modMm {f : MmCtx → MmCtx} {k : Unit → SgsnM β} (hf : ∀ mm, (f mm).entry = mm.entry)
    (hk : ∀ mm, s.ctxs id = some mm → Walks p (k ()) R (s.setCtx id (f mm))) :
    Walks p (modMm id f >>= k) R s := by
  refine .goes goes_modMm fun _ s' h ↦ ?_
  obtain ⟨mm, hmm, rfl⟩ := h
  exact ⟨fun _ ↦ by rw [view_setCtx_same hmm (hf mm)], hk mm hmm⟩

theorem modify {f : Sgsn → Sgsn} {k : PUnit → SgsnM β}
    (hf : Kept p s.view → Steps p s.view (f s).view) (hk : Walks p (k ⟨⟩) R (f s)) :
    Walks p (modify f >>= k) R s := by
  refine .goes goes_modify fun _ s' h ↦ ?_
  subst h
  exact ⟨hf, hk⟩

theorem moves (hm : Moves p m s r') (hs : Kept p s.view → Steps p s.view r')
    (hk : ∀ a s', s'.view = r' → Walks p (k a) R s') : Walks p (m >>= k) R s :=
  .bind (Q := fun _ s' ↦ s'.view = r')
    (fun hkept ↦ wp_mono hm (fun _ _ h ↦ ⟨h ▸ hs hkept, h⟩) fun _ _ hf ↦ hf) hk

theorem quiet (hm : Quiet m) (hk : ∀ a s', s'.view = s.view → Walks p (k a) R s') :
    Walks p (m >>= k) R s :=
  .moves (hm p s) (fun _ ↦ .refl) hk

theorem sends (hm : Sends m) (hk : ∀ a s', Sent s.view s'.view → Walks p (k a) R s') :
    Walks p (m >>= k) R s :=
  .bind (Q := fun _ s' ↦ Sent s.view s'.view)
    (fun _ ↦ wp_mono (hm p s) (fun _ _ h ↦ ⟨h.steps, h⟩) fun _ _ hf ↦ hf) hk

theorem of_moves (hm : Moves p m s r') (hs : Kept p s.view → Steps p s.view r') :
    Walks p m Any s :=
  .last (.moves hm hs fun _ _ _ ↦ .pure trivial)

theorem of_quiet (hm : Quiet m) : Walks p m Any s := .of_moves (hm p s) fun _ ↦ .refl

end Walks

end OsmoSgsn.Gmm
