import OsmoSgsn.Gmm.Connections
import OsmoSgsn.Gmm.Counting
import OsmoSgsn.Iu.Gateway
import OsmoSgsn.Iu.Registry

/-!
# Connections of ready RNCs

The FSM of an RNC takes InitialUE messages when the RNC is ready, and before it gives that state up
it gives up the connections of the RNC. The upper layer is told of each, and it frees the
connection; of a connection that is being released it is not told, and that one is freed behind its
back. Either way none is left, and every connection on the list is one of an RNC that is ready.

What is left of a connection is found by the id that SCCP has given it, so it is SCCP that promises
the rest: a new connection has an id that no open connection has.
-/

namespace OsmoSgsn.Iu

open EStateM OsmoSgsn.Ra OsmoSgsn.Gmm

/-! ## Freeing a connection -/

section Freeing

variable {α β : Type} {m : SgsnM α} {k : α → SgsnM β} {s s' : Sgsn} {ue : UeId} {id : CtxId}
  {mm : MmCtx} {connIds : UeId → ConnId}

theorem wp_getUe {conn : UeConn} {Q : UeConn → Sgsn → Prop} {E : Fault → Sgsn → Prop}
    (hue : s.ues ue = some conn) : wp (getUe ue) Q E s ↔ Q conn s := by
  unfold getUe
  rw [wp_bind, wp_get, hue]
  exact Iff.rfl

/-- A connection is not there any more when a program returns. -/
def Frees (ue : UeId) (m : SgsnM α) (s : Sgsn) : Prop :=
  wp m (fun _ s' ↦ s'.ues ue = none) (fun _ _ ↦ True) s

theorem frees_of_none [hm : Within Fewer m] (h : s.ues ue = none) : Frees ue m s :=
  wp_mono (hm.wp s) (fun _ _ hs' ↦ hs'.none h) fun _ _ _ ↦ trivial

/-- What comes first frees the connection. -/
theorem Frees.andThen (h : Frees ue m s) (hk : ∀ a, Within Fewer (k a)) : Frees ue (m >>= k) s :=
  wp_bind.mpr (wp_mono h (fun _ _ hs' ↦ frees_of_none hs') fun _ _ h ↦ h)

/-- What comes last frees the connection. -/
theorem Frees.after (h : ∀ a s', Frees ue (k a) s') : Frees ue (m >>= k) s := by
  refine wp_bind.mpr ?_
  unfold wp
  split
  · exact h _ _
  · trivial

theorem frees_freeUe : Frees ue (sgsnRanapIuFreeUe ue) s := by
  unfold sgsnRanapIuFreeUe
  refine .after fun _ s' ↦ .after fun _ s' ↦ .after fun _ s' ↦ ?_
  exact Function.update_self ..

theorem frees_iuRanapFree (hmm : s.ctxs id = some mm) (hue : mm.ueCtx = some ue) :
    Frees ue (sgsnMmCtxIuRanapFree id) s := by
  unfold sgsnMmCtxIuRanapFree
  refine wp_bind.mpr ((wp_getMm hmm).mpr ?_)
  rw [hue]
  exact frees_freeUe.andThen fun _ ↦ inferInstance

/-- The context that is looked up by a connection has it. -/
theorem exists_of_byUeCtx (h : sgsnMmCtxByUeCtx s ue = some id) :
    ∃ mm, s.ctxs id = some mm ∧ mm.ueCtx = some ue := by
  have hany := List.find?_some h
  cases hmm : s.ctxs id with
  | none => simp [hmm] at hany
  | some mm =>
    simp only [hmm, Option.any_some, decide_eq_true_eq] at hany
    exact ⟨mm, rfl, hany.2⟩

/-- The mobility FSM frees the connection of a context that is connected, and leaves everything as
it is otherwise. -/
theorem wp_psConnRelease (hmm : s.ctxs id = some mm) (hue : mm.ueCtx = some ue) :
    wp (mmStateIu id .psConnRelease) (fun _ s' ↦ s'.ues ue = none ∨ s' = s) (fun _ _ ↦ True) s := by
  unfold mmStateIu
  refine wp_bind.mpr ((wp_getMm hmm).mpr ?_)
  cases mm.pmm with
  | connected =>
    have hfree := (frees_iuRanapFree hmm hue).andThen (k := fun _ ↦
      modMm id fun mm ↦ { mm with pmm := .idle }) fun _ ↦ inferInstance
    exact wp_mono hfree (fun _ _ h ↦ .inl h) fun _ _ h ↦ h
  | detached | idle => exact .inr rfl

theorem frees_iuRelease : Frees ue (iuRelease ue) s := by
  unfold iuRelease
  refine wp_bind.mpr (wp_get.mpr ?_)
  cases hby : sgsnMmCtxByUeCtx s ue with
  | none => exact frees_freeUe
  | some id =>
    obtain ⟨mm, hmm, hue⟩ := exists_of_byUeCtx hby
    refine wp_bind.mpr (wp_mono (wp_psConnRelease hmm hue) (fun _ s' h ↦ ?_) fun _ _ h ↦ h)
    rcases h with hnone | rfl
    · exact frees_of_none hnone
    · exact (frees_iuRanapFree hmm hue).andThen fun _ ↦ inferInstance

/-- No two connections that are there have the same id. -/
def UniqueIds (connIds : UeId → ConnId) (s : Sgsn) : Prop :=
  ∀ ue ue', s.ues ue ≠ none → s.ues ue' ≠ none → connIds ue = connIds ue' → ue = ue'

theorem UniqueIds.fewer (h : UniqueIds connIds s) (hf : Fewer s s') : UniqueIds connIds s' :=
  fun ue ue' hue hue' ↦ h ue ue' (fun hno ↦ hue (hf.none hno)) fun hno ↦ hue' (hf.none hno)

theorem ueConnCtxFind_some {connId : ConnId} (h : ueConnCtxFind connIds s connId = some ue) :
    ue ∈ s.ueList ∧ connIds ue = connId :=
  ⟨List.mem_of_find?_eq_some h, by simpa using List.find?_some h⟩

theorem ueConnCtxFind_none {connId : ConnId} (h : ueConnCtxFind connIds s connId = none) :
    ∀ ue ∈ s.ueList, connIds ue ≠ connId := fun ue hue ↦ by
  simpa using List.find?_eq_none.mp h ue hue

/-- What is found by the id of a connection is that connection. -/
theorem ueConnCtxFind_self (hl : s.UesListed) (hids : UniqueIds connIds s)
    (hue : s.ues ue ≠ none) : ueConnCtxFind connIds s (connIds ue) = some ue := by
  cases hf : ueConnCtxFind connIds s (connIds ue) with
  | none => exact absurd rfl (ueConnCtxFind_none hf ue ((hl.mem_iff ue).mpr hue))
  | some ue' =>
    obtain ⟨hmem, hid⟩ := ueConnCtxFind_some hf
    rw [hids ue' ue ((hl.mem_iff ue').mp hmem) hue hid]

instance : Within Fewer (ueConnCtxLinkInvalidatedFree connIds ue) := by
  unfold ueConnCtxLinkInvalidatedFree
  refine .bind fun _ ↦ .bind fun s ↦ ?_
  split <;> infer_instance

/-- A connection is freed when its link is invalidated, by the upper layer or, where the upper layer
is not told, behind its back. -/
theorem frees_linkInvalidatedFree (hl : s.UesListed) (hids : UniqueIds connIds s) :
    Frees ue (ueConnCtxLinkInvalidatedFree connIds ue) s := by
  cases hue : s.ues ue with
  | none => exact frees_of_none hue
  | some conn =>
    unfold ueConnCtxLinkInvalidatedFree
    cases hn : conn.notification with
    | true =>
      refine Frees.andThen ?_ fun _ ↦ .bind fun s' ↦ ?_
      · unfold globalIuEvent
        refine wp_bind.mpr (wp_get.mpr ?_)
        simp only [hue, hn, if_true]
        exact frees_iuRelease
      · split <;> infer_instance
    | false =>
      have hquiet : wp (globalIuEvent ue iuRelease) (fun _ s' ↦ s' = s) (fun _ _ ↦ True) s := by
        unfold globalIuEvent
        refine wp_bind.mpr (wp_get.mpr ?_)
        simp only [hue, hn]
        rfl
      refine wp_bind.mpr (wp_mono hquiet (fun _ s' h ↦ ?_) fun _ _ h ↦ h)
      subst h
      have hfind : ueConnCtxFind connIds s' (connIds ue) = some ue :=
        ueConnCtxFind_self hl hids (by simp [hue])
      have hrel : conn.freeOnRelease = true := hl.released ue conn hue hn
      refine wp_bind.mpr (wp_get.mpr ?_)
      rw [hfind]
      refine wp_bind.mpr ((wp_getUe hue).mpr ?_)
      rw [if_pos hrel]
      exact frees_freeUe

instance {rnc : RncPtr} (ues : List UeId) : Within Fewer (discardUes connIds rnc ues) := by
  induction ues with
  | nil => exact inferInstanceAs (Within Fewer (pure ()))
  | cons ue ues ih =>
    refine .bind fun conn ↦ .andThen ?_ fun _ ↦ ih
    infer_instance

/-- A connection is not one of an RNC. -/
def NotOf (rnc : RncPtr) (ue : UeId) (s : Sgsn) : Prop :=
  ∀ conn, s.ues ue = some conn → conn.rnc ≠ rnc

theorem NotOf.fewer {rnc : RncPtr} (h : NotOf rnc ue s) (hf : Fewer s s') : NotOf rnc ue s' := by
  intro conn' hconn'
  obtain ⟨conn, hconn, hrnc⟩ := hf.kept ue conn' hconn'
  exact hrnc ▸ h conn hconn

/-- The loop over the connections leaves none of those of the RNC that it goes through. -/
theorem wp_discardUes {rnc : RncPtr} {ues : List UeId} (hl : s.UesListed)
    (hids : UniqueIds connIds s) :
    wp (discardUes connIds rnc ues) (fun _ s' ↦ ∀ ue ∈ ues, NotOf rnc ue s')
      (fun _ _ ↦ True) s := by
  induction ues generalizing s with
  | nil => exact fun ue hue ↦ absurd hue List.not_mem_nil
  | cons ue ues ih =>
    unfold discardUes
    cases hue : s.ues ue with
    | none =>
      unfold getUe
      rw [wp_bind, wp_bind, wp_get, hue]
      trivial
    | some conn =>
      refine wp_bind.mpr ((wp_getUe hue).mpr ?_)
      have hone : wp (if conn.rnc = rnc then ueConnCtxLinkInvalidatedFree connIds ue else pure ())
          (fun _ s' ↦ Fewer s s' ∧ NotOf rnc ue s') (fun _ _ ↦ True) s := by
        split
        · have hfree : Frees ue _ s := frees_linkInvalidatedFree hl hids
          have hfewer :=
            (inferInstance : Within Fewer (ueConnCtxLinkInvalidatedFree connIds ue)).wp s
          refine wp_mono (wp_and hfewer hfree) (fun _ s' h ↦ ⟨h.1, fun x hx ↦ ?_⟩)
            fun _ _ _ ↦ trivial
          exact absurd (hx.symm.trans h.2) (by simp)
        · rename_i hne
          refine ⟨.of_eq rfl rfl, fun x hx ↦ ?_⟩
          rwa [← Option.some.inj (hue.symm.trans hx)]
      refine wp_bind.mpr (wp_mono hone (fun _ s' h ↦ ?_) fun _ _ h ↦ h)
      have hrest := ih (h.1.listed hl) (hids.fewer h.1)
      have hkeep := (inferInstance : Within Fewer (discardUes connIds rnc ues)).wp s'
      refine wp_mono (wp_and hkeep hrest) (fun _ t ht ↦ ?_) fun _ _ _ ↦ trivial
      exact List.forall_mem_cons.mpr ⟨h.2.fewer ht.1, ht.2⟩

end Freeing

/-! ## RNCs that are ready -/

section Rncs

variable {Addr Route : Type} {l : RncList Addr} {rnc rnc' : RncPtr} {r : RanapIuRnc Addr}

/-- An RNC is in the list, and its FSM is in the state `IU_RNC_ST_READY`. -/
def RncList.Ready (l : RncList Addr) (rnc : RncPtr) : Prop :=
  ∃ r, l.rnc? rnc = some r ∧ r.state = .ready

theorem RncList.rnc?_modRnc {f : RanapIuRnc Addr → RanapIuRnc Addr}
    (hptr : ∀ r, (f r).ptr = r.ptr) :
    (l.modRnc rnc' f).rnc? rnc = (l.rnc? rnc).map fun r ↦ if r.ptr = rnc' then f r else r := by
  have hp : (fun r : RanapIuRnc Addr ↦ decide (r.ptr = rnc)) ∘
      (fun r ↦ if r.ptr = rnc' then f r else r) = fun r ↦ decide (r.ptr = rnc) := by
    funext r
    by_cases hr : r.ptr = rnc'
    · simp [hr, hptr]
    · simp [hr]
  rw [RncList.rnc?, RncList.rnc?, RncList.modRnc, List.find?_map, hp]

theorem RncList.Ready.modRnc {f : RanapIuRnc Addr → RanapIuRnc Addr} (h : l.Ready rnc)
    (hptr : ∀ r, (f r).ptr = r.ptr)
    (hstate : ∀ r, r.ptr = rnc → r.state = .ready → r.ptr = rnc' → (f r).state = .ready) :
    (l.modRnc rnc' f).Ready rnc := by
  obtain ⟨r, hr, hready⟩ := h
  have hrnc : r.ptr = rnc := by simpa using List.find?_some hr
  refine ⟨_, by rw [RncList.rnc?_modRnc hptr, hr, Option.map_some], ?_⟩
  split
  · rename_i heq
    exact hstate r hrnc hready heq
  · exact hready

theorem RncList.Ready.stateChg_ready (h : l.Ready rnc) : (l.stateChg rnc' .ready).Ready rnc :=
  h.modRnc (fun _ ↦ rfl) fun _ _ _ _ ↦ rfl

theorem RncList.Ready.stateChg_of_ne (h : l.Ready rnc) (hne : rnc ≠ rnc') (state : IuRncState) :
    (l.stateChg rnc' state).Ready rnc :=
  h.modRnc (fun _ ↦ rfl) fun _ hr _ hr' ↦ absurd (hr.symm.trans hr') hne

theorem RncList.ready_stateChg (h : l.rnc? rnc = some r) : (l.stateChg rnc .ready).Ready rnc := by
  have hrnc : r.ptr = rnc := by simpa using List.find?_some h
  refine ⟨{ r with state := .ready }, ?_, rfl⟩
  rw [RncList.stateChg, RncList.rnc?_modRnc (by intro r; rfl), h, Option.map_some, if_pos hrnc]

theorem RncList.Ready.updateRaiSeen (h : l.Ready rnc) (rai : RoutingAreaId) :
    (l.updateRaiSeen rnc' rai).Ready rnc := by
  unfold RncList.updateRaiSeen
  split
  · split
    · refine RncList.Ready.modRnc ?_ (fun _ ↦ rfl) fun _ _ hr _ ↦ hr
      exact h.modRnc (fun _ ↦ rfl) fun _ _ hr _ ↦ hr
    · exact h
  · exact h.modRnc (fun _ ↦ rfl) fun _ _ hr _ ↦ hr

/-- A new RNC takes the place of none. -/
theorem RncList.Ready.findOrCreate [DecidableEq Route] {sccp : SccpAddrs Addr Route}
    (h : l.Ready rnc) (hsound : Sound sccp l) {addr : Addr}
    (haddr : l.findByAddr sccp addr = none) (rncId : RncId) :
    (l.findOrCreate sccp rncId addr).1.Ready rnc := by
  cases hid : l.findById rncId with
  | some r =>
    rw [RncList.findOrCreate_of_some hid haddr]
    exact h
  | none =>
    obtain ⟨r, hr, hready⟩ := h
    have hrnc : r.ptr = rnc := by simpa using List.find?_some hr
    have hlt : r.ptr < l.nextRnc := hsound.lt_next r (List.mem_of_find?_eq_some hr)
    have hne : l.nextRnc ≠ rnc := hrnc ▸ hlt.ne'
    rw [RncList.findOrCreate_of_none hid]
    refine ⟨r, ?_, hready⟩
    rw [RncList.rnc?, RncList.rncAlloc, List.find?_cons_of_neg (by simpa using hne)]
    exact hr

end Rncs

/-! ## The invariant -/

section Invariant

variable {Addr Route : Type} {sccp : SccpAddrs Addr Route}
  {s s' : IuSgsn Addr} {rnc : RncPtr} {state : IuRncState} {ue : UeId} {connId : ConnId}

/-- Every connection is one of an RNC that is ready. -/
structure OnReady (s : IuSgsn Addr) : Prop where
  listed : s.sgsn.UesListed
  ready : ∀ ue conn, s.sgsn.ues ue = some conn → s.rncs.Ready conn.rnc

/-- What the gateway has for the connections of SCCP is what SCCP has ids for. -/
structure Linked (s : IuSgsn Addr) : Prop where
  ids : (s.opened.map (·.1)).Nodup
  ues : ∀ ue, s.sgsn.ues ue ≠ none → (s.connIds ue, some ue) ∈ s.opened
  addrs : ∀ p ∈ s.sccpAddrs, (p.1, none) ∈ s.opened
  addrIds : (s.sccpAddrs.map (·.1)).Nodup

/-- What holds between two events. -/
structure Settled (sccp : SccpAddrs Addr Route) (s : IuSgsn Addr) : Prop
    extends OnReady s, Linked s where
  sound : Sound sccp s.rncs

/-- The entry for an id is the only one. -/
theorem Linked.eq_of_id (h : Linked s) {a b : Option UeId} (ha : (connId, a) ∈ s.opened)
    (hb : (connId, b) ∈ s.opened) : a = b :=
  congrArg Prod.snd (List.inj_on_of_nodup_map h.ids ha hb rfl)

theorem Linked.uniqueIds (h : Linked s) : UniqueIds s.connIds s.sgsn := by
  intro ue ue' hue hue' heq
  have hopen := h.ues ue hue
  rw [heq] at hopen
  exact Option.some.inj (h.eq_of_id hopen (h.ues ue' hue'))

/-- An RNC has no connection. -/
def Vacant (rnc : RncPtr) (s : IuSgsn Addr) : Prop :=
  OnReady s ∧ ∀ ue, NotOf rnc ue s.sgsn

/-- An RNC that is not ready has no connection. -/
theorem OnReady.vacant (h : OnReady s) {r : RanapIuRnc Addr} (hr : s.rncs.rnc? rnc = some r)
    (hstate : r.state ≠ .ready) : Vacant rnc s := by
  refine ⟨h, fun ue conn hue heq ↦ ?_⟩
  obtain ⟨x, hx, hready⟩ := h.ready ue conn hue
  obtain rfl : r = x := Option.some.inj (hr.symm.trans (heq ▸ hx))
  exact hstate hready

theorem OnReady.fewer (h : OnReady s) {t : Sgsn} (hf : Fewer s.sgsn t) :
    OnReady { s with sgsn := t } where
  listed := hf.listed h.listed
  ready ue conn' hue := by
    obtain ⟨conn, hconn, hrnc⟩ := hf.kept ue conn' hue
    exact hrnc ▸ h.ready ue conn hconn

theorem Vacant.stateChg (h : Vacant rnc s) (state : IuRncState) :
    Vacant rnc { s with rncs := s.rncs.stateChg rnc state } :=
  ⟨⟨h.1.listed, fun ue conn hue ↦ (h.1.ready ue conn hue).stateChg_of_ne (h.2 ue conn hue) state⟩,
    h.2⟩

/-! ## What opens no connection -/

/-- No connection is opened, and what SCCP has ids for stays. -/
structure NoNewUe (sccp : SccpAddrs Addr Route) (s s' : IuSgsn Addr) : Prop where
  fewer : Fewer s.sgsn s'.sgsn
  connIds : s'.connIds = s.connIds
  sccpAddrs : s'.sccpAddrs = s.sccpAddrs
  opened : s'.opened = s.opened
  sound : Sound sccp s.rncs → Sound sccp s'.rncs

instance : Std.Refl (NoNewUe sccp) := ⟨fun _ ↦ ⟨.of_eq rfl rfl, rfl, rfl, rfl, id⟩⟩

instance : IsTrans (IuSgsn Addr) (NoNewUe sccp) where
  trans _ _ _ h h' := ⟨Trans.trans h.fewer h'.fewer, h'.connIds.trans h.connIds,
    h'.sccpAddrs.trans h.sccpAddrs, h'.opened.trans h.opened, h'.sound ∘ h.sound⟩

theorem Linked.noNewUe (h : Linked s) (hs : NoNewUe sccp s s') : Linked s' where
  ids := hs.opened ▸ h.ids
  ues ue hue := by
    rw [hs.opened, hs.connIds]
    exact h.ues ue fun hno ↦ hue (hs.fewer.none hno)
  addrs := by
    rw [hs.opened, hs.sccpAddrs]
    exact h.addrs
  addrIds := hs.sccpAddrs ▸ h.addrIds

/-- Where no connection is opened, only the states of the RNCs are left to look at. -/
theorem Settled.noNewUe (h : Settled sccp s) (hs : NoNewUe sccp s s') (hready : OnReady s') :
    Settled sccp s' :=
  ⟨hready, h.toLinked.noNewUe hs, hs.sound h.sound⟩

theorem Settled.wp_noNewUe {α : Type} {m : IuM Addr α} (h : Settled sccp s)
    (hm : Within (NoNewUe sccp) m) (hr : wp m (fun _ s' ↦ OnReady s') (fun _ s' ↦ OnReady s') s) :
    wp m (fun _ s' ↦ Settled sccp s' ∧ NoNewUe sccp s s') (fun _ s' ↦ OnReady s') s :=
  wp_mono (wp_and (hm.wp s) hr) (fun _ _ h' ↦ ⟨h.noNewUe h'.1 h'.2, h'.1⟩) fun _ _ h' ↦ h'.2

section OnSgsn

variable {α : Type} {m : SgsnM α}

theorem wp_onSgsn {Q : α → IuSgsn Addr → Prop} {E : Fault → IuSgsn Addr → Prop} :
    wp (onSgsn m) Q E s ↔
      wp m (fun a t ↦ Q a { s with sgsn := t }) (fun f t ↦ E f { s with sgsn := t }) s.sgsn := by
  unfold wp onSgsn
  cases m s.sgsn with
  | ok a t => exact Iff.rfl
  | error f t => exact Iff.rfl

variable [hm : Within Fewer m]

instance : Within (NoNewUe sccp) (onSgsn m : IuM Addr α) where
  wp s := wp_onSgsn.mpr (wp_mono (hm.wp s.sgsn) (fun _ _ h ↦ ⟨h, rfl, rfl, rfl, id⟩)
    fun _ _ h ↦ ⟨h, rfl, rfl, rfl, id⟩)

instance : Within (Keeps OnReady) (onSgsn m : IuM Addr α) where
  wp s := wp_onSgsn.mpr (wp_mono (hm.wp s.sgsn) (fun _ _ h hs ↦ hs.fewer h)
    fun _ _ h hs ↦ hs.fewer h)

instance : Within (Keeps (Vacant rnc)) (onSgsn m : IuM Addr α) where
  wp s := wp_onSgsn.mpr (wp_mono (hm.wp s.sgsn)
    (fun _ _ h hs ↦ ⟨hs.1.fewer h, fun ue ↦ (hs.2 ue).fewer h⟩)
    fun _ _ h hs ↦ ⟨hs.1.fewer h, fun ue ↦ (hs.2 ue).fewer h⟩)

end OnSgsn

/-! ## The FSM of an RNC -/

instance : Within (Keeps OnReady) (iuRncStateChg rnc .ready : IuM Addr Unit) :=
  .modify fun _ h ↦ ⟨h.listed, fun ue conn hue ↦ (h.ready ue conn hue).stateChg_ready⟩

instance : Within (Keeps (Vacant rnc)) (iuRncStateChg rnc state : IuM Addr Unit) :=
  .modify fun _ h ↦ h.stateChg state

instance [DecidableEq Route] : Within (NoNewUe sccp) (iuRncStateChg rnc state : IuM Addr Unit) :=
  .modify fun _ ↦ ⟨.of_eq rfl rfl, rfl, rfl, rfl, fun h ↦ h.stateChg rnc state⟩

theorem within_discardAll {R : IuSgsn Addr → IuSgsn Addr → Prop} [Std.Refl R]
    [IsTrans (IuSgsn Addr) R] (h : ∀ m : SgsnM Unit, Within Fewer m → Within R (onSgsn m)) :
    Within R (iuRncDiscardAllUeCtx rnc) := by
  unfold iuRncDiscardAllUeCtx
  refine .bind fun s ↦ ?_
  split
  · infer_instance
  · exact h _ inferInstance

instance : Within (NoNewUe sccp) (iuRncDiscardAllUeCtx rnc) :=
  within_discardAll fun _ _ ↦ inferInstance

instance : Within (Keeps OnReady) (iuRncDiscardAllUeCtx rnc : IuM Addr Unit) :=
  within_discardAll fun _ _ ↦ inferInstance

instance : Within (Keeps (Vacant rnc)) (iuRncDiscardAllUeCtx rnc : IuM Addr Unit) :=
  within_discardAll fun _ _ ↦ inferInstance

/-- An RNC that has given up its connections has none. -/
theorem wp_discardAll (h : Settled sccp s) :
    wp (iuRncDiscardAllUeCtx rnc) (fun _ s' ↦ Vacant rnc s') (fun _ s' ↦ OnReady s') s := by
  suffices hnone : wp (iuRncDiscardAllUeCtx rnc) (fun _ s' ↦ ∀ ue, NotOf rnc ue s'.sgsn)
      (fun _ _ ↦ True) s from
    wp_mono (wp_and (Within.keeps h.toOnReady) hnone) (fun _ _ h ↦ h) fun _ _ h ↦ h.1
  unfold iuRncDiscardAllUeCtx
  refine wp_bind.mpr (wp_get.mpr ?_)
  cases hr : s.rncs.rnc? rnc with
  | none =>
    intro ue conn hue heq
    obtain ⟨r, hr', -⟩ := h.ready ue conn hue
    exact absurd (hr.symm.trans (heq ▸ hr')) (by simp)
  | some r =>
    refine wp_onSgsn.mpr (wp_bind.mpr (wp_get.mpr (wp_bind.mpr ?_)))
    refine wp_mono (Within.wp (R := Fewer) s.sgsn) (fun _ t ht ↦ ?_) fun _ _ _ ↦ trivial
    refine wp_bind.mpr (wp_get.mpr (wp_bind.mpr ?_))
    refine wp_mono (Within.wp (R := Fewer) t) (fun _ t' ht' ↦ ?_) fun _ _ _ ↦ trivial
    have hfewer : Fewer s.sgsn t' := Trans.trans ht ht'
    have hlisted := hfewer.listed h.listed
    have hloop : wp (discardUes s.connIds rnc t'.ueList)
        (fun _ s' ↦ ∀ ue ∈ t'.ueList, NotOf rnc ue s') (fun _ _ ↦ True) t' :=
      wp_discardUes hlisted (h.uniqueIds.fewer hfewer)
    refine wp_bind.mpr (wp_get.mpr ?_)
    refine wp_mono (wp_and (Within.wp (R := Fewer) t') hloop) (fun _ t'' ht'' ue conn hue ↦ ?_)
      fun _ _ _ ↦ trivial
    -- a connection that is left was on the list that the loop went through
    obtain ⟨conn', hconn', -⟩ := ht''.1.kept ue conn hue
    exact ht''.2 ue ((hlisted.mem_iff ue).mpr (by simp [hconn'])) conn hue

section Events

variable [DecidableEq Route] {c : Calls} [c.Fewer] {msg : RanapCo} {addr : Addr}

instance : Within (NoNewUe sccp) (iuRncRxReset rnc) := by
  unfold iuRncRxReset
  infer_instance

instance : Within (NoNewUe sccp) (iuRncReset rnc) := by
  unfold iuRncReset
  infer_instance

instance : Within (Keeps (Vacant rnc)) (iuRncReset rnc : IuM Addr Unit) := by
  unfold iuRncReset
  infer_instance

instance : Within Fewer (sgsnRanapIuHandleCo c ue msg) := by
  unfold sgsnRanapIuHandleCo
  split <;> infer_instance

/-- The events of the FSM that may open a connection. -/
def IuRncEvent.opens : IuRncEvent → Bool
  | .msgUpCoInitial .. => true
  | _ => false

theorem within_iuRncDispatch {ev : IuRncEvent} (hev : ev.opens = false) :
    Within (NoNewUe sccp) (iuRncDispatch c rnc ev) := by
  unfold iuRncDispatch
  refine .bind fun s ↦ ?_
  split
  · infer_instance
  · split
    all_goals first
      | infer_instance
      | exact absurd hev (by simp [IuRncEvent.opens])

/-- What is done where an RNC has no connection leaves no connection of an RNC that is not ready. -/
theorem Vacant.wp {α : Type} {m : IuM Addr α} [Within (Keeps (Vacant rnc)) m] (h : Vacant rnc s) :
    EStateM.wp m (fun _ s' ↦ OnReady s') (fun _ s' ↦ OnReady s') s :=
  wp_mono (Within.keeps h) (fun _ _ h ↦ h.1) fun _ _ h ↦ h.1

omit [DecidableEq Route] in
theorem wp_iuRncRxReset (h : Settled sccp s) :
    wp (iuRncRxReset rnc) (fun _ s' ↦ OnReady s') (fun _ s' ↦ OnReady s') s := by
  unfold iuRncRxReset
  exact wp_bind.mpr (wp_mono (wp_discardAll h) (fun _ _ h ↦ h.wp) fun _ _ h ↦ h)

omit [DecidableEq Route] in
/-- **An event of the FSM.** A state in which connections are opened is left after they are given
up, and in the other states there are none. -/
theorem wp_iuRncDispatch (h : Settled sccp s) {ev : IuRncEvent} (hev : ev.opens = false) :
    wp (iuRncDispatch c rnc ev) (fun _ s' ↦ OnReady s') (fun _ s' ↦ OnReady s') s := by
  unfold iuRncDispatch
  refine wp_bind.mpr (wp_get.mpr ?_)
  cases hr : s.rncs.rnc? rnc with
  | none => exact h.toOnReady
  | some r =>
    dsimp only
    cases hst : r.state with
    | waitRxReset =>
      have hv : Vacant rnc s := h.vacant hr (by simp [hst])
      cases ev with
      | msgUpCoInitial connId ue msg => exact absurd hev (by simp [IuRncEvent.opens])
      | msgUpCo ue msg =>
        have hlegacy : Within (Keeps OnReady) (do
            iuRncStateChg rnc .ready
            onSgsn (sgsnRanapIuHandleCo c ue msg) : IuM Addr Unit) := inferInstance
        exact hlegacy.keeps h.toOnReady
      | rxReset => exact wp_iuRncRxReset h
      | available => exact hv.wp (m := iuRncReset rnc)
      | unavailable => exact hv.wp (m := iuRncDiscardAllUeCtx rnc)
      | rxResetAck | timeout => exact h.toOnReady
    | waitRxResetAck =>
      have hv : Vacant rnc s := h.vacant hr (by simp [hst])
      cases ev with
      | msgUpCoInitial connId ue msg => exact absurd hev (by simp [IuRncEvent.opens])
      | msgUpCo ue msg =>
        have hdrop : Within (Keeps (Vacant rnc)) (do
            onSgsn (ueConnCtxLinkInvalidatedFree s.connIds ue)
            iuRncReset rnc : IuM Addr Unit) := inferInstance
        exact hv.wp
      | rxReset => exact wp_iuRncRxReset h
      | rxResetAck => exact Within.keeps (m := iuRncStateChg rnc .ready) h.toOnReady
      | available => exact hv.wp (m := iuRncReset rnc)
      | unavailable | timeout => exact hv.wp (m := iuRncStateChg rnc .waitRxReset)
    | ready =>
      cases ev with
      | msgUpCoInitial connId ue msg => exact absurd hev (by simp [IuRncEvent.opens])
      | msgUpCo ue msg =>
        exact Within.keeps (m := onSgsn (sgsnRanapIuHandleCo c ue msg)) h.toOnReady
      | rxReset => exact wp_iuRncRxReset h
      | unavailable =>
        refine wp_bind.mpr (wp_mono (wp_discardAll h) (fun _ _ h ↦ ?_) fun _ _ h ↦ h)
        exact h.wp (m := iuRncStateChg rnc .waitRxReset)
      | available | rxResetAck | timeout => exact h.toOnReady

/-! ## What opens a connection -/

omit [DecidableEq Route] in
theorem mem_opened_alloc {p : ConnId × Option UeId} (h : p ∈ s.opened) (hne : p.1 ≠ connId) :
    p ∈ s.opened.map fun p ↦ if p.1 = connId then (connId, some ue) else p :=
  List.mem_map.mpr ⟨p, h, if_neg hne⟩

/-- The gateway has nothing for a connection that SCCP has. -/
structure Unused (connId : ConnId) (s : IuSgsn Addr) : Prop where
  opened : (connId, none) ∈ s.opened
  addrs : ∀ p ∈ s.sccpAddrs, p.1 ≠ connId

omit [DecidableEq Route] in
/-- A connection of an RNC that is ready, for a connection of SCCP that the gateway has nothing
for. -/
theorem Settled.alloc (h : Settled sccp s) (hready : s.rncs.Ready rnc) (hopen : Unused connId s)
    (hue : s.sgsn.ues ue = none) (ra : RaId) :
    Settled sccp { s with
      sgsn := { s.sgsn.setUe ue ⟨rnc, ra, false, true, false, false⟩ with
        ueList := ue :: s.sgsn.ueList }
      connIds := Function.update s.connIds ue connId
      opened := s.opened.map fun p ↦ if p.1 = connId then (connId, some ue) else p } := by
  have hfst : (s.opened.map fun p ↦ if p.1 = connId then (connId, some ue) else p).map (·.1) =
      s.opened.map (·.1) := by
    rw [List.map_map]
    refine List.map_congr_left fun p _ ↦ ?_
    by_cases hp : p.1 = connId
    · simp [hp]
    · simp [hp]
  refine ⟨⟨⟨?_, ?_, ?_⟩, ?_⟩, ⟨?_, ?_, ?_, ?_⟩, h.sound⟩
  · exact List.nodup_cons.mpr ⟨fun hmem ↦ (h.listed.mem_iff ue).mp hmem hue, h.listed.nodup⟩
  · intro u
    by_cases hu : u = ue
    · simp [Sgsn.setUe, hu]
    · simp [Sgsn.setUe, hu, h.listed.mem_iff u]
  · intro u conn hconn
    by_cases hu : u = ue
    · obtain rfl : _ = conn := by simpa [Sgsn.setUe, hu] using hconn
      exact fun hn ↦ absurd hn (by simp)
    · exact h.listed.released u conn (by simpa [Sgsn.setUe, hu] using hconn)
  · intro u conn hconn
    by_cases hu : u = ue
    · obtain rfl : _ = conn := by simpa [Sgsn.setUe, hu] using hconn
      exact hready
    · exact h.ready u conn (by simpa [Sgsn.setUe, hu] using hconn)
  · exact hfst ▸ h.ids
  · intro u hconn
    dsimp only
    by_cases hu : u = ue
    · rw [hu, Function.update_self]
      exact List.mem_map.mpr ⟨(connId, none), hopen.opened, if_pos rfl⟩
    · have hmem := h.ues u (by simpa [Sgsn.setUe, hu] using hconn)
      rw [Function.update_of_ne hu]
      refine mem_opened_alloc hmem fun heq ↦ ?_
      -- the entry of the new connection has nothing yet, so it is not the one of this connection
      have hid : s.connIds u = connId := heq
      rw [hid] at hmem
      exact absurd (h.eq_of_id hopen.opened hmem) (by simp)
  · exact fun p hp ↦ mem_opened_alloc (h.addrs p hp) (hopen.addrs p hp)
  · exact h.addrIds

theorem wp_handleCoInitial (h : Settled sccp s) (hready : s.rncs.Ready rnc)
    (hopen : Unused connId s) :
    wp (sgsnRanapIuHandleCoInitial c rnc connId ue msg) (fun _ s' ↦ Settled sccp s')
      (fun _ s' ↦ OnReady s') s := by
  unfold sgsnRanapIuHandleCoInitial
  split
  · rename_i rncId rai nas
    have hseen : Settled sccp { s with rncs := s.rncs.updateRaiSeen rnc rai } :=
      ⟨⟨h.listed, fun ue conn hue ↦ (h.ready ue conn hue).updateRaiSeen rai⟩,
        ⟨h.ids, h.ues, h.addrs, h.addrIds⟩, h.sound.updateRaiSeen rnc rai⟩
    refine wp_bind.mpr ((wp_modify _).mpr (wp_bind.mpr (wp_get.mpr ?_)))
    dsimp only
    split
    · exact hseen
    · rename_i hue
      have halloc :=
        hseen.alloc (hready.updateRaiSeen rai) ⟨hopen.opened, hopen.addrs⟩ hue (raIdOf rai)
      refine wp_bind.mpr ((wp_modify _).mpr (wp_onSgsn.mpr (wp_bind.mpr ((wp_modify _).mpr ?_))))
      refine wp_mono (Within.wp (R := Fewer) _) (fun _ t hf ↦ ?_) fun _ t hf ↦ ?_
      · exact halloc.noNewUe ⟨hf, rfl, rfl, rfl, id⟩ (halloc.toOnReady.fewer hf)
      · exact halloc.toOnReady.fewer hf
  · exact h

/-- Every event of the FSM, for a connection of SCCP that the gateway has nothing for. -/
theorem wp_initial (h : Settled sccp s) (hopen : Unused connId s) :
    wp (iuRncDispatch c rnc (.msgUpCoInitial connId ue msg)) (fun _ s' ↦ Settled sccp s')
      (fun _ s' ↦ OnReady s') s := by
  unfold iuRncDispatch
  refine wp_bind.mpr (wp_get.mpr ?_)
  cases hr : s.rncs.rnc? rnc with
  | none => exact h
  | some r =>
    dsimp only
    cases hst : r.state with
    | waitRxReset =>
      have hnow : Settled sccp { s with rncs := s.rncs.stateChg rnc .ready } :=
        ⟨⟨h.listed, fun u conn hu ↦ (h.ready u conn hu).stateChg_ready⟩,
          ⟨h.ids, h.ues, h.addrs, h.addrIds⟩, h.sound.stateChg rnc .ready⟩
      refine wp_bind.mpr ((wp_modify _).mpr ?_)
      exact wp_handleCoInitial hnow (RncList.ready_stateChg hr) ⟨hopen.opened, hopen.addrs⟩
    | waitRxResetAck =>
      have hv : Vacant rnc s := h.vacant hr (by simp [hst])
      exact wp_mono (h.wp_noNewUe (m := iuRncReset rnc) inferInstance hv.wp) (fun _ _ h ↦ h.1)
        fun _ _ h ↦ h
    | ready => exact wp_handleCoInitial h ⟨r, hr, hst⟩ hopen

/-! ## Indications of SCCP -/

/-- A program that keeps what holds between two events. -/
def Safe (sccp : SccpAddrs Addr Route) (m : IuM Addr Unit) (s : IuSgsn Addr) : Prop :=
  wp m (fun _ s' ↦ Settled sccp s') (fun _ s' ↦ OnReady s') s

theorem safe_iuRncDispatch (h : Settled sccp s) {ev : IuRncEvent} (hev : ev.opens = false) :
    Safe sccp (iuRncDispatch c rnc ev) s :=
  wp_mono (h.wp_noNewUe (within_iuRncDispatch hev) (wp_iuRncDispatch h hev)) (fun _ _ h ↦ h.1)
    fun _ _ h ↦ h

theorem safe_dispatchByAddr (h : Settled sccp s) {ev : IuRncEvent} (hev : ev.opens = false) :
    Safe sccp (dispatchByAddr sccp c addr ev) s := by
  unfold dispatchByAddr
  refine wp_bind.mpr (wp_get.mpr ?_)
  cases s.rncs.findByAddr sccp addr with
  | none => exact h
  | some r => exact safe_iuRncDispatch h hev

/-- An RNC that becomes known has no connection. -/
theorem Settled.findOrCreate (h : Settled sccp s) (haddr : s.rncs.findByAddr sccp addr = none)
    (rncId : RncId) :
    Settled sccp { s with rncs := (s.rncs.findOrCreate sccp rncId addr).1 } :=
  ⟨⟨h.listed, fun ue conn hue ↦ (h.ready ue conn hue).findOrCreate h.sound haddr rncId⟩,
    ⟨h.ids, h.ues, h.addrs, h.addrIds⟩, h.sound.findOrCreate rncId haddr⟩

theorem safe_ranapHandleClResetReq (h : Settled sccp s) (rncId : Option RncId) :
    Safe sccp (ranapHandleClResetReq sccp c addr rncId) s := by
  unfold ranapHandleClResetReq
  refine wp_bind.mpr (wp_get.mpr ?_)
  cases hf : s.rncs.findByAddr sccp addr with
  | some r => exact safe_iuRncDispatch h rfl
  | none =>
    unfold dispatchById
    refine wp_bind.mpr (wp_get.mpr (wp_bind.mpr ((wp_set _).mpr ?_)))
    exact safe_iuRncDispatch (h.findOrCreate hf _) rfl

theorem safe_rxCoInitialMsg (h : Settled sccp s) (hopen : Unused connId s) (data : RanapPdu) :
    Safe sccp (sgsnRanapIuRxCoInitialMsg sccp c addr connId ue data) s := by
  unfold sgsnRanapIuRxCoInitialMsg
  split
  · refine wp_bind.mpr (wp_get.mpr ?_)
    cases hf : s.rncs.findByAddr sccp addr with
    | some r => exact wp_initial h hopen
    | none =>
      split
      · rename_i heq
        exact absurd heq (by simp)
      · unfold dispatchById
        refine wp_bind.mpr (wp_get.mpr (wp_bind.mpr ((wp_set _).mpr ?_)))
        exact wp_initial (h.findOrCreate hf _) ⟨hopen.opened, hopen.addrs⟩
      · exact h
  · exact h

theorem within_rxCoMsg (data : RanapPdu) :
    Within (NoNewUe sccp) (sgsnRanapIuRxCoMsg c ue data) := by
  unfold sgsnRanapIuRxCoMsg
  split
  · exact .bind fun conn ↦ within_iuRncDispatch rfl
  · infer_instance

theorem wp_rxCoMsg (h : Settled sccp s) (data : RanapPdu) :
    wp (sgsnRanapIuRxCoMsg c ue data) (fun _ s' ↦ Settled sccp s' ∧ NoNewUe sccp s s')
      (fun _ s' ↦ OnReady s') s := by
  refine h.wp_noNewUe (within_rxCoMsg data) ?_
  unfold sgsnRanapIuRxCoMsg
  split
  · refine wp_bind.mpr (wp_onSgsn.mpr ?_)
    cases hue : s.sgsn.ues ue with
    | none =>
      unfold getUe
      rw [wp_bind, wp_get, hue]
      exact h.toOnReady
    | some conn => exact (wp_getUe hue).mpr (wp_iuRncDispatch h rfl)
  · exact h.toOnReady

/-! ### Connections that come and go -/

omit [DecidableEq Route] in
/-- SCCP has a new connection, with an id that no other one has. -/
theorem Settled.connect (h : Settled sccp s) (hnew : connId ∉ s.opened.map (·.1)) :
    Settled sccp { s with opened := (connId, none) :: s.opened } :=
  ⟨⟨h.listed, h.ready⟩, ⟨List.nodup_cons.mpr ⟨hnew, h.ids⟩, fun ue hue ↦ .tail _ (h.ues ue hue),
    fun p hp ↦ .tail _ (h.addrs p hp), h.addrIds⟩, h.sound⟩

theorem safe_nConnectInd (h : Settled sccp s) (hnew : connId ∉ s.opened.map (·.1))
    (data : RanapPdu) : Safe sccp (nConnectInd sccp c connId addr ue data) s := by
  have hconn := h.connect hnew
  -- an address is kept only for a connection that SCCP has
  have haddrs : ∀ p ∈ s.sccpAddrs, p.1 ≠ connId := fun p hp heq ↦
    hnew (List.mem_map.mpr ⟨(p.1, none), h.addrs p hp, heq⟩)
  unfold nConnectInd
  refine wp_bind.mpr ((wp_modify _).mpr ?_)
  split
  · refine (wp_modify _).mpr ⟨⟨h.listed, h.ready⟩, ⟨hconn.ids, hconn.ues, ?_, ?_⟩, h.sound⟩
    · exact List.forall_mem_cons.mpr ⟨.head _, hconn.addrs⟩
    · refine List.nodup_cons.mpr ⟨fun hmem ↦ ?_, h.addrIds⟩
      obtain ⟨p, hp, heq⟩ := List.mem_map.mp hmem
      exact haddrs p hp heq
  · exact safe_rxCoInitialMsg hconn ⟨.head _, haddrs⟩ data

omit [DecidableEq Route] in
/-- The address of a connection is forgotten. -/
theorem Settled.addrDel (h : Settled sccp s) (connId : ConnId) :
    Settled sccp { s with sccpAddrs := s.sccpAddrs.eraseP (·.1 = connId) } :=
  ⟨⟨h.listed, h.ready⟩, ⟨h.ids, h.ues, fun p hp ↦ h.addrs p (List.mem_of_mem_eraseP hp),
    h.addrIds.sublist ((List.eraseP_sublist ..).map _)⟩, h.sound⟩

omit [DecidableEq Route] in
/-- An id that is taken out of a list that has it once is not there any more. -/
theorem ne_of_mem_eraseP {l : List (ConnId × Addr)} (hnodup : (l.map (·.1)).Nodup) :
    ∀ p ∈ l.eraseP (·.1 = connId), p.1 ≠ connId := by
  induction l with
  | nil => exact fun p hp ↦ absurd hp List.not_mem_nil
  | cons a l ih =>
    obtain ⟨hnew, hnodup⟩ := List.nodup_cons.mp hnodup
    intro p hp heq
    by_cases ha : a.1 = connId
    · rw [List.eraseP_cons_of_pos (by simpa using ha)] at hp
      exact hnew (List.mem_map.mpr ⟨p, hp, heq.trans ha.symm⟩)
    · rw [List.eraseP_cons_of_neg (by simpa using ha)] at hp
      rcases List.mem_cons.mp hp with rfl | hp
      · exact ha heq
      · exact ih hnodup p hp heq

theorem safe_nDataInd (h : Settled sccp s) (data : RanapPdu) :
    Safe sccp (nDataInd sccp c connId ue data) s := by
  unfold nDataInd
  refine wp_bind.mpr (wp_get.mpr ?_)
  split
  · exact wp_mono (wp_rxCoMsg h data) (fun _ _ h ↦ h.1) fun _ _ h ↦ h
  · split
    · exact h
    · rename_i id addr haddr
      obtain rfl : id = connId := by simpa using List.find?_some haddr
      refine wp_bind.mpr ((wp_modify _).mpr ?_)
      refine safe_rxCoInitialMsg (h.addrDel id) ⟨?_, ne_of_mem_eraseP h.addrIds⟩ data
      exact h.addrs _ (List.mem_of_find?_eq_some haddr)

omit [DecidableEq Route] in
/-- The gateway has nothing for an id. -/
def Gone (connId : ConnId) (s : IuSgsn Addr) : Prop :=
  (∀ ue ∈ s.sgsn.ueList, s.connIds ue ≠ connId) ∧ ∀ p ∈ s.sccpAddrs, p.1 ≠ connId

theorem wp_nDisconnectInd (h : Settled sccp s) (data : RanapPdu) :
    wp (nDisconnectInd c connId data) (fun _ s' ↦ Settled sccp s' ∧ Gone connId s')
      (fun _ s' ↦ OnReady s') s := by
  unfold nDisconnectInd
  refine wp_bind.mpr ((wp_modify _).mpr (wp_bind.mpr (wp_get.mpr ?_)))
  have hdel := h.addrDel connId
  have haddrs : ∀ p ∈ s.sccpAddrs.eraseP (·.1 = connId), p.1 ≠ connId :=
    ne_of_mem_eraseP h.addrIds
  split
  · rename_i hno
    exact ⟨hdel, ueConnCtxFind_none hno, haddrs⟩
  · refine wp_bind.mpr (wp_mono (wp_rxCoMsg hdel data) (fun _ t ht ↦ ?_) fun _ _ h ↦ h)
    have haddrs' : ∀ p ∈ t.sccpAddrs, p.1 ≠ connId := by
      rw [ht.2.sccpAddrs]
      exact haddrs
    refine wp_bind.mpr (wp_get.mpr ?_)
    split
    · rename_i hno
      exact ⟨ht.1, ueConnCtxFind_none hno, haddrs'⟩
    · rename_i u hu
      obtain ⟨hmem, hid⟩ := ueConnCtxFind_some hu
      have hfree : wp (onSgsn (ueConnCtxLinkInvalidatedFree t.connIds u))
          (fun _ t' ↦ t'.sgsn.ues u = none) (fun _ _ ↦ True) t :=
        wp_onSgsn.mpr (frees_linkInvalidatedFree ht.1.listed ht.1.uniqueIds)
      have hsettled := ht.1.wp_noNewUe (m := onSgsn (ueConnCtxLinkInvalidatedFree t.connIds u))
        inferInstance (Within.keeps ht.1.toOnReady)
      refine wp_mono (wp_and hsettled hfree) (fun _ t' h' ↦ ?_) fun _ _ h ↦ h.1
      obtain ⟨⟨hset, hno⟩, hnone⟩ := h'
      refine ⟨hset, fun u' hu' heq ↦ ?_, hno.sccpAddrs ▸ haddrs'⟩
      -- the connection with the id is the one that was freed
      have hthere : t'.sgsn.ues u' ≠ none := (hset.listed.mem_iff u').mp hu'
      obtain rfl : u' = u := ht.1.uniqueIds u' u (fun hgone ↦ hthere (hno.fewer.none hgone))
        ((ht.1.listed.mem_iff u).mp hmem) (by rw [← hno.connIds, heq, hno.connIds, hid])
      exact hthere hnone

/-! ### The other layers -/

/-- An event that does not come over the Iu interface opens no connection. -/
theorem within_handle {e : Event} (he : fromIu e = false) : Within Fewer (handle c e) := by
  cases e with
  | iuInitial | iuData | securityModeComplete | rabAssign | iuRelease | linkInvalidated | rncLoss =>
    exact absurd he (by simp [fromIu])
  | gb | llcFrame | sndcpPdu | gsup | suspend | resume =>
    unfold handle
    infer_instance
  | mmTimer | attachTimer | readyTimer | pdpTimer | gtp | cancel | detach =>
    unfold handle
    infer_instance
  | llmeTimeout llme =>
    unfold handle
    refine .bind fun s ↦ ?_
    split <;> infer_instance
  | dnsAnswer id answer =>
    unfold handle whenMm
    refine .bind fun s ↦ ?_
    split
    · dsimp only
      split <;> infer_instance
    · infer_instance

omit [DecidableEq Route] in
/-- SCCP does not have a connection any more that the gateway has nothing for. -/
theorem Settled.close (h : Settled sccp s) {ended : Option ConnId}
    (hended : ∀ connId, ended = some connId → Gone connId s) : Settled sccp (s.close ended) := by
  refine ⟨⟨h.listed, h.ready⟩, ⟨?_, ?_, ?_, h.addrIds⟩, h.sound⟩
  · exact h.ids.sublist (List.filter_sublist.map _)
  · intro ue hue
    have hmem : ue ∈ s.sgsn.ueList := (h.listed.mem_iff ue).mpr hue
    refine List.mem_filter.mpr ⟨h.ues ue hue, ?_⟩
    have hne : ended ≠ some (s.connIds ue) := fun heq ↦ (hended _ heq).1 ue hmem rfl
    simpa [IuSgsn.close] using And.intro hne hmem
  · intro p hp
    refine List.mem_filter.mpr ⟨h.addrs p hp, ?_⟩
    have hne : ended ≠ some p.1 := fun heq ↦ (hended _ heq).2 p hp rfl
    simpa using hne

/-! ## Runs -/

/-- A new connection of SCCP has an id that no open connection has. -/
def SccpFresh (n : IuNode Addr) (e : IuSgsnEvent Addr × Env) : Prop :=
  match e.1 with
  | .connect connId .. => connId ∉ n.iu.opened.map (·.1)
  | _ => True

theorem opens_of_pcState {sp : SpStatus} {rem : RemSccpStatus} {ev : IuRncEvent}
    (h : pcState sp rem = some ev) : ev.opens = false := by
  unfold pcState at h
  extract_lets lost at h
  split at h
  · obtain rfl := Option.some.inj h
    rfl
  · split at h
    · obtain rfl := Option.some.inj h
      rfl
    · exact absurd h (by simp)

theorem wp_iuHandle (h : Settled sccp s) {e : IuSgsnEvent Addr}
    (hfresh : ∀ connId addr ue data, e = .connect connId addr ue data →
      connId ∉ s.opened.map (·.1)) :
    wp (iuHandle sccp c e)
      (fun _ s' ↦ Settled sccp s' ∧ ∀ connId, e.ended = some connId → Gone connId s')
      (fun _ s' ↦ OnReady s') s := by
  have hopen : ∀ {m : IuM Addr Unit}, e.ended = none → Safe sccp m s →
      wp m (fun _ s' ↦ Settled sccp s' ∧ ∀ connId, e.ended = some connId → Gone connId s')
        (fun _ s' ↦ OnReady s') s := by
    intro m hnone hm
    exact wp_mono hm (fun _ _ h ↦ ⟨h, fun _ heq ↦ absurd (hnone.symm.trans heq) (by simp)⟩)
      fun _ _ h ↦ h
  have hsgsn : ∀ {m : SgsnM Unit}, Within Fewer m → Safe sccp (onSgsn m) s := by
    intro m hm
    exact wp_mono (h.wp_noNewUe (m := onSgsn m) inferInstance (Within.keeps h.toOnReady))
      (fun _ _ h ↦ h.1) fun _ _ h ↦ h
  cases e with
  | connect connId addr ue data =>
    exact hopen rfl (safe_nConnectInd h (hfresh connId addr ue data rfl) data)
  | data connId ue data => exact hopen rfl (safe_nDataInd h data)
  | disconnect connId data =>
    refine wp_mono (wp_nDisconnectInd h data) (fun _ s' h' ↦ ⟨h'.1, fun id heq ↦ ?_⟩) fun _ _ h ↦ h
    obtain rfl : connId = id := Option.some.inj heq
    exact h'.2
  | reset addr rncId => exact hopen rfl (safe_ranapHandleClResetReq h rncId)
  | resetAck addr => exact hopen rfl (safe_dispatchByAddr h rfl)
  | notice addr congestion =>
    cases congestion with
    | true => exact hopen (m := pure ()) rfl h
    | false => exact hopen rfl (safe_dispatchByAddr h rfl)
  | pcState addr sp rem =>
    refine hopen rfl ?_
    simp only [iuHandle]
    split
    · rename_i ev hev
      exact safe_dispatchByAddr h (opens_of_pcState hev)
    · exact h
  | rncTimeout rnc => exact hopen rfl (safe_iuRncDispatch h rfl)
  | releaseTimeout ue => exact hopen rfl (hsgsn inferInstance)
  | mm e =>
    refine hopen rfl ?_
    simp only [iuHandle]
    cases he : fromIu e with
    | true => exact h
    | false => exact hsgsn (within_handle he)

/-- What holds of a gateway after every event. One that has faulted takes no event any more. -/
structure NodeSettled (sccp : SccpAddrs Addr Route) (n : IuNode Addr) : Prop where
  onReady : OnReady n.iu
  settled : n.fault = none → Settled sccp n.iu

omit [DecidableEq Route] in
theorem NodeSettled.enter {n : IuNode Addr} (h : NodeSettled sccp n) (hf : n.fault = none)
    (env : Env) : Settled sccp { n.iu with sgsn := n.iu.sgsn.enter env } :=
  have hs := h.settled hf
  ⟨hs.toOnReady.fewer (.of_eq rfl rfl), ⟨hs.ids, hs.ues, hs.addrs, hs.addrIds⟩, hs.sound⟩

theorem NodeSettled.step {n : IuNode Addr} {e : IuSgsnEvent Addr × Env} (h : NodeSettled sccp n)
    (hfresh : SccpFresh n e) : NodeSettled sccp (n.step sccp c e) := by
  unfold IuNode.step
  cases hf : n.fault with
  | some fault => exact h
  | none =>
    have henter := h.enter hf e.2
    have hhandle := wp_iuHandle (c := c) henter (e := e.1) fun connId addr ue data heq ↦ by
      simpa [SccpFresh, heq] using hfresh
    unfold wp at hhandle
    revert hhandle
    cases iuHandle sccp c e.1 { n.iu with sgsn := n.iu.sgsn.enter e.2 } with
    | ok _ s => exact fun h' ↦ ⟨(h'.1.close h'.2).toOnReady, fun _ ↦ h'.1.close h'.2⟩
    | error fault s => exact fun h' ↦ ⟨h', fun hno ↦ absurd hno (by simp)⟩

omit [DecidableEq Route] in
theorem nodeSettled_start (cfg : SgsnConfig) (hash : Hashing) :
    NodeSettled sccp (IuNode.start cfg hash) := by
  have hnone : ∀ ue, (IuNode.start cfg hash : IuNode Addr).iu.sgsn.ues ue = none := fun _ ↦ rfl
  have hready : OnReady (IuNode.start cfg hash : IuNode Addr).iu := by
    refine ⟨⟨List.nodup_nil, fun ue ↦ ?_, fun ue conn hue ↦ ?_⟩, fun ue conn hue ↦ ?_⟩
    · exact ⟨fun hmem ↦ absurd hmem List.not_mem_nil, fun hne ↦ absurd (hnone ue) hne⟩
    · exact absurd (hue.symm.trans (hnone ue)) (by simp)
    · exact absurd (hue.symm.trans (hnone ue)) (by simp)
  refine ⟨hready, fun _ ↦
    ⟨hready, ⟨List.nodup_nil, fun ue hue ↦ ?_, ?_, List.nodup_nil⟩, sound_start⟩⟩
  · exact absurd (hnone ue) hue
  · exact fun p hp ↦ absurd hp List.not_mem_nil

theorem nodeSettled_run (cfg : SgsnConfig) (hash : Hashing) {depth : ℕ}
    {es : List (IuSgsnEvent Addr × Env)}
    (hes : (iuNode sccp depth).Meets SccpFresh (IuNode.start cfg hash) es) :
    NodeSettled sccp ((iuNode sccp depth).run (IuNode.start cfg hash) es) :=
  Machine.invariant_run (M := iuNode sccp depth) SccpFresh (NodeSettled sccp)
    (fun _ _ h hfresh ↦ h.step hfresh) (nodeSettled_start cfg hash) hes

end Events

end Invariant

/-- **Connections of ready RNCs.** In every run in which SCCP gives a new connection an id that no
open one has, every connection on the list is one of an RNC that is known and whose FSM is in the
state `IU_RNC_ST_READY`, after every event. -/
theorem ready_of_run {Addr Route : Type} [DecidableEq Route] (sccp : SccpAddrs Addr Route)
    (cfg : SgsnConfig) (hash : Hashing) (depth : ℕ) (es : List (IuSgsnEvent Addr × Env))
    (hes : (iuNode sccp depth).Meets SccpFresh (IuNode.start cfg hash) es) :
    let iu := ((iuNode sccp depth).run (IuNode.start cfg hash) es).iu
    ∀ ue ∈ iu.sgsn.ueList, ∃ conn, iu.sgsn.ues ue = some conn ∧ iu.rncs.Ready conn.rnc := by
  have hrun := nodeSettled_run cfg hash hes
  intro iu ue hue
  have hthere := (hrun.onReady.listed.mem_iff ue).mp hue
  cases hconn : iu.sgsn.ues ue with
  | none => exact absurd hconn hthere
  | some conn => exact ⟨conn, rfl, hrun.onReady.ready ue conn hconn⟩

/-- A gateway that takes every mobile station. -/
def openSgsn : SgsnConfig where
  authPolicy := .policyOpen
  requireAuthentication := false
  requireUpdateLocation := false
  imsiAcl := []
  geaEncryptionMask := 1
  dynamicLookup := false

/-- An RNC resets itself, and two mobile stations attach there. -/
def attachRun : List (IuSgsnEvent (BitVec 16) × Env) :=
  let rai : RoutingAreaId := ⟨⟨⟨262, 42, false⟩, 1⟩, 1⟩
  let attach (imsi : Digits) : RanapPdu :=
    .co (.initialUe (some ⟨⟨262, 42, false⟩, 7⟩)
      (some (rai, .gmm (.attachReq ⟨[], [], some (.imsi imsi), 0⟩))))
  [(.reset 1 (some ⟨⟨262, 42, false⟩, 7⟩), {}), (.connect 5 1 0 (attach [0, 0, 1]), {}),
    (.connect 6 1 1 (attach [0, 0, 2]), {})]

theorem ready_of_attachRun :
    let iu := ((iuNode pointCodes 4).run (IuNode.start openSgsn ⟨fun _ ↦ 0, fun _ ↦ 0, fun _ ↦ 0⟩)
      attachRun).iu
    1 ∈ iu.sgsn.ueList ∧ ∃ conn, iu.sgsn.ues 1 = some conn ∧ iu.rncs.Ready conn.rnc := by
  have hmem : 1 ∈ ((iuNode pointCodes 4).run
      (IuNode.start openSgsn ⟨fun _ ↦ 0, fun _ ↦ 0, fun _ ↦ 0⟩) attachRun).iu.sgsn.ueList := by
    decide +kernel
  refine ⟨hmem, ready_of_run pointCodes openSgsn _ 4 attachRun ⟨trivial, ?_, ?_, trivial⟩ 1 hmem⟩
  · dsimp only [SccpFresh]
    decide +kernel
  · dsimp only [SccpFresh]
    decide +kernel

end OsmoSgsn.Iu
