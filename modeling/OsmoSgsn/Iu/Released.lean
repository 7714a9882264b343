import OsmoSgsn.Iu.Ready

/-!
# Connections that are being released

Once the release of a connection has begun, the upper layer is not told of it any more, and the
connection is to be freed when the release is over. What ends it is Iu Release Complete, the end of
the connection of SCCP, or the time limit, but the first and the last of these only tell the upper
layer. So it is the end of the connection of SCCP alone that frees it, and as long as that does not
come, it stays on the list.
-/

namespace OsmoSgsn.Iu

open EStateM OsmoSgsn.Ra OsmoSgsn.Gmm

variable {Addr Route : Type} [DecidableEq Route] {sccp : SccpAddrs Addr Route} {c : Calls}
  {s s' : IuSgsn Addr} {n : IuNode Addr} {ue : UeId} {conn : UeConn} {connId : ConnId}

/-! ## The three ends -/

/-- The release of a connection has begun with `sgsn_ranap_iu_tx_release_free`. -/
def IuSgsn.Releasing (s : IuSgsn Addr) (ue : UeId) : Prop :=
  ∃ conn, s.sgsn.ues ue = some conn ∧ conn.notification = false

/-- A connection is freed, and not on the list. -/
def IuSgsn.Reclaimed (s : IuSgsn Addr) (ue : UeId) : Prop :=
  s.sgsn.ues ue = none ∧ ue ∉ s.sgsn.ueList

/-- What ends the release of a connection. -/
inductive IuSgsnEvent.Ends (connId : ConnId) (ue : UeId) : IuSgsnEvent Addr → Prop
  | releaseComplete (new : UeId) : Ends connId ue (.data connId new (.co .iuReleaseComplete))
  | disconnect (data : RanapPdu) : Ends connId ue (.disconnect connId data)
  | timeout : Ends connId ue (.releaseTimeout ue)

/-- An event brings a NAS message to mobility management. -/
def IuSgsnEvent.BringsNas : IuSgsnEvent Addr → Prop
  | .disconnect _ (.co (.directTransfer _)) => True
  | _ => False

/-- The first of some events frees a connection, and the others do nothing to it any more. To free
it again would be a fault. A NAS message that the first one brings is handled before, and that is
mobility management's. -/
structure FreedOnce (M : Machine (IuNode Addr) (IuSgsnEvent Addr × Env) Empty) (n : IuNode Addr)
    (ue : UeId) (e : IuSgsnEvent Addr × Env) (es : List (IuSgsnEvent Addr × Env)) : Prop where
  handled : ¬ e.1.BringsNas → (M.run n [e]).fault = none
  freed : (M.run n [e]).fault = none → ∀ k, (M.run n (e :: es.take k)).fault = none ∧
    (M.run n (e :: es.take k)).iu.Reclaimed ue

/-! ## Nothing is said -/

/-- The upper layer is not told. -/
theorem wp_globalIuEvent_quiet {handler : UeId → SgsnM Unit} {t : Sgsn} {Q : Unit → Sgsn → Prop}
    {E : Fault → Sgsn → Prop} (hue : ∀ conn, t.ues ue = some conn → conn.notification = false)
    (hQ : Q () t) : wp (globalIuEvent ue handler) Q E t := by
  unfold globalIuEvent
  refine wp_bind.mpr (wp_get.mpr ?_)
  cases hconn : t.ues ue with
  | none => exact hQ
  | some conn =>
    simp only [hue conn hconn]
    exact hQ

theorem wp_iuUeTx {t : Sgsn} (hue : t.ues ue = some conn) {E : Fault → Sgsn → Prop} :
    wp (iuUeTx ue) (fun _ t' ↦ t'.ues = t.ues) E t := by
  unfold iuUeTx txAnswer
  refine wp_bind.mpr ((wp_getUe hue).mpr (wp_bind.mpr (wp_get.mpr ?_)))
  split
  · exact rfl
  · exact wp_bind.mpr ((wp_set _).mpr rfl)

/-- Nothing that comes over a connection that is being released changes the connections, but for a
NAS message. -/
theorem wp_handleCo_quiet {t : Sgsn} (hue : t.ues ue = some conn)
    (hquiet : conn.notification = false) {msg : RanapCo} (hmsg : ∀ nas, msg ≠ .directTransfer nas)
    {E : Fault → Sgsn → Prop} :
    wp (sgsnRanapIuHandleCo c ue msg) (fun _ t' ↦ t'.ues = t.ues) E t := by
  have hsilent : ∀ conn', t.ues ue = some conn' → conn'.notification = false := fun conn' h ↦ by
    rwa [← Option.some.inj (hue.symm.trans h)]
  cases msg with
  | initialUe => exact rfl
  | directTransfer nas => exact absurd rfl (hmsg nas)
  | iuReleaseRequest => exact wp_bind.mpr (wp_mono (wp_iuUeTx hue) (fun _ _ h ↦ h) fun _ _ h ↦ h)
  | securityModeComplete => exact wp_globalIuEvent_quiet hsilent rfl
  | iuReleaseComplete => exact wp_globalIuEvent_quiet hsilent rfl
  | rabAssignmentResponse rab =>
    cases rab with
    | none => exact rfl
    | some rab => exact wp_globalIuEvent_quiet hsilent rfl
  | other => exact rfl

omit [DecidableEq Route] in
/-- A message over a connection of an RNC that is ready goes to RANAP. -/
theorem wp_iuRncDispatch_ready {rnc : RncPtr} {msg : RanapCo} {Q : Unit → IuSgsn Addr → Prop}
    {E : Fault → IuSgsn Addr → Prop} (hready : s.rncs.Ready rnc)
    (h : wp (onSgsn (sgsnRanapIuHandleCo c ue msg)) Q E s) :
    wp (iuRncDispatch c rnc (.msgUpCo ue msg)) Q E s := by
  obtain ⟨r, hr, hstate⟩ := hready
  unfold iuRncDispatch
  refine wp_bind.mpr (wp_get.mpr ?_)
  simp only [hr, hstate]
  exact h

omit [DecidableEq Route] in
theorem wp_rxCoMsg_quiet (h : OnReady s) (hue : s.sgsn.ues ue = some conn)
    (hquiet : conn.notification = false) {data : RanapPdu}
    (hdata : ∀ nas, data ≠ .co (.directTransfer nas)) {E : Fault → IuSgsn Addr → Prop} :
    wp (sgsnRanapIuRxCoMsg c ue data) (fun _ s' ↦ s'.sgsn.ues = s.sgsn.ues) E s := by
  unfold sgsnRanapIuRxCoMsg
  split
  · rename_i msg
    refine wp_bind.mpr (wp_onSgsn.mpr ((wp_getUe hue).mpr ?_))
    refine wp_iuRncDispatch_ready (h.ready ue conn hue) (wp_onSgsn.mpr ?_)
    exact wp_handleCo_quiet hue hquiet fun nas heq ↦ hdata nas (heq ▸ rfl)
  · exact rfl

/-! ## Freed -/

/-- Freeing a connection that is there is no fault. -/
theorem wp_freeUe {t : Sgsn} (hue : t.ues ue = some conn) {E : Fault → Sgsn → Prop} :
    wp (sgsnRanapIuFreeUe ue) (fun _ _ ↦ True) E t := by
  unfold sgsnRanapIuFreeUe
  refine wp_bind.mpr (wp_get.mpr ?_)
  cases hby : sgsnMmCtxByUeCtx t ue with
  | none =>
    refine wp_bind.mpr (wp_bind.mpr ((wp_getUe hue).mpr ?_))
    trivial
  | some owner =>
    obtain ⟨mm, hmm, -⟩ := exists_of_byUeCtx hby
    have hue' : (t.setCtx owner { mm with ueCtx := none }).ues ue = some conn := hue
    refine wp_bind.mpr ((wp_modMm hmm).mpr (wp_bind.mpr ((wp_getUe hue').mpr ?_)))
    trivial

theorem wp_linkInvalidatedFree_quiet {connIds : UeId → ConnId} {t : Sgsn} (hl : t.UesListed)
    (hids : UniqueIds connIds t) (hue : t.ues ue = some conn) (hquiet : conn.notification = false)
    {E : Fault → Sgsn → Prop} :
    wp (ueConnCtxLinkInvalidatedFree connIds ue) (fun _ _ ↦ True) E t := by
  unfold ueConnCtxLinkInvalidatedFree
  refine wp_bind.mpr (wp_globalIuEvent_quiet
    (fun conn' h ↦ by rwa [← Option.some.inj (hue.symm.trans h)]) (wp_bind.mpr (wp_get.mpr ?_)))
  rw [ueConnCtxFind_self hl hids (by simp [hue])]
  refine wp_bind.mpr ((wp_getUe hue).mpr ?_)
  split
  · exact wp_freeUe hue
  · trivial

/-- The end of a connection that is being released is no fault, but for a NAS message. -/
theorem wp_nDisconnectInd_quiet [c.Fewer] (h : Settled sccp s) (hue : s.sgsn.ues ue = some conn)
    (hquiet : conn.notification = false) {data : RanapPdu}
    (hdata : ∀ nas, data ≠ .co (.directTransfer nas)) {E : Fault → IuSgsn Addr → Prop} :
    wp (nDisconnectInd c (s.connIds ue) data) (fun _ _ ↦ True) E s := by
  have hdel := h.addrDel (s.connIds ue)
  unfold nDisconnectInd
  refine wp_bind.mpr ((wp_modify _).mpr (wp_bind.mpr (wp_get.mpr ?_)))
  rw [ueConnCtxFind_self hdel.listed hdel.uniqueIds (by simp [hue])]
  have hmsg := wp_and (wp_rxCoMsg (c := c) hdel data)
    (wp_rxCoMsg_quiet (c := c) (E := fun _ _ ↦ False) hdel.toOnReady hue hquiet hdata)
  refine wp_bind.mpr (wp_mono hmsg (fun _ t ht ↦ ?_) fun _ _ h ↦ h.2.elim)
  obtain ⟨⟨hset, hno⟩, hues⟩ := ht
  have hue' : t.sgsn.ues ue = some conn := (congrFun hues ue).trans hue
  have hids : t.connIds ue = s.connIds ue := congrFun hno.connIds ue
  refine wp_bind.mpr (wp_get.mpr ?_)
  rw [← hids, ueConnCtxFind_self hset.listed hset.uniqueIds (by simp [hue'])]
  exact wp_onSgsn.mpr (wp_linkInvalidatedFree_quiet hset.listed hset.uniqueIds hue' hquiet)

/-- The ids of the connections stay as they are when one ends. -/
theorem wp_nDisconnectInd_connIds [c.Fewer] (h : Settled sccp s) (data : RanapPdu) :
    wp (nDisconnectInd c connId data) (fun _ s' ↦ s'.connIds = s.connIds) (fun _ _ ↦ True) s := by
  unfold nDisconnectInd
  refine wp_bind.mpr ((wp_modify _).mpr (wp_bind.mpr (wp_get.mpr ?_)))
  split
  · exact rfl
  · refine wp_bind.mpr (wp_mono (wp_rxCoMsg (h.addrDel connId) data) (fun _ t ht ↦ ?_)
      fun _ _ _ ↦ trivial)
    refine wp_bind.mpr (wp_get.mpr ?_)
    split
    · exact ht.2.connIds
    · rename_i u hu
      have hno : Within (NoNewUe sccp) (onSgsn (ueConnCtxLinkInvalidatedFree t.connIds u)) :=
        inferInstance
      exact wp_mono (hno.wp t) (fun _ _ h' ↦ h'.connIds.trans ht.2.connIds) fun _ _ _ ↦ trivial

/-- Nothing is there any more for a connection that has ended. -/
structure Over (connId : ConnId) (ue : UeId) (s : IuSgsn Addr) : Prop where
  gone : Gone connId s
  reclaimed : s.Reclaimed ue

/-- The end of a connection of SCCP frees what the gateway has for it. -/
theorem wp_nDisconnectInd_over [c.Fewer] (h : Settled sccp s) (data : RanapPdu) :
    wp (nDisconnectInd c (s.connIds ue) data) (fun _ s' ↦ Over (s.connIds ue) ue s')
      (fun _ _ ↦ True) s := by
  refine wp_mono (wp_and (wp_nDisconnectInd h data) (wp_nDisconnectInd_connIds h data))
    (fun _ s' h' ↦ ?_) fun _ _ _ ↦ trivial
  obtain ⟨⟨hset, hgone⟩, hids⟩ := h'
  have hout : ue ∉ s'.sgsn.ueList := fun hmem ↦ hgone.1 ue hmem (congrFun hids ue)
  exact ⟨hgone, by simpa using mt (hset.listed.mem_iff ue).mpr hout, hout⟩

/-- Another of the three ends finds nothing. -/
theorem wp_iuHandle_over (h : Over connId ue s) {e : IuSgsnEvent Addr} (he : e.Ends connId ue)
    {E : Fault → IuSgsn Addr → Prop} :
    wp (iuHandle sccp c e) (fun _ s' ↦ Over connId ue s') E s := by
  have hfind : ueConnCtxFind s.connIds s.sgsn connId = none :=
    List.find?_eq_none.mpr fun x hx ↦ by simpa using h.gone.1 x hx
  cases he with
  | releaseComplete new =>
    have haddr : s.sccpAddrs.find? (·.1 = connId) = none :=
      List.find?_eq_none.mpr fun p hp ↦ by simpa using h.gone.2 p hp
    simp only [iuHandle, nDataInd]
    refine wp_bind.mpr (wp_get.mpr ?_)
    rw [hfind]
    simp only [haddr]
    exact h
  | disconnect data =>
    simp only [iuHandle, nDisconnectInd]
    refine wp_bind.mpr ((wp_modify _).mpr (wp_bind.mpr (wp_get.mpr ?_)))
    rw [hfind]
    exact ⟨⟨h.gone.1, fun p hp ↦ h.gone.2 p (List.mem_of_mem_eraseP hp)⟩, h.reclaimed⟩
  | timeout =>
    refine wp_onSgsn.mpr (wp_globalIuEvent_quiet (fun conn hconn ↦ ?_) h)
    exact absurd (hconn.symm.trans h.reclaimed.1) (by simp)

/-- Iu Release Complete and the time limit do nothing to a connection that is being released. -/
theorem wp_iuHandle_stays (h : Settled sccp s) (hue : s.sgsn.ues ue = some conn)
    (hquiet : conn.notification = false) {e : IuSgsnEvent Addr} (he : e.Ends (s.connIds ue) ue)
    (hne : ∀ data, e ≠ .disconnect (s.connIds ue) data) {E : Fault → IuSgsn Addr → Prop} :
    wp (iuHandle sccp c e) (fun _ s' ↦ s'.sgsn.ues = s.sgsn.ues) E s := by
  cases he with
  | releaseComplete new =>
    simp only [iuHandle, nDataInd]
    refine wp_bind.mpr (wp_get.mpr ?_)
    rw [ueConnCtxFind_self h.listed h.uniqueIds (by simp [hue])]
    exact wp_rxCoMsg_quiet h.toOnReady hue hquiet (by simp)
  | disconnect data => exact absurd rfl (hne data)
  | timeout =>
    refine wp_onSgsn.mpr (wp_globalIuEvent_quiet (fun conn' h' ↦ ?_) rfl)
    rwa [← Option.some.inj (hue.symm.trans h')]

/-! ## Runs -/

/-- Where the handler of an event gets to is where the step gets to. -/
theorem IuNode.step_of_wp {e : IuSgsnEvent Addr × Env} {Q : IuSgsn Addr → Prop}
    {E : Fault → IuSgsn Addr → Prop} (hf : n.fault = none)
    (h : wp (iuHandle sccp c e.1) (fun _ s' ↦ Q s') E
      { n.iu with sgsn := n.iu.sgsn.enter e.2 }) :
    (∃ fault s', E fault s' ∧ n.step sccp c e = ⟨s', some fault⟩) ∨
      ∃ s', Q s' ∧ n.step sccp c e = ⟨s'.close e.1.ended, none⟩ := by
  unfold wp at h
  rw [IuNode.step, hf]
  cases hres : iuHandle sccp c e.1 { n.iu with sgsn := n.iu.sgsn.enter e.2 } with
  | ok u s' =>
    rw [hres] at h
    exact .inr ⟨s', h, rfl⟩
  | error fault s' =>
    rw [hres] at h
    exact .inl ⟨fault, s', h, rfl⟩

/-- After the end of a connection, the three ends do nothing however often they come. -/
theorem over_run (sccp : SccpAddrs Addr Route) (depth : ℕ)
    {es : List (IuSgsnEvent Addr × Env)} (hf : n.fault = none) (hover : Over connId ue n.iu)
    (hes : ∀ e ∈ es, e.1.Ends connId ue) :
    ((iuNode sccp depth).run n es).fault = none ∧
      Over connId ue ((iuNode sccp depth).run n es).iu := by
  induction es generalizing n with
  | nil => exact ⟨hf, hover⟩
  | cons e es ih =>
    obtain ⟨he, hes⟩ := List.forall_mem_cons.mp hes
    have henter : Over connId ue { n.iu with sgsn := n.iu.sgsn.enter e.2 } :=
      ⟨hover.gone, hover.reclaimed⟩
    have hone : wp (iuHandle sccp (calls depth) e.1) (fun _ s' ↦ Over connId ue s')
        (fun _ _ ↦ False) { n.iu with sgsn := n.iu.sgsn.enter e.2 } := wp_iuHandle_over henter he
    rcases IuNode.step_of_wp hf hone with ⟨_, _, hno, -⟩ | ⟨s', hs', hstep⟩
    · exact hno.elim
    · have hnext : ((iuNode sccp depth).step n e).1 = ⟨s'.close e.1.ended, none⟩ := hstep
      rw [Machine.run_cons, hnext]
      exact ih rfl ⟨hs'.gone, hs'.reclaimed⟩ hes

/-- One of the three ends is a fault only where a NAS message is handled, and unless it is one, the
connection is freed if and only if the connection of SCCP has ended. -/
theorem freedOnce_iff {depth : ℕ} (h : NodeSettled sccp n) (hf : n.fault = none)
    (hue : n.iu.Releasing ue) {e : IuSgsnEvent Addr × Env} {es : List (IuSgsnEvent Addr × Env)}
    (hends : ∀ x ∈ e :: es, x.1.Ends (n.iu.connIds ue) ue) :
    FreedOnce (iuNode sccp depth) n ue e es ↔
      ∃ data, e.1 = .disconnect (n.iu.connIds ue) data := by
  obtain ⟨conn, hconn, hquiet⟩ := hue
  obtain ⟨he, hes⟩ := List.forall_mem_cons.mp hends
  have hs := h.enter hf e.2
  constructor
  · intro hfreed
    by_contra hne
    rcases IuNode.step_of_wp (c := calls depth) hf (wp_iuHandle_stays hs hconn hquiet he
      (fun data heq ↦ hne ⟨data, heq⟩) (E := fun _ _ ↦ False)) with
      ⟨_, _, hno, -⟩ | ⟨s', hs', hstep⟩
    · exact hno
    · -- the connection is still there
      have hnext : (iuNode sccp depth).run n [e] = ⟨s'.close e.1.ended, none⟩ := hstep
      have hgone := (hfreed.freed (by rw [hnext]) 0).2.1
      rw [List.take_zero, hnext] at hgone
      exact absurd (((congrFun hs' ue).trans hconn).symm.trans hgone) (by simp)
  · rintro ⟨data, hdata⟩
    obtain ⟨ev, env⟩ := e
    obtain rfl : ev = .disconnect (n.iu.connIds ue) data := hdata
    refine ⟨fun hnas ↦ ?_, fun hok k ↦ ?_⟩
    · have hdata : ∀ nas, data ≠ .co (.directTransfer nas) := by
        rintro nas rfl
        exact hnas trivial
      have hone : wp (iuHandle sccp (calls depth) (.disconnect (n.iu.connIds ue) data))
          (fun _ _ ↦ True) (fun _ _ ↦ False) { n.iu with sgsn := n.iu.sgsn.enter env } :=
        wp_nDisconnectInd_quiet hs hconn hquiet hdata
      rcases IuNode.step_of_wp (e := (.disconnect (n.iu.connIds ue) data, env)) hf hone with
        ⟨_, _, hno, -⟩ | ⟨s', -, hstep⟩
      · exact hno.elim
      · exact congrArg IuNode.fault hstep
    · have hone : wp (iuHandle sccp (calls depth) (.disconnect (n.iu.connIds ue) data))
          (fun _ s' ↦ Over (n.iu.connIds ue) ue s') (fun _ _ ↦ True)
          { n.iu with sgsn := n.iu.sgsn.enter env } := wp_nDisconnectInd_over hs data
      rcases IuNode.step_of_wp (e := (.disconnect (n.iu.connIds ue) data, env)) hf hone with
        ⟨fault, s', -, hstep⟩ | ⟨s', hover, hstep⟩
      · exact absurd ((congrArg IuNode.fault hstep).symm.trans hok) (by simp)
      · have hnext : ((iuNode sccp depth).step n (.disconnect (n.iu.connIds ue) data, env)).1 =
          ⟨s'.close (some (n.iu.connIds ue)), none⟩ := hstep
        rw [Machine.run_cons, hnext]
        have hlater : ∀ x ∈ es.take k, x.1.Ends (n.iu.connIds ue) ue :=
          fun x hx ↦ hes x (List.mem_of_mem_take hx)
        have hrun := over_run sccp depth (n := ⟨s'.close (some (n.iu.connIds ue)), none⟩) rfl
          ⟨hover.gone, hover.reclaimed⟩ hlater
        exact ⟨hrun.1, hrun.2.reclaimed⟩

/-- **Connections that are being released.** In every run in which SCCP gives a new connection an id
that no open one has: whichever of the three ends comes next for a connection that is being
released, and however often they come after that, the connection is freed, once and by the first of
them, if and only if that is the end of the connection of SCCP. -/
theorem released_iff {Addr Route : Type} [DecidableEq Route] (sccp : SccpAddrs Addr Route)
    (cfg : SgsnConfig) (hash : Hashing) (depth : ℕ) (es : List (IuSgsnEvent Addr × Env))
    (hes : (iuNode sccp depth).Meets SccpFresh (IuNode.start cfg hash) es)
    (hf : ((iuNode sccp depth).run (IuNode.start cfg hash) es).fault = none) (ue : UeId)
    (hue : ((iuNode sccp depth).run (IuNode.start cfg hash) es).iu.Releasing ue)
    (e : IuSgsnEvent Addr × Env) (later : List (IuSgsnEvent Addr × Env))
    (hends : ∀ x ∈ e :: later,
      x.1.Ends (((iuNode sccp depth).run (IuNode.start cfg hash) es).iu.connIds ue) ue) :
    FreedOnce (iuNode sccp depth) ((iuNode sccp depth).run (IuNode.start cfg hash) es) ue e later ↔
      ∃ data, e.1 =
        .disconnect (((iuNode sccp depth).run (IuNode.start cfg hash) es).iu.connIds ue) data :=
  freedOnce_iff (nodeSettled_run cfg hash hes) hf hue hends

/-- A routing area update of a mobile station that is not known is refused, and its connection
released. -/
def refusedRun : List (IuSgsnEvent (BitVec 16) × Env) :=
  let rai : RoutingAreaId := ⟨⟨⟨262, 42, false⟩, 1⟩, 1⟩
  [(.reset 1 (some ⟨⟨262, 42, false⟩, 7⟩), {}),
    (.connect 5 1 0 (.co (.initialUe (some ⟨⟨262, 42, false⟩, 7⟩)
      (some (rai, .gmm (.raUpdReq ⟨none, 0, ⟨[], 0, 0⟩, none, none⟩))))), {})]

/-- The gateway after it. -/
def refused : IuNode (BitVec 16) :=
  (iuNode pointCodes 4).run (IuNode.start openSgsn ⟨fun _ ↦ 0, fun _ ↦ 0, fun _ ↦ 0⟩) refusedRun

/-- The time limit and Iu Release Complete leave the connection where it is. -/
theorem not_freedOnce_refused : refused.fault = none ∧ refused.iu.Releasing 0 ∧
    ¬ FreedOnce (iuNode pointCodes 4) refused 0 (.releaseTimeout 0, {}) [] ∧
    ¬ FreedOnce (iuNode pointCodes 4) refused 0
      (.data (refused.iu.connIds 0) 1 (.co .iuReleaseComplete), {}) [] := by
  have htimeout : ((iuNode pointCodes 4).run refused [(.releaseTimeout 0, {})]).iu.sgsn.ues 0 ≠
      none := by decide +kernel
  have hcomplete : ((iuNode pointCodes 4).run refused
      [(.data (refused.iu.connIds 0) 1 (.co .iuReleaseComplete), {})]).iu.sgsn.ues 0 ≠ none := by
    decide +kernel
  have hreleasing : (refused.iu.sgsn.ues 0).map (·.notification) = some false := by decide +kernel
  obtain ⟨conn, hconn, hquiet⟩ := Option.map_eq_some_iff.mp hreleasing
  refine ⟨by decide +kernel, ⟨conn, hconn, hquiet⟩, fun h ↦ ?_, fun h ↦ ?_⟩
  · exact htimeout (h.freed (h.handled id) 0).2.1
  · exact hcomplete (h.freed (h.handled id) 0).2.1

theorem freedOnce_refused : FreedOnce (iuNode pointCodes 4) refused 0
    (.disconnect (refused.iu.connIds 0) .empty, {})
    [(.releaseTimeout 0, {}), (.disconnect (refused.iu.connIds 0) .empty, {})] := by
  have hreleasing : (refused.iu.sgsn.ues 0).map (·.notification) = some false := by decide +kernel
  refine (released_iff pointCodes openSgsn _ 4 refusedRun ⟨trivial, ?_, trivial⟩ ?_ 0
    (Option.map_eq_some_iff.mp hreleasing) _ _ ?_).mpr ⟨.empty, rfl⟩
  · dsimp only [SccpFresh]
    decide +kernel
  · decide +kernel
  · simp only [List.forall_mem_cons]
    exact ⟨.disconnect _, .timeout, .disconnect _, fun _ h ↦ absurd h List.not_mem_nil⟩

end OsmoSgsn.Iu
