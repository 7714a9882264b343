import OsmoSgsn.Sm.Teardown

/-!
# What a deactivation does

A mobile station deactivates a PDP context with a Deactivate PDP Context Request, with the answer to
one, or with a PDP context status that leaves it out, and the gateway gives up waiting for such an
answer when T3395 has expired for the last time. All of them end in `SessState.deactivate`, and
whether that does anything depends on the state of the context: without a GGSN the context is freed,
and else it has to be in `PDP_STATE_CR_CONF`, which the last expiry of T3395 itself makes it leave.
-/

namespace OsmoSgsn.Sm

open SessState (activeIn t339xMaxRetrans)

variable {s s' : SessState} {p q : PdpPtr} {c c' : PdpCtx} {m : SessMmPtr} {mm : SessMm}
  {takes : Takes}

/-- An event asks for the deactivation of a context. -/
def Deactivates (p : PdpPtr) (c : PdpCtx) : SessEvent → Prop
  | .deactPdpReq m ti _ | .deactPdpAck m ti _ => c.mm = some m ∧ c.ti = ti
  | .ctxStatus m status _ => c.mm = some m ∧ activeIn status c.nsapi = false
  | .t3395 q _ => q = p ∧ ∃ n, c.timer = some n ∧ t339xMaxRetrans < n + 1
  | _ => False

/-- A Delete request is sent for a context, or the context is freed. -/
def TakesEffect (p : PdpPtr) (outs : List SessOut) : Prop :=
  .deleteReq p ∈ outs ∨ ∃ c, .freed p c ∈ outs

/-- A context has no GGSN, or it is confirmed and the library takes a Delete request. -/
def PdpCtx.CanEnd (c : PdpCtx) (takes : Takes) (p : PdpPtr) : Prop :=
  c.ggsn = none ∨ c.state = .crConf ∧ takes p = true

/-- A deactivation can end a context: it is the one that its transaction identifier finds, and it
has no GGSN or is confirmed. When T3395 gives up it has no GGSN. -/
def Deactivatable (s : SessState) (p : PdpPtr) (c : PdpCtx) : SessEvent → Prop
  | .deactPdpReq m ti takes | .deactPdpAck m ti takes =>
    (s.mms m).bind (s.pdpCtxByTid · ti) = some p ∧ c.CanEnd takes p
  | .ctxStatus _ _ takes => c.CanEnd takes p
  | .t3395 .. => c.ggsn = none
  | _ => False

/-! ## One context -/

@[simp] theorem not_takesEffect_nil : ¬ TakesEffect p [] := by
  simp [TakesEffect]

theorem takesEffect_append {outs outs' : List SessOut} :
    TakesEffect p (outs ++ outs') ↔ TakesEffect p outs ∨ TakesEffect p outs' := by
  simp only [TakesEffect, List.mem_append, exists_or]
  exact or_or_or_comm

/-- Deactivating a context concerns no other. -/
theorem not_takesEffect_deactivate (s : SessState) (c : PdpCtx) (hq : q ≠ p) :
    ¬ TakesEffect p (s.deactivate takes q c).2 := by
  rw [SessState.deactivate, SessState.deletePdpCtx]
  split_ifs <;> simp [TakesEffect, SessState.pdpCtxFree, hq.symm]

theorem takesEffect_deactivate (hs : c.Sound s p) (s' : SessState) :
    TakesEffect p (s'.deactivate takes p c).2 ↔ c.CanEnd takes p := by
  rw [SessState.deactivate]
  by_cases hggsn : c.ggsn.isSome = true
  · have hnone : c.ggsn ≠ none := Option.isSome_iff_ne_none.mp hggsn
    rw [if_pos hggsn]
    by_cases hd : c.Deletable takes p
    · rw [deletePdpCtx_of_deletable _ hd]
      exact ⟨fun _ ↦ .inr ((hs.deletable_iff hggsn).mp hd), fun _ ↦ .inl List.mem_cons_self⟩
    · rw [deletePdpCtx_of_not _ hd]
      refine ⟨fun h ↦ absurd h not_takesEffect_nil, ?_⟩
      rintro (h | h)
      · exact absurd h hnone
      · exact absurd ((hs.deletable_iff hggsn).mpr h) hd
  · rw [if_neg hggsn]
    exact ⟨fun _ ↦ .inl (by simpa using hggsn), fun _ ↦ .inr ⟨c, List.mem_cons_self⟩⟩

theorem deactivate_ctxs_of_ne (s : SessState) (c : PdpCtx) (hq : q ≠ p) :
    (s.deactivate takes q c).1.ctxs p = s.ctxs p := by
  rw [SessState.deactivate, SessState.deletePdpCtx]
  split_ifs <;> simp [SessState.pdpCtxFree, SessState.setPdp, hq.symm]

/-! ## Transaction identifiers -/

/-- The lookup for a transaction identifier of a context finds a context. -/
theorem pdpCtxByTid_of_mem (h : Linked s) (hm : s.mms m = some mm) (hc : s.ctxs p = some c)
    (hp : p ∈ mm.pdpList) : ∃ q x, s.pdpCtxByTid mm c.ti = some q ∧ s.ctxs q = some x := by
  have hfind : (s.pdpCtxByTid mm c.ti).isSome := by
    rw [SessState.pdpCtxByTid, List.find?_isSome]
    exact ⟨p, hp, by simp [hc]⟩
  obtain ⟨q, hq⟩ := Option.isSome_iff_exists.mp hfind
  obtain ⟨x, hx, -⟩ := h.ofMm m mm q hm (List.mem_of_find?_eq_some hq)
  exact ⟨q, x, hq, hx⟩

theorem takesEffect_deactPdpReq (h : Linked s) (hc : s.ctxs p = some c) (hm : c.mm = some m) :
    TakesEffect p (s.step (.deactPdpReq m c.ti takes)).2 ↔
      Deactivatable s p c (.deactPdpReq m c.ti takes) := by
  obtain ⟨mm, hmm, hp⟩ := h.mmOf p c m hc hm
  obtain ⟨q, x, hfind, hx⟩ := pdpCtxByTid_of_mem h hmm hc hp
  rw [SessState.step, whenMm_of_some hmm]
  simp only [SessState.rxGsmDeactPdpReq, Deactivatable, hmm, Option.bind_some, hfind, hx,
    Option.some.injEq]
  by_cases hq : q = p
  · subst hq
    obtain rfl := Option.some.inj (hc.symm.trans hx)
    rw [takesEffect_deactivate (h.sound q c hc)]
    exact (and_iff_right rfl).symm
  · exact ⟨fun he ↦ absurd he (not_takesEffect_deactivate s x hq), fun hd ↦ absurd hd.1 hq⟩

theorem takesEffect_deactPdpAck (h : Linked s) (hc : s.ctxs p = some c) (hm : c.mm = some m) :
    TakesEffect p (s.step (.deactPdpAck m c.ti takes)).2 ↔
      Deactivatable s p c (.deactPdpAck m c.ti takes) := by
  obtain ⟨mm, hmm, hp⟩ := h.mmOf p c m hc hm
  obtain ⟨q, x, hfind, hx⟩ := pdpCtxByTid_of_mem h hmm hc hp
  rw [SessState.step, whenMm_of_some hmm]
  simp only [SessState.rxGsmDeactPdpAck, Deactivatable, hmm, Option.bind_some, hfind, hx,
    Option.some.injEq]
  by_cases hq : q = p
  · subst hq
    obtain rfl := Option.some.inj (hc.symm.trans hx)
    have hs := h.sound q c hc
    have hs' : { c with timer := none : PdpCtx }.Sound s q :=
      ⟨hs.lib, hs.ggsn, hs.create, hs.delete⟩
    rw [takesEffect_deactivate hs']
    exact (and_iff_right rfl).symm
  · exact ⟨fun he ↦ absurd he (not_takesEffect_deactivate _ _ hq), fun hd ↦ absurd hd.1 hq⟩

/-! ## The PDP context status -/

theorem processCtxStatus_ctxs_of_ne (s : SessState) (status : BitVec 16) (hq : q ≠ p) :
    (SessState.processCtxStatus status takes s q).1.ctxs p = s.ctxs p := by
  rw [SessState.processCtxStatus]
  split
  · rfl
  · split_ifs
    · rfl
    · rw [deactivate_ctxs_of_ne _ _ hq, setPdp_ctxs_of_ne _ hq.symm]

theorem not_takesEffect_processCtxStatus (s : SessState) (status : BitVec 16) (hq : q ≠ p) :
    ¬ TakesEffect p (SessState.processCtxStatus status takes s q).2 := by
  rw [SessState.processCtxStatus]
  split
  · exact not_takesEffect_nil
  · split_ifs
    · exact not_takesEffect_nil
    · exact not_takesEffect_deactivate _ _ hq

theorem takesEffect_processCtxStatus (h : Linked s) (hc : s.ctxs p = some c) (status : BitVec 16) :
    TakesEffect p (SessState.processCtxStatus status takes s p).2 ↔
      activeIn status c.nsapi = false ∧ c.CanEnd takes p := by
  have hs := h.sound p c hc
  have hs' : { c with uePdpActive := false : PdpCtx }.Sound s p :=
    ⟨hs.lib, hs.ggsn, hs.create, hs.delete⟩
  rw [SessState.processCtxStatus, hc]
  cases hactive : activeIn status c.nsapi with
  | true => simp [hactive]
  | false =>
    simp only [hactive, Bool.false_eq_true, if_false, true_and]
    exact takesEffect_deactivate hs' _

/-- The loop does not touch a context that is not in its list. -/
theorem not_takesEffect_forPdps {ps : List PdpPtr} (hp : p ∉ ps) (s : SessState)
    (status : BitVec 16) :
    ¬ TakesEffect p (forPdps (SessState.processCtxStatus status takes) ps s).2 := by
  induction ps generalizing s with
  | nil => exact not_takesEffect_nil
  | cons q ps ih =>
    obtain ⟨hq, hps⟩ := not_or.mp (List.mem_cons.not.mp hp)
    rw [forPdps, takesEffect_append]
    rintro (he | he)
    · exact not_takesEffect_processCtxStatus s status (Ne.symm hq) he
    · exact ih hps _ he

/-- The loop deactivates a context when it comes to it. -/
theorem takesEffect_forPdps {ps : List PdpPtr} (h : Linked s) (hc : s.ctxs p = some c)
    (hps : ps.Nodup) (hp : p ∈ ps) (status : BitVec 16) :
    TakesEffect p (forPdps (SessState.processCtxStatus status takes) ps s).2 ↔
      activeIn status c.nsapi = false ∧ c.CanEnd takes p := by
  induction ps generalizing s with
  | nil => cases hp
  | cons q ps ih =>
    obtain ⟨hnew, hnodup⟩ := List.nodup_cons.mp hps
    rw [forPdps, takesEffect_append]
    by_cases hq : q = p
    · subst hq
      rw [takesEffect_processCtxStatus h hc status]
      exact or_iff_left (not_takesEffect_forPdps hnew _ status)
    · have hctx : (SessState.processCtxStatus status takes s q).1.ctxs p = some c := by
        rw [processCtxStatus_ctxs_of_ne s status hq, hc]
      have hmem : p ∈ ps := (List.mem_cons.mp hp).resolve_left (Ne.symm hq)
      have hlinked := (act_processCtxStatus takes status s q h).linked h
      rw [ih hlinked hctx hnodup hmem]
      exact or_iff_right (not_takesEffect_processCtxStatus s status hq)

theorem takesEffect_ctxStatus (h : Linked s) (hc : s.ctxs p = some c) (hm : c.mm = some m)
    {status : BitVec 16} (hactive : activeIn status c.nsapi = false) :
    TakesEffect p (s.step (.ctxStatus m status takes)).2 ↔
      Deactivatable s p c (.ctxStatus m status takes) := by
  obtain ⟨mm, hmm, hp⟩ := h.mmOf p c m hc hm
  rw [SessState.step, whenMm_of_some hmm]
  exact (takesEffect_forPdps h hc (h.nodup m mm hmm) hp status).trans (and_iff_right hactive)

/-! ## The timer -/

/-- The last expiry of T3395 makes the context leave `PDP_STATE_CR_CONF` first. -/
theorem takesEffect_t3395 (h : Linked s) (hc : s.ctxs p = some c) {n : ℕ} (hn : c.timer = some n)
    (hlast : t339xMaxRetrans < n + 1) :
    TakesEffect p (s.step (.t3395 p takes)).2 ↔ Deactivatable s p c (.t3395 p takes) := by
  have hs := h.sound p c hc
  have hs' : { c with timer := none, state := .none : PdpCtx }.Sound s p :=
    ⟨hs.lib, hs.ggsn, hs.create, hs.delete⟩
  simp only [SessState.step, SessState.pdpctxTimerCb, hc, hn, if_pos hlast]
  rw [takesEffect_deactivate hs']
  constructor
  · rintro (hggsn | ⟨hstate, -⟩)
    · exact hggsn
    · cases hstate
  · exact fun hggsn ↦ .inl hggsn

/-! ## Every deactivation -/

/-- **What is deactivated.** In every state that is reached, and for every context of which the
mobile station was told, a deactivation sends a Delete request or frees the context exactly when it
is `Deactivatable`. -/
theorem takesEffect_run (es : List SessEvent) (p : PdpPtr) (c : PdpCtx) (e : SessEvent)
    (hc : (sessMachine.run .start es).ctxs p = some c) (_ : c.actAccSent = true)
    (he : Deactivates p c e) :
    TakesEffect p (sessMachine.step (sessMachine.run .start es) e).2 ↔
      Deactivatable (sessMachine.run .start es) p c e := by
  have hlinked := linked_run es
  cases e with
  | deactPdpReq m ti takes =>
    obtain ⟨hm, rfl⟩ := he
    exact takesEffect_deactPdpReq hlinked hc hm
  | deactPdpAck m ti takes =>
    obtain ⟨hm, rfl⟩ := he
    exact takesEffect_deactPdpAck hlinked hc hm
  | ctxStatus m status takes => exact takesEffect_ctxStatus hlinked hc he.1 he.2
  | t3395 q takes =>
    obtain ⟨rfl, n, hn, hlast⟩ := he
    exact takesEffect_t3395 hlinked hc hn hlast
  | _ => cases he

/-- A mobile station on Gb activates a context. -/
def activatedOnGb : List SessEvent :=
  [.mmAlloc 1 .geranGb, .actPdpReq 1 (some 7) 5 3 2 (fun _ ↦ true) true true,
    .createConf 0 .accepted true (fun _ ↦ true) true true]

/-- A mobile station on Iu does. -/
def activatedOnIu : List SessEvent :=
  [.mmAlloc 1 .utranIu, .mmChange 1 .utranIu true true,
    .actPdpReq 1 (some 7) 5 3 2 (fun _ ↦ true) true true,
    .createConf 0 .accepted true (fun _ ↦ true) true true,
    .rabAssResp 1 5 true true (fun _ ↦ true) true]

theorem activatedOnGb_ctx : (sessMachine.run .start activatedOnGb).ctxs 0 =
    some ⟨5, 3, 2, some 1, some 7, true, true, .crReq, true, none, true, true, false, false⟩ := by
  decide +kernel

theorem activatedOnIu_ctx : (sessMachine.run .start activatedOnIu).ctxs 0 =
    some ⟨5, 3, 2, some 1, some 7, true, true, .crConf, true, none, true, true, false, false⟩ := by
  decide +kernel

/-- On Iu the deactivation takes effect. -/
theorem activatedOnIu_takesEffect :
    TakesEffect 0 (sessMachine.step (sessMachine.run .start activatedOnIu)
      (.deactPdpReq 1 2 fun _ ↦ true)).2 :=
  (takesEffect_run activatedOnIu 0 _ (.deactPdpReq 1 2 fun _ ↦ true) activatedOnIu_ctx rfl
    ⟨rfl, rfl⟩).mpr ⟨by decide +kernel, .inr ⟨rfl, rfl⟩⟩

/-- On Gb a Deactivate PDP Context Request sends nothing and frees nothing. -/
theorem activatedOnGb_not_takesEffect :
    ∃ c, (sessMachine.run .start activatedOnGb).ctxs 0 = some c ∧ c.actAccSent = true ∧
      Deactivates 0 c (.deactPdpReq 1 2 fun _ ↦ true) ∧
      ¬ TakesEffect 0 (sessMachine.step (sessMachine.run .start activatedOnGb)
        (.deactPdpReq 1 2 fun _ ↦ true)).2 := by
  have houts : (sessMachine.step (sessMachine.run .start activatedOnGb)
      (.deactPdpReq 1 2 fun _ ↦ true)).2 = [] := by
    decide +kernel
  refine ⟨_, activatedOnGb_ctx, rfl, ⟨rfl, rfl⟩, ?_⟩
  rw [houts]
  exact not_takesEffect_nil

end OsmoSgsn.Sm
