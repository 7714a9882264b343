import OsmoSgsn.Sm.Linked

/-!
# What becomes of PDP contexts when their MM context goes away

`sgsn_mm_ctx_cleanup_free` detaches the PDP contexts of an MM context one after the other and asks
the GGSN to delete each of them. `Detaches` says what that leaves: the contexts of the list are as
`PdpCtx.detached` has them, the others are as they were, and the MM context has an empty list, so
that `sgsn_mm_ctx_free` finds nothing to free.

With that every event keeps the lists and the contexts linked, in any run.
-/

namespace OsmoSgsn.Sm

variable {s s' : SessState} {p q : PdpPtr} {c c' : PdpCtx} {m : SessMmPtr} {mm : SessMm}
  {takes : Takes}

/-! ## One context -/

/-- A Delete request for a context is sent, if one is asked for. -/
def PdpCtx.Deletable (c : PdpCtx) (takes : Takes) (p : PdpPtr) : Prop :=
  c.ggsn.isSome ∧ c.lib = true ∧ c.state = .crConf ∧ takes p = true

instance (c : PdpCtx) (takes : Takes) (p : PdpPtr) : Decidable (c.Deletable takes p) :=
  inferInstanceAs (Decidable (_ ∧ _ ∧ _ ∧ _))

/-- A context whose MM context went away. -/
def PdpCtx.detached (c : PdpCtx) (takes : Takes) (p : PdpPtr) : PdpCtx :=
  { c with mm := none, timer := none, deleteSent := c.deleteSent || decide (c.Deletable takes p) }

theorem deletePdpCtx_of_deletable (s : SessState) (h : c.Deletable takes p) :
    s.deletePdpCtx takes p c =
      ({ s.setPdp p { c with deleteSent := true } with deletes := p :: s.deletes },
        [.deleteReq p]) := by
  rw [SessState.deletePdpCtx]
  exact if_pos h

theorem deletePdpCtx_of_not (s : SessState) (h : ¬ c.Deletable takes p) :
    s.deletePdpCtx takes p c = (s, []) := by
  rw [SessState.deletePdpCtx]
  exact if_neg h

/-- A context with a GGSN and a handle can be deleted if it is confirmed and the library takes the
request. -/
theorem PdpCtx.Sound.deletable_iff (h : c.Sound s p) (hggsn : c.ggsn.isSome) :
    c.Deletable takes p ↔ c.state = .crConf ∧ takes p = true :=
  ⟨fun hd ↦ hd.2.2, fun hd ↦ ⟨hggsn, h.lib hggsn, hd⟩⟩

/-- The context is detached, and a Delete request is sent if that can be. -/
theorem pdpCtxTerminate_of_some (hc : s.ctxs p = some c) :
    SessState.pdpCtxTerminate takes s p =
      ({ (s.unlinkMm p c).setPdp p (c.detached takes p) with
          deletes := if c.Deletable takes p then p :: s.deletes else s.deletes },
        (if c.Deletable takes p then [.deleteReq p] else []) ++
          [.terminated p (c.detached takes p)]) := by
  have hsame : { c with mm := none, timer := none : PdpCtx }.Deletable takes p ↔
      c.Deletable takes p := Iff.rfl
  by_cases hd : c.Deletable takes p
  · have hdetached : { c with mm := none, timer := none, deleteSent := true : PdpCtx } =
        c.detached takes p := by
      simp [PdpCtx.detached, hd]
    simp only [SessState.pdpCtxTerminate, hc, hd.1, if_true,
      deletePdpCtx_of_deletable _ (hsame.mpr hd), setPdp_setPdp, hdetached, if_pos hd]
    simp [SessState.setPdp]
  · have hdetached : { c with mm := none, timer := none : PdpCtx } = c.detached takes p := by
      simp [PdpCtx.detached, hd]
    have hnot : ¬ (c.detached takes p).Deletable takes p := hd
    have hstate : ((s.unlinkMm p c).setPdp p (c.detached takes p)) =
        { (s.unlinkMm p c).setPdp p (c.detached takes p) with deletes := s.deletes } := by
      simp [SessState.setPdp]
    simp only [SessState.pdpCtxTerminate, hc, deletePdpCtx_of_not _ hnot, ite_self,
      hdetached, if_neg hd, setPdp_ctxs_self, Option.getD_some, ← hstate]

theorem linked_terminate (h : Linked s) (hc : s.ctxs p = some c) :
    Linked (SessState.pdpCtxTerminate takes s p).1 := by
  have hs := h.sound p c hc
  have hdetach : Linked ((s.unlinkMm p c).setPdp p { c with mm := none, timer := none }) :=
    h.detach hc rfl ⟨hs.lib, hs.ggsn, hs.create, hs.delete⟩
  have hdelete := (act_deletePdpCtx (G := fun _ ↦ True) takes
    (setPdp_ctxs_self (s.unlinkMm p c) p { c with mm := none, timer := none })).linked hdetach
  simp only [SessState.pdpCtxTerminate, hc]
  split_ifs
  · exact hdelete
  · exact hdetach

/-! ## All contexts of an MM context -/

/-- What the loop over a list of contexts of an MM context has done. -/
structure Detaches (takes : Takes) (m : SessMmPtr) (ps : List PdpPtr) (s : SessState)
    (r : SessState × List SessOut) : Prop where
  linked : Linked r.1
  list : ∀ mm, s.mms m = some mm → ∃ x, r.1.mms m = some x ∧ x.pdpList = mm.pdpList.filter (· ∉ ps)
  others : ∀ q ∉ ps, r.1.ctxs q = s.ctxs q
  detached : ∀ q ∈ ps, r.1.ctxs q = (s.ctxs q).map (·.detached takes q)
  creates : r.1.creates = s.creates
  deletes : ∀ q, q ∈ r.1.deletes ↔
    q ∈ s.deletes ∨ q ∈ ps ∧ ∃ c, s.ctxs q = some c ∧ c.Deletable takes q
  outs : ∀ o ∈ r.2, (∃ q ∈ ps, o = .deleteReq q) ∨
    ∃ q ∈ ps, ∃ c, s.ctxs q = some c ∧ o = .terminated q (c.detached takes q)
  terminated : ∀ q ∈ ps, ∀ c, s.ctxs q = some c → .terminated q (c.detached takes q) ∈ r.2

theorem detaches_nil (h : Linked s) : Detaches takes m [] s (s, []) where
  linked := h
  list := by
    intro mm hmm
    exact ⟨mm, hmm, by simp⟩
  others _ _ := rfl
  detached := by simp
  creates := rfl
  deletes := by simp
  outs := by simp
  terminated := by simp

/-- One context of an MM context, and then the others. -/
theorem Detaches.cons {ps : List PdpPtr} {r : SessState × List SessOut} (h : Linked s)
    (hc : s.ctxs p = some c) (hp : p ∉ ps)
    (hr : Detaches takes m ps (SessState.pdpCtxTerminate takes s p).1 r) :
    Detaches takes m (p :: ps) s (r.1, (SessState.pdpCtxTerminate takes s p).2 ++ r.2) := by
  have hctxs : ∀ q, q ≠ p → (SessState.pdpCtxTerminate takes s p).1.ctxs q = s.ctxs q := by
    intro q hq
    simp [pdpCtxTerminate_of_some hc, SessState.setPdp, hq]
  have hself : (SessState.pdpCtxTerminate takes s p).1.ctxs p = some (c.detached takes p) := by
    simp [pdpCtxTerminate_of_some hc, SessState.setPdp]
  have hne : ∀ q ∈ ps, q ≠ p := by
    rintro q hq rfl
    exact hp hq
  refine ⟨hr.linked, ?_, ?_, ?_, ?_, ?_, ?_, ?_⟩
  · intro mm hmm
    obtain ⟨y, hy, hylist⟩ := unlinkMm_mms_of_some h hc rfl hmm
    have hy' : (SessState.pdpCtxTerminate takes s p).1.mms m = some y := by
      simpa [pdpCtxTerminate_of_some hc, SessState.setPdp] using hy
    obtain ⟨x, hx, hxlist⟩ := hr.list y hy'
    refine ⟨x, hx, ?_⟩
    rw [hxlist, hylist, List.filter_filter]
    refine List.filter_congr fun q _ ↦ ?_
    simp [Bool.and_comm]
  · intro q hq
    obtain ⟨hqp, hqps⟩ := not_or.mp (List.mem_cons.not.mp hq)
    rw [hr.others q hqps, hctxs q hqp]
  · intro q hq
    rcases List.mem_cons.mp hq with rfl | hq
    · rw [hr.others q hp, hself, hc]
      rfl
    · rw [hr.detached q hq, hctxs q (hne q hq)]
  · rw [hr.creates, pdpCtxTerminate_of_some hc]
    simp [SessState.setPdp]
  · intro q
    have hdel : q ∈ (SessState.pdpCtxTerminate takes s p).1.deletes ↔
        q ∈ s.deletes ∨ q = p ∧ c.Deletable takes p := by
      rw [pdpCtxTerminate_of_some hc]
      by_cases hd : c.Deletable takes p
      · simp [hd, or_comm]
      · simp [hd]
    rw [hr.deletes, hdel]
    constructor
    · rintro ((hold | ⟨rfl, hd⟩) | ⟨hq, x, hx, hd⟩)
      · exact .inl hold
      · exact .inr ⟨List.mem_cons_self, c, hc, hd⟩
      · exact .inr ⟨List.mem_cons_of_mem _ hq, x, (hctxs q (hne q hq)).symm.trans hx, hd⟩
    · rintro (hold | ⟨hq, x, hx, hd⟩)
      · exact .inl (.inl hold)
      · rcases List.mem_cons.mp hq with rfl | hq
        · obtain rfl := Option.some.inj (hc.symm.trans hx)
          exact .inl (.inr ⟨rfl, hd⟩)
        · exact .inr ⟨hq, x, (hctxs q (hne q hq)).trans hx, hd⟩
  · intro o ho
    rcases List.mem_append.mp ho with ho | ho
    · rw [pdpCtxTerminate_of_some hc] at ho
      rcases List.mem_append.mp ho with ho | ho
      · refine .inl ⟨p, List.mem_cons_self, ?_⟩
        split_ifs at ho
        · exact List.mem_singleton.mp ho
        · cases ho
      · exact .inr ⟨p, List.mem_cons_self, c, hc, List.mem_singleton.mp ho⟩
    · rcases hr.outs o ho with ⟨q, hq, rfl⟩ | ⟨q, hq, x, hx, rfl⟩
      · exact .inl ⟨q, List.mem_cons_of_mem _ hq, rfl⟩
      · exact .inr ⟨q, List.mem_cons_of_mem _ hq, x, (hctxs q (hne q hq)).symm.trans hx, rfl⟩
  · intro q hq x hx
    rcases List.mem_cons.mp hq with rfl | hq
    · obtain rfl := Option.some.inj (hc.symm.trans hx)
      refine List.mem_append_left _ ?_
      rw [pdpCtxTerminate_of_some hc]
      exact List.mem_append_right _ List.mem_cons_self
    · exact List.mem_append_right _ (hr.terminated q hq x ((hctxs q (hne q hq)).trans hx))

theorem detaches_forPdps {ps : List PdpPtr} (h : Linked s) (hps : ps.Nodup)
    (hsome : ∀ p ∈ ps, (s.ctxs p).isSome) :
    Detaches takes m ps s (forPdps (SessState.pdpCtxTerminate takes) ps s) := by
  induction ps generalizing s with
  | nil => exact detaches_nil h
  | cons p ps ih =>
    obtain ⟨hp, hnodup⟩ := List.nodup_cons.mp hps
    obtain ⟨c, hc⟩ := Option.isSome_iff_exists.mp (hsome p List.mem_cons_self)
    refine Detaches.cons h hc hp (ih (linked_terminate h hc) hnodup fun q hq ↦ ?_)
    have hqp : q ≠ p := by
      rintro rfl
      exact hp hq
    have hq := hsome q (List.mem_cons_of_mem _ hq)
    simpa [pdpCtxTerminate_of_some hc, SessState.setPdp, hqp] using hq

/-- After its contexts were detached an MM context is freed without any. -/
theorem mmCtxCleanupFree_eq (takes : Takes) (h : Linked s) (hm : s.mms m = some mm) :
    Detaches takes m mm.pdpList s (forPdps (SessState.pdpCtxTerminate takes) mm.pdpList s) ∧
      s.mmCtxCleanupFree m mm takes =
        ((forPdps (SessState.pdpCtxTerminate takes) mm.pdpList s).1.setMm m none,
          (forPdps (SessState.pdpCtxTerminate takes) mm.pdpList s).2) := by
  have hloop : Detaches takes m mm.pdpList s
      (forPdps (SessState.pdpCtxTerminate takes) mm.pdpList s) := by
    refine detaches_forPdps h (h.nodup m mm hm) fun p hp ↦ ?_
    obtain ⟨c, hc, -⟩ := h.ofMm m mm p hm hp
    exact Option.isSome_of_eq_some hc
  refine ⟨hloop, ?_⟩
  obtain ⟨x, hx, hlist⟩ := hloop.list mm hm
  have hempty : x.pdpList = [] := by
    rw [hlist]
    exact List.filter_eq_nil_iff.mpr fun q hq ↦ by simpa using hq
  simp only [SessState.mmCtxCleanupFree, SessState.mmCtxFree, hx, hempty, forPdps, List.append_nil]

theorem linked_mmCtxCleanupFree (h : Linked s) (hm : s.mms m = some mm) :
    Linked (s.mmCtxCleanupFree m mm takes).1 := by
  obtain ⟨hloop, heq⟩ := mmCtxCleanupFree_eq takes h hm
  rw [heq]
  refine hloop.linked.dropMm fun x hx ↦ ?_
  obtain ⟨y, hy, hlist⟩ := hloop.list mm hm
  obtain rfl := Option.some.inj (hx.symm.trans hy)
  rw [hlist]
  exact List.filter_eq_nil_iff.mpr fun q hq ↦ by simpa using hq

/-! ## Events -/

/-- No MM context goes away, and no request is answered. -/
def SessEvent.Plain (s : SessState) : SessEvent → Prop
  | .mmFree m _ => s.mms m = none
  | .createConf p .. => p ∉ s.creates
  | .deleteConf p => p ∉ s.deletes
  | _ => True

theorem whenMm_of_none (hm : s.mms m = none) (k : SessMm → SessState × List SessOut) :
    s.whenMm m k = (s, []) := by
  rw [SessState.whenMm, hm]

theorem whenMm_of_some (hm : s.mms m = some mm) (k : SessMm → SessState × List SessOut) :
    s.whenMm m k = k mm := by
  rw [SessState.whenMm, hm]

/-- Handling a message of a mobile station that has an MM context, or has none. -/
theorem act_whenMm {G : PdpCtx → Prop} {k : SessMm → SessState × List SessOut}
    (hk : ∀ mm, s.mms m = some mm → Act G s (k mm)) : Act G s (s.whenMm m k) := by
  cases hm : s.mms m with
  | none =>
    rw [whenMm_of_none hm]
    exact .done s
  | some mm =>
    rw [whenMm_of_some hm]
    exact hk mm hm

/-- What a plain event does: it acts on contexts, writes to an MM context or makes a PDP context. -/
theorem step_of_plain (h : Linked s) {e : SessEvent} (he : e.Plain s) :
    Act PdpCtx.Released s (s.step e) ∨
      (∃ m new, new.pdpList = (s.mms m).elim [] (·.pdpList) ∧
        s.step e = (s.setMm m (some new), [])) ∨
      ∃ m mm g nsapi sapi ti takes, s.mms m = some mm ∧
        s.step e = s.activateGgsn m mm g nsapi sapi ti takes := by
  cases e with
  | mmAlloc m ranType =>
    cases hm : s.mms m with
    | none => exact .inr (.inl ⟨m, ⟨ranType, false, false, []⟩, by rw [hm]; rfl, by
        rw [SessState.step, hm]⟩)
    | some mm =>
      refine .inl ?_
      rw [SessState.step, hm]
      exact .done s
  | mmChange m ranType ueCtx registered =>
    cases hm : s.mms m with
    | none =>
      refine .inl ?_
      rw [SessState.step, whenMm_of_none hm]
      exact .done s
    | some mm =>
      refine .inr (.inl ⟨m, { mm with ranType, ueCtx, registered }, by rw [hm]; rfl, ?_⟩)
      rw [SessState.step, whenMm_of_some hm]
  | mmFree m takes =>
    refine .inl ?_
    rw [SessState.step, whenMm_of_none he]
    exact .done s
  | actPdpReq m g nsapi sapi ti takes tx rabTx =>
    cases hm : s.mms m with
    | none =>
      refine .inl ?_
      rw [SessState.step, whenMm_of_none hm]
      exact .done s
    | some mm =>
      rw [SessState.step, whenMm_of_some hm]
      by_cases hnew : s.pdpCtxByNsapi mm nsapi = none → nsapi < 5 ∨ 15 < nsapi ∨ g = none
      · exact .inl (act_doActPdpReq h hnew)
      · obtain ⟨hfind, hnot⟩ := Classical.not_imp.mp hnew
        obtain ⟨hlow, hhigh, hg⟩ : ¬ nsapi < 5 ∧ ¬ 15 < nsapi ∧ g ≠ none := by
          simpa only [not_or] using hnot
        obtain ⟨g, rfl⟩ := Option.ne_none_iff_exists'.mp hg
        refine .inr (.inr ⟨m, mm, g, nsapi, sapi, ti, takes, hm, ?_⟩)
        simp only [SessState.doActPdpReq, hfind, hlow, hhigh, or_self, if_false]
  | ggsnFound m g nsapi sapi ti takes =>
    cases hm : s.mms m with
    | none =>
      refine .inl ?_
      rw [SessState.step, whenMm_of_none hm]
      exact .done s
    | some mm =>
      refine .inr (.inr ⟨m, mm, g, nsapi, sapi, ti, takes, hm, ?_⟩)
      rw [SessState.step, whenMm_of_some hm]
  | deactPdpReq m ti takes => exact .inl (act_whenMm fun mm _ ↦ act_rxGsmDeactPdpReq h m mm ti)
  | deactPdpAck m ti takes => exact .inl (act_whenMm fun mm _ ↦ act_rxGsmDeactPdpAck h mm ti)
  | ctxStatus m status takes =>
    exact .inl (act_whenMm fun mm _ ↦ act_forPdps (act_processCtxStatus takes status) mm.pdpList h)
  | t3395 p takes => exact .inl (act_pdpctxTimerCb h p)
  | deleteAll m takes =>
    exact .inl (act_whenMm fun mm _ ↦ act_forPdps (fun s p _ ↦ act_deleteOne s p) mm.pdpList h)
  | rabAssResp m rabId usable update takes tx =>
    exact .inl (act_whenMm fun mm _ ↦ act_ranapRabAssResp h m mm rabId usable update tx)
  | createConf p cause lib takes tx rabTx =>
    refine .inl ?_
    rw [SessState.step, if_neg he]
    exact .done s
  | deleteConf p =>
    refine .inl ?_
    rw [SessState.step, if_neg he]
    exact .done s
  | updateConf p nonExist takes =>
    refine .inl ?_
    rw [SessState.step, SessState.updatePdpConf]
    split
    · exact .say s trivial
    · split_ifs
      · exact act_cbDeleteContext h
      · exact .done s
  | deleteContext p takes =>
    refine .inl ?_
    rw [SessState.step]
    split_ifs
    · exact act_cbDeleteContext h
    · exact .done s
  | ggsnLost g except restarted takes => exact .inl (act_forPdps (act_dropLost restarted) _ h)

/-! ## Answers -/

/-- A Create request is answered: for a context that is gone; with a reject; with a further request;
or in another way, which a context of no MM context never is. -/
theorem createConf_cases (takes : Takes) (h : Linked s) (hp : p ∈ s.creates) (cause : CreateCause)
    (lib tx rabTx : Bool) {s₁ : SessState} (hs₁ : s₁ = { s with creates := s.creates.erase p }) :
    (s.ctxs p = none ∧
        s.step (.createConf p cause lib takes tx rabTx) = (s₁, [.useAfterFree p])) ∨
      ∃ c, s.ctxs p = some c ∧
        ((cause = .accepted ∧ Rejects s c rabTx ∧
            s.step (.createConf p cause lib takes tx rabTx) =
              s₁.createPdpRejected p { c with createAccepted := true }) ∨
          (cause ≠ .accepted ∧ c.mm = none ∧
            s.step (.createConf p cause lib takes tx rabTx) = s₁.createPdpRejected p c) ∨
          (cause ≠ .accepted ∧ c.mm ≠ none ∧ s.step (.createConf p cause lib takes tx rabTx) =
            ({ s₁.setPdp p { c with version1 := false } with creates := p :: s₁.creates },
              [.createReq p])) ∨
          (c.mm ≠ none ∧ (cause = .accepted → ¬ Rejects s c rabTx) ∧
            Act PdpCtx.Released s₁ (s.step (.createConf p cause lib takes tx rabTx)))) := by
  have hlinked : Linked s₁ := by
    subst hs₁
    exact h.answer (List.erase_sublist) (List.Sublist.refl _)
  have hstep : s.step (.createConf p cause lib takes tx rabTx) =
      s₁.createPdpConf p cause lib takes tx rabTx := by
    rw [SessState.step, if_pos hp, hs₁]
  have hctxs : s₁.ctxs = s.ctxs := by rw [hs₁]
  have hcreates : p ∉ s₁.creates := by
    rw [hs₁]
    exact List.Nodup.not_mem_erase h.creates
  rw [hstep]
  cases hc : s.ctxs p with
  | none => exact .inl ⟨rfl, by rw [SessState.createPdpConf, hctxs, hc]⟩
  | some c =>
    refine .inr ⟨c, rfl, ?_⟩
    have hc₁ : s₁.ctxs p = some c := by rw [hctxs, hc]
    have hs := hlinked.sound p c hc₁
    have hnew : c.createAccepted = false := (h.sound p c hc).create hp
    by_cases hcause : cause = .accepted
    · subst hcause
      have hconf : s₁.createPdpConf p .accepted lib takes tx rabTx =
          s₁.createPdpAnswered p { c with createAccepted := true } .accepted lib takes tx
            rabTx := by
        simp [SessState.createPdpConf, hc₁]
      have hrej : Rejects s₁ { c with createAccepted := true } rabTx ↔ Rejects s c rabTx := by
        rw [hs₁]
        rfl
      rw [hconf]
      rcases createPdpAnswered_accepted takes (c := c) { c with createAccepted := true }
        hlinked hc₁ rfl ⟨hs.lib, hs.ggsn, fun hmem ↦ absurd hmem hcreates, hs.delete⟩ lib tx rabTx
        with ⟨hyes, heq⟩ | ⟨hno, hact⟩
      · exact .inl ⟨rfl, hrej.mp hyes, heq⟩
      · exact .inr (.inr (.inr ⟨fun hmm ↦ hno (.inl hmm), fun _ hyes ↦ hno (hrej.mpr hyes), hact⟩))
    · have hconf : s₁.createPdpConf p cause lib takes tx rabTx =
          s₁.createPdpAnswered p c cause lib takes tx rabTx := by
        simp [SessState.createPdpConf, hc₁, hcause]
      rw [hconf]
      by_cases hmm : c.mm = none
      · refine .inr (.inl ⟨hcause, hmm, ?_⟩)
        rw [SessState.createPdpAnswered.eq_def, hmm]
      · rcases createPdpAnswered_of_ne hc₁ hs hnew hcause lib tx rabTx with hact | heq
        · exact .inr (.inr (.inr ⟨hmm, fun hyes ↦ absurd hyes hcause, hact⟩))
        · exact .inr (.inr (.inl ⟨hcause, hmm, heq⟩))

/-- A context that is rejected is freed. -/
theorem linked_createPdpRejected (h : Linked s) (hc : s.ctxs p = some c) (hmm : c'.mm = c.mm) :
    Linked (s.createPdpRejected p c').1 :=
  (act_createPdpRejected (G := fun _ ↦ True) hc hmm trivial).linked h

theorem linked_createConf (h : Linked s) (hp : p ∈ s.creates) (cause : CreateCause)
    (lib tx rabTx : Bool) : Linked (s.step (.createConf p cause lib takes tx rabTx)).1 := by
  have hlinked : Linked { s with creates := s.creates.erase p } :=
    h.answer List.erase_sublist (List.Sublist.refl _)
  have hgone : p ∉ s.creates.erase p := List.Nodup.not_mem_erase h.creates
  rcases createConf_cases takes h hp cause lib tx rabTx rfl with
    ⟨-, heq⟩ | ⟨c, hc, ⟨-, -, heq⟩ | ⟨-, -, heq⟩ | ⟨-, -, heq⟩ | ⟨-, -, hact⟩⟩
  · rw [heq]
    exact hlinked
  · rw [heq]
    exact linked_createPdpRejected hlinked hc rfl
  · rw [heq]
    exact linked_createPdpRejected hlinked hc rfl
  · rw [heq]
    have hs := hlinked.sound p c hc
    have hwrite : Linked ({ s with creates := s.creates.erase p }.setPdp p
        { c with version1 := false }) :=
      hlinked.write hc rfl ⟨hs.lib, hs.ggsn, hs.create, hs.delete⟩
    exact hwrite.again (setPdp_ctxs_self ..) hgone ((h.sound p c hc).create hp)
  · exact hact.linked hlinked

/-- A Delete request is answered, for a context that is gone or is freed now. -/
theorem deleteConf_cases (h : Linked s) (hp : p ∈ s.deletes) {s₁ : SessState}
    (hs₁ : s₁ = { s with deletes := s.deletes.erase p }) :
    (s.ctxs p = none ∧ s.step (.deleteConf p) = (s₁, [.useAfterFree p])) ∨
      ∃ c, s.ctxs p = some c ∧ (s.step (.deleteConf p)).1 = (s₁.pdpCtxFree p c).1 ∧
        Act PdpCtx.Released s₁ (s.step (.deleteConf p)) := by
  have hstep : s.step (.deleteConf p) = s₁.deletePdpConf p := by
    rw [SessState.step, if_pos hp, hs₁]
  have hctxs : s₁.ctxs = s.ctxs := by rw [hs₁]
  rw [hstep]
  cases hc : s.ctxs p with
  | none => exact .inl ⟨rfl, by rw [SessState.deletePdpConf, hctxs, hc]⟩
  | some c =>
    have hc₁ : s₁.ctxs p = some c := by rw [hctxs, hc]
    refine .inr ⟨c, rfl, ?_, ?_⟩
    · simp only [SessState.deletePdpConf, hc₁]
    · exact act_deletePdpConf hc₁ fun _ ↦ .inl ((h.sound p c hc).delete hp)

theorem linked_deleteConf (h : Linked s) (hp : p ∈ s.deletes) :
    Linked (s.step (.deleteConf p)).1 := by
  have hlinked : Linked { s with deletes := s.deletes.erase p } :=
    h.answer (List.Sublist.refl _) List.erase_sublist
  rcases deleteConf_cases h hp rfl with ⟨-, heq⟩ | ⟨c, -, -, hact⟩
  · rw [heq]
    exact hlinked
  · exact hact.linked hlinked

/-! ## Runs -/

/-- Every event keeps the contexts, the lists and the requests in agreement. -/
theorem Linked.step (h : Linked s) (e : SessEvent) : Linked (s.step e).1 := by
  have hplain : e.Plain s → Linked (s.step e).1 := by
    intro he
    rcases step_of_plain h he with hact | ⟨m, new, hnew, heq⟩ |
      ⟨m, mm, g, nsapi, sapi, ti, takes, hm, heq⟩
    · exact hact.linked h
    · rw [heq]
      exact h.setMm hnew
    · rw [heq]
      exact h.activateGgsn hm g nsapi sapi ti
  cases e with
  | mmFree m takes =>
    cases hm : s.mms m with
    | none => exact hplain hm
    | some mm =>
      rw [SessState.step, whenMm_of_some hm]
      exact linked_mmCtxCleanupFree h hm
  | createConf p cause lib takes tx rabTx =>
    by_cases hp : p ∈ s.creates
    · exact linked_createConf h hp cause lib tx rabTx
    · exact hplain hp
  | deleteConf p =>
    by_cases hp : p ∈ s.deletes
    · exact linked_deleteConf h hp
    · exact hplain hp
  | _ => exact hplain trivial

theorem linked_start : Linked .start where
  listed := by simp [SessState.start]
  nodup := by simp [SessState.start]
  mmOf := by simp [SessState.start]
  ofMm := by simp [SessState.start]
  sound := by simp [SessState.start]
  creates := List.nodup_nil
  fresh := by simp [SessState.start]

/-- **Linked in every run.** -/
theorem linked_run (es : List SessEvent) : Linked (sessMachine.run .start es) :=
  Machine.invariant_run (fun _ _ ↦ True) Linked (fun _ e hs _ ↦ hs.step e) linked_start
    (Machine.meets_of_forall (fun _ _ ↦ trivial) _ es)

end OsmoSgsn.Sm
