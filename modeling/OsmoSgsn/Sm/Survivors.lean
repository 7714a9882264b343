import OsmoSgsn.Sm.Teardown

/-!
# What an event leaves of the PDP contexts

Only an activation makes a PDP context and puts it into a list. Whatever else happens writes to
contexts, takes them out of lists and frees them, and never writes to the NSAPI, the SAPI or the
transaction identifier of one: these are what the context was made with.
-/

namespace OsmoSgsn.Sm

/-- What a context was made with. -/
def PdpCtx.ids (c : PdpCtx) : ℕ × ℕ × ℕ := (c.nsapi, c.sapi, c.ti)

/-- Nothing was added: each context was there before, and each list had its contexts. -/
structure Survives (s s' : SessState) : Prop where
  ctx : ∀ p c', s'.ctxs p = some c' → ∃ c, s.ctxs p = some c ∧ c'.ids = c.ids
  list : ∀ m mm', s'.mms m = some mm' → mm'.pdpList ⊆ (s.mms m).elim [] (·.pdpList)

variable {s s' s'' : SessState} {p q : PdpPtr} {c c' : PdpCtx} {m : SessMmPtr} {mm : SessMm}
  {takes : Takes}

theorem Survives.of_eq (hctxs : s'.ctxs = s.ctxs) (hmms : s'.mms = s.mms) : Survives s s' where
  ctx p c' hc := ⟨c', hctxs ▸ hc, rfl⟩
  list m mm' hm := by
    rw [hmms] at hm
    rw [hm]
    exact List.Subset.refl _

theorem Survives.refl (s : SessState) : Survives s s := .of_eq rfl rfl

theorem Survives.trans (h : Survives s s') (h' : Survives s' s'') : Survives s s'' where
  ctx p c'' hc := by
    obtain ⟨c', hc', hids'⟩ := h'.ctx p c'' hc
    obtain ⟨c, hc, hids⟩ := h.ctx p c' hc'
    exact ⟨c, hc, hids'.trans hids⟩
  list m mm'' hm q hq := by
    have hq := h'.list m mm'' hm hq
    cases hm' : s'.mms m with
    | none => simp [hm'] at hq
    | some mm' => exact h.list m mm' hm' (by simpa [hm'] using hq)

/-! ## Writing and freeing -/

theorem Survives.setPdp (hc : s.ctxs p = some c) (hids : c'.ids = c.ids) :
    Survives s (s.setPdp p c') where
  ctx q x hx := by
    by_cases hq : q = p
    · subst hq
      obtain rfl : c' = x := by simpa using hx
      exact ⟨c, hc, hids⟩
    · exact ⟨x, (setPdp_ctxs_of_ne c' hq).symm.trans hx, rfl⟩
  list := (Survives.refl s).list

theorem Survives.setMm {new : SessMm} (hnew : new.pdpList ⊆ (s.mms m).elim [] (·.pdpList)) :
    Survives s (s.setMm m (some new)) where
  ctx := (Survives.refl s).ctx
  list n x hx := by
    by_cases hn : n = m
    · subst hn
      obtain rfl : new = x := by simpa [SessState.setMm] using hx
      exact hnew
    · have hx : s.mms n = some x := by simpa [SessState.setMm, hn] using hx
      exact (Survives.refl s).list n x hx

theorem Survives.dropMm (s : SessState) (m : SessMmPtr) : Survives s (s.setMm m none) where
  ctx := (Survives.refl s).ctx
  list n x hx := by
    by_cases hn : n = m
    · simp [SessState.setMm, hn] at hx
    · have hx : s.mms n = some x := by simpa [SessState.setMm, hn] using hx
      exact (Survives.refl s).list n x hx

theorem survives_unlinkMm (s : SessState) (p : PdpPtr) (c : PdpCtx) :
    Survives s (s.unlinkMm p c) := by
  rw [SessState.unlinkMm]
  split
  · exact .refl s
  · split
    · exact .refl s
    · rename_i x hx
      refine .setMm ?_
      rw [hx]
      exact List.filter_subset_self _

theorem survives_pdpCtxFree (s : SessState) (p : PdpPtr) (c : PdpCtx) :
    Survives s (s.pdpCtxFree p c).1 where
  ctx q x hx := by
    by_cases hq : q = p
    · simp [SessState.pdpCtxFree, hq] at hx
    · exact ⟨x, by simpa [SessState.pdpCtxFree, hq] using hx, rfl⟩
  list := (survives_unlinkMm s p c).list

theorem survives_deletePdpCtx (takes : Takes) (hc : s.ctxs p = some c) :
    Survives s (s.deletePdpCtx takes p c).1 := by
  rw [SessState.deletePdpCtx]
  split_ifs
  · have hwrite : Survives s (s.setPdp p { c with deleteSent := true }) := .setPdp hc rfl
    exact ⟨hwrite.ctx, hwrite.list⟩
  · exact .refl s

theorem survives_deactivate (takes : Takes) (hc : s.ctxs p = some c) :
    Survives s (s.deactivate takes p c).1 := by
  rw [SessState.deactivate]
  split_ifs
  · exact survives_deletePdpCtx takes hc
  · exact survives_pdpCtxFree s p c

/-- What is done to a context that was just written. -/
theorem Survives.writing (hc : s.ctxs p = some c) (h : Survives (s.setPdp p c') s')
    (hids : c'.ids = c.ids) : Survives s s' :=
  (Survives.setPdp hc hids).trans h

theorem survives_forPdps {f : SessState → PdpPtr → SessState × List SessOut}
    (hf : ∀ s p, Survives s (f s p).1) (ps : List PdpPtr) : Survives s (forPdps f ps s).1 := by
  induction ps generalizing s with
  | nil => exact .refl s
  | cons p ps ih => exact (hf s p).trans ih

theorem survives_pdpCtxTerminate (takes : Takes) (s : SessState) (p : PdpPtr) :
    Survives s (SessState.pdpCtxTerminate takes s p).1 := by
  rw [SessState.pdpCtxTerminate]
  cases hc : s.ctxs p with
  | none => exact .refl s
  | some c =>
    have hunlink : Survives s ((s.unlinkMm p c).setPdp p { c with mm := none, timer := none }) :=
      (survives_unlinkMm s p c).trans (.setPdp (c := c) (by simpa using hc) rfl)
    refine hunlink.trans ?_
    simp only []
    split_ifs
    · exact survives_deletePdpCtx takes (by simp)
    · exact .refl _

theorem survives_ggsnCtxDropPdp (takes : Takes) (s : SessState) (p : PdpPtr) :
    Survives s (SessState.ggsnCtxDropPdp takes s p).1 := by
  rw [SessState.ggsnCtxDropPdp]
  cases hc : s.ctxs p with
  | none => exact .refl s
  | some c =>
    by_cases hreg : s.registered c = true
    · simp only [hreg, if_true]
      split_ifs
      · exact .writing hc (survives_deletePdpCtx takes (setPdp_ctxs_self _ _ _)) rfl
      all_goals exact .setPdp hc rfl
    · simp only [hreg, Bool.false_eq_true, if_false]
      split_ifs
      · exact .writing hc (survives_deletePdpCtx takes (setPdp_ctxs_self _ _ _)) rfl
      · exact survives_pdpCtxFree s p c

/-! ## Events -/

theorem survives_whenMm {k : SessMm → SessState × List SessOut}
    (hk : ∀ mm, s.mms m = some mm → Survives s (k mm).1) : Survives s (s.whenMm m k).1 := by
  rw [SessState.whenMm]
  cases hm : s.mms m with
  | none => exact .refl s
  | some mm => exact hk mm hm

theorem survives_dropLost (restarted : Bool) (takes : Takes) (s : SessState) (p : PdpPtr) :
    Survives s (SessState.dropLost restarted takes s p).1 := by
  rw [SessState.dropLost]
  cases hc : s.ctxs p with
  | none => exact .refl s
  | some c =>
    simp only []
    exact .writing hc (survives_ggsnCtxDropPdp takes _ p) rfl

theorem survives_cbDeleteContext (takes : Takes) (s : SessState) (p : PdpPtr) :
    Survives s (s.cbDeleteContext p takes).1 := by
  rw [SessState.cbDeleteContext]
  cases hc : s.ctxs p with
  | none => exact .refl s
  | some c =>
    simp only []
    exact .writing hc (survives_ggsnCtxDropPdp takes _ p) rfl

theorem survives_processCtxStatus (status : BitVec 16) (takes : Takes) (s : SessState)
    (p : PdpPtr) : Survives s (SessState.processCtxStatus status takes s p).1 := by
  rw [SessState.processCtxStatus]
  cases hc : s.ctxs p with
  | none => exact .refl s
  | some c =>
    simp only []
    split_ifs
    · exact .refl s
    · exact .writing hc (survives_deactivate takes (setPdp_ctxs_self _ _ _)) rfl

theorem survives_deleteOne (takes : Takes) (s : SessState) (p : PdpPtr) :
    Survives s (SessState.deleteOne takes s p).1 := by
  rw [SessState.deleteOne]
  cases hc : s.ctxs p with
  | none => exact .refl s
  | some c => exact survives_deletePdpCtx takes hc

theorem survives_freeOne (s : SessState) (p : PdpPtr) : Survives s (s.freeOne p).1 := by
  rw [SessState.freeOne]
  cases hc : s.ctxs p with
  | none => exact .refl s
  | some c => exact survives_pdpCtxFree s p c

theorem survives_mmCtxFree (s : SessState) (m : SessMmPtr) : Survives s (s.mmCtxFree m).1 := by
  rw [SessState.mmCtxFree]
  split
  · exact .refl s
  · exact (survives_forPdps survives_freeOne _).trans (.dropMm _ m)

theorem survives_mmCtxCleanupFree (takes : Takes) (s : SessState) (m : SessMmPtr) (mm : SessMm) :
    Survives s (s.mmCtxCleanupFree m mm takes).1 :=
  (survives_forPdps (survives_pdpCtxTerminate takes) mm.pdpList).trans (survives_mmCtxFree _ m)

theorem survives_pdpctxTimerCb (takes : Takes) (s : SessState) (p : PdpPtr) :
    Survives s (s.pdpctxTimerCb p takes).1 := by
  rw [SessState.pdpctxTimerCb]
  cases hc : s.ctxs p with
  | none => exact .refl s
  | some c =>
    simp only []
    split
    · exact .refl s
    · split_ifs
      · exact .writing hc (survives_deactivate takes (setPdp_ctxs_self _ _ _)) rfl
      · exact .setPdp hc rfl

theorem survives_rxGsmDeactPdpReq (takes : Takes) (s : SessState) (m : SessMmPtr) (mm : SessMm)
    (ti : ℕ) : Survives s (s.rxGsmDeactPdpReq m mm ti takes).1 := by
  rw [SessState.rxGsmDeactPdpReq]
  split
  · exact .refl s
  · split
    · exact .refl s
    · rename_i hc
      exact survives_deactivate takes hc

theorem survives_rxGsmDeactPdpAck (takes : Takes) (s : SessState) (mm : SessMm) (ti : ℕ) :
    Survives s (s.rxGsmDeactPdpAck mm ti takes).1 := by
  rw [SessState.rxGsmDeactPdpAck]
  split
  · exact .refl s
  · split
    · exact .refl s
    · rename_i hc
      exact .writing hc (survives_deactivate takes (setPdp_ctxs_self _ _ _)) rfl

theorem survives_ranapRabAssResp (takes : Takes) (s : SessState) (m : SessMmPtr) (mm : SessMm)
    (rabId : ℕ) (usable update tx : Bool) :
    Survives s (s.ranapRabAssResp m mm rabId usable update takes tx).1 := by
  rw [SessState.ranapRabAssResp]
  split
  · exact .refl s
  · split
    · exact .refl s
    · next c hc =>
      by_cases hlib : c.lib = true
      swap
      · rw [if_pos hlib]
        exact .refl s
      rw [if_neg (not_not_intro hlib)]
      by_cases husable : usable = true ∧ (update = true → c.ggsn.isSome = true)
      · rw [if_pos husable]
        by_cases hconf : c.state = .crConf
        · simp only [ne_eq, hconf, not_true_eq_false, if_false]
          exact .refl s
        · simp only [ne_eq, hconf, not_false_eq_true, if_true]
          refine .setPdp hc ?_
          cases tx <;> rfl
      · rw [if_neg husable]
        split_ifs
        · exact survives_deletePdpCtx takes hc
        · exact .setPdp hc rfl

theorem survives_createPdpRejected (s : SessState) (p : PdpPtr) (c : PdpCtx) :
    Survives s (s.createPdpRejected p c).1 := survives_pdpCtxFree s p _

theorem survives_createPdpAnswered (hc : s.ctxs p = some c) (cause : CreateCause) (lib : Bool)
    (takes : Takes) (tx rabTx : Bool) (hids : c'.ids = c.ids) :
    Survives s (s.createPdpAnswered p c' cause lib takes tx rabTx).1 := by
  have hrejected : Survives s (s.createPdpRejected p c').1 := survives_createPdpRejected s p c'
  have hwrite : Survives s (s.setPdp p { c' with version1 := false }) := .setPdp hc hids
  rw [SessState.createPdpAnswered.eq_def]
  split
  · exact hrejected
  · split_ifs
    · exact ⟨hwrite.ctx, hwrite.list⟩
    · exact hwrite
    · exact hrejected
  · exact hrejected
  · split
    · exact .refl s
    · split
      · refine .setPdp hc (Eq.trans ?_ hids)
        cases tx <;> rfl
      · split_ifs
        · exact hrejected
        all_goals exact .setPdp hc hids

theorem survives_createPdpConf (s : SessState) (p : PdpPtr) (cause : CreateCause) (lib : Bool)
    (takes : Takes) (tx rabTx : Bool) :
    Survives s (s.createPdpConf p cause lib takes tx rabTx).1 := by
  rw [SessState.createPdpConf]
  cases hc : s.ctxs p with
  | none => exact .refl s
  | some c =>
    simp only []
    exact survives_createPdpAnswered hc cause lib takes tx rabTx rfl

theorem survives_deletePdpConf (s : SessState) (p : PdpPtr) :
    Survives s (s.deletePdpConf p).1 := by
  rw [SessState.deletePdpConf]
  cases hc : s.ctxs p with
  | none => exact .refl s
  | some c => exact survives_pdpCtxFree s p c

/-- A request for a PDP context that there is makes none. -/
theorem survives_doActPdpReq {g : Option GgsnPtr} {nsapi : ℕ} (sapi ti : ℕ) (takes : Takes)
    (tx rabTx : Bool)
    (h : nsapi < 5 ∨ 15 < nsapi ∨ (s.pdpCtxByNsapi mm nsapi).isSome) :
    Survives s (s.doActPdpReq m mm g nsapi sapi ti takes tx rabTx).1 := by
  rw [SessState.doActPdpReq.eq_def]
  by_cases hrange : nsapi < 5 ∨ 15 < nsapi
  · rw [if_pos hrange]
    exact .refl s
  · rw [if_neg hrange]
    have hsome := (h.resolve_left (hrange ∘ .inl)).resolve_left (hrange ∘ .inr)
    obtain ⟨p, hp⟩ := Option.isSome_iff_exists.mp hsome
    rw [hp]
    simp only []
    split
    · exact .refl s
    · next c hc =>
      have hreject : Survives s (s, [SessOut.actPdpRej m ti]).1 := .refl s
      by_cases hsame : c.lib = true ∧ c.sapi = sapi ∧ c.ti = ti
      · rw [if_neg (not_not_intro hsame.1), if_pos hsame.2]
        by_cases hwait : mm.ranType = .utranIu ∧ c.state ≠ .crConf
        · rw [if_pos hwait]
          exact .refl s
        · rw [if_neg hwait]
          cases tx with
          | true => exact .setPdp hc rfl
          | false => exact .refl s
      · by_cases hlib : c.lib = true
        · rw [if_neg (not_not_intro hlib), if_neg fun heq ↦ hsame ⟨hlib, heq⟩]
          exact hreject
        · rw [if_pos hlib]
          exact hreject

/-- Only these events make contexts. -/
def SessEvent.activates : SessEvent → Bool
  | .actPdpReq .. | .ggsnFound .. => true
  | _ => false

/-- **What survives.** An event that is no activation adds nothing. -/
theorem survives_step (s : SessState) {e : SessEvent} (he : e.activates = false) :
    Survives s (s.step e).1 := by
  cases e with
  | mmAlloc m ranType =>
    rw [SessState.step]
    split
    · exact .setMm (List.nil_subset _)
    · exact .refl s
  | mmChange m ranType ueCtx registered =>
    refine survives_whenMm fun mm hm ↦ .setMm ?_
    rw [hm]
    exact List.Subset.refl _
  | mmFree m takes => exact survives_whenMm fun mm _ ↦ survives_mmCtxCleanupFree takes s m mm
  | actPdpReq => cases he
  | ggsnFound => cases he
  | deactPdpReq m ti takes =>
    exact survives_whenMm fun mm _ ↦ survives_rxGsmDeactPdpReq takes s m mm ti
  | deactPdpAck m ti takes =>
    exact survives_whenMm fun mm _ ↦ survives_rxGsmDeactPdpAck takes s mm ti
  | ctxStatus m status takes =>
    exact survives_whenMm fun mm _ ↦ survives_forPdps (survives_processCtxStatus status takes) _
  | t3395 p takes => exact survives_pdpctxTimerCb takes s p
  | deleteAll m takes =>
    exact survives_whenMm fun mm _ ↦ survives_forPdps (survives_deleteOne takes) _
  | rabAssResp m rabId usable update takes tx =>
    exact survives_whenMm fun mm _ ↦ survives_ranapRabAssResp takes s m mm rabId usable update tx
  | createConf p cause lib takes tx rabTx =>
    rw [SessState.step]
    split_ifs
    · have hanswer := survives_createPdpConf { s with creates := s.creates.erase p } p cause lib
        takes tx rabTx
      exact ⟨hanswer.ctx, hanswer.list⟩
    · exact .refl s
  | deleteConf p =>
    rw [SessState.step]
    split_ifs
    · have hanswer := survives_deletePdpConf { s with deletes := s.deletes.erase p } p
      exact ⟨hanswer.ctx, hanswer.list⟩
    · exact .refl s
  | updateConf p nonExist takes =>
    rw [SessState.step, SessState.updatePdpConf]
    split
    · exact .refl s
    · split_ifs
      · exact survives_cbDeleteContext takes s p
      · exact .refl s
  | deleteContext p takes =>
    rw [SessState.step]
    split_ifs
    · exact survives_cbDeleteContext takes s p
    · exact .refl s
  | ggsnLost g except restarted takes =>
    exact survives_forPdps (survives_dropLost restarted takes) _

end OsmoSgsn.Sm
