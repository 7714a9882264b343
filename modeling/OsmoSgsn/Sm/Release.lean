import OsmoSgsn.Sm.Teardown

/-!
# Sessions are released and contexts are awaited

When a PDP context is freed or detached, the GGSN should not be left with its session, and a context
that is detached should have an answer to wait for. Both fail where `sgsn_delete_pdp_ctx` skips a
context that is not in `PDP_STATE_CR_CONF`: only the RAB Assignment Response puts a context there,
so on Gb no context ever is.

`ReleasesLeft` and `AwaitsDetached` are the steps that do not meet this.
-/

namespace OsmoSgsn.Sm

variable {s s' : SessState} {p q : PdpPtr} {c c' : PdpCtx} {m : SessMmPtr} {mm : SessMm}
  {takes : Takes} {r : SessState × List SessOut}

/-! ## Sessions -/

/-- A Create request that the GGSN has accepted is not rejected, unless the session is released. A
context that an MM context leaves is confirmed and its Delete request is taken, unless its session
is released. -/
def ReleasesLeft (s : SessState) : SessEvent → Prop
  | .createConf p .accepted _ _ _ rabTx => p ∈ s.creates → ∀ c, s.ctxs p = some c →
    Rejects s c rabTx → c.deleteSent = true ∨ c.ggsnReleased = true
  | .mmFree m takes => ∀ mm, s.mms m = some mm → ∀ p ∈ mm.pdpList, ∀ c, s.ctxs p = some c →
    c.createAccepted = true → c.deleteSent = true ∨ c.ggsnReleased = true ∨
      c.state = .crConf ∧ takes p = true
  | _ => True

/-- A context is freed with no handle and no state. -/
theorem leaves_createPdpRejected {G : PdpCtx → Prop} (s : SessState) (p : PdpPtr) (c : PdpCtx) :
    (∀ o ∈ (s.createPdpRejected p c).2, o.Leaves G) ↔
      G { c with state := .none, lib := false } := by
  constructor
  · intro hall
    exact hall (.freed p { c with state := .none, lib := false })
      (List.mem_append_right _ List.mem_cons_self)
  · intro hG o ho
    rcases List.mem_append.mp ho with ho | ho
    · -- the reject, if there still is an MM context
      dsimp only at ho
      split at ho
      · obtain rfl := List.mem_singleton.mp ho
        trivial
      · exact absurd ho List.not_mem_nil
    · obtain rfl := List.mem_singleton.mp ho
      exact hG

theorem leaves_createConf (h : Linked s) (p : PdpPtr) (cause : CreateCause) (lib tx rabTx : Bool) :
    (∀ o ∈ (s.step (.createConf p cause lib takes tx rabTx)).2, o.Leaves PdpCtx.Released) ↔
      ReleasesLeft s (.createConf p cause lib takes tx rabTx) := by
  have hcond : (cause = .accepted → p ∈ s.creates → ∀ c, s.ctxs p = some c → Rejects s c rabTx →
      c.deleteSent = true ∨ c.ggsnReleased = true) ↔
      ReleasesLeft s (.createConf p cause lib takes tx rabTx) := by
    cases cause <;> simp [ReleasesLeft]
  rw [← hcond]
  by_cases hp : p ∈ s.creates
  swap
  · rw [SessState.step, if_neg hp]
    exact ⟨fun _ _ hyes ↦ absurd hyes hp, fun _ ↦ by simp⟩
  rcases createConf_cases takes h hp cause lib tx rabTx rfl with
    ⟨hc, heq⟩ | ⟨c, hc, ⟨hcause, hrej, heq⟩ | ⟨hcause, -, heq⟩ | ⟨hcause, -, heq⟩ | ⟨-, hno, hact⟩⟩
  · rw [heq]
    refine ⟨fun _ _ _ c hsome ↦ ?_, fun _ ↦ by simp [SessOut.Leaves]⟩
    rw [hc] at hsome
    cases hsome
  · rw [heq, leaves_createPdpRejected]
    constructor
    · intro hreleased _ _ x hx _
      obtain rfl := Option.some.inj (hc.symm.trans hx)
      exact hreleased rfl
    · intro hall _
      exact hall hcause hp c hc hrej
  · rw [heq, leaves_createPdpRejected]
    refine ⟨fun _ hyes ↦ absurd hyes hcause, fun _ hyes ↦ ?_⟩
    exact absurd hyes (by simp [(h.sound p c hc).create hp])
  · rw [heq]
    exact ⟨fun _ hyes ↦ absurd hyes hcause, fun _ ↦ by simp [SessOut.Leaves]⟩
  · refine ⟨fun _ hcause _ x hx hrej ↦ ?_, fun _ ↦ hact.leaves⟩
    obtain rfl := Option.some.inj (hc.symm.trans hx)
    exact absurd hrej (hno hcause)

/-- A context that was detached has its session released, unless it could not be deleted. -/
theorem PdpCtx.detached_released (hs : c.Sound s p) : (c.detached takes p).Released ↔
    (c.createAccepted = true → c.deleteSent = true ∨ c.ggsnReleased = true ∨
      c.state = .crConf ∧ takes p = true) := by
  have hdel : c.ggsnReleased = false → (c.Deletable takes p ↔ c.state = .crConf ∧ takes p = true) :=
    fun hnot ↦ hs.deletable_iff (hs.ggsn hnot)
  simp only [PdpCtx.Released, PdpCtx.detached, Bool.or_eq_true, decide_eq_true_eq]
  refine imp_congr_right fun _ ↦ ?_
  cases hreleased : c.ggsnReleased with
  | true => simp
  | false => simp [hdel hreleased]

theorem leaves_mmFree (h : Linked s) (m : SessMmPtr) :
    (∀ o ∈ (s.step (.mmFree m takes)).2, o.Leaves PdpCtx.Released) ↔
      ReleasesLeft s (.mmFree m takes) := by
  cases hm : s.mms m with
  | none =>
    rw [SessState.step, whenMm_of_none hm]
    simp [ReleasesLeft, hm]
  | some mm =>
    obtain ⟨hloop, heq⟩ := mmCtxCleanupFree_eq takes h hm
    rw [SessState.step, whenMm_of_some hm, heq]
    constructor
    · intro hall x hx p hp c hc
      obtain rfl := Option.some.inj (hm.symm.trans hx)
      exact (PdpCtx.detached_released (h.sound p c hc)).mp (hall _ (hloop.terminated p hp c hc))
    · intro hok o ho
      rcases hloop.outs o ho with ⟨q, -, rfl⟩ | ⟨q, hq, c, hc, rfl⟩
      · trivial
      · exact (PdpCtx.detached_released (h.sound q c hc)).mpr (hok mm hm q hq c hc)

/-- An event leaves only released sessions behind exactly when it meets the condition. -/
theorem leaves_step_iff (h : Linked s) (e : SessEvent) :
    (∀ o ∈ (s.step e).2, o.Leaves PdpCtx.Released) ↔ ReleasesLeft s e := by
  have hplain : e.Plain s → ∀ o ∈ (s.step e).2, o.Leaves PdpCtx.Released := by
    intro he
    rcases step_of_plain h he with hact | ⟨m, new, -, heq⟩ |
      ⟨m, mm, g, nsapi, sapi, ti, takes, hm, heq⟩
    · exact hact.leaves
    · simp [heq]
    · rw [heq, SessState.activateGgsn]
      split
      · simp
      · simp only []
        split_ifs <;> simp [SessOut.Leaves]
  cases e with
  | mmFree m takes => exact leaves_mmFree h m
  | createConf p cause lib takes tx rabTx => exact leaves_createConf h p cause lib tx rabTx
  | deleteConf p =>
    refine ⟨fun _ ↦ trivial, fun _ ↦ ?_⟩
    by_cases hp : p ∈ s.deletes
    · rcases deleteConf_cases h hp rfl with ⟨-, heq⟩ | ⟨c, -, -, hact⟩
      · simp [heq, SessOut.Leaves]
      · exact hact.leaves
    · exact hplain hp
  | _ => exact ⟨fun _ ↦ trivial, fun _ ↦ hplain trivial⟩

/-- **Sessions are not leaked, exactly when.** In a run every context that is freed or detached has
its session released, if and only if every step meets `ReleasesLeft`. -/
theorem released_run (es : List SessEvent) :
    (∀ o ∈ sessMachine.trace .start es, o.Leaves PdpCtx.Released) ↔
      sessMachine.Meets ReleasesLeft .start es :=
  Machine.forall_mem_trace_iff_of_invariant ReleasesLeft Linked (fun _ e hs ↦ hs.step e)
    (fun _ e hs ↦ leaves_step_iff hs e) linked_start

/-- A mobile station on Gb activates a context, and its MM context goes away. -/
def detachedOnGb : List SessEvent :=
  [.mmAlloc 1 .geranGb, .actPdpReq 1 (some 7) 5 3 2 (fun _ ↦ true) true true,
    .createConf 0 .accepted true (fun _ ↦ true) true true, .mmFree 1 fun _ ↦ true]

/-- The GGSN has accepted the context, and it is detached without a Delete request. -/
theorem detachedOnGb_not_released :
    ¬ ∀ o ∈ sessMachine.trace .start detachedOnGb, o.Leaves PdpCtx.Released := by
  intro hall
  have hout : SessOut.terminated 0
      ⟨5, 3, 2, none, some 7, true, true, .crReq, true, none, true, true, false, false⟩ ∈
      sessMachine.trace .start detachedOnGb := by
    decide +kernel
  exact absurd (hall _ hout rfl) (by decide)

/-! ## Contexts that wait -/

/-- Every context of `sgsn->pdp_list` is in the list of its MM context, or the library holds a
request of it. -/
def NoOrphans (s : SessState) : Prop :=
  ∀ p ∈ s.pdpList, ∃ c, s.ctxs p = some c ∧
    ((∃ m mm, c.mm = some m ∧ s.mms m = some mm ∧ p ∈ mm.pdpList) ∨ p ∈ s.creates ∨ p ∈ s.deletes)

/-- For every context that an MM context leaves, the library holds a request, or takes a Delete
request of a context that is confirmed. -/
def AwaitsDetached (s : SessState) : SessEvent → Prop
  | .mmFree m takes => ∀ mm, s.mms m = some mm → ∀ p ∈ mm.pdpList, ∀ c, s.ctxs p = some c →
    p ∈ s.creates ∨ p ∈ s.deletes ∨ c.ggsn.isSome ∧ c.state = .crConf ∧ takes p = true
  | _ => True

theorem noOrphans_iff (h : Linked s) : NoOrphans s ↔ Waits s := by
  constructor
  · intro hno p c hc hmm
    obtain ⟨x, hx, ⟨m, mm, hm, -, -⟩ | hwaits⟩ :=
      hno p ((h.listed p).mpr (Option.isSome_of_eq_some hc))
    · obtain rfl := Option.some.inj (hc.symm.trans hx)
      rw [hmm] at hm
      cases hm
    · exact hwaits
  · intro hwaits p hp
    obtain ⟨c, hc⟩ := Option.isSome_iff_exists.mp ((h.listed p).mp hp)
    refine ⟨c, hc, ?_⟩
    cases hmm : c.mm with
    | none => exact .inr (hwaits p c hc hmm)
    | some m =>
      obtain ⟨mm, hm, hmem⟩ := h.mmOf p c m hc hmm
      exact .inl ⟨m, mm, rfl, hm, hmem⟩

/-- A context is freed, and the others wait. -/
theorem waits_pdpCtxFree (h : ∀ q ≠ p, ∀ x, s.ctxs q = some x → x.mm = none →
    q ∈ s.creates ∨ q ∈ s.deletes) : Waits (s.pdpCtxFree p c).1 := by
  intro q x hx hmm
  by_cases hq : q = p
  · simp [SessState.pdpCtxFree, hq] at hx
  · have hx : s.ctxs q = some x := by simpa [SessState.pdpCtxFree, hq] using hx
    simpa [SessState.pdpCtxFree] using h q hq x hx hmm

/-- An answer concerns one context. -/
theorem Waits.others (h : Waits s) {creates deletes : List PdpPtr}
    (hcreates : ∀ q ≠ p, q ∈ s.creates → q ∈ creates)
    (hdeletes : ∀ q ≠ p, q ∈ s.deletes → q ∈ deletes) :
    ∀ q ≠ p, ∀ x, s.ctxs q = some x → x.mm = none → q ∈ creates ∨ q ∈ deletes :=
  fun q hq x hx hmm ↦ (h q x hx hmm).imp (hcreates q hq) (hdeletes q hq)

theorem waits_createConf (h : Linked s) (hw : Waits s) (hp : p ∈ s.creates) (cause : CreateCause)
    (lib tx rabTx : Bool) : Waits (s.step (.createConf p cause lib takes tx rabTx)).1 := by
  have hothers : ∀ q ≠ p, ∀ x, s.ctxs q = some x → x.mm = none →
      q ∈ s.creates.erase p ∨ q ∈ s.deletes :=
    hw.others (fun q hq hmem ↦ (List.mem_erase_of_ne hq).mpr hmem) fun _ _ hmem ↦ hmem
  have hkeep : (∀ x, s.ctxs p = some x → x.mm ≠ none) →
      Waits { s with creates := s.creates.erase p } := by
    intro hmine q x hx hmm
    by_cases hq : q = p
    · exact absurd hmm (hmine x (hq ▸ hx))
    · exact hothers q hq x hx hmm
  rcases createConf_cases takes h hp cause lib tx rabTx rfl with
    ⟨hc, heq⟩ | ⟨c, hc, ⟨-, -, heq⟩ | ⟨-, -, heq⟩ | ⟨-, hmm, heq⟩ | ⟨hmm, -, hact⟩⟩
  · rw [heq]
    refine hkeep fun x hx ↦ ?_
    rw [hc] at hx
    cases hx
  · rw [heq]
    exact waits_pdpCtxFree hothers
  · rw [heq]
    exact waits_pdpCtxFree hothers
  · rw [heq]
    intro q x hx hnone
    by_cases hq : q = p
    · exact .inl (hq ▸ List.mem_cons_self)
    · have hx : s.ctxs q = some x := by simpa [SessState.setPdp, hq] using hx
      exact (hothers q hq x hx hnone).imp_left (List.mem_cons_of_mem _)
  · refine hact.waits (hkeep fun x hx ↦ ?_)
    obtain rfl := Option.some.inj (hc.symm.trans hx)
    exact hmm

theorem waits_deleteConf (h : Linked s) (hw : Waits s) (hp : p ∈ s.deletes) :
    Waits (s.step (.deleteConf p)).1 := by
  have hothers : ∀ q ≠ p, ∀ x, s.ctxs q = some x → x.mm = none →
      q ∈ s.creates ∨ q ∈ s.deletes.erase p :=
    hw.others (fun _ _ hmem ↦ hmem) fun q hq hmem ↦ (List.mem_erase_of_ne hq).mpr hmem
  rcases deleteConf_cases h hp rfl with ⟨hc, heq⟩ | ⟨c, -, heq, -⟩
  · rw [heq]
    intro q x hx hmm
    by_cases hq : q = p
    · have hx : s.ctxs q = some x := hx
      rw [hq, hc] at hx
      cases hx
    · exact hothers q hq x hx hmm
  · rw [heq]
    exact waits_pdpCtxFree hothers

theorem waits_mmFree (h : Linked s) (hw : Waits s) (m : SessMmPtr) :
    Waits (s.step (.mmFree m takes)).1 ↔ AwaitsDetached s (.mmFree m takes) := by
  cases hm : s.mms m with
  | none =>
    rw [SessState.step, whenMm_of_none hm]
    exact ⟨fun _ mm hmm ↦ by simp [hm] at hmm, fun _ ↦ hw⟩
  | some mm =>
    obtain ⟨hloop, heq⟩ := mmCtxCleanupFree_eq takes h hm
    have hcreates :
        ((forPdps (SessState.pdpCtxTerminate takes) mm.pdpList s).1.setMm m none).creates =
          s.creates := hloop.creates
    have hdeletes : ∀ q,
        q ∈ ((forPdps (SessState.pdpCtxTerminate takes) mm.pdpList s).1.setMm m none).deletes ↔
          q ∈ s.deletes ∨ q ∈ mm.pdpList ∧ ∃ c, s.ctxs q = some c ∧ c.Deletable takes q :=
      hloop.deletes
    rw [SessState.step, whenMm_of_some hm, heq]
    constructor
    · intro hwaits x hx p hp c hc
      obtain rfl := Option.some.inj (hm.symm.trans hx)
      have hctx : (forPdps (SessState.pdpCtxTerminate takes) mm.pdpList s).1.ctxs p =
          some (c.detached takes p) := by
        rw [hloop.detached p hp, hc]
        rfl
      rcases hwaits p _ hctx rfl with hmem | hmem
      · exact .inl (hcreates ▸ hmem)
      · rcases (hdeletes p).mp hmem with hold | ⟨-, y, hy, hd⟩
        · exact .inr (.inl hold)
        · obtain rfl := Option.some.inj (hc.symm.trans hy)
          exact .inr (.inr ⟨hd.1, hd.2.2⟩)
    · intro hok q x hx hmm
      have hx : (forPdps (SessState.pdpCtxTerminate takes) mm.pdpList s).1.ctxs q = some x := hx
      rw [hcreates, hdeletes]
      by_cases hq : q ∈ mm.pdpList
      · obtain ⟨c, hc, -⟩ := h.ofMm m mm q hm hq
        rcases hok mm hm q hq c hc with hmem | hmem | hd
        · exact .inl hmem
        · exact .inr (.inl hmem)
        · exact .inr (.inr ⟨hq, c, hc, ((h.sound q c hc).deletable_iff hd.1).mpr hd.2⟩)
      · rw [hloop.others q hq] at hx
        exact (hw q x hx hmm).imp_right .inl

/-- A new context belongs to its MM context. -/
theorem waits_alloc {r : SessState} {new : PdpCtx} (hw : Waits s) (hmm : new.mm ≠ none)
    (hctxs : r.ctxs = Function.update s.ctxs p (some new)) (hcreates : s.creates ⊆ r.creates)
    (hdeletes : r.deletes = s.deletes) : Waits r := by
  intro q x hx hnone
  rw [hctxs] at hx
  by_cases hq : q = p
  · subst hq
    obtain rfl : new = x := by simpa using hx
    exact absurd hnone hmm
  · have hx : s.ctxs q = some x := by simpa [hq] using hx
    rw [hdeletes]
    exact (hw q x hx hnone).imp_left fun hmem ↦ hcreates hmem

theorem waits_activateGgsn (hw : Waits s) (m : SessMmPtr) (mm : SessMm) (g : GgsnPtr)
    (nsapi sapi ti : ℕ) : Waits (s.activateGgsn m mm g nsapi sapi ti takes).1 := by
  rw [SessState.activateGgsn]
  split
  · exact hw
  · by_cases htakes : takes s.nextPdp = true
    · simp only [htakes, if_true]
      exact waits_alloc hw (by simp) rfl (List.subset_cons_self _ _) rfl
    · simp only [htakes, Bool.false_eq_true, if_false]
      exact waits_alloc hw (by simp) rfl (List.Subset.refl _) rfl

/-- An event leaves no context without a request exactly when it meets the condition. -/
theorem waits_step_iff (h : Linked s) (hw : Waits s) (e : SessEvent) :
    Waits (s.step e).1 ↔ AwaitsDetached s e := by
  have hplain : e.Plain s → Waits (s.step e).1 := by
    intro he
    rcases step_of_plain h he with hact | ⟨m, new, -, heq⟩ |
      ⟨m, mm, g, nsapi, sapi, ti, takes, hm, heq⟩
    · exact hact.waits hw
    · rw [heq]
      exact hw
    · rw [heq]
      exact waits_activateGgsn hw m mm g nsapi sapi ti
  cases e with
  | mmFree m takes => exact waits_mmFree h hw m
  | createConf p cause lib takes tx rabTx =>
    refine ⟨fun _ ↦ trivial, fun _ ↦ ?_⟩
    by_cases hp : p ∈ s.creates
    · exact waits_createConf h hw hp cause lib tx rabTx
    · exact hplain hp
  | deleteConf p =>
    refine ⟨fun _ ↦ trivial, fun _ ↦ ?_⟩
    by_cases hp : p ∈ s.deletes
    · exact waits_deleteConf h hw hp
    · exact hplain hp
  | _ => exact ⟨fun _ ↦ trivial, fun _ ↦ hplain trivial⟩

/-- A context of no MM context is freed by the next answer. -/
theorem freed_of_createConf (h : Linked s) (hp : p ∈ s.creates) (hc : s.ctxs p = some c)
    (hmm : c.mm = none) (cause : CreateCause) (lib tx rabTx : Bool) :
    (s.step (.createConf p cause lib takes tx rabTx)).1.ctxs p = none := by
  rcases createConf_cases takes h hp cause lib tx rabTx rfl with
    ⟨hnone, -⟩ | ⟨x, hx, ⟨-, -, heq⟩ | ⟨-, -, heq⟩ | ⟨-, hxm, -⟩ | ⟨hxm, -⟩⟩
  · rw [hc] at hnone
    cases hnone
  · simp [heq, SessState.createPdpRejected, SessState.pdpCtxFree]
  · simp [heq, SessState.createPdpRejected, SessState.pdpCtxFree]
  · obtain rfl := Option.some.inj (hc.symm.trans hx)
    exact absurd hmm hxm
  · obtain rfl := Option.some.inj (hc.symm.trans hx)
    exact absurd hmm hxm

theorem freed_of_deleteConf (h : Linked s) (hp : p ∈ s.deletes) (hc : s.ctxs p = some c) :
    (s.step (.deleteConf p)).1.ctxs p = none := by
  rcases deleteConf_cases h hp rfl with ⟨hnone, -⟩ | ⟨x, -, heq, -⟩
  · rw [hc] at hnone
    cases hnone
  · simp [heq, SessState.pdpCtxFree]

/-- In a state each answer that the library owes a context of no MM context frees it. -/
def AnswersFree (s : SessState) : Prop :=
  ∀ p c, s.ctxs p = some c → c.mm = none →
    (∀ cause lib takes tx rabTx, p ∈ s.creates →
      (s.step (.createConf p cause lib takes tx rabTx)).1.ctxs p = none) ∧
    (p ∈ s.deletes → (s.step (.deleteConf p)).1.ctxs p = none)

/-- **No orphans, exactly when.** In all states of a run every context belongs to an MM context or
has an answer to wait for, which frees it, if and only if every step meets `AwaitsDetached`. -/
theorem noOrphans_run (es : List SessEvent) :
    (∀ n, NoOrphans (sessMachine.run .start (es.take n)) ∧
        AnswersFree (sessMachine.run .start (es.take n))) ↔
      sessMachine.Meets AwaitsDetached .start es := by
  have hwaits : (∀ n, Waits (sessMachine.run .start (es.take n))) ↔
      sessMachine.Meets AwaitsDetached .start es :=
    Machine.forall_take_iff AwaitsDetached Linked (fun _ e hs ↦ hs.step e)
      (fun _ e hs hw ↦ waits_step_iff hs hw e) linked_start fun p c hc ↦ by cases hc
  rw [← hwaits]
  refine forall_congr' fun n ↦ ?_
  have hlinked := linked_run (es.take n)
  rw [noOrphans_iff hlinked]
  refine and_iff_left fun p c hc hmm ↦ ⟨?_, ?_⟩
  · intro cause lib takes tx rabTx hp
    exact freed_of_createConf hlinked hp hc hmm cause lib tx rabTx
  · intro hp
    exact freed_of_deleteConf hlinked hp hc

/-- The context that was detached on Gb is left with nothing to wait for. -/
theorem detachedOnGb_orphan : ¬ NoOrphans (sessMachine.run .start detachedOnGb) := by
  intro hno
  obtain ⟨c, hc, hbelongs⟩ := hno 0 (by decide +kernel)
  have hctx : (sessMachine.run .start detachedOnGb).ctxs 0 =
      some ⟨5, 3, 2, none, some 7, true, true, .crReq, true, none, true, true, false, false⟩ := by
    decide +kernel
  obtain rfl := Option.some.inj (hctx.symm.trans hc)
  rcases hbelongs with ⟨m, mm, hm, -⟩ | hmem | hmem
  · cases hm
  · exact absurd hmem (by decide +kernel)
  · exact absurd hmem (by decide +kernel)

end OsmoSgsn.Sm
