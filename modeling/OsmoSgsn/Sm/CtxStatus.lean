import OsmoSgsn.Library.BitSet
import OsmoSgsn.Library.Word16
import OsmoSgsn.Sm.Deactivate

/-!
# The PDP context status of a routing area update

A mobile station and the gateway tell each other in a word which NSAPIs have an active PDP context.
The word of the request makes the gateway deactivate the contexts that it leaves out; the word of
the accept tells which are left. A Delete request for a context may be refused, and else the context
stays until the GGSN has answered it, so that it is `uePdpActive` that the accept goes by.

The word comes with its low octet first, and is read so. The accept has the word as the processor
keeps it.
-/

namespace OsmoSgsn.Sm

open Word16 (load store)
open SessState (activeIn processCtxStatus)

/-- A status as it is sent: NSAPIs 0 to 7 in the first octet, 8 to 15 in the second. -/
def statusWord (octets : List UInt8) : BitVec 16 :=
  match octets with
  | [first, second] => load .little first second
  | _ => 0

namespace SessState

variable (s : SessState)

/-- The NSAPI of a context that is active at the mobile station. -/
def activeNsapi (p : PdpPtr) : Option ℕ :=
  (s.ctxs p).bind fun c ↦ if c.uePdpActive then some c.nsapi else none

/-- `encode_ms_ctx_status`. -/
def encodeMsCtxStatus (mm : SessMm) : BitVec 16 :=
  (mm.pdpList.filterMap s.activeNsapi).foldl (fun status nsapi ↦ status ||| 1#16 <<< nsapi) 0#16

/-- What `gsm48_rx_gmm_ra_upd_req` does with the PDP context status of a request, if it has one. -/
def rxGmmRaUpdReq (mm : SessMm) (ie : Option (UInt8 × UInt8)) (takes : Takes) :
    SessState × List SessOut :=
  match ie with
  | none => (s, [])
  | some (first, second) => s.processMsCtxStatus mm (load .little first second) takes

/-- `pdp_ctx_status` in `gsm48_tx_gmm_ra_upd_ack`. -/
def pdpCtxStatus (m : SessMmPtr) : BitVec 16 := (s.mms m).elim 0 s.encodeMsCtxStatus

/-- The PDP context status that `gsm48_tx_gmm_ra_upd_ack` puts into the accept. -/
def txGmmRaUpdAck (host : HostOrder) (m : SessMmPtr) : List UInt8 := store host (s.pdpCtxStatus m)

/-- An NSAPI has an active context that the request does not leave out. -/
def Agreed (mm : SessMm) (ie : Option (UInt8 × UInt8)) (n : ℕ) : Prop :=
  ∃ p ∈ mm.pdpList, ∃ c, s.ctxs p = some c ∧ c.nsapi = n ∧ c.uePdpActive = true ∧
    ∀ o ∈ ie, (load .little o.1 o.2).getLsbD n = true

end SessState

/-- What the accept says of the contexts before the update, and what the update left of them. -/
structure StatusAgrees (s : SessState) (m : SessMmPtr) (mm : SessMm) (ie : Option (UInt8 × UInt8))
    (s' : SessState) (accept : List UInt8) : Prop where
  /-- The accept marks what both sides hold to be active. -/
  word : ∀ n, (statusWord accept).getLsbD n = true ↔ s.Agreed mm ie n
  /-- What the mobile station has marked is as it was. -/
  unchanged : ∀ p ∈ mm.pdpList, ∀ c, s.ctxs p = some c →
    (∃ o ∈ ie, (load .little o.1 o.2).getLsbD c.nsapi = true) →
      s'.ctxs p = some c ∧ ∃ mm', s'.mms m = some mm' ∧ p ∈ mm'.pdpList

variable {s : SessState} {p q : PdpPtr} {c : PdpCtx} {m : SessMmPtr} {mm : SessMm} {takes : Takes}
  {status : BitVec 16}

/-! ## The loop -/

/-- The NSAPIs from 5 on are not masked. -/
theorem activeIn_eq {n : ℕ} (hlow : 5 ≤ n) (hhigh : n ≤ 15) :
    activeIn status n = status.getLsbD n := by
  have hmask : (0xffe0#16).getLsbD n = true := by interval_cases n <;> rfl
  rw [activeIn, BitVec.getLsbD_and]
  exact (congrArg (status.getLsbD n && ·) hmask).trans (Bool.and_true _)

/-- What holds before a loop and is kept by each of its rounds holds after it. -/
theorem forPdps_invariant {f : SessState → PdpPtr → SessState × List SessOut}
    {Inv : SessState → Prop} (hf : ∀ s p, Inv s → Inv (f s p).1) (ps : List PdpPtr) (h : Inv s) :
    Inv (forPdps f ps s).1 := by
  induction ps generalizing s with
  | nil => exact h
  | cons p ps ih => exact ih (hf s p h)

/-- What the round for a context brings about, and the others keep, holds after the loop. -/
theorem forPdps_of_mem {f : SessState → PdpPtr → SessState × List SessOut}
    {Inv Post : SessState → Prop} (hinv : ∀ s p, Inv s → Inv (f s p).1)
    (hpost : ∀ s p, Post s → Post (f s p).1) (hat : ∀ s, Inv s → Post (f s q).1)
    {ps : List PdpPtr} (hq : q ∈ ps) (h : Inv s) : Post (forPdps f ps s).1 := by
  induction ps generalizing s with
  | nil => cases hq
  | cons p ps ih =>
    rcases List.mem_cons.mp hq with rfl | hq
    · exact forPdps_invariant hpost ps (hat s h)
    · exact ih hq (hinv s p h)

/-- At most one context leaves the list of an MM context. -/
def LosesAtMost (p : PdpPtr) (m : SessMmPtr) (s s' : SessState) : Prop :=
  ∀ mm, s.mms m = some mm → ∃ mm', s'.mms m = some mm' ∧ mm'.pdpList ⊆ mm.pdpList ∧
    ∀ q ∈ mm.pdpList, q ≠ p → q ∈ mm'.pdpList

theorem losesAtMost_of_eq {s' : SessState} (h : s'.mms = s.mms) : LosesAtMost p m s s' :=
  fun mm hm ↦ ⟨mm, h ▸ hm, List.Subset.refl _, fun _ hq _ ↦ hq⟩

theorem losesAtMost_unlinkMm (s : SessState) (c : PdpCtx) : LosesAtMost p m s (s.unlinkMm p c) := by
  rw [SessState.unlinkMm]
  split
  · exact losesAtMost_of_eq rfl
  · rename_i n hn
    split
    · exact losesAtMost_of_eq rfl
    · rename_i x hx
      intro mm hm
      by_cases hmn : m = n
      · subst hmn
        obtain rfl := Option.some.inj (hm.symm.trans hx)
        refine ⟨_, Function.update_self .., List.filter_subset_self _, fun q hq hqp ↦ ?_⟩
        exact List.mem_filter.mpr ⟨hq, by simpa using hqp⟩
      · exact ⟨mm, (Function.update_of_ne hmn _ _).trans hm, List.Subset.refl _, fun _ hq _ ↦ hq⟩

theorem losesAtMost_deactivate (s : SessState) (c : PdpCtx) :
    LosesAtMost p m s (s.deactivate takes p c).1 := by
  rw [SessState.deactivate, SessState.deletePdpCtx]
  split_ifs
  · exact losesAtMost_of_eq rfl
  · exact losesAtMost_of_eq rfl
  · exact losesAtMost_unlinkMm s c

theorem losesAtMost_processCtxStatus (s : SessState) :
    LosesAtMost p m s (processCtxStatus status takes s p).1 := by
  rw [processCtxStatus]
  split
  · exact losesAtMost_of_eq rfl
  · split_ifs
    · exact losesAtMost_of_eq rfl
    · exact fun mm hm ↦ losesAtMost_deactivate _ _ mm hm

/-- What is left of a context that was deactivated. -/
theorem deactivate_ctxs_self {x : PdpCtx} (hc : s.ctxs p = some c)
    (hx : (s.deactivate takes p c).1.ctxs p = some x) :
    x.nsapi = c.nsapi ∧ x.uePdpActive = c.uePdpActive := by
  rw [SessState.deactivate] at hx
  split_ifs at hx
  · rw [SessState.deletePdpCtx] at hx
    split_ifs at hx
    · obtain rfl : { c with deleteSent := true } = x := by simpa using hx
      exact ⟨rfl, rfl⟩
    · obtain rfl := Option.some.inj (hc.symm.trans hx)
      exact ⟨rfl, rfl⟩
  · simp [SessState.pdpCtxFree] at hx

/-! ## Contexts that the request marks, and those that it leaves out -/

/-- A context that is marked is as it was, and in its list. -/
def Untouched (m : SessMmPtr) (q : PdpPtr) (c : PdpCtx) (s : SessState) : Prop :=
  s.ctxs q = some c ∧ ∃ mm, s.mms m = some mm ∧ q ∈ mm.pdpList

theorem Untouched.processCtxStatus (hactive : activeIn status c.nsapi = true) (s : SessState)
    (p : PdpPtr) (h : Untouched m q c s) :
    Untouched m q c (processCtxStatus status takes s p).1 := by
  obtain ⟨hc, mm, hm, hq⟩ := h
  by_cases hp : p = q
  · subst hp
    have hsame : (SessState.processCtxStatus status takes s p).1 = s := by
      simp [SessState.processCtxStatus, hc, hactive]
    rw [hsame]
    exact ⟨hc, mm, hm, hq⟩
  · obtain ⟨mm', hm', -, hmem⟩ := losesAtMost_processCtxStatus (p := p) s mm hm
    exact ⟨(processCtxStatus_ctxs_of_ne s status hp).trans hc, mm', hm', hmem q hq (Ne.symm hp)⟩

/-- A context is left out. -/
def LeftOut (status : BitVec 16) (q : PdpPtr) (s : SessState) : Prop :=
  ∀ c, s.ctxs q = some c → activeIn status c.nsapi = false

/-- A context is left out, and is not active any more. -/
def Ended (status : BitVec 16) (q : PdpPtr) (s : SessState) : Prop :=
  ∀ c, s.ctxs q = some c → activeIn status c.nsapi = false ∧ c.uePdpActive = false

/-- The round for a context that is left out. -/
theorem LeftOut.ended (h : LeftOut status q s) :
    Ended status q (processCtxStatus status takes s q).1 := by
  intro x hx
  rw [SessState.processCtxStatus] at hx
  cases hc : s.ctxs q with
  | none => simp [hc] at hx
  | some c =>
    have hactive := h c hc
    simp only [hc, hactive, Bool.false_eq_true, if_false] at hx
    obtain ⟨hnsapi, hue⟩ := deactivate_ctxs_self (by simp) hx
    exact ⟨by simpa only [hnsapi] using hactive, hue⟩

theorem LeftOut.processCtxStatus (s : SessState) (p : PdpPtr) (h : LeftOut status q s) :
    LeftOut status q (processCtxStatus status takes s p).1 := by
  by_cases hp : p = q
  · subst hp
    exact fun c hc ↦ (h.ended c hc).1
  · rw [LeftOut, processCtxStatus_ctxs_of_ne s status hp]
    exact h

theorem Ended.processCtxStatus (s : SessState) (p : PdpPtr) (h : Ended status q s) :
    Ended status q (processCtxStatus status takes s p).1 := by
  by_cases hp : p = q
  · subst hp
    have hleft : LeftOut status p s := fun c hc ↦ (h c hc).1
    exact hleft.ended
  · rw [Ended, processCtxStatus_ctxs_of_ne s status hp]
    exact h

/-! ## The words -/

/-- The word has a bit for each context that is active at the mobile station. -/
theorem getLsbD_encodeMsCtxStatus {n : ℕ} (hn : n < 16) :
    (s.encodeMsCtxStatus mm).getLsbD n = true ↔
      ∃ p ∈ mm.pdpList, ∃ c, s.ctxs p = some c ∧ c.nsapi = n ∧ c.uePdpActive = true := by
  have hnsapi : ∀ p, s.activeNsapi p = some n ↔
      ∃ c, s.ctxs p = some c ∧ c.nsapi = n ∧ c.uePdpActive = true := by
    intro p
    rw [SessState.activeNsapi, Option.bind_eq_some_iff]
    refine exists_congr fun c ↦ and_congr_right fun _ ↦ ?_
    split_ifs with hue <;> simp [hue]
  rw [SessState.encodeMsCtxStatus, BitVec.getLsbD_foldl_or _ _ hn]
  simp [List.mem_filterMap, hnsapi]

@[simp] theorem statusWord_little (v : BitVec 16) : statusWord (store .little v) = v :=
  Word16.load_high_low v

/-- Kept with the high octet first, the word is read with its octets the other way round. -/
theorem getLsbD_statusWord_big (v : BitVec 16) {n : ℕ} (hn : n < 8) :
    (statusWord (store .big v)).getLsbD n = v.getLsbD (n + 8) ∧
      (statusWord (store .big v)).getLsbD (n + 8) = v.getLsbD n :=
  Word16.getLsbD_swap v hn

/-! ## The update -/

/-- After the loop the contexts that are active are those that were, and that are marked. -/
theorem processMsCtxStatus_active (status : BitVec 16) (takes : Takes)
    (hm : s.mms m = some mm)
    (hrange : ∀ p ∈ mm.pdpList, ∀ c, s.ctxs p = some c → 5 ≤ c.nsapi ∧ c.nsapi ≤ 15) :
    ∃ mm', (s.processMsCtxStatus mm status takes).1.mms m = some mm' ∧ ∀ p c,
      (p ∈ mm'.pdpList ∧ (s.processMsCtxStatus mm status takes).1.ctxs p = some c ∧
        c.uePdpActive = true) ↔
      (p ∈ mm.pdpList ∧ s.ctxs p = some c ∧ c.uePdpActive = true ∧
        status.getLsbD c.nsapi = true) := by
  have hround : ∀ s p, (∃ x, s.mms m = some x ∧ x.pdpList ⊆ mm.pdpList) →
      ∃ x, (processCtxStatus status takes s p).1.mms m = some x ∧ x.pdpList ⊆ mm.pdpList := by
    rintro s p ⟨x, hx, hsub⟩
    obtain ⟨y, hy, hyx, -⟩ := losesAtMost_processCtxStatus (p := p) s x hx
    exact ⟨y, hy, fun q hq ↦ hsub (hyx hq)⟩
  have hsub : ∃ x, (s.processMsCtxStatus mm status takes).1.mms m = some x ∧
      x.pdpList ⊆ mm.pdpList :=
    forPdps_invariant hround mm.pdpList ⟨mm, hm, List.Subset.refl _⟩
  have hkept : ∀ p ∈ mm.pdpList, ∀ c, s.ctxs p = some c → activeIn status c.nsapi = true →
      Untouched m p c (s.processMsCtxStatus mm status takes).1 := fun p hp c hc hactive ↦
    forPdps_invariant (Untouched.processCtxStatus hactive) mm.pdpList ⟨hc, mm, hm, hp⟩
  have hended : ∀ p ∈ mm.pdpList, LeftOut status p s →
      Ended status p (s.processMsCtxStatus mm status takes).1 := fun p hp hleft ↦
    forPdps_of_mem LeftOut.processCtxStatus Ended.processCtxStatus (fun s h ↦ LeftOut.ended h)
      hp hleft
  obtain ⟨mm', hm', hsub⟩ := hsub
  refine ⟨mm', hm', fun p c ↦ ⟨?_, ?_⟩⟩
  · rintro ⟨hp, hc, hue⟩
    have hmem := hsub hp
    by_cases hactive : ∃ x, s.ctxs p = some x ∧ activeIn status x.nsapi = true
    · obtain ⟨x, hx, hactive⟩ := hactive
      obtain rfl := Option.some.inj ((hkept p hmem x hx hactive).1.symm.trans hc)
      obtain ⟨hlow, hhigh⟩ := hrange p hmem x hx
      rw [activeIn_eq hlow hhigh] at hactive
      exact ⟨hmem, hx, hue, hactive⟩
    · have hleft : LeftOut status p s := fun x hx ↦ by simpa using not_and.mp (hactive ⟨x, ·⟩) hx
      exact absurd hue (by simp [(hended p hmem hleft c hc).2])
  · rintro ⟨hp, hc, hue, hbit⟩
    obtain ⟨hlow, hhigh⟩ := hrange p hp c hc
    obtain ⟨hsame, x, hx, hmem⟩ := hkept p hp c hc ((activeIn_eq hlow hhigh).trans hbit)
    obtain rfl := Option.some.inj (hm'.symm.trans hx)
    exact ⟨hmem, hsame, hue⟩

/-- The word that is put into the accept. -/
theorem getLsbD_raUpd (hm : s.mms m = some mm)
    (hrange : ∀ p ∈ mm.pdpList, ∀ c, s.ctxs p = some c → 5 ≤ c.nsapi ∧ c.nsapi ≤ 15)
    (ie : Option (UInt8 × UInt8)) (takes : Takes) {n : ℕ} (hn : n < 16) :
    ((s.rxGmmRaUpdReq mm ie takes).1.pdpCtxStatus m).getLsbD n = true ↔ s.Agreed mm ie n := by
  cases ie with
  | none =>
    simp only [SessState.pdpCtxStatus, SessState.rxGmmRaUpdReq, hm, Option.elim_some,
      getLsbD_encodeMsCtxStatus hn]
    simp [SessState.Agreed]
  | some octets =>
    obtain ⟨mm', hm', hactive⟩ :=
      processMsCtxStatus_active (load .little octets.1 octets.2) takes hm hrange
    simp only [SessState.pdpCtxStatus, SessState.rxGmmRaUpdReq, hm', Option.elim_some,
      getLsbD_encodeMsCtxStatus hn]
    constructor
    · rintro ⟨p, hp, c, hc, rfl, hue⟩
      obtain ⟨hp, hc, hue, hbit⟩ := (hactive p c).mp ⟨hp, hc, hue⟩
      exact ⟨p, hp, c, hc, rfl, hue, fun o ho ↦ Option.mem_some.mp ho ▸ hbit⟩
    · rintro ⟨p, hp, c, hc, rfl, hue, hbit⟩
      obtain ⟨hp, hc, hue⟩ := (hactive p c).mpr ⟨hp, hc, hue, hbit octets rfl⟩
      exact ⟨p, hp, c, hc, rfl, hue⟩

/-- Outside of 5 to 15 there is no NSAPI that the two can agree on. -/
theorem not_agreed (hrange : ∀ p ∈ mm.pdpList, ∀ c, s.ctxs p = some c → 5 ≤ c.nsapi ∧ c.nsapi ≤ 15)
    (ie : Option (UInt8 × UInt8)) {n : ℕ} (hn : 16 ≤ n) : ¬ s.Agreed mm ie n := by
  rintro ⟨p, hp, c, hc, rfl, -⟩
  have hle := (hrange p hp c hc).2
  omega

/-- What the mobile station has marked is as it was. -/
theorem raUpd_unchanged (hm : s.mms m = some mm)
    (hrange : ∀ p ∈ mm.pdpList, ∀ c, s.ctxs p = some c → 5 ≤ c.nsapi ∧ c.nsapi ≤ 15)
    (ie : Option (UInt8 × UInt8)) (takes : Takes) {p : PdpPtr} (hp : p ∈ mm.pdpList)
    (hc : s.ctxs p = some c) {o : UInt8 × UInt8} (ho : o ∈ ie)
    (hbit : (load .little o.1 o.2).getLsbD c.nsapi = true) :
    Untouched m p c (s.rxGmmRaUpdReq mm ie takes).1 := by
  obtain rfl := Option.mem_def.mp ho
  obtain ⟨hlow, hhigh⟩ := hrange p hp c hc
  have hactive := (activeIn_eq hlow hhigh).trans hbit
  exact forPdps_invariant (Untouched.processCtxStatus hactive) mm.pdpList ⟨hc, mm, hm, hp⟩

/-- **Status agreement.** An update brings the two sides to agree exactly if the processor keeps the
low octet of a word first, or the word that they agree on has two equal octets. -/
theorem statusAgrees_iff (host : HostOrder) (s : SessState) (m : SessMmPtr) (mm : SessMm)
    (hm : s.mms m = some mm)
    (hrange : ∀ p ∈ mm.pdpList, ∀ c, s.ctxs p = some c → 5 ≤ c.nsapi ∧ c.nsapi ≤ 15)
    (ie : Option (UInt8 × UInt8)) (takes : Takes) :
    StatusAgrees s m mm ie (s.rxGmmRaUpdReq mm ie takes).1
        ((s.rxGmmRaUpdReq mm ie takes).1.txGmmRaUpdAck host m) ↔
      host = .little ∨ ∀ n < 8, s.Agreed mm ie n ↔ s.Agreed mm ie (n + 8) := by
  have hword := fun n (hn : n < 16) ↦ getLsbD_raUpd hm hrange ie takes hn
  have hunchanged := fun p hp c hc o ho hbit ↦
    @raUpd_unchanged s c m mm hm hrange ie takes p hp hc o ho hbit
  rw [SessState.txGmmRaUpdAck]
  generalize (s.rxGmmRaUpdReq mm ie takes).1 = s' at hword hunchanged ⊢
  generalize s'.pdpCtxStatus m = v at hword ⊢
  constructor
  · intro h
    cases host with
    | little => exact .inl rfl
    | big =>
      refine .inr fun n hn ↦ ?_
      have hsent : (statusWord (store .big v)).getLsbD n = v.getLsbD (n + 8) :=
        (getLsbD_statusWord_big v hn).1
      rw [← h.word n, hsent]
      exact hword (n + 8) (by omega)
  · intro hcond
    refine ⟨fun n ↦ ?_, fun p hp c hc ⟨o, ho, hbit⟩ ↦ hunchanged p hp c hc o ho hbit⟩
    rcases Nat.lt_or_ge n 16 with hn | hn
    · cases host with
      | little =>
        rw [statusWord_little]
        exact hword n hn
      | big =>
        have hsame := hcond.resolve_left (by simp)
        rcases Nat.lt_or_ge n 8 with hlow | hhigh
        · rw [(getLsbD_statusWord_big v hlow).1, hword (n + 8) (by omega)]
          exact (hsame n hlow).symm
        · obtain ⟨k, rfl⟩ := Nat.exists_eq_add_of_le' hhigh
          rw [(getLsbD_statusWord_big v (by omega)).2, hword k (by omega)]
          exact hsame k (by omega)
    · rw [BitVec.getLsbD_of_ge _ _ hn]
      exact iff_of_false (by simp) (not_agreed hrange ie hn)

/-- What `activatedOnGb` has made of the MM context. -/
theorem activatedOnGb_mm : (sessMachine.run .start activatedOnGb).mms 1 =
    some ⟨.geranGb, false, false, [0]⟩ := by
  decide +kernel

theorem activatedOnGb_range : ∀ p ∈ [0], ∀ c,
    (sessMachine.run .start activatedOnGb).ctxs p = some c → 5 ≤ c.nsapi ∧ c.nsapi ≤ 15 := by
  intro p hp c hc
  obtain rfl := List.mem_singleton.mp hp
  obtain rfl := Option.some.inj (activatedOnGb_ctx.symm.trans hc)
  decide

/-- The mobile station tells that NSAPI 5 is active. -/
theorem activatedOnGb_statusAgrees :
    let s := sessMachine.run .start activatedOnGb
    let mm : SessMm := ⟨.geranGb, false, false, [0]⟩
    let takes : Takes := fun _ ↦ true
    StatusAgrees s 1 mm (some (0x20, 0)) (s.rxGmmRaUpdReq mm (some (0x20, 0)) takes).1
        ((s.rxGmmRaUpdReq mm (some (0x20, 0)) takes).1.txGmmRaUpdAck .little 1) ↔
      HostOrder.little = .little ∨
        ∀ n < 8, s.Agreed mm (some (0x20, 0)) n ↔ s.Agreed mm (some (0x20, 0)) (n + 8) :=
  statusAgrees_iff .little _ 1 _ activatedOnGb_mm activatedOnGb_range (some (0x20, 0)) _

/-- On a processor that keeps the high octet first, the accept tells that NSAPI 13 is active. -/
theorem activatedOnGb_not_statusAgrees :
    let s := sessMachine.run .start activatedOnGb
    let mm : SessMm := ⟨.geranGb, false, false, [0]⟩
    let s' := (s.rxGmmRaUpdReq mm (some (0x20, 0)) fun _ ↦ true).1
    s'.txGmmRaUpdAck .big 1 = [0, 0x20] ∧ statusWord [0, 0x20] = 1#16 <<< 13 ∧
      ¬ StatusAgrees s 1 mm (some (0x20, 0)) s' (s'.txGmmRaUpdAck .big 1) := by
  intro s mm s'
  have hsent : s'.txGmmRaUpdAck .big 1 = [0, 0x20] := by decide +kernel
  refine ⟨hsent, by decide, fun h ↦ ?_⟩
  rw [hsent] at h
  have hmarked : (statusWord [0, 0x20]).getLsbD 13 = true := by decide
  obtain ⟨p, hp, c, hc, hnsapi, -⟩ := (h.word 13).mp hmarked
  obtain rfl := List.mem_singleton.mp hp
  obtain rfl := Option.some.inj (activatedOnGb_ctx.symm.trans hc)
  cases hnsapi

end OsmoSgsn.Sm
