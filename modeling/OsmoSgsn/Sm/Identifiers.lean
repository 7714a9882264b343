import OsmoSgsn.Llc.Entity
import OsmoSgsn.Sm.Survivors

/-!
# Telling the PDP contexts of a mobile station apart

A PDP context is found by its NSAPI or by its transaction identifier, and its packets go to the LLC
entity that its SAPI is the index of. All three come with the Activate PDP Context Request, and go
into the context when it is made: at once, or when the name of its access point was looked up. By
then the mobile station may have asked for more, and a look-up that is not the last of its MM
context is still answered.

The NSAPI is checked before a context is made. The transaction identifier and the SAPI are not.
-/

namespace OsmoSgsn.Sm

open Llc (numSapis)

/-- A pointer to a look-up. -/
abbrev SessLookupPtr := ℕ

/-- `struct sgsn_ggsn_lookup`. -/
structure SessGgsnLookup where
  /-- `SGSN_GGSN_3DIGIT`. -/
  threeDigit : Bool
  mmctx : Option SessMmPtr
  nsapi : ℕ
  sapi : ℕ
  ti : ℕ
  deriving DecidableEq, Repr

/-- Sessions, and the look-ups that are to find GGSNs for more. -/
structure LookupState where
  sess : SessState
  lookups : SessLookupPtr → Option SessGgsnLookup
  /-- `mmctx->ggsn_lookup`. -/
  ggsnLookup : SessMmPtr → Option SessLookupPtr
  /-- The look-ups whose query was not answered. -/
  queries : List SessLookupPtr
  nextLookup : SessLookupPtr

/-- Whether a name is looked up: there is none, or it may not be looked up; the query cannot be
sent; it is sent. -/
inductive Query
  | none | fails | starts
  deriving DecidableEq, Repr

/-- What a query is answered with: a GGSN, or nothing. A query can then be sent `again`, or not. -/
inductive Answer
  | found (g : GgsnPtr)
  | failed (again : Bool)
  deriving DecidableEq, Repr

/-- What happens at a gateway that looks names up. -/
inductive LookupEvent
  | actPdpReq (m : SessMmPtr) (g : Option GgsnPtr) (query : Query) (nsapi sapi ti : ℕ)
      (takes : Takes) (tx rabTx : Bool)
  | ggsnLookupCb (l : SessLookupPtr) (answer : Answer) (takes : Takes)
  /-- Another event. -/
  | sess (e : SessEvent)

namespace LookupState

variable (s : LookupState)

/-- What sessions do. -/
def onSess (r : SessState × List SessOut) : LookupState × List SessOut :=
  ({ s with sess := r.1 }, r.2)

/-- A look-up for the same SAPI and transaction identifier is going on. -/
def retransmitted (m : SessMmPtr) (sapi ti : ℕ) : Bool :=
  ((s.ggsnLookup m).bind s.lookups).any fun lookup ↦ lookup.sapi = sapi ∧ lookup.ti = ti

/-- Start to look a name up. -/
def schedule (m : SessMmPtr) (nsapi sapi ti : ℕ) (sent : Bool) : LookupState :=
  { s with
    lookups := Function.update s.lookups s.nextLookup (some ⟨false, some m, nsapi, sapi, ti⟩)
    ggsnLookup := Function.update s.ggsnLookup m (some s.nextLookup)
    queries := if sent then s.nextLookup :: s.queries else s.queries
    nextLookup := s.nextLookup + 1 }

/-- `do_act_pdp_req`, with the GGSN that is chosen. -/
def doActPdpReq (m : SessMmPtr) (mm : SessMm) (g : Option GgsnPtr) (query : Query)
    (nsapi sapi ti : ℕ) (takes : Takes) (tx rabTx : Bool) : LookupState × List SessOut :=
  if nsapi < 5 ∨ 15 < nsapi ∨ (s.sess.pdpCtxByNsapi mm nsapi).isSome then
    s.onSess (s.sess.doActPdpReq m mm g nsapi sapi ti takes tx rabTx)
  else if s.retransmitted m sapi ti then (s, [])
  else
    match g, query with
    | some g, _ => s.onSess (s.sess.activateGgsn m mm g nsapi sapi ti takes)
    | none, .none => (s, [.actPdpRej m ti])
    -- The look-up stays with its MM context, and is never answered.
    | none, .fails => (s.schedule m nsapi sapi ti false, [.actPdpRej m ti])
    | none, .starts => (s.schedule m nsapi sapi ti true, [])

/-- Free a look-up that was answered. -/
def freeLookup (l : SessLookupPtr) : LookupState :=
  { s with lookups := Function.update s.lookups l none, queries := s.queries.erase l }

/-- Forget the look-up of an MM context, whichever it is. -/
def forgetLookup (m : SessMmPtr) : LookupState :=
  { s with ggsnLookup := Function.update s.ggsnLookup m none }

/-- `ggsn_lookup_cb`. -/
def ggsnLookupCb (l : SessLookupPtr) (answer : Answer) (takes : Takes) :
    LookupState × List SessOut :=
  match s.lookups l with
  | none => (s, [])
  | some lookup =>
    match lookup.mmctx, answer with
    | none, _ => (s.freeLookup l, [])
    | some m, .found g =>
      ((s.forgetLookup m).freeLookup l).onSess (s.sess.whenMm m fun mm ↦
        s.sess.activateGgsn m mm g lookup.nsapi lookup.sapi lookup.ti takes)
    | some m, .failed again =>
      if lookup.threeDigit = false ∧ again then
        ({ s with
          lookups := Function.update s.lookups l (some { lookup with threeDigit := true }) }, [])
      else ((s.forgetLookup m).freeLookup l, [.actPdpRej m lookup.ti])

/-- An MM context goes away: its look-up forgets it. -/
def detachLookup (m : SessMmPtr) : LookupState :=
  match s.ggsnLookup m with
  | none => s
  | some l =>
    { s.forgetLookup m with
      lookups := Function.update s.lookups l
        ((s.lookups l).map fun lookup ↦ { lookup with mmctx := none }) }

/-- One event. Only queries that were sent are answered. -/
def step (s : LookupState) : LookupEvent → LookupState × List SessOut
  | .actPdpReq m g query nsapi sapi ti takes tx rabTx =>
    match s.sess.mms m with
    | none => (s, [])
    | some mm => s.doActPdpReq m mm g query nsapi sapi ti takes tx rabTx
  | .ggsnLookupCb l answer takes => if l ∈ s.queries then s.ggsnLookupCb l answer takes else (s, [])
  | .sess e =>
    match e with
    | .mmFree m takes => (s.detachLookup m).onSess (s.sess.step (.mmFree m takes))
    | e => if e.activates then (s, []) else s.onSess (s.sess.step e)

/-- A gateway that was just started. -/
def start : LookupState where
  sess := .start
  lookups _ := none
  ggsnLookup _ := none
  queries := []
  nextLookup := 0

end LookupState

/-- The machine of PDP contexts with look-ups. -/
def lookupMachine : Machine LookupState LookupEvent SessOut where
  step := LookupState.step

/-! ## What is to hold, and when -/

/-- NSAPIs are those of PDP contexts, and tell them apart. -/
structure SessState.NsapisApart (s : SessState) (mm : SessMm) : Prop where
  nsapi : ∀ p ∈ mm.pdpList, ∀ c, s.ctxs p = some c → 5 ≤ c.nsapi ∧ c.nsapi ≤ 15
  nsapi_ne : ∀ p ∈ mm.pdpList, ∀ q ∈ mm.pdpList, ∀ c d, s.ctxs p = some c → s.ctxs q = some d →
    p ≠ q → c.nsapi ≠ d.nsapi

/-- The PDP contexts of an MM context can be told apart, and each has an LLC entity. -/
structure SessState.Distinguishable (s : SessState) (mm : SessMm) : Prop extends
    s.NsapisApart mm where
  sapi : ∀ p ∈ mm.pdpList, ∀ c, s.ctxs p = some c → c.sapi < numSapis
  ti_ne : ∀ p ∈ mm.pdpList, ∀ q ∈ mm.pdpList, ∀ c d, s.ctxs p = some c → s.ctxs q = some d →
    p ≠ q → c.ti ≠ d.ti
  byTid : ∀ p ∈ mm.pdpList, ∀ c, s.ctxs p = some c → s.pdpCtxByTid mm c.ti = some p

/-- Those of all MM contexts can. -/
def LookupState.AllDistinguishable (s : LookupState) : Prop :=
  ∀ m mm, s.sess.mms m = some mm → s.sess.Distinguishable mm

/-- A context that is made has an LLC entity, and a transaction identifier of its own. -/
def SessState.Fits (s : SessState) (mm : SessMm) (nsapi sapi ti : ℕ) : Prop :=
  s.pdpCtxByNsapi mm nsapi = none →
    sapi < numSapis ∧ ∀ p ∈ mm.pdpList, ∀ c, s.ctxs p = some c → c.ti ≠ ti

/-- The context that an event makes, if it does, fits. -/
def LookupState.Fits (s : LookupState) : LookupEvent → Prop
  | .actPdpReq m (some _) _ nsapi sapi ti _ _ _ => ∀ mm, s.sess.mms m = some mm →
    5 ≤ nsapi → nsapi ≤ 15 → s.retransmitted m sapi ti = false → s.sess.Fits mm nsapi sapi ti
  | .ggsnLookupCb l (.found _) _ => l ∈ s.queries → ∀ lookup m mm, s.lookups l = some lookup →
    lookup.mmctx = some m → s.sess.mms m = some mm →
    s.sess.Fits mm lookup.nsapi lookup.sapi lookup.ti
  | _ => True

/-! ## What is left can be told apart -/

variable {s s' : SessState} {p q : PdpPtr} {c d : PdpCtx} {m : SessMmPtr} {mm mm' : SessMm}
  {takes : Takes}

/-- A transaction identifier finds the only context that has it. -/
theorem pdpCtxByTid_eq (hne : ∀ p ∈ mm.pdpList, ∀ q ∈ mm.pdpList, ∀ c d, s.ctxs p = some c →
      s.ctxs q = some d → p ≠ q → c.ti ≠ d.ti) (hp : p ∈ mm.pdpList) (hc : s.ctxs p = some c) :
    s.pdpCtxByTid mm c.ti = some p := by
  cases hfind : s.pdpCtxByTid mm c.ti with
  | none =>
    rw [SessState.pdpCtxByTid, List.find?_eq_none] at hfind
    exact absurd (by simp [hc]) (hfind p hp)
  | some q =>
    rw [SessState.pdpCtxByTid] at hfind
    have hany := List.find?_some hfind
    obtain ⟨d, hd, hti⟩ := (Option.any_eq_true _ _).mp hany
    have hti : d.ti = c.ti := of_decide_eq_true hti
    by_contra hqp
    refine hne p hp q (List.mem_of_find?_eq_some hfind) c d hc hd ?_ hti.symm
    rintro rfl
    exact hqp rfl

/-- The contexts of a list have the identifiers of contexts that were there before. -/
def Inherits (s s' : SessState) (ps : List PdpPtr) : Prop :=
  ∀ p ∈ ps, ∀ c', s'.ctxs p = some c' → ∃ c, s.ctxs p = some c ∧ c'.ids = c.ids

theorem PdpCtx.ids_eq_iff {c c' : PdpCtx} :
    c'.ids = c.ids ↔ c'.nsapi = c.nsapi ∧ c'.sapi = c.sapi ∧ c'.ti = c.ti := by
  simp [PdpCtx.ids]

theorem SessState.NsapisApart.inherit (h : s.NsapisApart mm) (hs : Inherits s s' mm'.pdpList)
    (hsub : mm'.pdpList ⊆ mm.pdpList) : s'.NsapisApart mm' where
  nsapi p hp c' hc' := by
    obtain ⟨c, hc, hids⟩ := hs p hp c' hc'
    rw [(PdpCtx.ids_eq_iff.mp hids).1]
    exact h.nsapi p (hsub hp) c hc
  nsapi_ne p hp q hq c' d' hc' hd' hne := by
    obtain ⟨c, hc, hids⟩ := hs p hp c' hc'
    obtain ⟨d, hd, hids'⟩ := hs q hq d' hd'
    rw [(PdpCtx.ids_eq_iff.mp hids).1, (PdpCtx.ids_eq_iff.mp hids').1]
    exact h.nsapi_ne p (hsub hp) q (hsub hq) c d hc hd hne

theorem SessState.Distinguishable.inherit (h : s.Distinguishable mm)
    (hs : Inherits s s' mm'.pdpList) (hsub : mm'.pdpList ⊆ mm.pdpList) :
    s'.Distinguishable mm' := by
  have hti : ∀ p ∈ mm'.pdpList, ∀ q ∈ mm'.pdpList, ∀ c' d', s'.ctxs p = some c' →
      s'.ctxs q = some d' → p ≠ q → c'.ti ≠ d'.ti := by
    intro p hp q hq c' d' hc' hd' hne
    obtain ⟨c, hc, hids⟩ := hs p hp c' hc'
    obtain ⟨d, hd, hids'⟩ := hs q hq d' hd'
    rw [(PdpCtx.ids_eq_iff.mp hids).2.2, (PdpCtx.ids_eq_iff.mp hids').2.2]
    exact h.ti_ne p (hsub hp) q (hsub hq) c d hc hd hne
  refine ⟨h.toNsapisApart.inherit hs hsub, fun p hp c' hc' ↦ ?_, hti,
    fun p hp c hc ↦ pdpCtxByTid_eq hti hp hc⟩
  obtain ⟨c, hc, hids⟩ := hs p hp c' hc'
  rw [(PdpCtx.ids_eq_iff.mp hids).2.1]
  exact h.sapi p (hsub hp) c hc

/-- What survives is in a list that was there before. -/
theorem Survives.exists_list {P : SessState → SessMm → Prop} (hs : Survives s s')
    (hP : ∀ mm mm', P s mm → Inherits s s' mm'.pdpList → mm'.pdpList ⊆ mm.pdpList → P s' mm')
    (hnil : ∀ mm', mm'.pdpList = [] → P s' mm') (h : ∀ m mm, s.mms m = some mm → P s mm)
    (hm' : s'.mms m = some mm') : P s' mm' := by
  have hsub := hs.list m mm' hm'
  cases hm : s.mms m with
  | none => exact hnil mm' (List.subset_nil.mp (by simpa [hm] using hsub))
  | some mm =>
    exact hP mm mm' (h m mm hm) (fun p _ c' hc' ↦ hs.ctx p c' hc') (by simpa [hm] using hsub)

theorem nsapisApart_nil (s : SessState) (h : mm.pdpList = []) : s.NsapisApart mm := by
  constructor <;> simp [h]

theorem distinguishable_nil (s : SessState) (h : mm.pdpList = []) : s.Distinguishable mm := by
  refine ⟨nsapisApart_nil s h, ?_, ?_, ?_⟩ <;> simp [h]

/-! ## An activation -/

/-- The state after `activateGgsn`, as far as contexts and lists go. -/
structure Made (s s' : SessState) (m : SessMmPtr) (mm : SessMm) (new : PdpCtx) : Prop where
  ctxs : s'.ctxs = Function.update s.ctxs s.nextPdp (some new)
  mms : s'.mms = Function.update s.mms m (some { mm with pdpList := s.nextPdp :: mm.pdpList })

/-- An activation makes a context that has the identifiers of the request, if its NSAPI is free. -/
theorem activateGgsn_cases (s : SessState) (m : SessMmPtr) (mm : SessMm) (g : GgsnPtr)
    (nsapi sapi ti : ℕ) (takes : Takes) :
    (s.pdpCtxByNsapi mm nsapi ≠ none ∧ (s.activateGgsn m mm g nsapi sapi ti takes).1 = s) ∨
    s.pdpCtxByNsapi mm nsapi = none ∧ ∃ new : PdpCtx, new.ids = (nsapi, sapi, ti) ∧
      Made s (s.activateGgsn m mm g nsapi sapi ti takes).1 m mm new := by
  rw [SessState.activateGgsn]
  split
  · next p hp => exact .inl ⟨by simp [hp], rfl⟩
  · next hnone =>
    refine .inr ⟨hnone, ⟨nsapi, sapi, ti, some m, some g, true, true, .crReq, false, none, false,
      false, false, false⟩, rfl, ?_⟩
    simp only []
    split_ifs <;> exact ⟨rfl, rfl⟩

variable {nsapi sapi ti : ℕ} {new : PdpCtx}

/-- Where an NSAPI is free, no context of the list has it. -/
theorem nsapi_ne_of_free (hfree : s.pdpCtxByNsapi mm nsapi = none) (hp : p ∈ mm.pdpList)
    (hc : s.ctxs p = some c) : c.nsapi ≠ nsapi := by
  intro heq
  rw [SessState.pdpCtxByNsapi, List.find?_eq_none] at hfree
  exact hfree p hp (by simp [hc, heq])

/-- A list that the new context is not in. -/
theorem Made.ctxs_of_mem (h : Made s s' m mm new) (hs : Linked s) {n : SessMmPtr} {x : SessMm}
    (hx : s.mms n = some x) (hq : q ∈ x.pdpList) : s'.ctxs q = s.ctxs q := by
  rw [h.ctxs, Function.update_of_ne (hs.ne_nextPdp_of_mem hx hq)]

/-- A context of the list that the new context was put into. -/
theorem Made.mem_cases (h : Made s s' m mm new) (hs : Linked s) (hm : s.mms m = some mm)
    (hq : q ∈ s.nextPdp :: mm.pdpList) (hd : s'.ctxs q = some d) :
    q = s.nextPdp ∧ d = new ∨ q ≠ s.nextPdp ∧ q ∈ mm.pdpList ∧ s.ctxs q = some d := by
  by_cases hqp : q = s.nextPdp
  · subst hqp
    rw [h.ctxs, Function.update_self] at hd
    exact .inl ⟨rfl, (Option.some.inj hd).symm⟩
  · have hmem := (List.mem_cons.mp hq).resolve_left hqp
    exact .inr ⟨hqp, hmem, (h.ctxs_of_mem hs hm hmem).symm.trans hd⟩

/-- The lists of the other MM contexts are as they were. -/
theorem Made.mms_cases (h : Made s s' m mm new) {n : SessMmPtr} {x : SessMm}
    (hx : s'.mms n = some x) :
    n = m ∧ x.pdpList = s.nextPdp :: mm.pdpList ∨ n ≠ m ∧ s.mms n = some x := by
  rw [h.mms] at hx
  by_cases hn : n = m
  · subst hn
    rw [Function.update_self] at hx
    exact .inl ⟨rfl, congrArg SessMm.pdpList (Option.some.inj hx).symm⟩
  · rw [Function.update_of_ne hn] at hx
    exact .inr ⟨hn, hx⟩

theorem Made.inherits (h : Made s s' m mm new) (hs : Linked s) {n : SessMmPtr} {x : SessMm}
    (hx : s.mms n = some x) : Inherits s s' x.pdpList :=
  fun _ hq d hd ↦ ⟨d, (h.ctxs_of_mem hs hx hq).symm.trans hd, rfl⟩

/-- Two contexts of the list that the new context was put into differ if each old one differs from
the new one and from the other old ones. -/
theorem Made.ne_of_mem {X : Type*} (f : PdpCtx → X) (h : Made s s' m mm new) (hs : Linked s)
    (hm : s.mms m = some mm) (hnew : ∀ p ∈ mm.pdpList, ∀ c, s.ctxs p = some c → f c ≠ f new)
    (hold : ∀ p ∈ mm.pdpList, ∀ q ∈ mm.pdpList, ∀ c d, s.ctxs p = some c → s.ctxs q = some d →
      p ≠ q → f c ≠ f d)
    (hp : p ∈ s.nextPdp :: mm.pdpList) (hq : q ∈ s.nextPdp :: mm.pdpList)
    (hc : s'.ctxs p = some c) (hd : s'.ctxs q = some d) (hne : p ≠ q) : f c ≠ f d := by
  rcases h.mem_cases hs hm hp hc with ⟨rfl, rfl⟩ | ⟨-, hp, hc⟩
  · rcases h.mem_cases hs hm hq hd with ⟨rfl, -⟩ | ⟨-, hq, hd⟩
    · exact absurd rfl hne
    · exact (hnew q hq d hd).symm
  · rcases h.mem_cases hs hm hq hd with ⟨-, rfl⟩ | ⟨-, hq, hd⟩
    · exact hnew p hp c hc
    · exact hold p hp q hq c d hc hd hne

/-- An NSAPI that is free and in range keeps the NSAPIs apart. -/
theorem Made.nsapisApart (h : Made s s' m mm new) (hs : Linked s) (hm : s.mms m = some mm)
    (hall : ∀ n x, s.mms n = some x → s.NsapisApart x) (hnsapi : new.nsapi = nsapi)
    (hrange : 5 ≤ nsapi ∧ nsapi ≤ 15) (hfree : s.pdpCtxByNsapi mm nsapi = none) (n : SessMmPtr)
    (x : SessMm) (hx : s'.mms n = some x) : s'.NsapisApart x := by
  rcases h.mms_cases hx with ⟨rfl, hlist⟩ | ⟨-, hx⟩
  · have hold := hall n mm hm
    constructor
    · intro p hp c hc
      rw [hlist] at hp
      rcases h.mem_cases hs hm hp hc with ⟨-, rfl⟩ | ⟨-, hp, hc⟩
      · exact hnsapi ▸ hrange
      · exact hold.nsapi p hp c hc
    · rw [hlist]
      intro p hp q hq c d hc hd hne
      refine h.ne_of_mem (·.nsapi) hs hm (fun p hp c hc ↦ ?_) hold.nsapi_ne hp hq hc hd hne
      exact hnsapi ▸ nsapi_ne_of_free hfree hp hc
  · exact (hall n x hx).inherit (h.inherits hs hx) (List.Subset.refl _)

/-- **A new context.** The contexts can be told apart afterwards exactly if the new one fits. -/
theorem Made.distinguishable_iff (h : Made s s' m mm new) (hs : Linked s) (hm : s.mms m = some mm)
    (hall : ∀ n x, s.mms n = some x → s.Distinguishable x) (hids : new.ids = (nsapi, sapi, ti))
    (hrange : 5 ≤ nsapi ∧ nsapi ≤ 15) (hfree : s.pdpCtxByNsapi mm nsapi = none) :
    (∀ n x, s'.mms n = some x → s'.Distinguishable x) ↔ s.Fits mm nsapi sapi ti := by
  obtain ⟨hnsapi, hsapi, hti⟩ : new.nsapi = nsapi ∧ new.sapi = sapi ∧ new.ti = ti := by
    simpa [PdpCtx.ids] using hids
  have hself : s'.ctxs s.nextPdp = some new := by rw [h.ctxs, Function.update_self]
  constructor
  · intro hgood _
    have hm' : s'.mms m = some { mm with pdpList := s.nextPdp :: mm.pdpList } := by
      rw [h.mms, Function.update_self]
    have hnew := hgood m _ hm'
    refine ⟨hsapi ▸ hnew.sapi _ List.mem_cons_self new hself, fun p hp c hc ↦ ?_⟩
    have hctx := (h.ctxs_of_mem hs hm hp).trans hc
    have hne := hs.ne_nextPdp_of_mem hm hp
    exact hti ▸ hnew.ti_ne p (List.mem_cons_of_mem _ hp) _ List.mem_cons_self c new hctx hself hne
  · intro hfits
    obtain ⟨hlt, hfresh⟩ := hfits hfree
    have hapart := h.nsapisApart hs hm (fun n x hx ↦ (hall n x hx).toNsapisApart) hnsapi hrange
      hfree
    intro n x hx
    rcases h.mms_cases hx with ⟨rfl, hlist⟩ | ⟨-, hx'⟩
    · have hold := hall n mm hm
      have hne : ∀ p ∈ x.pdpList, ∀ q ∈ x.pdpList, ∀ c d, s'.ctxs p = some c →
          s'.ctxs q = some d → p ≠ q → c.ti ≠ d.ti := by
        rw [hlist]
        intro p hp q hq c d hc hd hne
        refine h.ne_of_mem (·.ti) hs hm (fun p hp c hc ↦ ?_) hold.ti_ne hp hq hc hd hne
        exact hti ▸ hfresh p hp c hc
      refine ⟨hapart n x hx, fun p hp c hc ↦ ?_, hne, fun p hp c hc ↦ pdpCtxByTid_eq hne hp hc⟩
      rw [hlist] at hp
      rcases h.mem_cases hs hm hp hc with ⟨-, rfl⟩ | ⟨-, hp, hc⟩
      · exact hsapi ▸ hlt
      · exact hold.sapi p hp c hc
    · exact (hall n x hx').inherit (h.inherits hs hx') (List.Subset.refl _)

/-! ## Runs -/

/-- What holds in every state that is reached. -/
structure LookupState.Sound (s : LookupState) : Prop where
  linked : Linked s.sess
  apart : ∀ m mm, s.sess.mms m = some mm → s.sess.NsapisApart mm
  range : ∀ l lookup, s.lookups l = some lookup → 5 ≤ lookup.nsapi ∧ lookup.nsapi ≤ 15

/-- What an event does to sessions: it adds nothing, or it activates a context. -/
inductive LookupState.Effect (s : LookupState) (e : LookupEvent) (s' : SessState) : Prop
  | adds_nothing (hs : Survives s.sess s') (hlinked : Linked s') (hfits : s.Fits e)
  | activates {m : SessMmPtr} {mm : SessMm} {g : GgsnPtr} {nsapi sapi ti : ℕ} {takes : Takes}
      (hm : s.sess.mms m = some mm) (hrange : 5 ≤ nsapi ∧ nsapi ≤ 15)
      (heq : s' = (s.sess.activateGgsn m mm g nsapi sapi ti takes).1)
      (hfits : s.Fits e ↔ s.sess.Fits mm nsapi sapi ti)

variable {x : LookupState} {e : LookupEvent}

theorem LookupState.Sound.same (h : x.Sound) (hfits : x.Fits e) : x.Effect e x.sess :=
  .adds_nothing (.refl _) h.linked hfits

theorem effect_doActPdpReq (h : x.Sound) (hm : x.sess.mms m = some mm) (g : Option GgsnPtr)
    (query : Query) (nsapi sapi ti : ℕ) (takes : Takes) (tx rabTx : Bool) :
    x.Effect (.actPdpReq m g query nsapi sapi ti takes tx rabTx)
      (x.doActPdpReq m mm g query nsapi sapi ti takes tx rabTx).1.sess := by
  have hfits_of : (5 ≤ nsapi → nsapi ≤ 15 → x.retransmitted m sapi ti = false →
      x.sess.Fits mm nsapi sapi ti) →
      x.Fits (.actPdpReq m g query nsapi sapi ti takes tx rabTx) := by
    intro hone
    cases g with
    | none => trivial
    | some g =>
      intro mm' hm'
      obtain rfl := Option.some.inj (hm.symm.trans hm')
      exact hone
  rw [LookupState.doActPdpReq.eq_def]
  by_cases hthere : nsapi < 5 ∨ 15 < nsapi ∨ (x.sess.pdpCtxByNsapi mm nsapi).isSome
  · rw [if_pos hthere]
    refine .adds_nothing (survives_doActPdpReq sapi ti takes tx rabTx hthere) ?_ ?_
    · have hstep := h.linked.step (.actPdpReq m g nsapi sapi ti takes tx rabTx)
      rwa [SessState.step, whenMm_of_some hm] at hstep
    · refine hfits_of fun hlow hhigh _ hfree ↦ ?_
      rcases hthere with hlt | hgt | hsome
      · omega
      · omega
      · simp [hfree] at hsome
  · rw [if_neg hthere]
    obtain ⟨hlow, hhigh, hnone⟩ : 5 ≤ nsapi ∧ nsapi ≤ 15 ∧
        ¬ (x.sess.pdpCtxByNsapi mm nsapi).isSome := by
      simpa [not_or] using hthere
    cases hre : x.retransmitted m sapi ti with
    | true =>
      rw [if_pos rfl]
      exact h.same (hfits_of fun _ _ hno ↦ by simp [hre] at hno)
    | false =>
      rw [if_neg (by simp)]
      cases g with
      | none => cases query <;> exact h.same trivial
      | some g =>
        refine .activates hm ⟨hlow, hhigh⟩ rfl ⟨fun hfits ↦ ?_, fun hfits ↦ ?_⟩
        · exact hfits mm hm hlow hhigh hre
        · exact hfits_of fun _ _ _ ↦ hfits

theorem effect_ggsnLookupCb (h : x.Sound) {l : SessLookupPtr} (hl : l ∈ x.queries) (answer : Answer)
    (takes : Takes) :
    x.Effect (.ggsnLookupCb l answer takes) (x.ggsnLookupCb l answer takes).1.sess := by
  rw [LookupState.ggsnLookupCb.eq_def]
  cases hlookup : x.lookups l with
  | none =>
    refine h.same ?_
    cases answer with
    | failed => trivial
    | found g =>
      intro _ lookup m mm heq
      simp [hlookup] at heq
  | some lookup =>
    have hfits_of : ∀ g, (∀ m mm, lookup.mmctx = some m → x.sess.mms m = some mm →
        x.sess.Fits mm lookup.nsapi lookup.sapi lookup.ti) →
        x.Fits (.ggsnLookupCb l (.found g) takes) := by
      intro g hone _ lookup' m mm heq
      obtain rfl := Option.some.inj (hlookup.symm.trans heq)
      exact hone m mm
    cases hmm : lookup.mmctx with
    | none =>
      simp only [hmm]
      refine h.same ?_
      cases answer with
      | failed => trivial
      | found g => exact hfits_of g fun m mm hm ↦ by simp [hmm] at hm
    | some m =>
      cases answer with
      | failed again =>
        simp only [hmm]
        split_ifs <;> exact h.same trivial
      | found g =>
        simp only [hmm, LookupState.onSess]
        cases hm : x.sess.mms m with
        | none =>
          rw [whenMm_of_none hm]
          refine h.same (hfits_of g fun n mm hn hsome ↦ ?_)
          obtain rfl := Option.some.inj (hmm.symm.trans hn)
          simp [hm] at hsome
        | some mm =>
          rw [whenMm_of_some hm]
          refine .activates hm (h.range l lookup hlookup) rfl ⟨fun hfits ↦ ?_, fun hfits ↦ ?_⟩
          · exact hfits hl lookup m mm hlookup hmm hm
          · refine hfits_of g fun n mm' hn hm' ↦ ?_
            obtain rfl := Option.some.inj (hmm.symm.trans hn)
            obtain rfl := Option.some.inj (hm.symm.trans hm')
            exact hfits

/-- **One event.** -/
theorem effect_step (h : x.Sound) (e : LookupEvent) : x.Effect e (x.step e).1.sess := by
  cases e with
  | actPdpReq m g query nsapi sapi ti takes tx rabTx =>
    rw [LookupState.step]
    cases hm : x.sess.mms m with
    | some mm => exact effect_doActPdpReq h hm g query nsapi sapi ti takes tx rabTx
    | none =>
      refine h.same ?_
      cases g with
      | none => trivial
      | some g =>
        intro mm hsome
        simp [hm] at hsome
  | ggsnLookupCb l answer takes =>
    rw [LookupState.step]
    split_ifs with hl
    · exact effect_ggsnLookupCb h hl answer takes
    · refine h.same ?_
      cases answer with
      | failed => trivial
      | found g => exact fun hmem ↦ absurd hmem hl
  | sess e =>
    have hsess : e.activates = false → x.Effect (.sess e) (x.sess.step e).1 := fun he ↦
      .adds_nothing (survives_step x.sess he) (h.linked.step e) trivial
    rw [LookupState.step.eq_def]
    simp only []
    split
    · exact hsess rfl
    · split_ifs with he
      · exact h.same trivial
      · exact hsess (by simpa using he)

/-- The NSAPIs of look-ups are in range. -/
abbrev LookupState.InRange (x : LookupState) : Prop :=
  ∀ l lookup, x.lookups l = some lookup → 5 ≤ lookup.nsapi ∧ lookup.nsapi ≤ 15

/-- Look-ups that keep their NSAPI, or are gone, or are new and in range. -/
theorem LookupState.InRange.update {l : SessLookupPtr} {new : Option SessGgsnLookup} (h : x.InRange)
    (hnew : ∀ lookup ∈ new, 5 ≤ lookup.nsapi ∧ lookup.nsapi ≤ 15) :
    ∀ k lookup, Function.update x.lookups l new k = some lookup →
      5 ≤ lookup.nsapi ∧ lookup.nsapi ≤ 15 := by
  intro k lookup hk
  by_cases hkl : k = l
  · subst hkl
    rw [Function.update_self] at hk
    exact hnew lookup hk
  · rw [Function.update_of_ne hkl] at hk
    exact h k lookup hk

theorem inRange_step (h : x.InRange) (e : LookupEvent) : (x.step e).1.InRange := by
  cases e with
  | actPdpReq m g query nsapi sapi ti takes tx rabTx =>
    rw [LookupState.step]
    split
    · exact h
    · rw [LookupState.doActPdpReq.eq_def]
      split_ifs with hthere
      · exact h
      · exact h
      · have hnew : ∀ lookup ∈ some (⟨false, some m, nsapi, sapi, ti⟩ : SessGgsnLookup),
            5 ≤ lookup.nsapi ∧ lookup.nsapi ≤ 15 := by
          intro lookup hlookup
          obtain rfl := Option.some.inj hlookup
          have hin : 5 ≤ nsapi ∧ nsapi ≤ 15 := by omega
          exact hin
        split
        · exact h
        · exact h
        · exact h.update hnew
        · exact h.update hnew
  | ggsnLookupCb l answer takes =>
    rw [LookupState.step]
    split_ifs
    · rw [LookupState.ggsnLookupCb.eq_def]
      cases hlookup : x.lookups l with
      | none => exact h
      | some lookup =>
        have hgone : ∀ k lookup, Function.update x.lookups l none k = some lookup →
            5 ≤ lookup.nsapi ∧ lookup.nsapi ≤ 15 := h.update (by simp)
        simp only []
        split
        · exact hgone
        · exact hgone
        · split_ifs
          · refine h.update fun y hy ↦ ?_
            obtain rfl := Option.some.inj hy
            exact h l lookup hlookup
          · exact hgone
    · exact h
  | sess e =>
    rw [LookupState.step.eq_def]
    simp only []
    split
    · rw [LookupState.detachLookup]
      split
      · exact h
      · refine h.update fun y hy ↦ ?_
        obtain ⟨lookup, hlookup, rfl⟩ := Option.map_eq_some_iff.mp hy
        exact h _ lookup hlookup
    · split_ifs <;> exact h

theorem LookupState.Sound.step (h : x.Sound) (e : LookupEvent) : (x.step e).1.Sound := by
  have hrange := inRange_step h.range e
  cases effect_step h e with
  | adds_nothing hs hlinked =>
    refine ⟨hlinked, fun m mm' hm' ↦ ?_, hrange⟩
    exact hs.exists_list (fun mm mm' h ↦ h.inherit) (fun mm' ↦ nsapisApart_nil _) h.apart hm'
  | @activates m mm g nsapi sapi ti takes hm hnsapi heq =>
    have hlinked : Linked (x.step e).1.sess := heq ▸ h.linked.activateGgsn hm g nsapi sapi ti
    refine ⟨hlinked, ?_, hrange⟩
    rw [heq]
    rcases activateGgsn_cases x.sess m mm g nsapi sapi ti takes with
      ⟨-, hsame⟩ | ⟨hfree, new, hids, hmade⟩
    · rw [hsame]
      exact h.apart
    · exact hmade.nsapisApart h.linked hm h.apart (congrArg (·.1) hids) hnsapi hfree

theorem sound_start : LookupState.Sound .start :=
  ⟨linked_start, fun m mm hm ↦ by simp [LookupState.start, SessState.start] at hm,
    fun l lookup hl ↦ by simp [LookupState.start] at hl⟩

/-- Every context that is made fits, exactly if the contexts can still be told apart. -/
theorem allDistinguishable_step_iff (h : x.Sound) (hgood : x.AllDistinguishable)
    (e : LookupEvent) : (x.step e).1.AllDistinguishable ↔ x.Fits e := by
  cases effect_step h e with
  | adds_nothing hs _ hfits =>
    refine iff_of_true (fun m mm' hm' ↦ ?_) hfits
    exact hs.exists_list (fun mm mm' h ↦ h.inherit) (fun mm' ↦ distinguishable_nil _) hgood hm'
  | @activates m mm g nsapi sapi ti takes hm hnsapi heq hfits =>
    rw [LookupState.AllDistinguishable, heq, hfits]
    rcases activateGgsn_cases x.sess m mm g nsapi sapi ti takes with
      ⟨hthere, hsame⟩ | ⟨hfree, new, hids, hmade⟩
    · rw [hsame]
      exact iff_of_true hgood fun hfree ↦ absurd hfree hthere
    · exact hmade.distinguishable_iff h.linked hm hgood hids hnsapi hfree

/-- In every state that is reached, NSAPIs are in range and tell the PDP contexts of an MM context
apart. -/
theorem nsapisApart_run (es : List LookupEvent) (m : SessMmPtr) (mm : SessMm)
    (hm : (lookupMachine.run .start es).sess.mms m = some mm) :
    (lookupMachine.run .start es).sess.NsapisApart mm := by
  have hsound : (lookupMachine.run .start es).Sound :=
    Machine.invariant_run (fun _ _ ↦ True) LookupState.Sound (fun _ e h _ ↦ h.step e) sound_start
      (Machine.meets_of_forall (fun _ _ ↦ trivial) _ es)
  exact hsound.apart m mm hm

/-- **Telling contexts apart.** In every state of a run the PDP contexts of each MM context can be
told apart and have LLC entities, exactly if each context that the run makes fits when it is
made. -/
theorem distinguishable_run_iff (es : List LookupEvent) :
    (∀ n, (lookupMachine.run .start (es.take n)).AllDistinguishable) ↔
      lookupMachine.Meets LookupState.Fits .start es := by
  refine Machine.forall_take_iff LookupState.Fits LookupState.Sound (fun _ e h ↦ h.step e)
    (fun _ e h hgood ↦ allDistinguishable_step_iff h hgood e) sound_start ?_
  intro m mm hm
  simp [LookupState.start, SessState.start] at hm

/-- Two contexts are activated with one transaction identifier. -/
def sameTi : List LookupEvent :=
  [.sess (.mmAlloc 1 .geranGb), .actPdpReq 1 (some 7) .none 5 3 2 (fun _ ↦ true) true true,
    .actPdpReq 1 (some 7) .none 6 3 2 (fun _ ↦ true) true true]

/-- A context is activated for an SAPI that no LLC entity has. -/
def noSuchSapi : List LookupEvent :=
  [.sess (.mmAlloc 1 .geranGb), .actPdpReq 1 (some 7) .none 5 16 2 (fun _ ↦ true) true true]

/-- The second context is found with the transaction identifier of the first. -/
theorem sameTi_not_distinguishable :
    (lookupMachine.run .start sameTi).sess.pdpCtxByTid ⟨.geranGb, false, false, [1, 0]⟩ 2 = some 1 ∧
      ¬ (lookupMachine.run .start sameTi).AllDistinguishable ∧
      ¬ (lookupMachine.run .start noSuchSapi).AllDistinguishable := by
  refine ⟨by decide +kernel, fun h ↦ ?_, fun h ↦ ?_⟩
  · have hm : (lookupMachine.run .start sameTi).sess.mms 1 =
        some ⟨.geranGb, false, false, [1, 0]⟩ := by decide +kernel
    have hctx : ((lookupMachine.run .start sameTi).sess.ctxs 0).any (·.ti = 2) = true := by
      decide +kernel
    obtain ⟨c, hc, hti⟩ := (Option.any_eq_true _ _).mp hctx
    have hfound := (h 1 _ hm).byTid 0 (by simp) c hc
    rw [of_decide_eq_true hti] at hfound
    revert hfound
    decide +kernel
  · have hm : (lookupMachine.run .start noSuchSapi).sess.mms 1 =
        some ⟨.geranGb, false, false, [0]⟩ := by decide +kernel
    have hctx : ((lookupMachine.run .start noSuchSapi).sess.ctxs 0).any (·.sapi = 16) = true := by
      decide +kernel
    obtain ⟨c, hc, hsapi⟩ := (Option.any_eq_true _ _).mp hctx
    have hlt := (h 1 _ hm).sapi 0 (by simp) c hc
    rw [of_decide_eq_true hsapi] at hlt
    exact absurd hlt (lt_irrefl _)

end OsmoSgsn.Sm
