import OsmoSgsn.Library.Machine
import OsmoSgsn.Gmm.State

/-!
# Looking up a GGSN

A mobile station asks for a PDP context. Where no GGSN is configured for the access point, its name
is looked up: the request is kept until the resolver answers, first for the name with a two-digit
MNC and then for the one with three digits.

A lookup is held by the resolver and points to its MM context, which points to one lookup. The
resolver may hold several. It may answer before the call that asks it returns; whatever it answers
then is part of the event.
-/

namespace OsmoSgsn.Sm

open Gmm (SgsnRanType PdpCtx)

/-- A pointer to an MM context. The memory of a context that is gone may be used again. -/
abbrev MmPtr := ℕ

/-- A pointer to a lookup. -/
abbrev LookupPtr := ℕ

/-- A pointer to a message. -/
abbrev MsgPtr := ℕ

/-- `enum sgsn_ggsn_lookup_state`. -/
inductive GgsnLookupState
  | twoDigit | threeDigit
  deriving DecidableEq, Repr

/-- `struct sgsn_ggsn_lookup`. -/
structure GgsnLookup where
  state : GgsnLookupState
  mmctx : Option MmPtr
  apnStr : Bytes
  origMsg : MsgPtr
  nsapi : ℕ
  sapi : ℕ
  ti : ℕ
  deriving DecidableEq, Repr

/-- `struct sgsn_mm_ctx`, as far as an activation looks at it. -/
structure SmMm where
  ranType : SgsnRanType
  pdpList : List PdpCtx
  ggsnLookup : Option LookupPtr
  deriving DecidableEq, Repr

/-- The MM contexts, the lookups and the messages that are alive, the lookups that the resolver
holds, and whether something was used that is not alive. -/
structure SmState where
  mms : MmPtr → Option SmMm
  lookups : LookupPtr → Option GgsnLookup
  msgs : MsgPtr → Bool
  queries : List LookupPtr
  nextLookup : LookupPtr
  nextMsg : MsgPtr
  usedAfterFree : Bool

/-- What the resolver answers. -/
inductive DnsAnswer
  | failed
  | wrongLength
  | noAddress
  /-- An address; `sgsn_create_pdp_ctx` may have no room. -/
  | found (room : Bool)
  deriving DecidableEq, Repr

/-- The causes of a rejection. -/
inductive SmCause
  | invMandInfo | netFail | reactRqd | nsapiInUse
  /-- The cause that goes with the choice of no GGSN. -/
  | noGgsn (cause : ℕ)
  deriving DecidableEq, Repr

/-- What a mobile station is answered, and what is asked for it. -/
inductive SmOut
  | actPdpAcc (mm : MmPtr) (ti : ℕ)
  | actPdpRej (mm : MmPtr) (ti : ℕ) (cause : SmCause)
  | rabActivate (mm : MmPtr) (nsapi : ℕ)
  | createPdp (mm : MmPtr) (nsapi : ℕ)
  | aresQuery (lookup : LookupPtr) (digits : GgsnLookupState)
  deriving DecidableEq, Repr

/-- The fields of an Activate PDP Context Request that are read here. -/
structure ActPdpReq where
  nsapi : ℕ
  sapi : ℕ
  ti : ℕ
  deriving DecidableEq, Repr

/-- What comes back while a request is handled. -/
structure ActEnv where
  /-- The message could be copied. -/
  copied : Bool
  /-- `sgsn_mm_ctx_find_ggsn_ctx` has found a GGSN, with room for one more context or without. -/
  ggsn : Option Bool
  /-- The name of the access point and the cause that it gives otherwise. -/
  apn : Bytes
  cause : ℕ
  /-- Names are looked up. -/
  dynamicLookup : Bool
  /-- What the resolver answers at once. -/
  answers : List DnsAnswer
  deriving DecidableEq, Repr

namespace SmState

variable (s : SmState)

/-! ## Objects -/

/-- Something is used that is not alive. -/
def fault : SmState := { s with usedAfterFree := true }

/-- Write an MM context. -/
def setMm (mm : MmPtr) (ctx : Option SmMm) : SmState :=
  { s with mms := Function.update s.mms mm ctx }

/-- Write a lookup. -/
def setLookup (p : LookupPtr) (l : Option GgsnLookup) : SmState :=
  { s with lookups := Function.update s.lookups p l }

/-- `msgb_free`. -/
def freeMsg (msg : MsgPtr) : SmState :=
  { s with msgs := Function.update s.msgs msg false }

/-- Free a lookup and its message. -/
def freeLookup (p : LookupPtr) (l : GgsnLookup) : SmState :=
  (s.freeMsg l.origMsg).setLookup p none

/-- `activate_ggsn`. -/
def activateGgsn (mm : MmPtr) (ctx : SmMm) (nsapi sapi ti : ℕ) (room : Bool) :
    SmState × List SmOut :=
  if room then
    (s.setMm mm (some { ctx with
      pdpList := ⟨nsapi, sapi, ti, false, true, true, false⟩ :: ctx.pdpList }),
      [.createPdp mm nsapi])
  else (s, [])

/-! ## Answers of the resolver -/

/-- The end of `ggsn_lookup_cb` that rejects the request. -/
def rejectDueFailure (p : LookupPtr) (l : GgsnLookup) (mm : MmPtr) (ctx : SmMm) :
    SmState × List SmOut :=
  ((s.setMm mm (some { ctx with ggsnLookup := none })).freeLookup p l,
    [.actPdpRej mm l.ti .netFail])

/-- The end of `ggsn_lookup_cb` that activates the PDP context. The request is still read then. -/
def lookupFound (p : LookupPtr) (l : GgsnLookup) (mm : MmPtr) (ctx : SmMm) (room : Bool) :
    SmState × List SmOut :=
  let ctx := { ctx with ggsnLookup := none }
  let s := s.setMm mm (some ctx)
  if s.msgs l.origMsg then
    let (s, outs) := s.activateGgsn mm ctx l.nsapi l.sapi l.ti room
    (s.freeLookup p l, outs)
  else (s.fault, [])

/-- `ggsn_lookup_cb`. If the query with three digits is answered at once, it is called again. -/
def ggsnLookupCb (s : SmState) (p : LookupPtr) (answer : DnsAnswer) (answers : List DnsAnswer) :
    SmState × List SmOut :=
  match s.lookups p with
  | none => (s.fault, [])
  | some l =>
    match l.mmctx with
    | none => (s.freeLookup p l, [])
    | some mm =>
      match s.mms mm with
      | none => (s.fault, [])
      | some ctx =>
        match answer, l.state with
        | .failed, .twoDigit =>
          let s := s.setLookup p (some { l with state := .threeDigit })
          match answers with
          | [] => ({ s with queries := p :: s.queries }, [.aresQuery p .threeDigit])
          | next :: answers =>
            let (s, outs) := ggsnLookupCb s p next answers
            (s, .aresQuery p .threeDigit :: outs)
        | .found room, _ => s.lookupFound p l mm ctx room
        | _, _ => s.rejectDueFailure p l mm ctx
termination_by structural answers

/-! ## Requests -/

/-- The end of `do_act_pdp_req` that looks the name up. -/
def startLookup (mm : MmPtr) (ctx : SmMm) (req : ActPdpReq) (msg : MsgPtr) (env : ActEnv) :
    SmState × List SmOut :=
  let p := s.nextLookup
  let l : GgsnLookup := ⟨.twoDigit, some mm, env.apn, msg, req.nsapi, req.sapi, req.ti⟩
  let s := { s.setLookup p (some l) with nextLookup := p + 1 }.setMm mm
    (some { ctx with ggsnLookup := some p })
  match env.answers with
  | [] => ({ s with queries := p :: s.queries }, [.aresQuery p .twoDigit])
  | answer :: answers =>
    let (s, outs) := s.ggsnLookupCb p answer answers
    (s, .aresQuery p .twoDigit :: outs)

/-- `do_act_pdp_req` for a request that was copied to a message, and whether the message is to be
freed. -/
def doActPdpReq (mm : MmPtr) (ctx : SmMm) (req : ActPdpReq) (msg : MsgPtr) (env : ActEnv) :
    SmState × Bool × List SmOut :=
  if req.nsapi < 5 ∨ 15 < req.nsapi then (s, true, [.actPdpRej mm req.ti .invMandInfo])
  else
    match ctx.pdpList.find? (·.nsapi = req.nsapi) with
    | some pdp =>
      if ¬ pdp.lib then (s, true, [.actPdpRej mm req.ti .reactRqd])
      else if pdp.sapi = req.sapi ∧ pdp.ti = req.ti then
        if ctx.ranType = .utranIu ∧ ¬ pdp.confirmed then
          (s, true, [.rabActivate mm pdp.nsapi])
        else (s, true, [.actPdpAcc mm pdp.ti])
      else (s, true, [.actPdpRej mm req.ti .nsapiInUse])
    | none =>
      match ctx.ggsnLookup, ctx.ggsnLookup.bind s.lookups with
      | some _, none => (s.fault, true, [])
      | _, lookup =>
        if lookup.any fun l ↦ l.sapi = req.sapi ∧ l.ti = req.ti then (s, true, [])
        else
          match env.ggsn with
          | some room =>
            let (s, outs) := s.activateGgsn mm ctx req.nsapi req.sapi req.ti room
            (s, true, outs)
          | none =>
            if env.apn = [] ∨ ¬ env.dynamicLookup then
              (s, true, [.actPdpRej mm req.ti (.noGgsn env.cause)])
            else
              let (s, outs) := s.startLookup mm ctx req msg env
              (s, false, outs)

/-- `gsm48_rx_gsm_act_pdp_req`. -/
def rxGsmActPdpReq (mm : MmPtr) (ctx : SmMm) (req : ActPdpReq) (env : ActEnv) :
    SmState × List SmOut :=
  if env.copied then
    let msg := s.nextMsg
    let s := { s with msgs := Function.update s.msgs msg true, nextMsg := msg + 1 }
    let (s, delete, outs) := s.doActPdpReq mm ctx req msg env
    (if delete then s.freeMsg msg else s, outs)
  else (s, [.actPdpRej mm req.ti .netFail])

/-- `sgsn_mm_ctx_cleanup_free`. -/
def mmCtxCleanupFree (mm : MmPtr) (ctx : SmMm) : SmState :=
  match ctx.ggsnLookup with
  | none => s.setMm mm none
  | some p =>
    match s.lookups p with
    | none => s.fault
    | some l => (s.setLookup p (some { l with mmctx := none })).setMm mm none

end SmState

/-- What happens at the gateway. -/
inductive SmEvent
  | actPdpReq (mm : MmPtr) (req : ActPdpReq) (env : ActEnv)
  /-- The resolver answers a query, and the next one at once if there is one. -/
  | dnsAnswer (p : LookupPtr) (answer : DnsAnswer) (answers : List DnsAnswer)
  /-- `sgsn_mm_ctx_alloc`, where no context is. -/
  | mmAlloc (mm : MmPtr) (ranType : SgsnRanType)
  /-- The rest of the gateway writes a context or its PDP contexts. -/
  | mmChange (mm : MmPtr) (ranType : SgsnRanType) (pdpList : List PdpCtx)
  | mmFree (mm : MmPtr)

namespace SmState

/-- One event. -/
def step (s : SmState) : SmEvent → SmState × List SmOut
  | .actPdpReq mm req env =>
    match s.mms mm with
    | none => (s, [])
    | some ctx => s.rxGsmActPdpReq mm ctx req env
  | .dnsAnswer p answer answers =>
    if p ∈ s.queries then
      { s with queries := s.queries.erase p }.ggsnLookupCb p answer answers
    else (s, [])
  | .mmAlloc mm ranType =>
    match s.mms mm with
    | none => (s.setMm mm (some ⟨ranType, [], none⟩), [])
    | some _ => (s, [])
  | .mmChange mm ranType pdpList =>
    match s.mms mm with
    | none => (s, [])
    | some ctx => (s.setMm mm (some { ctx with ranType := ranType, pdpList := pdpList }), [])
  | .mmFree mm =>
    match s.mms mm with
    | none => (s, [])
    | some ctx => (s.mmCtxCleanupFree mm ctx, [])

/-- A gateway that was just started. -/
def start : SmState where
  mms _ := none
  lookups _ := none
  msgs _ := false
  queries := []
  nextLookup := 0
  nextMsg := 0
  usedAfterFree := false

end SmState

/-- The machine of activations. -/
def smMachine : Machine SmState SmEvent SmOut where
  step := SmState.step

/-! ## What the resolver holds -/

/-- Nothing dangles: a lookup that the resolver holds is alive, and so are its request and the MM
context that it points to, and an MM context points to a lookup that the resolver holds. -/
structure NothingDangles (s : SmState) : Prop where
  used : s.usedAfterFree = false
  query : ∀ p ∈ s.queries, ∃ l, s.lookups p = some l ∧ s.msgs l.origMsg = true ∧
    ∀ mm, l.mmctx = some mm → (s.mms mm).isSome
  lookup : ∀ mm ctx, s.mms mm = some ctx → ∀ p, ctx.ggsnLookup = some p →
    p ∈ s.queries ∧ (s.lookups p).isSome

/-- The request leads to a lookup. -/
def StartsLookup (ctx : SmMm) (lookup : Option GgsnLookup) (req : ActPdpReq) (env : ActEnv) :
    Prop :=
  (5 ≤ req.nsapi ∧ req.nsapi ≤ 15) ∧ (∀ pdp ∈ ctx.pdpList, pdp.nsapi ≠ req.nsapi) ∧
    (∀ l ∈ lookup, ¬ (l.sapi = req.sapi ∧ l.ti = req.ti)) ∧
    env.copied ∧ env.ggsn = none ∧ env.apn ≠ [] ∧ env.dynamicLookup

/-- A lookup is started only for an MM context for which none is under way. -/
def OneLookup (s : SmState) : SmEvent → Prop
  | .actPdpReq mm req env => ∀ ctx, s.mms mm = some ctx →
    StartsLookup ctx (ctx.ggsnLookup.bind s.lookups) req env → ctx.ggsnLookup = none
  | _ => True

/-- What is known of the lookups in a list: they are alive, with their requests, and an MM context
and a lookup point at each other. -/
structure Held (s : SmState) (held : List LookupPtr) : Prop where
  nodup : held.Nodup
  used : s.usedAfterFree = false
  alive : ∀ p ∈ held, ∃ l, s.lookups p = some l ∧ s.msgs l.origMsg = true
  mmctx : ∀ p l mm, p ∈ held → s.lookups p = some l → l.mmctx = some mm →
    ∃ ctx, s.mms mm = some ctx ∧ ctx.ggsnLookup = some p
  lookup : ∀ mm ctx p, s.mms mm = some ctx → ctx.ggsnLookup = some p →
    p ∈ held ∧ ∃ l, s.lookups p = some l ∧ l.mmctx = some mm
  origMsg : ∀ p l q l', p ∈ held → q ∈ held → s.lookups p = some l → s.lookups q = some l' →
    l.origMsg = l'.origMsg → p = q
  freshLookup : ∀ p ∈ held, p < s.nextLookup
  freshMsg : ∀ p l, p ∈ held → s.lookups p = some l → l.origMsg < s.nextMsg

variable {s : SmState} {held : List LookupPtr} {p : LookupPtr} {l : GgsnLookup} {mm : MmPtr}
  {ctx : SmMm}

theorem Held.nothingDangles (h : Held s s.queries) : NothingDangles s where
  used := h.used
  query := by
    intro p hp
    obtain ⟨l, hl, hmsg⟩ := h.alive p hp
    refine ⟨l, hl, hmsg, fun mm hmm ↦ ?_⟩
    obtain ⟨ctx, hctx, -⟩ := h.mmctx p l mm hp hl hmm
    exact Option.isSome_of_eq_some hctx
  lookup := by
    intro mm ctx hctx p hp
    obtain ⟨hmem, l, hl, -⟩ := h.lookup mm ctx p hctx hp
    exact ⟨hmem, Option.isSome_of_eq_some hl⟩

/-! ### What is done to the objects -/

/-- The resolver may hold the lookups in another order. -/
theorem Held.withQueries (h : Held s held) (queries : List LookupPtr) :
    Held { s with queries := queries } held := { h with }

theorem Held.perm {held' : List LookupPtr} (h : Held s held) (hp : held.Perm held') :
    Held s held' where
  nodup := hp.nodup_iff.mp h.nodup
  used := h.used
  alive := fun p hmem ↦ h.alive p (hp.mem_iff.mpr hmem)
  mmctx := fun p l mm hmem ↦ h.mmctx p l mm (hp.mem_iff.mpr hmem)
  lookup := fun mm ctx p hctx hl ↦
    ⟨hp.mem_iff.mp (h.lookup mm ctx p hctx hl).1, (h.lookup mm ctx p hctx hl).2⟩
  origMsg := fun p l q l' hp' hq' ↦ h.origMsg p l q l' (hp.mem_iff.mpr hp') (hp.mem_iff.mpr hq')
  freshLookup := fun p hmem ↦ h.freshLookup p (hp.mem_iff.mpr hmem)
  freshMsg := fun p l hmem ↦ h.freshMsg p l (hp.mem_iff.mpr hmem)

/-- MM contexts may change as long as they point to the same lookups. -/
theorem Held.setMms (h : Held s held) {mms : MmPtr → Option SmMm}
    (hback : ∀ mm ctx p, mms mm = some ctx → ctx.ggsnLookup = some p →
      ∃ ctx, s.mms mm = some ctx ∧ ctx.ggsnLookup = some p)
    (hforth : ∀ mm ctx p, s.mms mm = some ctx → ctx.ggsnLookup = some p →
      ∃ ctx, mms mm = some ctx ∧ ctx.ggsnLookup = some p) :
    Held { s with mms := mms } held where
  nodup := h.nodup
  used := h.used
  alive := h.alive
  mmctx := by
    intro p l mm hp hl hmm
    obtain ⟨ctx, hctx, hlook⟩ := h.mmctx p l mm hp hl hmm
    exact hforth mm ctx p hctx hlook
  lookup := by
    intro mm ctx p hctx hlook
    obtain ⟨ctx, hctx, hlook⟩ := hback mm ctx p hctx hlook
    exact h.lookup mm ctx p hctx hlook
  origMsg := h.origMsg
  freshLookup := h.freshLookup
  freshMsg := h.freshMsg

/-- Writing an MM context that points to what it has pointed to. -/
theorem Held.setMm (h : Held s held) {new : SmMm} (hctx : s.mms mm = some ctx)
    (hnew : new.ggsnLookup = ctx.ggsnLookup) : Held (s.setMm mm (some new)) held := by
  refine h.setMms ?_ ?_
  · intro mm' ctx' p hctx' hlook
    by_cases hmm : mm' = mm
    · subst hmm
      obtain rfl : new = ctx' := by simpa using hctx'
      exact ⟨ctx, hctx, hnew ▸ hlook⟩
    · exact ⟨ctx', by simpa [hmm] using hctx', hlook⟩
  · intro mm' ctx' p hctx' hlook
    by_cases hmm : mm' = mm
    · subst hmm
      obtain rfl := Option.some.inj (hctx.symm.trans hctx')
      exact ⟨new, by simp, hnew.trans hlook⟩
    · exact ⟨ctx', by simpa [hmm] using hctx', hlook⟩

/-- Writing a lookup that keeps its MM context and its request. -/
theorem Held.setLookup (h : Held s held) {new : GgsnLookup} (hl : s.lookups p = some l)
    (hmm : new.mmctx = l.mmctx) (hmsg : new.origMsg = l.origMsg) :
    Held (s.setLookup p (some new)) held := by
  have hsame : ∀ q x, (s.setLookup p (some new)).lookups q = some x →
      ∃ y, s.lookups q = some y ∧ x.mmctx = y.mmctx ∧ x.origMsg = y.origMsg := by
    intro q x hx
    by_cases hq : q = p
    · subst hq
      obtain rfl : new = x := by simpa [SmState.setLookup] using hx
      exact ⟨l, hl, hmm, hmsg⟩
    · exact ⟨x, by simpa [SmState.setLookup, hq] using hx, rfl, rfl⟩
  have hkeep : ∀ q y, s.lookups q = some y → ∃ x, (s.setLookup p (some new)).lookups q = some x ∧
      x.mmctx = y.mmctx ∧ x.origMsg = y.origMsg := by
    intro q y hy
    by_cases hq : q = p
    · subst hq
      obtain rfl := Option.some.inj (hl.symm.trans hy)
      exact ⟨new, by simp [SmState.setLookup], hmm, hmsg⟩
    · exact ⟨y, by simpa [SmState.setLookup, hq] using hy, rfl, rfl⟩
  refine ⟨h.nodup, h.used, ?_, ?_, ?_, ?_, h.freshLookup, ?_⟩
  · intro q hq
    obtain ⟨y, hy, hmsg⟩ := h.alive q hq
    obtain ⟨x, hx, -, heq⟩ := hkeep q y hy
    exact ⟨x, hx, heq ▸ hmsg⟩
  · intro q x mm hq hx hxmm
    obtain ⟨y, hy, heq, -⟩ := hsame q x hx
    exact h.mmctx q y mm hq hy (heq ▸ hxmm)
  · intro mm ctx q hctx hlook
    obtain ⟨hq, y, hy, hymm⟩ := h.lookup mm ctx q hctx hlook
    obtain ⟨x, hx, heq, -⟩ := hkeep q y hy
    exact ⟨hq, x, hx, heq.trans hymm⟩
  · intro q x q' x' hq hq' hx hx' heq
    obtain ⟨y, hy, -, hy'⟩ := hsame q x hx
    obtain ⟨z, hz, -, hz'⟩ := hsame q' x' hx'
    exact h.origMsg q y q' z hq hq' hy hz (hy' ▸ hz' ▸ heq)
  · intro q x hq hx
    obtain ⟨y, hy, -, heq⟩ := hsame q x hx
    exact heq ▸ h.freshMsg q y hq hy

/-- A lookup that no MM context points to is freed, and its request with it. -/
theorem Held.freeLookup (h : Held s (p :: held)) (hl : s.lookups p = some l)
    (mms : MmPtr → Option SmMm)
    (hback : ∀ mm ctx q, mms mm = some ctx → ctx.ggsnLookup = some q →
      q ≠ p ∧ ∃ ctx, s.mms mm = some ctx ∧ ctx.ggsnLookup = some q)
    (hforth : ∀ mm ctx q, s.mms mm = some ctx → ctx.ggsnLookup = some q → q ≠ p →
      ∃ ctx, mms mm = some ctx ∧ ctx.ggsnLookup = some q) :
    Held ({ s with mms := mms }.freeLookup p l) held := by
  have hp : p ∉ held := (List.nodup_cons.mp h.nodup).1
  have hne : ∀ q ∈ held, q ≠ p := fun q hq heq ↦ hp (heq ▸ hq)
  have hlook : ∀ q, q ≠ p → ({ s with mms := mms }.freeLookup p l).lookups q = s.lookups q :=
    fun q hq ↦ by simp [SmState.freeLookup, SmState.setLookup, SmState.freeMsg, hq]
  have hmem : ∀ q ∈ held, q ∈ p :: held := fun q hq ↦ List.mem_cons_of_mem _ hq
  refine ⟨(List.nodup_cons.mp h.nodup).2, h.used, ?_, ?_, ?_, ?_, ?_, ?_⟩
  · intro q hq
    obtain ⟨x, hx, hmsg⟩ := h.alive q (hmem q hq)
    refine ⟨x, (hlook q (hne q hq)).trans hx, ?_⟩
    have hdiff : x.origMsg ≠ l.origMsg := by
      intro heq
      exact hne q hq (h.origMsg q x p l (hmem q hq) List.mem_cons_self hx hl heq)
    simpa [SmState.freeLookup, SmState.setLookup, SmState.freeMsg, hdiff] using hmsg
  · intro q x mm hq hx hxmm
    rw [hlook q (hne q hq)] at hx
    obtain ⟨ctx, hctx, hctx'⟩ := h.mmctx q x mm (hmem q hq) hx hxmm
    exact hforth mm ctx q hctx hctx' (hne q hq)
  · intro mm ctx q hctx hctx'
    obtain ⟨hq, ctx, hctx, hctx'⟩ := hback mm ctx q hctx hctx'
    obtain ⟨hheld, x, hx, hxmm⟩ := h.lookup mm ctx q hctx hctx'
    exact ⟨(List.mem_cons.mp hheld).resolve_left hq, x, (hlook q hq).trans hx, hxmm⟩
  · intro q x q' x' hq hq' hx hx'
    rw [hlook q (hne q hq)] at hx
    rw [hlook q' (hne q' hq')] at hx'
    exact h.origMsg q x q' x' (hmem q hq) (hmem q' hq') hx hx'
  · exact fun q hq ↦ h.freshLookup q (hmem q hq)
  · intro q x hq hx
    rw [hlook q (hne q hq)] at hx
    exact h.freshMsg q x (hmem q hq) hx

/-- The MM context of a lookup forgets it, and the lookup is freed. -/
theorem Held.forget (h : Held s (p :: held)) (new : SmMm) (hl : s.lookups p = some l)
    (hmm : l.mmctx = some mm) (hctx : s.mms mm = some ctx) (hnew : new.ggsnLookup = none) :
    Held ((s.setMm mm (some new)).freeLookup p l) held := by
  obtain ⟨ctx', hctx', hlook⟩ := h.mmctx p l mm List.mem_cons_self hl hmm
  obtain rfl := Option.some.inj (hctx.symm.trans hctx')
  refine h.freeLookup hl _ ?_ ?_
  · intro mm' x q hx hq
    by_cases hmm' : mm' = mm
    · subst hmm'
      obtain rfl : new = x := by simpa using hx
      exact absurd hq (by simp [hnew])
    · have hx : s.mms mm' = some x := by simpa [hmm'] using hx
      refine ⟨?_, x, hx, hq⟩
      rintro rfl
      obtain ⟨-, y, hy, hymm⟩ := h.lookup mm' x q hx hq
      obtain rfl := Option.some.inj (hl.symm.trans hy)
      exact hmm' (Option.some.inj (hymm.symm.trans hmm))
  · intro mm' x q hx hq hne
    by_cases hmm' : mm' = mm
    · subst hmm'
      obtain rfl := Option.some.inj (hctx.symm.trans hx)
      exact absurd (Option.some.inj (hq.symm.trans hlook)) hne
    · exact ⟨x, by simpa [hmm'] using hx, hq⟩

/-- A lookup whose MM context is gone is freed. -/
theorem Held.freeOrphan (h : Held s (p :: held)) (hl : s.lookups p = some l)
    (hmm : l.mmctx = none) : Held (s.freeLookup p l) held := by
  refine h.freeLookup hl s.mms ?_ fun mm x q hx hq _ ↦ ⟨x, hx, hq⟩
  intro mm x q hx hq
  refine ⟨?_, x, hx, hq⟩
  rintro rfl
  obtain ⟨-, y, hy, hymm⟩ := h.lookup mm x q hx hq
  obtain rfl := Option.some.inj (hl.symm.trans hy)
  exact absurd (hymm.symm.trans hmm) (by simp)

/-- An MM context for which no lookup is under way gets one. -/
theorem Held.start (h : Held s held) (hctx : s.mms mm = some ctx) (hnone : ctx.ggsnLookup = none)
    (new : GgsnLookup) (hmm : new.mmctx = some mm) (hmsg : s.msgs new.origMsg = true)
    (hfresh : new.origMsg < s.nextMsg)
    (hother : ∀ q x, q ∈ held → s.lookups q = some x → x.origMsg ≠ new.origMsg) :
    Held ({ s.setLookup s.nextLookup (some new) with nextLookup := s.nextLookup + 1 }.setMm mm
      (some { ctx with ggsnLookup := some s.nextLookup })) (s.nextLookup :: held) := by
  have hne : ∀ q ∈ held, q ≠ s.nextLookup := fun q hq ↦ (h.freshLookup q hq).ne
  have hself : ∀ x, Function.update s.lookups s.nextLookup (some new) s.nextLookup = some x →
      x = new := fun x hx ↦ by simpa using hx.symm
  have hself' : ∀ x, Function.update s.mms mm
      (some { ctx with ggsnLookup := some s.nextLookup }) mm = some x →
      x = { ctx with ggsnLookup := some s.nextLookup } := fun x hx ↦ by simpa using hx.symm
  have hlook : ∀ q ∈ held, Function.update s.lookups s.nextLookup (some new) q = s.lookups q :=
    fun q hq ↦ Function.update_of_ne (hne q hq) _ _
  refine ⟨List.nodup_cons.mpr ⟨fun hmem ↦ hne _ hmem rfl, h.nodup⟩, h.used, ?_, ?_, ?_, ?_, ?_, ?_⟩
  · intro q hq
    rcases List.mem_cons.mp hq with rfl | hq
    · exact ⟨new, by simp [SmState.setMm, SmState.setLookup], hmsg⟩
    · obtain ⟨x, hx, hxmsg⟩ := h.alive q hq
      exact ⟨x, (hlook q hq).trans hx, hxmsg⟩
  · intro q x mm' hq hx hxmm
    rcases List.mem_cons.mp hq with rfl | hq
    · obtain rfl := hself x hx
      obtain rfl := Option.some.inj (hmm.symm.trans hxmm)
      exact ⟨_, Function.update_self .., rfl⟩
    · replace hx : s.lookups q = some x := (hlook q hq).symm.trans hx
      obtain ⟨ctx', hctx', hq'⟩ := h.mmctx q x mm' hq hx hxmm
      have hmm' : mm' ≠ mm := by
        rintro rfl
        obtain rfl := Option.some.inj (hctx.symm.trans hctx')
        exact absurd (hnone.symm.trans hq') (by simp)
      exact ⟨ctx', (Function.update_of_ne hmm' _ _).trans hctx', hq'⟩
  · intro mm' ctx' q hctx' hq
    by_cases hmm' : mm' = mm
    · subst hmm'
      obtain rfl := hself' ctx' hctx'
      obtain rfl := Option.some.inj hq
      exact ⟨List.mem_cons_self, new, by simp [SmState.setMm, SmState.setLookup], hmm⟩
    · replace hctx' : s.mms mm' = some ctx' := (Function.update_of_ne hmm' _ _).symm.trans hctx'
      obtain ⟨hmem, x, hx, hxmm⟩ := h.lookup mm' ctx' q hctx' hq
      exact ⟨List.mem_cons_of_mem _ hmem, x, (hlook q hmem).trans hx, hxmm⟩
  · intro q x q' x' hq hq' hx hx' heq
    rcases List.mem_cons.mp hq with rfl | hq <;> rcases List.mem_cons.mp hq' with rfl | hq'
    · rfl
    · obtain rfl := hself x hx
      exact absurd heq.symm (hother q' x' hq' ((hlook q' hq').symm.trans hx'))
    · obtain rfl := hself x' hx'
      exact absurd heq (hother q x hq ((hlook q hq).symm.trans hx))
    · exact h.origMsg q x q' x' hq hq' ((hlook q hq).symm.trans hx)
        ((hlook q' hq').symm.trans hx') heq
  · intro q hq
    rcases List.mem_cons.mp hq with rfl | hq
    · exact Nat.lt_succ_self _
    · exact (h.freshLookup q hq).trans (Nat.lt_succ_self _)
  · intro q x hq hx
    rcases List.mem_cons.mp hq with rfl | hq
    · obtain rfl := hself x hx
      exact hfresh
    · exact h.freshMsg q x hq ((hlook q hq).symm.trans hx)

/-! ### What the resolver answers -/

theorem Held.activateGgsn (h : Held s held) (hctx : s.mms mm = some ctx) (nsapi sapi ti : ℕ)
    (room : Bool) : Held (s.activateGgsn mm ctx nsapi sapi ti room).1 held := by
  cases room with
  | false => exact h
  | true => exact h.setMm hctx rfl

theorem Held.lookupFound (h : Held s (p :: held)) (hl : s.lookups p = some l)
    (hmm : l.mmctx = some mm) (hctx : s.mms mm = some ctx) (room : Bool) :
    Held (s.lookupFound p l mm ctx room).1 held := by
  obtain ⟨x, hx, hmsg⟩ := h.alive p List.mem_cons_self
  obtain rfl := Option.some.inj (hl.symm.trans hx)
  have hmsg : (s.setMm mm (some { ctx with ggsnLookup := none })).msgs l.origMsg = true := hmsg
  rw [SmState.lookupFound, if_pos hmsg]
  cases room with
  | false => exact h.forget _ hl hmm hctx rfl
  | true =>
    have htwice := h.forget { ctx with
      ggsnLookup := none
      pdpList := ⟨l.nsapi, l.sapi, l.ti, false, true, true, false⟩ :: ctx.pdpList } hl hmm hctx rfl
    simpa [SmState.activateGgsn, SmState.setMm] using htwice

theorem queries_lookupFound (p : LookupPtr) (l : GgsnLookup) (mm : MmPtr) (ctx : SmMm)
    (room : Bool) : (s.lookupFound p l mm ctx room).1.queries = s.queries := by
  rw [SmState.lookupFound]
  split_ifs
  · cases room <;> rfl
  · rfl

theorem Held.ggsnLookupCb (h : Held s (p :: s.queries)) (answer : DnsAnswer)
    (answers : List DnsAnswer) :
    Held (s.ggsnLookupCb p answer answers).1 (s.ggsnLookupCb p answer answers).1.queries := by
  obtain ⟨l, hl, -⟩ := h.alive p List.mem_cons_self
  induction answers generalizing s answer l with
  | nil =>
    rw [SmState.ggsnLookupCb]
    simp only [hl]
    cases hmm : l.mmctx with
    | none => exact h.freeOrphan hl hmm
    | some mm =>
      obtain ⟨ctx, hctx, -⟩ := h.mmctx p l mm List.mem_cons_self hl hmm
      simp only [hctx]
      split
      · refine (h.setLookup hl ?_ ?_).withQueries _
        · exact hmm.symm
        · rfl
      · rw [queries_lookupFound]
        exact h.lookupFound hl hmm hctx _
      · exact h.forget _ hl hmm hctx rfl
  | cons next answers ih =>
    rw [SmState.ggsnLookupCb]
    simp only [hl]
    cases hmm : l.mmctx with
    | none => exact h.freeOrphan hl hmm
    | some mm =>
      obtain ⟨ctx, hctx, -⟩ := h.mmctx p l mm List.mem_cons_self hl hmm
      simp only [hctx]
      split
      · refine ih ?_ next _ (Function.update_self ..)
        refine h.setLookup hl ?_ ?_
        · exact hmm.symm
        · rfl
      · rw [queries_lookupFound]
        exact h.lookupFound hl hmm hctx _
      · exact h.forget _ hl hmm hctx rfl

/-! ### Requests -/

/-- The message that a request is copied to is no request of a lookup. -/
theorem Held.allocMsg (h : Held s held) :
    Held { s with msgs := Function.update s.msgs s.nextMsg true, nextMsg := s.nextMsg + 1 }
      held where
  nodup := h.nodup
  used := h.used
  alive := by
    intro p hp
    obtain ⟨l, hl, hmsg⟩ := h.alive p hp
    exact ⟨l, hl, (Function.update_of_ne (h.freshMsg p l hp hl).ne _ _).trans hmsg⟩
  mmctx := h.mmctx
  lookup := h.lookup
  origMsg := h.origMsg
  freshLookup := h.freshLookup
  freshMsg := fun p l hp hl ↦ (h.freshMsg p l hp hl).trans (Nat.lt_succ_self _)

theorem Held.freeMsg (h : Held s held) {msg : MsgPtr}
    (hother : ∀ q x, q ∈ held → s.lookups q = some x → x.origMsg ≠ msg) :
    Held (s.freeMsg msg) held where
  nodup := h.nodup
  used := h.used
  alive := by
    intro p hp
    obtain ⟨l, hl, hmsg⟩ := h.alive p hp
    exact ⟨l, hl, (Function.update_of_ne (hother p l hp hl) _ _).trans hmsg⟩
  mmctx := h.mmctx
  lookup := h.lookup
  origMsg := h.origMsg
  freshLookup := h.freshLookup
  freshMsg := h.freshMsg

variable {req : ActPdpReq} {env : ActEnv} {msg : MsgPtr}

/-- What a request leads to: nothing but answers, a PDP context, or a lookup. -/
theorem doActPdpReq_cases (mm : MmPtr) (req : ActPdpReq) (msg : MsgPtr)
    (halive : ∀ p, ctx.ggsnLookup = some p → (s.lookups p).isSome)
    (hcopied : env.copied) :
    (∃ outs, s.doActPdpReq mm ctx req msg env = (s, true, outs)) ∨
      (∃ room outs, s.doActPdpReq mm ctx req msg env =
        ((s.activateGgsn mm ctx req.nsapi req.sapi req.ti room).1, true, outs)) ∨
      (StartsLookup ctx (ctx.ggsnLookup.bind s.lookups) req env ∧
        ∃ outs, s.doActPdpReq mm ctx req msg env =
          ((s.startLookup mm ctx req msg env).1, false, outs)) := by
  rw [SmState.doActPdpReq]
  by_cases hrange : req.nsapi < 5 ∨ 15 < req.nsapi
  · exact .inl ⟨_, if_pos hrange⟩
  rw [if_neg hrange]
  cases hfind : ctx.pdpList.find? (·.nsapi = req.nsapi) with
  | some pdp =>
    simp only []
    split_ifs <;> exact .inl ⟨_, rfl⟩
  | none =>
    have hnone : ∀ pdp ∈ ctx.pdpList, pdp.nsapi ≠ req.nsapi := by
      simpa using List.find?_eq_none.mp hfind
    simp only []
    split
    · next p hlook hbind =>
      have hsome := halive p hlook
      rw [hlook, Option.bind_some] at hbind
      rw [hbind] at hsome
      cases hsome
    · by_cases hsame : (ctx.ggsnLookup.bind s.lookups).any fun l ↦ l.sapi = req.sapi ∧ l.ti = req.ti
      · exact .inl ⟨_, if_pos hsame⟩
      rw [if_neg hsame]
      cases hggsn : env.ggsn with
      | some room => exact .inr (.inl ⟨room, _, rfl⟩)
      | none =>
        by_cases hapn : env.apn = [] ∨ ¬ env.dynamicLookup
        · exact .inl ⟨_, if_pos hapn⟩
        · simp only [if_neg hapn]
          refine .inr (.inr ⟨⟨by omega, hnone, ?_, hcopied, hggsn, ?_, ?_⟩, _, rfl⟩)
          · intro l hl hl'
            exact hsame (by rw [hl]; simpa using hl')
          · exact fun hempty ↦ hapn (.inl hempty)
          · by_contra hoff
            exact hapn (.inr hoff)

theorem Held.startLookup (h : Held s s.queries) (hctx : s.mms mm = some ctx)
    (hnone : ctx.ggsnLookup = none) (hmsg : s.msgs msg = true) (hfresh : msg < s.nextMsg)
    (hother : ∀ q x, q ∈ s.queries → s.lookups q = some x → x.origMsg ≠ msg) :
    Held (s.startLookup mm ctx req msg env).1 (s.startLookup mm ctx req msg env).1.queries := by
  have hstart := h.start hctx hnone
    ⟨.twoDigit, some mm, env.apn, msg, req.nsapi, req.sapi, req.ti⟩ rfl hmsg hfresh hother
  rw [SmState.startLookup]
  cases env.answers with
  | nil => exact hstart.withQueries _
  | cons answer answers => exact hstart.ggsnLookupCb answer answers

theorem Held.rxGsmActPdpReq (h : Held s s.queries) (hctx : s.mms mm = some ctx)
    (hone : StartsLookup ctx (ctx.ggsnLookup.bind s.lookups) req env → ctx.ggsnLookup = none) :
    Held (s.rxGsmActPdpReq mm ctx req env).1 (s.rxGsmActPdpReq mm ctx req env).1.queries := by
  rw [SmState.rxGsmActPdpReq]
  split_ifs with hcopied
  swap
  · exact h
  have hmsg := h.allocMsg
  have hother : ∀ q x, q ∈ s.queries → s.lookups q = some x → x.origMsg ≠ s.nextMsg :=
    fun q x hq hx ↦ (h.freshMsg q x hq hx).ne
  have halive : ∀ p, ctx.ggsnLookup = some p → (s.lookups p).isSome := by
    intro p hp
    obtain ⟨-, l, hl, -⟩ := h.lookup mm ctx p hctx hp
    exact Option.isSome_of_eq_some hl
  rcases doActPdpReq_cases (s := { s with
      msgs := Function.update s.msgs s.nextMsg true, nextMsg := s.nextMsg + 1 }) mm req s.nextMsg
      halive hcopied with
    ⟨outs, heq⟩ | ⟨room, outs, heq⟩ | ⟨hstarts, outs, heq⟩
  · simp only [heq]
    exact hmsg.freeMsg hother
  · simp only [heq, if_true]
    have hact := hmsg.activateGgsn hctx req.nsapi req.sapi req.ti room
    cases room with
    | false => exact hact.freeMsg hother
    | true => exact hact.freeMsg hother
  · simp only [heq]
    exact hmsg.startLookup hctx (hone hstarts) (Function.update_self ..) (Nat.lt_succ_self _) hother

/-! ### MM contexts -/

/-- A context that goes away is forgotten by the lookup that it points to. -/
theorem Held.mmCtxCleanupFree (h : Held s s.queries) (hctx : s.mms mm = some ctx) :
    Held (s.mmCtxCleanupFree mm ctx) (s.mmCtxCleanupFree mm ctx).queries := by
  rw [SmState.mmCtxCleanupFree]
  have hgone :
      ∀ mm' x, Function.update s.mms mm none mm' = some x → mm' ≠ mm ∧ s.mms mm' = some x := by
    intro mm' x hx
    by_cases hmm : mm' = mm
    · simp [hmm] at hx
    · exact ⟨hmm, by simpa [hmm] using hx⟩
  cases hlook : ctx.ggsnLookup with
  | none =>
    refine h.setMms (fun mm' x p hx hp ↦ ⟨x, (hgone mm' x hx).2, hp⟩) ?_
    intro mm' x p hx hp
    have hmm : mm' ≠ mm := by
      rintro rfl
      obtain rfl := Option.some.inj (hctx.symm.trans hx)
      exact absurd (hlook.symm.trans hp) (by simp)
    exact ⟨x, (Function.update_of_ne hmm _ _).trans hx, hp⟩
  | some p =>
    obtain ⟨hp, l, hl, hmm⟩ := h.lookup mm ctx p hctx hlook
    simp only [hl]
    -- The lookup points to no context any more, and the context that it has pointed to is gone.
    have hlook' : ∀ q x, Function.update s.lookups p (some { l with mmctx := none }) q = some x →
        ∃ y, s.lookups q = some y ∧ x.origMsg = y.origMsg ∧ (x.mmctx = none ∨ q ≠ p ∧ x = y) := by
      intro q x hx
      by_cases hq : q = p
      · subst hq
        obtain rfl : { l with mmctx := none } = x := by simpa using hx
        exact ⟨l, hl, rfl, .inl rfl⟩
      · exact ⟨x, by simpa [hq] using hx, rfl, .inr ⟨hq, rfl⟩⟩
    refine ⟨h.nodup, h.used, ?_, ?_, ?_, ?_, h.freshLookup, ?_⟩
    · intro q hq
      obtain ⟨y, hy, hmsg⟩ := h.alive q hq
      by_cases hqp : q = p
      · subst hqp
        obtain rfl := Option.some.inj (hl.symm.trans hy)
        exact ⟨_, Function.update_self .., hmsg⟩
      · exact ⟨y, (Function.update_of_ne hqp _ _).trans hy, hmsg⟩
    · intro q x mm' hq hx hxmm
      obtain ⟨y, hy, -, hnone | ⟨hqp, rfl⟩⟩ := hlook' q x hx
      · exact absurd (hnone.symm.trans hxmm) (by simp)
      · obtain ⟨ctx', hctx', hpoint⟩ := h.mmctx q x mm' hq hy hxmm
        have hmm' : mm' ≠ mm := by
          rintro rfl
          obtain rfl := Option.some.inj (hctx.symm.trans hctx')
          exact hqp (Option.some.inj (hpoint.symm.trans hlook))
        exact ⟨ctx', (Function.update_of_ne hmm' _ _).trans hctx', hpoint⟩
    · intro mm' x q hx hq
      obtain ⟨hmm', hx⟩ := hgone mm' x hx
      obtain ⟨hheld, y, hy, hymm⟩ := h.lookup mm' x q hx hq
      have hqp : q ≠ p := by
        rintro rfl
        obtain rfl := Option.some.inj (hl.symm.trans hy)
        exact hmm' (Option.some.inj (hymm.symm.trans hmm))
      exact ⟨hheld, y, (Function.update_of_ne hqp _ _).trans hy, hymm⟩
    · intro q x q' x' hq hq' hx hx' heq
      obtain ⟨y, hy, hmsg, -⟩ := hlook' q x hx
      obtain ⟨y', hy', hmsg', -⟩ := hlook' q' x' hx'
      exact h.origMsg q y q' y' hq hq' hy hy' (hmsg ▸ hmsg' ▸ heq)
    · intro q x hq hx
      obtain ⟨y, hy, hmsg, -⟩ := hlook' q x hx
      exact hmsg ▸ h.freshMsg q y hq hy

theorem Held.mmAlloc (h : Held s held) (hctx : s.mms mm = none) (ranType : SgsnRanType) :
    Held (s.setMm mm (some ⟨ranType, [], none⟩)) held := by
  refine h.setMms ?_ ?_
  · intro mm' x p hx hp
    by_cases hmm : mm' = mm
    · subst hmm
      obtain rfl : ⟨ranType, [], none⟩ = x := by simpa using hx
      cases hp
    · exact ⟨x, by simpa [hmm] using hx, hp⟩
  · intro mm' x p hx hp
    have hmm : mm' ≠ mm := by
      rintro rfl
      exact absurd (hctx.symm.trans hx) (by simp)
    exact ⟨x, (Function.update_of_ne hmm _ _).trans hx, hp⟩

/-! ### Runs -/

theorem Held.step (h : Held s s.queries) {e : SmEvent} (hone : OneLookup s e) :
    Held (s.step e).1 (s.step e).1.queries := by
  cases e with
  | actPdpReq mm req env =>
    rw [SmState.step]
    cases hctx : s.mms mm with
    | none => exact h
    | some ctx => exact h.rxGsmActPdpReq hctx (hone ctx hctx)
  | dnsAnswer p answer answers =>
    rw [SmState.step]
    split_ifs with hp
    · exact ((h.perm (List.perm_cons_erase hp)).withQueries _).ggsnLookupCb answer answers
    · exact h
  | mmAlloc mm ranType =>
    rw [SmState.step]
    cases hctx : s.mms mm with
    | none => exact h.mmAlloc hctx ranType
    | some ctx => exact h
  | mmChange mm ranType pdpList =>
    rw [SmState.step]
    cases hctx : s.mms mm with
    | none => exact h
    | some ctx => exact h.setMm hctx rfl
  | mmFree mm =>
    rw [SmState.step]
    cases hctx : s.mms mm with
    | none => exact h
    | some ctx => exact h.mmCtxCleanupFree hctx

theorem held_start : Held .start SmState.start.queries := by
  constructor
  all_goals simp [SmState.start]

/-- **Pending lookups.** After every run in which a lookup is started only for an MM context for
which none is under way, nothing dangles. -/
theorem nothingDangles_run {es : List SmEvent} (hes : smMachine.Meets OneLookup .start es) :
    NothingDangles (smMachine.run .start es) :=
  (Machine.invariant_run (M := smMachine) OneLookup (fun s ↦ Held s s.queries)
    (fun _ _ h hone ↦ h.step hone) held_start hes).nothingDangles

/-- A request for a name that the resolver does not answer at once. -/
def lookedUp (nsapi ti : ℕ) : SmEvent :=
  .actPdpReq 1 ⟨nsapi, 3, ti⟩ ⟨true, none, [1, 97], 27, true, [], ⟩

/-- A name is looked up and found. -/
def oneLookup : List SmEvent :=
  [.mmAlloc 1 .geranGb, lookedUp 5 0, .dnsAnswer 0 (.found true) [], .mmFree 1]

theorem oneLookup_nothingDangles : NothingDangles (smMachine.run .start oneLookup) := by
  refine nothingDangles_run ⟨trivial, ?_, trivial, trivial, trivial⟩
  intro ctx hctx _
  have hnew : some ⟨.geranGb, [], none⟩ = some ctx := hctx
  rw [← Option.some.inj hnew]

/-- Two lookups for one MM context, which then goes away. -/
def twoLookups : List SmEvent :=
  [.mmAlloc 1 .geranGb, lookedUp 5 0, lookedUp 6 1, .mmFree 1]

/-- The first of two lookups for an MM context still points to it when it is gone. -/
theorem twoLookups_dangles : ¬ NothingDangles (smMachine.run .start twoLookups) := by
  intro h
  obtain ⟨l, hl, -, hlive⟩ := h.query 0 (by decide +kernel)
  have hfirst : (smMachine.run .start twoLookups).lookups 0 =
      some ⟨.twoDigit, some 1, [1, 97], 0, 5, 3, 0⟩ := by decide +kernel
  rw [hfirst] at hl
  obtain rfl := Option.some.inj hl
  exact absurd (hlive 1 rfl) (by decide +kernel)

end OsmoSgsn.Sm
