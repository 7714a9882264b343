import OsmoSgsn.Library.Machine
import OsmoSgsn.Gmm.State

/-!
# Handing a subscriber over to another SGSN

Another SGSN asks for the context of a subscriber with an SGSN Context Request. The answer carries
the MM context and the active PDP contexts, and the gateway remembers that they were transferred
under the reference that the GTP library has for the request. An SGSN Context Acknowledge that
accepts the transfer releases the MM context that is remembered for its reference.

MM contexts are made, changed and removed by the rest of the gateway, and a removed context takes
its transfers with it. References are whatever the library hands out.
-/

namespace OsmoSgsn.Gtp

open Gmm (Digits RaId GmmState PdpCtx)

/-- The reference of a transaction: the control TEID that it was given. -/
abbrev LocalRef := BitVec 32

/-- A pointer to an MM context. The memory of a context that is gone may be used again. -/
abbrev MmPtr := ℕ

/-- The causes of GTP that the procedure tells apart. -/
inductive GtpCause
  | accReq | contextNotFound | ptmsiMismatch | msDetached | sysFail
  | other (cause : ℕ)
  deriving DecidableEq, Repr

/-- `struct sgsn_mm_ctx`, as far as the procedure looks at it. -/
structure XferMm where
  imsi : Digits
  pTmsi : BitVec 32
  pTmsiOld : BitVec 32
  pTmsiSig : BitVec 32
  ra : RaId
  gmm : GmmState
  pdpList : List PdpCtx
  deriving DecidableEq, Repr

/-- `struct sgsn_ctx_xfer`. -/
structure SgsnCtxXfer where
  localRef : LocalRef
  mm : MmPtr
  deriving DecidableEq, Repr

/-- The information elements of an SGSN Context Request that are read. -/
structure CtxReqIes where
  imsi : Option (BitVec 64)
  pTmsi : Option (BitVec 32)
  rai : Option RaId
  pTmsiSig : Option (BitVec 24)
  deriving DecidableEq, Repr

/-- What comes back while a request is answered: whether the contexts fit into their information
elements, and whether the library sends the answer. -/
structure CtxRespEnv where
  encodesMm : Bool
  encodesPdp : PdpCtx → Bool
  sent : Bool

/-- The MM contexts that there are, in the order in which they are walked over, and
`sgsn_ctx_xfer_list`. -/
structure XferState where
  mms : List (MmPtr × XferMm)
  xfers : List SgsnCtxXfer

/-- What can be seen of the procedure. -/
inductive XferOut
  /-- An SGSN Context Response that accepts the request and transfers a context. -/
  | ctxResp (localRef : LocalRef) (mm : MmPtr)
  | ctxRespError (localRef : LocalRef) (cause : GtpCause)
  | deletePdp (mm : MmPtr) (nsapi : ℕ)
  /-- An Acknowledge has released a context. -/
  | released (localRef : LocalRef) (mm : MmPtr)
  /-- A context is gone. -/
  | mmFreed (mm : MmPtr)
  /-- An Acknowledge was handled to its end. -/
  | ctxAck (localRef : LocalRef)
  /-- The context of a transfer was used, and there is no such context. -/
  | useAfterFree (localRef : LocalRef)
  deriving DecidableEq, Repr

/-! ## Identities -/

/-- `imsi_gtp64_to_str`: digits in nibbles, the first in the lowest, up to a filler. -/
def imsiGtp64ToStr (imsi64 : BitVec 64) : List ℕ :=
  ((List.range 15).map fun n ↦ ((imsi64 >>> (n * 4)) &&& 0xf).toNat).takeWhile (· ≠ 0xf)

namespace XferState

variable (s : XferState)

/-- The context that a pointer points to. -/
def mm? (mm : MmPtr) : Option XferMm := (s.mms.find? (·.1 = mm)).map Prod.snd

/-- There is such a context. -/
def Live (mm : MmPtr) : Prop := (s.mm? mm).isSome

/-- `sgsn_mm_ctx_by_imsi`. -/
def mmCtxByImsi (imsi : List ℕ) : Option (MmPtr × XferMm) :=
  if imsi = [] then none else s.mms.find? fun p ↦ p.2.imsi.map Fin.val = imsi

/-- `sgsn_mm_ctx_by_ptmsi`. -/
def mmCtxByPtmsi (pTmsi : BitVec 32) : Option (MmPtr × XferMm) :=
  s.mms.find? (fun p ↦ p.2.pTmsi = pTmsi) <|>
    s.mms.find? fun p ↦ p.2.pTmsiOld ≠ 0 ∧ p.2.pTmsiOld = pTmsi

/-- `mm_from_ctx_req_ie`. A request with an IMSI is one for that subscriber only. -/
def mmFromCtxReqIe (ies : CtxReqIes) : Option (MmPtr × XferMm) :=
  match ies.imsi, ies.pTmsi with
  | some imsi64, _ => s.mmCtxByImsi (imsiGtp64ToStr imsi64)
  | none, none => none
  | none, some pTmsi =>
    match s.mmCtxByPtmsi pTmsi with
    | none => none
    | some (mm, ctx) => if ies.rai.all (· = ctx.ra) then some (mm, ctx) else none

end XferState

/-- `ptmsi_sig_matches`. -/
def XferMm.ptmsiSigMatches (mm : XferMm) (ies : CtxReqIes) : Bool :=
  match ies.pTmsiSig with
  | none => true
  | some sig => mm.pTmsiSig = 0 ∨ mm.pTmsiSig = sig.setWidth 32

/-- `mm_ctx_transferable`. -/
def XferMm.transferable (mm : XferMm) : Bool :=
  match mm.gmm with
  | .registeredNormal | .registeredSuspended => true
  | _ => false

/-- The PDP contexts of an SGSN Context Response, of which there may be 16. -/
def XferMm.transferredPdp (mm : XferMm) (env : CtxRespEnv) : List PdpCtx :=
  (mm.pdpList.filter fun pctx ↦ pctx.confirmed ∧ pctx.lib ∧ env.encodesPdp pctx).take 16

/-- `sgsn_delete_pdp_ctx` sends a request. -/
def deletesPdpCtx (pctx : PdpCtx) : Bool := pctx.ggsn ∧ pctx.lib ∧ pctx.confirmed

namespace XferState

variable (s : XferState)

/-! ## Transfers -/

/-- `ctx_xfer_link`. -/
def ctxXferLink (localRef : LocalRef) (mm : MmPtr) : XferState :=
  { s with xfers := s.xfers ++ [⟨localRef, mm⟩] }

/-- `ctx_xfer_take`, which takes the first transfer with the reference. -/
def ctxXferTake (localRef : LocalRef) : Option (SgsnCtxXfer × XferState) :=
  (s.xfers.find? (·.localRef = localRef)).map fun x ↦
    (x, { s with xfers := s.xfers.eraseP (·.localRef = localRef) })

/-- `ctx_xfer_purge_mm`. -/
def ctxXferPurgeMm (mm : MmPtr) : XferState :=
  { s with xfers := s.xfers.filter (·.mm ≠ mm) }

/-- `sgsn_mm_ctx_cleanup_free`: the context leaves the list, and the signal that it is gone purges
its transfers. -/
def mmCtxCleanupFree (mm : MmPtr) : XferState :=
  { s with mms := s.mms.filter (·.1 ≠ mm) }.ctxXferPurgeMm mm

/-! ## The procedure -/

/-- What `cb_sgsn_context_request_ind` and `send_ctx_resp_accept` decide: the cause of an error, or
the context that is transferred. -/
def ctxRespCause (ies : CtxReqIes) (env : CtxRespEnv) : Except GtpCause MmPtr :=
  match s.mmFromCtxReqIe ies with
  | none => .error .contextNotFound
  | some (mm, ctx) =>
    if ¬ ctx.ptmsiSigMatches ies then .error .ptmsiMismatch
    else if ¬ ctx.transferable then .error .msDetached
    else if ¬ env.encodesMm then .error .sysFail
    else if ctx.transferredPdp env = [] then .error .contextNotFound
    else .ok mm

/-- `cb_sgsn_context_request_ind`. A transfer is remembered when the library has sent the answer. -/
def contextRequestInd (localRef : LocalRef) (ies : CtxReqIes) (env : CtxRespEnv) :
    XferState × List XferOut :=
  match s.ctxRespCause ies env with
  | .error cause => (s, [.ctxRespError localRef cause])
  | .ok mm => if env.sent then (s.ctxXferLink localRef mm, [.ctxResp localRef mm]) else (s, [])

/-- `ctx_xfer_finish`. -/
def ctxXferFinish (xfer : SgsnCtxXfer) (cause : GtpCause) : XferState × List XferOut :=
  if cause = .accReq then
    match s.mm? xfer.mm with
    | none => (s, [.useAfterFree xfer.localRef])
    | some ctx =>
      (s.mmCtxCleanupFree xfer.mm,
        ((ctx.pdpList.filter deletesPdpCtx).map fun pctx ↦ .deletePdp xfer.mm pctx.nsapi) ++
          [.released xfer.localRef xfer.mm, .mmFreed xfer.mm])
  else (s, [])

/-- `cb_sgsn_context_ack_ind`. -/
def contextAckInd (localRef : LocalRef) (cause : Option GtpCause) : XferState × List XferOut :=
  match s.ctxXferTake localRef with
  | none => (s, [.ctxAck localRef])
  | some (xfer, s) =>
    let (s, outs) := s.ctxXferFinish xfer (cause.getD .sysFail)
    (s, outs ++ [.ctxAck localRef])

end XferState

/-- What happens at the gateway. -/
inductive XferEvent
  | contextRequest (localRef : LocalRef) (ies : CtxReqIes) (env : CtxRespEnv)
  | contextAck (localRef : LocalRef) (cause : Option GtpCause)
  /-- `sgsn_mm_ctx_alloc`, where no context is. -/
  | mmAlloc (mm : MmPtr) (ctx : XferMm)
  /-- A context is written to, and goes to the front of what it is found by. -/
  | mmChange (mm : MmPtr) (ctx : XferMm)
  | mmFree (mm : MmPtr)

namespace XferState

/-- One event. -/
def step (s : XferState) : XferEvent → XferState × List XferOut
  | .contextRequest localRef ies env => s.contextRequestInd localRef ies env
  | .contextAck localRef cause => s.contextAckInd localRef cause
  | .mmAlloc mm ctx =>
    if (s.mm? mm).isSome then (s, []) else ({ s with mms := (mm, ctx) :: s.mms }, [])
  | .mmChange mm ctx =>
    if (s.mm? mm).isSome then
      ({ s with mms := (mm, ctx) :: s.mms.filter (·.1 ≠ mm) }, [])
    else (s, [])
  | .mmFree mm =>
    if (s.mm? mm).isSome then (s.mmCtxCleanupFree mm, [.mmFreed mm]) else (s, [])

/-- A gateway that was just started. -/
def start : XferState := ⟨[], []⟩

end XferState

/-- The machine of the procedure. -/
def xferMachine : Machine XferState XferEvent XferOut where
  step := XferState.step

/-! ## What a reference stands for -/

/-- What a reference stands for after something more was seen: the context that the latest accepted
Response transferred, until an Acknowledge comes for it or the context is gone. -/
def transferAfter (localRef : LocalRef) (latest : Option MmPtr) : XferOut → Option MmPtr
  | .ctxResp r mm => if r = localRef then some mm else latest
  | .ctxAck r => if r = localRef then none else latest
  | .mmFreed mm => if latest = some mm then none else latest
  | _ => latest

/-- The context that the latest accepted Response for a reference transferred, if no Acknowledge for
the reference came since and there still is that context. -/
def latestTransfer (localRef : LocalRef) (outs : List XferOut) : Option MmPtr :=
  outs.foldl (transferAfter localRef) none

/-- No transfer waits for an Acknowledge that would be mistaken for that of another: a Response is
sent for a reference only if all transfers that wait under it are of the same context, and a
rejection comes for a reference only if one transfer at most waits under it. -/
def Unambiguous (s : XferState) : XferEvent → Prop
  | .contextRequest localRef ies env =>
    ∀ mm, s.ctxRespCause ies env = .ok mm → env.sent →
      ∀ x ∈ s.xfers, x.localRef = localRef → x.mm = mm
  | .contextAck localRef cause =>
    cause ≠ some .accReq → s.xfers.countP (·.localRef = localRef) ≤ 1
  | _ => True

/-! ## Transfers are of contexts that there are -/

variable {s : XferState} {r : LocalRef} {m : MmPtr} {outs : List XferOut}

/-- Every transfer is of a context that there is. -/
def Referring (s : XferState) : Prop := ∀ x ∈ s.xfers, s.Live x.mm

theorem live_iff : s.Live m ↔ ∃ ctx, (m, ctx) ∈ s.mms := by
  rw [XferState.Live, XferState.mm?, Option.isSome_map, List.find?_isSome]
  constructor
  · rintro ⟨⟨m', ctx⟩, hmem, hm⟩
    obtain rfl : m' = m := by simpa using hm
    exact ⟨ctx, hmem⟩
  · rintro ⟨ctx, hmem⟩
    exact ⟨(m, ctx), hmem, by simp⟩

/-- What is transferred is a context that there is. -/
theorem live_of_ctxRespCause {ies : CtxReqIes} {env : CtxRespEnv}
    (h : s.ctxRespCause ies env = .ok m) : s.Live m := by
  have hmem : ∀ p, s.mmFromCtxReqIe ies = some p → p ∈ s.mms := by
    intro p hp
    simp only [XferState.mmFromCtxReqIe] at hp
    split at hp
    · simp only [XferState.mmCtxByImsi] at hp
      split_ifs at hp
      exact List.mem_of_find?_eq_some hp
    · cases hp
    · split at hp
      · cases hp
      · next hby =>
        split_ifs at hp
        obtain rfl := Option.some.inj hp
        rcases (Option.orElse_eq_some _ _ _).mp hby with hnow | ⟨-, hold⟩
        · exact List.mem_of_find?_eq_some hnow
        · exact List.mem_of_find?_eq_some hold
  simp only [XferState.ctxRespCause] at h
  split at h
  · cases h
  · next mm ctx hfound =>
    split_ifs at h
    obtain rfl : mm = m := by simpa using h
    exact live_iff.mpr ⟨ctx, hmem _ hfound⟩

theorem live_free {m' : MmPtr} (h : s.Live m') (hne : m' ≠ m) :
    (s.mmCtxCleanupFree m).Live m' := by
  obtain ⟨ctx, hmem⟩ := live_iff.mp h
  exact live_iff.mpr ⟨ctx, List.mem_filter.mpr ⟨hmem, by simpa using hne⟩⟩

theorem Referring.free (h : Referring s) : Referring (s.mmCtxCleanupFree m) := by
  intro x hx
  obtain ⟨hx, hne⟩ := List.mem_filter.mp hx
  exact live_free (h x hx) (by simpa using hne)

theorem take_eq_some {x : SgsnCtxXfer} {s' : XferState} (htake : s.ctxXferTake r = some (x, s')) :
    x ∈ s.xfers ∧ x.localRef = r ∧
      s' = { s with xfers := s.xfers.eraseP (·.localRef = r) } := by
  obtain ⟨y, hfind, heq⟩ := Option.map_eq_some_iff.mp htake
  obtain ⟨rfl, rfl⟩ := Prod.mk.inj heq
  exact ⟨List.mem_of_find?_eq_some hfind, by simpa using List.find?_some hfind, rfl⟩

theorem Referring.take {x : SgsnCtxXfer} {s' : XferState} (h : Referring s)
    (htake : s.ctxXferTake r = some (x, s')) : Referring s' ∧ s'.Live x.mm := by
  obtain ⟨hx, -, rfl⟩ := take_eq_some htake
  refine ⟨fun y hy ↦ h y (List.mem_of_mem_eraseP hy), h x hx⟩

/-- What an Acknowledge for a transfer does. -/
theorem ctxXferFinish_eq {x : SgsnCtxXfer} (cause : GtpCause) (h : s.Live x.mm) :
    (cause ≠ .accReq ∧ s.ctxXferFinish x cause = (s, [])) ∨
      cause = .accReq ∧ ∃ ctx : XferMm, s.ctxXferFinish x cause = (s.mmCtxCleanupFree x.mm,
        ((ctx.pdpList.filter deletesPdpCtx).map fun pctx ↦ .deletePdp x.mm pctx.nsapi) ++
          [.released x.localRef x.mm, .mmFreed x.mm]) := by
  by_cases hc : cause = .accReq
  · obtain ⟨ctx, hctx⟩ := Option.isSome_iff_exists.mp h
    exact .inr ⟨hc, ctx, by simp [XferState.ctxXferFinish, hc, hctx]⟩
  · exact .inl ⟨hc, by simp [XferState.ctxXferFinish, hc]⟩

theorem Referring.step (h : Referring s) (e : XferEvent) : Referring (s.step e).1 := by
  cases e with
  | contextRequest r ies env =>
    simp only [XferState.step, XferState.contextRequestInd]
    cases hresp : s.ctxRespCause ies env with
    | error cause => exact h
    | ok m =>
      cases hsent : env.sent with
      | false => exact h
      | true =>
        intro x hx
        rcases List.mem_append.mp hx with hx | hx
        · exact h x hx
        · obtain rfl := List.mem_singleton.mp hx
          exact live_of_ctxRespCause hresp
  | contextAck r cause =>
    simp only [XferState.step, XferState.contextAckInd]
    cases htake : s.ctxXferTake r with
    | none => exact h
    | some p =>
      obtain ⟨x, s'⟩ := p
      obtain ⟨hs', hlive⟩ := h.take htake
      rcases ctxXferFinish_eq (cause.getD .sysFail) hlive with ⟨-, heq⟩ | ⟨-, ctx, heq⟩
      · simpa only [heq] using hs'
      · simpa only [heq] using hs'.free
  | mmAlloc m ctx =>
    simp only [XferState.step]
    split_ifs with hlive
    · exact h
    · intro x hx
      obtain ⟨ctx', hmem⟩ := live_iff.mp (h x hx)
      exact live_iff.mpr ⟨ctx', List.mem_cons_of_mem _ hmem⟩
  | mmChange m ctx =>
    simp only [XferState.step]
    split_ifs with hlive
    · intro x hx
      by_cases hm : x.mm = m
      · exact live_iff.mpr ⟨ctx, by simp [hm]⟩
      · obtain ⟨ctx', hmem⟩ := live_iff.mp (h x hx)
        exact live_iff.mpr ⟨ctx', List.mem_cons_of_mem _
          (List.mem_filter.mpr ⟨hmem, by simpa using hm⟩)⟩
    · exact h
  | mmFree m =>
    simp only [XferState.step]
    split_ifs with hlive
    · exact h.free
    · exact h

/-! ## Every transfer is the latest one for its reference -/

/-- The transfers that wait are the latest ones for their references. -/
def UpToDate (s : XferState) (outs : List XferOut) : Prop :=
  ∀ x ∈ s.xfers, latestTransfer x.localRef outs = some x.mm

theorem latestTransfer_append (new : List XferOut) :
    latestTransfer r (outs ++ new) = new.foldl (transferAfter r) (latestTransfer r outs) :=
  List.foldl_append ..

theorem latestTransfer_deletePdp (mm : MmPtr) (pdps : List PdpCtx) :
    latestTransfer r (outs ++ pdps.map fun pctx ↦ .deletePdp mm pctx.nsapi) =
      latestTransfer r outs := by
  rw [latestTransfer_append]
  induction pdps with
  | nil => rfl
  | cons pctx pdps ih => exact ih

theorem UpToDate.freed (h : UpToDate s outs) :
    UpToDate (s.mmCtxCleanupFree m) (outs ++ [.mmFreed m]) := by
  intro x hx
  obtain ⟨hx, hne⟩ := List.mem_filter.mp hx
  have hne : x.mm ≠ m := by simpa using hne
  rw [latestTransfer_append, h x hx]
  exact if_neg fun heq ↦ hne (Option.some.inj heq)

/-- An Acknowledge ends what its reference stands for, and nothing else. -/
theorem UpToDate.acked {s' : XferState} (h : UpToDate s outs) (hsub : ∀ x ∈ s'.xfers, x ∈ s.xfers)
    (hnone : ∀ x ∈ s'.xfers, x.localRef ≠ r) : UpToDate s' (outs ++ [.ctxAck r]) := by
  intro x hx
  rw [latestTransfer_append, h x (hsub x hx)]
  exact if_neg fun heq ↦ hnone x hx heq.symm

/-- Where one transfer at most waits under a reference, none does after it was taken. -/
theorem not_mem_eraseP {xfers : List SgsnCtxXfer} (hone : xfers.countP (·.localRef = r) ≤ 1) :
    ∀ x ∈ xfers.eraseP (·.localRef = r), x.localRef ≠ r := by
  induction xfers with
  | nil => simp
  | cons y ys ih =>
    by_cases hy : y.localRef = r
    · rw [List.eraseP_cons_of_pos (by simpa using hy)]
      rw [List.countP_cons_of_pos (by simpa using hy)] at hone
      intro x hx href
      have hzero : ys.countP (·.localRef = r) = 0 := by omega
      exact absurd href (by simpa using List.countP_eq_zero.mp hzero x hx)
    · rw [List.eraseP_cons_of_neg (by simpa using hy)]
      rw [List.countP_cons_of_neg (by simpa using hy)] at hone
      intro x hx
      rcases List.mem_cons.mp hx with rfl | hx
      · exact hy
      · exact ih hone x hx

theorem UpToDate.step (hlive : Referring s) (h : UpToDate s outs) {e : XferEvent}
    (hcond : Unambiguous s e) : UpToDate (s.step e).1 (outs ++ (s.step e).2) := by
  cases e with
  | contextRequest r ies env =>
    simp only [XferState.step, XferState.contextRequestInd]
    cases hresp : s.ctxRespCause ies env with
    | error cause =>
      intro x hx
      rw [latestTransfer_append]
      exact h x hx
    | ok m =>
      cases hsent : env.sent with
      | false => simpa using h
      | true =>
        intro x hx
        simp only [if_true] at hx ⊢
        rw [latestTransfer_append]
        rcases List.mem_append.mp hx with hx | hx
        · by_cases href : x.localRef = r
          · have hm := hcond m hresp hsent x hx href
            simp [transferAfter, href, hm]
          · have href : r ≠ x.localRef := fun heq ↦ href heq.symm
            simpa [transferAfter, href] using h x hx
        · obtain rfl := List.mem_singleton.mp hx
          simp [transferAfter]
  | contextAck r cause =>
    simp only [XferState.step, XferState.contextAckInd]
    cases htake : s.ctxXferTake r with
    | none =>
      have hnone : ∀ x ∈ s.xfers, x.localRef ≠ r := by
        simpa [XferState.ctxXferTake] using htake
      exact h.acked (fun x hx ↦ hx) hnone
    | some p =>
      obtain ⟨x, s'⟩ := p
      obtain ⟨hx, href, hs'⟩ := take_eq_some htake
      have hsub : ∀ y ∈ s'.xfers, y ∈ s.xfers := by
        rw [hs']
        exact fun y hy ↦ List.mem_of_mem_eraseP hy
      rcases ctxXferFinish_eq (cause.getD .sysFail) (hlive.take htake).2 with
        ⟨hc, heq⟩ | ⟨hc, ctx, heq⟩
      · -- The transfer was rejected: it was the only one under its reference.
        simp only [heq, List.nil_append]
        have hone := hcond (by rintro rfl; exact hc rfl)
        refine h.acked hsub ?_
        rw [hs']
        exact not_mem_eraseP hone
      · -- The context is gone, and with it all transfers that wait under the reference.
        simp only [heq]
        have hdel : UpToDate s' (outs ++ (((ctx.pdpList.filter deletesPdpCtx).map fun pctx ↦
            .deletePdp x.mm pctx.nsapi) ++ [.released x.localRef x.mm])) := by
          intro y hy
          rw [← List.append_assoc, latestTransfer_append, latestTransfer_deletePdp]
          exact h y (hsub y hy)
        have hfree := (hdel.freed (m := x.mm)).acked (r := r) (fun y hy ↦ hy) ?_
        · simpa using hfree
        · intro y hy href'
          obtain ⟨hy, hne⟩ := List.mem_filter.mp hy
          have hlatest := h y (hsub y hy)
          rw [href', ← href, h x hx] at hlatest
          exact absurd (Option.some.inj hlatest).symm (by simpa using hne)
  | mmAlloc m ctx =>
    simp only [XferState.step]
    split_ifs
    · simpa using h
    · rw [List.append_nil]
      exact h
  | mmChange m ctx =>
    simp only [XferState.step]
    split_ifs
    · rw [List.append_nil]
      exact h
    · simpa using h
  | mmFree m =>
    simp only [XferState.step]
    split_ifs
    · exact h.freed
    · simpa using h

/-- A context that an Acknowledge releases is that of a transfer that waits under its reference. -/
theorem exists_of_released {e : XferEvent} (hmem : .released r m ∈ (s.step e).2) :
    ⟨r, m⟩ ∈ s.xfers := by
  cases e with
  | contextRequest r' ies env =>
    simp only [XferState.step, XferState.contextRequestInd] at hmem
    split at hmem
    · simp at hmem
    · split_ifs at hmem <;> simp at hmem
  | contextAck r' cause =>
    simp only [XferState.step, XferState.contextAckInd] at hmem
    cases htake : s.ctxXferTake r' with
    | none => simp [htake] at hmem
    | some p =>
      obtain ⟨x, s'⟩ := p
      obtain ⟨hx, -, rfl⟩ := take_eq_some htake
      simp only [htake, XferState.ctxXferFinish] at hmem
      split_ifs at hmem
      · split at hmem
        · simp at hmem
        · obtain ⟨rfl, rfl⟩ : r = x.localRef ∧ m = x.mm := by simpa using hmem
          exact hx
      · simp at hmem
  | mmAlloc m' ctx =>
    simp only [XferState.step] at hmem
    split_ifs at hmem <;> simp at hmem
  | mmChange m' ctx =>
    simp only [XferState.step] at hmem
    split_ifs at hmem <;> simp at hmem
  | mmFree m' =>
    simp only [XferState.step] at hmem
    split_ifs at hmem <;> simp at hmem

/-! ## Runs -/

theorem referring_run (es : List XferEvent) : Referring (xferMachine.run .start es) :=
  Machine.invariant_run (M := xferMachine) (fun _ _ ↦ True) Referring (fun _ e h _ ↦ h.step e)
    (by simp [Referring, XferState.start]) (Machine.meets_of_forall (fun _ _ ↦ trivial) _ es)

theorem upToDate_run {es : List XferEvent} (hlive : Referring s) (h : UpToDate s outs)
    (hes : xferMachine.Meets Unambiguous s es) :
    UpToDate (xferMachine.run s es) (outs ++ xferMachine.trace s es) := by
  induction es generalizing s outs with
  | nil => simpa using h
  | cons e es ih =>
    rw [Machine.run_cons, Machine.trace_cons, ← List.append_assoc]
    exact ih (hlive.step e) (h.step hlive hes.1) hes.2

/-- **Acknowledges and transfers.** After every run every transfer that waits is of an MM context
that there is. After a run in which no transfer waits for an Acknowledge that would be mistaken for
that of another, the next Acknowledge that releases an MM context releases the one that the latest
accepted Response for its reference transferred, with no Acknowledge for the reference since. -/
theorem released_of_run (es : List XferEvent) :
    Referring (xferMachine.run .start es) ∧
      (xferMachine.Meets Unambiguous .start es → ∀ e r m,
        .released r m ∈ (xferMachine.step (xferMachine.run .start es) e).2 →
          latestTransfer r (xferMachine.trace .start es) = some m) := by
  refine ⟨referring_run es, fun hes e r m hmem ↦ ?_⟩
  have hstart : Referring .start := referring_run []
  have hempty : UpToDate .start [] := by simp [UpToDate, XferState.start]
  have hup := upToDate_run hstart hempty hes
  exact hup ⟨r, m⟩ (exists_of_released hmem)

/-- A context with one active PDP context. -/
def registeredMm (pTmsi : BitVec 32) : XferMm where
  imsi := []
  pTmsi := pTmsi
  pTmsiOld := 0
  pTmsiSig := 0
  ra := ⟨[2, 6, 2, 4, 2], 1, 1⟩
  gmm := .registeredNormal
  pdpList := [⟨5, 3, 0, true, true, true, false⟩]

/-- Two subscribers are transferred under one reference, the first without an Acknowledge. -/
def reusedRef : List XferEvent :=
  [.mmAlloc 1 (registeredMm 0xc0000001), .mmAlloc 2 (registeredMm 0xc0000002),
    .contextRequest 7 ⟨none, some 0xc0000001, none, none⟩ ⟨true, fun _ ↦ true, true⟩,
    .contextRequest 7 ⟨none, some 0xc0000002, none, none⟩ ⟨true, fun _ ↦ true, true⟩]

/-- The Acknowledge for a reference that was used again releases the subscriber that was transferred
under it before. -/
theorem reusedRef_released :
    .released 7 1 ∈
        (xferMachine.step (xferMachine.run .start reusedRef) (.contextAck 7 (some .accReq))).2 ∧
      latestTransfer 7 (xferMachine.trace .start reusedRef) = some 2 := by
  decide +kernel

end OsmoSgsn.Gtp
