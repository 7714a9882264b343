import OsmoSgsn.Library.Machine

/-!
# The restart counter of a GGSN

Messages of a GGSN carry a Recovery value, which changes when the GGSN restarts. The gateway notes
it in the GGSN context that it finds by the address of the GGSN, and releases the PDP contexts of
that GGSN context when the value has changed.

GGSN contexts are configured, or made for one activation after a name was looked up; these go with
their PDP context. Several of them may have the same address. The latest is found first.
-/

namespace OsmoSgsn.Gtp

/-- An IPv4 address. -/
abbrev InAddr := BitVec 32

/-- A pointer to a GGSN context. -/
abbrev GgsnPtr := ℕ

/-- A pointer to a PDP context. -/
abbrev PdpPtr := ℕ

/-- `struct sgsn_ggsn_ctx`, where no restart counter is `-1`. -/
structure SgsnGgsnCtx where
  ptr : GgsnPtr
  id : BitVec 32
  remoteAddr : InAddr
  remoteRestartCtr : Option (BitVec 8)
  pdpList : List PdpPtr
  deriving DecidableEq, Repr

/-- `struct sgsn_pdp_ctx`, as far as it is dropped. -/
structure DropPdp where
  ptr : PdpPtr
  ggsn : Option GgsnPtr
  destroyGgsn : Bool
  /-- There is a handle of the GTP library. -/
  lib : Bool
  /-- `PDP_STATE_CR_CONF`. -/
  confirmed : Bool
  /-- There is an MM context, and its GMM state is registered. -/
  mmRegistered : Bool
  deriving DecidableEq, Repr

/-- `ggsn_list`, the latest first, and the PDP contexts. -/
structure GgsnState where
  ggsns : List SgsnGgsnCtx
  pdps : List DropPdp
  nextGgsn : GgsnPtr

/-- What can be seen of the handling of restart counters. -/
inductive RecoveryOut
  /-- A message with a Recovery value has come from an address. -/
  | recoveryRx (addr : InAddr) (recovery : BitVec 8)
  /-- `sgsn_ggsn_ctx_drop_pdp` is called. -/
  | dropPdp (pdp : PdpPtr)
  | deactPdpReq (pdp : PdpPtr)
  | deletePdpReq (pdp : PdpPtr)
  | pdpFreed (pdp : PdpPtr)
  deriving DecidableEq, Repr

namespace GgsnState

variable (s : GgsnState)

/-- `sgsn_ggsn_ctx_by_id`. -/
def ggsnById (id : BitVec 32) : Option SgsnGgsnCtx := s.ggsns.find? (·.id = id)

/-- `sgsn_ggsn_ctx_by_addr`. -/
def ggsnByAddr (addr : InAddr) : Option SgsnGgsnCtx := s.ggsns.find? (·.remoteAddr = addr)

/-- Write to a GGSN context. -/
def modGgsn (ggsn : GgsnPtr) (f : SgsnGgsnCtx → SgsnGgsnCtx) : GgsnState :=
  { s with ggsns := s.ggsns.map fun g ↦ if g.ptr = ggsn then f g else g }

/-- Write to a PDP context. -/
def modPdp (pdp : PdpPtr) (f : DropPdp → DropPdp) : GgsnState :=
  { s with pdps := s.pdps.map fun p ↦ if p.ptr = pdp then f p else p }

/-- The PDP context that a pointer points to. -/
def pdp? (pdp : PdpPtr) : Option DropPdp := s.pdps.find? (·.ptr = pdp)

/-- `sgsn_ggsn_ctx_alloc`. -/
def ggsnAlloc (id : BitVec 32) (addr : InAddr) : GgsnState :=
  { s with ggsns := ⟨s.nextGgsn, id, addr, none, []⟩ :: s.ggsns, nextGgsn := s.nextGgsn + 1 }

/-- `sgsn_ggsn_ctx_find_alloc` and the configuration of the address. -/
def configure (id : BitVec 32) (addr : InAddr) : GgsnState :=
  match s.ggsnById id with
  | some g => s.modGgsn g.ptr fun g ↦ { g with remoteAddr := addr }
  | none => s.ggsnAlloc id addr

/-- `sgsn_pdp_ctx_alloc`. -/
def pdpAlloc (ggsn : GgsnPtr) (pdp : PdpPtr) (destroyGgsn : Bool) : GgsnState :=
  { s with pdps := ⟨pdp, some ggsn, destroyGgsn, true, false, true⟩ :: s.pdps }.modGgsn ggsn
    fun g ↦ { g with pdpList := pdp :: g.pdpList }

/-- `sgsn_ggsn_ctx_remove_pdp`. A GGSN context that was made for the PDP context is freed. -/
def removePdp (ggsn : GgsnPtr) (p : DropPdp) : GgsnState :=
  let s := s.modGgsn ggsn fun g ↦ { g with pdpList := g.pdpList.erase p.ptr }
  let s := if p.destroyGgsn then { s with ggsns := s.ggsns.filter (·.ptr ≠ ggsn) } else s
  s.modPdp p.ptr fun p ↦ { p with ggsn := none, lib := false }

/-- `sgsn_pdp_ctx_free`. -/
def pdpFree (p : DropPdp) : GgsnState :=
  let s := match p.ggsn with
    | some ggsn => s.removePdp ggsn p
    | none => s
  { s with pdps := s.pdps.filter (·.ptr ≠ p.ptr) }

/-- The body of `sgsn_ggsn_ctx_drop_pdp`. -/
def dropCtx (p : DropPdp) : GgsnState × List RecoveryOut :=
  match p.ggsn with
  | some ggsn =>
    if p.lib then
      (s, (if p.mmRegistered then [.deactPdpReq p.ptr] else []) ++
        if p.confirmed then [.deletePdpReq p.ptr] else [])
    else if p.mmRegistered then (s.removePdp ggsn p, [.deactPdpReq p.ptr])
    else (s.pdpFree p, [.pdpFreed p.ptr])
  | none =>
    if p.mmRegistered then (s, [.deactPdpReq p.ptr]) else (s.pdpFree p, [.pdpFreed p.ptr])

/-- `sgsn_ggsn_ctx_drop_pdp`. -/
def dropPdp (pdp : PdpPtr) : GgsnState × List RecoveryOut :=
  match s.pdp? pdp with
  | none => (s, [.dropPdp pdp])
  | some p => ((s.dropCtx p).1, .dropPdp pdp :: (s.dropCtx p).2)

end GgsnState

/-- The loop of `sgsn_ggsn_ctx_drop_all_pdp_except`. It keeps the next element safe, and what is
dropped removes no other element. -/
def dropAllPdpExcept (except : Option PdpPtr) :
    List PdpPtr → GgsnState → GgsnState × List RecoveryOut
  | [], s => (s, [])
  | pdp :: pdps, s =>
    if except = some pdp then dropAllPdpExcept except pdps s
    else
      let (s, outs) := s.dropPdp pdp
      let (s, more) := dropAllPdpExcept except pdps s
      (s, outs ++ more)

namespace GgsnState

variable (s : GgsnState)

/-- `cb_recovery3`, for a message that belongs to a PDP context or to none. -/
def recovery3 (addr : InAddr) (pdp : Option PdpPtr) (recovery : BitVec 8) :
    GgsnState × List RecoveryOut :=
  match s.ggsnByAddr addr with
  | none => (s, [])
  | some g =>
    match g.remoteRestartCtr with
    | none => (s.modGgsn g.ptr fun g ↦ { g with remoteRestartCtr := some recovery }, [])
    | some ctr =>
      if ctr = recovery then (s, [])
      else dropAllPdpExcept pdp g.pdpList
        (s.modGgsn g.ptr fun g ↦ { g with remoteRestartCtr := some recovery })

end GgsnState

/-- What happens at the gateway. -/
inductive RecoveryEvent
  /-- A GGSN context is configured. -/
  | configure (id : BitVec 32) (addr : InAddr)
  /-- A PDP context is activated at a GGSN context. -/
  | activate (ggsn : GgsnPtr) (pdp : PdpPtr)
  /-- A PDP context is activated at a GGSN that was looked up, unless there is no room for it. -/
  | lookedUp (addr : InAddr) (pdp : PdpPtr) (room : Bool)
  /-- The rest of the gateway writes to a PDP context. -/
  | pdpChange (pdp : PdpPtr) (lib confirmed mmRegistered : Bool)
  | pdpFree (pdp : PdpPtr)
  /-- An Echo Request to a GGSN was not answered. -/
  | echoTimeout (ggsn : GgsnPtr)
  | recovery (addr : InAddr) (pdp : Option PdpPtr) (recovery : BitVec 8)

namespace GgsnState

/-- One event. -/
def step (s : GgsnState) : RecoveryEvent → GgsnState × List RecoveryOut
  | .configure id addr => (s.configure id addr, [])
  | .activate ggsn pdp =>
    if (s.ggsns.any (·.ptr = ggsn)) ∧ s.pdp? pdp = none then (s.pdpAlloc ggsn pdp false, [])
    else (s, [])
  | .lookedUp addr pdp room =>
    if s.pdp? pdp = none then
      let s' := s.ggsnAlloc 0xffffffff addr
      (if room then s'.pdpAlloc s.nextGgsn pdp true else s', [])
    else (s, [])
  | .pdpChange pdp lib confirmed mmRegistered =>
    (s.modPdp pdp fun p ↦ { p with
      lib := lib, confirmed := confirmed, mmRegistered := mmRegistered }, [])
  | .pdpFree pdp =>
    match s.pdp? pdp with
    | none => (s, [])
    | some p => (s.pdpFree p, [.pdpFreed pdp])
  | .echoTimeout ggsn =>
    match s.ggsns.find? (·.ptr = ggsn) with
    | none => (s, [])
    | some g => dropAllPdpExcept none g.pdpList s
  | .recovery addr pdp recovery =>
    let (s, outs) := s.recovery3 addr pdp recovery
    (s, .recoveryRx addr recovery :: outs)

/-- A gateway that was just started. -/
def start : GgsnState := ⟨[], [], 0⟩

end GgsnState

/-- The machine of restart counters. -/
def recoveryMachine : Machine GgsnState RecoveryEvent RecoveryOut where
  step := GgsnState.step

/-! ## What a restart clears -/

/-- The latest Recovery value that has come from an address. -/
def lastRecovery (addr : InAddr) (outs : List RecoveryOut) : Option (BitVec 8) :=
  outs.foldl (fun last o ↦ match o with
    | .recoveryRx a recovery => if a = addr then some recovery else last
    | _ => last) none

namespace GgsnState

variable (s : GgsnState)

/-- The PDP contexts towards an address. -/
def towards (addr : InAddr) : List PdpPtr :=
  (s.ggsns.filter (·.remoteAddr = addr)).flatMap (·.pdpList)

/-- What a Recovery value does, where `last` is the one before: if it has changed, every PDP context
towards the address but the one that the message belongs to is dropped, and else none is. -/
def RestartClears (last : Option (BitVec 8)) (addr : InAddr) (pdp : Option PdpPtr)
    (recovery : BitVec 8) : Prop :=
  (last.any (· ≠ recovery) → ∀ p ∈ s.towards addr, pdp ≠ some p →
      .dropPdp p ∈ (s.step (.recovery addr pdp recovery)).2) ∧
    (¬ last.any (· ≠ recovery) → ∀ p, .dropPdp p ∉ (s.step (.recovery addr pdp recovery)).2)

/-- The first GGSN context with an address has noted another value than one. -/
def NotesOther (addr : InAddr) (recovery : BitVec 8) (g : SgsnGgsnCtx) : Prop :=
  s.ggsnByAddr addr = some g ∧ g.remoteRestartCtr.any (· ≠ recovery)

/-- What the first GGSN context with an address knows is what has happened: if the value has changed
since `last`, it has noted another value and has every PDP context towards the address but the one
that the message belongs to; if the value has not changed, it has noted none or this one, or has no
other PDP context. -/
def FirstKnows (last : Option (BitVec 8)) (addr : InAddr) (pdp : Option PdpPtr)
    (recovery : BitVec 8) : Prop :=
  (last.any (· ≠ recovery) → ∀ p ∈ s.towards addr, pdp ≠ some p →
      ∃ g, s.NotesOther addr recovery g ∧ p ∈ g.pdpList) ∧
    (¬ last.any (· ≠ recovery) → ∀ g, s.NotesOther addr recovery g →
      ∀ p ∈ g.pdpList, pdp = some p)

end GgsnState

variable {s : GgsnState} {addr : InAddr} {pdp : Option PdpPtr} {recovery : BitVec 8}

/-- Dropping one PDP context drops no other. -/
theorem dropPdp_mem_dropPdp {p q : PdpPtr} : .dropPdp p ∈ (s.dropPdp q).2 ↔ p = q := by
  have hctx : ∀ x, .dropPdp p ∉ (s.dropCtx x).2 := by
    intro x
    rw [GgsnState.dropCtx]
    split
    · split_ifs <;> simp
    · split_ifs <;> simp
  rw [GgsnState.dropPdp]
  split
  · simp
  · next x hx => simp [hctx x]

/-- The loop drops what is in the list, but for one. -/
theorem dropPdp_mem_dropAll {p : PdpPtr} {pdps : List PdpPtr} :
    .dropPdp p ∈ (dropAllPdpExcept pdp pdps s).2 ↔ p ∈ pdps ∧ pdp ≠ some p := by
  induction pdps generalizing s with
  | nil => simp [dropAllPdpExcept]
  | cons q pdps ih =>
    rw [dropAllPdpExcept]
    split_ifs with hq
    · rw [ih, List.mem_cons]
      constructor
      · rintro ⟨hmem, hne⟩
        exact ⟨.inr hmem, hne⟩
      · rintro ⟨rfl | hmem, hne⟩
        · exact absurd hq hne
        · exact ⟨hmem, hne⟩
    · rw [List.mem_append, dropPdp_mem_dropPdp, ih, List.mem_cons]
      constructor
      · rintro (rfl | ⟨hmem, hne⟩)
        · exact ⟨.inl rfl, hq⟩
        · exact ⟨.inr hmem, hne⟩
      · rintro ⟨rfl | hmem, hne⟩
        · exact .inl rfl
        · exact .inr ⟨hmem, hne⟩

/-- A Recovery value drops the PDP contexts of the first GGSN context with the address, if that has
noted another value. -/
theorem dropPdp_mem_recovery {p : PdpPtr} :
    .dropPdp p ∈ (s.step (.recovery addr pdp recovery)).2 ↔
      (∃ g, s.NotesOther addr recovery g ∧ p ∈ g.pdpList) ∧ pdp ≠ some p := by
  have hiff : .dropPdp p ∈ (s.step (.recovery addr pdp recovery)).2 ↔
      .dropPdp p ∈ (s.recovery3 addr pdp recovery).2 := by
    simp [GgsnState.step]
  rw [hiff, GgsnState.recovery3]
  simp only [GgsnState.NotesOther]
  cases hg : s.ggsnByAddr addr with
  | none => simp
  | some g =>
    cases hctr : g.remoteRestartCtr with
    | none => simp [hctr]
    | some ctr =>
      by_cases heq : ctr = recovery
      · simp [hctr, heq]
      · simp [hctr, heq, dropPdp_mem_dropAll]

/-- A GGSN is configured and has a PDP context, and is looked up for another one. -/
def configuredAndLookedUp : List RecoveryEvent :=
  [.configure 0 0x0a000001, .activate 0 1, .recovery 0x0a000001 (some 1) 5,
    .lookedUp 0x0a000001 2 true]

end OsmoSgsn.Gtp
