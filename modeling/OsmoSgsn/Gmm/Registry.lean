import OsmoSgsn.Gmm.Node

/-!
# The registry

What the gateway knows about where its mobile stations are: for each context its identities, its
place, the states of its FSMs, and the objects that it points to. This is the part of the state
that the properties of contexts speak about; timers, vectors, subscriber records and messages are
not in it.

`Step` says once what the code can do to the registry. Its rules are those of the procedures, with
their guards; the code refines it, and an invariant is then a matter of the rules alone. Some of
the guards are not the code's own but promises about the event under way, `Promises`, one for each
property that needs one.
-/

namespace OsmoSgsn.Gmm

/-! ## Entries -/

/-- What the registry has of a context. -/
structure Entry where
  ranType : SgsnRanType
  imsi : Digits
  pTmsi : BitVec 32
  pTmsiOld : BitVec 32
  ptmsiHistory : List (BitVec 32)
  ra : RaId
  gmm : GmmState
  llme : Option LlmeId
  tlli : BitVec 32
  tlliNew : BitVec 32
  mmGb : MmGbState
  ueCtx : Option UeId
  pmm : PmmState
  att : AttachState
  /-- There is a PDP context, or a GGSN is looked up for one. -/
  session : Bool

/-- The entry of a context. -/
def MmCtx.entry (mm : MmCtx) : Entry where
  ranType := mm.ranType
  imsi := mm.imsi
  pTmsi := mm.pTmsi
  pTmsiOld := mm.pTmsiOld
  ptmsiHistory := mm.ptmsiHistory
  ra := mm.ra
  gmm := mm.gmm
  llme := mm.llme
  tlli := mm.tlli
  tlliNew := mm.tlliNew
  mmGb := mm.mmGb
  ueCtx := mm.ueCtx
  pmm := mm.pmm
  att := mm.att
  session := mm.pdpList ≠ [] ∨ mm.ggsnLookup ≠ none

/-- Downlink data for the mobile station is delivered or paged. -/
def Entry.Reachable (e : Entry) : Prop :=
  match e.ranType with
  | .geranGb => e.mmGb ≠ .idle
  | .utranIu => e.pmm ≠ .detached

/-- The pointers and the states fit the radio access, as the assertions of the code want it. -/
def Entry.FitsRan (e : Entry) : Prop :=
  match e.ranType with
  | .geranGb => e.pmm = .detached
  | .utranIu => e.llme = none

/-! ## The registry -/

/-- The registry. -/
structure Registry where
  hash : Hashing
  entry : CtxId → Option Entry
  mmList : List CtxId
  nextCtx : CtxId
  tables : MmTables
  llmes : List Llme
  nextLlme : LlmeId
  ues : UeId → Bool
  ueList : List UeId
  /-- A state change was asked for that the table of its FSM does not allow. -/
  denied : Bool

/-- A state change that the table of its FSM does not allow is asked for. -/
def Obs.denied : Obs → Bool
  | .gmmChange st next => ¬ st.mayLeaveFor next
  | .attachChange st next => ¬ st.mayLeaveFor next
  | _ => false

/-- The registry of a gateway. -/
def Sgsn.view (s : Sgsn) : Registry where
  hash := s.hash
  entry := fun id ↦ (s.ctxs id).map MmCtx.entry
  mmList := s.mmList
  nextCtx := s.nextCtx
  tables := s.tables
  llmes := s.llmes
  nextLlme := s.nextLlme
  ues := fun ue ↦ (s.ues ue).isSome
  ueList := s.ueList
  denied := s.obs.any Obs.denied

namespace Registry

/-- Replace an entry. -/
def set (r : Registry) (id : CtxId) (e : Entry) : Registry :=
  { r with entry := Function.update r.entry id (some e) }

/-- The LLC entities that are there. -/
def liveLlmes (r : Registry) : List LlmeId := r.llmes.map (·.id)

/-- Add an LLC entity. -/
def addLlme (r : Registry) (tlli : BitVec 32) : Registry :=
  { r with llmes := ⟨r.nextLlme, tlli, tlliUnassigned⟩ :: r.llmes, nextLlme := r.nextLlme + 1 }

/-- Free an LLC entity. -/
def freeLlme (r : Registry) (l : LlmeId) : Registry :=
  { r with llmes := r.llmes.filter (·.id ≠ l) }

/-- The LLC entities that are left when a pointer to one is given up. One that has no TLLI is not
freed. -/
def dropped (llmes : List Llme) : Option LlmeId → List Llme
  | none => llmes
  | some l =>
    match llmes.find? (·.id = l) with
    | none => llmes
    | some x => if x.tlli = tlliUnassigned then llmes else llmes.filter (·.id ≠ l)

/-- Give up the LLC entity that a pointer points to. -/
def dropLlme (r : Registry) (o : Option LlmeId) : Registry :=
  { r with llmes := dropped r.llmes o }

/-- No other context points to an LLC entity, which is there. -/
def LlmeFor (r : Registry) (id : CtxId) (l : LlmeId) : Prop :=
  l ∈ r.liveLlmes ∧ ∀ j e, r.entry j = some e → j ≠ id → e.llme ≠ some l

/-- No context points to an LLC entity. -/
def LlmeUnused (r : Registry) (l : LlmeId) : Prop :=
  ∀ id e, r.entry id = some e → e.llme ≠ some l

/-- No other context on Iu points to a connection, which is there. -/
def UeFor (r : Registry) (id : CtxId) (ue : UeId) : Prop :=
  r.ues ue = true ∧
    ∀ j e, r.entry j = some e → j ≠ id → e.ranType = .utranIu → e.ueCtx ≠ some ue

/-- The first context on Iu that points to a connection. -/
def byUe (r : Registry) (ue : UeId) : Option CtxId :=
  r.mmList.find? fun id ↦ (r.entry id).any fun e ↦ e.ranType = .utranIu ∧ e.ueCtx = some ue

/-- A context loses its connection. -/
def dropUe (r : Registry) (id : CtxId) : Registry :=
  match r.entry id with
  | none => r
  | some e => r.set id { e with ueCtx := none }

/-- Open a connection. -/
def addUe (r : Registry) (ue : UeId) : Registry :=
  { r with ues := Function.update r.ues ue true, ueList := ue :: r.ueList }

/-- Free a connection; the first context on Iu that points to it loses it. -/
def freeUe (r : Registry) (ue : UeId) : Registry :=
  let r' := match r.byUe ue with
    | none => r
    | some id => r.dropUe id
  { r' with ues := Function.update r'.ues ue false, ueList := r'.ueList.erase ue }

/-- No other context has an IMSI. -/
def ImsiFor (r : Registry) (id : CtxId) (imsi : Digits) : Prop :=
  ∀ j e, r.entry j = some e → j ≠ id → e.imsi ≠ imsi

/-- No other context has a P-TMSI. -/
def PtmsiFor (r : Registry) (id : CtxId) (pTmsi : BitVec 32) : Prop :=
  ∀ j e, r.entry j = some e → j ≠ id → e.pTmsi ≠ pTmsi ∧ e.pTmsiOld ≠ pTmsi

/-- Add a context at the head of the list. -/
def alloc (r : Registry) (ranType : SgsnRanType) (ra : RaId) : Registry :=
  { r with
    entry := Function.update r.entry r.nextCtx (some (MmCtx.fresh ranType ra).entry)
    mmList := r.nextCtx :: r.mmList
    nextCtx := r.nextCtx + 1 }

/-- Free a context and give up its LLC entity. -/
def free (r : Registry) (id : CtxId) (e : Entry) : Registry :=
  { r with
    entry := Function.update r.entry id none
    mmList := r.mmList.erase id
    tables := r.tables.hashRemove id
    llmes := dropped r.llmes e.llme }

end Registry

/-! ## Steps -/

/-- What is promised about the event under way. -/
structure Promises where
  /-- A context that has an IMSI is not given that of another one. -/
  imsi : Prop
  /-- No mobile station presents the reserved value as its P-TMSI. -/
  reserved : Prop
  /-- No LLC entity is given to a second context, or given up, while a context points to it. -/
  llme : Prop
  /-- A connection is given to a context on Iu only, and gone when the context leaves Iu. -/
  ue : Prop
  /-- An LLC entity is given to a context on Gb only, and gone when the context leaves Gb. -/
  ran : Prop
  /-- A registration is completed only for a context that can be reached. -/
  reach : Prop
  /-- A state change is asked for only where the table of the FSM allows it. -/
  change : Prop

variable (p : Promises)

/-- What the code does to the registry. -/
inductive Step : Registry → Registry → Prop
  /-- A state change is asked for. -/
  | request {r} (ok : Bool) (h : p.change → ok = true) :
    Step r { r with denied := r.denied || !ok }
  /-- The attach FSM enters a state; `ST_REJECT` is left within the event that enters it. -/
  | attach {r id e} (he : r.entry id = some e) (att : AttachState) (h : att ≠ .reject) :
    Step r (r.set id { e with att := att })
  /-- The GMM FSM enters a state. -/
  | gmm {r id e} (he : r.entry id = some e) (gmm : GmmState)
    (h : p.reach → gmm.isRegistered → e.gmm.isRegistered ∨ e.Reachable) :
    Step r (r.set id { e with gmm := gmm })
  /-- The Gb mobility FSM enters a state, and not `ST_MM_IDLE`. -/
  | mmGb {r id e} (he : r.entry id = some e) (mmGb : MmGbState)
    (h : mmGb = .idle → e.mmGb = .idle) :
    Step r (r.set id { e with mmGb := mmGb })
  /-- The Iu mobility FSM enters a state, and not `ST_PMM_DETACHED`. -/
  | pmm {r id e} (he : r.entry id = some e) (pmm : PmmState)
    (h : pmm = .detached → e.pmm = .detached)
    (hiu : e.pmm = .detached → pmm ≠ .detached → e.ranType = .utranIu) :
    Step r (r.set id { e with pmm := pmm })
  /-- A context loses its connection, which stays. -/
  | dropUe {r id e} (he : r.entry id = some e) : Step r (r.set id { e with ueCtx := none })
  /-- A context gets the connection that a message has come on. -/
  | takeUe {r id e} (he : r.entry id = some e) (ue : UeId)
    (h : p.ue → e.ranType = .utranIu ∧ r.UeFor id ue) :
    Step r (r.set id { e with ueCtx := some ue })
  /-- A connection is opened. -/
  | addUe {r} (ue : UeId) (h : r.ues ue = false) : Step r (r.addUe ue)
  /-- A connection is freed. -/
  | freeUe {r} (ue : UeId) : Step r (r.freeUe ue)
  /-- A context gets the LLC entity that a message has come through. -/
  | takeLlme {r id e} (he : r.entry id = some e) (l : LlmeId) (h : p.llme → r.LlmeFor id l)
    (hran : p.ran → e.ranType = .geranGb) : Step r (r.set id { e with llme := some l })
  /-- An LLC entity is made. -/
  | addLlme {r} (tlli : BitVec 32) : Step r (r.addLlme tlli)
  /-- The LLC entities get other TLLIs. -/
  | assign {r} (llmes : List Llme) (h : llmes.map (·.id) = r.llmes.map (·.id)) :
    Step r { r with llmes := llmes }
  /-- An LLC entity is freed. -/
  | freeLlme {r} (l : LlmeId) (h : p.llme → r.LlmeUnused l) : Step r (r.freeLlme l)
  /-- A context moves from Gb to Iu. Unless its mobility state is idle it gives up its LLC
  entity. -/
  | toIu {r id e} (he : r.entry id = some e) (h : e.ranType = .geranGb)
    (hran : p.ran → e.mmGb ≠ .idle ∨ e.llme = none) :
    Step r (if e.mmGb = .idle then
        r.set id { e with ranType := .utranIu, gmm := .deregistered }
      else (r.set id { e with
        ranType := .utranIu, gmm := .deregistered, mmGb := .idle, llme := none }).dropLlme e.llme)
  /-- A context moves from Iu to Gb. Where it is connected it gives up its connection. -/
  | toGb {r id e} (he : r.entry id = some e) (h : e.ranType = .utranIu) (l : LlmeId)
    (mmGb : MmGbState) (hllme : p.llme → r.LlmeFor id l)
    (hue : p.ue → e.pmm = .connected ∨ e.ueCtx = none) :
    Step r (r.set id { e with
      ranType := .geranGb, gmm := .deregistered, mmGb := mmGb, llme := some l, pmm := .detached
      ueCtx := if e.pmm = .connected then none else e.ueCtx })
  /-- A context is seen in a routing area. -/
  | place {r id e} (he : r.entry id = some e) (ra : RaId) : Step r (r.set id { e with ra := ra })
  /-- A context gets other TLLIs. -/
  | tlli {r id e} (he : r.entry id = some e) (tlli tlliNew : BitVec 32) :
    Step r { r.set id { e with tlli := tlli, tlliNew := tlliNew } with
      tables := r.tables.rehashTlli id tlli tlliNew }
  /-- A context gets an IMSI. -/
  | imsi {r id e} (he : r.entry id = some e) (imsi : Digits)
    (h : p.imsi → imsi ≠ [] → r.ImsiFor id imsi) :
    Step r { r.set id { e with imsi := imsi } with tables := r.tables.rehashImsi id imsi }
  /-- A context is given a P-TMSI, beside the old one. -/
  | givePtmsi {r id e} (he : r.entry id = some e) (pTmsi : BitVec 32) (h0 : pTmsi ≠ 0)
    (h1 : pTmsi ≠ gsmReservedTmsi) (hlocal : localTlli pTmsi = pTmsi) (h : r.PtmsiFor id pTmsi) :
    Step r { r.set id { e with
        pTmsiOld := e.pTmsi, pTmsi := pTmsi, ptmsiHistory := pTmsi :: e.ptmsiHistory } with
      tables := r.tables.rehashPtmsi id pTmsi e.pTmsi }
  /-- A context is made for a P-TMSI that no other one has. -/
  | takePtmsi {r id e} (he : r.entry id = some e) (pTmsi : BitVec 32) (hold : e.pTmsiOld = 0)
    (h : pTmsi ≠ 0 → pTmsi ≠ gsmReservedTmsi → r.PtmsiFor id pTmsi)
    (hres : p.reserved → pTmsi ≠ gsmReservedTmsi)
    (hllme : p.llme → localTlli pTmsi ≠ tlliUnassigned) :
    Step r { r.set id { e with
        pTmsi := pTmsi, ptmsiHistory := pTmsi :: e.ptmsiHistory } with
      tables := r.tables.rehashPtmsi id pTmsi 0 }
  /-- A context forgets its old P-TMSI. -/
  | dropPtmsiOld {r id e} (he : r.entry id = some e) :
    Step r { r.set id { e with pTmsiOld := 0 } with
      tables := r.tables.rehashPtmsi id e.pTmsi 0 }
  /-- A PDP context comes, or the last one goes. -/
  | session {r id e} (he : r.entry id = some e) (session : Bool)
    (h : session → e.session ∨ e.ranType = .utranIu ∨ e.llme ≠ none) :
    Step r (r.set id { e with session := session })
  /-- A context is made. -/
  | alloc {r} (ranType : SgsnRanType) (ra : RaId) : Step r (r.alloc ranType ra)
  /-- A context is freed. -/
  | free {r id e} (he : r.entry id = some e) : Step r (r.free id e)

/-- What the code does to the registry while an event is handled. -/
abbrev Steps : Registry → Registry → Prop := Relation.ReflTransGen (Step p)

variable {p}

/-- What every rule keeps, the code keeps. -/
theorem Steps.invariant {Inv : Registry → Prop} (hstep : ∀ r r', Inv r → Step p r r' → Inv r')
    {r r' : Registry} (h : Steps p r r') (hr : Inv r) : Inv r' := by
  induction h with
  | refl => exact hr
  | tail _ hlast ih => exact hstep _ _ ih hlast

end OsmoSgsn.Gmm
