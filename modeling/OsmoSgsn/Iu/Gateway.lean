import OsmoSgsn.Gmm.Node
import OsmoSgsn.Iu.Rnc

/-!
# The Iu interface of the gateway

Below mobility management there is the SCCP user: a connection of a UE is a connection of SCCP,
which gives it an id, and belongs to the RNC that it comes from. What SCCP indicates is dispatched
to the FSM of that RNC, which hands it to RANAP, resets the RNC, or gives up the connections that
the RNC has.

The RNCs are those of the list of RNCs, and what is done with a connection is the code of mobility
management. An event is handled to its end before the next one is taken, and a fault ends the
process.
-/

namespace OsmoSgsn.Iu

open OsmoSgsn.Ra OsmoSgsn.Gmm

/-! ## Messages -/

/-- The id of an SCCP connection. -/
abbrev ConnId := ℕ

/-- The digits of a number, to a width. -/
def digits (width n : ℕ) : Digits :=
  (List.range width).reverse.map fun k ↦ Fin.ofNat 10 (n / 10 ^ k)

/-- A routing area the way mobility management has it. -/
def raIdOf (rai : RoutingAreaId) : RaId where
  plmn := digits 3 rai.lac.plmn.mcc.toNat ++
    digits (if rai.lac.plmn.mnc3Digits then 3 else 2) rai.lac.plmn.mnc.toNat
  lac := rai.lac.lac.toNat
  rac := rai.rac.toNat

/-- The connection-oriented messages of RANAP. What is passed on of a message is not there where the
source does not take it: where an element is missing, or cannot be used. -/
inductive RanapCo
  /-- The Global-RNC-ID, and the routing area and the NAS message. -/
  | initialUe (rncId : Option RncId) (nas : Option (RoutingAreaId × UplinkMsg))
  | directTransfer (nas : Option (Option RaId × UplinkMsg))
  | iuReleaseRequest
  | securityModeComplete
  | iuReleaseComplete
  | rabAssignmentResponse (rab : Option RabAssignment)
  | other
  deriving DecidableEq, Repr

/-- The data of an SCCP primitive. -/
inductive RanapPdu
  | empty | undecodable
  | co (msg : RanapCo)
  deriving DecidableEq, Repr

/-! ## State -/

/-- The gateway with the SCCP user. -/
structure IuSgsn (Addr : Type) where
  sgsn : Sgsn
  rncs : RncList Addr
  /-- `conn_id` of a connection. -/
  connIds : UeId → ConnId
  /-- `ue_conn_sccp_addr_list`: the connections that have brought no message yet. -/
  sccpAddrs : List (ConnId × Addr)
  /-- History: the connections that SCCP has, and what the gateway has for each. -/
  opened : List (ConnId × Option UeId)

/-- Code that runs while an event is handled. -/
abbrev IuM (Addr : Type) := EStateM Fault (IuSgsn Addr)

variable {Addr Route : Type} [DecidableEq Route] (sccp : SccpAddrs Addr Route) (c : Calls)

/-- Run code of mobility management. -/
def onSgsn {α : Type} (m : SgsnM α) : IuM Addr α := fun s ↦
  match m s.sgsn with
  | .ok a t => .ok a { s with sgsn := t }
  | .error f t => .error f { s with sgsn := t }

/-! ## Connections -/

/-- `sgsn_scu_iups_ue_conn_ctx_find`. -/
def ueConnCtxFind (connIds : UeId → ConnId) (s : Sgsn) (connId : ConnId) : Option UeId :=
  s.ueList.find? fun ue ↦ connIds ue = connId

/-- `ue_conn_ctx_link_invalidated_free`. What is left of the connection is found by its id. -/
def ueConnCtxLinkInvalidatedFree (connIds : UeId → ConnId) (ue : UeId) : SgsnM Unit := do
  globalIuEvent ue iuRelease
  match ueConnCtxFind connIds (← get) (connIds ue) with
  | none => pure ()
  | some ue => do
    let conn ← getUe ue
    if conn.freeOnRelease then sgsnRanapIuFreeUe ue

/-- The loop of `iu_rnc_discard_all_ue_ctx`. -/
def discardUes (connIds : UeId → ConnId) (rnc : RncPtr) : List UeId → SgsnM Unit
  | [] => pure ()
  | ue :: ues => do
    let conn ← getUe ue
    (if conn.rnc = rnc then ueConnCtxLinkInvalidatedFree connIds ue else pure ())
    discardUes connIds rnc ues

/-- `iu_rnc_discard_all_ue_ctx`, after `sgsn_rnc_handle_ps_loss`. -/
def iuRncDiscardAllUeCtx (rnc : RncPtr) : IuM Addr Unit := do
  let s ← get
  match s.rncs.rnc? rnc with
  | none => pure ()
  | some r => onSgsn do
    rncLossConnected rnc (← get).ueList
    rncLossIdle rnc (r.lacRacList.map raIdOf) (← get).mmList
    discardUes s.connIds rnc (← get).ueList

/-- `ue_conn_ctx_alloc`: the connection of SCCP has a connection of a UE now. -/
def ueConnCtxAlloc (connId : ConnId) (ue : UeId) : IuM Addr Unit :=
  modify fun s ↦ { s with
    connIds := Function.update s.connIds ue connId
    opened := s.opened.map fun p ↦ if p.1 = connId then (connId, some ue) else p }

/-- `sgsn_ranap_iu_handle_co_initial`. The allocator returns what is not in use. -/
def sgsnRanapIuHandleCoInitial (rnc : RncPtr) (connId : ConnId) (ue : UeId) :
    RanapCo → IuM Addr Unit
  | .initialUe _ (some (rai, msg)) => do
    modify fun s ↦ { s with rncs := s.rncs.updateRaiSeen rnc rai }
    match (← get).sgsn.ues ue with
    | some _ => pure ()
    | none =>
      ueConnCtxAlloc connId ue
      onSgsn (ranapHandleCoInitialUe c ue rnc (raIdOf rai) msg)
  | _ => pure ()

/-- `sgsn_ranap_iu_handle_co`. -/
def sgsnRanapIuHandleCo (ue : UeId) : RanapCo → SgsnM Unit
  | .directTransfer (some (ra, msg)) => gsm0408GprsRcvmsgIu c ue ra msg
  | .iuReleaseRequest => do
    let _ ← iuUeTx ue
  | .securityModeComplete => globalIuEvent ue (iuSecurityModeComplete c)
  | .iuReleaseComplete => globalIuEvent ue iuRelease
  | .rabAssignmentResponse (some rab) => globalIuEvent ue (iuRabAssign rab)
  | _ => pure ()

/-! ## The FSM of an RNC -/

/-- `iu_rnc_state_chg`. -/
def iuRncStateChg (rnc : RncPtr) (state : IuRncState) : IuM Addr Unit :=
  modify fun s ↦ { s with rncs := s.rncs.stateChg rnc state }

/-- `iu_rnc_rx_reset`. -/
def iuRncRxReset (rnc : RncPtr) : IuM Addr Unit := do
  iuRncDiscardAllUeCtx rnc
  let sent ← onSgsn txAnswer
  iuRncStateChg rnc (if sent then .ready else .waitRxReset)

/-- `iu_rnc_reset`. -/
def iuRncReset (rnc : RncPtr) : IuM Addr Unit := do
  iuRncStateChg rnc .waitRxResetAck
  iuRncDiscardAllUeCtx rnc
  let sent ← onSgsn txAnswer
  if sent then pure () else iuRncStateChg rnc .waitRxReset

/-- The events of the FSM, with what they bring. -/
inductive IuRncEvent
  /-- The first message of a connection, and the pointer that the allocator returns for it. -/
  | msgUpCoInitial (connId : ConnId) (ue : UeId) (msg : RanapCo)
  | msgUpCo (ue : UeId) (msg : RanapCo)
  | rxReset | rxResetAck
  | available | unavailable
  | timeout
  deriving DecidableEq, Repr

/-- A dispatch to the FSM of an RNC. -/
def iuRncDispatch (rnc : RncPtr) (ev : IuRncEvent) : IuM Addr Unit := do
  match (← get).rncs.rnc? rnc with
  | none => pure ()
  | some r => match r.state, ev with
    | _, .rxReset => iuRncRxReset rnc
    | .waitRxReset, .msgUpCoInitial connId ue msg =>
      -- the RNC is accepted without a RESET, and the message is dispatched again
      iuRncStateChg rnc .ready
      sgsnRanapIuHandleCoInitial c rnc connId ue msg
    | .waitRxReset, .msgUpCo ue msg =>
      iuRncStateChg rnc .ready
      onSgsn (sgsnRanapIuHandleCo c ue msg)
    | .waitRxReset, .available => iuRncReset rnc
    | .waitRxReset, .unavailable => iuRncDiscardAllUeCtx rnc
    | .waitRxResetAck, .rxResetAck => iuRncStateChg rnc .ready
    | .waitRxResetAck, .msgUpCoInitial _ _ _ => iuRncReset rnc
    | .waitRxResetAck, .msgUpCo ue _ =>
      let connIds := (← get).connIds
      onSgsn (ueConnCtxLinkInvalidatedFree connIds ue)
      iuRncReset rnc
    | .waitRxResetAck, .available => iuRncReset rnc
    | .waitRxResetAck, .unavailable | .waitRxResetAck, .timeout => iuRncStateChg rnc .waitRxReset
    | .ready, .msgUpCoInitial connId ue msg => sgsnRanapIuHandleCoInitial c rnc connId ue msg
    | .ready, .msgUpCo ue msg => onSgsn (sgsnRanapIuHandleCo c ue msg)
    | .ready, .unavailable =>
      iuRncDiscardAllUeCtx rnc
      iuRncStateChg rnc .waitRxReset
    | _, _ => pure ()

/-- A dispatch to the FSM of the RNC that has an address. -/
def dispatchByAddr (addr : Addr) (ev : IuRncEvent) : IuM Addr Unit := do
  match (← get).rncs.findByAddr sccp addr with
  | none => pure ()
  | some r => iuRncDispatch c r.ptr ev

/-- A dispatch to the FSM of the RNC that has an identity, which may be new. -/
def dispatchById (rncId : RncId) (addr : Addr) (ev : IuRncEvent) : IuM Addr Unit := do
  let s ← get
  set { s with rncs := (s.rncs.findOrCreate sccp rncId addr).1 }
  iuRncDispatch c (s.rncs.findOrCreate sccp rncId addr).2 ev

/-! ## Indications of SCCP -/

/-- `sgsn_ranap_iu_rx_co_initial_msg`. -/
def sgsnRanapIuRxCoInitialMsg (addr : Addr) (connId : ConnId) (ue : UeId) :
    RanapPdu → IuM Addr Unit
  | .co msg => do
    match (← get).rncs.findByAddr sccp addr, msg with
    | some r, _ => iuRncDispatch c r.ptr (.msgUpCoInitial connId ue msg)
    | none, .initialUe (some rncId) _ =>
      dispatchById sccp c rncId addr (.msgUpCoInitial connId ue msg)
    | none, _ => pure ()
  | _ => pure ()

/-- `sgsn_ranap_iu_rx_co_msg`. -/
def sgsnRanapIuRxCoMsg (ue : UeId) : RanapPdu → IuM Addr Unit
  | .co msg => do
    let conn ← onSgsn (getUe ue)
    iuRncDispatch c conn.rnc (.msgUpCo ue msg)
  | _ => pure ()

/-- `ue_conn_sccp_addr_del`. -/
def ueConnSccpAddrDel (connId : ConnId) : IuM Addr Unit :=
  modify fun s ↦ { s with sccpAddrs := s.sccpAddrs.eraseP (·.1 = connId) }

/-- N-CONNECT, with the pointer that the allocator returns for a connection of a UE. -/
def nConnectInd (connId : ConnId) (addr : Addr) (ue : UeId) (data : RanapPdu) : IuM Addr Unit := do
  modify fun s ↦ { s with opened := (connId, none) :: s.opened }
  match data with
  | .empty => modify fun s ↦ { s with sccpAddrs := (connId, addr) :: s.sccpAddrs }
  | data => sgsnRanapIuRxCoInitialMsg sccp c addr connId ue data

/-- N-DISCONNECT. -/
def nDisconnectInd (connId : ConnId) (data : RanapPdu) : IuM Addr Unit := do
  ueConnSccpAddrDel connId
  let s ← get
  match ueConnCtxFind s.connIds s.sgsn connId with
  | none => pure ()
  | some ue =>
    sgsnRanapIuRxCoMsg c ue data
    let s ← get
    match ueConnCtxFind s.connIds s.sgsn connId with
    | none => pure ()
    | some ue => onSgsn (ueConnCtxLinkInvalidatedFree s.connIds ue)

/-- N-DATA, with the pointer that the allocator returns for a connection of a UE. -/
def nDataInd (connId : ConnId) (ue : UeId) (data : RanapPdu) : IuM Addr Unit := do
  let s ← get
  match ueConnCtxFind s.connIds s.sgsn connId with
  | some ue => sgsnRanapIuRxCoMsg c ue data
  | none =>
    match s.sccpAddrs.find? (·.1 = connId) with
    | none => pure ()
    | some (_, addr) =>
      ueConnSccpAddrDel connId
      sgsnRanapIuRxCoInitialMsg sccp c addr connId ue data

/-- `ranap_handle_cl_reset_req`. Without a Global-RNC-ID, the point code is taken for one. -/
def ranapHandleClResetReq (addr : Addr) (rncId : Option RncId) : IuM Addr Unit := do
  match (← get).rncs.findByAddr sccp addr with
  | some r => iuRncDispatch c r.ptr .rxReset
  | none => dispatchById sccp c (rncId.getD ⟨⟨0, 0, false⟩, sccp.pc addr⟩) addr .rxReset

/-- `sp_status`. -/
inductive SpStatus
  | accessible | inaccessible | congested
  deriving DecidableEq, Repr

/-- `remote_sccp_status`. -/
inductive RemSccpStatus
  | available | unavailableUnknown | unequipped | inaccessible | congested
  deriving DecidableEq, Repr

/-- What an N-PCSTATE says about the reachability of a point code, if anything. -/
def pcState (sp : SpStatus) (rem : RemSccpStatus) : Option IuRncEvent :=
  let lost :=
    sp = .inaccessible ∨ rem = .unavailableUnknown ∨ rem = .unequipped ∨ rem = .inaccessible
  if lost then some .unavailable
  else if sp = .accessible ∨ rem = .available then some .available
  else none

/-! ## The machine -/

/-- What happens to the gateway. -/
inductive IuSgsnEvent (Addr : Type)
  | connect (connId : ConnId) (addr : Addr) (ue : UeId) (data : RanapPdu)
  | data (connId : ConnId) (ue : UeId) (data : RanapPdu)
  | disconnect (connId : ConnId) (data : RanapPdu)
  | reset (addr : Addr) (rncId : Option RncId)
  | resetAck (addr : Addr)
  | notice (addr : Addr) (congestion : Bool)
  | pcState (addr : Addr) (sp : SpStatus) (rem : RemSccpStatus)
  /-- T-1002 of an RNC expires. -/
  | rncTimeout (rnc : RncPtr)
  /-- The release of a connection takes too long. -/
  | releaseTimeout (ue : UeId)
  /-- Anything that does not come over the Iu interface. -/
  | mm (e : Event)
  deriving DecidableEq, Repr

/-- An event of mobility management that comes over the Iu interface. -/
def fromIu : Event → Bool
  | .iuInitial .. | .iuData .. | .securityModeComplete _ | .rabAssign .. | .iuRelease _
  | .linkInvalidated _ | .rncLoss .. => true
  | _ => false

/-- The handler of an event. -/
def iuHandle : IuSgsnEvent Addr → IuM Addr Unit
  | .connect connId addr ue data => nConnectInd sccp c connId addr ue data
  | .data connId ue data => nDataInd sccp c connId ue data
  | .disconnect connId data => nDisconnectInd c connId data
  | .reset addr rncId => ranapHandleClResetReq sccp c addr rncId
  | .resetAck addr => dispatchByAddr sccp c addr .rxResetAck
  | .notice addr congestion =>
    if congestion then pure () else dispatchByAddr sccp c addr .unavailable
  | .pcState addr sp rem =>
    match pcState sp rem with
    | some ev => dispatchByAddr sccp c addr ev
    | none => pure ()
  | .rncTimeout rnc => iuRncDispatch c rnc .timeout
  | .releaseTimeout ue => onSgsn (globalIuEvent ue iuRelease)
  | .mm e => if fromIu e then pure () else onSgsn (handle c e)

/-- The connection that an event has ended. -/
def IuSgsnEvent.ended : IuSgsnEvent Addr → Option ConnId
  | .disconnect connId _ => some connId
  | _ => none

/-- SCCP does not have a connection any more that the event has ended, or one that the gateway has
disconnected because it has freed what it had for it. -/
def IuSgsn.close (s : IuSgsn Addr) (ended : Option ConnId) : IuSgsn Addr :=
  { s with opened := s.opened.filter fun p ↦
      ended ≠ some p.1 ∧ p.2.all fun ue ↦ decide (ue ∈ s.sgsn.ueList) }

/-- A gateway and the fault that has ended it. -/
structure IuNode (Addr : Type) where
  iu : IuSgsn Addr
  fault : Option Fault

/-- One event and what the layers below answer while it is handled. -/
def IuNode.step (n : IuNode Addr) (e : IuSgsnEvent Addr × Env) : IuNode Addr :=
  match n.fault with
  | some _ => n
  | none =>
    match iuHandle sccp c e.1 { n.iu with sgsn := n.iu.sgsn.enter e.2 } with
    | .ok _ s => ⟨s.close e.1.ended, none⟩
    | .error fault s => ⟨s, some fault⟩

/-- The machine of the gateway, with calls of the authorization and the attach code into each other
to a depth. -/
def iuNode (depth : ℕ) : Machine (IuNode Addr) (IuSgsnEvent Addr × Env) Empty where
  step n e := (n.step sccp (calls depth) e, [])

/-- A gateway that was just started. -/
def IuNode.start (cfg : SgsnConfig) (hash : Hashing) : IuNode Addr where
  iu := ⟨(Node.start cfg hash).sgsn, .start, fun _ ↦ 0, [], []⟩
  fault := none

end OsmoSgsn.Iu
