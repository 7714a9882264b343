import OsmoSgsn.Library.Machine
import OsmoSgsn.Ra.Store

/-!
# The list of RNCs

An RNC is known by its identity and by the SCCP address that its messages come from. It becomes
known with the first RESET or InitialUE message that comes from an address that no RNC has, and it
stays known. For each RNC there is an FSM that says whether it has gone through the RESET procedure,
and a list of the routing areas that were seen there.

Two SCCP addresses are the same for the lookups if they are routed alike, which is what
`osmo_sccp_addr_ri_cmp` compares; the library that it belongs to is not part of the source, so an
address is a type here, and the part of it that routing looks at is a function.
-/

namespace OsmoSgsn.Iu

open OsmoSgsn.Ra

/-- `enum iu_rnc_state`; nothing leads to `IU_RNC_ST_DISCARDING`. -/
inductive IuRncState
  | waitRxReset | waitRxResetAck | ready
  deriving DecidableEq, Repr

/-- A pointer to an RNC. -/
abbrev RncPtr := ℕ

/-- What is looked at in SCCP addresses. -/
structure SccpAddrs (Addr Route : Type) where
  /-- The part that `osmo_sccp_addr_ri_cmp` compares. -/
  route : Addr → Route
  /-- The point code. -/
  pc : Addr → BitVec 16

/-- `struct ranap_iu_rnc`. -/
structure RanapIuRnc (Addr : Type) where
  ptr : RncPtr
  rncId : RncId
  sccpAddr : Addr
  state : IuRncState
  lacRacList : List RoutingAreaId

/-- `rnc_list`, the latest first, and the pointer that the allocator returns next. -/
structure RncList (Addr : Type) where
  rncs : List (RanapIuRnc Addr)
  nextRnc : RncPtr

/-- What a message from an RNC leads to. -/
inductive RncOut (Addr : Type)
  /-- A message from an address is taken as one of an RNC. -/
  | assigned (addr : Addr) (rnc : RncPtr)
  | resetAck (dest : Addr)
  | reset (dest : Addr)
  | errorInd (dest : Addr)

variable {Addr Route : Type} [DecidableEq Route] (sccp : SccpAddrs Addr Route)

namespace RncList

variable (l : RncList Addr)

/-! ## Looking up -/

/-- `iu_rnc_find_by_id`. -/
def findById (rncId : RncId) : Option (RanapIuRnc Addr) := l.rncs.find? (·.rncId = rncId)

/-- `iu_rnc_find_by_addr`. -/
def findByAddr (addr : Addr) : Option (RanapIuRnc Addr) :=
  l.rncs.find? fun rnc ↦ sccp.route addr = sccp.route rnc.sccpAddr

/-- Write to the RNC that a pointer points to. -/
def modRnc (rnc : RncPtr) (f : RanapIuRnc Addr → RanapIuRnc Addr) : RncList Addr :=
  { l with rncs := l.rncs.map fun r ↦ if r.ptr = rnc then f r else r }

/-- `iu_rnc_alloc`. -/
def rncAlloc (rncId : RncId) (addr : Addr) : RncList Addr × RncPtr :=
  (⟨⟨l.nextRnc, rncId, addr, .waitRxReset, []⟩ :: l.rncs, l.nextRnc + 1⟩, l.nextRnc)

/-- `iu_rnc_find_or_create`. The address of an RNC that is known is written if it is the same as the
one that the message has come from. -/
def findOrCreate (rncId : RncId) (addr : Addr) : RncList Addr × RncPtr :=
  match l.findById rncId with
  | some rnc =>
    if sccp.route rnc.sccpAddr = sccp.route addr then
      (l.modRnc rnc.ptr fun r ↦ { r with sccpAddr := addr }, rnc.ptr)
    else (l, rnc.ptr)
  | none => l.rncAlloc rncId addr

/-! ## Routing areas -/

/-- `iu_rnc_lac_rac_find`, for the RNC. -/
def lacRacFind (rai : RoutingAreaId) : Option (RanapIuRnc Addr) :=
  l.rncs.find? fun rnc ↦ rai ∈ rnc.lacRacList

/-- `iu_rnc_update_rai_seen`. -/
def updateRaiSeen (rnc : RncPtr) (rai : RoutingAreaId) : RncList Addr :=
  match l.lacRacFind rai with
  | some old =>
    if old.ptr ≠ rnc then
      (l.modRnc old.ptr fun r ↦ { r with lacRacList := r.lacRacList.erase rai }).modRnc rnc
        fun r ↦ { r with lacRacList := rai :: r.lacRacList }
    else l
  | none => l.modRnc rnc fun r ↦ { r with lacRacList := rai :: r.lacRacList }

/-! ## The FSM of an RNC -/

/-- Change the state of an RNC. -/
def stateChg (rnc : RncPtr) (state : IuRncState) : RncList Addr :=
  l.modRnc rnc fun r ↦ { r with state := state }

/-- The RNC that a pointer points to. -/
def rnc? (rnc : RncPtr) : Option (RanapIuRnc Addr) := l.rncs.find? (·.ptr = rnc)

/-- `iu_rnc_rx_reset`. The message may fail to be sent. -/
def rxReset (rnc : RanapIuRnc Addr) (sent : Bool) : RncList Addr × List (RncOut Addr) :=
  if sent then (l.stateChg rnc.ptr .ready, [.resetAck rnc.sccpAddr])
  else (l.stateChg rnc.ptr .waitRxReset, [])

/-- `iu_rnc_reset`. -/
def rncReset (rnc : RanapIuRnc Addr) (sent : Bool) : RncList Addr × List (RncOut Addr) :=
  if sent then (l.stateChg rnc.ptr .waitRxResetAck, [.reset rnc.sccpAddr])
  else (l.stateChg rnc.ptr .waitRxReset, [])

end RncList

/-- The events of the FSM of an RNC. -/
inductive RncEvent
  /-- An InitialUE message, and the routing area of one that is taken. -/
  | msgUpCoInitial (rai : Option RoutingAreaId)
  | msgUpCo
  | rxReset | rxResetAck
  | available | unavailable
  | timeout
  deriving DecidableEq, Repr

namespace RncList

variable (l : RncList Addr)

/-- `sgsn_ranap_iu_handle_co_initial`, up to the mobility management. -/
def handleCoInitial (rnc : RncPtr) : Option RoutingAreaId → RncList Addr
  | some rai => l.updateRaiSeen rnc rai
  | none => l

/-- A dispatch to the FSM of an RNC. None is for an event that the state does not take. -/
def dispatch (rnc : RanapIuRnc Addr) (ev : RncEvent) (sent : Bool) :
    Option (RncList Addr × List (RncOut Addr)) :=
  match rnc.state, ev with
  | _, .rxReset => some (l.rxReset rnc sent)
  | .waitRxReset, .msgUpCoInitial rai =>
    -- the RNC is accepted without a RESET
    some ((l.stateChg rnc.ptr .ready).handleCoInitial rnc.ptr rai, [])
  | .waitRxReset, .msgUpCo => some (l.stateChg rnc.ptr .ready, [])
  | .waitRxReset, .available => some (l.rncReset rnc sent)
  | .waitRxReset, .unavailable => some (l, [])
  | .waitRxResetAck, .rxResetAck => some (l.stateChg rnc.ptr .ready, [])
  | .waitRxResetAck, .msgUpCoInitial _ => some (l.rncReset rnc sent)
  | .waitRxResetAck, .msgUpCo => some (l.rncReset rnc sent)
  | .waitRxResetAck, .available => some (l.rncReset rnc sent)
  | .waitRxResetAck, .unavailable => some (l.stateChg rnc.ptr .waitRxReset, [])
  | .waitRxResetAck, .timeout => some (l.stateChg rnc.ptr .waitRxReset, [])
  | .ready, .msgUpCoInitial rai => some (l.handleCoInitial rnc.ptr rai, [])
  | .ready, .msgUpCo => some (l, [])
  | .ready, .available => some (l, [])
  | .ready, .unavailable => some (l.stateChg rnc.ptr .waitRxReset, [])
  | _, _ => none

/-- A message from an address, for an RNC: the event is dispatched, and an error is indicated where
it is not taken. -/
def receive (rnc : RncPtr) (addr : Addr) (ev : RncEvent) (sent : Bool) :
    RncList Addr × List (RncOut Addr) :=
  match l.rnc? rnc with
  | none => (l, [])
  | some r =>
    match l.dispatch r ev sent with
    | some (l', out) => (l', .assigned addr rnc :: out)
    | none => (l, [.errorInd addr])

/-- `ranap_handle_cl_reset_req`. Without a Global-RNC-ID, the point code is taken for one. -/
def handleClResetReq (addr : Addr) (rncId : Option RncId) (sent : Bool) :
    RncList Addr × List (RncOut Addr) :=
  match l.findByAddr sccp addr with
  | some rnc => l.receive rnc.ptr addr .rxReset sent
  | none =>
    let (l', rnc) := l.findOrCreate sccp (rncId.getD ⟨⟨0, 0, false⟩, sccp.pc addr⟩) addr
    l'.receive rnc addr .rxReset sent

/-- `sgsn_ranap_iu_rx_co_initial_msg`, for an InitialUE message: its Global-RNC-ID, if that can be
parsed, and the routing area, if the message is complete. -/
def rxCoInitialMsg (addr : Addr) (rncId : Option RncId) (rai : Option RoutingAreaId) (sent : Bool) :
    RncList Addr × List (RncOut Addr) :=
  match l.findByAddr sccp addr, rncId with
  | some rnc, _ => l.receive rnc.ptr addr (.msgUpCoInitial rai) sent
  | none, some rncId =>
    let (l', rnc) := l.findOrCreate sccp rncId addr
    l'.receive rnc addr (.msgUpCoInitial rai) sent
  | none, none => (l, [.errorInd addr])

/-- A message or an indication of the SCCP layer about an address that must be known. -/
def rxKnown (addr : Addr) (ev : RncEvent) (sent : Bool) : RncList Addr × List (RncOut Addr) :=
  match l.findByAddr sccp addr with
  | some rnc => l.receive rnc.ptr addr ev sent
  | none => (l, [])

end RncList

/-! ## The machine -/

/-- What happens at the Iu interface. What is said about sending is whether the message that is
sent in answer is accepted. -/
inductive IuEvent (Addr : Type)
  | reset (addr : Addr) (rncId : Option RncId) (sent : Bool)
  | initialUe (addr : Addr) (rncId : Option RncId) (rai : Option RoutingAreaId) (sent : Bool)
  | resetAck (addr : Addr)
  | pcState (addr : Addr) (available : Bool) (sent : Bool)
  /-- A message on a connection of an RNC. -/
  | co (rnc : RncPtr) (sent : Bool)
  /-- T-1002 of an RNC expires. -/
  | timeout (rnc : RncPtr)

/-- One event. -/
def RncList.step (l : RncList Addr) : IuEvent Addr → RncList Addr × List (RncOut Addr)
  | .reset addr rncId sent => l.handleClResetReq sccp addr rncId sent
  | .initialUe addr rncId rai sent => l.rxCoInitialMsg sccp addr rncId rai sent
  | .resetAck addr => l.rxKnown sccp addr .rxResetAck false
  | .pcState addr available sent =>
    l.rxKnown sccp addr (if available then .available else .unavailable) sent
  | .co rnc sent =>
    match l.rnc? rnc with
    | none => (l, [])
    | some r => (l.dispatch r .msgUpCo sent).getD (l, [])
  | .timeout rnc =>
    match l.rnc? rnc with
    | none => (l, [])
    | some r => (l.dispatch r .timeout false).getD (l, [])

/-- The machine of the list of RNCs. -/
def rncMachine : Machine (RncList Addr) (IuEvent Addr) (RncOut Addr) where
  step := RncList.step sccp

/-- A gateway that was just started knows no RNC. -/
def RncList.start : RncList Addr := ⟨[], 0⟩

end OsmoSgsn.Iu
