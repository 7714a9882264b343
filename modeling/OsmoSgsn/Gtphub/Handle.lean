import OsmoSgsn.Library.Machine
import OsmoSgsn.Gtphub.Hub

/-!
# What the hub does with a packet

A packet is decoded, its sender is looked up, and a restart of the sender is noticed. Then the
sequence number and the TEI of its header are mapped back, which gives the tunnel that it belongs
to and the port to send it to. Messages that create or delete a PDP context change the tunnels,
and the packet goes out with the sequence number mapped if it was not mapped back before.

The hub is a machine whose events are the packets, the answers to name lookups and the ticks of the
garbage collector. A fault ends the process.
-/

namespace OsmoSgsn.Gtphub

/-! ## Mapping back -/

/-- `gtphub_unmap_seq`. -/
def gtphubUnmapSeq (p : GtpPacketDesc) (fromPort : PeerPort) :
    HubM (GtpPacketDesc × Option PeerPort) := do
  if p.version ≠ 1 then throw .version
  else
    match (← get).nrMapGetInv fromPort.peer p.seq with
    | some m => return (p.setSeq m.orig, some m.origin)
    | none => return (p, none)

/-- `gtphub_unmap_tei`, without the refresh: the tunnel that a packet of a port belongs to. -/
def Hub.gtphubUnmapTei (h : Hub) (p : GtpPacketDesc) (fromPort : PeerPort) : Option ℕ :=
  h.tunnels.find? fun t ↦ (h.tun t).teiRepl = p.headerTeiRx ∧
    ((h.tun t).endpoint p.side p.plane).peer.map PeerPort.addr = some fromPort.addr

/-- `gtphub_unmap_header_tei`: the packet with its tunnel, and the port on the other side; nothing
for an unknown TEI. -/
def gtphubUnmapHeaderTei (p : GtpPacketDesc) (fromPort : PeerPort) :
    HubM (Option (GtpPacketDesc × Option PeerPort)) := do
  if p.version ≠ 1 then throw .version
  else if p.headerTeiRx = 0 then return some ({ p with tun := none }, none)
  else
    let h ← get
    match h.gtphubUnmapTei p fromPort with
    | none => return none
    | some t =>
      expiryAdd .slowly (.tunnel t) p.timestamp
      let te := (h.tun t).endpoint p.side.other p.plane
      return some ({ p.setTei te.teiOrig with tun := some t }, te.peer)

/-- What `gtphub_unmap` gives: the packet, where it goes, and where the sequence number leads. -/
structure Unmapped where
  p : GtpPacketDesc
  final : Option PeerPort
  fromSeq : Option PeerPort

/-- `gtphub_unmap`. The proxy comes first, then the sequence number, then the TEI. -/
def gtphubUnmap (p : GtpPacketDesc) (fromPort : PeerPort) (toProxy : Option PeerPort) :
    HubM (Option Unmapped) := do
  let (p, fromSeq) ← gtphubUnmapSeq p fromPort
  match ← gtphubUnmapHeaderTei p fromPort with
  | none => return none
  | some (p, fromTei) =>
    match toProxy.or (fromSeq.or fromTei) with
    | none => return some ⟨p, none, none⟩
    | some final => return some ⟨p, some final, fromSeq⟩

/-- `gtphub_map_seq`. -/
def gtphubMapSeq (p : GtpPacketDesc) (fromPort toPort : PeerPort) : HubM GtpPacketDesc := do
  let repl ← gtphubMappingHave toPort.peer fromPort p.seq p.timestamp
  if p.version ≠ 1 then throw .version
  else return p.setSeq repl

/-! ## Restarted peers -/

/-- `gtphub_send_del_pdp_ctx`. -/
def gtphubSendDelPdpCtx (t : ℕ) (toSide : Side) : HubM Unit := do
  let te := ((← get).tun t).endpoint toSide .ctrl
  match te.peer with
  | none => pure ()
  | some pp =>
    let seq ← seqPoolNext pp.peer
    modify fun h ↦ { h with
      sent := ⟨pp.sa, te.teiOrig, seq⟩ :: h.sent, log := .deleteReq t toSide :: h.log }

/-- The body of the loop of `gtphub_restarted`, for a tunnel and a side. -/
def gtphubRestartedSide (pp : PeerPort) (t : ℕ) (s : Side) : HubM Unit := do
  let h ← get
  match ((h.tun t).endpoint s .ctrl).peer with
  | none => pure ()
  | some q =>
    if ((h.tun t).endpoint s.other .ctrl).teiOrig = 0 ∨ pp.peer ≠ q.peer then pure ()
    else
      gtphubSendDelPdpCtx t s.other
      gtphubTunnelEndpointSetPeer t s .ctrl none
      gtphubTunnelEndpointSetPeer t s .user none

/-- The loop of `gtphub_restarted`. -/
def gtphubRestartedLoop (pp : PeerPort) : List ℕ → HubM Unit
  | [] => pure ()
  | t :: rest => do
    gtphubRestartedSide pp t .sgsn
    gtphubRestartedSide pp t .ggsn
    gtphubRestartedLoop pp rest

/-- `gtphub_restarted`. -/
def gtphubRestarted (pp : PeerPort) : HubM Unit := do
  gtphubRestartedLoop pp (← get).tunnels

/-- `gtphub_check_restart_counter`. -/
def gtphubCheckRestartCounter (p : GtpPacketDesc) (fromPort : PeerPort) : HubM Unit := do
  match getRestartCount p with
  | none => pure ()
  | some restart =>
    if 255 < restart then pure ()
    else
      (match (← get).lastRestartCount fromPort with
        | none => pure ()
        | some last => if last ≠ restart then gtphubRestarted fromPort else pure ())
      modify fun h ↦ { h with
        lastRestartCount := Function.update h.lastRestartCount fromPort (some restart) }

/-- `gtphub_map_restart_counter`. -/
def gtphubMapRestartCounter (restartCounter : ℕ) (p : GtpPacketDesc) : GtpPacketDesc :=
  if p.rc ≠ .pduC then p
  else
    match gtpieGetie p.ie gtpieRecovery 0 with
    | none => p
    | some i => p.setIe i (.tv1 gtpieRecovery restartCounter)

/-! ## Creating a PDP context -/

/-- An address for a new tunnel: any that is free. -/
def tallocTunnel (choice : ℕ) (live : List ℕ) : ℕ :=
  if choice ∈ live then live.foldr max 0 + 1 else choice

/-- `gtphub_tunnel_new` and what follows it: a tunnel with a number from the pool, towards a
GGSN. -/
def gtphubTunnelNew (choice : ℕ) (toCtrl : PeerPort) (now : ℕ) : HubM ℕ := do
  let h ← get
  let t := tallocTunnel choice h.tunnels
  let pool := nrPoolNext h.teiPool
  set { h with
    teiPool := pool, tunnels := t :: h.tunnels
    tun := Function.update h.tun t { Tunnel.zero with teiRepl := pool.lastNr }
    log := .tunnelNew t :: h.log }
  expiryAdd .slowly (.tunnel t) now
  gtphubTunnelEndpointSetPeer t .ggsn .ctrl (some toCtrl)
  return t

/-- `gtphub_check_mapped_tei`: the number of the new tunnel and the bounds, after one other tunnel
is compared with it; nothing if no number can be found. -/
def gtphubCheckMappedTei (new iterated teiMin teiMax : ℕ) : Option (ℕ × ℕ × ℕ) :=
  if new = 0 ∨ iterated = 0 then some (new, teiMin, teiMax)
  else
    let teiMin := if teiMin < iterated then teiMin else iterated
    let teiMax := if teiMax > iterated then teiMax else iterated
    if new ≠ iterated then some (new, teiMin, teiMax)
    else if teiMax < 0xffffffff then some (teiMax + 1, teiMin, teiMax + 1)
    else if teiMin > 1 then some (teiMin - 1, teiMin - 1, teiMax)
    else none

/-- Whether two tunnels have an endpoint with one TEI of one peer. -/
def Hub.reusesTei (h : Hub) (t new : ℕ) : Bool :=
  [Side.sgsn, .ggsn].any fun s ↦ [Plane.ctrl, .user].any fun p ↦
    let te := (h.tun t).endpoint s p
    let te2 := (h.tun new).endpoint s p
    te.teiOrig ≠ 0 && te.teiOrig = te2.teiOrig && te.peer.isSome && te2.peer.isSome &&
      te.peer.map PeerPort.addr = te2.peer.map PeerPort.addr

/-- The loop of `gtphub_check_reused_teis`. -/
def gtphubCheckReusedTeisLoop (new : ℕ) : List ℕ → ℕ → ℕ → HubM Bool
  | [], _, _ => pure true
  | t :: rest, teiMin, teiMax =>
    if t = new then gtphubCheckReusedTeisLoop new rest teiMin teiMax
    else do
      let h ← get
      if h.reusesTei t new then
        expiringItemDel (.tunnel t)
        gtphubCheckReusedTeisLoop new rest teiMin teiMax
      else
        match gtphubCheckMappedTei (h.tun new).teiRepl (h.tun t).teiRepl teiMin teiMax with
        | none => pure false
        | some (tei, teiMin, teiMax) =>
          set { h with tun := Function.update h.tun new { h.tun new with teiRepl := tei } }
          gtphubCheckReusedTeisLoop new rest teiMin teiMax

/-- `gtphub_check_reused_teis`. -/
def gtphubCheckReusedTeis (new : ℕ) : HubM Bool := do
  gtphubCheckReusedTeisLoop new (← get).tunnels 0xffffffff 0

/-- The type of the element that announces the TEI of a plane. -/
def Plane.ieType : Plane → ℕ
  | .ctrl => gtpieTeiC
  | .user => gtpieTeiDi

/-- The TEI that a Create message announces for a plane: zero for none, and nothing where an
element is missing that has to be there. -/
def teiFromIe (p : GtpPacketDesc) (plane : Plane) : Option ℕ :=
  match gtpieFind p.ie plane.ieType 0 with
  | some x => some x.tv4V
  | none => if p.type = gtpCreatePdpReq then none else some 0

/-- Takes over an announced TEI, and announces the number of the tunnel in its place. The element
is replaced before the number is compared with those of the other tunnels. -/
def mapTei (p : GtpPacketDesc) (t : ℕ) (plane : Plane) (tei : ℕ) : HubM GtpPacketDesc := do
  let h ← get
  set (h.setEndpoint t p.side plane { (h.tun t).endpoint p.side plane with teiOrig := tei })
  if ← gtphubCheckReusedTeis t then
    match gtpieGetie p.ie plane.ieType 0 with
    | some i => return p.setIe i (.tv4 plane.ieType (h.tun t).teiRepl)
    | none => return p
  else throw .teiRangeExhausted

/-- The body of the loop of `gtphub_handle_create_pdp_ctx`: nothing where it returns an error. -/
def gtphubCreatePlane (lib : Lib) (p : GtpPacketDesc) (fromCtrl : PeerPort) (t : ℕ)
    (plane : Plane) : HubM (Option GtpPacketDesc) := do
  match gsnAddrGet p plane.idx, teiFromIe p plane with
  | some addr, some tei =>
    let h ← get
    let use : Sockaddr :=
      if h.sgsnUseSender ∧ p.side = .sgsn then fromCtrl.sa else ⟨addr, plane.defaultPort⟩
    let pp ← gtphubPortHave lib p.side plane use.addr use.port
    gtphubTunnelEndpointSetPeer t p.side plane (some pp)
    if tei = 0 then
      if (((← get).tun t).endpoint p.side plane).teiOrig = 0 then return none
      else return gsnAddrPut (h.localAddr p.side.other plane) p plane.idx
    else
      let p ← mapTei p t plane tei
      return gsnAddrPut (h.localAddr p.side.other plane) p plane.idx
  | _, _ => return none

/-- The loop of `gtphub_handle_create_pdp_ctx`. -/
def gtphubCreatePlanes (lib : Lib) (p : GtpPacketDesc) (fromCtrl : PeerPort) (t : ℕ) :
    HubM (Option GtpPacketDesc) := do
  match ← gtphubCreatePlane lib p fromCtrl t .ctrl with
  | none => return none
  | some p => gtphubCreatePlane lib p fromCtrl t .user

/-- `gtphub_handle_create_pdp_ctx`. -/
def gtphubHandleCreatePdpCtx (lib : Lib) (choice : ℕ) (p : GtpPacketDesc)
    (fromCtrl toCtrl : PeerPort) : HubM (Option GtpPacketDesc) := do
  if p.type = gtpCreatePdpReq then
    match p.side, p.tun with
    | .sgsn, none =>
      let t ← gtphubTunnelNew choice toCtrl p.timestamp
      gtphubCreatePlanes lib { p with tun := some t } fromCtrl t
    | _, _ => return none
  else
    match p.side, p.tun with
    | .sgsn, _ => return none
    | .ggsn, none => throw .noTunnel
    | .ggsn, some t =>
      if ((← get).tun t).teiRepl ≠ p.headerTeiRx then throw .teiRepl
      else gtphubCreatePlanes lib p fromCtrl t

/-! ## Deleting a PDP context -/

/-- A Delete PDP Context Request is kept until a response is seen. -/
def gtphubHandleDeleteReq (p : GtpPacketDesc) : HubM (Option GtpPacketDesc) := do
  match p.tun, gtpieGettv1 p.ie gtpieTeardown 0, gtpieGettv1 p.ie gtpieNsapi 0 with
  | some t, some teardownInd, some nsapi =>
    let pd : PendingDelete := ⟨t, teardownInd, nsapi⟩
    modify fun h ↦ { h with
      pendingDeletes := if pd ∈ h.pendingDeletes then h.pendingDeletes
        else pd :: h.pendingDeletes }
    expiryAdd .quickly (.pendingDelete pd) p.timestamp
    return some p
  | _, _, _ => return none

/-- A Delete PDP Context Response ends the tunnel if a request waits and the cause is good. -/
def gtphubHandleDeleteRsp (p : GtpPacketDesc) : HubM (Option GtpPacketDesc) := do
  match p.tun with
  | none => return none
  | some t =>
    match (← get).pendingDeletes.find? (·.tun = t) with
    | none => return none
    | some pd =>
      expiringItemDel (.pendingDelete pd)
      if gtpieGettv1 p.ie gtpieCause 0 = some gtpcauseAccReq then
        modify fun h ↦ { h with log := .deleteRsp t p.side true :: h.log }
        expiringItemDel (.tunnel t)
        return some { p with tun := none }
      else
        modify fun h ↦ { h with log := .deleteRsp t p.side false :: h.log }
        return none

/-- `gtphub_handle_pdp_ctx`. `gtphub_handle_update_pdp_ctx` does nothing. -/
def gtphubHandlePdpCtx (lib : Lib) (choice : ℕ) (p : GtpPacketDesc)
    (fromCtrl toCtrl : PeerPort) : HubM (Option GtpPacketDesc) :=
  if p.type = gtpCreatePdpReq ∨ p.type = gtpCreatePdpRsp then
    gtphubHandleCreatePdpCtx lib choice p fromCtrl toCtrl
  else if p.type = gtpDeletePdpReq then gtphubHandleDeleteReq p
  else if p.type = gtpDeletePdpRsp then gtphubHandleDeleteRsp p
  else return some p

/-! ## Resolving a GGSN -/

/-- `make_addr_str`: the name that is looked up for a subscriber and an access point, from strings
that have been cut to the size of their fields. -/
def makeAddrStr (lib : Lib) (imsiStr apnNiStr : Bytes) (have3digMnc : Bool) : Bytes :=
  (lib.osmoApnQualifyFromImsi imsiStr apnNiStr have3digMnc).take lib.apnMaxlen

/-- `start_ares_query`, which always succeeds. -/
def startAresQuery (lookup : GgsnLookup) : HubM Unit :=
  modify fun h ↦ { h with queries := (lookup.id, lookup.apnOiStr) :: h.queries }

/-- `gtphub_resolve_ggsn_addr`, which reads the clock on its own. A name that is not known is
looked up, and nothing is returned. -/
def gtphubResolveGgsnAddr (lib : Lib) (imsi apn : Bytes) (clock : ℕ) :
    HubM (Option PeerPort) := do
  let h ← get
  let imsiStr := imsi.take 15
  let apnNiStr := apn.take lib.apnMaxlen
  let apnOiStr := makeAddrStr lib imsiStr apnNiStr false
  if h.ggsnLookups.any (·.apnOiStr = apnOiStr) then return none
  else
    match h.resolvedGgsns.find? (·.apnOiStr = apnOiStr) with
    | some g => return some g.peer
    | none =>
      let lookup : GgsnLookup := ⟨h.nextId, imsiStr, apnNiStr, apnOiStr, false⟩
      set { h with ggsnLookups := lookup :: h.ggsnLookups, nextId := h.nextId + 1 }
      expiryAdd .quickly (.ggsnLookup h.nextId) clock
      startAresQuery lookup
      return none

/-- `gtphub_resolve_ggsn`: an error where it returns -1. -/
def gtphubResolveGgsn (lib : Lib) (p : GtpPacketDesc) (clock : ℕ) :
    HubM (Except Unit (Option PeerPort)) := do
  match getIeImsiStr p.ie 0 with
  | .error () => return .error ()
  | .ok none => return .ok none
  | .ok (some imsi) =>
    match getIeApnStr lib p.ie with
    | .error () => return .error ()
    | .ok none => return .ok none
    | .ok (some apn) =>
      match ← gtphubResolveGgsnAddr lib imsi apn clock with
      | some pp => return .ok (some pp)
      | none => return .error ()

/-! ## A packet -/

/-- A datagram and what the hub is told with it: where it arrived, the receive buffer and the
number of octets in it, the time of the call and of a lookup, and an address to allocate. -/
structure Rx where
  side : Side
  plane : Plane
  fromAddr : Sockaddr
  buf : Bytes
  received : ℕ
  now : ℕ
  clock : ℕ
  choice : ℕ
  deriving DecidableEq, Repr

/-- How `gtphub_handle_buf` ends: with -1, with 0, with a reply, or with a packet for a port. -/
inductive Verdict
  | drop
  | done
  | reply (toAddr : Sockaddr) (data : Bytes)
  | forward (toPort : PeerPort) (p : GtpPacketDesc)
  deriving DecidableEq, Repr

/-- The response of `gtphub_handle_echo_req`. -/
def echoResponseData (seq restartCounter : ℕ) : Bytes :=
  [0x32, UInt8.ofNat gtpEchoRsp, 0, 14 - 8, 0, 0, 0, 0, UInt8.ofNat (seq / 2 ^ 8), UInt8.ofNat seq,
    0, 0, 0x0e, UInt8.ofNat restartCounter]

/-- The port that a packet comes from, as `gtphub_handle_buf` finds or makes it. -/
def gtphubFromPort (lib : Lib) (s : Side) (plane : Plane) (fromAddr : Sockaddr) :
    HubM (Option PeerPort) := do
  match (← get).proxy s plane with
  | some pp => return if pp.sa = fromAddr then some pp else none
  | none =>
    match ← gtphubKnownAddrHavePort lib s plane fromAddr with
    | some pp => return some pp
    | none =>
      if s = .sgsn ∧ plane = .ctrl then
        return some (← gtphubPortHave lib s plane fromAddr.addr fromAddr.port)
      else return none

/-- A packet that has somewhere to go. -/
structure Route where
  p : GtpPacketDesc
  fromPort : PeerPort
  toPort : PeerPort
  fromSeq : Option PeerPort
  deriving DecidableEq, Repr

/-- The end of a packet that has nowhere to go. A delete confirmation for a tunnel that is partly
invalid ends the tunnel. -/
def gtphubNoDestination (p : GtpPacketDesc) : HubM Verdict := do
  match p.tun with
  | some t =>
    if p.type = gtpDeletePdpRsp then
      modify fun h ↦ { h with log := .deleteRsp t p.side true :: h.log }
      expiringItemDel (.tunnel t)
      return .done
    else return .drop
  | none => return .drop

/-- `gtphub_handle_buf` for a decoded packet of a known port, up to the destination. -/
def gtphubRoute (lib : Lib) (rx : Rx) (p : GtpPacketDesc) (fromPort : PeerPort) :
    HubM (Verdict ⊕ Route) := do
  gtphubCheckRestartCounter p fromPort
  let h ← get
  let p := gtphubMapRestartCounter h.restartCounter p
  match ← gtphubUnmap p fromPort (h.proxy rx.side.other rx.plane) with
  | none => return .inl .drop
  | some ⟨p, some toPort, fromSeq⟩ => return .inr ⟨p, fromPort, toPort, fromSeq⟩
  | some ⟨p, none, _⟩ =>
    if rx.side = .sgsn then
      match ← gtphubResolveGgsn lib p rx.clock with
      | .error () => return .inl .drop
      | .ok (some toPort) => return .inr ⟨p, fromPort, toPort, none⟩
      | .ok none => return .inl (← gtphubNoDestination p)
    else return .inl (← gtphubNoDestination p)

/-- `gtphub_handle_buf` up to the destination. -/
def gtphubLocate (lib : Lib) (rx : Rx) : HubM (Verdict ⊕ Route) := do
  let p := gtpDecode lib rx.buf rx.received rx.side rx.plane rx.now
  if !p.rc.valid then return .inl .drop
  else if p.type = gtpEchoReq then
    return .inl (.reply rx.fromAddr (echoResponseData p.seq (← get).restartCounter))
  else
    match ← gtphubFromPort lib rx.side rx.plane rx.fromAddr with
    | none => return .inl .drop
    | some fromPort => gtphubRoute lib rx p fromPort

/-- What `gtphub_handle_buf` does to the tunnels for a packet with a destination. -/
def gtphubHandleCtrl (lib : Lib) (choice : ℕ) (r : Route) : HubM (Option GtpPacketDesc) :=
  if r.p.plane = .ctrl then gtphubHandlePdpCtx lib choice r.p r.fromPort r.toPort
  else return some r.p

/-- The sequence number of a packet that goes out. -/
def gtphubOutSeq (r : Route) (p : GtpPacketDesc) : HubM GtpPacketDesc :=
  match r.fromSeq with
  | some _ => return p
  | none => gtphubMapSeq p r.fromPort r.toPort

/-- `gtphub_handle_buf` from the destination on. -/
def gtphubDeliver (lib : Lib) (choice : ℕ) (r : Route) : HubM Verdict := do
  match ← gtphubHandleCtrl lib choice r with
  | none => return .drop
  | some p =>
    if p.tun = none ∧ p.type ≠ gtpDeletePdpRsp then throw .forwardWithoutTunnel
    else
      let p ← gtphubOutSeq r p
      (match p.tun with
        | some t =>
          if p.plane = .ctrl ∧ p.type = gtpDeletePdpReq then
            modify fun h ↦ { h with log := .deleteReq t p.side.other :: h.log }
          else pure ()
        | none => pure ())
      return .forward r.toPort p

/-- `gtphub_handle_buf`. -/
def gtphubHandleBuf (lib : Lib) (rx : Rx) : HubM Verdict := do
  match ← gtphubLocate lib rx with
  | .inl v => return v
  | .inr r => gtphubDeliver lib rx.choice r

/-! ## The other calls -/

/-- `gtphub_resolved_ggsn`. -/
def gtphubResolvedGgsn (lib : Lib) (apnOiStr : Bytes) (addr : GsnAddr) (now : ℕ) : HubM Unit := do
  let pp ← gtphubPortHave lib .ggsn .ctrl addr 2123
  let h ← get
  let g : ResolvedGgsn := ⟨h.nextId, apnOiStr.take lib.apnMaxlen, pp⟩
  set { h with nextId := h.nextId + 1 }
  gtphubPortRefCountInc pp
  expiryAdd .slowly (.resolvedGgsn g) now
  modify fun h ↦ { h with resolvedGgsns := g :: h.resolvedGgsns }

/-- What comes of a query for a name: a failure, an answer without an address, or an address. -/
inductive DnsAnswer
  | failure
  | noAddress
  | address (addr : GsnAddr)
  deriving DecidableEq, Repr

/-- `ggsn_lookup_cb`. After a failure of the first query the flag for three digits is set and the
query is started again; otherwise the lookup is over. -/
def ggsnLookupCb (lib : Lib) (id : ℕ) (answer : DnsAnswer) (now : ℕ) : HubM Unit := do
  match (← get).ggsnLookups.find? (·.id = id) with
  | none => pure ()
  | some lookup =>
    match answer with
    | .failure =>
      if !lookup.have3digMnc then
        modify fun h ↦ { h with ggsnLookups := h.ggsnLookups.map fun l ↦
          if l.id = id then { l with have3digMnc := true } else l }
        startAresQuery { lookup with have3digMnc := true }
      else expiringItemDel (.ggsnLookup id)
    | .noAddress => expiringItemDel (.ggsnLookup id)
    | .address addr =>
      if addr.length ≤ 16 then gtphubResolvedGgsn lib lookup.apnOiStr addr now else pure ()
      expiringItemDel (.ggsnLookup id)

/-- `gtphub_gc`. -/
def gtphubGc (now : ℕ) : HubM Unit := do
  let quickly ← expiryTick .quickly now
  let slowly ← expiryTick .slowly now
  if quickly + slowly ≠ 0 then
    modify fun h ↦ (((h.gtphubGcBind .sgsn .ctrl).gtphubGcBind .sgsn .user).gtphubGcBind
      .ggsn .ctrl).gtphubGcBind .ggsn .user
  else pure ()

/-! ## Starting -/

/-- `struct gtphub_cfg`, with the restart counter: what the hub is started with. -/
structure HubCfg where
  localAddr : Side → Plane → GsnAddr
  proxy : Side → Plane → Option Sockaddr
  sgsnUseSender : Bool
  restartCounter : ℕ

/-- `gtphub_init`, and the fields that `gtphub_start` copies. -/
def gtphubInit (cfg : HubCfg) : Hub where
  localAddr := cfg.localAddr
  restartCounter := cfg.restartCounter
  sgsnUseSender := cfg.sgsnUseSender
  proxy _ _ := none
  peers := []
  addrs := []
  ports := []
  refCount _ := 0
  lastRestartCount _ := none
  seqPool _ := nrPoolInit 0 0xffff
  mappings := []
  teiPool := nrPoolInit 1 0xffffffff
  tunnels := []
  tun _ := .zero
  pendingDeletes := []
  ggsnLookups := []
  resolvedGgsns := []
  expireQuickly := []
  expireSlowly := []
  nextId := 0
  sent := []
  queries := []
  log := []

/-- `gtphub_make_proxy`. -/
def gtphubMakeProxy (lib : Lib) (cfg : HubCfg) (s : Side) (p : Plane) : HubM Unit := do
  match cfg.proxy s p with
  | none => pure ()
  | some sa =>
    let pp ← gtphubPortHave lib s p sa.addr sa.port
    modify fun h ↦ { h with
      proxy := fun s' p' ↦ if s' = s ∧ p' = p then some pp else h.proxy s' p' }
    gtphubPortRefCountInc pp

/-- `gtphub_start`, after `gtphub_init`. -/
def gtphubStart (lib : Lib) (cfg : HubCfg) : HubM Unit := do
  gtphubMakeProxy lib cfg .sgsn .ctrl
  gtphubMakeProxy lib cfg .sgsn .user
  gtphubMakeProxy lib cfg .ggsn .ctrl
  gtphubMakeProxy lib cfg .ggsn .user

/-! ## The hub as a machine -/

/-- What happens at a hub. -/
inductive HubEvent
  | rx (r : Rx)
  | resolvedGgsn (apnOiStr : Bytes) (addr : GsnAddr) (now : ℕ)
  | lookupCb (id : ℕ) (answer : DnsAnswer) (now : ℕ)
  | gc (now : ℕ)
  deriving DecidableEq, Repr

/-- The code that handles an event. -/
def HubEvent.handle (lib : Lib) : HubEvent → HubM Verdict
  | .rx r => gtphubHandleBuf lib r
  | .resolvedGgsn apnOiStr addr now => do
    gtphubResolvedGgsn lib apnOiStr addr now
    return .done
  | .lookupCb id answer now => do
    ggsnLookupCb lib id answer now
    return .done
  | .gc now => do
    gtphubGc now
    return .done

/-- A hub that runs, or the fault that ended it. -/
structure System where
  hub : Hub
  fault : Option Fault := none

/-- What is seen of a step: the hub before it, the event, and how it was handled. -/
structure Handled where
  before : Hub
  event : HubEvent
  verdict : Verdict
  after : Hub

/-- The hub as a machine. -/
def hubMachine (lib : Lib) : Machine System HubEvent Handled where
  step s e :=
    match s.fault with
    | some _ => (s, [])
    | none =>
      match e.handle lib s.hub with
      | .ok v h => (⟨h, none⟩, [⟨s.hub, e, v, h⟩])
      | .error f h => (⟨h, some f⟩, [])

/-! ## An example

A hub between one SGSN and one GGSN, whose libraries do what the real ones do with the elements and
names of the packets below. -/

/-- The length of an element of a type, where it is fixed. -/
def exampleTvLen (t : UInt8) : Option ℕ :=
  if t = 1 ∨ t = 14 ∨ t = 19 ∨ t = 20 then some 1
  else if t = 2 then some 8
  else if t = 16 ∨ t = 17 then some 4
  else none

/-- The elements of some types, in order. The first argument bounds their number. -/
def exampleDecaps : ℕ → Bytes → Option (List Ie)
  | _, [] => some []
  | 0, _ => none
  | n + 1, t :: rest =>
    match exampleTvLen t with
    | some len =>
      let x := if len = 1 then .tv1 t.toNat (octet rest 0).toNat
        else if len = 4 then .tv4 t.toNat (be32 rest 0) else Ie.octets t.toNat (rest.take len)
      if rest.length < len then none else (exampleDecaps n (rest.drop len)).map (x :: ·)
    | none =>
      let len := be16 rest 0
      if t < 128 ∨ rest.length < 2 + len then none
      else (exampleDecaps n (rest.drop (2 + len))).map
        (.octets t.toNat ((rest.drop 2).take len) :: ·)

/-- The libraries of the example. An APN of one label stands for itself. -/
def exampleLib : Lib where
  gtpieDecaps _ data := exampleDecaps data.length data
  apnMaxlen := 100
  osmoApnToStr apn := some (apn.drop 1)
  osmoApnQualifyFromImsi imsi apn have3digMnc :=
    let mnc := if have3digMnc then (imsi.drop 3).take 3 else 0x30 :: (imsi.drop 3).take 2
    apn ++ [0x2e, 0x6d, 0x6e, 0x63] ++ mnc ++ [0x2e, 0x6d, 0x63, 0x63] ++ imsi.take 3
  loopback := [127, 0, 0, 1]

/-- The hub of the example, without proxies. -/
def exampleCfg : HubCfg := ⟨fun _ _ ↦ [10, 0, 0, 1], fun _ _ ↦ none, false, 5⟩

/-- A GTP version 1 packet with elements. -/
def examplePacket (type tei seq : ℕ) (ies : Bytes) : Bytes :=
  put16 (put32 (put16 [0x32, UInt8.ofNat type, 0, 0, 0, 0, 0, 0, 0, 0, 0, 0] 2 (ies.length + 4)) 4
    tei) 8 seq ++ ies

/-- The IMSI 001010123456789 and the APN `net`. -/
def exampleImsi : Bytes := [2, 0x00, 0x01, 0x01, 0x21, 0x43, 0x65, 0x87, 0xf9]
@[inherit_doc exampleImsi] def exampleApn : Bytes := [131, 0, 4, 3, 0x6e, 0x65, 0x74]

/-- TEIs for the user and the control plane. -/
def exampleTeis (user ctrl : UInt8) : Bytes := [16, 0, 0, 0, user, 17, 0, 0, 0, ctrl]

/-- Two GSN Addresses. -/
def exampleGsns (addr : UInt8) : Bytes :=
  [133, 0, 4, 192, 168, 0, addr, 133, 0, 4, 192, 168, 0, addr]

/-- A datagram of an SGSN or a GGSN. -/
def exampleRx (s : Side) (plane : Plane) (addr : UInt8) (data : Bytes) (choice : ℕ) : Rx :=
  ⟨s, plane, ⟨[192, 168, 0, addr], plane.defaultPort⟩, data, data.length, 0, 0, choice⟩

/-- The answer to the lookup of the APN. -/
def exampleResolved : HubEvent :=
  .resolvedGgsn (exampleLib.osmoApnQualifyFromImsi
    [0x30, 0x30, 0x31, 0x30, 0x31, 0x30, 0x31, 0x32, 0x33, 0x34, 0x35, 0x36, 0x37, 0x38, 0x39]
      [0x6e, 0x65, 0x74] false) [192, 168, 0, 9] 0

/-- The SGSN 192.168.0.2 asks for a tunnel. -/
def exampleCreateReq (seq : ℕ) (user ctrl : UInt8) (choice : ℕ) : Rx :=
  exampleRx .sgsn .ctrl 2 (examplePacket gtpCreatePdpReq 0 seq
    (exampleImsi ++ exampleTeis user ctrl ++ exampleApn ++ exampleGsns 2)) choice

/-- The GGSN 192.168.0.9 accepts it. -/
def exampleCreateRsp (tei seq : ℕ) (user ctrl : UInt8) : Rx :=
  exampleRx .ggsn .ctrl 9 (examplePacket gtpCreatePdpRsp tei seq
    ([1, 128] ++ exampleTeis user ctrl ++ exampleGsns 9)) 0

/-- The system after some events. -/
def exampleRun (es : List HubEvent) : System :=
  (hubMachine exampleLib).run ⟨gtphubInit exampleCfg, none⟩ es

end OsmoSgsn.Gtphub
