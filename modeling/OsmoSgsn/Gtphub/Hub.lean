import OsmoSgsn.Library.Expiry
import OsmoSgsn.Library.Wp
import OsmoSgsn.Gtphub.Packet

/-!
# The state of the hub

The hub keeps peers with their addresses and ports for each side and plane, a map of sequence
numbers for each peer, tunnels with an endpoint for each side and plane, requests to delete a
tunnel that wait for an answer, and GGSNs whose names were looked up.

Objects of the source are reached through pointers. A port, a mapping, a pending delete and a
resolved GGSN are written once, and stand here for the pointer to themselves; those of their fields
that change are functions on the pointers. A tunnel is an address, and a new tunnel may be given
the address of one that was freed. A list of pointers says which objects are allocated.

Code is a program over the hub that may fault, where a fault is an assertion that fails or a call
of `abort`.
-/

namespace OsmoSgsn.Gtphub

/-! ## Objects -/

/-- A `struct gtphub_peer_port`: the bind and the peer that it is listed under, its address and
number, and the socket address that is made of them. -/
structure PeerPort where
  side : Side
  plane : Plane
  peer : ℕ
  addr : GsnAddr
  port : ℕ
  sa : Sockaddr
  deriving DecidableEq, Repr

/-- A `struct gtphub_peer_addr`. -/
structure PeerAddr where
  side : Side
  plane : Plane
  peer : ℕ
  addr : GsnAddr
  deriving DecidableEq, Repr

/-- A `struct gtphub_peer`. -/
structure Peer where
  side : Side
  plane : Plane
  id : ℕ
  deriving DecidableEq, Repr

/-- `struct nr_pool`. -/
structure NrPool where
  lastNr : ℕ
  nrMin : ℕ
  nrMax : ℕ
  deriving DecidableEq, Repr

/-- `nr_pool_init`. -/
def nrPoolInit (nrMin nrMax : ℕ) : NrPool := ⟨nrMax, nrMin, nrMax⟩

/-- `nr_pool_next`: the pool afterwards, whose last number is the one that is returned. -/
def nrPoolNext (pool : NrPool) : NrPool :=
  { pool with lastNr := if pool.nrMax ≤ pool.lastNr then pool.nrMin else pool.lastNr + 1 }

/-- A `struct nr_mapping` in the sequence number map of a peer. -/
structure NrMapping where
  peer : ℕ
  origin : PeerPort
  orig : ℕ
  repl : ℕ
  deriving DecidableEq, Repr

/-- `struct gtphub_tunnel_endpoint`. -/
structure TunnelEndpoint where
  peer : Option PeerPort
  teiOrig : ℕ
  deriving DecidableEq, Repr

/-- `struct gtphub_tunnel`. -/
structure Tunnel where
  teiRepl : ℕ
  endpoint : Side → Plane → TunnelEndpoint

/-- A tunnel of zeros. -/
def Tunnel.zero : Tunnel := ⟨0, fun _ _ ↦ ⟨none, 0⟩⟩

/-- A `struct pending_delete`. -/
structure PendingDelete where
  tun : ℕ
  teardownInd : ℕ
  nsapi : ℕ
  deriving DecidableEq, Repr

/-- A `struct gtphub_resolved_ggsn`. -/
structure ResolvedGgsn where
  id : ℕ
  apnOiStr : Bytes
  peer : PeerPort
  deriving DecidableEq, Repr

/-- A `struct ggsn_lookup`. -/
structure GgsnLookup where
  id : ℕ
  imsiStr : Bytes
  apnNiStr : Bytes
  apnOiStr : Bytes
  have3digMnc : Bool
  deriving DecidableEq, Repr

/-- The objects that expire. -/
inductive Item
  | tunnel (t : ℕ)
  | mapping (m : NrMapping)
  | pendingDelete (pd : PendingDelete)
  | resolvedGgsn (g : ResolvedGgsn)
  | ggsnLookup (id : ℕ)
  deriving DecidableEq, Repr

/-- The expiry queues of the hub. -/
inductive Exq
  | quickly | slowly
  deriving DecidableEq, Repr

/-- `GTPH_EXPIRE_QUICKLY_SECS` and `GTPH_EXPIRE_SLOWLY_MINUTES`. -/
def Exq.seconds : Exq → ℕ
  | .quickly => 30
  | .slowly => 6 * 60 * 60

/-- What is recorded of a run: the tunnels that are made, the Delete Requests that go out to a
side, whether they are forwarded or the hub's own, and the Delete Responses of a side that are
taken for an answer, with or without the end of the tunnel. No code reads the record. -/
inductive Obs
  | tunnelNew (t : ℕ)
  | deleteReq (t : ℕ) (toSide : Side)
  | deleteRsp (t : ℕ) (fromSide : Side) (removed : Bool)
  deriving DecidableEq, Repr

/-- A datagram that the hub sends on its own: a Delete PDP Context Request. -/
structure Sent where
  toAddr : Sockaddr
  tei : ℕ
  seq : ℕ
  deriving DecidableEq, Repr

/-- `struct gtphub`. -/
structure Hub where
  localAddr : Side → Plane → GsnAddr
  restartCounter : ℕ
  sgsnUseSender : Bool
  proxy : Side → Plane → Option PeerPort
  /-- The peers, addresses and ports of all binds, the youngest first. -/
  peers : List Peer
  addrs : List PeerAddr
  ports : List PeerPort
  refCount : PeerPort → ℕ
  lastRestartCount : PeerPort → Option ℕ
  /-- The sequence number pool of each peer. -/
  seqPool : ℕ → NrPool
  /-- The sequence number maps of all peers, the oldest mapping first. -/
  mappings : List NrMapping
  teiPool : NrPool
  tunnels : List ℕ
  tun : ℕ → Tunnel
  pendingDeletes : List PendingDelete
  ggsnLookups : List GgsnLookup
  resolvedGgsns : List ResolvedGgsn
  expireQuickly : List (Expiring Item)
  expireSlowly : List (Expiring Item)
  /-- The next pointer for objects that are told apart by it. -/
  nextId : ℕ
  sent : List Sent
  /-- The queries for names, by lookup, the last one first. No code reads them. -/
  queries : List (ℕ × Bytes)
  log : List Obs

/-- What ends the process. -/
inductive Fault
  /-- `p->version == 1` -/
  | version
  /-- `tun` in a Create PDP Context Response -/
  | noTunnel
  /-- `tun->tei_repl == p->header_tei_rx` there -/
  | teiRepl
  /-- `p.tun || (p.type == GTP_DELETE_PDP_RSP)` -/
  | forwardWithoutTunnel
  /-- `pp->ref_count < UINT_MAX` -/
  | refCountMax
  /-- `pp->ref_count > 0` -/
  | refCountZero
  /-- The order of an expiry queue. -/
  | expiryOrder
  /-- `port` in `gtphub_addr_find_port` -/
  | zeroPort
  /-- `abort()`, as no TEI is left. -/
  | teiRangeExhausted
  deriving DecidableEq, Repr

/-- Programs over the hub. -/
abbrev HubM := EStateM Fault Hub

/-! ## Reference counts -/

/-- `gtphub_port_ref_count_inc`. -/
def gtphubPortRefCountInc (pp : PeerPort) : HubM Unit := do
  let h ← get
  if h.refCount pp < 2 ^ 32 - 1 then
    set { h with refCount := Function.update h.refCount pp (h.refCount pp + 1) }
  else throw .refCountMax

/-- `gtphub_port_ref_count_dec`. -/
def gtphubPortRefCountDec (pp : PeerPort) : HubM Unit := do
  let h ← get
  if 0 < h.refCount pp then
    set { h with refCount := Function.update h.refCount pp (h.refCount pp - 1) }
  else throw .refCountZero

/-! ## Tunnels -/

/-- Changes an endpoint of a tunnel. -/
def Hub.setEndpoint (h : Hub) (t : ℕ) (s : Side) (p : Plane) (te : TunnelEndpoint) : Hub :=
  { h with tun := Function.update h.tun t { h.tun t with
      endpoint := fun s' p' ↦ if s' = s ∧ p' = p then te else (h.tun t).endpoint s' p' } }

/-- `gtphub_tunnel_endpoint_set_peer`. -/
def gtphubTunnelEndpointSetPeer (t : ℕ) (s : Side) (p : Plane) (pp : Option PeerPort) :
    HubM Unit := do
  (match (((← get).tun t).endpoint s p).peer with
    | some old => gtphubPortRefCountDec old
    | none => pure ())
  modify fun h ↦ h.setEndpoint t s p { (h.tun t).endpoint s p with peer := pp }
  (match pp with
    | some new => gtphubPortRefCountInc new
    | none => pure ())

/-- `gtphub_tunnel_del_cb`. -/
def gtphubTunnelDelCb (t : ℕ) : HubM Unit := do
  modify fun h ↦ { h with tunnels := h.tunnels.erase t }
  gtphubTunnelEndpointSetPeer t .sgsn .ctrl none
  gtphubTunnelEndpointSetPeer t .sgsn .user none
  gtphubTunnelEndpointSetPeer t .ggsn .ctrl none
  gtphubTunnelEndpointSetPeer t .ggsn .user none

/-! ## Expiry -/

/-- `gtphub_mapping_del_cb`. -/
def gtphubMappingDelCb (m : NrMapping) : HubM Unit := do
  modify fun h ↦ { h with mappings := h.mappings.erase m }
  gtphubPortRefCountDec m.origin

/-- `pending_delete_del_cb`. -/
def pendingDeleteDelCb (pd : PendingDelete) : HubM Unit :=
  modify fun h ↦ { h with pendingDeletes := h.pendingDeletes.erase pd }

/-- `resolved_gssn_del_cb`. -/
def resolvedGssnDelCb (g : ResolvedGgsn) : HubM Unit := do
  gtphubPortRefCountDec g.peer
  modify fun h ↦ { h with resolvedGgsns := h.resolvedGgsns.erase g }

/-- `ggsn_lookup_del_cb`. -/
def ggsnLookupDelCb (id : ℕ) : HubM Unit :=
  modify fun h ↦ { h with ggsnLookups := h.ggsnLookups.filter (·.id ≠ id) }

/-- The `del_cb` of an item. -/
def Item.delCb : Item → HubM Unit
  | .tunnel t => gtphubTunnelDelCb t
  | .mapping m => gtphubMappingDelCb m
  | .pendingDelete pd => pendingDeleteDelCb pd
  | .resolvedGgsn g => resolvedGssnDelCb g
  | .ggsnLookup id => ggsnLookupDelCb id

/-- An expiry queue of the hub. -/
def Hub.exq (h : Hub) : Exq → List (Expiring Item)
  | .quickly => h.expireQuickly
  | .slowly => h.expireSlowly

/-- Replaces an expiry queue. -/
def Hub.setExq (h : Hub) (items : List (Expiring Item)) : Exq → Hub
  | .quickly => { h with expireQuickly := items }
  | .slowly => { h with expireSlowly := items }

/-- `expiry_add`. -/
def expiryAdd (exq : Exq) (item : Item) (now : ℕ) : HubM Unit := do
  let h ← get
  match Expiring.add (h.exq exq) item (now + exq.seconds) with
  | some items => set (h.setExq items exq)
  | none => throw .expiryOrder

/-- `expiring_item_del`. -/
def expiringItemDel (item : Item) : HubM Unit := do
  modify fun h ↦ { h with
    expireQuickly := Expiring.remove h.expireQuickly item
    expireSlowly := Expiring.remove h.expireSlowly item }
  item.delCb

/-- The loop of `expiry_tick`. -/
def expiryTickLoop (now : ℕ) : List (Expiring Item) → HubM ℕ
  | [] => pure 0
  | m :: rest =>
    if m.expiry ≤ now then do
      expiringItemDel m.item
      return (← expiryTickLoop now rest) + 1
    else pure 0

/-- `expiry_tick`. -/
def expiryTick (exq : Exq) (now : ℕ) : HubM ℕ := do
  expiryTickLoop now ((← get).exq exq)

/-! ## Peers, addresses and ports -/

/-- `gsn_addr_to_sockaddr`. An address that is neither of IPv4 nor of IPv6 has no text, and
`getaddrinfo` is then asked for no host. -/
def gsnAddrToSockaddr (lib : Lib) (addr : GsnAddr) (port : ℕ) : Sockaddr :=
  if addr.length = 4 ∨ addr.length = 16 then ⟨addr, port⟩ else ⟨lib.loopback, port⟩

/-- `gtphub_addr_find`. -/
def Hub.gtphubAddrFind (h : Hub) (s : Side) (p : Plane) (addr : GsnAddr) : Option PeerAddr :=
  h.addrs.find? fun a ↦ a.side = s ∧ a.plane = p ∧ a.addr = addr

/-- `gtphub_addr_find_port`. -/
def gtphubAddrFindPort (a : PeerAddr) (port : ℕ) : HubM (Option PeerPort) := do
  if port = 0 then throw .zeroPort
  return (← get).ports.find? fun pp ↦
    pp.side = a.side ∧ pp.plane = a.plane ∧ pp.peer = a.peer ∧ pp.addr = a.addr ∧ pp.port = port

/-- `gtphub_peer_new` and `gtphub_peer_add_addr`: a new peer with one address. -/
def gtphubPeerNew (s : Side) (p : Plane) (addr : GsnAddr) : HubM PeerAddr := do
  let h ← get
  set { h with
    peers := ⟨s, p, h.nextId⟩ :: h.peers
    addrs := ⟨s, p, h.nextId, addr⟩ :: h.addrs
    seqPool := Function.update h.seqPool h.nextId { nrPoolInit 0 0xffff with lastNr := 0x6d31 - 1 }
    nextId := h.nextId + 1 }
  return ⟨s, p, h.nextId, addr⟩

/-- `gtphub_addr_have`. -/
def gtphubAddrHave (s : Side) (p : Plane) (addr : GsnAddr) : HubM PeerAddr := do
  match (← get).gtphubAddrFind s p addr with
  | some a => return a
  | none => gtphubPeerNew s p addr

/-- `gtphub_addr_add_port`. -/
def gtphubAddrAddPort (lib : Lib) (a : PeerAddr) (port : ℕ) : HubM PeerPort := do
  let h ← get
  let pp : PeerPort := ⟨a.side, a.plane, a.peer, a.addr, port, gsnAddrToSockaddr lib a.addr port⟩
  set { h with
    ports := pp :: h.ports
    refCount := Function.update h.refCount pp 0
    lastRestartCount := Function.update h.lastRestartCount pp none }
  return pp

/-- The end of `gtphub_port_have` and of `gtphub_known_addr_have_port`. -/
def gtphubAddrHavePort (lib : Lib) (a : PeerAddr) (port : ℕ) : HubM PeerPort := do
  match ← gtphubAddrFindPort a port with
  | some pp => return pp
  | none => gtphubAddrAddPort lib a port

/-- `gtphub_port_have`. -/
def gtphubPortHave (lib : Lib) (s : Side) (p : Plane) (addr : GsnAddr) (port : ℕ) :
    HubM PeerPort := do
  gtphubAddrHavePort lib (← gtphubAddrHave s p addr) port

/-- `gtphub_known_addr_have_port`. -/
def gtphubKnownAddrHavePort (lib : Lib) (s : Side) (p : Plane) (addr : Sockaddr) :
    HubM (Option PeerPort) := do
  match (← get).gtphubAddrFind s p addr.addr with
  | some a => return some (← gtphubAddrHavePort lib a addr.port)
  | none => return none

/-- `gtphub_gc_bind`: the ports without references, then the addresses without ports, then the
peers without addresses and mappings. -/
def Hub.gtphubGcBind (h : Hub) (s : Side) (p : Plane) : Hub :=
  let ports := h.ports.filter fun pp ↦ ¬ (pp.side = s ∧ pp.plane = p ∧ h.refCount pp = 0)
  let addrs := h.addrs.filter fun a ↦ ¬ (a.side = s ∧ a.plane = p ∧
    ∀ pp ∈ ports, ¬ (pp.side = s ∧ pp.plane = p ∧ pp.peer = a.peer ∧ pp.addr = a.addr))
  let peers := h.peers.filter fun x ↦ ¬ (x.side = s ∧ x.plane = p ∧
    (∀ a ∈ addrs, a.peer ≠ x.id) ∧ ∀ m ∈ h.mappings, m.peer ≠ x.id)
  { h with ports := ports, addrs := addrs, peers := peers }

/-! ## Sequence numbers -/

/-- `nr_map_get`. -/
def Hub.nrMapGet (h : Hub) (peer : ℕ) (origin : PeerPort) (orig : ℕ) : Option NrMapping :=
  h.mappings.find? fun m ↦ m.peer = peer ∧ m.origin = origin ∧ m.orig = orig

/-- `nr_map_get_inv`. -/
def Hub.nrMapGetInv (h : Hub) (peer repl : ℕ) : Option NrMapping :=
  h.mappings.find? fun m ↦ m.peer = peer ∧ m.repl = repl

/-- `nr_pool_next` on the pool of a peer. -/
def seqPoolNext (peer : ℕ) : HubM ℕ := do
  let h ← get
  let pool := nrPoolNext (h.seqPool peer)
  set { h with seqPool := Function.update h.seqPool peer pool }
  return pool.lastNr

/-- `gtphub_mapping_have`: the number that stands for one of another port. -/
def gtphubMappingHave (peer : ℕ) (origin : PeerPort) (orig now : ℕ) : HubM ℕ := do
  match (← get).nrMapGet peer origin orig with
  | some m =>
    expiryAdd .quickly (.mapping m) now
    return m.repl
  | none =>
    let m : NrMapping := ⟨peer, origin, orig, ← seqPoolNext peer⟩
    modify fun h ↦ { h with mappings := h.mappings ++ [m] }
    expiryAdd .quickly (.mapping m) now
    gtphubPortRefCountInc origin
    return m.repl

end OsmoSgsn.Gtphub
