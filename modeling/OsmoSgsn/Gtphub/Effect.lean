import OsmoSgsn.Gtphub.Handle

/-!
# What each function leaves behind

Most of the code of the hub looks after peers, ports, reference counts and expiry queues. The
results about tunnels and packets do not look there: `Hub.view` is what they look at, and for each
function that returns this module says once what becomes of it.
-/

namespace OsmoSgsn.Gtphub

open EStateM

/-- The part of a hub that decides about packets; the rest is blanked out. -/
def Hub.view (h : Hub) : Hub :=
  { h with
    peers := [], addrs := [], ports := [], refCount := fun _ ↦ 0, lastRestartCount := fun _ ↦ none
    seqPool := fun _ ↦ nrPoolInit 0 0, nextId := 0, ggsnLookups := [], expireQuickly := []
    expireSlowly := [], sent := [], queries := [] }

/-- The part of the view that is not about single tunnels. -/
def Hub.background (h : Hub) : Hub :=
  { h.view with tun := fun _ ↦ .zero, tunnels := [], log := [] }

/-- Another port for an endpoint of a tunnel. -/
def Hub.setPeer (h : Hub) (t : ℕ) (s : Side) (p : Plane) (pp : Option PeerPort) : Hub :=
  h.setEndpoint t s p { (h.tun t).endpoint s p with peer := pp }

/-- A hub without a tunnel. The endpoints of the tunnel are void. -/
def Hub.dropTunnel (h : Hub) (t : ℕ) : Hub :=
  (((Hub.setPeer { h with tunnels := h.tunnels.erase t } t .sgsn .ctrl none).setPeer t .sgsn .user
    none).setPeer t .ggsn .ctrl none).setPeer t .ggsn .user none

section View

variable {h h' : Hub}

theorem Hub.view_setPeer (h : Hub) (t : ℕ) (s : Side) (p : Plane) (pp : Option PeerPort) :
    (h.setPeer t s p pp).view = h.view.setPeer t s p pp := rfl

/-- A field of the view is a field of the hub. -/
theorem Hub.eq_of_view {α : Type} (f : Hub → α) (hf : ∀ h, f h.view = f h)
    (hv : h'.view = h.view) : f h' = f h := by
  rw [← hf h', hv, hf]

theorem tun_of_view (hv : h'.view = h.view) : h'.tun = h.tun :=
  Hub.eq_of_view Hub.tun (fun _ ↦ rfl) hv

theorem tunnels_of_view (hv : h'.view = h.view) : h'.tunnels = h.tunnels :=
  Hub.eq_of_view Hub.tunnels (fun _ ↦ rfl) hv

theorem log_of_view (hv : h'.view = h.view) : h'.log = h.log :=
  Hub.eq_of_view Hub.log (fun _ ↦ rfl) hv

theorem background_of_view (hv : h'.view = h.view) : h'.background = h.background :=
  Hub.eq_of_view Hub.background (fun _ ↦ rfl) hv

/-- A field of the background is a field of the hub. -/
theorem Hub.eq_of_background {α : Type} (f : Hub → α) (hf : ∀ h, f h.background = f h)
    (hb : h'.background = h.background) : f h' = f h := by
  rw [← hf h', hb, hf]

theorem proxy_of_view (hv : h'.view = h.view) : h'.proxy = h.proxy :=
  Hub.eq_of_view Hub.proxy (fun _ ↦ rfl) hv

end View

/-! ## Endpoints -/

section Endpoints

variable (h : Hub) (t : ℕ) (s : Side) (p : Plane) (pp : Option PeerPort)

@[simp] theorem Hub.setEndpoint_teiRepl (te : TunnelEndpoint) (t' : ℕ) :
    ((h.setEndpoint t s p te).tun t').teiRepl = (h.tun t').teiRepl := by
  unfold Hub.setEndpoint
  by_cases ht : t' = t
  · rw [ht]
    simp
  · simp [Function.update_of_ne ht]

@[simp] theorem Hub.setEndpoint_endpoint (te : TunnelEndpoint) (t' : ℕ) (s' : Side) (p' : Plane) :
    ((h.setEndpoint t s p te).tun t').endpoint s' p' =
      if t' = t ∧ s' = s ∧ p' = p then te else (h.tun t').endpoint s' p' := by
  unfold Hub.setEndpoint
  by_cases ht : t' = t
  · rw [ht]
    simp
  · simp [ht]

@[simp] theorem Hub.setEndpoint_tunnels (te : TunnelEndpoint) :
    (h.setEndpoint t s p te).tunnels = h.tunnels := rfl

@[simp] theorem Hub.setPeer_teiRepl (t' : ℕ) :
    ((h.setPeer t s p pp).tun t').teiRepl = (h.tun t').teiRepl := h.setEndpoint_teiRepl ..

@[simp] theorem Hub.setPeer_teiOrig (t' : ℕ) (s' : Side) (p' : Plane) :
    (((h.setPeer t s p pp).tun t').endpoint s' p').teiOrig =
      ((h.tun t').endpoint s' p').teiOrig := by
  rw [Hub.setPeer, Hub.setEndpoint_endpoint]
  split
  · next heq => rw [heq.1, heq.2.1, heq.2.2]
  · rfl

@[simp] theorem Hub.setPeer_peer (t' : ℕ) (s' : Side) (p' : Plane) :
    (((h.setPeer t s p pp).tun t').endpoint s' p').peer =
      if t' = t ∧ s' = s ∧ p' = p then pp else ((h.tun t').endpoint s' p').peer := by
  rw [Hub.setPeer, Hub.setEndpoint_endpoint]
  split <;> rfl

@[simp] theorem Hub.setPeer_tunnels : (h.setPeer t s p pp).tunnels = h.tunnels := rfl

@[simp] theorem Hub.dropTunnel_tunnels : (h.dropTunnel t).tunnels = h.tunnels.erase t := rfl

@[simp] theorem Hub.dropTunnel_log : (h.dropTunnel t).log = h.log := rfl

@[simp] theorem Hub.dropTunnel_background : (h.dropTunnel t).background = h.background := rfl

@[simp] theorem Hub.dropTunnel_teiRepl (t' : ℕ) :
    ((h.dropTunnel t).tun t').teiRepl = (h.tun t').teiRepl := by simp [Hub.dropTunnel]

theorem Hub.dropTunnel_tun {t' : ℕ} (ht : t' ≠ t) : (h.dropTunnel t).tun t' = h.tun t' := by
  simp [Hub.dropTunnel, Hub.setPeer, Hub.setEndpoint, Function.update_of_ne ht]

@[simp] theorem Hub.dropTunnel_peer (s' : Side) (p' : Plane) :
    (((h.dropTunnel t).tun t).endpoint s' p').peer = none := by
  cases s' <;> cases p' <;> simp [Hub.dropTunnel]

end Endpoints

/-! ## Code that does not touch the view -/

section Silent

variable {h h' : Hub} {lib : Lib} {pp : PeerPort} {u : Unit}

theorem view_refCountInc (hr : gtphubPortRefCountInc pp h = .ok u h') : h'.view = h.view := by
  simp only [gtphubPortRefCountInc, get_bind_apply] at hr
  split at hr
  · rw [set_eq_ok.mp hr]
    rfl
  · exact (throw_eq_ok.mp hr).elim

theorem view_refCountDec (hr : gtphubPortRefCountDec pp h = .ok u h') : h'.view = h.view := by
  simp only [gtphubPortRefCountDec, get_bind_apply] at hr
  split at hr
  · rw [set_eq_ok.mp hr]
    rfl
  · exact (throw_eq_ok.mp hr).elim

theorem view_setExq (h : Hub) (items : List (Expiring Item)) (exq : Exq) :
    (h.setExq items exq).view = h.view := by cases exq <;> rfl

theorem view_expiryAdd {exq : Exq} {item : Item} {now : ℕ}
    (hr : expiryAdd exq item now h = .ok u h') : h'.view = h.view := by
  simp only [expiryAdd, get_bind_apply] at hr
  cases hq : Expiring.add (h.exq exq) item (now + exq.seconds) with
  | some items =>
    rw [hq] at hr
    rw [set_eq_ok.mp hr, view_setExq]
  | none =>
    rw [hq] at hr
    exact (throw_eq_ok.mp hr).elim

theorem view_seqPoolNext {peer nr : ℕ} (hr : seqPoolNext peer h = .ok nr h') :
    h'.view = h.view := by
  simp only [seqPoolNext, get_bind_apply, set_bind_apply, pure_eq_ok] at hr
  rw [hr.2]
  rfl

theorem addrFindPort_ok {a : PeerAddr} {port : ℕ} {o : Option PeerPort}
    (hr : gtphubAddrFindPort a port h = .ok o h') : h' = h ∧ port ≠ 0 ∧ o = h.ports.find? fun pp ↦
      pp.side = a.side ∧ pp.plane = a.plane ∧ pp.peer = a.peer ∧ pp.addr = a.addr ∧
        pp.port = port := by
  simp only [gtphubAddrFindPort] at hr
  split at hr
  · simp [bind_eq_ok, throw_eq_ok] at hr
  · next hport =>
    simp only [get_bind_apply, pure_eq_ok] at hr
    exact ⟨hr.2, hport, hr.1⟩

theorem addrAddPort_ok {a : PeerAddr} {port : ℕ} (hr : gtphubAddrAddPort lib a port h = .ok pp h') :
    h'.view = h.view ∧
      pp = ⟨a.side, a.plane, a.peer, a.addr, port, gsnAddrToSockaddr lib a.addr port⟩ := by
  simp only [gtphubAddrAddPort, get_bind_apply, set_bind_apply, pure_eq_ok] at hr
  obtain ⟨rfl, rfl⟩ := hr
  exact ⟨rfl, rfl⟩

/-- A port belongs to the address that it was made for. -/
structure PeerPort.Of (pp : PeerPort) (a : PeerAddr) (port : ℕ) : Prop where
  side : pp.side = a.side
  plane : pp.plane = a.plane
  peer : pp.peer = a.peer
  addr : pp.addr = a.addr
  port : pp.port = port

theorem addrHavePort_ok {a : PeerAddr} {port : ℕ}
    (hr : gtphubAddrHavePort lib a port h = .ok pp h') : h'.view = h.view ∧ pp.Of a port := by
  simp only [gtphubAddrHavePort, bind_eq_ok] at hr
  obtain ⟨o, h₁, hfind, hr⟩ := hr
  obtain ⟨rfl, -, ho⟩ := addrFindPort_ok hfind
  cases o with
  | some q =>
    obtain ⟨rfl, rfl⟩ := pure_eq_ok.mp hr
    have hq := List.find?_some ho.symm
    simp only [decide_eq_true_eq] at hq
    exact ⟨rfl, hq.1, hq.2.1, hq.2.2.1, hq.2.2.2.1, hq.2.2.2.2⟩
  | none =>
    obtain ⟨hv, rfl⟩ := addrAddPort_ok hr
    exact ⟨hv, rfl, rfl, rfl, rfl, rfl⟩

theorem Hub.addrFind_some {s : Side} {p : Plane} {addr : GsnAddr} {a : PeerAddr}
    (hf : h.gtphubAddrFind s p addr = some a) :
    a ∈ h.addrs ∧ a.side = s ∧ a.plane = p ∧ a.addr = addr := by
  refine ⟨List.mem_of_find?_eq_some hf, ?_⟩
  simpa using List.find?_some hf

theorem addrHave_ok {s : Side} {p : Plane} {addr : GsnAddr} {a : PeerAddr}
    (hr : gtphubAddrHave s p addr h = .ok a h') :
    h'.view = h.view ∧ a.side = s ∧ a.plane = p ∧ a.addr = addr := by
  simp only [gtphubAddrHave, get_bind_apply] at hr
  cases hf : h.gtphubAddrFind s p addr with
  | some a' =>
    rw [hf] at hr
    obtain ⟨rfl, rfl⟩ := pure_eq_ok.mp hr
    exact ⟨rfl, (Hub.addrFind_some hf).2⟩
  | none =>
    rw [hf] at hr
    simp only [gtphubPeerNew, get_bind_apply, set_bind_apply, pure_eq_ok] at hr
    obtain ⟨rfl, rfl⟩ := hr
    exact ⟨rfl, rfl, rfl, rfl⟩

/-- `gtphub_port_have` gives a port of the address on the bind. -/
theorem portHave_ok {s : Side} {p : Plane} {addr : GsnAddr} {port : ℕ}
    (hr : gtphubPortHave lib s p addr port h = .ok pp h') :
    h'.view = h.view ∧ pp.side = s ∧ pp.plane = p ∧ pp.addr = addr := by
  simp only [gtphubPortHave, bind_eq_ok] at hr
  obtain ⟨a, h₁, ha, hr⟩ := hr
  obtain ⟨hv, rfl, rfl, rfl⟩ := addrHave_ok ha
  obtain ⟨hv', hof⟩ := addrHavePort_ok hr
  exact ⟨hv'.trans hv, hof.side, hof.plane, hof.addr⟩

theorem knownAddrHavePort_ok {s : Side} {p : Plane} {sa : Sockaddr} {o : Option PeerPort}
    (hr : gtphubKnownAddrHavePort lib s p sa h = .ok o h') : h'.view = h.view ∧
      ∀ pp ∈ o, pp.side = s ∧ pp.plane = p ∧ pp.addr = sa.addr := by
  simp only [gtphubKnownAddrHavePort, get_bind_apply] at hr
  cases ha : h.gtphubAddrFind s p sa.addr with
  | some a =>
    rw [ha] at hr
    obtain ⟨pp, h₁, hpp, hr⟩ := bind_eq_ok.mp hr
    obtain ⟨rfl, rfl⟩ := pure_eq_ok.mp hr
    obtain ⟨hv, hof⟩ := addrHavePort_ok hpp
    obtain ⟨-, rfl, rfl, haddr⟩ := Hub.addrFind_some ha
    refine ⟨hv, ?_⟩
    rintro _ ⟨⟩
    exact ⟨hof.side, hof.plane, hof.addr.trans haddr⟩
  | none =>
    rw [ha] at hr
    obtain ⟨rfl, rfl⟩ := pure_eq_ok.mp hr
    simp

/-- The sender is the proxy, or a port of the sender's address on the bind. -/
theorem fromPort_ok {s : Side} {p : Plane} {sa : Sockaddr} {o : Option PeerPort}
    (hr : gtphubFromPort lib s p sa h = .ok o h') : h'.view = h.view ∧
      ∀ pp ∈ o, h.proxy s p = some pp ∨ pp.side = s ∧ pp.plane = p ∧ pp.addr = sa.addr := by
  simp only [gtphubFromPort, get_bind_apply] at hr
  cases hq : h.proxy s p with
  | some q =>
    rw [hq] at hr
    obtain ⟨rfl, rfl⟩ := pure_eq_ok.mp hr
    refine ⟨rfl, fun pp hpp ↦ .inl ?_⟩
    split at hpp
    · exact hpp
    · simp at hpp
  | none =>
    rw [hq] at hr
    obtain ⟨o', h₁, ho', hr⟩ := bind_eq_ok.mp hr
    obtain ⟨hv, hof⟩ := knownAddrHavePort_ok ho'
    cases o' with
    | some pp' =>
      obtain ⟨rfl, rfl⟩ := pure_eq_ok.mp hr
      exact ⟨hv, fun pp hpp ↦ .inr (hof pp hpp)⟩
    | none =>
      simp only at hr
      split at hr
      · next hsp =>
        obtain ⟨pp, h₂, hpp, hr⟩ := bind_eq_ok.mp hr
        obtain ⟨rfl, rfl⟩ := pure_eq_ok.mp hr
        obtain ⟨hv', hof'⟩ := portHave_ok hpp
        refine ⟨hv'.trans hv, ?_⟩
        rintro _ ⟨⟩
        exact .inr hof'
      · obtain ⟨rfl, rfl⟩ := pure_eq_ok.mp hr
        exact ⟨hv, by simp⟩

end Silent

/-! ## Tunnels and queues -/

section Tunnels

variable {h h' : Hub} {t : ℕ} {u : Unit}

theorem Hub.setPeer_congr (hv : h'.view = h.view) (t : ℕ) (s : Side) (p : Plane)
    (pp : Option PeerPort) : (h'.setPeer t s p pp).view = (h.setPeer t s p pp).view := by
  rw [Hub.view_setPeer, hv, ← Hub.view_setPeer]

theorem setPeer_ok {s : Side} {p : Plane} {pp : Option PeerPort}
    (hr : gtphubTunnelEndpointSetPeer t s p pp h = .ok u h') :
    h'.view = (h.setPeer t s p pp).view := by
  simp only [gtphubTunnelEndpointSetPeer, get_bind_apply] at hr
  obtain ⟨_, h₁, hdec, hr⟩ := bind_eq_ok.mp hr
  have hv₁ : h₁.view = h.view := by
    cases hold : ((h.tun t).endpoint s p).peer with
    | some old =>
      rw [hold] at hdec
      exact view_refCountDec hdec
    | none =>
      rw [hold] at hdec
      rw [(pure_eq_ok.mp hdec).2]
  rw [modify_bind_apply] at hr
  have hv : h'.view = (h₁.setPeer t s p pp).view := by
    cases pp with
    | some new => exact view_refCountInc hr
    | none => rw [(pure_eq_ok.mp hr).2, Hub.setPeer]
  rw [hv, Hub.setPeer_congr hv₁]

theorem tunnelDelCb_ok (hr : gtphubTunnelDelCb t h = .ok u h') :
    h'.view = (h.dropTunnel t).view := by
  simp only [gtphubTunnelDelCb, modify_bind_apply] at hr
  obtain ⟨_, h₁, hr₁, hr⟩ := bind_eq_ok.mp hr
  obtain ⟨_, h₂, hr₂, hr⟩ := bind_eq_ok.mp hr
  obtain ⟨_, h₃, hr₃, hr⟩ := bind_eq_ok.mp hr
  rw [setPeer_ok hr, Hub.setPeer_congr (setPeer_ok hr₃),
    Hub.setPeer_congr (Hub.setPeer_congr (setPeer_ok hr₂) ..),
    Hub.setPeer_congr (Hub.setPeer_congr (Hub.setPeer_congr (setPeer_ok hr₁) ..) ..)]
  rfl

/-- What the end of an item does to the view. -/
def Hub.dropItem (h : Hub) : Item → Hub
  | .tunnel t => h.dropTunnel t
  | .mapping m => { h with mappings := h.mappings.erase m }
  | .pendingDelete pd => { h with pendingDeletes := h.pendingDeletes.erase pd }
  | .resolvedGgsn g => { h with resolvedGgsns := h.resolvedGgsns.erase g }
  | .ggsnLookup id => { h with ggsnLookups := h.ggsnLookups.filter (·.id ≠ id) }

theorem delCb_ok {item : Item} (hr : item.delCb h = .ok u h') :
    h'.view = (h.dropItem item).view := by
  cases item with
  | tunnel t => exact tunnelDelCb_ok hr
  | mapping m =>
    simp only [Item.delCb, gtphubMappingDelCb, modify_bind_apply] at hr
    exact view_refCountDec hr
  | pendingDelete pd =>
    simp only [Item.delCb, pendingDeleteDelCb, modify_eq_ok] at hr
    rw [hr]
    rfl
  | resolvedGgsn g =>
    simp only [Item.delCb, resolvedGssnDelCb, bind_eq_ok, modify_eq_ok] at hr
    obtain ⟨_, h₁, hdec, rfl⟩ := hr
    have hv := view_refCountDec hdec
    have hg : h₁.resolvedGgsns = h.resolvedGgsns :=
      Hub.eq_of_view Hub.resolvedGgsns (fun _ ↦ rfl) hv
    calc Hub.view { h₁ with resolvedGgsns := h₁.resolvedGgsns.erase g }
        = { h₁.view with resolvedGgsns := h₁.resolvedGgsns.erase g } := rfl
      _ = { h.view with resolvedGgsns := h.resolvedGgsns.erase g } := by rw [hv, hg]
      _ = (h.dropItem (.resolvedGgsn g)).view := rfl
  | ggsnLookup id =>
    simp only [Item.delCb, ggsnLookupDelCb, modify_eq_ok] at hr
    rw [hr]
    rfl

theorem Hub.dropItem_congr (hv : h'.view = h.view) (item : Item) :
    (h'.dropItem item).view = (h.dropItem item).view := by
  have hview (h : Hub) : (h.view.dropItem item).view = (h.dropItem item).view := by
    cases item <;> rfl
  rw [← hview h', hv, hview]

theorem expiringItemDel_ok {item : Item} (hr : expiringItemDel item h = .ok u h') :
    h'.view = (h.dropItem item).view := by
  simp only [expiringItemDel, modify_bind_apply] at hr
  rw [delCb_ok hr]
  apply Hub.dropItem_congr
  rfl

end Tunnels

/-! ## Mapping numbers -/

section Numbers

variable {h h' : Hub} {p p' : GtpPacketDesc} {fromPort toPort : PeerPort}

/-- A mapping is found, or added at the end. -/
theorem mappingHave_ok {peer orig now repl : ℕ}
    (hr : gtphubMappingHave peer fromPort orig now h = .ok repl h') :
    ∃ l, (∀ m ∈ l, m.peer = peer ∧ m.origin = fromPort) ∧
      h'.view = { h.view with mappings := h.mappings ++ l } := by
  simp only [gtphubMappingHave, get_bind_apply] at hr
  cases hget : h.nrMapGet peer fromPort orig with
  | some m =>
    rw [hget] at hr
    obtain ⟨_, h₁, hadd, hr⟩ := bind_eq_ok.mp hr
    rw [(pure_eq_ok.mp hr).2]
    refine ⟨[], by simp, ?_⟩
    rw [view_expiryAdd hadd, List.append_nil]
    rfl
  | none =>
    rw [hget] at hr
    obtain ⟨nr, h₁, hnr, hr⟩ := bind_eq_ok.mp hr
    rw [modify_bind_apply] at hr
    obtain ⟨_, h₂, hadd, hr⟩ := bind_eq_ok.mp hr
    obtain ⟨_, h₃, hinc, hr⟩ := bind_eq_ok.mp hr
    rw [(pure_eq_ok.mp hr).2, view_refCountInc hinc, view_expiryAdd hadd]
    have hv := view_seqPoolNext hnr
    have hm : h₁.mappings = h.mappings := Hub.eq_of_view Hub.mappings (fun _ ↦ rfl) hv
    refine ⟨[⟨peer, fromPort, orig, nr⟩], by simp, ?_⟩
    calc Hub.view { h₁ with mappings := h₁.mappings ++ [⟨peer, fromPort, orig, nr⟩] }
        = { h₁.view with mappings := h₁.mappings ++ [⟨peer, fromPort, orig, nr⟩] } := rfl
      _ = { h.view with mappings := h.mappings ++ [⟨peer, fromPort, orig, nr⟩] } := by rw [hv, hm]

/-- What a packet keeps while its header is mapped. -/
structure SamePacket (p p' : GtpPacketDesc) : Prop where
  version : p'.version = p.version
  type : p'.type = p.type
  headerTeiRx : p'.headerTeiRx = p.headerTeiRx
  rc : p'.rc = p.rc
  plane : p'.plane = p.plane
  side : p'.side = p.side
  timestamp : p'.timestamp = p.timestamp
  ie : p'.ie = p.ie

theorem SamePacket.refl (p : GtpPacketDesc) : SamePacket p p :=
  ⟨rfl, rfl, rfl, rfl, rfl, rfl, rfl, rfl⟩

theorem SamePacket.trans {p₁ p₂ p₃ : GtpPacketDesc} (h : SamePacket p₁ p₂) (h' : SamePacket p₂ p₃) :
    SamePacket p₁ p₃ where
  version := h'.version.trans h.version
  type := h'.type.trans h.type
  headerTeiRx := h'.headerTeiRx.trans h.headerTeiRx
  rc := h'.rc.trans h.rc
  plane := h'.plane.trans h.plane
  side := h'.side.trans h.side
  timestamp := h'.timestamp.trans h.timestamp
  ie := h'.ie.trans h.ie

theorem mapSeq_ok (hr : gtphubMapSeq p fromPort toPort h = .ok p' h') :
    (∃ l, (∀ m ∈ l, m.peer = toPort.peer ∧ m.origin = fromPort) ∧
      h'.view = { h.view with mappings := h.mappings ++ l }) ∧ ∃ seq, p' = p.setSeq seq := by
  simp only [gtphubMapSeq] at hr
  obtain ⟨repl, h₁, hmap, hr⟩ := bind_eq_ok.mp hr
  split at hr
  · exact (throw_eq_ok.mp hr).elim
  · obtain ⟨rfl, rfl⟩ := pure_eq_ok.mp hr
    exact ⟨mappingHave_ok hmap, repl, rfl⟩

/-- A sequence number leads to the origin of the mapping that it stands for. -/
theorem unmapSeq_ok {o : Option PeerPort} (hr : gtphubUnmapSeq p fromPort h = .ok (p', o) h') :
    h' = h ∧ p.version = 1 ∧ SamePacket p p' ∧
      o = (h.nrMapGetInv fromPort.peer p.seq).map NrMapping.origin := by
  simp only [gtphubUnmapSeq] at hr
  split at hr
  · exact (throw_eq_ok.mp hr).elim
  · next hversion =>
    rw [get_bind_apply] at hr
    cases hinv : h.nrMapGetInv fromPort.peer p.seq with
    | some m =>
      rw [hinv] at hr
      obtain ⟨heq, rfl⟩ := pure_eq_ok.mp hr
      cases heq
      exact ⟨rfl, not_not.mp hversion, ⟨rfl, rfl, rfl, rfl, rfl, rfl, rfl, rfl⟩, rfl⟩
    | none =>
      rw [hinv] at hr
      obtain ⟨heq, rfl⟩ := pure_eq_ok.mp hr
      cases heq
      exact ⟨rfl, not_not.mp hversion, .refl _, rfl⟩

/-- Where the TEI in the header of a packet led: nowhere if it is zero, and else to the other side
of the tunnel. -/
inductive TeiUnmapped (h : Hub) (p : GtpPacketDesc) (fromPort : PeerPort) : Option PeerPort → Prop
  | zero (hzero : p.headerTeiRx = 0) (htun : p.tun = none) : TeiUnmapped h p fromPort none
  | tunnel (t : ℕ) (hnonzero : p.headerTeiRx ≠ 0) (ht : h.gtphubUnmapTei p fromPort = some t)
      (htun : p.tun = some t)
      (htei : p.headerTei = ((h.tun t).endpoint p.side.other p.plane).teiOrig) :
      TeiUnmapped h p fromPort ((h.tun t).endpoint p.side.other p.plane).peer

/-- The lookup looks at the received TEI, the side and the plane. -/
theorem Hub.unmapTei_congr (hsame : SamePacket p p') :
    h.gtphubUnmapTei p' fromPort = h.gtphubUnmapTei p fromPort := by
  simp only [Hub.gtphubUnmapTei, hsame.headerTeiRx, hsame.side, hsame.plane]

theorem TeiUnmapped.of_view {o : Option PeerPort} (hv : h'.view = h.view)
    (hun : TeiUnmapped h p fromPort o) : TeiUnmapped h' p fromPort o := by
  have htun := tun_of_view hv
  have hlook : h'.gtphubUnmapTei p fromPort = h.gtphubUnmapTei p fromPort := by
    simp only [Hub.gtphubUnmapTei, htun, tunnels_of_view hv]
  cases hun with
  | zero hzero htun => exact .zero hzero htun
  | tunnel t hnonzero ht htun' htei =>
    rw [← htun] at htei ⊢
    exact .tunnel t hnonzero (hlook.trans ht) htun' htei

theorem unmapHeaderTei_ok {o : Option PeerPort}
    (hr : gtphubUnmapHeaderTei p fromPort h = .ok (some (p', o)) h') :
    h'.view = h.view ∧ SamePacket p p' ∧ TeiUnmapped h p' fromPort o := by
  simp only [gtphubUnmapHeaderTei] at hr
  split at hr
  · exact (throw_eq_ok.mp hr).elim
  · split at hr
    · next hzero =>
      obtain ⟨heq, rfl⟩ := pure_eq_ok.mp hr
      cases heq
      exact ⟨rfl, ⟨rfl, rfl, rfl, rfl, rfl, rfl, rfl, rfl⟩, .zero hzero rfl⟩
    · next hnonzero =>
      rw [get_bind_apply] at hr
      cases ht : h.gtphubUnmapTei p fromPort with
      | none =>
        rw [ht] at hr
        simp [pure_eq_ok] at hr
      | some t =>
        rw [ht] at hr
        obtain ⟨_, h₁, hadd, hr⟩ := bind_eq_ok.mp hr
        obtain ⟨heq, rfl⟩ := pure_eq_ok.mp hr
        cases heq
        refine ⟨view_expiryAdd hadd, ⟨rfl, rfl, rfl, rfl, rfl, rfl, rfl, rfl⟩, ?_⟩
        exact .tunnel t hnonzero ht rfl rfl

theorem unmapHeaderTei_none (hr : gtphubUnmapHeaderTei p fromPort h = .ok none h') :
    h'.view = h.view := by
  simp only [gtphubUnmapHeaderTei] at hr
  split at hr
  · exact (throw_eq_ok.mp hr).elim
  · split at hr
    · simp [pure_eq_ok] at hr
    · rw [get_bind_apply] at hr
      cases ht : h.gtphubUnmapTei p fromPort with
      | none =>
        rw [ht] at hr
        rw [(pure_eq_ok.mp hr).2]
      | some t =>
        rw [ht] at hr
        obtain ⟨_, h₁, hadd, hr⟩ := bind_eq_ok.mp hr
        simp [pure_eq_ok] at hr

/-- Where the sequence number of a packet leads. -/
def Hub.seqOrigin (h : Hub) (fromPort : PeerPort) (seq : ℕ) : Option PeerPort :=
  (h.nrMapGetInv fromPort.peer seq).map NrMapping.origin

/-- `gtphub_unmap`: where the packet goes, and why. -/
theorem unmap_ok {toProxy : Option PeerPort} {r : Unmapped}
    (hr : gtphubUnmap p fromPort toProxy h = .ok (some r) h') :
    h'.view = h.view ∧ p.version = 1 ∧ SamePacket p r.p ∧ ∃ fromTei,
      TeiUnmapped h r.p fromPort fromTei ∧
        r.final = toProxy.or ((h.seqOrigin fromPort p.seq).or fromTei) ∧
        (r.final ≠ none → r.fromSeq = h.seqOrigin fromPort p.seq) := by
  simp only [gtphubUnmap] at hr
  obtain ⟨⟨p₁, fromSeq⟩, h₁, hseq, hr⟩ := bind_eq_ok.mp hr
  obtain ⟨o, h₂, htei, hr⟩ := bind_eq_ok.mp hr
  obtain ⟨rfl, hversion, hsame, hfromSeq⟩ := unmapSeq_ok hseq
  cases o with
  | none => simp [pure_eq_ok] at hr
  | some x =>
    obtain ⟨p₂, fromTei⟩ := x
    obtain ⟨hv, hsame', hun⟩ := unmapHeaderTei_ok htei
    simp only at hr
    cases hfinal : toProxy.or (fromSeq.or fromTei) with
    | none =>
      rw [hfinal] at hr
      obtain ⟨heq, rfl⟩ := pure_eq_ok.mp hr
      cases heq
      exact ⟨hv, hversion, hsame.trans hsame', fromTei, hun,
        by rw [Hub.seqOrigin, ← hfromSeq, hfinal], fun hne ↦ (hne rfl).elim⟩
    | some final =>
      rw [hfinal] at hr
      obtain ⟨heq, rfl⟩ := pure_eq_ok.mp hr
      cases heq
      exact ⟨hv, hversion, hsame.trans hsame', fromTei, hun,
        by rw [Hub.seqOrigin, ← hfromSeq, hfinal], fun _ ↦ hfromSeq⟩

theorem unmap_view {toProxy : Option PeerPort} {o : Option Unmapped}
    (hr : gtphubUnmap p fromPort toProxy h = .ok o h') : h'.view = h.view := by
  cases o with
  | some r => exact (unmap_ok hr).1
  | none =>
    simp only [gtphubUnmap] at hr
    obtain ⟨⟨p₁, fromSeq⟩, h₁, hseq, hr⟩ := bind_eq_ok.mp hr
    obtain ⟨o, h₂, htei, hr⟩ := bind_eq_ok.mp hr
    obtain ⟨rfl, -⟩ := unmapSeq_ok hseq
    cases o with
    | none =>
      obtain ⟨-, rfl⟩ := pure_eq_ok.mp hr
      exact unmapHeaderTei_none htei
    | some x =>
      obtain ⟨p₂, fromTei⟩ := x
      simp only at hr
      cases hfinal : toProxy.or (fromSeq.or fromTei) with
      | none =>
        rw [hfinal] at hr
        simp [pure_eq_ok] at hr
      | some final =>
        rw [hfinal] at hr
        simp [pure_eq_ok] at hr

end Numbers

/-! ## Restarts -/

section Restarts

variable {h h' h'' : Hub} {pp : PeerPort} {u : Unit}

/-- What a restart of a peer does: endpoints lose their port, and requests to delete are sent. -/
structure Voided (h h' : Hub) : Prop where
  background : h'.background = h.background
  tunnels : h'.tunnels = h.tunnels
  teiRepl : ∀ t, (h'.tun t).teiRepl = (h.tun t).teiRepl
  teiOrig : ∀ t s p, ((h'.tun t).endpoint s p).teiOrig = ((h.tun t).endpoint s p).teiOrig
  peer : ∀ t s p, ((h'.tun t).endpoint s p).peer = ((h.tun t).endpoint s p).peer ∨
    ((h'.tun t).endpoint s p).peer = none
  log : ∃ l, h'.log = l ++ h.log ∧ ∀ o ∈ l, ∃ t s, o = .deleteReq t s

theorem Voided.of_view (hv : h'.view = h.view) : Voided h h' where
  background := background_of_view hv
  tunnels := tunnels_of_view hv
  teiRepl t := by rw [tun_of_view hv]
  teiOrig t s p := by rw [tun_of_view hv]
  peer t s p := .inl (by rw [tun_of_view hv])
  log := ⟨[], log_of_view hv, by simp⟩

theorem Voided.trans (hv : Voided h h') (hv' : Voided h' h'') : Voided h h'' where
  background := hv'.background.trans hv.background
  tunnels := hv'.tunnels.trans hv.tunnels
  teiRepl t := (hv'.teiRepl t).trans (hv.teiRepl t)
  teiOrig t s p := (hv'.teiOrig t s p).trans (hv.teiOrig t s p)
  peer t s p := by
    rcases hv'.peer t s p with heq | hnone
    · rw [heq]
      exact hv.peer t s p
    · exact .inr hnone
  log := by
    obtain ⟨l, hl, hreq⟩ := hv.log
    obtain ⟨l', hl', hreq'⟩ := hv'.log
    refine ⟨l' ++ l, by rw [hl', hl, List.append_assoc], fun o ho ↦ ?_⟩
    rcases List.mem_append.mp ho with ho | ho
    · exact hreq' o ho
    · exact hreq o ho

theorem Voided.proxy (hv : Voided h h') : h'.proxy = h.proxy :=
  Hub.eq_of_background Hub.proxy (fun _ ↦ rfl) hv.background

theorem Voided.restartCounter (hv : Voided h h') : h'.restartCounter = h.restartCounter :=
  Hub.eq_of_background Hub.restartCounter (fun _ ↦ rfl) hv.background

theorem voided_setPeer {t : ℕ} {s : Side} {p : Plane}
    (hr : gtphubTunnelEndpointSetPeer t s p none h = .ok u h') : Voided h h' := by
  have hv := setPeer_ok hr
  refine Voided.trans ?_ (.of_view hv)
  refine ⟨rfl, rfl, by simp, by simp, fun t' s' p' ↦ ?_, ⟨[], rfl, by simp⟩⟩
  rw [Hub.setPeer_peer]
  split
  · exact .inr rfl
  · exact .inl rfl

/-- A request to delete goes out if the endpoint has a port. -/
theorem sendDelPdpCtx_ok {t : ℕ} {s : Side} (hr : gtphubSendDelPdpCtx t s h = .ok u h') :
    h'.view = { h.view with
      log := (if ((h.tun t).endpoint s .ctrl).peer = none then [] else [.deleteReq t s]) ++ h.log }
    := by
  simp only [gtphubSendDelPdpCtx, get_bind_apply] at hr
  cases hpeer : ((h.tun t).endpoint s .ctrl).peer with
  | none =>
    rw [hpeer] at hr
    rw [(pure_eq_ok.mp hr).2]
    rfl
  | some q =>
    rw [hpeer] at hr
    obtain ⟨seq, h₁, hnext, hr⟩ := bind_eq_ok.mp hr
    rw [modify_eq_ok.mp hr]
    have hv := view_seqPoolNext hnext
    have hlog : h₁.log = h.log := Hub.eq_of_view Hub.log (fun _ ↦ rfl) hv
    calc Hub.view { h₁ with sent := _, log := .deleteReq t s :: h₁.log }
        = { h₁.view with log := .deleteReq t s :: h₁.log } := rfl
      _ = { h.view with log := .deleteReq t s :: h.log } := by rw [hv, hlog]
      _ = _ := by simp

theorem voided_sendDelPdpCtx {t : ℕ} {s : Side} (hr : gtphubSendDelPdpCtx t s h = .ok u h') :
    Voided h h' := by
  have hv := sendDelPdpCtx_ok hr
  have htun : h'.tun = h.tun := (congrArg Hub.tun hv :)
  refine ⟨(congrArg Hub.background hv :), (congrArg Hub.tunnels hv :), by simp [htun],
    by simp [htun], by simp [htun], _, (congrArg Hub.log hv :), fun o ho ↦ ?_⟩
  split at ho
  · simp at ho
  · exact ⟨t, s, List.mem_singleton.mp ho⟩

theorem voided_restartedSide {t : ℕ} {s : Side}
    (hr : gtphubRestartedSide pp t s h = .ok u h') : Voided h h' := by
  simp only [gtphubRestartedSide, get_bind_apply] at hr
  cases hq : ((h.tun t).endpoint s .ctrl).peer with
  | none =>
    rw [hq] at hr
    exact .of_view (by rw [(pure_eq_ok.mp hr).2])
  | some q =>
    rw [hq] at hr
    simp only at hr
    split at hr
    · exact .of_view (by rw [(pure_eq_ok.mp hr).2])
    · obtain ⟨_, h₁, hsend, hr⟩ := bind_eq_ok.mp hr
      obtain ⟨_, h₂, hctrl, hr⟩ := bind_eq_ok.mp hr
      exact ((voided_sendDelPdpCtx hsend).trans (voided_setPeer hctrl)).trans (voided_setPeer hr)

theorem voided_restartedLoop {l : List ℕ} (hr : gtphubRestartedLoop pp l h = .ok u h') :
    Voided h h' := by
  induction l generalizing h with
  | nil => exact .of_view (by rw [(pure_eq_ok.mp hr).2])
  | cons t l ih =>
    simp only [gtphubRestartedLoop] at hr
    obtain ⟨_, h₁, hsgsn, hr⟩ := bind_eq_ok.mp hr
    obtain ⟨_, h₂, hggsn, hr⟩ := bind_eq_ok.mp hr
    exact ((voided_restartedSide hsgsn).trans (voided_restartedSide hggsn)).trans (ih hr)

theorem voided_checkRestartCounter {p : GtpPacketDesc}
    (hr : gtphubCheckRestartCounter p pp h = .ok u h') : Voided h h' := by
  simp only [gtphubCheckRestartCounter] at hr
  cases hcount : getRestartCount p with
  | none =>
    rw [hcount] at hr
    exact .of_view (by rw [(pure_eq_ok.mp hr).2])
  | some restart =>
    rw [hcount] at hr
    simp only at hr
    split at hr
    · exact .of_view (by rw [(pure_eq_ok.mp hr).2])
    · rw [get_bind_apply] at hr
      obtain ⟨_, h₁, hrestart, hr⟩ := bind_eq_ok.mp hr
      have hv : Voided h h₁ := by
        cases hlast : h.lastRestartCount pp with
        | none =>
          rw [hlast] at hrestart
          exact .of_view (by rw [(pure_eq_ok.mp hrestart).2])
        | some last =>
          rw [hlast] at hrestart
          simp only at hrestart
          split at hrestart
          · simp only [gtphubRestarted, get_bind_apply] at hrestart
            exact voided_restartedLoop hrestart
          · exact .of_view (by rw [(pure_eq_ok.mp hrestart).2])
      refine hv.trans (.of_view ?_)
      rw [modify_eq_ok.mp hr]
      rfl

end Restarts

/-! ## From a packet to its destination -/

section Routing

variable {h h' : Hub} {lib : Lib} {p : GtpPacketDesc} {rx : Rx}

theorem resolveGgsnAddr_ok {imsi apn : Bytes} {clock : ℕ} {o : Option PeerPort}
    (hr : gtphubResolveGgsnAddr lib imsi apn clock h = .ok o h') :
    h'.view = h.view ∧ ∀ pp ∈ o, ∃ g ∈ h.resolvedGgsns, g.peer = pp := by
  simp only [gtphubResolveGgsnAddr, get_bind_apply] at hr
  split at hr
  · obtain ⟨rfl, rfl⟩ := pure_eq_ok.mp hr
    simp
  · cases hfind : h.resolvedGgsns.find? (·.apnOiStr =
        makeAddrStr lib (imsi.take 15) (apn.take lib.apnMaxlen) false) with
    | some g =>
      rw [hfind] at hr
      obtain ⟨rfl, rfl⟩ := pure_eq_ok.mp hr
      refine ⟨rfl, ?_⟩
      rintro _ ⟨⟩
      exact ⟨g, List.mem_of_find?_eq_some hfind, rfl⟩
    | none =>
      rw [hfind] at hr
      simp only [set_bind_apply] at hr
      obtain ⟨_, h₁, hadd, hr⟩ := bind_eq_ok.mp hr
      obtain ⟨_, h₂, hquery, hr⟩ := bind_eq_ok.mp hr
      obtain ⟨rfl, rfl⟩ := pure_eq_ok.mp hr
      refine ⟨?_, by simp⟩
      have hv : h'.view = h₁.view := by
        rw [modify_eq_ok.mp hquery]
        rfl
      rw [hv, view_expiryAdd hadd]
      rfl

theorem resolveGgsn_ok {clock : ℕ} {o : Except Unit (Option PeerPort)}
    (hr : gtphubResolveGgsn lib p clock h = .ok o h') :
    h'.view = h.view ∧ ∀ pp, o = .ok (some pp) → ∃ g ∈ h.resolvedGgsns, g.peer = pp := by
  have hquiet : ∀ {x : Except Unit (Option PeerPort)}, (∀ pp, x ≠ .ok (some pp)) →
      (pure x : HubM _) h = .ok o h' →
        h'.view = h.view ∧ ∀ pp, o = .ok (some pp) → ∃ g ∈ h.resolvedGgsns, g.peer = pp := by
    intro x hx hr
    obtain ⟨rfl, rfl⟩ := pure_eq_ok.mp hr
    exact ⟨rfl, fun pp hpp ↦ (hx pp hpp).elim⟩
  simp only [gtphubResolveGgsn] at hr
  cases himsi : getIeImsiStr p.ie 0 with
  | error e =>
    rw [himsi] at hr
    exact hquiet (by simp) hr
  | ok o₁ =>
    rw [himsi] at hr
    cases o₁ with
    | none => exact hquiet (by simp) hr
    | some imsi =>
      simp only at hr
      cases hapn : getIeApnStr lib p.ie with
      | error e =>
        rw [hapn] at hr
        exact hquiet (by simp) hr
      | ok o₂ =>
        rw [hapn] at hr
        cases o₂ with
        | none => exact hquiet (by simp) hr
        | some apn =>
          obtain ⟨o₃, h₁, haddr, hr⟩ := bind_eq_ok.mp hr
          obtain ⟨hv, hg⟩ := resolveGgsnAddr_ok haddr
          cases o₃ with
          | none =>
            obtain ⟨rfl, rfl⟩ := pure_eq_ok.mp hr
            exact ⟨hv, by simp⟩
          | some pp =>
            obtain ⟨rfl, rfl⟩ := pure_eq_ok.mp hr
            refine ⟨hv, ?_⟩
            rintro _ ⟨⟩
            exact hg pp rfl

/-- The port that a packet goes to: the proxy, where the sequence number leads, or where the TEI
leads; and for a packet of an SGSN that leads nowhere, a GGSN that was resolved. -/
inductive Destination (h : Hub) (s : Side) (plane : Plane) (seq : ℕ) (fromPort : PeerPort)
    (fromTei : Option PeerPort) : PeerPort → Option PeerPort → Prop
  | unmapped {toPort : PeerPort}
      (hto : some toPort = (h.proxy s.other plane).or ((h.seqOrigin fromPort seq).or fromTei)) :
      Destination h s plane seq fromPort fromTei toPort (h.seqOrigin fromPort seq)
  | resolved {g : ResolvedGgsn} (hg : g ∈ h.resolvedGgsns) (hs : s = .sgsn)
      (hnone : (h.proxy s.other plane).or ((h.seqOrigin fromPort seq).or fromTei) = none) :
      Destination h s plane seq fromPort fromTei g.peer none

/-- A decoded packet that was given a destination. -/
structure Routed (h : Hub) (rx : Rx) (p : GtpPacketDesc) (r : Route) (h' : Hub) : Prop where
  /-- On the way, only a restart may have changed what decides about packets. -/
  voided : Voided h h'
  version : p.version = 1
  same : SamePacket (gtphubMapRestartCounter h.restartCounter p) r.p
  destination : ∃ fromTei, TeiUnmapped h' r.p r.fromPort fromTei ∧
    Destination h' rx.side rx.plane p.seq r.fromPort fromTei r.toPort r.fromSeq

theorem mapRestartCounter_fields (n : ℕ) (p : GtpPacketDesc) :
    gtphubMapRestartCounter n p = { p with ie := (gtphubMapRestartCounter n p).ie } := by
  unfold gtphubMapRestartCounter
  split
  · rfl
  · split <;> rfl

theorem Routed.type {r : Route} (hrt : Routed h rx p r h') : r.p.type = p.type := by
  rw [hrt.same.type, mapRestartCounter_fields]

theorem Routed.headerTeiRx {r : Route} (hrt : Routed h rx p r h') :
    r.p.headerTeiRx = p.headerTeiRx := by
  rw [hrt.same.headerTeiRx, mapRestartCounter_fields]

theorem Routed.plane {r : Route} (hrt : Routed h rx p r h') : r.p.plane = p.plane := by
  rw [hrt.same.plane, mapRestartCounter_fields]

theorem Routed.side {r : Route} (hrt : Routed h rx p r h') : r.p.side = p.side := by
  rw [hrt.same.side, mapRestartCounter_fields]

theorem mapRestartCounter_seq (n : ℕ) (p : GtpPacketDesc) :
    (gtphubMapRestartCounter n p).seq = p.seq := by
  rw [mapRestartCounter_fields]

theorem mapRestartCounter_version (n : ℕ) (p : GtpPacketDesc) :
    (gtphubMapRestartCounter n p).version = p.version := by
  rw [mapRestartCounter_fields]

theorem seqOrigin_of_view (hv : h'.view = h.view) (fromPort : PeerPort) (seq : ℕ) :
    h'.seqOrigin fromPort seq = h.seqOrigin fromPort seq :=
  Hub.eq_of_view (fun h ↦ h.seqOrigin fromPort seq) (fun _ ↦ rfl) hv

/-- A packet with a destination was unmapped, or resolved. -/
theorem route_inr {fromPort : PeerPort} {r : Route}
    (hr : gtphubRoute lib rx p fromPort h = .ok (.inr r) h') :
    Routed h rx p r h' ∧ r.fromPort = fromPort := by
  simp only [gtphubRoute] at hr
  obtain ⟨_, h₁, hcheck, hr⟩ := bind_eq_ok.mp hr
  have hvoid := voided_checkRestartCounter hcheck
  rw [get_bind_apply] at hr
  obtain ⟨o, h₂, hunmap, hr⟩ := bind_eq_ok.mp hr
  have hcounter := hvoid.restartCounter
  cases o with
  | none => simp [pure_eq_ok] at hr
  | some un =>
    obtain ⟨hv, hversion, hsame, fromTei, htei, hfinal, hfromSeq⟩ := unmap_ok hunmap
    obtain ⟨p', final, fromSeq⟩ := un
    rw [mapRestartCounter_seq] at hfinal hfromSeq
    rw [mapRestartCounter_version] at hversion
    rw [hcounter] at hsame
    simp only at hsame htei hfinal hfromSeq
    cases final with
    | some toPort =>
      obtain ⟨heq, rfl⟩ := pure_eq_ok.mp hr
      cases heq
      refine ⟨⟨hvoid.trans (.of_view hv), hversion, hsame, fromTei, htei.of_view hv, ?_⟩, rfl⟩
      rw [hfromSeq (by simp), ← seqOrigin_of_view hv]
      refine .unmapped ?_
      rw [hfinal, proxy_of_view hv, seqOrigin_of_view hv]
    | none =>
      simp only at hr
      split at hr
      · next hside =>
        obtain ⟨o, h₃, hresolve, hr⟩ := bind_eq_ok.mp hr
        obtain ⟨hv', hg⟩ := resolveGgsn_ok hresolve
        cases o with
        | error e => simp [pure_eq_ok] at hr
        | ok o =>
          cases o with
          | none =>
            obtain ⟨_, _, -, hr⟩ := bind_eq_ok.mp hr
            simp [pure_eq_ok] at hr
          | some toPort =>
            obtain ⟨heq, rfl⟩ := pure_eq_ok.mp hr
            cases heq
            have hv₁ := hv'.trans hv
            refine ⟨⟨hvoid.trans (.of_view hv₁), hversion, hsame, fromTei, htei.of_view hv₁, ?_⟩,
              rfl⟩
            obtain ⟨g, hmem, rfl⟩ := hg toPort rfl
            refine .resolved (h := h') (g := g) ?_ hside ?_
            · rw [Hub.eq_of_view Hub.resolvedGgsns (fun _ ↦ rfl) hv']
              exact hmem
            · rw [proxy_of_view hv₁, seqOrigin_of_view hv₁, ← hfinal]
      · obtain ⟨_, _, -, hr⟩ := bind_eq_ok.mp hr
        simp [pure_eq_ok] at hr

theorem locate_inr {r : Route} (hr : gtphubLocate lib rx h = .ok (.inr r) h') :
    ∃ h₁, h₁.view = h.view ∧
      Routed h₁ rx (gtpDecode lib rx.buf rx.received rx.side rx.plane rx.now) r h' := by
  simp only [gtphubLocate] at hr
  split at hr
  · simp [pure_eq_ok] at hr
  · split at hr
    · simp [get_bind_apply, pure_eq_ok] at hr
    · obtain ⟨o, h₁, hfrom, hr⟩ := bind_eq_ok.mp hr
      cases o with
      | none => simp [pure_eq_ok] at hr
      | some fromPort => exact ⟨h₁, (fromPort_ok hfrom).1, (route_inr hr).1⟩

/-- A tunnel that ends with a response of a side. -/
def Hub.endTunnel (h : Hub) (t : ℕ) (s : Side) : Hub :=
  { h.dropTunnel t with log := .deleteRsp t s true :: h.log }

/-- A Delete PDP Context Response ends a tunnel whose other side is void. -/
structure EndsVoid (h : Hub) (fromPort : PeerPort) (p : GtpPacketDesc) (t : ℕ) (h' : Hub) :
    Prop where
  tun : p.tun = some t
  type : p.type = gtpDeletePdpRsp
  unmapped : TeiUnmapped h p fromPort none
  view : h'.view = (h.endTunnel t p.side).view

theorem noDestination_ok {v : Verdict} (hr : gtphubNoDestination p h = .ok v h') :
    h'.view = h.view ∨ v = .done ∧ ∃ t, p.tun = some t ∧ p.type = gtpDeletePdpRsp ∧
      h'.view = (h.endTunnel t p.side).view := by
  simp only [gtphubNoDestination] at hr
  cases htun : p.tun with
  | none =>
    rw [htun] at hr
    rw [(pure_eq_ok.mp hr).2]
    exact .inl rfl
  | some t =>
    rw [htun] at hr
    simp only at hr
    split at hr
    · next htype =>
      rw [modify_bind_apply] at hr
      obtain ⟨_, h₁, hdel, hr⟩ := bind_eq_ok.mp hr
      obtain ⟨rfl, rfl⟩ := pure_eq_ok.mp hr
      exact .inr ⟨rfl, t, rfl, htype, expiringItemDel_ok hdel⟩
    · rw [(pure_eq_ok.mp hr).2]
      exact .inl rfl

/-- A packet without a destination changes nothing but for a restart, or ends a void tunnel. -/
theorem route_inl {fromPort : PeerPort} {v : Verdict}
    (hr : gtphubRoute lib rx p fromPort h = .ok (.inl v) h') : Voided h h' ∨ v = .done ∧ ∃ h₁ p' t,
      Voided h h₁ ∧ SamePacket (gtphubMapRestartCounter h.restartCounter p) p' ∧
        EndsVoid h₁ fromPort p' t h' := by
  simp only [gtphubRoute] at hr
  obtain ⟨_, h₁, hcheck, hr⟩ := bind_eq_ok.mp hr
  have hvoid := voided_checkRestartCounter hcheck
  rw [get_bind_apply] at hr
  obtain ⟨o, h₂, hunmap, hr⟩ := bind_eq_ok.mp hr
  have hcounter := hvoid.restartCounter
  cases o with
  | none =>
    obtain ⟨-, rfl⟩ := pure_eq_ok.mp hr
    exact .inl (hvoid.trans (.of_view (unmap_view hunmap)))
  | some un =>
    obtain ⟨hv, hversion, hsame, fromTei, htei, hfinal, hfromSeq⟩ := unmap_ok hunmap
    obtain ⟨p', final, fromSeq⟩ := un
    rw [hcounter] at hsame
    cases final with
    | some toPort => simp [pure_eq_ok] at hr
    | none =>
      have hnone : fromTei = none := by
        cases fromTei with
        | none => rfl
        | some pp => simp at hfinal
      subst hnone
      have hend {h₃ : Hub} (hv' : h₃.view = h₁.view)
          (hr : (gtphubNoDestination p' >>= fun v ↦ pure (Sum.inl v) : HubM (Verdict ⊕ Route)) h₃ =
            .ok (.inl v) h') : Voided h h' ∨ v = .done ∧ ∃ h₁ p' t,
              Voided h h₁ ∧ SamePacket (gtphubMapRestartCounter h.restartCounter p) p' ∧
                EndsVoid h₁ fromPort p' t h' := by
        obtain ⟨v', h₄, hno, hr⟩ := bind_eq_ok.mp hr
        obtain ⟨heq, rfl⟩ := pure_eq_ok.mp hr
        have hvoid₃ := hvoid.trans (.of_view hv')
        rcases noDestination_ok hno with hv₄ | ⟨hdone, t, htun, htype, hv₄⟩
        · exact .inl (hvoid₃.trans (.of_view hv₄))
        · exact .inr ⟨(Sum.inl.inj heq).trans hdone, h₃, p', t, hvoid₃, hsame, htun, htype,
            htei.of_view hv', hv₄⟩
      simp only at hr
      split at hr
      · obtain ⟨o, h₃, hresolve, hr⟩ := bind_eq_ok.mp hr
        have hv' := (resolveGgsn_ok hresolve).1.trans hv
        cases o with
        | error e =>
          obtain ⟨-, rfl⟩ := pure_eq_ok.mp hr
          exact .inl (hvoid.trans (.of_view hv'))
        | ok o =>
          cases o with
          | none => exact hend hv' hr
          | some toPort => simp [pure_eq_ok] at hr
      · exact hend hv hr

theorem locate_inl {v : Verdict} (hr : gtphubLocate lib rx h = .ok (.inl v) h') :
    Voided h h' ∨ v = .done ∧ ∃ h₀ h₁ fromPort p' t, h₀.view = h.view ∧ Voided h₀ h₁ ∧
      SamePacket (gtphubMapRestartCounter h.restartCounter
        (gtpDecode lib rx.buf rx.received rx.side rx.plane rx.now)) p' ∧
          EndsVoid h₁ fromPort p' t h' := by
  simp only [gtphubLocate] at hr
  split at hr
  · obtain ⟨-, rfl⟩ := pure_eq_ok.mp hr
    exact .inl (.of_view rfl)
  · split at hr
    · rw [get_bind_apply] at hr
      obtain ⟨-, rfl⟩ := pure_eq_ok.mp hr
      exact .inl (.of_view rfl)
    · obtain ⟨o, h₁, hfrom, hr⟩ := bind_eq_ok.mp hr
      have hv := (fromPort_ok hfrom).1
      have hcounter : h₁.restartCounter = h.restartCounter :=
        Hub.eq_of_view Hub.restartCounter (fun _ ↦ rfl) hv
      cases o with
      | none =>
        obtain ⟨-, rfl⟩ := pure_eq_ok.mp hr
        exact .inl (.of_view hv)
      | some fromPort =>
        rcases route_inl hr with hvoid | ⟨hdone, h₂, p', t, hvoid, hsame, hend⟩
        · exact .inl (Voided.trans (.of_view hv) hvoid)
        · rw [hcounter] at hsame
          exact .inr ⟨hdone, h₁, h₂, fromPort, p', t, hv, hvoid, hsame, hend⟩

/-- A packet without a destination is not forwarded. -/
theorem noDestination_verdict {v : Verdict} (hr : gtphubNoDestination p h = .ok v h') :
    v = .drop ∨ v = .done := by
  simp only [gtphubNoDestination] at hr
  cases htun : p.tun with
  | none =>
    rw [htun] at hr
    exact .inl (pure_eq_ok.mp hr).1
  | some t =>
    rw [htun] at hr
    simp only at hr
    split at hr
    · rw [modify_bind_apply] at hr
      obtain ⟨_, h₁, -, hr⟩ := bind_eq_ok.mp hr
      exact .inr (pure_eq_ok.mp hr).1
    · exact .inl (pure_eq_ok.mp hr).1

theorem route_verdict {fromPort : PeerPort} {v : Verdict}
    (hr : gtphubRoute lib rx p fromPort h = .ok (.inl v) h') : v = .drop ∨ v = .done := by
  simp only [gtphubRoute] at hr
  obtain ⟨_, h₁, -, hr⟩ := bind_eq_ok.mp hr
  rw [get_bind_apply] at hr
  obtain ⟨o, h₂, -, hr⟩ := bind_eq_ok.mp hr
  have hdrop {h₃ : Hub} (hr : (pure (.inl .drop) : HubM (Verdict ⊕ Route)) h₃ = .ok (.inl v) h') :
      v = .drop ∨ v = .done := .inl (Sum.inl.inj (pure_eq_ok.mp hr).1)
  have hend {p' : GtpPacketDesc} {h₃ : Hub}
      (hr : (gtphubNoDestination p' >>= fun v ↦ pure (.inl v) : HubM (Verdict ⊕ Route)) h₃ =
        .ok (.inl v) h') : v = .drop ∨ v = .done := by
    obtain ⟨v', h₄, hno, hr⟩ := bind_eq_ok.mp hr
    obtain ⟨heq, -⟩ := pure_eq_ok.mp hr
    cases heq
    exact noDestination_verdict hno
  cases o with
  | none => exact hdrop hr
  | some un =>
    obtain ⟨p', final, fromSeq⟩ := un
    cases final with
    | some toPort => simp [pure_eq_ok] at hr
    | none =>
      simp only at hr
      split at hr
      · obtain ⟨o, h₃, -, hr⟩ := bind_eq_ok.mp hr
        cases o with
        | error e => exact hdrop hr
        | ok o =>
          cases o with
          | none => exact hend hr
          | some toPort => simp [pure_eq_ok] at hr
      · exact hend hr

theorem locate_ne_forward {toPort : PeerPort} {p' : GtpPacketDesc} :
    gtphubLocate lib rx h ≠ .ok (.inl (.forward toPort p')) h' := by
  intro hr
  simp only [gtphubLocate] at hr
  split at hr
  · simp [pure_eq_ok] at hr
  · split at hr
    · simp [get_bind_apply, pure_eq_ok] at hr
    · obtain ⟨o, h₁, -, hr⟩ := bind_eq_ok.mp hr
      cases o with
      | none => simp [pure_eq_ok] at hr
      | some fromPort =>
        rcases route_verdict hr with heq | heq <;> simp at heq

/-- A packet that is forwarded had a destination. -/
theorem handleBuf_forward {toPort : PeerPort} {p' : GtpPacketDesc}
    (hr : gtphubHandleBuf lib rx h = .ok (.forward toPort p') h') :
    ∃ r h₁, gtphubLocate lib rx h = .ok (.inr r) h₁ ∧
      gtphubDeliver lib rx.choice r h₁ = .ok (.forward toPort p') h' := by
  simp only [gtphubHandleBuf] at hr
  obtain ⟨x, h₁, hloc, hr⟩ := bind_eq_ok.mp hr
  cases x with
  | inl v =>
    obtain ⟨rfl, -⟩ := pure_eq_ok.mp hr
    exact (locate_ne_forward hloc).elim
  | inr r => exact ⟨r, h₁, hloc, hr⟩

end Routing

/-! ## Deleting -/

section Deleting

variable {h h' : Hub} {p : GtpPacketDesc} {o : Option GtpPacketDesc}

/-- A request that is waited for. -/
def Hub.noteDelete (h : Hub) (pd : PendingDelete) : Hub :=
  { h with
    pendingDeletes := if pd ∈ h.pendingDeletes then h.pendingDeletes else pd :: h.pendingDeletes }

theorem deleteReq_ok (hr : gtphubHandleDeleteReq p h = .ok o h') : (o = none ∧ h' = h) ∨
    ∃ pd, o = some p ∧ p.tun = some pd.tun ∧ h'.view = (h.noteDelete pd).view := by
  simp only [gtphubHandleDeleteReq] at hr
  have hnone (hr : (pure none : HubM (Option GtpPacketDesc)) h = .ok o h') : o = none ∧ h' = h :=
    pure_eq_ok.mp hr
  cases htun : p.tun with
  | none =>
    rw [htun] at hr
    exact .inl (hnone hr)
  | some t =>
    cases hind : gtpieGettv1 p.ie gtpieTeardown 0 with
    | none =>
      rw [htun, hind] at hr
      exact .inl (hnone hr)
    | some teardownInd =>
      cases hnsapi : gtpieGettv1 p.ie gtpieNsapi 0 with
      | none =>
        rw [htun, hind, hnsapi] at hr
        exact .inl (hnone hr)
      | some nsapi =>
        rw [htun, hind, hnsapi] at hr
        simp only [modify_bind_apply] at hr
        obtain ⟨_, h₁, hadd, hr⟩ := bind_eq_ok.mp hr
        obtain ⟨rfl, rfl⟩ := pure_eq_ok.mp hr
        refine .inr ⟨⟨t, teardownInd, nsapi⟩, rfl, rfl, ?_⟩
        exact view_expiryAdd hadd

/-- A Delete Response that answers a request: the request is no longer waited for. -/
def Hub.answerDelete (h : Hub) (pd : PendingDelete) (s : Side) (removed : Bool) : Hub :=
  { h with
    pendingDeletes := h.pendingDeletes.erase pd, log := .deleteRsp pd.tun s removed :: h.log }

theorem deleteRsp_ok (hr : gtphubHandleDeleteRsp p h = .ok o h') :
    (o = none ∧ h' = h) ∨ ∃ pd, pd ∈ h.pendingDeletes ∧ p.tun = some pd.tun ∧
      ((o = none ∧ h'.view = (h.answerDelete pd p.side false).view) ∨
        (o = some { p with tun := none } ∧
          h'.view = ((h.answerDelete pd p.side true).dropTunnel pd.tun).view)) := by
  simp only [gtphubHandleDeleteRsp] at hr
  cases htun : p.tun with
  | none =>
    rw [htun] at hr
    obtain ⟨rfl, rfl⟩ := pure_eq_ok.mp hr
    exact .inl ⟨rfl, rfl⟩
  | some t =>
    rw [htun] at hr
    simp only [get_bind_apply] at hr
    cases hfind : h.pendingDeletes.find? (·.tun = t) with
    | none =>
      rw [hfind] at hr
      obtain ⟨rfl, rfl⟩ := pure_eq_ok.mp hr
      exact .inl ⟨rfl, rfl⟩
    | some pd =>
      rw [hfind] at hr
      have ht : pd.tun = t := by simpa using List.find?_some hfind
      obtain ⟨_, h₁, hdel, hr⟩ := bind_eq_ok.mp hr
      have hv₁ := expiringItemDel_ok hdel
      have hlog : h₁.log = h.log := (congrArg Hub.log hv₁ :)
      have hanswer (removed : Bool) :
          Hub.view { h₁ with log := .deleteRsp t p.side removed :: h₁.log }
          = (h.answerDelete pd p.side removed).view := by
        calc Hub.view { h₁ with log := .deleteRsp t p.side removed :: h₁.log }
            = { h₁.view with log := .deleteRsp t p.side removed :: h₁.log } := rfl
          _ = (h.answerDelete pd p.side removed).view := by
            rw [hv₁, hlog, ← ht]
            rfl
      refine .inr ⟨pd, List.mem_of_find?_eq_some hfind, by rw [ht], ?_⟩
      split at hr
      · rw [modify_bind_apply] at hr
        obtain ⟨_, h₂, hdel₂, hr⟩ := bind_eq_ok.mp hr
        obtain ⟨rfl, rfl⟩ := pure_eq_ok.mp hr
        refine .inr ⟨rfl, ?_⟩
        rw [expiringItemDel_ok hdel₂, ht]
        exact Hub.dropItem_congr (hanswer true) (.tunnel t)
      · rw [modify_bind_apply] at hr
        obtain ⟨rfl, rfl⟩ := pure_eq_ok.mp hr
        exact .inl ⟨rfl, hanswer false⟩

/-- A tunnel that ends with a response was asked for, and the response accepts. -/
theorem deleteRsp_accepted {p' : GtpPacketDesc}
    (hr : gtphubHandleDeleteRsp p h = .ok (some p') h') :
    gtpieGettv1 p.ie gtpieCause 0 = some gtpcauseAccReq := by
  simp only [gtphubHandleDeleteRsp] at hr
  cases htun : p.tun with
  | none =>
    rw [htun] at hr
    simp [pure_eq_ok] at hr
  | some t =>
    rw [htun] at hr
    simp only [get_bind_apply] at hr
    cases hfind : h.pendingDeletes.find? (·.tun = t) with
    | none =>
      rw [hfind] at hr
      simp [pure_eq_ok] at hr
    | some pd =>
      rw [hfind] at hr
      obtain ⟨_, h₁, -, hr⟩ := bind_eq_ok.mp hr
      split at hr
      · next hcause => exact hcause
      · simp [modify_bind_apply, pure_eq_ok] at hr

end Deleting

/-! ## From the destination on -/

section Delivery

variable {h h' : Hub} {lib : Lib} {p p' : GtpPacketDesc} {r : Route} {choice : ℕ}

/-- The record of a Delete Request that is forwarded. -/
def deleteReqOf (p : GtpPacketDesc) : List Obs :=
  match p.tun with
  | some t => if p.plane = .ctrl ∧ p.type = gtpDeletePdpReq then [.deleteReq t p.side.other] else []
  | none => []

/-- How a packet goes out: with a mapping more, and in the record if it is a Delete Request. -/
structure Forwarded (h : Hub) (r : Route) (p p' : GtpPacketDesc) (h' : Hub) : Prop where
  tunnel : p.tun ≠ none ∨ p.type = gtpDeletePdpRsp
  packet : p' = p ∨ ∃ seq, p' = p.setSeq seq
  view : ∃ l, (∀ m ∈ l, m.peer = r.toPort.peer ∧ m.origin = r.fromPort) ∧
    (r.fromSeq ≠ none → l = []) ∧
    h'.view = { h.view with mappings := h.mappings ++ l, log := deleteReqOf p ++ h.log }

theorem outSeq_ok (hr : gtphubOutSeq r p h = .ok p' h') :
    (p' = p ∨ ∃ seq, p' = p.setSeq seq) ∧
      ∃ l, (∀ m ∈ l, m.peer = r.toPort.peer ∧ m.origin = r.fromPort) ∧
        (r.fromSeq ≠ none → l = []) ∧ h'.view = { h.view with mappings := h.mappings ++ l } := by
  unfold gtphubOutSeq at hr
  cases hseq : r.fromSeq with
  | some _ =>
    rw [hseq] at hr
    obtain ⟨rfl, rfl⟩ := pure_eq_ok.mp hr
    refine ⟨.inl rfl, [], by simp, fun _ ↦ rfl, ?_⟩
    rw [List.append_nil]
    rfl
  | none =>
    rw [hseq] at hr
    obtain ⟨⟨l, hl, hv⟩, hp⟩ := mapSeq_ok hr
    exact ⟨.inr hp, l, hl, fun hne ↦ (hne rfl).elim, hv⟩

/-- A packet with a destination is handled, and then dropped or forwarded. -/
theorem deliver_ok {v : Verdict} (hr : gtphubDeliver lib choice r h = .ok v h') :
    ∃ o h₁, gtphubHandleCtrl lib choice r h = .ok o h₁ ∧
      ((o = none ∧ v = .drop ∧ h' = h₁) ∨
        ∃ p p', o = some p ∧ v = .forward r.toPort p' ∧ Forwarded h₁ r p p' h') := by
  simp only [gtphubDeliver] at hr
  obtain ⟨o, h₁, hctrl, hr⟩ := bind_eq_ok.mp hr
  refine ⟨o, h₁, hctrl, ?_⟩
  cases o with
  | none =>
    obtain ⟨rfl, rfl⟩ := pure_eq_ok.mp hr
    exact .inl ⟨rfl, rfl, rfl⟩
  | some p =>
    simp only at hr
    split at hr
    · exact (throw_eq_ok.mp hr).elim
    · next htun =>
      obtain ⟨p', h₂, hseq, hr⟩ := bind_eq_ok.mp hr
      obtain ⟨_, h₃, hlog, hr⟩ := bind_eq_ok.mp hr
      obtain ⟨rfl, rfl⟩ := pure_eq_ok.mp hr
      obtain ⟨hp, l, hl, hnil, hv⟩ := outSeq_ok hseq
      refine .inr ⟨p, p', rfl, rfl, ?_, hp, l, hl, hnil, ?_⟩
      · by_contra hnot
        rw [not_or, not_not] at hnot
        exact htun hnot
      · have hdel : deleteReqOf p' = deleteReqOf p := by
          rcases hp with rfl | ⟨seq, rfl⟩ <;> rfl
        have hview : h'.view = { h₂.view with log := deleteReqOf p' ++ h₂.log } := by
          unfold deleteReqOf
          cases ht : p'.tun with
          | none =>
            rw [ht] at hlog
            rw [(pure_eq_ok.mp hlog).2]
            rfl
          | some t =>
            rw [ht] at hlog
            simp only at hlog ⊢
            split at hlog
            · next hreq =>
              rw [modify_eq_ok.mp hlog, if_pos hreq]
              rfl
            · next hreq =>
              rw [(pure_eq_ok.mp hlog).2, if_neg hreq]
              rfl
        have hlog₂ : h₂.log = h₁.log := (congrArg Hub.log hv :)
        rw [hview, hdel, hv, hlog₂]

end Delivery

end OsmoSgsn.Gtphub
