import OsmoSgsn.Gtphub.Walk

/-!
# Reference counts

A port counts the references to it: endpoints of tunnels, mappings that it is the origin of,
resolved GGSNs and proxies. The count is exact in every hub that the code reaches, so it is never
taken below zero, and what the garbage collector frees is referred to by nothing.
-/

open EStateM

namespace OsmoSgsn.Gtphub

/-- The ports of the proxies. -/
def Hub.proxyPeers (h : Hub) : List PeerPort :=
  (h.proxy .sgsn .ctrl).toList ++ (h.proxy .sgsn .user).toList ++ (h.proxy .ggsn .ctrl).toList ++
    (h.proxy .ggsn .user).toList

/-- How often a port is referred to: by endpoints of tunnels, by mappings, by resolved GGSNs and by
proxies. -/
def Hub.refs (h : Hub) (pp : PeerPort) : ℕ :=
  (h.tunnels.map fun t ↦ (h.tun t).peers.count pp).sum +
    (h.mappings.map NrMapping.origin).count pp +
    (h.resolvedGgsns.map ResolvedGgsn.peer).count pp + h.proxyPeers.count pp

/-- The counts are exact. -/
def Hub.Exact (h : Hub) : Prop := ∀ pp, h.refCount pp = h.refs pp

section Count

variable {h h' : Hub} {lib : Lib} {G : Prop} {now : ℕ} {pp : PeerPort}

theorem Hub.mem_proxyPeers : pp ∈ h.proxyPeers ↔ ∃ s p, h.proxy s p = some pp := by
  simp only [Hub.proxyPeers, List.mem_append, Option.mem_toList]
  constructor
  · rintro (((hpp | hpp) | hpp) | hpp)
    · exact ⟨_, _, hpp⟩
    · exact ⟨_, _, hpp⟩
    · exact ⟨_, _, hpp⟩
    · exact ⟨_, _, hpp⟩
  · rintro ⟨s, p, hpp⟩
    cases s <;> cases p <;> simp [hpp]

/-- What is counted is what refers to a port. -/
theorem Hub.refs_eq_zero_iff : h.refs pp = 0 ↔ ¬ h.Refers pp := by
  unfold Hub.refs Hub.Refers
  simp only [Nat.add_eq_zero_iff, List.sum_eq_zero_iff, List.count_eq_zero, Hub.mem_proxyPeers,
    List.mem_map]
  constructor
  · rintro ⟨⟨⟨htunnels, hmappings⟩, hresolved⟩, hproxy⟩ (⟨x, hx, hmem⟩ | hp)
    · cases x with
      | tunnel t => exact List.count_eq_zero.mp (htunnels _ ⟨t, hx, rfl⟩) hmem
      | mapping m => exact hmappings ⟨m, hx, (List.mem_singleton.mp hmem).symm⟩
      | resolvedGgsn g => exact hresolved ⟨g, hx, (List.mem_singleton.mp hmem).symm⟩
      | pendingDelete pd => exact List.not_mem_nil hmem
      | ggsnLookup id => exact List.not_mem_nil hmem
    · exact hproxy hp
  · intro hnot
    refine ⟨⟨⟨?_, ?_⟩, ?_⟩, fun hp ↦ hnot (.inr hp)⟩
    · rintro _ ⟨t, ht, rfl⟩
      exact List.count_eq_zero.mpr fun hmem ↦ hnot (.inl ⟨.tunnel t, ht, hmem⟩)
    · rintro ⟨m, hm, rfl⟩
      exact hnot (.inl ⟨.mapping m, hm, List.mem_singleton_self _⟩)
    · rintro ⟨g, hg, rfl⟩
      exact hnot (.inl ⟨.resolvedGgsn g, hg, List.mem_singleton_self _⟩)

/-- A sum over different tunnels of which one changes. -/
theorem sum_map_change {l : List ℕ} {t : ℕ} {f g : ℕ → ℕ} (hnd : l.Nodup) (ht : t ∈ l)
    (hsame : ∀ t' ∈ l, t' ≠ t → g t' = f t') : (l.map g).sum + f t = (l.map f).sum + g t := by
  have hrest : (l.erase t).map g = (l.erase t).map f := by
    refine List.map_congr_left fun t' ht' ↦ ?_
    obtain ⟨hne, hmem⟩ := hnd.mem_erase_iff.mp ht'
    exact hsame t' hmem hne
  rw [← List.sum_map_erase g ht, ← List.sum_map_erase f ht, hrest]
  omega

theorem count_map_erase {α : Type} [DecidableEq α] {l : List α} {a : α} (ha : a ∈ l)
    (f : α → PeerPort) (pp : PeerPort) :
    ((l.erase a).map f).count pp + [f a].count pp = (l.map f).count pp := by
  have hperm := (List.perm_cons_erase ha).map f
  rw [hperm.count_eq]
  simp only [List.map_cons, List.count_cons, List.count_nil, zero_add]

/-- An object that is dropped takes its references with it. -/
theorem Hub.refs_delItem {item : Item} (hl : h.Linked) (hlive : h.Live item) (pp : PeerPort) :
    (h.delItem item).refs pp + (h.itemPeers item).count pp = h.refs pp := by
  unfold Hub.refs Hub.proxyPeers
  rw [Hub.delItem_proxy, Hub.delItem_tunnels, Hub.delItem_mappings, Hub.delItem_resolvedGgsns]
  cases item with
  | tunnel t =>
    have hothers :
        ((h.tunnels.erase t).map fun t' ↦ ((h.delItem (.tunnel t)).tun t').peers.count pp) =
          (h.tunnels.erase t).map fun t' ↦ (h.tun t').peers.count pp := by
      refine List.map_congr_left fun t' ht' ↦ ?_
      have hne := (hl.tunnels.mem_erase_iff.mp ht').1
      rw [show (h.delItem (.tunnel t)).tun t' = h.tun t' from Hub.dropTunnel_tun _ _ hne]
    have hsum := List.sum_map_erase (fun t' ↦ (h.tun t').peers.count pp) hlive
    simp only at hsum ⊢
    rw [hothers, Hub.itemPeers]
    omega
  | mapping m =>
    have hcount := count_map_erase hlive NrMapping.origin pp
    simp only [Hub.itemPeers]
    rw [show (h.delItem (.mapping m)).tun = h.tun from rfl]
    omega
  | resolvedGgsn g =>
    have hcount := count_map_erase hlive ResolvedGgsn.peer pp
    simp only [Hub.itemPeers]
    rw [show (h.delItem (.resolvedGgsn g)).tun = h.tun from rfl]
    omega
  | pendingDelete pd => rfl
  | ggsnLookup id => rfl

theorem Hub.delItem_refCount (item : Item) :
    (h.delItem item).refCount pp = h.refCount pp - (h.itemPeers item).count pp := by
  cases item with
  | tunnel t =>
    rw [Hub.delItem_tunnel]
    rfl
  | _ => rfl

/-- The ports of a tunnel of which one endpoint changes. -/
theorem Hub.count_rePeer_peers (h : Hub) (t : ℕ) (s : Side) (p : Plane) (new : Option PeerPort)
    (pp : PeerPort) :
    ((h.rePeer t s p new).tun t).peers.count pp + ((h.tun t).endpoint s p).peer.toList.count pp =
      (h.tun t).peers.count pp + new.toList.count pp := by
  have hset (s' : Side) (p' : Plane) : (((h.rePeer t s p new).tun t).endpoint s' p').peer =
      if s' = s ∧ p' = p then new else ((h.tun t).endpoint s' p').peer := by
    rw [show ((h.rePeer t s p new).tun t).endpoint s' p' =
      ((h.setPeer t s p new).tun t).endpoint s' p' from rfl, Hub.setPeer_peer]
    simp
  unfold Tunnel.peers
  simp only [hset, List.count_append]
  cases s <;> cases p <;> simp <;> omega

theorem Hub.refs_rePeer {t : ℕ} (hl : h.Linked) (ht : t ∈ h.tunnels) (s : Side) (p : Plane)
    (new : Option PeerPort) (pp : PeerPort) :
    (h.rePeer t s p new).refs pp + ((h.tun t).endpoint s p).peer.toList.count pp =
      h.refs pp + new.toList.count pp := by
  have hsum := sum_map_change (f := fun t' ↦ (h.tun t').peers.count pp)
    (g := fun t' ↦ ((h.rePeer t s p new).tun t').peers.count pp) hl.tunnels ht fun t' _ hne ↦ by
      rw [show (h.rePeer t s p new).tun t' = h.tun t' from Function.update_of_ne hne _ _]
  have hpeers := h.count_rePeer_peers t s p new pp
  unfold Hub.refs
  rw [show (h.rePeer t s p new).tunnels = h.tunnels from rfl,
    show (h.rePeer t s p new).mappings = h.mappings from rfl,
    show (h.rePeer t s p new).resolvedGgsns = h.resolvedGgsns from rfl,
    show (h.rePeer t s p new).proxyPeers = h.proxyPeers from rfl]
  omega

theorem Hub.refs_addTunnel {t : ℕ} (ht : t ∉ h.tunnels) : (h.addTunnel t).refs pp = h.refs pp := by
  unfold Hub.refs
  have hothers : (h.tunnels.map fun t' ↦ ((h.addTunnel t).tun t').peers.count pp) =
      h.tunnels.map fun t' ↦ (h.tun t').peers.count pp := by
    refine List.map_congr_left fun t' ht' ↦ ?_
    rw [Hub.addTunnel_tun (ne_of_mem_of_not_mem ht' ht)]
  have hnew : ((h.addTunnel t).tun t).peers.count pp = 0 := by simp [Tunnel.peers]
  rw [show (h.addTunnel t).tunnels = t :: h.tunnels from rfl, List.map_cons, List.sum_cons, hnew,
    hothers, zero_add]
  rfl

/-- Every step keeps the counts exact. -/
theorem Hub.Exact.step (hstep : HubStep lib G now h h') (hl : h.Linked) (hx : h.Exact) :
    h'.Exact := by
  intro pp
  have hpp := hx pp
  cases hstep with
  | portNew a port ha hnew =>
    have hrefs : (h.addPort (a.newPort lib port)).refs pp = h.refs pp := rfl
    rw [hrefs]
    by_cases heq : pp = a.newPort lib port
    · -- nothing refers to a port that is not listed
      have hnone : ¬ h.Refers pp := by
        intro hrefers
        refine hnew pp (hl.ports pp hrefers) ?_
        rw [heq]
        exact ⟨rfl, rfl, rfl, rfl, rfl⟩
      rw [Hub.refs_eq_zero_iff.mpr hnone, heq]
      exact Function.update_self _ _ _
    · rw [← hpp]
      exact Function.update_of_ne heq _ _
  | touch item items hlive _ hadd =>
    cases item.exq <;> exact hpp
  | delItem item hlive =>
    have hrefs := Hub.refs_delItem hl hlive pp
    rw [Hub.delItem_refCount]
    omega
  | rePeer t s p new ht hnew =>
    have hrefs := Hub.refs_rePeer hl ht s p new pp
    have hcount : (h.rePeer t s p new).refCount pp =
        h.refCount pp - ((h.tun t).endpoint s p).peer.toList.count pp + new.toList.count pp := rfl
    have hle : ((h.tun t).endpoint s p).peer.toList.count pp ≤ h.refs pp := by
      have hclear := Hub.refs_rePeer hl ht s p none pp
      rw [Option.toList_none, List.count_nil] at hclear
      omega
    omega
  | mappingNew toPort origin orig items hto horigin hnew hadd =>
    have hcount : (h.addMapping (h.newMapping toPort.peer origin orig) items).refCount pp =
        h.refCount pp + [origin].count pp := rfl
    have hmap : ((h.mappings ++ [h.newMapping toPort.peer origin orig]).map
        NrMapping.origin).count pp = (h.mappings.map NrMapping.origin).count pp +
          [origin].count pp := by
      rw [List.map_append, List.count_append]
      rfl
    have hrefs : (h.addMapping (h.newMapping toPort.peer origin orig) items).refs pp =
        (h.tunnels.map fun t ↦ (h.tun t).peers.count pp).sum +
          ((h.mappings ++ [h.newMapping toPort.peer origin orig]).map NrMapping.origin).count pp +
            (h.resolvedGgsns.map ResolvedGgsn.peer).count pp + h.proxyPeers.count pp := rfl
    rw [hcount, hrefs, hmap, hpp, Hub.refs]
    omega
  | resolvedNew name q items _ hq hadd =>
    have hcount : (h.addResolved (h.newResolved name q) items).refCount pp =
        h.refCount pp + [q].count pp := rfl
    have hmap : ((h.newResolved name q :: h.resolvedGgsns).map ResolvedGgsn.peer).count pp =
        (h.resolvedGgsns.map ResolvedGgsn.peer).count pp + [q].count pp := by
      rw [List.map_cons, List.count_cons, List.count_singleton]
      rfl
    have hrefs : (h.addResolved (h.newResolved name q) items).refs pp =
        (h.tunnels.map fun t ↦ (h.tun t).peers.count pp).sum +
          (h.mappings.map NrMapping.origin).count pp +
            ((h.newResolved name q :: h.resolvedGgsns).map ResolvedGgsn.peer).count pp +
              h.proxyPeers.count pp := rfl
    rw [hcount, hrefs, hmap, hpp, Hub.refs]
    omega
  | tunnelNew choice =>
    rw [Hub.refs_addTunnel (tallocTunnel_notMem choice h.tunnels), ← hpp]
    rfl
  | setTeiOrig t s p tei ht =>
    have hrefs : (h.setTeiOrig t s p tei).refs pp = h.refs pp := by
      unfold Hub.refs
      simp only [Hub.setTeiOrig_peers]
      rfl
    rw [hrefs, ← hpp]
    rfl
  | setTeiRepl t tei ht =>
    have hrefs : (h.setTeiRepl t tei).refs pp = h.refs pp := by
      unfold Hub.refs Tunnel.peers
      simp only [Hub.setTeiRepl_endpoint]
      rfl
    rw [hrefs, ← hpp]
    rfl
  | _ => exact hpp

end Count

/-! ## Owners

A port is listed under an address, an address under a peer, and a map of sequence numbers belongs
to a peer. -/

/-- The address that a port is listed under. -/
def PeerPort.address (pp : PeerPort) : PeerAddr := ⟨pp.side, pp.plane, pp.peer, pp.addr⟩

/-- The peer that an address is listed under. -/
def PeerAddr.owner (a : PeerAddr) : Peer := ⟨a.side, a.plane, a.peer⟩

/-- What is pointed to is there: the ports that are referred to, the address of a port, the peer of
an address, and the peer of a mapping. -/
structure Hub.Rooted (h : Hub) : Prop where
  ports : ∀ pp, 0 < h.refs pp → pp ∈ h.ports
  addrs : ∀ pp ∈ h.ports, pp.address ∈ h.addrs
  peers : ∀ a ∈ h.addrs, a.owner ∈ h.peers
  maps : ∀ m ∈ h.mappings, ∃ x ∈ h.peers, x.id = m.peer

/-- What every reachable hub meets. -/
structure Hub.Sound (h : Hub) : Prop where
  linked : h.Linked
  exact : h.Exact
  addrs : ∀ pp ∈ h.ports, pp.address ∈ h.addrs
  peers : ∀ a ∈ h.addrs, a.owner ∈ h.peers
  maps : ∀ m ∈ h.mappings, ∃ x ∈ h.peers, x.id = m.peer

section Sound

variable {h h' : Hub} {lib : Lib} {G : Prop} {now : ℕ}

theorem Hub.Sound.rooted (hs : h.Sound) : h.Rooted where
  ports pp hpp := by
    refine hs.linked.ports pp ?_
    by_contra hnot
    rw [Hub.refs_eq_zero_iff.mpr hnot] at hpp
    exact lt_irrefl _ hpp
  addrs := hs.addrs
  peers := hs.peers
  maps := hs.maps

/-- Mappings go, and nothing else changes. -/
theorem Hub.Sound.owners_of (hs : h.Sound) (hports : h'.ports = h.ports)
    (haddrs : h'.addrs = h.addrs)
    (hpeers : h'.peers = h.peers) (hmaps : h'.mappings ⊆ h.mappings) :
    (∀ pp ∈ h'.ports, pp.address ∈ h'.addrs) ∧ (∀ a ∈ h'.addrs, a.owner ∈ h'.peers) ∧
      ∀ m ∈ h'.mappings, ∃ x ∈ h'.peers, x.id = m.peer := by
  rw [hports, haddrs, hpeers]
  exact ⟨hs.addrs, hs.peers, fun m hm ↦ hs.maps m (hmaps hm)⟩

theorem Hub.Sound.step (hstep : HubStep lib G now h h') (hs : h.Sound) : h'.Sound := by
  have howners : (∀ pp ∈ h'.ports, pp.address ∈ h'.addrs) ∧ (∀ a ∈ h'.addrs, a.owner ∈ h'.peers) ∧
      ∀ m ∈ h'.mappings, ∃ x ∈ h'.peers, x.id = m.peer := by
    cases hstep with
    | peerNew s p addr hnew =>
      refine ⟨fun pp hpp ↦ List.mem_cons_of_mem _ (hs.addrs pp hpp), fun a ha ↦ ?_, fun m hm ↦ ?_⟩
      · rcases List.mem_cons.mp ha with rfl | ha
        · exact List.mem_cons_self
        · exact List.mem_cons_of_mem _ (hs.peers a ha)
      · obtain ⟨x, hx, hid⟩ := hs.maps m hm
        exact ⟨x, List.mem_cons_of_mem _ hx, hid⟩
    | portNew a port ha hnew =>
      refine ⟨fun pp hpp ↦ ?_, hs.peers, hs.maps⟩
      rcases List.mem_cons.mp hpp with rfl | hpp
      · exact ha
      · exact hs.addrs pp hpp
    | mappingNew toPort origin orig items hto horigin hnew hadd =>
      refine ⟨hs.addrs, hs.peers, fun m hm ↦ ?_⟩
      rcases List.mem_append.mp hm with hm | hm
      · exact hs.maps m hm
      · obtain rfl := List.mem_singleton.mp hm
        exact ⟨_, hs.peers _ (hs.addrs _ hto), rfl⟩
    | touch item items hlive _ hadd =>
      cases item.exq <;> exact ⟨hs.addrs, hs.peers, hs.maps⟩
    | delItem item hlive =>
      cases item with
      | tunnel t =>
        rw [Hub.delItem_tunnel]
        exact hs.owners_of rfl rfl rfl (List.Subset.refl _)
      | mapping m => exact hs.owners_of rfl rfl rfl List.erase_subset
      | pendingDelete pd => exact hs.owners_of rfl rfl rfl (List.Subset.refl _)
      | resolvedGgsn g => exact hs.owners_of rfl rfl rfl (List.Subset.refl _)
      | ggsnLookup id => exact hs.owners_of rfl rfl rfl (List.Subset.refl _)
    | _ => exact hs.owners_of rfl rfl rfl (List.Subset.refl _)
  exact ⟨hs.linked.step hstep, hs.exact.step hstep hs.linked, howners.1, howners.2.1, howners.2.2⟩

/-- The collection keeps what is referred to. -/
theorem Hub.Sound.gcBind (hs : h.Sound) (s : Side) (p : Plane) : (h.gtphubGcBind s p).Sound where
  linked := by
    have hlive (x : Item) : (h.gtphubGcBind s p).Live x ↔ h.Live x := by cases x <;> rfl
    have hpeers (x : Item) : (h.gtphubGcBind s p).itemPeers x = h.itemPeers x := by cases x <;> rfl
    have hexq (exq : Exq) : (h.gtphubGcBind s p).exq exq = h.exq exq := by cases exq <;> rfl
    refine ⟨hs.linked.tunnels, fun pp hpp ↦ ?_, fun exq ↦ ?_, fun exq e he ↦ ?_, fun exq e he ↦ ?_⟩
    · have hrefers : h.Refers pp := by
        rcases hpp with ⟨x, hx, hmem⟩ | hproxy
        · exact .inl ⟨x, (hlive x).mp hx, hpeers x ▸ hmem⟩
        · exact .inr hproxy
      refine List.mem_filter.mpr ⟨hs.linked.ports pp hrefers, decide_eq_true ?_⟩
      rintro ⟨-, -, hzero⟩
      rw [hs.exact pp] at hzero
      exact Hub.refs_eq_zero_iff.mp hzero hrefers
    · rw [hexq]
      exact hs.linked.items exq
    · rw [hexq] at he
      exact (hlive _).mpr (hs.linked.live exq e he)
    · rw [hexq] at he
      exact hs.linked.queue exq e he
  exact pp := hs.exact pp
  addrs pp hpp := by
    have hold : pp ∈ h.ports := (List.mem_filter.mp hpp).1
    refine List.mem_filter.mpr ⟨hs.addrs pp hold, decide_eq_true ?_⟩
    rintro ⟨hside, hplane, hnone⟩
    exact hnone pp hpp ⟨hside, hplane, rfl, rfl⟩
  peers a ha := by
    have hold : a ∈ h.addrs := (List.mem_filter.mp ha).1
    refine List.mem_filter.mpr ⟨hs.peers a hold, decide_eq_true ?_⟩
    rintro ⟨-, -, hnone, -⟩
    exact hnone a ha rfl
  maps m hm := by
    obtain ⟨x, hx, hid⟩ := hs.maps m hm
    refine ⟨x, List.mem_filter.mpr ⟨hx, decide_eq_true ?_⟩, hid⟩
    rintro ⟨-, -, -, hnone⟩
    exact hnone m hm hid.symm

theorem Hub.Sound.gcBinds (hs : h.Sound) : h.gtphubGcBinds.Sound :=
  (((hs.gcBind .sgsn .ctrl).gcBind .sgsn .user).gcBind .ggsn .ctrl).gcBind .ggsn .user

theorem Hub.Sound.delItem {item : Item} (hs : h.Sound) (hlive : h.Live item) :
    (h.delItem item).Sound := by
  -- of which libraries there are, this step knows nothing
  have hstep : HubStep exampleLib False 0 h (h.delItem item) := .delItem h item hlive
  exact hs.step hstep

theorem HubSteps.sound (hsteps : HubSteps lib G now h h') (hs : h.Sound) : h'.Sound :=
  hsteps.invariant (fun _ _ hstep hs ↦ hs.step hstep) hs

/-- What every step from a sound hub keeps, a walk keeps. -/
theorem HubSteps.keep {Inv : Hub → Prop}
    (hstep : ∀ h h', HubStep lib G now h h' → h.Sound → Inv h → Inv h')
    (hsteps : HubSteps lib G now h h') (hs : h.Sound) (hi : Inv h) : Inv h' := by
  induction hsteps with
  | refl => exact hi
  | tail hsteps hlast ih => exact hstep _ _ hlast (HubSteps.sound hsteps hs) ih

theorem Handles.sound {e : HubEvent} (hh : Handles lib e h h') (hs : h.Sound) : h'.Sound := by
  obtain ⟨h₁, h₂, hsteps₁, hsteps₂, rfl | rfl⟩ := hh.walks
  · exact hsteps₂.sound (hsteps₁.sound hs)
  · exact (hsteps₂.sound (hsteps₁.sound hs)).gcBinds

/-- A count is never taken below zero. -/
theorem Trips.ne_refCountZero (hs : h.Sound) : ¬ Trips now h .refCountZero := by
  rintro (⟨item, hlive, pp, hshort⟩ | _)
  have hrefs := Hub.refs_delItem hs.linked hlive pp
  rw [hs.exact pp] at hshort
  omega

theorem FaultsIn.ne_refCountZero {e : HubEvent} {P : Fault → Prop} (hs : h.Sound)
    (hP : ¬ P .refCountZero) : ¬ FaultsIn lib e P h .refCountZero := by
  rintro (⟨h₁, hsteps₁, htrips | ⟨h₂, hsteps₂, htrips⟩⟩ | hf)
  · exact Trips.ne_refCountZero (hsteps₁.sound hs) htrips
  · exact Trips.ne_refCountZero (hsteps₂.sound (hsteps₁.sound hs)) htrips
  · exact hP hf

end Sound

/-! ## Starting -/

section Start

variable {h : Hub} {lib : Lib} {cfg : HubCfg}

theorem gtphubInit_sound (cfg : HubCfg) : (gtphubInit cfg).Sound where
  linked := by
    refine ⟨.nil, fun pp hpp ↦ ?_, fun exq ↦ ?_, fun exq e he ↦ ?_, fun exq e he ↦ ?_⟩
    · rcases hpp with ⟨x, hx, -⟩ | ⟨s, p, hproxy⟩
      · cases x <;> simp [Hub.Live, gtphubInit] at hx
      · simp [gtphubInit] at hproxy
    · cases exq <;> exact List.nodup_nil
    · cases exq <;> simp [Hub.exq, gtphubInit] at he
    · cases exq <;> simp [Hub.exq, gtphubInit] at he
  exact pp := rfl
  addrs pp hpp := by simp [gtphubInit] at hpp
  peers a ha := by simp [gtphubInit] at ha
  maps m hm := by simp [gtphubInit] at hm

/-- A proxy for a slot, with its reference. -/
def Hub.setProxy (h : Hub) (s : Side) (p : Plane) (pp : PeerPort) : Hub :=
  ({ h with proxy := fun s' p' ↦ if s' = s ∧ p' = p then some pp else h.proxy s' p' } : Hub).ref
    [pp]

theorem Hub.Sound.setProxy {s : Side} {p : Plane} {pp : PeerPort} (hs : h.Sound)
    (hnone : h.proxy s p = none) (hpp : pp ∈ h.ports) : (h.setProxy s p pp).Sound where
  linked := by
    have hlive (x : Item) : (h.setProxy s p pp).Live x ↔ h.Live x := by cases x <;> rfl
    have hpeers (x : Item) : (h.setProxy s p pp).itemPeers x = h.itemPeers x := by cases x <;> rfl
    have hexq (exq : Exq) : (h.setProxy s p pp).exq exq = h.exq exq := by cases exq <;> rfl
    refine ⟨hs.linked.tunnels, fun q hq ↦ ?_, fun exq ↦ ?_, fun exq e he ↦ ?_, fun exq e he ↦ ?_⟩
    · rcases hq with ⟨x, hx, hmem⟩ | ⟨s', p', hq⟩
      · exact hs.linked.ports q (.inl ⟨x, (hlive x).mp hx, hpeers x ▸ hmem⟩)
      · rw [show (h.setProxy s p pp).proxy s' p' =
          if s' = s ∧ p' = p then some pp else h.proxy s' p' from rfl] at hq
        split at hq
        · cases hq
          exact hpp
        · exact hs.linked.ports q (.inr ⟨s', p', hq⟩)
    · rw [hexq]
      exact hs.linked.items exq
    · rw [hexq] at he
      exact (hlive _).mpr (hs.linked.live exq e he)
    · rw [hexq] at he
      exact hs.linked.queue exq e he
  exact q := by
    have hcount : (h.setProxy s p pp).proxyPeers.count q = h.proxyPeers.count q + [pp].count q := by
      simp only [Hub.proxyPeers, Hub.setProxy, Hub.ref, List.count_append]
      cases s <;> cases p <;> simp [hnone] <;> omega
    have hrefs : (h.setProxy s p pp).refs q = h.refs q + [pp].count q := by
      unfold Hub.refs
      rw [hcount]
      exact (Nat.add_assoc _ _ _).symm
    rw [hrefs, ← hs.exact q]
    rfl
  addrs := hs.addrs
  peers := hs.peers
  maps := hs.maps

/-- A slot of the hub after its proxy was made, if it has one. -/
theorem wp_makeProxy {Inv : Hub → Prop} (s : Side) (p : Plane)
    (hstep : ∀ h h', HubStep lib False 0 h h' → h.Sound → Inv h → Inv h')
    (hset : ∀ h s p pp, h.Sound → Inv h → Inv (h.setProxy s p pp)) (hs : h.Sound) (hi : Inv h)
    (hnone : h.proxy s p = none) :
    wp (gtphubMakeProxy lib cfg s p) (fun _ h' ↦ h'.Sound ∧ Inv h' ∧
      ∀ s' p', ¬ (s' = s ∧ p' = p) → h'.proxy s' p' = h.proxy s' p') (fun _ _ ↦ True) h := by
  unfold gtphubMakeProxy
  cases cfg.proxy s p with
  | none => exact ⟨hs, hi, fun _ _ _ ↦ rfl⟩
  | some sa =>
    dsimp only
    rw [wp_bind]
    have hwalk : Walks lib False 0 (fun _ ↦ True) (gtphubPortHave lib s p sa.addr sa.port) _ h :=
      walks_portHave fun _ ↦ trivial
    refine wp_mono hwalk ?_ fun _ _ _ ↦ trivial
    rintro pp h₁ ⟨hsteps, ⟨hpp, -⟩, -⟩
    rw [wp_bind, wp_modify]
    refine wp_mono (wp_refCountInc pp) ?_ fun _ _ _ ↦ trivial
    rintro _ h₂ rfl
    have hproxy := hsteps.proxy_eq
    have hs₁ := hsteps.sound hs
    have hi₁ := hsteps.keep hstep hs hi
    refine ⟨hs₁.setProxy (hproxy ▸ hnone) hpp, hset h₁ s p pp hs₁ hi₁, fun s' p' hne ↦ ?_⟩
    rw [← hproxy]
    exact if_neg hne

/-- What the steps and the making of a proxy keep holds when the hub has started. -/
theorem gtphubStart_invariant (Inv : Hub → Prop) {h₀ : Hub}
    (hstep : ∀ h h', HubStep lib False 0 h h' → h.Sound → Inv h → Inv h')
    (hset : ∀ h s p pp, h.Sound → Inv h → Inv (h.setProxy s p pp)) (hinit : Inv (gtphubInit cfg))
    (hstart : gtphubStart lib cfg (gtphubInit cfg) = .ok () h₀) : h₀.Sound ∧ Inv h₀ := by
  have hwp : wp (gtphubStart lib cfg) (fun _ h' ↦ h'.Sound ∧ Inv h') (fun _ _ ↦ True)
      (gtphubInit cfg) := by
    unfold gtphubStart
    rw [wp_bind]
    refine wp_mono (wp_makeProxy .sgsn .ctrl hstep hset (gtphubInit_sound cfg) hinit rfl) ?_
      fun _ _ _ ↦ trivial
    rintro _ h₁ ⟨hs₁, hi₁, hp₁⟩
    rw [wp_bind]
    refine wp_mono (wp_makeProxy .sgsn .user hstep hset hs₁ hi₁ ?_) ?_ fun _ _ _ ↦ trivial
    · rw [hp₁ _ _ (by simp)]
      rfl
    rintro _ h₂ ⟨hs₂, hi₂, hp₂⟩
    rw [wp_bind]
    refine wp_mono (wp_makeProxy .ggsn .ctrl hstep hset hs₂ hi₂ ?_) ?_ fun _ _ _ ↦ trivial
    · rw [hp₂ _ _ (by simp), hp₁ _ _ (by simp)]
      rfl
    rintro _ h₃ ⟨hs₃, hi₃, hp₃⟩
    refine wp_mono (wp_makeProxy .ggsn .user hstep hset hs₃ hi₃ ?_) ?_ fun _ _ _ ↦ trivial
    · rw [hp₃ _ _ (by simp), hp₂ _ _ (by simp), hp₁ _ _ (by simp)]
      rfl
    rintro _ h₄ ⟨hs₄, hi₄, -⟩
    exact ⟨hs₄, hi₄⟩
  exact wp_ok hwp hstart

theorem gtphubStart_sound {h₀ : Hub} (hstart : gtphubStart lib cfg (gtphubInit cfg) = .ok () h₀) :
    h₀.Sound :=
  (gtphubStart_invariant (fun _ ↦ True) (fun _ _ _ _ _ ↦ trivial)
    (fun _ _ _ _ _ _ ↦ trivial) trivial hstart).1

end Start

/-! ## Runs -/

/-- A system that meets an invariant, or has ended with a fault that is not among some. -/
def System.Keeps (Inv : Hub → Prop) (P : Fault → Prop) (s : System) : Prop :=
  match s.fault with
  | none => Inv s.hub
  | some f => P f

theorem System.Keeps.inv {Inv : Hub → Prop} {P : Fault → Prop} {s : System} (hs : s.Keeps Inv P)
    (hrun : s.fault = none) : Inv s.hub := by
  rw [System.Keeps, hrun] at hs
  exact hs

section Run

variable {lib : Lib}

theorem run_of_fault {s : System} {f : Fault} (hs : s.fault = some f) (es : List HubEvent) :
    (hubMachine lib).run s es = s := by
  induction es with
  | nil => rfl
  | cons e es ih =>
    have hstep : ((hubMachine lib).step s e).1 = s := by simp only [hubMachine, hs]
    rw [Machine.run_cons, hstep, ih]

/-- A hub that runs has run before. -/
theorem fault_of_append {s : System} {es es' : List HubEvent}
    (hrun : ((hubMachine lib).run s (es ++ es')).fault = none) :
    ((hubMachine lib).run s es).fault = none := by
  rw [Machine.run_append] at hrun
  cases hf : ((hubMachine lib).run s es).fault with
  | none => rfl
  | some f =>
    rw [run_of_fault hf, hf] at hrun
    exact absurd hrun (Option.some_ne_none f)

/-- What holds after an event was handled, holds of a system after it. -/
theorem System.Keeps.step {Inv Inv' : Hub → Prop} {P : Fault → Prop} {e : HubEvent}
    (he : ∀ h, Inv h → wp (e.handle lib) (fun _ h' ↦ Inv' h') (fun f _ ↦ P f) h) (s : System)
    (hs : s.Keeps Inv P) : ((hubMachine lib).step s e).1.Keeps Inv' P := by
  obtain ⟨h, fault⟩ := s
  cases fault with
  | some f => exact hs
  | none =>
    have hwp := he h hs
    unfold wp at hwp
    simp only [hubMachine]
    cases hr : e.handle lib h with
    | ok v h' =>
      rw [hr] at hwp
      exact hwp
    | error f h' =>
      rw [hr] at hwp
      exact hwp

theorem sound_handle {P : Fault → Prop} {h : Hub} (e : HubEvent) (hs : h.Sound)
    (hperm : e.Permitted P lib h) (hP : ¬ P .refCountZero) :
    wp (e.handle lib) (fun _ h' ↦ h'.Sound) (fun f _ ↦ f ≠ .refCountZero) h := by
  refine wp_mono (walks_handle e hs.linked hperm) (fun _ h' hh ↦ hh.sound hs) fun f _ hf ↦ ?_
  rintro rfl
  exact FaultsIn.ne_refCountZero hs hP hf

/-- **Reference counts are exact.** In every run of the hub from its start, no count is taken below
zero, and as long as the hub runs each port counts what refers to it, and what is referred to is
there: ports, the addresses of ports, and the peers of addresses and of maps. -/
theorem reference_counts_exact (lib : Lib) (cfg : HubCfg) (h₀ : Hub) (es : List HubEvent)
    (hstart : gtphubStart lib cfg (gtphubInit cfg) = .ok () h₀) :
    ((hubMachine lib).run ⟨h₀, none⟩ es).fault ≠ some .refCountZero ∧
      (((hubMachine lib).run ⟨h₀, none⟩ es).fault = none →
        (∀ pp, ((hubMachine lib).run ⟨h₀, none⟩ es).hub.refCount pp =
          ((hubMachine lib).run ⟨h₀, none⟩ es).hub.refs pp) ∧
        ((hubMachine lib).run ⟨h₀, none⟩ es).hub.Rooted) := by
  have hkeeps : ((hubMachine lib).run ⟨h₀, none⟩ es).Keeps Hub.Sound (· ≠ .refCountZero) := by
    refine Machine.invariant_run (fun _ _ ↦ True) _ (fun s e hs _ ↦ ?_) (gtphubStart_sound hstart)
      (Machine.meets_of_forall (fun _ _ ↦ trivial) _ es)
    refine System.Keeps.step (fun h hh ↦ ?_) s hs
    exact sound_handle e hh (permitted_other e) fun hf ↦ hf.1 rfl
  generalize (hubMachine lib).run ⟨h₀, none⟩ es = s at hkeeps
  obtain ⟨h, fault⟩ := s
  cases fault with
  | some f => exact ⟨fun heq ↦ hkeeps (Option.some.inj heq), fun hnone ↦ by simp at hnone⟩
  | none => exact ⟨by simp, fun _ ↦ ⟨hkeeps.exact, hkeeps.rooted⟩⟩

/-- The hub of the example after a tunnel was made: it runs, and its counts are exact. -/
theorem example_tunnel_counts_exact :
    (exampleRun [exampleResolved, .rx (exampleCreateReq 1 0x11 0x22 7)]).fault = none ∧
      (exampleRun [exampleResolved, .rx (exampleCreateReq 1 0x11 0x22 7)]).hub.tunnels = [7] ∧
        ∀ pp, (exampleRun [exampleResolved, .rx (exampleCreateReq 1 0x11 0x22 7)]).hub.refCount pp =
          (exampleRun [exampleResolved, .rx (exampleCreateReq 1 0x11 0x22 7)]).hub.refs pp := by
  have hexact : ∀ es, (exampleRun es).fault = none →
      ∀ pp, (exampleRun es).hub.refCount pp = (exampleRun es).hub.refs pp := fun es hrun ↦
    ((reference_counts_exact exampleLib exampleCfg (gtphubInit exampleCfg) es rfl).2 hrun).1
  have hrun :
      (exampleRun [exampleResolved, .rx (exampleCreateReq 1 0x11 0x22 7)]).fault = none := by
    decide +kernel
  exact ⟨hrun, by decide +kernel, hexact _ hrun⟩

end Run

end OsmoSgsn.Gtphub
