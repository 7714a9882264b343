import OsmoSgsn.Gtphub.Tei

/-!
# What the hub can do

The code changes the hub in few ways: a peer or a port is made, an object is made, queued anew or
dropped, an endpoint gets another port, a number is drawn, something is recorded. `HubStep` lists
these ways, each with what the code has made sure of. Every call of the hub is a walk of such steps,
so a property of all reachable hubs is one that every step keeps.
-/

open EStateM

namespace OsmoSgsn.Gtphub

/-! ## Objects and references -/

/-- The ports of the endpoints of a tunnel. -/
def Tunnel.peers (tn : Tunnel) : List PeerPort :=
  (tn.endpoint .sgsn .ctrl).peer.toList ++ (tn.endpoint .sgsn .user).peer.toList ++
    (tn.endpoint .ggsn .ctrl).peer.toList ++ (tn.endpoint .ggsn .user).peer.toList

/-- The queue that an item belongs in. -/
def Item.exq : Item → Exq
  | .tunnel _ | .resolvedGgsn _ => .slowly
  | .mapping _ | .pendingDelete _ | .ggsnLookup _ => .quickly

namespace Hub

/-- An object is allocated. -/
def Live (h : Hub) : Item → Prop
  | .tunnel t => t ∈ h.tunnels
  | .mapping m => m ∈ h.mappings
  | .pendingDelete pd => pd ∈ h.pendingDeletes
  | .resolvedGgsn g => g ∈ h.resolvedGgsns
  | .ggsnLookup id => ∃ l ∈ h.ggsnLookups, l.id = id

/-- The ports that an object holds a reference to. -/
def itemPeers (h : Hub) : Item → List PeerPort
  | .tunnel t => (h.tun t).peers
  | .mapping m => [m.origin]
  | .resolvedGgsn g => [g.peer]
  | .pendingDelete _ | .ggsnLookup _ => []

/-- References that are dropped. -/
def unref (h : Hub) (l : List PeerPort) : Hub :=
  { h with refCount := fun pp ↦ h.refCount pp - l.count pp }

/-- References that are taken. -/
def ref (h : Hub) (l : List PeerPort) : Hub :=
  { h with refCount := fun pp ↦ h.refCount pp + l.count pp }

/-- Another port for an endpoint of a tunnel, with the references. -/
def rePeer (h : Hub) (t : ℕ) (s : Side) (p : Plane) (pp : Option PeerPort) : Hub :=
  ((h.unref ((h.tun t).endpoint s p).peer.toList).setPeer t s p pp).ref pp.toList

/-- An object is taken out of the queues. -/
def dequeue (h : Hub) (item : Item) : Hub :=
  { h with
    expireQuickly := Expiring.remove h.expireQuickly item
    expireSlowly := Expiring.remove h.expireSlowly item }

/-- An object is dropped, with its references. -/
def delItem (h : Hub) (item : Item) : Hub :=
  ((h.dequeue item).unref (h.itemPeers item)).dropItem item

theorem ref_nil (h : Hub) : h.ref [] = h := rfl

theorem unref_nil (h : Hub) : h.unref [] = h := rfl

theorem unref_unref (h : Hub) (l l' : List PeerPort) :
    (h.unref l).unref l' = h.unref (l ++ l') := by
  simp only [unref, List.count_append, Nat.sub_sub]

theorem setPeer_eq (h : Hub) (t : ℕ) (s : Side) (p : Plane) (pp : Option PeerPort) :
    h.setPeer t s p pp = { h with tun := (h.setPeer t s p pp).tun } := rfl

/-- The end of a tunnel changes no other fields. -/
theorem dropTunnel_eq (h : Hub) (t : ℕ) : h.dropTunnel t =
    { h with tunnels := h.tunnels.erase t, tun := (h.dropTunnel t).tun } := by
  unfold dropTunnel
  generalize hk : ({ h with tunnels := h.tunnels.erase t } : Hub) = k
  generalize hk₁ : k.setPeer t .sgsn .ctrl none = k₁
  generalize hk₂ : k₁.setPeer t .sgsn .user none = k₂
  generalize hk₃ : k₂.setPeer t .ggsn .ctrl none = k₃
  rw [setPeer_eq k₃, ← hk₃, setPeer_eq k₂, ← hk₂, setPeer_eq k₁, ← hk₁, setPeer_eq k, ← hk]

theorem delItem_tunnel (h : Hub) (t : ℕ) : h.delItem (.tunnel t) =
    { (h.dequeue (.tunnel t)).unref (h.tun t).peers with
      tunnels := h.tunnels.erase t, tun := (h.delItem (.tunnel t)).tun } := dropTunnel_eq _ _

end Hub

section Small

variable {h h' : Hub} {pp : PeerPort}

theorem wp_refCountDec (pp : PeerPort) :
    wp (gtphubPortRefCountDec pp) (fun _ h' ↦ h' = h.unref [pp])
      (fun f _ ↦ f = .refCountZero ∧ h.refCount pp = 0) h := by
  unfold gtphubPortRefCountDec
  rw [wp_bind, wp_get]
  split
  · rw [wp_set, Hub.unref]
    congr 1
    funext q
    by_cases hq : q = pp
    · simp [hq]
    · simp [Function.update_of_ne hq, Ne.symm hq]
  · next hzero =>
    rw [wp_throw]
    exact ⟨rfl, Nat.eq_zero_of_not_pos hzero⟩

theorem wp_refCountInc (pp : PeerPort) :
    wp (gtphubPortRefCountInc pp) (fun _ h' ↦ h' = h.ref [pp]) (fun f _ ↦ f = .refCountMax) h := by
  unfold gtphubPortRefCountInc
  rw [wp_bind, wp_get]
  split
  · rw [wp_set, Hub.ref]
    congr 1
    funext q
    by_cases hq : q = pp
    · simp [hq]
    · simp [Function.update_of_ne hq, Ne.symm hq]
  · rw [wp_throw]

theorem wp_setPeer (t : ℕ) (s : Side) (p : Plane) (pp : Option PeerPort) :
    wp (gtphubTunnelEndpointSetPeer t s p pp) (fun _ h' ↦ h' = h.rePeer t s p pp)
      (fun f _ ↦ (f = .refCountZero ∧ ∃ old ∈ ((h.tun t).endpoint s p).peer, h.refCount old = 0) ∨
        (f = .refCountMax ∧ pp ≠ none)) h := by
  unfold gtphubTunnelEndpointSetPeer
  rw [wp_bind, wp_get]
  simp only
  rw [wp_bind]
  refine wp_mono (?_ : wp _
    (fun _ h' ↦ h' = h.unref ((h.tun t).endpoint s p).peer.toList)
    (fun f _ ↦ f = .refCountZero ∧ ∃ old ∈ ((h.tun t).endpoint s p).peer, h.refCount old = 0) h)
    ?_ fun f _ hf ↦ .inl hf
  · -- the old peer loses a reference
    cases hpeer : ((h.tun t).endpoint s p).peer with
    | none => exact (Hub.unref_nil h).symm
    | some old =>
      refine wp_mono (wp_refCountDec old) (fun _ _ heq ↦ heq) fun f _ hf ↦ ?_
      exact ⟨hf.1, old, rfl, hf.2⟩
  rintro _ h₁ rfl
  rw [wp_bind, wp_modify]
  cases pp with
  | none => exact (Hub.ref_nil _).symm
  | some new =>
    refine wp_mono (wp_refCountInc new) (fun _ _ heq ↦ heq) fun f _ hf ↦ .inr ⟨hf, ?_⟩
    exact Option.some_ne_none new

/-- A port has fewer references than an object holds to it. -/
def Hub.Short (h : Hub) (l : List PeerPort) : Prop := ∃ pp, h.refCount pp < l.count pp

/-- The next endpoint of a tunnel that ends, after some references were dropped. -/
theorem wp_clearPeer {k : Hub} {l l' : List PeerPort} {pe : Option PeerPort} (t : ℕ) (s : Side)
    (p : Plane) (hpe : ((k.tun t).endpoint s p).peer = pe) (hl : (l ++ pe.toList).Sublist l') :
    wp (gtphubTunnelEndpointSetPeer t s p none)
      (fun _ h' ↦ h' = (k.setPeer t s p none).unref (l ++ pe.toList))
      (fun f _ ↦ f = .refCountZero ∧ k.Short l') (k.unref l) := by
  subst hpe
  refine wp_mono (wp_setPeer t s p none) ?_ ?_
  · rintro _ h₁ rfl
    rw [← Hub.unref_unref]
    rfl
  · rintro f _ (⟨hf, old, hold, hzero⟩ | hf)
    · refine ⟨hf, old, lt_of_lt_of_le ?_ (hl.count_le old)⟩
      have hle : k.refCount old ≤ l.count old := Nat.le_of_sub_eq_zero hzero
      have hpeer : ((k.tun t).endpoint s p).peer = some old := hold
      rw [hpeer, Option.toList_some, List.count_append, List.count_singleton_self]
      exact Nat.lt_succ_of_le hle
    · exact absurd rfl hf.2

theorem wp_tunnelDelCb (t : ℕ) :
    wp (gtphubTunnelDelCb t) (fun _ h' ↦ h' = (h.unref (h.tun t).peers).dropTunnel t)
      (fun f _ ↦ f = .refCountZero ∧ h.Short (h.tun t).peers) h := by
  unfold gtphubTunnelDelCb
  rw [wp_bind, wp_modify, wp_bind]
  let k : Hub := { h with tunnels := h.tunnels.erase t }
  -- the ports of the first one, two, three and four endpoints
  have hfirst {α : Type} (a b : List α) : a.Sublist (a ++ b) := List.sublist_append_left a b
  refine wp_mono (wp_clearPeer (k := k) (l := []) t .sgsn .ctrl rfl
    (((hfirst _ _).trans (hfirst _ _)).trans (hfirst _ _))) ?_ fun _ _ hf ↦ hf
  rintro _ h₁ rfl
  rw [wp_bind]
  refine wp_mono (wp_clearPeer t .sgsn .user (by simp; rfl) ((hfirst _ _).trans (hfirst _ _))) ?_
    fun _ _ hf ↦ hf
  rintro _ h₂ rfl
  rw [wp_bind]
  refine wp_mono (wp_clearPeer t .ggsn .ctrl (by simp; rfl) (hfirst _ _)) ?_ fun _ _ hf ↦ hf
  rintro _ h₃ rfl
  refine wp_mono (wp_clearPeer t .ggsn .user (by simp; rfl) (List.Sublist.refl _)) ?_
    fun _ _ hf ↦ hf
  rintro _ h₄ rfl
  rfl

/-- Dropping an object of any kind. -/
theorem wp_expiringItemDel (item : Item) :
    wp (expiringItemDel item) (fun _ h' ↦ h' = h.delItem item)
      (fun f _ ↦ f = .refCountZero ∧ h.Short (h.itemPeers item)) h := by
  unfold expiringItemDel
  rw [wp_bind, wp_modify]
  cases item with
  | tunnel t => exact wp_tunnelDelCb t
  | mapping m =>
    simp only [Item.delCb, gtphubMappingDelCb]
    rw [wp_bind, wp_modify]
    refine wp_mono (wp_refCountDec m.origin) (fun _ _ heq ↦ heq) fun f _ hf ↦ ⟨hf.1, m.origin, ?_⟩
    have hzero : h.refCount m.origin = 0 := hf.2
    rw [hzero, Hub.itemPeers, List.count_singleton_self]
    exact Nat.one_pos
  | pendingDelete pd => exact rfl
  | resolvedGgsn g =>
    simp only [Item.delCb, resolvedGssnDelCb]
    rw [wp_bind]
    refine wp_mono (wp_refCountDec g.peer) ?_ fun f _ hf ↦ ⟨hf.1, g.peer, ?_⟩
    · rintro _ h₁ rfl
      rfl
    · have hzero : h.refCount g.peer = 0 := hf.2
      rw [hzero, Hub.itemPeers, List.count_singleton_self]
      exact Nat.one_pos
  | ggsnLookup id => exact rfl

theorem wp_expiryAdd (exq : Exq) (item : Item) (now : ℕ) :
    wp (expiryAdd exq item now)
      (fun _ h' ↦ ∃ items, Expiring.add (h.exq exq) item (now + exq.seconds) = some items ∧
        h' = h.setExq items exq)
      (fun f _ ↦ f = .expiryOrder ∧
        Expiring.add (h.exq exq) item (now + exq.seconds) = none) h := by
  unfold expiryAdd
  rw [wp_bind, wp_get]
  cases hadd : Expiring.add (h.exq exq) item (now + exq.seconds) with
  | some items => exact ⟨items, rfl, rfl⟩
  | none => exact ⟨rfl, rfl⟩

end Small

/-! ## The steps -/

/-- A port of an address. -/
def PeerAddr.newPort (lib : Lib) (a : PeerAddr) (port : ℕ) : PeerPort :=
  ⟨a.side, a.plane, a.peer, a.addr, port, gsnAddrToSockaddr lib a.addr port⟩

namespace Hub

/-- A new peer with an address. -/
def addPeer (h : Hub) (s : Side) (p : Plane) (addr : GsnAddr) : Hub :=
  { h with
    peers := ⟨s, p, h.nextId⟩ :: h.peers
    addrs := ⟨s, p, h.nextId, addr⟩ :: h.addrs
    seqPool := Function.update h.seqPool h.nextId { nrPoolInit 0 0xffff with lastNr := 0x6d31 - 1 }
    nextId := h.nextId + 1 }

/-- A new port, without references and without a restart counter. -/
def addPort (h : Hub) (pp : PeerPort) : Hub :=
  { h with
    ports := pp :: h.ports
    refCount := Function.update h.refCount pp 0
    lastRestartCount := Function.update h.lastRestartCount pp none }

/-- The next number of the pool of a peer. -/
def drawSeq (h : Hub) (peer : ℕ) : Hub :=
  { h with seqPool := Function.update h.seqPool peer (nrPoolNext (h.seqPool peer)) }

/-- The mapping that is made for a number. -/
def newMapping (h : Hub) (peer : ℕ) (origin : PeerPort) (orig : ℕ) : NrMapping :=
  ⟨peer, origin, orig, (nrPoolNext (h.seqPool peer)).lastNr⟩

/-- A new mapping, in its map and in a queue. -/
def addMapping (h : Hub) (m : NrMapping) (items : List (Expiring Item)) : Hub :=
  (({ h.drawSeq m.peer with mappings := h.mappings ++ [m] } : Hub).setExq items .quickly).ref
    [m.origin]

/-- The resolved GGSN that is made for a name. -/
def newResolved (h : Hub) (name : Bytes) (pp : PeerPort) : ResolvedGgsn := ⟨h.nextId, name, pp⟩

/-- A new resolved GGSN, in its list and in a queue. -/
def addResolved (h : Hub) (g : ResolvedGgsn) (items : List (Expiring Item)) : Hub :=
  { (({ h with nextId := h.nextId + 1 } : Hub).ref [g.peer]).setExq items .slowly with
    resolvedGgsns := g :: h.resolvedGgsns }

/-- A new lookup. -/
def addLookup (h : Hub) (imsiStr apnNiStr apnOiStr : Bytes) : Hub :=
  { h with
    ggsnLookups := ⟨h.nextId, imsiStr, apnNiStr, apnOiStr, false⟩ :: h.ggsnLookups
    nextId := h.nextId + 1 }

/-- A tunnel was queued at a time, if it is queued at all. -/
def Fresh (h : Hub) (t now : ℕ) : Prop :=
  ∀ e ∈ h.expireSlowly, e.item = .tunnel t → now + Exq.slowly.seconds ≤ e.expiry

/-- The flag of a lookup is set. -/
def retryLookup (h : Hub) (id : ℕ) : Hub :=
  { h with ggsnLookups := h.ggsnLookups.map fun l ↦
      if l.id = id then { l with have3digMnc := true } else l }

end Hub

/-- What the code does to the hub at a time. Whether a GGSN may become resolved is a parameter. -/
inductive HubStep (lib : Lib) (G : Prop) (now : ℕ) : Hub → Hub → Prop
  /-- `gtphub_peer_new` and `gtphub_peer_add_addr` -/
  | peerNew (h : Hub) (s : Side) (p : Plane) (addr : GsnAddr)
      (hnew : h.gtphubAddrFind s p addr = none) : HubStep lib G now h (h.addPeer s p addr)
  /-- `gtphub_addr_add_port` -/
  | portNew (h : Hub) (a : PeerAddr) (port : ℕ) (ha : a ∈ h.addrs)
      (hnew : ∀ pp ∈ h.ports, ¬ pp.Of a port) : HubStep lib G now h (h.addPort (a.newPort lib port))
  /-- `expiry_add`, for an object that is there, other than a pending delete -/
  | touch (h : Hub) (item : Item) (items : List (Expiring Item)) (hlive : h.Live item)
      (hother : ∀ pd, item ≠ .pendingDelete pd)
      (hadd : Expiring.add (h.exq item.exq) item (now + item.exq.seconds) = some items) :
      HubStep lib G now h (h.setExq items item.exq)
  /-- `expiring_item_del` -/
  | delItem (h : Hub) (item : Item) (hlive : h.Live item) : HubStep lib G now h (h.delItem item)
  /-- `gtphub_tunnel_endpoint_set_peer` -/
  | rePeer (h : Hub) (t : ℕ) (s : Side) (p : Plane) (pp : Option PeerPort) (ht : t ∈ h.tunnels)
      (hpp : ∀ q ∈ pp, q ∈ h.ports) : HubStep lib G now h (h.rePeer t s p pp)
  /-- `gtphub_mapping_have`, for a number that is not mapped -/
  | mappingNew (h : Hub) (toPort origin : PeerPort) (orig : ℕ) (items : List (Expiring Item))
      (hto : toPort ∈ h.ports) (horigin : origin ∈ h.ports)
      (hnew : h.nrMapGet toPort.peer origin orig = none)
      (hadd : Expiring.add h.expireQuickly (.mapping (h.newMapping toPort.peer origin orig))
        (now + Exq.quickly.seconds) = some items) :
      HubStep lib G now h (h.addMapping (h.newMapping toPort.peer origin orig) items)
  /-- `nr_pool_next`, for no mapping -/
  | drawSeq (h : Hub) (peer : ℕ) : HubStep lib G now h (h.drawSeq peer)
  /-- The restart counter of a port. -/
  | noteRestart (h : Hub) (pp : PeerPort) (restart : ℕ) : HubStep lib G now h
      { h with lastRestartCount := Function.update h.lastRestartCount pp (some restart) }
  /-- `gtphub_tunnel_new` -/
  | tunnelNew (h : Hub) (choice : ℕ) :
      HubStep lib G now h (h.addTunnel (tallocTunnel choice h.tunnels))
  /-- An announced TEI. -/
  | setTeiOrig (h : Hub) (t : ℕ) (s : Side) (p : Plane) (tei : ℕ) (ht : t ∈ h.tunnels) :
      HubStep lib G now h (h.setTeiOrig t s p tei)
  /-- `gtphub_check_mapped_tei` -/
  | setTeiRepl (h : Hub) (t tei : ℕ) (ht : t ∈ h.tunnels) : HubStep lib G now h (h.setTeiRepl t tei)
  /-- A Delete Request for a tunnel that has just been queued is remembered. -/
  | noteDelete (h : Hub) (pd : PendingDelete) (items : List (Expiring Item))
      (ht : pd.tun ∈ h.tunnels) (hfresh : h.Fresh pd.tun now)
      (hadd : Expiring.add h.expireQuickly (.pendingDelete pd) (now + Exq.quickly.seconds) =
        some items) : HubStep lib G now h ((h.noteDelete pd).setExq items .quickly)
  /-- What goes out, and what is recorded. -/
  | record (h : Hub) (sent : List Sent) (log : List Obs) :
      HubStep lib G now h { h with sent := sent, log := log }
  /-- `gtphub_resolved_ggsn` -/
  | resolvedNew (h : Hub) (name : Bytes) (pp : PeerPort) (items : List (Expiring Item))
      (hresolves : G) (hpp : pp ∈ h.ports)
      (hadd : Expiring.add h.expireSlowly (.resolvedGgsn (h.newResolved name pp))
        (now + Exq.slowly.seconds) = some items) :
      HubStep lib G now h (h.addResolved (h.newResolved name pp) items)
  /-- `gtphub_resolve_ggsn_addr`, for a name that is not known -/
  | lookupNew (h : Hub) (imsiStr apnNiStr : Bytes)
      (hlookup : ∀ l ∈ h.ggsnLookups, l.apnOiStr ≠ makeAddrStr lib imsiStr apnNiStr false)
      (hresolved : ∀ g ∈ h.resolvedGgsns, g.apnOiStr ≠ makeAddrStr lib imsiStr apnNiStr false) :
      HubStep lib G now h (h.addLookup imsiStr apnNiStr (makeAddrStr lib imsiStr apnNiStr false))
  /-- `start_ares_query` -/
  | query (h : Hub) (id : ℕ) (name : Bytes) :
      HubStep lib G now h { h with queries := (id, name) :: h.queries }
  /-- The second try of a lookup. -/
  | retry (h : Hub) (id : ℕ) : HubStep lib G now h (h.retryLookup id)

/-- Any number of steps at one time. -/
abbrev HubSteps (lib : Lib) (G : Prop) (now : ℕ) : Hub → Hub → Prop :=
  Relation.ReflTransGen (HubStep lib G now)

/-- Why the code may fault: a port has too few references for what holds it or too many to count,
the order of a queue is broken, or no TEI is left. -/
inductive Trips (now : ℕ) (h : Hub) : Fault → Prop
  | refCountZero (item : Item) (hlive : h.Live item) (hshort : h.Short (h.itemPeers item)) :
      Trips now h .refCountZero
  | expiryOrder (exq : Exq) (item : Item)
      (hadd : Expiring.add (h.exq exq) item (now + exq.seconds) = none) : Trips now h .expiryOrder
  | refCountMax : Trips now h .refCountMax
  | teiRangeExhausted : Trips now h .teiRangeExhausted

/-- A program walks in steps to where it returns, and faults only for one of the reasons above or
one that it is known for. -/
def Walks {α : Type} (lib : Lib) (G : Prop) (now : ℕ) (P : Fault → Prop) (m : HubM α)
    (Q : α → Hub → Prop) (h : Hub) : Prop :=
  wp m (fun a h' ↦ HubSteps lib G now h h' ∧ Q a h')
    (fun f _ ↦ (∃ h₁, HubSteps lib G now h h₁ ∧ Trips now h₁ f) ∨ P f) h

section Walk

variable {α β : Type} {lib : Lib} {G : Prop} {now : ℕ} {P P' : Fault → Prop} {m m' : HubM α}
  {k : α → HubM β}  {Q Q' : α → Hub → Prop} {R : β → Hub → Prop} {h : Hub}

theorem Walks.pure {a : α} (hq : Q a h) : Walks lib G now P (pure a) Q h := ⟨.refl, hq⟩

theorem Walks.throw {f : Fault} (hf : P f) : Walks lib G now P (throw f : HubM α) Q h := .inr hf

theorem Walks.throw_bind {f : Fault} (hf : P f) :
    Walks lib G now P ((MonadExcept.throw f : HubM α) >>= k) R h := .inr hf

theorem Walks.mono (hm : Walks lib G now P m Q h)
    (hq : ∀ a h', HubSteps lib G now h h' → Q a h' → Q' a h')
    (hp : ∀ f, P f → P' f) : Walks lib G now P' m Q' h := by
  refine wp_mono hm ?_ ?_
  · rintro a h' ⟨hsteps, hqa⟩
    exact ⟨hsteps, hq a h' hsteps hqa⟩
  · rintro f _ (htrips | hf)
    · exact .inl htrips
    · exact .inr (hp f hf)

theorem Walks.bind (hm : Walks lib G now P m Q h)
    (hk : ∀ a h', HubSteps lib G now h h' → Q a h' → Walks lib G now P (k a) R h') :
    Walks lib G now P (m >>= k) R h := by
  unfold Walks
  rw [wp_bind]
  refine wp_mono hm ?_ fun _ _ hf ↦ hf
  rintro a h' ⟨hsteps, hqa⟩
  refine wp_mono (hk a h' hsteps hqa) ?_ ?_
  · rintro b h'' ⟨hsteps', hrb⟩
    exact ⟨hsteps.trans hsteps', hrb⟩
  · rintro f _ (⟨h₁, hsteps', htrips⟩ | hf)
    · exact .inl ⟨h₁, hsteps.trans hsteps', htrips⟩
    · exact .inr hf

theorem Walks.get_bind {k : Hub → HubM β} (hk : Walks lib G now P (k h) R h) :
    Walks lib G now P (get >>= k) R h := by
  unfold Walks
  rw [wp_bind, wp_get]
  exact hk

/-- A program that does at most one step. -/
theorem Walks.of_step (hm : wp m (fun a h' ↦ (h' = h ∨ HubStep lib G now h h') ∧ Q a h')
    (fun f _ ↦ Trips now h f ∨ P f) h) : Walks lib G now P m Q h := by
  refine wp_mono hm ?_ ?_
  · rintro a h' ⟨rfl | hstep, hqa⟩
    · exact ⟨.refl, hqa⟩
    · exact ⟨.single hstep, hqa⟩
  · rintro f _ (htrips | hf)
    · exact .inl ⟨h, .refl, htrips⟩
    · exact .inr hf

/-- A step of the code itself, and then the rest. -/
theorem Walks.after {h₁ : Hub} (hstep : HubStep lib G now h h₁)
    (hm : Walks lib G now P m Q h₁) (heq : m' h = m h₁) : Walks lib G now P m' Q h := by
  unfold Walks wp at *
  rw [heq]
  revert hm
  cases m h₁ with
  | ok a h' =>
    rintro ⟨hsteps, hqa⟩
    exact ⟨.head hstep hsteps, hqa⟩
  | error f h' =>
    rintro (⟨h₂, hsteps, htrips⟩ | hf)
    · exact .inl ⟨h₂, .head hstep hsteps, htrips⟩
    · exact .inr hf

theorem Walks.set_bind {h₁ : Hub} {k : PUnit → HubM β} (hstep : HubStep lib G now h h₁)
    (hk : Walks lib G now P (k ⟨⟩) R h₁) : Walks lib G now P (set h₁ >>= k) R h :=
  .after hstep hk rfl

theorem Walks.modify_bind {f : Hub → Hub} {k : PUnit → HubM β} (hstep : HubStep lib G now h (f h))
    (hk : Walks lib G now P (k ⟨⟩) R (f h)) : Walks lib G now P (modify f >>= k) R h :=
  .after hstep hk rfl

/-- What every step keeps, a walk keeps. -/
theorem HubSteps.invariant {Inv : Hub → Prop}
    (hinv : ∀ h h', HubStep lib G now h h' → Inv h → Inv h') {h h' : Hub}
    (hsteps : HubSteps lib G now h h') (hi : Inv h) : Inv h' := by
  induction hsteps with
  | refl => exact hi
  | tail _ hstep ih => exact hinv _ _ hstep ih

/-- What is known of a program that returns. -/
theorem Walks.and_ok (hm : Walks lib G now P m Q h) (hok : ∀ a h', m h = .ok a h' → Q' a h') :
    Walks lib G now P m (fun a h' ↦ Q a h' ∧ Q' a h') h := by
  unfold Walks wp at *
  cases hr : m h with
  | ok a h' =>
    rw [hr] at hm
    exact ⟨hm.1, hm.2, hok a h' hr⟩
  | error f h' =>
    rw [hr] at hm
    exact hm

/-- A program that walks at a time, and then at the time that a lookup reads. -/
def RxWalks {α : Type} (lib : Lib) (G : Prop) (now clock : ℕ) (P : Fault → Prop) (m : HubM α)
    (Q : α → Hub → Prop) (h : Hub) : Prop :=
  wp m (fun a h' ↦ (∃ h₁, HubSteps lib G now h h₁ ∧ HubSteps lib G clock h₁ h') ∧ Q a h')
    (fun f _ ↦ (∃ h₁, HubSteps lib G now h h₁ ∧
      (Trips now h₁ f ∨ ∃ h₂, HubSteps lib G clock h₁ h₂ ∧ Trips clock h₂ f)) ∨ P f) h

theorem RxWalks.of_now {clock : ℕ} (hm : Walks lib G now P m Q h) :
    RxWalks lib G now clock P m Q h := by
  refine wp_mono hm ?_ ?_
  · rintro a h' ⟨hsteps, hqa⟩
    exact ⟨⟨h', hsteps, .refl⟩, hqa⟩
  · rintro f _ (⟨h₁, hsteps, htrips⟩ | hf)
    · exact .inl ⟨h₁, hsteps, .inl htrips⟩
    · exact .inr hf

theorem RxWalks.of_clock {clock : ℕ} (hm : Walks lib G clock P m Q h) :
    RxWalks lib G now clock P m Q h := by
  refine wp_mono hm ?_ ?_
  · rintro a h' ⟨hsteps, hqa⟩
    exact ⟨⟨h, .refl, hsteps⟩, hqa⟩
  · rintro f _ (⟨h₁, hsteps, htrips⟩ | hf)
    · exact .inl ⟨h, .refl, .inr ⟨h₁, hsteps, htrips⟩⟩
    · exact .inr hf

theorem RxWalks.get_bind {clock : ℕ} {k : Hub → HubM β} (hk : RxWalks lib G now clock P (k h) R h) :
    RxWalks lib G now clock P (get >>= k) R h := by
  unfold RxWalks
  rw [wp_bind, wp_get]
  exact hk

/-- After a walk at the first time, either walk may follow. -/
theorem RxWalks.bind_now {clock : ℕ} (hm : Walks lib G now P m Q h)
    (hk : ∀ a h', HubSteps lib G now h h' → Q a h' → RxWalks lib G now clock P (k a) R h') :
    RxWalks lib G now clock P (m >>= k) R h := by
  unfold RxWalks
  rw [wp_bind]
  refine wp_mono hm ?_ ?_
  · rintro a h' ⟨hsteps, hqa⟩
    refine wp_mono (hk a h' hsteps hqa) ?_ ?_
    · rintro b h'' ⟨⟨h₁, hsteps₁, hsteps₂⟩, hrb⟩
      exact ⟨⟨h₁, hsteps.trans hsteps₁, hsteps₂⟩, hrb⟩
    · rintro f _ (⟨h₁, hsteps₁, htrips⟩ | hf)
      · exact .inl ⟨h₁, hsteps.trans hsteps₁, htrips⟩
      · exact .inr hf
  · rintro f _ (⟨h₁, hsteps, htrips⟩ | hf)
    · exact .inl ⟨h₁, hsteps, .inl htrips⟩
    · exact .inr hf

/-- The rest of a program walks at the first time if no other walk came before, or at the second. -/
theorem RxWalks.bind {clock : ℕ} (hm : RxWalks lib G now clock P m Q h)
    (hk : ∀ a h', Q a h' → (HubSteps lib G now h h' ∧ Walks lib G now P (k a) R h') ∨
      Walks lib G clock P (k a) R h') : RxWalks lib G now clock P (m >>= k) R h := by
  unfold RxWalks
  rw [wp_bind]
  refine wp_mono hm ?_ fun _ _ hf ↦ hf
  rintro a h' ⟨⟨h₁, hsteps₁, hsteps₂⟩, hqa⟩
  rcases hk a h' hqa with ⟨hsteps, hnow⟩ | hclock
  · refine wp_mono hnow ?_ ?_
    · rintro b h'' ⟨hsteps', hrb⟩
      exact ⟨⟨h'', hsteps.trans hsteps', .refl⟩, hrb⟩
    · rintro f _ (⟨h₂, hsteps', htrips⟩ | hf)
      · exact .inl ⟨h₂, hsteps.trans hsteps', .inl htrips⟩
      · exact .inr hf
  · refine wp_mono hclock ?_ ?_
    · rintro b h'' ⟨hsteps', hrb⟩
      exact ⟨⟨h₁, hsteps₁, hsteps₂.trans hsteps'⟩, hrb⟩
    · rintro f _ (⟨h₂, hsteps', htrips⟩ | hf)
      · exact .inl ⟨h₁, hsteps₁, .inr ⟨h₂, hsteps₂.trans hsteps', htrips⟩⟩
      · exact .inr hf

end Walk

end OsmoSgsn.Gtphub
