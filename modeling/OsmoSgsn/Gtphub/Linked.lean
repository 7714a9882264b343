import OsmoSgsn.Gtphub.Step

/-!
# Objects that are there

What the hub points to is allocated: the ports that tunnels, mappings, resolved GGSNs and proxies
refer to are listed, and every item of an expiry queue is an object that is there, in the queue that
it belongs in. The steps keep this.
-/

open EStateM

namespace OsmoSgsn.Gtphub

/-- Something refers to a port. -/
def Hub.Refers (h : Hub) (pp : PeerPort) : Prop :=
  (∃ item, h.Live item ∧ pp ∈ h.itemPeers item) ∨ ∃ s p, h.proxy s p = some pp

/-- Pointers lead to objects. -/
structure Hub.Linked (h : Hub) : Prop where
  tunnels : h.tunnels.Nodup
  ports : ∀ pp, h.Refers pp → pp ∈ h.ports
  items : ∀ exq, (Expiring.items (h.exq exq)).Nodup
  live : ∀ exq, ∀ e ∈ h.exq exq, h.Live e.item
  queue : ∀ exq, ∀ e ∈ h.exq exq, e.item.exq = exq

section Objects

variable {h : Hub} {item x : Item}

theorem Hub.delItem_tunnels : (h.delItem item).tunnels =
    match item with | .tunnel t => h.tunnels.erase t | _ => h.tunnels := by
  cases item with
  | tunnel t => rw [Hub.delItem_tunnel]
  | _ => rfl

theorem Hub.delItem_mappings : (h.delItem item).mappings =
    match item with | .mapping m => h.mappings.erase m | _ => h.mappings := by
  cases item with
  | tunnel t =>
    rw [Hub.delItem_tunnel]
    rfl
  | _ => rfl

theorem Hub.delItem_pendingDeletes : (h.delItem item).pendingDeletes =
    match item with | .pendingDelete pd => h.pendingDeletes.erase pd | _ => h.pendingDeletes := by
  cases item with
  | tunnel t =>
    rw [Hub.delItem_tunnel]
    rfl
  | _ => rfl

theorem Hub.delItem_resolvedGgsns : (h.delItem item).resolvedGgsns =
    match item with | .resolvedGgsn g => h.resolvedGgsns.erase g | _ => h.resolvedGgsns := by
  cases item with
  | tunnel t =>
    rw [Hub.delItem_tunnel]
    rfl
  | _ => rfl

theorem Hub.delItem_ggsnLookups : (h.delItem item).ggsnLookups =
    match item with | .ggsnLookup id => h.ggsnLookups.filter (·.id ≠ id) | _ => h.ggsnLookups := by
  cases item with
  | tunnel t =>
    rw [Hub.delItem_tunnel]
    rfl
  | _ => rfl

theorem Hub.delItem_exq (exq : Exq) :
    (h.delItem item).exq exq = Expiring.remove (h.exq exq) item := by
  cases item with
  | tunnel t =>
    rw [Hub.delItem_tunnel]
    cases exq <;> rfl
  | _ => cases exq <;> rfl

@[simp] theorem Hub.delItem_ports : (h.delItem item).ports = h.ports := by
  cases item with
  | tunnel t =>
    rw [Hub.delItem_tunnel]
    rfl
  | _ => rfl

@[simp] theorem Hub.delItem_proxy : (h.delItem item).proxy = h.proxy := by
  cases item with
  | tunnel t =>
    rw [Hub.delItem_tunnel]
    rfl
  | _ => rfl

/-- What is there after an object was dropped was there before. -/
theorem Hub.live_of_delItem (hx : (h.delItem item).Live x) : h.Live x := by
  cases x with
  | tunnel t =>
    rw [Hub.Live, Hub.delItem_tunnels] at hx
    split at hx
    · exact List.mem_of_mem_erase hx
    · exact hx
  | mapping m =>
    rw [Hub.Live, Hub.delItem_mappings] at hx
    split at hx
    · exact List.mem_of_mem_erase hx
    · exact hx
  | pendingDelete pd =>
    rw [Hub.Live, Hub.delItem_pendingDeletes] at hx
    split at hx
    · exact List.mem_of_mem_erase hx
    · exact hx
  | resolvedGgsn g =>
    rw [Hub.Live, Hub.delItem_resolvedGgsns] at hx
    split at hx
    · exact List.mem_of_mem_erase hx
    · exact hx
  | ggsnLookup id =>
    rw [Hub.Live, Hub.delItem_ggsnLookups] at hx
    split at hx
    · obtain ⟨l, hl, hid⟩ := hx
      exact ⟨l, (List.mem_filter.mp hl).1, hid⟩
    · exact hx

/-- Only one object is dropped. -/
theorem Hub.live_delItem (hx : h.Live x) (hne : x ≠ item) : (h.delItem item).Live x := by
  cases x with
  | tunnel t =>
    rw [Hub.Live, Hub.delItem_tunnels]
    split
    · exact (List.mem_erase_of_ne fun heq ↦ hne (by rw [heq])).mpr hx
    · exact hx
  | mapping m =>
    rw [Hub.Live, Hub.delItem_mappings]
    split
    · exact (List.mem_erase_of_ne fun heq ↦ hne (by rw [heq])).mpr hx
    · exact hx
  | pendingDelete pd =>
    rw [Hub.Live, Hub.delItem_pendingDeletes]
    split
    · exact (List.mem_erase_of_ne fun heq ↦ hne (by rw [heq])).mpr hx
    · exact hx
  | resolvedGgsn g =>
    rw [Hub.Live, Hub.delItem_resolvedGgsns]
    split
    · exact (List.mem_erase_of_ne fun heq ↦ hne (by rw [heq])).mpr hx
    · exact hx
  | ggsnLookup id =>
    rw [Hub.Live, Hub.delItem_ggsnLookups]
    split
    · obtain ⟨l, hl, rfl⟩ := hx
      refine ⟨l, List.mem_filter.mpr ⟨hl, ?_⟩, rfl⟩
      exact decide_eq_true fun heq ↦ hne (by rw [heq])
    · exact hx

/-- What is left keeps its references. -/
theorem Hub.delItem_itemPeers (hnd : h.tunnels.Nodup) (hx : (h.delItem item).Live x) :
    (h.delItem item).itemPeers x = h.itemPeers x := by
  cases x with
  | tunnel t' =>
    cases item with
    | tunnel t =>
      have hne : t' ≠ t := (hnd.mem_erase_iff.mp hx).1
      simp only [Hub.itemPeers]
      rw [show (h.delItem (.tunnel t)).tun t' = h.tun t' from Hub.dropTunnel_tun _ _ hne]
    | _ => rfl
  | _ => rfl

theorem Hub.delItem_tunnels_sublist : (h.delItem item).tunnels.Sublist h.tunnels := by
  rw [Hub.delItem_tunnels]
  split
  · exact List.erase_sublist
  · exact .refl _

@[simp] theorem Hub.setExq_self (items : List (Expiring Item)) (exq : Exq) :
    (h.setExq items exq).exq exq = items := by cases exq <;> rfl

theorem Hub.setExq_exq (items : List (Expiring Item)) {exq exq' : Exq} (hne : exq' ≠ exq) :
    (h.setExq items exq).exq exq' = h.exq exq' := by
  cases exq <;> cases exq' <;> first | rfl | exact (hne rfl).elim

@[simp] theorem Hub.setExq_tunnels (items : List (Expiring Item)) (exq : Exq) :
    (h.setExq items exq).tunnels = h.tunnels := by cases exq <;> rfl

@[simp] theorem Hub.setExq_ports (items : List (Expiring Item)) (exq : Exq) :
    (h.setExq items exq).ports = h.ports := by cases exq <;> rfl

@[simp] theorem Hub.setExq_proxy (items : List (Expiring Item)) (exq : Exq) :
    (h.setExq items exq).proxy = h.proxy := by cases exq <;> rfl

theorem Hub.setExq_live (items : List (Expiring Item)) (exq : Exq) :
    (h.setExq items exq).Live x ↔ h.Live x := by cases exq <;> cases x <;> rfl

theorem Hub.setExq_itemPeers (items : List (Expiring Item)) (exq : Exq) :
    (h.setExq items exq).itemPeers x = h.itemPeers x := by cases exq <;> cases x <;> rfl

theorem Hub.setTeiOrig_peers (t : ℕ) (s : Side) (p : Plane) (tei t' : ℕ) :
    ((h.setTeiOrig t s p tei).tun t').peers = (h.tun t').peers := by
  have hpeer (s' : Side) (p' : Plane) : (((h.setTeiOrig t s p tei).tun t').endpoint s' p').peer =
      ((h.tun t').endpoint s' p').peer := by
    rw [Hub.setTeiOrig, Hub.setEndpoint_endpoint]
    split
    · next heq => rw [heq.1, heq.2.1, heq.2.2]
    · rfl
  simp only [Tunnel.peers, hpeer]

@[simp] theorem Hub.rePeer_tunnels (t : ℕ) (s : Side) (p : Plane) (pp : Option PeerPort) :
    (h.rePeer t s p pp).tunnels = h.tunnels := rfl

@[simp] theorem Hub.rePeer_ports (t : ℕ) (s : Side) (p : Plane) (pp : Option PeerPort) :
    (h.rePeer t s p pp).ports = h.ports := rfl

theorem Hub.rePeer_exq {t : ℕ} {s : Side} {p : Plane} {pp : Option PeerPort} (exq : Exq) :
    (h.rePeer t s p pp).exq exq = h.exq exq := by cases exq <;> rfl

theorem Hub.rePeer_live {t : ℕ} {s : Side} {p : Plane} {pp : Option PeerPort} :
    (h.rePeer t s p pp).Live x ↔ h.Live x := by cases x <;> rfl

theorem Hub.rePeer_itemPeers_of_ne {t : ℕ} {s : Side} {p : Plane} {pp : Option PeerPort}
    (hne : x ≠ .tunnel t) : (h.rePeer t s p pp).itemPeers x = h.itemPeers x := by
  cases x with
  | tunnel t' =>
    have ht : t' ≠ t := fun heq ↦ hne (by rw [heq])
    simp only [Hub.itemPeers]
    rw [show (h.rePeer t s p pp).tun t' = h.tun t' from Function.update_of_ne ht _ _]
  | _ => rfl

theorem Tunnel.mem_peers {tn : Tunnel} {pp : PeerPort} :
    pp ∈ tn.peers ↔ ∃ s p, (tn.endpoint s p).peer = some pp := by
  simp only [Tunnel.peers, List.mem_append, Option.mem_toList]
  constructor
  · rintro (((hpp | hpp) | hpp) | hpp)
    · exact ⟨_, _, hpp⟩
    · exact ⟨_, _, hpp⟩
    · exact ⟨_, _, hpp⟩
    · exact ⟨_, _, hpp⟩
  · rintro ⟨s, p, hpp⟩
    cases s <;> cases p <;> simp [hpp]

end Objects

/-! ## The steps keep the links -/

section Keep

variable {h h' : Hub} {lib : Lib} {G : Prop} {now : ℕ}

/-- Objects, references and queues are the same, and there may be more ports. -/
theorem Hub.Linked.same (hl : h.Linked) (htunnels : h'.tunnels = h.tunnels)
    (hlive : ∀ x, h'.Live x ↔ h.Live x) (hpeers : ∀ x, h'.itemPeers x = h.itemPeers x)
    (hproxy : h'.proxy = h.proxy) (hports : h.ports ⊆ h'.ports)
    (hexq : ∀ exq, h'.exq exq = h.exq exq) : h'.Linked where
  tunnels := htunnels ▸ hl.tunnels
  ports pp hpp := by
    refine hports (hl.ports pp ?_)
    rcases hpp with ⟨x, hx, hmem⟩ | ⟨s, p, hpp⟩
    · exact .inl ⟨x, (hlive x).mp hx, hpeers x ▸ hmem⟩
    · exact .inr ⟨s, p, hproxy ▸ hpp⟩
  items exq := by
    rw [hexq]
    exact hl.items exq
  live exq e he := by
    rw [hexq] at he
    exact (hlive _).mpr (hl.live exq e he)
  queue exq e he := by
    rw [hexq] at he
    exact hl.queue exq e he

/-- An object more, with references to ports that are there. -/
theorem Hub.Linked.more (hl : h.Linked) (x : Item) (htunnels : h'.tunnels.Nodup)
    (hlive : ∀ y, h'.Live y ↔ h.Live y ∨ y = x)
    (hpeers : ∀ y, h.Live y → h'.itemPeers y = h.itemPeers y)
    (hx : ∀ pp ∈ h'.itemPeers x, pp ∈ h.ports) (hproxy : h'.proxy = h.proxy)
    (hports : h'.ports = h.ports) (hexq : ∀ exq, h'.exq exq = h.exq exq) : h'.Linked where
  tunnels := htunnels
  ports pp hpp := by
    rw [hports]
    rcases hpp with ⟨y, hy, hmem⟩ | ⟨s, p, hpp⟩
    · rcases (hlive y).mp hy with hy | rfl
      · exact hl.ports pp (.inl ⟨y, hy, hpeers y hy ▸ hmem⟩)
      · exact hx pp hmem
    · exact hl.ports pp (.inr ⟨s, p, hproxy ▸ hpp⟩)
  items exq := by
    rw [hexq]
    exact hl.items exq
  live exq e he := by
    rw [hexq] at he
    exact (hlive _).mpr (.inl (hl.live exq e he))
  queue exq e he := by
    rw [hexq] at he
    exact hl.queue exq e he

theorem Hub.Linked.setExq {x : Item} {expiry : ℕ} {items : List (Expiring Item)} (hl : h.Linked)
    (hx : h.Live x) (hadd : Expiring.add (h.exq x.exq) x expiry = some items) :
    (h.setExq items x.exq).Linked where
  tunnels := by
    rw [Hub.setExq_tunnels]
    exact hl.tunnels
  ports pp hpp := by
    have hmem : pp ∈ h.ports := by
      refine hl.ports pp ?_
      rcases hpp with ⟨y, hy, hmem⟩ | ⟨s, p, hpp⟩
      · exact .inl ⟨y, (Hub.setExq_live _ _).mp hy, Hub.setExq_itemPeers (x := y) _ _ ▸ hmem⟩
      · exact .inr ⟨s, p, by rwa [Hub.setExq_proxy] at hpp⟩
    rwa [Hub.setExq_ports]
  items exq := by
    by_cases hq : exq = x.exq
    · rw [hq, Hub.setExq_self]
      exact Expiring.items_nodup_add (hl.items _) hadd
    · rw [Hub.setExq_exq _ hq]
      exact hl.items exq
  live exq e he := by
    rw [Hub.setExq_live]
    by_cases hq : exq = x.exq
    · rw [hq, Hub.setExq_self] at he
      rcases Expiring.mem_add hadd he with rfl | ⟨he, -⟩
      · exact hx
      · exact hl.live _ e he
    · rw [Hub.setExq_exq _ hq] at he
      exact hl.live exq e he
  queue exq e he := by
    by_cases hq : exq = x.exq
    · rw [hq, Hub.setExq_self] at he
      rcases Expiring.mem_add hadd he with rfl | ⟨he, -⟩
      · exact hq.symm
      · rw [hq]
        exact hl.queue _ e he
    · rw [Hub.setExq_exq _ hq] at he
      exact hl.queue exq e he

theorem Hub.Linked.delItem (hl : h.Linked) (item : Item) : (h.delItem item).Linked where
  tunnels := hl.tunnels.sublist Hub.delItem_tunnels_sublist
  ports pp hpp := by
    rw [Hub.delItem_ports]
    refine hl.ports pp ?_
    rcases hpp with ⟨y, hy, hmem⟩ | ⟨s, p, hpp⟩
    · rw [Hub.delItem_itemPeers hl.tunnels hy] at hmem
      exact .inl ⟨y, Hub.live_of_delItem hy, hmem⟩
    · rw [Hub.delItem_proxy] at hpp
      exact .inr ⟨s, p, hpp⟩
  items exq := by
    rw [Hub.delItem_exq]
    exact Expiring.items_nodup_remove (hl.items exq)
  live exq e he := by
    rw [Hub.delItem_exq] at he
    obtain ⟨he, hne⟩ := Expiring.mem_remove.mp he
    exact Hub.live_delItem (hl.live exq e he) hne
  queue exq e he := by
    rw [Hub.delItem_exq] at he
    exact hl.queue exq e (Expiring.mem_remove.mp he).1

theorem Hub.Linked.rePeer {t : ℕ} {s : Side} {p : Plane} {pp : Option PeerPort} (hl : h.Linked)
    (ht : t ∈ h.tunnels) (hpp : ∀ q ∈ pp, q ∈ h.ports) : (h.rePeer t s p pp).Linked where
  tunnels := hl.tunnels
  ports q hq := by
    rcases hq with ⟨y, hy, hmem⟩ | ⟨s', p', hq⟩
    · by_cases hyt : y = .tunnel t
      · subst hyt
        obtain ⟨s', p', hq⟩ := Tunnel.mem_peers.mp hmem
        have hset := Hub.setPeer_peer h t s p pp t s' p'
        rw [show ((h.rePeer t s p pp).tun t).endpoint s' p' =
          ((h.setPeer t s p pp).tun t).endpoint s' p' from rfl, hset] at hq
        split at hq
        · exact hpp q hq
        · exact hl.ports q (.inl ⟨.tunnel t, ht, Tunnel.mem_peers.mpr ⟨s', p', hq⟩⟩)
      · rw [Hub.rePeer_itemPeers_of_ne hyt] at hmem
        exact hl.ports q (.inl ⟨y, Hub.rePeer_live.mp hy, hmem⟩)
    · exact hl.ports q (.inr ⟨s', p', hq⟩)
  items exq := by
    rw [Hub.rePeer_exq]
    exact hl.items exq
  live exq e he := by
    rw [Hub.rePeer_exq] at he
    exact Hub.rePeer_live.mpr (hl.live exq e he)
  queue exq e he := by
    rw [Hub.rePeer_exq] at he
    exact hl.queue exq e he

theorem Hub.Linked.addMapping {m : NrMapping} {expiry : ℕ} {items : List (Expiring Item)}
    (hl : h.Linked) (horigin : m.origin ∈ h.ports)
    (hadd : Expiring.add h.expireQuickly (.mapping m) expiry = some items) :
    (h.addMapping m items).Linked := by
  let h₁ : Hub := ({ h.drawSeq m.peer with mappings := h.mappings ++ [m] } : Hub).ref [m.origin]
  have h₁l : h₁.Linked := by
    refine hl.more (.mapping m) hl.tunnels (fun y ↦ ?_) (fun y _ ↦ ?_) (fun pp hpp ↦ ?_) rfl rfl
      fun exq ↦ ?_
    · cases y with
      | mapping m' =>
        rw [show h₁.Live (.mapping m') ↔ m' ∈ h.mappings ++ [m] from Iff.rfl]
        simp [Hub.Live]
      | _ => exact ⟨.inl, fun hor ↦ hor.elim id fun heq ↦ by simp at heq⟩
    · cases y <;> rfl
    · rw [List.mem_singleton.mp hpp]
      exact horigin
    · cases exq <;> rfl
  have hlive : h₁.Live (.mapping m) := List.mem_append_right _ List.mem_cons_self
  exact h₁l.setExq (x := .mapping m) hlive hadd

theorem Hub.Linked.addResolved {g : ResolvedGgsn} {expiry : ℕ} {items : List (Expiring Item)}
    (hl : h.Linked) (hpeer : g.peer ∈ h.ports)
    (hadd : Expiring.add h.expireSlowly (.resolvedGgsn g) expiry = some items) :
    (h.addResolved g items).Linked := by
  let h₁ : Hub := { ({ h with nextId := h.nextId + 1 } : Hub).ref [g.peer] with
    resolvedGgsns := g :: h.resolvedGgsns }
  have h₁l : h₁.Linked := by
    refine hl.more (.resolvedGgsn g) hl.tunnels (fun y ↦ ?_) (fun y _ ↦ ?_) (fun pp hpp ↦ ?_) rfl
      rfl fun exq ↦ ?_
    · cases y with
      | resolvedGgsn g' =>
        rw [show h₁.Live (.resolvedGgsn g') ↔ g' ∈ g :: h.resolvedGgsns from Iff.rfl,
          List.mem_cons, or_comm]
        simp [Hub.Live]
      | _ => exact ⟨.inl, fun hor ↦ hor.elim id fun heq ↦ by simp at heq⟩
    · cases y <;> rfl
    · rw [List.mem_singleton.mp hpp]
      exact hpeer
    · cases exq <;> rfl
  have hlive : h₁.Live (.resolvedGgsn g) := List.mem_cons_self
  exact h₁l.setExq (x := .resolvedGgsn g) hlive hadd

theorem Hub.Linked.addTunnel {t : ℕ} (hl : h.Linked) (ht : t ∉ h.tunnels) :
    (h.addTunnel t).Linked := by
  refine hl.more (.tunnel t) (List.nodup_cons.mpr ⟨ht, hl.tunnels⟩) (fun y ↦ ?_) (fun y hy ↦ ?_)
    (fun pp hpp ↦ ?_) rfl rfl fun exq ↦ ?_
  · cases y with
    | tunnel t' =>
      rw [show (h.addTunnel t).Live (.tunnel t') ↔ t' ∈ t :: h.tunnels from Iff.rfl,
        List.mem_cons, or_comm]
      simp [Hub.Live]
    | _ => exact ⟨.inl, fun hor ↦ hor.elim id fun heq ↦ by simp at heq⟩
  · cases y with
    | tunnel t' =>
      have hne : t' ≠ t := ne_of_mem_of_not_mem hy ht
      simp only [Hub.itemPeers, Hub.addTunnel_tun hne]
    | _ => rfl
  · obtain ⟨s, p, hpp⟩ := Tunnel.mem_peers.mp hpp
    simp at hpp
  · cases exq <;> rfl

theorem Hub.Linked.addLookup (hl : h.Linked) (imsiStr apnNiStr apnOiStr : Bytes) :
    (h.addLookup imsiStr apnNiStr apnOiStr).Linked := by
  refine hl.more (.ggsnLookup h.nextId) hl.tunnels (fun y ↦ ?_) (fun y _ ↦ ?_) (fun pp hpp ↦ ?_) rfl
    rfl fun exq ↦ ?_
  · cases y with
    | ggsnLookup id =>
      simp only [Hub.Live, Hub.addLookup, List.mem_cons, exists_eq_or_imp]
      rw [or_comm, eq_comm]
      simp
    | _ => exact ⟨.inl, fun hor ↦ hor.elim id fun heq ↦ by simp at heq⟩
  · cases y <;> rfl
  · simp [Hub.itemPeers] at hpp
  · cases exq <;> rfl

theorem Hub.noteDelete_live {pd : PendingDelete} : (h.noteDelete pd).Live (.pendingDelete pd) := by
  simp only [Hub.Live, Hub.noteDelete]
  split
  · next hmem => exact hmem
  · exact List.mem_cons_self

theorem Hub.Linked.noteDelete (hl : h.Linked) (pd : PendingDelete) : (h.noteDelete pd).Linked := by
  refine hl.more (.pendingDelete pd) hl.tunnels (fun y ↦ ?_) (fun y _ ↦ ?_) (fun pp hpp ↦ ?_) rfl
    rfl fun exq ↦ ?_
  · cases y with
    | pendingDelete pd' =>
      simp only [Hub.Live, Hub.noteDelete]
      split
      · next hmem =>
        refine ⟨.inl, ?_⟩
        rintro (hpd | heq)
        · exact hpd
        · cases heq
          exact hmem
      · rw [List.mem_cons, or_comm]
        simp
    | _ => exact ⟨.inl, fun hor ↦ hor.elim id fun heq ↦ by simp at heq⟩
  · cases y <;> rfl
  · simp [Hub.itemPeers] at hpp
  · cases exq <;> rfl

/-- Every step keeps the links. -/
theorem Hub.Linked.step (hstep : HubStep lib G now h h') (hl : h.Linked) : h'.Linked := by
  cases hstep with
  | touch item items hlive _ hadd => exact hl.setExq hlive hadd
  | delItem item hlive => exact hl.delItem item
  | rePeer t s p pp ht hpp => exact hl.rePeer ht hpp
  | mappingNew toPort origin orig items hto horigin hnew hadd => exact hl.addMapping horigin hadd
  | resolvedNew name pp items _ hpp hadd => exact hl.addResolved hpp hadd
  | tunnelNew choice => exact hl.addTunnel (tallocTunnel_notMem choice h.tunnels)
  | lookupNew imsiStr apnNiStr hlookup hresolved => exact hl.addLookup _ _ _
  | noteDelete pd items ht hfresh hadd =>
    exact (hl.noteDelete pd).setExq (x := .pendingDelete pd) Hub.noteDelete_live hadd
  | portNew a port ha hnew =>
    refine hl.same rfl (fun x ↦ ?_) (fun x ↦ ?_) rfl (List.subset_cons_self _ _) fun exq ↦ ?_
    · cases x <;> rfl
    · cases x <;> rfl
    · cases exq <;> rfl
  | retry id =>
    refine hl.same rfl (fun x ↦ ?_) (fun x ↦ ?_) rfl (List.Subset.refl _) fun exq ↦ ?_
    · cases x with
      | ggsnLookup id' =>
        have hid (l : GgsnLookup) :
            (if l.id = id then { l with have3digMnc := true } else l).id = l.id := by
          split <;> rfl
        simp [Hub.Live, Hub.retryLookup, hid]
      | _ => rfl
    · cases x <;> rfl
    · cases exq <;> rfl
  | setTeiOrig t s p tei ht =>
    refine hl.same rfl (fun x ↦ ?_) (fun x ↦ ?_) rfl (List.Subset.refl _) fun exq ↦ ?_
    · cases x <;> rfl
    · cases x with
      | tunnel t' => exact Hub.setTeiOrig_peers ..
      | _ => rfl
    · cases exq <;> rfl
  | setTeiRepl t tei ht =>
    refine hl.same rfl (fun x ↦ ?_) (fun x ↦ ?_) rfl (List.Subset.refl _) fun exq ↦ ?_
    · cases x <;> rfl
    · cases x with
      | tunnel t' => simp only [Hub.itemPeers, Tunnel.peers, Hub.setTeiRepl_endpoint]
      | _ => rfl
    · cases exq <;> rfl
  | peerNew s p addr hnew | drawSeq peer | noteRestart pp restart | record sent log
  | query id name =>
    refine hl.same rfl (fun x ↦ ?_) (fun x ↦ ?_) rfl (List.Subset.refl _) fun exq ↦ ?_
    · cases x <;> rfl
    · cases x <;> rfl
    · cases exq <;> rfl

end Keep

end OsmoSgsn.Gtphub
