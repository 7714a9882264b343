import OsmoSgsn.Gtphub.Delivery
import OsmoSgsn.Gtphub.Linked

/-!
# The calls of the hub as walks

Every call is a walk of steps. One lemma for each function says so, with what it returns and the
faults of its own; the functions that use others cite them. The ports that a packet comes from and
goes to are listed ports, as the links of the hub lead to listed ports only.
-/

open EStateM

namespace OsmoSgsn.Gtphub

variable {lib : Lib} {G : Prop} {now : ℕ} {P : Fault → Prop} {h : Hub}

theorem HubSteps.linked {h h' : Hub} (hsteps : HubSteps lib G now h h') (hl : h.Linked) :
    h'.Linked :=
  hsteps.invariant (fun _ _ hstep hl ↦ hl.step hstep) hl

/-- Ports stay listed. -/
theorem HubStep.ports_subset {h h' : Hub} (hstep : HubStep lib G now h h') :
    h.ports ⊆ h'.ports := by
  cases hstep with
  | touch item items hlive _ hadd =>
    rw [Hub.setExq_ports]
    exact List.Subset.refl _
  | delItem item hlive =>
    rw [Hub.delItem_ports]
    exact List.Subset.refl _
  | portNew a port ha hnew => exact List.subset_cons_self _ _
  | _ => exact List.Subset.refl _

theorem HubSteps.ports_subset {h h' : Hub} (hsteps : HubSteps lib G now h h') :
    h.ports ⊆ h'.ports := by
  induction hsteps with
  | refl => exact List.Subset.refl _
  | tail _ hstep ih => exact List.Subset.trans ih hstep.ports_subset

/-- The proxies stay. -/
theorem HubStep.proxy_eq {h h' : Hub} (hstep : HubStep lib G now h h') : h'.proxy = h.proxy := by
  cases hstep with
  | touch item items hlive _ hadd => rw [Hub.setExq_proxy]
  | delItem item hlive => rw [Hub.delItem_proxy]
  | _ => rfl

theorem HubSteps.proxy_eq {h h' : Hub} (hsteps : HubSteps lib G now h h') : h'.proxy = h.proxy := by
  induction hsteps with
  | refl => rfl
  | tail _ hstep ih => rw [hstep.proxy_eq, ih]

/-! ## Peers, addresses and ports -/

theorem walks_addrHave (s : Side) (p : Plane) (addr : GsnAddr) :
    Walks lib G now P (gtphubAddrHave s p addr)
      (fun a h' ↦ (a ∈ h'.addrs ∧ a.side = s ∧ a.plane = p ∧ a.addr = addr) ∧
        h'.ggsnLookups = h.ggsnLookups) h := by
  unfold gtphubAddrHave
  refine .get_bind ?_
  cases hf : h.gtphubAddrFind s p addr with
  | some a =>
    exact .pure ⟨Hub.addrFind_some hf, rfl⟩
  | none =>
    refine .get_bind (.set_bind (.peerNew h s p addr hf) (.pure ?_))
    exact ⟨⟨List.mem_cons_self, rfl, rfl, rfl⟩, rfl⟩

theorem walks_addrHavePort {a : PeerAddr} {port : ℕ} (ha : a ∈ h.addrs)
    (hzero : port = 0 → P .zeroPort) :
    Walks lib G now P (gtphubAddrHavePort lib a port)
      (fun pp h' ↦ (pp ∈ h'.ports ∧ pp.Of a port) ∧ h'.ggsnLookups = h.ggsnLookups) h := by
  unfold gtphubAddrHavePort gtphubAddrFindPort
  by_cases hport : port = 0
  · rw [if_pos hport]
    exact .bind (Q := fun _ _ ↦ False) (.throw_bind (hzero hport)) fun _ _ _ hfalse ↦ hfalse.elim
  · rw [if_neg hport]
    refine .bind (Q := fun o h' ↦ h' = h ∧ o = h.ports.find? fun pp ↦ pp.side = a.side ∧
      pp.plane = a.plane ∧ pp.peer = a.peer ∧ pp.addr = a.addr ∧ pp.port = port)
        (.get_bind (.pure ⟨rfl, rfl⟩)) ?_
    rintro o h₁ - ⟨heq, ho⟩
    rw [heq]
    cases o with
    | some q =>
      have hq := ho.symm
      refine .pure ⟨⟨List.mem_of_find?_eq_some hq, ?_⟩, rfl⟩
      have hfields := List.find?_some hq
      simp only [decide_eq_true_eq] at hfields
      exact ⟨hfields.1, hfields.2.1, hfields.2.2.1, hfields.2.2.2.1, hfields.2.2.2.2⟩
    | none =>
      have hnew : ∀ pp ∈ h.ports, ¬ pp.Of a port := by
        intro pp hpp hof
        have hnot := List.find?_eq_none.mp ho.symm pp hpp
        simp only [decide_eq_true_eq] at hnot
        exact hnot ⟨hof.side, hof.plane, hof.peer, hof.addr, hof.port⟩
      refine .get_bind (.set_bind (.portNew h a port ha hnew) (.pure ?_))
      exact ⟨⟨List.mem_cons_self, rfl, rfl, rfl, rfl, rfl⟩, rfl⟩

theorem walks_portHave {s : Side} {p : Plane} {addr : GsnAddr} {port : ℕ}
    (hzero : port = 0 → P .zeroPort) :
    Walks lib G now P (gtphubPortHave lib s p addr port)
      (fun pp h' ↦ (pp ∈ h'.ports ∧ pp.side = s ∧ pp.plane = p ∧ pp.addr = addr ∧ pp.port = port) ∧
        h'.ggsnLookups = h.ggsnLookups) h := by
  refine .bind (walks_addrHave s p addr) ?_
  rintro a h₁ - ⟨⟨ha, rfl, rfl, rfl⟩, hlookups⟩
  refine (walks_addrHavePort ha hzero).mono ?_ fun _ hf ↦ hf
  rintro pp h₂ - ⟨⟨hpp, hof⟩, hlookups'⟩
  exact ⟨⟨hpp, hof.side, hof.plane, hof.addr, hof.port⟩, hlookups'.trans hlookups⟩

theorem walks_knownAddrHavePort {s : Side} {p : Plane} {sa : Sockaddr}
    (hzero : sa.port = 0 → P .zeroPort) :
    Walks lib G now P (gtphubKnownAddrHavePort lib s p sa)
      (fun o h' ↦ ∀ pp ∈ o, pp ∈ h'.ports ∧ pp.side = s ∧ pp.plane = p ∧ pp.addr = sa.addr) h := by
  unfold gtphubKnownAddrHavePort
  refine .get_bind ?_
  cases hf : h.gtphubAddrFind s p sa.addr with
  | some a =>
    obtain ⟨ha, rfl, rfl, haddr⟩ := Hub.addrFind_some hf
    refine .bind (walks_addrHavePort ha hzero) ?_
    rintro q h₁ - ⟨⟨hq, hof⟩, -⟩
    refine .pure ?_
    rintro pp ⟨⟩
    exact ⟨hq, hof.side, hof.plane, hof.addr.trans haddr⟩
  | none => exact .pure (by simp)

/-- The sender of a packet is a listed port. -/
theorem walks_fromPort {s : Side} {p : Plane} {sa : Sockaddr} (hl : h.Linked)
    (hzero : sa.port = 0 → P .zeroPort) :
    Walks lib G now P (gtphubFromPort lib s p sa) (fun o h' ↦ ∀ pp ∈ o, pp ∈ h'.ports) h := by
  unfold gtphubFromPort
  refine .get_bind ?_
  cases hq : h.proxy s p with
  | some q =>
    refine .pure ?_
    intro pp hpp
    split at hpp
    · cases hpp
      exact hl.ports _ (.inr ⟨s, p, hq⟩)
    · simp at hpp
  | none =>
    refine .bind (walks_knownAddrHavePort hzero) ?_
    intro o h₁ _ ho
    cases o with
    | some q =>
      refine .pure ?_
      rintro pp ⟨⟩
      exact (ho _ rfl).1
    | none =>
      dsimp only
      split
      · refine .bind (walks_portHave hzero) ?_
        rintro q h₂ - ⟨⟨hq, -⟩, -⟩
        refine .pure ?_
        rintro pp ⟨⟩
        exact hq
      · exact .pure (by simp)

/-! ## Objects -/

theorem walks_setPeer {t : ℕ} {s : Side} {p : Plane} {pp : Option PeerPort} (ht : t ∈ h.tunnels)
    (hpp : ∀ q ∈ pp, q ∈ h.ports) :
    Walks lib G now P (gtphubTunnelEndpointSetPeer t s p pp)
      (fun _ h' ↦ h' = h.rePeer t s p pp) h := by
  refine .of_step (wp_mono (wp_setPeer t s p pp) ?_ ?_)
  · rintro _ h' rfl
    exact ⟨.inr (.rePeer h t s p pp ht hpp), rfl⟩
  · rintro f _ (⟨rfl, old, hold, hzero⟩ | ⟨rfl, -⟩)
    · refine .inl (.refCountZero (.tunnel t) ht ⟨old, ?_⟩)
      rw [hzero]
      exact List.count_pos_iff.mpr (Tunnel.mem_peers.mpr ⟨s, p, hold⟩)
    · exact .inl .refCountMax

theorem walks_expiringItemDel {item : Item} (hlive : h.Live item) :
    Walks lib G now P (expiringItemDel item) (fun _ h' ↦ h' = h.delItem item) h := by
  refine .of_step (wp_mono (wp_expiringItemDel item) ?_ ?_)
  · rintro _ h' rfl
    exact ⟨.inr (.delItem h item hlive), rfl⟩
  · rintro f _ ⟨rfl, hshort⟩
    exact .inl (.refCountZero item hlive hshort)

theorem walks_expiryAdd {item : Item} (hlive : h.Live item)
    (hother : ∀ pd, item ≠ .pendingDelete pd) :
    Walks lib G now P (expiryAdd item.exq item now)
      (fun _ h' ↦ ∃ items,
        Expiring.add (h.exq item.exq) item (now + item.exq.seconds) = some items ∧
        h' = h.setExq items item.exq) h := by
  refine .of_step (wp_mono (wp_expiryAdd item.exq item now) ?_ ?_)
  · rintro _ h' ⟨items, hadd, rfl⟩
    exact ⟨.inr (.touch h item items hlive hother hadd), items, hadd, rfl⟩
  · rintro f _ ⟨rfl, hadd⟩
    exact .inl (.expiryOrder item.exq item hadd)

/-! ## Restarted peers -/

theorem walks_seqPoolNext (peer : ℕ) :
    Walks lib G now P (seqPoolNext peer) (fun _ h' ↦ h' = h.drawSeq peer) h :=
  .get_bind (.set_bind (.drawSeq h peer) (.pure rfl))

theorem walks_sendDelPdpCtx (t : ℕ) (s : Side) :
    Walks lib G now P (gtphubSendDelPdpCtx t s)
      (fun _ h' ↦ h'.tunnels = h.tunnels ∧ h'.ports = h.ports) h := by
  unfold gtphubSendDelPdpCtx
  refine .get_bind ?_
  dsimp only
  cases ((h.tun t).endpoint s .ctrl).peer with
  | none => exact .pure ⟨rfl, rfl⟩
  | some pp =>
    refine .bind (walks_seqPoolNext pp.peer) ?_
    rintro nr h₁ - rfl
    exact .of_step ⟨.inr (.record ..), rfl, rfl⟩

theorem walks_restartedSide {pp : PeerPort} {t : ℕ} {s : Side} (ht : t ∈ h.tunnels) :
    Walks lib G now P (gtphubRestartedSide pp t s) (fun _ h' ↦ h'.tunnels = h.tunnels) h := by
  unfold gtphubRestartedSide
  refine .get_bind ?_
  cases ((h.tun t).endpoint s .ctrl).peer with
  | none => exact .pure rfl
  | some q =>
    dsimp only
    split
    · exact .pure rfl
    · refine .bind (walks_sendDelPdpCtx t s.other) ?_
      rintro _ h₁ - ⟨htunnels, -⟩
      have ht₁ : t ∈ h₁.tunnels := htunnels ▸ ht
      refine .bind (walks_setPeer ht₁ (by simp)) ?_
      intro _ h₂ _ heq₂
      have htunnels₂ : h₂.tunnels = h₁.tunnels := by rw [heq₂, Hub.rePeer_tunnels]
      refine (walks_setPeer (htunnels₂ ▸ ht₁) (by simp)).mono ?_ fun _ hf ↦ hf
      intro _ h₃ _ heq₃
      rw [heq₃, Hub.rePeer_tunnels, htunnels₂, htunnels]

theorem walks_restartedLoop {pp : PeerPort} {l : List ℕ} (hl : ∀ t ∈ l, t ∈ h.tunnels) :
    Walks lib G now P (gtphubRestartedLoop pp l) (fun _ h' ↦ h'.tunnels = h.tunnels) h := by
  induction l generalizing h with
  | nil => exact .pure rfl
  | cons t l ih =>
    have ht : t ∈ h.tunnels := hl t List.mem_cons_self
    refine .bind (walks_restartedSide ht) ?_
    intro _ h₁ _ hsgsn
    refine .bind (walks_restartedSide (hsgsn ▸ ht)) ?_
    intro _ h₂ _ hggsn
    have htunnels : h₂.tunnels = h.tunnels := hggsn.trans hsgsn
    refine (ih fun t' ht' ↦ ?_).mono (fun _ h₃ _ heq ↦ heq.trans htunnels) fun _ hf ↦ hf
    rw [htunnels]
    exact hl t' (List.mem_cons_of_mem t ht')

theorem walks_checkRestartCounter (p : GtpPacketDesc) (pp : PeerPort) :
    Walks lib G now P (gtphubCheckRestartCounter p pp) (fun _ _ ↦ True) h := by
  unfold gtphubCheckRestartCounter
  cases getRestartCount p with
  | none => exact .pure trivial
  | some restart =>
    dsimp only
    split
    · exact .pure trivial
    · refine .get_bind (.bind (Q := fun _ _ ↦ True) ?_ ?_)
      · cases h.lastRestartCount pp with
        | none => exact .pure trivial
        | some last =>
          dsimp only
          split
          · refine .get_bind ?_
            exact (walks_restartedLoop fun _ ht ↦ ht).mono (fun _ _ _ _ ↦ trivial) fun _ hf ↦ hf
          · exact .pure trivial
      · intro _ h₁ _ _
        exact .of_step ⟨.inr (.noteRestart ..), trivial⟩

/-! ## Mapping back -/

theorem walks_unmapSeq {p : GtpPacketDesc} {fromPort : PeerPort}
    (hversion : p.version ≠ 1 → P .version) :
    Walks lib G now P (gtphubUnmapSeq p fromPort) (fun x h' ↦ h' = h ∧ SamePacket p x.1) h := by
  have hwalk : Walks lib G now P (gtphubUnmapSeq p fromPort) (fun _ _ ↦ True) h := by
    unfold gtphubUnmapSeq
    split
    · next hne => exact .throw (hversion hne)
    · refine .get_bind ?_
      cases h.nrMapGetInv fromPort.peer p.seq with
      | some m => exact .pure trivial
      | none => exact .pure trivial
  refine (hwalk.and_ok fun x h' hr ↦ ?_).mono (fun _ _ _ hboth ↦ hboth.2) fun _ hf ↦ hf
  obtain ⟨heq, -, hsame, -⟩ := unmapSeq_ok hr
  exact ⟨heq, hsame⟩

theorem Hub.fresh_setExq {t : ℕ} {items : List (Expiring Item)}
    (hadd : Expiring.add h.expireSlowly (.tunnel t) (now + Exq.slowly.seconds) = some items) :
    (h.setExq items .slowly).Fresh t now := by
  intro e he heq
  rcases Expiring.mem_add hadd he with rfl | ⟨-, hne⟩
  · exact le_rfl
  · exact absurd heq hne

theorem walks_unmapHeaderTei {p : GtpPacketDesc} {fromPort : PeerPort} (htime : p.timestamp = now)
    (hversion : p.version ≠ 1 → P .version) :
    Walks lib G now P (gtphubUnmapHeaderTei p fromPort)
      (fun o h' ↦ ∀ x ∈ o, ∀ t, x.1.tun = some t → h'.Fresh t now) h := by
  subst htime
  unfold gtphubUnmapHeaderTei
  split
  · next hne => exact .throw (hversion hne)
  · split
    · refine .pure ?_
      rintro _ ⟨⟩ t ht
      simp at ht
    · refine .get_bind ?_
      cases ht : h.gtphubUnmapTei p fromPort with
      | none => exact .pure fun _ hx ↦ by simp at hx
      | some t =>
        have hlive : h.Live (.tunnel t) := List.mem_of_find?_eq_some ht
        refine .bind (walks_expiryAdd hlive (by simp)) ?_
        rintro _ h₁ - ⟨items, hadd, rfl⟩
        refine .pure ?_
        rintro _ ⟨⟩ t' ⟨⟩
        exact Hub.fresh_setExq hadd

/-- Where a packet may go to is listed. -/
theorem Hub.Linked.final {p : GtpPacketDesc} {fromPort : PeerPort} {s : Side} {plane : Plane}
    {seq : ℕ} {fromTei : Option PeerPort} (hl : h.Linked) (htei : TeiUnmapped h p fromPort fromTei)
    {pp : PeerPort}
    (hpp : (h.proxy s plane).or ((h.seqOrigin fromPort seq).or fromTei) = some pp) :
    pp ∈ h.ports := by
  apply hl.ports
  rcases Option.or_eq_some_iff.mp hpp with hproxy | ⟨-, hpp⟩
  · exact .inr ⟨s, plane, hproxy⟩
  · rcases Option.or_eq_some_iff.mp hpp with hseq | ⟨-, hpp⟩
    · obtain ⟨m, hm, rfl⟩ := Option.map_eq_some_iff.mp hseq
      exact .inl ⟨.mapping m, List.mem_of_find?_eq_some hm, List.mem_singleton_self _⟩
    · have hmem (t : ℕ) (ht : p.tun = some t) : t ∈ h.tunnels := htei.mem_tunnels ht
      cases htei with
      | zero hzero htun => simp at hpp
      | tunnel t hnonzero ht htun htei =>
        exact .inl ⟨.tunnel t, hmem t htun, Tunnel.mem_peers.mpr ⟨_, _, hpp⟩⟩

theorem walks_unmap {p : GtpPacketDesc} {fromPort : PeerPort} {s : Side} {plane : Plane}
    (hl : h.Linked) (htime : p.timestamp = now) (hversion : p.version ≠ 1 → P .version) :
    Walks lib G now P (gtphubUnmap p fromPort (h.proxy s plane))
      (fun o h' ↦ ∀ r ∈ o, SamePacket p r.p ∧ (∀ pp ∈ r.final, pp ∈ h'.ports) ∧
        (∀ t, r.p.tun = some t → t ∈ h'.tunnels) ∧ ∀ t, r.p.tun = some t → h'.Fresh t now) h := by
  have hwalk : Walks lib G now P (gtphubUnmap p fromPort (h.proxy s plane))
      (fun o h' ↦ ∀ r ∈ o, ∀ t, r.p.tun = some t → h'.Fresh t now) h := by
    unfold gtphubUnmap
    refine .bind (walks_unmapSeq hversion) ?_
    rintro ⟨p₁, fromSeq⟩ h₁ - ⟨-, hsame⟩
    refine .bind (walks_unmapHeaderTei ?_ ?_) ?_
    · rw [hsame.timestamp, htime]
    · rw [hsame.version]
      exact hversion
    · intro o h₂ _ hfresh
      cases o with
      | none => exact .pure fun _ hr ↦ by simp at hr
      | some x =>
        dsimp only
        split
        · refine .pure ?_
          rintro _ ⟨⟩
          exact hfresh x rfl
        · refine .pure ?_
          rintro _ ⟨⟩
          exact hfresh x rfl
  have hok (o : Option Unmapped) (h' : Hub)
      (hr : gtphubUnmap p fromPort (h.proxy s plane) h = .ok o h') : h'.view = h.view ∧ ∀ r ∈ o,
        SamePacket p r.p ∧ (∀ pp ∈ r.final, pp ∈ h.ports) ∧
          ∀ t, r.p.tun = some t → t ∈ h.tunnels := by
    refine ⟨unmap_view hr, ?_⟩
    rintro r ⟨⟩
    obtain ⟨-, -, hsame, fromTei, htei, hfinal, -⟩ := unmap_ok hr
    refine ⟨hsame, fun pp hpp ↦ ?_, fun t ht ↦ htei.mem_tunnels ht⟩
    rw [Option.mem_def, hfinal] at hpp
    exact hl.final htei hpp
  refine (hwalk.and_ok hok).mono ?_ fun _ hf ↦ hf
  rintro o h' hsteps ⟨hfresh, hview, hall⟩ r hr
  obtain ⟨hsame, hfinal, htun⟩ := hall r hr
  refine ⟨hsame, fun pp hpp ↦ hsteps.ports_subset (hfinal pp hpp), fun t ht ↦ ?_, hfresh r hr⟩
  rw [tunnels_of_view hview]
  exact htun t ht

/-! ## Sequence numbers -/

theorem walks_mappingHave {toPort origin : PeerPort} {orig : ℕ} (hto : toPort ∈ h.ports)
    (horigin : origin ∈ h.ports) :
    Walks lib G now P (gtphubMappingHave toPort.peer origin orig now) (fun _ _ ↦ True) h := by
  unfold gtphubMappingHave
  refine .get_bind ?_
  cases hget : h.nrMapGet toPort.peer origin orig with
  | some m =>
    have hlive : h.Live (.mapping m) := List.mem_of_find?_eq_some hget
    exact .bind (walks_expiryAdd hlive (by simp)) fun _ _ _ _ ↦ .pure trivial
  | none =>
    refine .of_step ?_
    -- the number, the list, the queue and the reference are one step
    simp only [seqPoolNext]
    rw [wp_bind, wp_bind, wp_get, wp_bind, wp_set, wp_pure, wp_bind, wp_modify, wp_bind]
    refine wp_mono (wp_expiryAdd .quickly _ now) ?_ ?_
    · rintro _ h₁ ⟨items, hadd, rfl⟩
      rw [wp_bind]
      refine wp_mono (wp_refCountInc origin) ?_ ?_
      · rintro _ h₂ rfl
        exact ⟨.inr (.mappingNew h toPort origin orig items hto horigin hget hadd), trivial⟩
      · rintro f _ rfl
        exact .inl .refCountMax
    · rintro f _ ⟨rfl, hadd⟩
      exact .inl (.expiryOrder .quickly _ hadd)

theorem walks_mapSeq {p : GtpPacketDesc} {fromPort toPort : PeerPort} (htime : p.timestamp = now)
    (hversion : p.version ≠ 1 → P .version) (hfrom : fromPort ∈ h.ports) (hto : toPort ∈ h.ports) :
    Walks lib G now P (gtphubMapSeq p fromPort toPort) (fun _ _ ↦ True) h := by
  subst htime
  refine .bind (walks_mappingHave hto hfrom) ?_
  intro repl h₁ _ _
  split
  · next hne => exact .throw (hversion hne)
  · exact .pure trivial

/-! ## Creating a PDP context -/

theorem walks_tunnelNew {choice : ℕ} {toCtrl : PeerPort} (hto : toCtrl ∈ h.ports) :
    Walks lib G now P (gtphubTunnelNew choice toCtrl now) (fun t h' ↦ t ∈ h'.tunnels) h := by
  unfold gtphubTunnelNew
  refine .get_bind (.set_bind (.tunnelNew h choice) ?_)
  have hlive : (h.addTunnel (tallocTunnel choice h.tunnels)).Live
      (.tunnel (tallocTunnel choice h.tunnels)) := List.mem_cons_self
  refine .bind (walks_expiryAdd hlive (by simp)) ?_
  rintro _ h₁ - ⟨items, -, heq⟩
  have ht : tallocTunnel choice h.tunnels ∈ h₁.tunnels := by
    rw [heq, Hub.setExq_tunnels]
    exact List.mem_cons_self
  refine .bind (walks_setPeer ht ?_) ?_
  · rintro q ⟨⟩
    rw [heq, Hub.setExq_ports]
    exact hto
  · rintro _ h₂ - rfl
    exact .pure ht

/-- The new tunnel stays, and the list that is gone through loses only tunnels that were passed. -/
theorem walks_checkReusedTeisLoop {new : ℕ} {l : List ℕ} {teiMin teiMax : ℕ}
    (hnew : new ∈ h.tunnels) (hnd : l.Nodup) (hl : ∀ t ∈ l, t ∈ h.tunnels) :
    Walks lib G now P (gtphubCheckReusedTeisLoop new l teiMin teiMax)
      (fun _ h' ↦ new ∈ h'.tunnels) h := by
  induction l generalizing h teiMin teiMax with
  | nil => exact .pure hnew
  | cons t l ih =>
    obtain ⟨htl, hnd⟩ := List.nodup_cons.mp hnd
    have hrest : ∀ t' ∈ l, t' ∈ h.tunnels := fun t' ht' ↦ hl t' (List.mem_cons_of_mem t ht')
    unfold gtphubCheckReusedTeisLoop
    split
    · exact ih hnew hnd hrest
    · next hne =>
      refine .get_bind ?_
      split
      · have hlive : h.Live (.tunnel t) := hl t List.mem_cons_self
        refine .bind (walks_expiringItemDel hlive) ?_
        intro _ h₁ _ heq
        have hkeep : ∀ t' ∈ h.tunnels, t' ≠ t → t' ∈ h₁.tunnels := by
          intro t' ht' hne'
          rw [heq, Hub.delItem_tunnels]
          exact (List.mem_erase_of_ne hne').mpr ht'
        refine ih (hkeep new hnew (Ne.symm hne)) hnd fun t' ht' ↦ ?_
        exact hkeep t' (hrest t' ht') (ne_of_mem_of_not_mem ht' htl)
      · cases gtphubCheckMappedTei (h.tun new).teiRepl (h.tun t).teiRepl teiMin teiMax with
        | none => exact .pure hnew
        | some x => exact .set_bind (.setTeiRepl h new x.1 hnew) (ih hnew hnd hrest)

theorem walks_mapTei {p : GtpPacketDesc} {t : ℕ} {plane : Plane} {tei : ℕ} (hl : h.Linked)
    (ht : t ∈ h.tunnels) :
    Walks lib G now P (mapTei p t plane tei) (fun _ h' ↦ t ∈ h'.tunnels) h := by
  unfold mapTei
  refine .get_bind (.set_bind (.setTeiOrig h t p.side plane tei ht) ?_)
  refine .bind (.get_bind (walks_checkReusedTeisLoop ht hl.tunnels fun _ ht' ↦ ht')) ?_
  intro b h₁ _ ht₁
  split
  · split
    · exact .pure ht₁
    · exact .pure ht₁
  · exact .of_step (.inl .teiRangeExhausted)

theorem Plane.defaultPort_ne_zero (plane : Plane) : plane.defaultPort ≠ 0 := by
  cases plane <;> decide

theorem walks_createPlane {p : GtpPacketDesc} {fromCtrl : PeerPort} {t : ℕ} {plane : Plane}
    (hl : h.Linked) (ht : t ∈ h.tunnels) (hzero : fromCtrl.sa.port = 0 → P .zeroPort) :
    Walks lib G now P (gtphubCreatePlane lib p fromCtrl t plane) (fun _ h' ↦ t ∈ h'.tunnels) h := by
  unfold gtphubCreatePlane
  cases gsnAddrGet p plane.idx with
  | none => exact .pure ht
  | some addr =>
    cases teiFromIe p plane with
    | none => exact .pure ht
    | some tei =>
      refine .get_bind ?_
      have hport : (if h.sgsnUseSender ∧ p.side = .sgsn then fromCtrl.sa
          else ⟨addr, plane.defaultPort⟩ : Sockaddr).port = 0 → P .zeroPort := by
        split
        · exact hzero
        · exact fun heq ↦ (plane.defaultPort_ne_zero heq).elim
      refine .bind ((walks_portHave hport).and_ok fun pp h' hr ↦ (portHave_ok hr).1) ?_
      rintro pp h₁ hsteps₁ ⟨⟨⟨hpp, -⟩, -⟩, hview⟩
      have ht₁ : t ∈ h₁.tunnels := by
        rw [tunnels_of_view hview]
        exact ht
      refine .bind (walks_setPeer ht₁ (by rintro q ⟨⟩; exact hpp)) ?_
      intro _ h₂ hsteps₂ heq
      have ht₂ : t ∈ h₂.tunnels := by
        rw [heq, Hub.rePeer_tunnels]
        exact ht₁
      split
      · refine .get_bind ?_
        split
        · exact .pure ht₂
        · exact .pure ht₂
      · have hl₂ := hsteps₂.linked (hsteps₁.linked hl)
        exact .bind (walks_mapTei hl₂ ht₂) fun _ _ _ ht₃ ↦ .pure ht₃

theorem walks_createPlanes {p : GtpPacketDesc} {fromCtrl : PeerPort} {t : ℕ} (hl : h.Linked)
    (ht : t ∈ h.tunnels) (hzero : fromCtrl.sa.port = 0 → P .zeroPort) :
    Walks lib G now P (gtphubCreatePlanes lib p fromCtrl t) (fun _ _ ↦ True) h := by
  refine .bind (walks_createPlane hl ht hzero) ?_
  intro o h₁ hsteps ht₁
  cases o with
  | none => exact .pure trivial
  | some p₁ =>
    exact (walks_createPlane (hsteps.linked hl) ht₁ hzero).mono (fun _ _ _ _ ↦ trivial)
      fun _ hf ↦ hf

/-- The faults that a packet with a destination may cause by itself are permitted. -/
structure Permitted (P : Fault → Prop) (lib : Lib) (choice : ℕ) (r : Route) (h : Hub) : Prop where
  version : r.p.version ≠ 1 → P .version
  zeroPort : r.fromPort.sa.port = 0 → P .zeroPort
  noTunnel : r.p.plane = .ctrl → r.p.type = gtpCreatePdpRsp → r.p.side = .ggsn → r.p.tun = none →
    P .noTunnel
  teiRepl : ∀ t, r.p.tun = some t → (h.tun t).teiRepl ≠ r.p.headerTeiRx → P .teiRepl
  forward : ∀ p' h', gtphubHandleCtrl lib choice r h = .ok (some p') h' →
    p'.tun = none ∧ p'.type ≠ gtpDeletePdpRsp → P .forwardWithoutTunnel

theorem walks_handleCreatePdpCtx {choice : ℕ} {r : Route} (hl : h.Linked)
    (htime : r.p.timestamp = now) (hplane : r.p.plane = .ctrl)
    (htype : r.p.type = gtpCreatePdpReq ∨ r.p.type = gtpCreatePdpRsp)
    (hto : r.toPort ∈ h.ports) (htun : ∀ t, r.p.tun = some t → t ∈ h.tunnels)
    (hperm : Permitted P lib choice r h) :
    Walks lib G now P (gtphubHandleCreatePdpCtx lib choice r.p r.fromPort r.toPort)
      (fun _ _ ↦ True) h := by
  subst htime
  unfold gtphubHandleCreatePdpCtx
  split
  · split
    · refine .bind (walks_tunnelNew hto) ?_
      intro t h₁ hsteps ht
      exact walks_createPlanes (hsteps.linked hl) ht hperm.zeroPort
    · exact .pure trivial
  · next hreq =>
    have hrsp : r.p.type = gtpCreatePdpRsp := htype.resolve_left hreq
    split
    · exact .pure trivial
    · next hside hnone => exact .throw (hperm.noTunnel hplane hrsp hside hnone)
    · next t hside hsome =>
      refine .get_bind ?_
      split
      · next hne => exact .throw (hperm.teiRepl t hsome hne)
      · exact walks_createPlanes hl (htun t hsome) hperm.zeroPort

/-! ## Deleting a PDP context -/

theorem walks_handleDeleteReq {p : GtpPacketDesc} (htime : p.timestamp = now)
    (htun : ∀ t, p.tun = some t → t ∈ h.tunnels) (hfresh : ∀ t, p.tun = some t → h.Fresh t now) :
    Walks lib G now P (gtphubHandleDeleteReq p) (fun _ _ ↦ True) h := by
  subst htime
  unfold gtphubHandleDeleteReq
  split
  · next t teardownInd nsapi ht _ _ =>
    refine .of_step ?_
    rw [wp_bind, wp_modify, wp_bind]
    refine wp_mono
      (wp_expiryAdd .quickly (.pendingDelete ⟨t, teardownInd, nsapi⟩) p.timestamp) ?_ ?_
    · rintro _ h₁ ⟨items, hadd, rfl⟩
      exact ⟨.inr (.noteDelete h ⟨t, teardownInd, nsapi⟩ items (htun t ht) (hfresh t ht) hadd),
        trivial⟩
    · rintro f _ ⟨rfl, hadd⟩
      exact .inl (.expiryOrder .quickly _ hadd)
  · exact .pure trivial

theorem walks_handleDeleteRsp {p : GtpPacketDesc} (htun : ∀ t, p.tun = some t → t ∈ h.tunnels) :
    Walks lib G now P (gtphubHandleDeleteRsp p) (fun _ _ ↦ True) h := by
  unfold gtphubHandleDeleteRsp
  cases ht : p.tun with
  | none => exact .pure trivial
  | some t =>
    refine .get_bind ?_
    cases hfind : h.pendingDeletes.find? (·.tun = t) with
    | none => exact .pure trivial
    | some pd =>
      have hpd : h.Live (.pendingDelete pd) := List.mem_of_find?_eq_some hfind
      refine .bind (walks_expiringItemDel hpd) ?_
      rintro _ h₁ - rfl
      split
      · refine .modify_bind (.record ..) ?_
        have hlive : h.Live (.tunnel t) := htun t ht
        have hlive₁ : (h.delItem (.pendingDelete pd)).Live (.tunnel t) :=
          Hub.live_delItem hlive (by simp)
        exact .bind (walks_expiringItemDel hlive₁) fun _ _ _ _ ↦ .pure trivial
      · exact .modify_bind (.record ..) (.pure trivial)

theorem walks_handleCtrl {choice : ℕ} {r : Route} (hl : h.Linked)
    (htime : r.p.timestamp = now) (hto : r.toPort ∈ h.ports)
    (htun : ∀ t, r.p.tun = some t → t ∈ h.tunnels)
    (hfresh : ∀ t, r.p.tun = some t → h.Fresh t now) (hperm : Permitted P lib choice r h) :
    Walks lib G now P (gtphubHandleCtrl lib choice r) (fun _ _ ↦ True) h := by
  unfold gtphubHandleCtrl
  split
  · next hplane =>
    unfold gtphubHandlePdpCtx
    split
    · next htype => exact walks_handleCreatePdpCtx hl htime hplane htype hto htun hperm
    · split
      · exact walks_handleDeleteReq htime htun hfresh
      · split
        · exact walks_handleDeleteRsp htun
        · exact .pure trivial
  · exact .pure trivial

theorem walks_deliver {choice : ℕ} {r : Route} (hl : h.Linked) (htime : r.p.timestamp = now)
    (hfrom : r.fromPort ∈ h.ports) (hto : r.toPort ∈ h.ports)
    (htun : ∀ t, r.p.tun = some t → t ∈ h.tunnels)
    (hfresh : ∀ t, r.p.tun = some t → h.Fresh t now) (hperm : Permitted P lib choice r h) :
    Walks lib G now P (gtphubDeliver lib choice r) (fun _ _ ↦ True) h := by
  refine .bind ((walks_handleCtrl hl htime hto htun hfresh hperm).and_ok fun _ _ hr ↦ hr) ?_
  rintro o h₁ hsteps ⟨-, hr⟩
  cases o with
  | none => exact .pure trivial
  | some p' =>
    have hp' := handleCtrl_packet hr
    dsimp only
    split
    · next hnone => exact .throw (hperm.forward p' h₁ hr hnone)
    · refine .bind (Q := fun _ _ ↦ True) ?_ ?_
      · unfold gtphubOutSeq
        cases r.fromSeq with
        | some _ => exact .pure trivial
        | none =>
          refine walks_mapSeq ?_ ?_ (hsteps.ports_subset hfrom) (hsteps.ports_subset hto)
          · rw [hp']
            exact htime
          · rw [hp']
            exact hperm.version
      · intro p'' h₂ _ _
        refine .bind (Q := fun _ _ ↦ True) ?_ fun _ _ _ _ ↦ .pure trivial
        cases p''.tun with
        | none => exact .pure trivial
        | some t =>
          dsimp only
          split
          · exact .of_step ⟨.inr (.record ..), trivial⟩
          · exact .pure trivial

/-! ## Resolving a GGSN -/

theorem walks_resolveGgsnAddr {imsi apn : Bytes} :
    Walks lib G now P (gtphubResolveGgsnAddr lib imsi apn now)
      (fun o h' ↦ o ≠ none → h' = h) h := by
  unfold gtphubResolveGgsnAddr
  refine .get_bind ?_
  dsimp only
  split
  · exact .pure fun hne ↦ (hne rfl).elim
  · next hlookup =>
    cases hfind : h.resolvedGgsns.find? (·.apnOiStr =
        makeAddrStr lib (imsi.take 15) (apn.take lib.apnMaxlen) false) with
    | some g => exact .pure fun _ ↦ rfl
    | none =>
      refine .set_bind (.lookupNew h (imsi.take 15) (apn.take lib.apnMaxlen) ?_ ?_) ?_
      · intro l hl heq
        exact hlookup (List.any_eq_true.mpr ⟨l, hl, decide_eq_true heq⟩)
      · intro g hg heq
        exact List.find?_eq_none.mp hfind g hg (decide_eq_true heq)
      · have hlive : (h.addLookup (imsi.take 15) (apn.take lib.apnMaxlen)
            (makeAddrStr lib (imsi.take 15) (apn.take lib.apnMaxlen) false)).Live
              (.ggsnLookup h.nextId) := ⟨_, List.mem_cons_self, rfl⟩
        refine .bind (walks_expiryAdd hlive (by simp)) ?_
        intro _ h₁ _ _
        exact .modify_bind (.query ..) (.pure fun hne ↦ (hne rfl).elim)

theorem walks_resolveGgsn {p : GtpPacketDesc} :
    Walks lib G now P (gtphubResolveGgsn lib p now) (fun o h' ↦ o ≠ .error () → h' = h) h := by
  unfold gtphubResolveGgsn
  cases getIeImsiStr p.ie 0 with
  | error e => exact .pure fun _ ↦ rfl
  | ok o =>
    cases o with
    | none => exact .pure fun _ ↦ rfl
    | some imsi =>
      dsimp only
      cases getIeApnStr lib p.ie with
      | error e => exact .pure fun _ ↦ rfl
      | ok o =>
        cases o with
        | none => exact .pure fun _ ↦ rfl
        | some apn =>
          refine .bind walks_resolveGgsnAddr ?_
          intro o h₁ _ hsame
          cases o with
          | some pp => exact .pure fun _ ↦ hsame (by simp)
          | none => exact .pure fun hne ↦ (hne rfl).elim

/-! ## A packet -/

theorem walks_noDestination {p : GtpPacketDesc} (htun : ∀ t, p.tun = some t → t ∈ h.tunnels) :
    Walks lib G now P (gtphubNoDestination p) (fun _ _ ↦ True) h := by
  unfold gtphubNoDestination
  cases ht : p.tun with
  | none => exact .pure trivial
  | some t =>
    dsimp only
    split
    · refine .modify_bind (.record ..) ?_
      have hlive : h.Live (.tunnel t) := htun t ht
      exact .bind (walks_expiringItemDel hlive) fun _ _ _ _ ↦ .pure trivial
    · exact .pure trivial

/-- A packet that has somewhere to go, from a listed port to a listed port. -/
structure Route.Listed (r : Route) (now : ℕ) (h : Hub) : Prop where
  timestamp : r.p.timestamp = now
  fromPort : r.fromPort ∈ h.ports
  toPort : r.toPort ∈ h.ports
  tun : ∀ t, r.p.tun = some t → t ∈ h.tunnels
  fresh : ∀ t, r.p.tun = some t → h.Fresh t now

theorem mapRestartCounter_timestamp (n : ℕ) (p : GtpPacketDesc) :
    (gtphubMapRestartCounter n p).timestamp = p.timestamp := by
  rw [mapRestartCounter_fields]

theorem walks_route {rx : Rx} {p : GtpPacketDesc} {fromPort : PeerPort} (hl : h.Linked)
    (htime : p.timestamp = now) (hfrom : fromPort ∈ h.ports)
    (hversion : p.version ≠ 1 → P .version) :
    RxWalks lib G now rx.clock P (gtphubRoute lib rx p fromPort)
      (fun x h' ↦ ∀ r, x = .inr r → HubSteps lib G now h h' ∧ r.Listed now h') h := by
  unfold gtphubRoute
  refine .bind_now (walks_checkRestartCounter p fromPort) ?_
  intro _ h₁ hsteps₁ _
  refine .get_bind ?_
  dsimp only
  have hl₁ := hsteps₁.linked hl
  refine .bind_now (walks_unmap hl₁ ?_ ?_) ?_
  · rw [mapRestartCounter_timestamp, htime]
  · rw [mapRestartCounter_version]
    exact hversion
  intro o h₂ hsteps₂ ho
  have hsteps : HubSteps lib G now h h₂ := hsteps₁.trans hsteps₂
  cases o with
  | none =>
    refine .of_now (.pure ?_)
    intro r hr
    simp at hr
  | some un =>
    obtain ⟨p', final, fromSeq⟩ := un
    obtain ⟨hsame, hfinal, htun, hfresh⟩ := ho _ rfl
    have htime' : p'.timestamp = now := by
      rw [hsame.timestamp, mapRestartCounter_timestamp, htime]
    cases final with
    | some toPort =>
      refine .of_now (.pure ?_)
      rintro r ⟨⟩
      exact ⟨hsteps, htime', hsteps.ports_subset hfrom, hfinal toPort rfl, htun, hfresh⟩
    | none =>
      -- a packet without a destination ends here
      have hend : Walks lib G now P (gtphubNoDestination p' >>= fun v ↦ pure (Sum.inl v))
          (fun (x : Verdict ⊕ Route) h' ↦ ∀ r, x = .inr r →
            HubSteps lib G now h h' ∧ r.Listed now h') h₂ := by
        refine .bind (walks_noDestination htun) fun v h₃ _ _ ↦ .pure ?_
        intro r hr
        simp at hr
      dsimp only
      split
      · refine .bind (.of_clock ((walks_resolveGgsn (p := p')).and_ok fun _ _ hr ↦ hr)) ?_
        rintro o h₃ ⟨hkeep, hr⟩
        cases o with
        | error e =>
          refine .inr (.pure ?_)
          intro r hr
          simp at hr
        | ok o =>
          have heq : h₃ = h₂ := hkeep (by simp)
          cases o with
          | some toPort =>
            refine .inl ⟨by rw [heq], .pure ?_⟩
            rintro r ⟨⟩
            obtain ⟨g, hg, hpeer⟩ := (resolveGgsn_ok hr).2 toPort rfl
            rw [heq]
            refine ⟨hsteps, htime', hsteps.ports_subset hfrom, ?_, htun, hfresh⟩
            refine (hsteps.linked hl).ports _ (.inl ⟨.resolvedGgsn g, hg, ?_⟩)
            exact List.mem_singleton.mpr hpeer.symm
          | none =>
            rw [heq]
            exact .inl ⟨.refl, hend⟩
      · exact .of_now hend

theorem walks_locate {rx : Rx} (hl : h.Linked) (hzero : rx.fromAddr.port = 0 → P .zeroPort)
    (hversion :
      (gtpDecode lib rx.buf rx.received rx.side rx.plane rx.now).version ≠ 1 → P .version) :
    RxWalks lib G rx.now rx.clock P (gtphubLocate lib rx)
      (fun x h' ↦ ∀ r, x = .inr r → HubSteps lib G rx.now h h' ∧ r.Listed rx.now h') h := by
  have hdrop (v : Verdict) {h' : Hub} : ∀ r, (Sum.inl v : Verdict ⊕ Route) = .inr r →
      HubSteps lib G rx.now h h' ∧ r.Listed rx.now h' := by
    intro r hr
    simp at hr
  unfold gtphubLocate
  dsimp only
  split
  · exact .of_now (.pure (hdrop _))
  · split
    · exact .get_bind (.of_now (.pure (hdrop _)))
    · refine .bind_now (walks_fromPort hl hzero) ?_
      intro o h₁ hsteps ho
      cases o with
      | none => exact .of_now (.pure (hdrop _))
      | some fromPort =>
        refine wp_mono (walks_route (hsteps.linked hl)
          (gtpDecode_fields lib rx.buf rx.received rx.side rx.plane rx.now).2.2 (ho _ rfl) hversion)
            ?_ fun _ _ hf ↦ hf
        rintro x h₂ ⟨hrx, hall⟩
        refine ⟨hrx, fun r hr ↦ ?_⟩
        obtain ⟨hsteps', hlisted⟩ := hall r hr
        exact ⟨hsteps.trans hsteps', hlisted⟩

/-- `gtphub_handle_buf` walks. -/
theorem walks_handleBuf {rx : Rx} (hl : h.Linked) (hzero : rx.fromAddr.port = 0 → P .zeroPort)
    (hversion : (gtpDecode lib rx.buf rx.received rx.side rx.plane rx.now).version ≠ 1 → P .version)
    (hperm : ∀ r h₁, gtphubLocate lib rx h = .ok (.inr r) h₁ → Permitted P lib rx.choice r h₁) :
    RxWalks lib G rx.now rx.clock P (gtphubHandleBuf lib rx) (fun _ _ ↦ True) h := by
  unfold gtphubHandleBuf
  refine .bind (Q :=
    fun x h' ↦ (∀ r, x = .inr r → HubSteps lib G rx.now h h' ∧ r.Listed rx.now h') ∧
    gtphubLocate lib rx h = .ok x h') ?_ ?_
  · have hloc : RxWalks lib G rx.now rx.clock P (gtphubLocate lib rx) _ h :=
      walks_locate hl hzero hversion
    unfold RxWalks wp at *
    cases hr : gtphubLocate lib rx h with
    | ok x h' =>
      rw [hr] at hloc
      exact ⟨hloc.1, hloc.2, rfl⟩
    | error f h' =>
      rw [hr] at hloc
      exact hloc
  · rintro x h₁ ⟨hall, hr⟩
    cases x with
    | inl v => exact .inr (.pure trivial)
    | inr r =>
      obtain ⟨hsteps, hlisted⟩ := hall r rfl
      refine .inl ⟨hsteps, ?_⟩
      exact walks_deliver (hsteps.linked hl) hlisted.timestamp hlisted.fromPort hlisted.toPort
        hlisted.tun hlisted.fresh (hperm r h₁ hr)

/-! ## The other calls -/

theorem walks_resolvedGgsn {apnOiStr : Bytes} {addr : GsnAddr} (hg : G) :
    Walks lib G now P (gtphubResolvedGgsn lib apnOiStr addr now)
      (fun _ h' ↦ h'.ggsnLookups = h.ggsnLookups) h := by
  refine .bind (walks_portHave fun hzero ↦ absurd hzero (by decide)) ?_
  rintro pp h₁ - ⟨⟨hpp, -⟩, hlookups⟩
  refine .of_step ?_
  rw [wp_bind, wp_get, wp_bind, wp_set, wp_bind]
  refine wp_mono (wp_refCountInc pp) ?_ ?_
  · rintro _ h₂ rfl
    rw [wp_bind]
    refine wp_mono (wp_expiryAdd .slowly _ now) ?_ ?_
    · rintro _ h₃ ⟨items, hadd, rfl⟩
      exact ⟨.inr (.resolvedNew h₁ (apnOiStr.take lib.apnMaxlen) pp items hg hpp hadd), hlookups⟩
    · rintro f _ ⟨rfl, hadd⟩
      exact .inl (.expiryOrder .slowly _ hadd)
  · rintro f _ rfl
    exact .inl .refCountMax

theorem walks_lookupCb {id : ℕ} {answer : DnsAnswer} (hg : G) :
    Walks lib G now P (ggsnLookupCb lib id answer now) (fun _ _ ↦ True) h := by
  unfold ggsnLookupCb
  refine .get_bind ?_
  cases hfind : h.ggsnLookups.find? (·.id = id) with
  | none => exact .pure trivial
  | some lookup =>
    have hlive : h.Live (.ggsnLookup id) :=
      ⟨lookup, List.mem_of_find?_eq_some hfind, by simpa using List.find?_some hfind⟩
    have hdel : Walks lib G now P (expiringItemDel (.ggsnLookup id)) (fun _ _ ↦ True) h :=
      (walks_expiringItemDel hlive).mono (fun _ _ _ _ ↦ trivial) fun _ hf ↦ hf
    cases answer with
    | failure =>
      dsimp only
      split
      · refine .modify_bind (.retry h id) ?_
        exact .of_step ⟨.inr (.query ..), trivial⟩
      · exact hdel
    | noAddress => exact hdel
    | address addr =>
      dsimp only
      split
      · refine .bind (walks_resolvedGgsn hg) ?_
        intro _ h₁ _ hlookups
        have hlive₁ : h₁.Live (.ggsnLookup id) := by
          rw [Hub.Live, hlookups]
          exact hlive
        exact (walks_expiringItemDel hlive₁).mono (fun _ _ _ _ ↦ trivial) fun _ hf ↦ hf
      · exact hdel

/-- The loop of `expiry_tick` deletes objects that are there, as each is in the queue once. -/
theorem walks_expiryTickLoop {l : List (Expiring Item)} (hnd : (Expiring.items l).Nodup)
    (hlive : ∀ e ∈ l, h.Live e.item) :
    Walks lib G now P (expiryTickLoop now l) (fun _ _ ↦ True) h := by
  induction l generalizing h with
  | nil => exact .pure trivial
  | cons e l ih =>
    obtain ⟨hnotmem, hnd⟩ := List.nodup_cons.mp hnd
    unfold expiryTickLoop
    split
    · refine .bind (walks_expiringItemDel (hlive e List.mem_cons_self)) ?_
      rintro _ h₁ - rfl
      refine .bind (ih hnd fun e' he' ↦ ?_) fun _ _ _ _ ↦ .pure trivial
      refine Hub.live_delItem (hlive e' (List.mem_cons_of_mem e he')) ?_
      exact ne_of_mem_of_not_mem (List.mem_map_of_mem he') hnotmem
    · exact .pure trivial

theorem walks_expiryTick {exq : Exq} (hl : h.Linked) :
    Walks lib G now P (expiryTick exq now) (fun _ _ ↦ True) h :=
  .get_bind (walks_expiryTickLoop (hl.items exq) (hl.live exq))

/-! ## Events -/

/-- The collection of what is not referred to, at all binds. -/
def Hub.gtphubGcBinds (h : Hub) : Hub :=
  (((h.gtphubGcBind .sgsn .ctrl).gtphubGcBind .sgsn .user).gtphubGcBind .ggsn .ctrl).gtphubGcBind
    .ggsn .user

/-- When an event is handled. -/
def HubEvent.start : HubEvent → ℕ
  | .rx r => r.now
  | .resolvedGgsn _ _ now | .lookupCb _ _ now | .gc now => now

/-- When the handling of an event has read the clock for the last time. -/
def HubEvent.stop : HubEvent → ℕ
  | .rx r => r.clock
  | .resolvedGgsn _ _ now | .lookupCb _ _ now | .gc now => now

/-- The events that may resolve a GGSN. -/
def HubEvent.Resolves : HubEvent → Prop
  | .rx _ | .gc _ => False
  | .resolvedGgsn .. | .lookupCb .. => True

/-- What an event does: a walk at its start, a walk at its end, and after it the collection. -/
structure Handles (lib : Lib) (e : HubEvent) (h h' : Hub) : Prop where
  walks : ∃ h₁ h₂, HubSteps lib e.Resolves e.start h h₁ ∧ HubSteps lib e.Resolves e.stop h₁ h₂ ∧
    (h' = h₂ ∨ h' = h₂.gtphubGcBinds)

/-- Why an event faults. -/
def FaultsIn (lib : Lib) (e : HubEvent) (P : Fault → Prop) (h : Hub) (f : Fault) : Prop :=
  (∃ h₁, HubSteps lib e.Resolves e.start h h₁ ∧
    (Trips e.start h₁ f ∨ ∃ h₂, HubSteps lib e.Resolves e.stop h₁ h₂ ∧ Trips e.stop h₂ f)) ∨ P f

theorem handles_of_walks {α : Type} {e : HubEvent} {m : HubM α} {v : Verdict}
    {Q : α → Hub → Prop} (hm : Walks lib e.Resolves e.start P m Q h) :
    wp (m >>= fun _ ↦ pure v) (fun _ h' ↦ Handles lib e h h')
      (fun f _ ↦ FaultsIn lib e P h f) h := by
  rw [wp_bind]
  refine wp_mono hm ?_ ?_
  · rintro _ h' ⟨hsteps, -⟩
    exact ⟨h', h', hsteps, .refl, .inl rfl⟩
  · rintro f _ (⟨h₁, hsteps, htrips⟩ | hf)
    · exact .inl ⟨h₁, hsteps, .inl htrips⟩
    · exact .inr hf

theorem walks_gc (lib : Lib) (G : Prop) (P : Fault → Prop) (hl : h.Linked) :
    wp (gtphubGc now) (fun _ h' ↦ ∃ h₁, HubSteps lib G now h h₁ ∧ (h' = h₁ ∨ h' = h₁.gtphubGcBinds))
      (fun f _ ↦ (∃ h₁, HubSteps lib G now h h₁ ∧ Trips now h₁ f) ∨ P f) h := by
  unfold gtphubGc
  rw [wp_bind]
  refine wp_mono (walks_expiryTick hl) ?_ fun _ _ hf ↦ hf
  rintro quickly h₁ ⟨hsteps₁, -⟩
  rw [wp_bind]
  have hslowly : Walks lib G now P (expiryTick .slowly now) (fun _ _ ↦ True) h₁ :=
    walks_expiryTick (hsteps₁.linked hl)
  refine wp_mono hslowly ?_ ?_
  · rintro slowly h₂ ⟨hsteps₂, -⟩
    split
    · exact ⟨h₂, hsteps₁.trans hsteps₂, .inr rfl⟩
    · exact ⟨h₂, hsteps₁.trans hsteps₂, .inl rfl⟩
  · rintro f _ (⟨h₂, hsteps₂, htrips⟩ | hf)
    · exact .inl ⟨h₂, hsteps₁.trans hsteps₂, htrips⟩
    · exact .inr hf

/-- The faults that a packet may cause by itself are permitted. -/
structure HubEvent.Permitted (P : Fault → Prop) (lib : Lib) (e : HubEvent) (h : Hub) : Prop where
  zeroPort : ∀ rx, e = .rx rx → rx.fromAddr.port = 0 → P .zeroPort
  version : ∀ rx, e = .rx rx →
    (gtpDecode lib rx.buf rx.received rx.side rx.plane rx.now).version ≠ 1 → P .version
  route : ∀ rx r h₁, e = .rx rx → gtphubLocate lib rx h = .ok (.inr r) h₁ →
    Gtphub.Permitted P lib rx.choice r h₁

/-- **Events are walks.** -/
theorem walks_handle (e : HubEvent) (hl : h.Linked) (hperm : e.Permitted P lib h) :
    wp (e.handle lib) (fun _ h' ↦ Handles lib e h h') (fun f _ ↦ FaultsIn lib e P h f) h := by
  cases e with
  | rx r =>
    refine wp_mono (walks_handleBuf hl (hperm.zeroPort r rfl) (hperm.version r rfl)
      fun r' h₁ hr ↦ hperm.route r r' h₁ rfl hr) ?_ fun _ _ hf ↦ hf
    rintro _ h' ⟨⟨h₁, hsteps₁, hsteps₂⟩, -⟩
    exact ⟨h₁, h', hsteps₁, hsteps₂, .inl rfl⟩
  | resolvedGgsn apnOiStr addr now =>
    exact handles_of_walks (e := .resolvedGgsn ..) (walks_resolvedGgsn trivial)
  | lookupCb id answer now => exact handles_of_walks (e := .lookupCb ..) (walks_lookupCb trivial)
  | gc now =>
    simp only [HubEvent.handle]
    rw [wp_bind]
    refine wp_mono (walks_gc lib False P hl) ?_ ?_
    · rintro _ h' ⟨h₁, hsteps, heq⟩
      exact ⟨h₁, h₁, hsteps, .refl, heq⟩
    · rintro f _ (⟨h₁, hsteps, htrips⟩ | hf)
      · exact .inl ⟨h₁, hsteps, .inl htrips⟩
      · exact .inr hf

/-- All faults but those that the steps are about. -/
def OtherFault (f : Fault) : Prop := f ≠ .refCountZero ∧ f ≠ .expiryOrder

theorem permitted_other (e : HubEvent) : e.Permitted OtherFault lib h where
  zeroPort _ _ _ := ⟨by decide, by decide⟩
  version _ _ _ := ⟨by decide, by decide⟩
  route rx r h₁ _ _ :=
    { version := fun _ ↦ ⟨by decide, by decide⟩
      zeroPort := fun _ ↦ ⟨by decide, by decide⟩
      noTunnel := fun _ _ _ _ ↦ ⟨by decide, by decide⟩
      teiRepl := fun _ _ _ ↦ ⟨by decide, by decide⟩
      forward := fun _ _ _ _ ↦ ⟨by decide, by decide⟩ }

end OsmoSgsn.Gtphub
