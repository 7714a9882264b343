import OsmoSgsn.Gtphub.Tei

/-!
# Where packets are delivered

A packet with a TEI belongs to a tunnel, and should go to the peer at the other end of it. The hub
looks up the sequence number first, though, as if every packet were a response: when a peer sends a
request of its own whose number happens to be one that the hub has given to somebody else's
request, the packet goes to where that request came from. Also, when the other end of the tunnel
is void, a packet of an SGSN with an IMSI and an APN goes to the GGSN that these lead to.
-/

namespace OsmoSgsn.Gtphub

open EStateM

section Step

variable {lib : Lib} {rx : Rx} {h h' : Hub} {r : Route} {p' : GtpPacketDesc} {toPort : PeerPort}
  {choice : ℕ}

/-- The tunnel of a packet may change while it is handled, and its elements; the rest stays. -/
theorem handleCtrl_packet (hr : gtphubHandleCtrl lib choice r h = .ok (some p') h') :
    p' = { r.p with tun := p'.tun, ie := p'.ie } := by
  unfold gtphubHandleCtrl at hr
  split at hr
  · unfold gtphubHandlePdpCtx at hr
    split at hr
    · by_cases htype : r.p.type = gtpCreatePdpReq
      · rcases createReq_ok htype hr with ⟨-, hnone, -⟩ | ⟨-, -, t, h₁, -, -, hr⟩
        · simp at hnone
        · obtain ⟨-, -, -, -, -, -, hp'⟩ := createPlanes_announced hr
          rw [hp']
      · rcases createRsp_ok htype hr with ⟨hnone, -⟩ | ⟨-, t, -, -, hr⟩
        · simp at hnone
        · obtain ⟨-, -, -, -, -, -, hp'⟩ := createPlanes_announced hr
          rw [hp']
    · split at hr
      · rcases deleteReq_ok hr with ⟨hnone, -⟩ | ⟨pd, hsome, -⟩
        · simp at hnone
        · rw [Option.some.inj hsome]
      · split at hr
        · rcases deleteRsp_ok hr with ⟨hnone, -⟩ | ⟨pd, -, -, ⟨hnone, -⟩ | ⟨hsome, -⟩⟩
          · simp at hnone
          · simp at hnone
          · rw [Option.some.inj hsome]
        · rw [Option.some.inj (pure_eq_ok.mp hr).1]
  · rw [Option.some.inj (pure_eq_ok.mp hr).1]

/-- A packet is delivered: it belongs to a tunnel, its header has the TEI of the other end of the
tunnel, and it goes to a port of the peer that is registered there. -/
def Delivered (lib : Lib) (h : Hub) (rx : Rx) (toPort : PeerPort) (p' : GtpPacketDesc) : Prop :=
  ∃ r h₁ t pp, gtphubLocate lib rx h = .ok (.inr r) h₁ ∧ r.p.tun = some t ∧
    p'.headerTei = ((h₁.tun t).endpoint rx.side.other rx.plane).teiOrig ∧
    ((h₁.tun t).endpoint rx.side.other rx.plane).peer = some pp ∧ toPort.peer = pp.peer

/-- The tunnel of a packet has a port at the other end, and the sequence number of the packet, if
the hub has given it out, leads to the same peer. -/
def SeqAgrees (lib : Lib) (h : Hub) (rx : Rx) : Prop :=
  ∀ r h₁ t, gtphubLocate lib rx h = .ok (.inr r) h₁ → r.p.tun = some t →
    ∃ pp, ((h₁.tun t).endpoint rx.side.other rx.plane).peer = some pp ∧
      ∀ o ∈ h₁.seqOrigin r.fromPort
        (gtpDecode lib rx.buf rx.received rx.side rx.plane rx.now).seq, o.peer = pp.peer

/-- **Delivery of a packet.** A packet with a TEI that is forwarded without a proxy is delivered
exactly if its sequence number agrees with its TEI. -/
theorem handleBuf_delivered_iff (hr : gtphubHandleBuf lib rx h = .ok (.forward toPort p') h')
    (hproxy : h.proxy rx.side.other rx.plane = none) (htei : p'.headerTeiRx ≠ 0) :
    Delivered lib h rx toPort p' ↔ SeqAgrees lib h rx := by
  obtain ⟨r, h₁, hloc, hr⟩ := handleBuf_forward hr
  obtain ⟨h₀, hv, hrouted⟩ := locate_inr hloc
  obtain ⟨hdside, hdplane, -⟩ := gtpDecode_fields lib rx.buf rx.received rx.side rx.plane rx.now
  have hside : r.p.side = rx.side := hrouted.side.trans hdside
  have hplane : r.p.plane = rx.plane := hrouted.plane.trans hdplane
  obtain ⟨o, h₂, hctrl, ⟨-, hdrop, -⟩ | ⟨p₂, p₃, rfl, heq, hfwd⟩⟩ := deliver_ok hr
  · simp at hdrop
  · cases heq
    have hp' : p'.headerTei = r.p.headerTei ∧ p'.headerTeiRx = r.p.headerTeiRx := by
      have hp₂ := handleCtrl_packet hctrl
      have htei₂ : p₂.headerTei = r.p.headerTei ∧ p₂.headerTeiRx = r.p.headerTeiRx :=
        ⟨by rw [hp₂], by rw [hp₂]⟩
      rcases hfwd.packet with rfl | ⟨seq, rfl⟩ <;> exact htei₂
    obtain ⟨fromTei, hun, hdest⟩ := hrouted.destination
    have hproxy₁ : h₁.proxy rx.side.other rx.plane = none := by
      rw [hrouted.voided.proxy, proxy_of_view hv, hproxy]
    cases hun with
    | zero hzero _ => exact (htei (hp'.2.trans hzero)).elim
    | tunnel t hnonzero hfind htun hteq =>
      rw [hside, hplane] at hteq hdest
      -- There is one way to the destination, so the two statements are about it.
      have hdel : Delivered lib h rx r.toPort p' ↔
          ∃ pp, ((h₁.tun t).endpoint rx.side.other rx.plane).peer = some pp ∧
            r.toPort.peer = pp.peer := by
        constructor
        · rintro ⟨r', h₁', t', pp, hloc', htun', -, hpp, hto⟩
          rw [hloc] at hloc'
          cases hloc'
          rw [htun] at htun'
          cases htun'
          exact ⟨pp, hpp, hto⟩
        · rintro ⟨pp, hpp, hto⟩
          exact ⟨r, h₁, t, pp, hloc, htun, hp'.1.trans hteq, hpp, hto⟩
      have hagr : SeqAgrees lib h rx ↔
          ∃ pp, ((h₁.tun t).endpoint rx.side.other rx.plane).peer = some pp ∧
            ∀ o ∈ h₁.seqOrigin r.fromPort
              (gtpDecode lib rx.buf rx.received rx.side rx.plane rx.now).seq, o.peer = pp.peer := by
        constructor
        · exact fun hagr ↦ hagr r h₁ t hloc htun
        · intro hpp r' h₁' t' hloc' htun'
          rw [hloc] at hloc'
          cases hloc'
          rw [htun] at htun'
          cases htun'
          exact hpp
      rw [hdel, hagr]
      refine exists_congr fun pp ↦ and_congr_right fun hpp ↦ ?_
      generalize r.fromSeq = fs at hdest
      generalize r.toPort = dest at hdest ⊢
      cases hdest with
      | unmapped hto =>
        rw [hproxy₁, hpp] at hto
        generalize h₁.seqOrigin r.fromPort _ = fromSeq at hto ⊢
        cases fromSeq with
        | none =>
          cases hto
          simp
        | some o =>
          cases hto
          simp
      | resolved hg hs hnone =>
        rw [hpp] at hnone
        simp at hnone

end Step

/-! ## Runs -/

/-- A step that forwards a packet with a TEI, where no proxy is configured, delivers it. -/
def Handled.Delivers (lib : Lib) (o : Handled) : Prop :=
  ∀ rx toPort p', o.event = .rx rx → o.verdict = .forward toPort p' →
    o.before.proxy rx.side.other rx.plane = none → p'.headerTeiRx ≠ 0 →
      Delivered lib o.before rx toPort p'

/-- The sequence number of a packet agrees with its TEI. -/
def HubEvent.SeqAgrees (lib : Lib) (s : System) : HubEvent → Prop
  | .rx r => s.hub.proxy r.side.other r.plane = none → Gtphub.SeqAgrees lib s.hub r
  | _ => True

section Run

variable {lib : Lib} {s : System} {e : HubEvent}

/-- What a step shows. -/
theorem mem_hubMachine_step {o : Handled} (ho : o ∈ ((hubMachine lib).step s e).2) :
    s.fault = none ∧ o.before = s.hub ∧ o.event = e ∧
      e.handle lib s.hub = .ok o.verdict o.after := by
  simp only [hubMachine] at ho
  cases hf : s.fault with
  | some f =>
    rw [hf] at ho
    simp at ho
  | none =>
    rw [hf] at ho
    cases hh : e.handle lib s.hub with
    | ok v h' =>
      rw [hh] at ho
      simp only [List.mem_singleton] at ho
      rw [ho]
      exact ⟨rfl, rfl, rfl, rfl⟩
    | error f h' =>
      rw [hh] at ho
      simp at ho

/-- The last event of a run shows, when the run has come to it. -/
theorem mem_trace_append {es : List HubEvent} {v : Verdict} {h' : Hub}
    (hf : ((hubMachine lib).run s es).fault = none)
    (hh : e.handle lib ((hubMachine lib).run s es).hub = .ok v h') :
    ⟨((hubMachine lib).run s es).hub, e, v, h'⟩ ∈ (hubMachine lib).trace s (es ++ [e]) := by
  rw [Machine.trace_append]
  apply List.mem_append_right
  generalize (hubMachine lib).run s es = s₁ at hf hh ⊢
  obtain ⟨h₁, f⟩ := s₁
  cases hf
  rw [Machine.trace_cons, Machine.trace_nil, List.append_nil]
  simp only [hubMachine, hh, List.mem_singleton]

theorem HubEvent.seqAgrees_rx {h : Hub} {r : Rx} (hr : Gtphub.SeqAgrees lib h r) :
    HubEvent.SeqAgrees lib ⟨h, none⟩ (.rx r) := fun _ ↦ hr

theorem step_delivers (hok : e.SeqAgrees lib s) :
    ∀ o ∈ ((hubMachine lib).step s e).2, o.Delivers lib := by
  intro o ho rx toPort p' hev hverdict hproxy htei
  obtain ⟨-, hbefore, hevent, hhandle⟩ := mem_hubMachine_step ho
  rw [hev] at hevent
  rw [← hevent, hverdict] at hhandle
  rw [← hevent] at hok
  rw [hbefore] at hproxy ⊢
  exact (handleBuf_delivered_iff hhandle hproxy htei).mpr (hok hproxy)

/-- **No delivery across tunnels.** In a run in which every packet's sequence number agrees with
its TEI, every packet with a TEI goes to the peer at the other end of its tunnel. -/
theorem forall_mem_trace_delivers (lib : Lib) (s : System) (es : List HubEvent)
    (hes : (hubMachine lib).Meets (HubEvent.SeqAgrees lib) s es) :
    ∀ o ∈ (hubMachine lib).trace s es, o.Delivers lib :=
  Machine.forall_mem_trace (HubEvent.SeqAgrees lib) (fun _ ↦ True) (fun _ _ _ _ ↦ trivial)
    (fun _ _ _ hok ↦ step_delivers hok) trivial hes

theorem exampleTunnel_seqAgrees :
    SeqAgrees exampleLib exampleTunnel (exampleCreateRsp 1 0x6d31 0x33 0x44) := by
  intro r h₁ t hloc htun
  have hret : ((gtphubLocate exampleLib (exampleCreateRsp 1 0x6d31 0x33 0x44)
      exampleTunnel).returned.map fun x ↦ match x.1 with
        | .inr r => some (r.p.tun, ((x.2.tun 7).endpoint .sgsn .ctrl).peer.map PeerPort.peer,
          (x.2.seqOrigin r.fromPort 0x6d31).map PeerPort.peer)
        | _ => none) = some (some (some 7, some 2, some 2)) := by decide +kernel
  rw [returned_eq_some.mpr hloc] at hret
  simp only [Option.map_some, Option.some.injEq, Prod.mk.injEq] at hret
  obtain ⟨htun', hpeer, horigin⟩ := hret
  rw [htun] at htun'
  cases htun'
  obtain ⟨pp, hpp, hpp'⟩ := Option.map_eq_some_iff.mp hpeer
  refine ⟨pp, hpp, ?_⟩
  have hseq : (gtpDecode exampleLib (exampleCreateRsp 1 0x6d31 0x33 0x44).buf
      (exampleCreateRsp 1 0x6d31 0x33 0x44).received
      (exampleCreateRsp 1 0x6d31 0x33 0x44).side (exampleCreateRsp 1 0x6d31 0x33 0x44).plane
      (exampleCreateRsp 1 0x6d31 0x33 0x44).now).seq = 0x6d31 := by
    decide +kernel
  rw [hseq]
  intro o ho
  rw [Option.mem_def.mp ho, Option.map_some, Option.some.injEq] at horigin
  rw [horigin, hpp']

/-- The response to a request is delivered. -/
theorem create_response_delivered : ∃ o ∈ (hubMachine exampleLib).trace ⟨exampleTunnel, none⟩
    [.rx (exampleCreateRsp 1 0x6d31 0x33 0x44)], o.Delivers exampleLib := by
  have hok : HubEvent.SeqAgrees exampleLib ⟨exampleTunnel, none⟩
      (.rx (exampleCreateRsp 1 0x6d31 0x33 0x44)) := by
    apply HubEvent.seqAgrees_rx
    exact exampleTunnel_seqAgrees
  have hsome : ((hubMachine exampleLib).trace ⟨exampleTunnel, none⟩
      [.rx (exampleCreateRsp 1 0x6d31 0x33 0x44)]).length ≠ 0 := by
    decide +kernel
  obtain ⟨o, ho⟩ := List.exists_mem_of_ne_nil _ (List.length_eq_zero_iff.not.mp hsome)
  refine ⟨o, ho, forall_mem_trace_delivers exampleLib ⟨exampleTunnel, none⟩ _ ?_ o ho⟩
  rw [Machine.Meets, Machine.Meets]
  exact ⟨hok, trivial⟩

/-- Two SGSNs have a tunnel each to one GGSN. -/
def exampleTwoTunnels : List HubEvent :=
  [exampleResolved, .rx (exampleCreateReq 1 0x11 0x22 7),
    .rx (exampleRx .sgsn .ctrl 3 (examplePacket gtpCreatePdpReq 0 1
      (exampleImsi ++ exampleTeis 0x33 0x44 ++ exampleApn ++ exampleGsns 3)) 8)]

/-- The GGSN asks to delete the tunnel of the second SGSN, with a sequence number of its own that
the hub has given to the request of the first one. -/
def exampleDeleteReq : Rx :=
  exampleRx .ggsn .ctrl 9 (examplePacket gtpDeletePdpReq 2 0x6d31 [19, 0xff, 20, 5]) 0

/-- The last event of a run of the example. -/
theorem mem_trace_exampleRun (es : List HubEvent) (e : HubEvent) (v : Verdict) (h' : Hub)
    (hf : (exampleRun es).fault = none) (hh : e.handle exampleLib (exampleRun es).hub = .ok v h') :
    ⟨(exampleRun es).hub, e, v, h'⟩ ∈
      (hubMachine exampleLib).trace ⟨gtphubInit exampleCfg, none⟩ (es ++ [e]) :=
  mem_trace_append hf hh

/-- The request goes to the first SGSN. -/
theorem ggsn_request_crosses_tunnels : ¬ ∀ (lib : Lib) (cfg : HubCfg) (h : Hub)
    (es : List HubEvent), gtphubStart lib cfg (gtphubInit cfg) = .ok () h →
      ∀ o ∈ (hubMachine lib).trace ⟨h, none⟩ es, o.Delivers lib := by
  intro hall
  have hret : ((gtphubHandleBuf exampleLib exampleDeleteReq
      (exampleRun exampleTwoTunnels).hub).returned.map fun x ↦ match x.1 with
        | .forward toPort p => some (toPort.peer, p.headerTeiRx)
        | _ => none) = some (some (2, 2)) := by decide +kernel
  have hends : ((gtphubLocate exampleLib exampleDeleteReq
      (exampleRun exampleTwoTunnels).hub).returned.map fun x ↦ match x.1 with
        | .inr r => some (r.p.tun, ((x.2.tun 8).endpoint .sgsn .ctrl).peer.map PeerPort.peer)
        | _ => none) = some (some (some 8, some 4)) := by decide +kernel
  have hproxy : (exampleRun exampleTwoTunnels).hub.proxy .sgsn .ctrl = none := by decide +kernel
  have hmem := fun v h' ↦ mem_trace_exampleRun exampleTwoTunnels (.rx exampleDeleteReq) v h'
    (by decide +kernel)
  have hall := hall exampleLib exampleCfg (gtphubInit exampleCfg)
    (exampleTwoTunnels ++ [.rx exampleDeleteReq]) rfl
  -- From here on nothing is evaluated in the state before the request.
  generalize (exampleRun exampleTwoTunnels).hub = h at hret hends hproxy hmem
  obtain ⟨⟨v, h'⟩, hret, hx⟩ := Option.map_eq_some_iff.mp hret
  cases v with
  | drop | done | reply _ _ => simp at hx
  | forward toPort p' =>
    simp only [Option.some.injEq, Prod.mk.injEq] at hx
    have hdel := hall _ (hmem _ _ (returned_eq_some.mp hret)) exampleDeleteReq toPort p' rfl rfl
      hproxy (by rw [hx.2]; decide)
    obtain ⟨r, h₁, t, pp, hloc, htun, -, hpp, hto⟩ := hdel
    rw [returned_eq_some.mpr hloc] at hends
    simp only [Option.map_some, Option.some.injEq, Prod.mk.injEq] at hends
    rw [htun] at hends
    cases hends.1
    have hpp : ((h₁.tun 8).endpoint .sgsn .ctrl).peer = some pp := hpp
    rw [hpp, Option.map_some, Option.some.injEq, ← hto, hx.1] at hends
    simp at hends

end Run

end OsmoSgsn.Gtphub
