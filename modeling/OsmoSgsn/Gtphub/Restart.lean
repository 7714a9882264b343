import OsmoSgsn.Gtphub.Effect

/-!
# Peers that restart

A peer that restarts counts up, and announces its counter in Recovery elements. When the hub sees
another counter than before it voids the tunnels of the peer. It remembers the counter of each
port, but a peer is one process whatever ports it sends from, so what the hub should compare with
is the last counter that came from any port of the peer. Here a record of that counter runs along
with the hub, and every control packet with a Recovery element is compared with it.
-/

open EStateM

namespace OsmoSgsn.Gtphub

/-! ## What a restart clears -/

/-- A tunnel that the loop of `gtphub_restarted` clears on a side: its control endpoint there is of
the peer, and the other control endpoint has a TEI. -/
def Hub.Clears (h : Hub) (peer t : ℕ) (s : Side) : Prop :=
  ((h.tun t).endpoint s .ctrl).peer.map PeerPort.peer = some peer ∧
    ((h.tun t).endpoint s.other .ctrl).teiOrig ≠ 0

instance (h : Hub) (peer t : ℕ) (s : Side) : Decidable (h.Clears peer t s) :=
  inferInstanceAs (Decidable (_ ∧ _))

section Clearing

variable {h h' : Hub} {pp : PeerPort} {u : Unit} {t : ℕ} {s : Side}

/-- One side of one tunnel is cleared, or nothing is. -/
theorem restartedSide_peer (hr : gtphubRestartedSide pp t s h = .ok u h') (t' : ℕ) (s' : Side)
    (p' : Plane) : ((h'.tun t').endpoint s' p').peer =
      if (t' = t ∧ s' = s) ∧ h.Clears pp.peer t s then none
      else ((h.tun t').endpoint s' p').peer := by
  simp only [gtphubRestartedSide, get_bind_apply] at hr
  have hskip (hnot : ¬ h.Clears pp.peer t s) (hr : (pure () : HubM Unit) h = .ok u h') :
      ((h'.tun t').endpoint s' p').peer =
        if (t' = t ∧ s' = s) ∧ h.Clears pp.peer t s then none
        else ((h.tun t').endpoint s' p').peer := by
    rw [if_neg fun hall ↦ hnot hall.2, (pure_eq_ok.mp hr).2]
  cases hq : ((h.tun t).endpoint s .ctrl).peer with
  | none =>
    rw [hq] at hr
    refine hskip (fun hclears ↦ ?_) hr
    rw [Hub.Clears, hq] at hclears
    simp at hclears
  | some q =>
    rw [hq] at hr
    simp only at hr
    have hclears : h.Clears pp.peer t s ↔
        ¬ (((h.tun t).endpoint s.other .ctrl).teiOrig = 0 ∨ pp.peer ≠ q.peer) := by
      rw [Hub.Clears, hq, Option.map_some, Option.some_inj, not_or, not_not, eq_comm, and_comm]
    split at hr
    · next hor => exact hskip (fun hc ↦ hclears.mp hc hor) hr
    · next hor =>
      obtain ⟨_, h₁, hsend, hr⟩ := bind_eq_ok.mp hr
      obtain ⟨_, h₂, hctrl, hr⟩ := bind_eq_ok.mp hr
      have htun : h₁.tun = h.tun := (congrArg Hub.tun (sendDelPdpCtx_ok hsend) :)
      rw [tun_of_view (setPeer_ok hr), Hub.setPeer_peer, tun_of_view (setPeer_ok hctrl),
        Hub.setPeer_peer, htun]
      cases p' <;> simp [hclears.mpr hor]

/-- Whether a side of a tunnel is to be cleared does not change before its turn. -/
theorem restartedSide_clears {t' : ℕ} {s' : Side} (hr : gtphubRestartedSide pp t s h = .ok u h')
    (hne : ¬ (t' = t ∧ s' = s)) : h'.Clears pp.peer t' s' ↔ h.Clears pp.peer t' s' := by
  unfold Hub.Clears
  rw [(voided_restartedSide hr).teiOrig, restartedSide_peer hr, if_neg fun hall ↦ hne hall.1]

/-- Both sides of one tunnel. -/
theorem restartedTunnel_peer {h₁ : Hub} (hsgsn : gtphubRestartedSide pp t .sgsn h = .ok u h₁)
    (hggsn : gtphubRestartedSide pp t .ggsn h₁ = .ok u h') (t' : ℕ) (s' : Side) (p' : Plane) :
    ((h'.tun t').endpoint s' p').peer =
      if t' = t ∧ h.Clears pp.peer t s' then none else ((h.tun t').endpoint s' p').peer := by
  have hclears : h₁.Clears pp.peer t .ggsn ↔ h.Clears pp.peer t .ggsn :=
    restartedSide_clears hsgsn (by simp)
  rw [restartedSide_peer hggsn, restartedSide_peer hsgsn]
  cases s' <;> simp [hclears]

/-- The loop clears all tunnels of the peer. -/
theorem restartedLoop_peer {l : List ℕ} (hr : gtphubRestartedLoop pp l h = .ok u h') (t' : ℕ)
    (s' : Side) (p' : Plane) : ((h'.tun t').endpoint s' p').peer =
      if t' ∈ l ∧ h.Clears pp.peer t' s' then none else ((h.tun t').endpoint s' p').peer := by
  induction l generalizing h with
  | nil =>
    rw [(pure_eq_ok.mp hr).2]
    simp
  | cons t l ih =>
    simp only [gtphubRestartedLoop] at hr
    obtain ⟨_, h₁, hsgsn, hr⟩ := bind_eq_ok.mp hr
    obtain ⟨_, h₂, hggsn, hr⟩ := bind_eq_ok.mp hr
    have hfirst := restartedTunnel_peer hsgsn hggsn
    rw [ih hr, hfirst]
    by_cases ht : t' = t
    · -- what is cleared already is not looked at again
      subst ht
      by_cases hc : h.Clears pp.peer t' s'
      · simp [hc]
      · have hc₂ : ¬ h₂.Clears pp.peer t' s' := by
          unfold Hub.Clears at hc ⊢
          rwa [hfirst, if_neg (fun hall ↦ hc hall.2), (voided_restartedSide hggsn).teiOrig,
            (voided_restartedSide hsgsn).teiOrig]
        simp [hc, hc₂]
    · have hc₂ : h₂.Clears pp.peer t' s' ↔ h.Clears pp.peer t' s' := by
        rw [restartedSide_clears hggsn fun hall ↦ ht hall.1,
          restartedSide_clears hsgsn fun hall ↦ ht hall.1]
      simp [ht, hc₂]

/-- The hub takes a counter for a sign of a restart: the port has sent another one. -/
def Hub.Notices (h : Hub) (pp : PeerPort) (restart : ℕ) : Prop :=
  ∃ last, h.lastRestartCount pp = some last ∧ last ≠ restart

theorem checkRestartCounter_peer {p : GtpPacketDesc} {restart : ℕ}
    (hr : gtphubCheckRestartCounter p pp h = .ok u h') (hcount : getRestartCount p = some restart)
    (hle : restart ≤ 255) :
    (h.Notices pp restart ∧ ∀ t s plane, ((h'.tun t).endpoint s plane).peer =
      if t ∈ h.tunnels ∧ h.Clears pp.peer t s then none else ((h.tun t).endpoint s plane).peer) ∨
    (¬ h.Notices pp restart ∧ h'.tun = h.tun) := by
  simp only [gtphubCheckRestartCounter] at hr
  rw [hcount] at hr
  simp only [if_neg (not_lt.mpr hle), get_bind_apply] at hr
  obtain ⟨_, h₁, hrestarted, hr⟩ := bind_eq_ok.mp hr
  rw [modify_eq_ok.mp hr]
  cases hlast : h.lastRestartCount pp with
  | none =>
    rw [hlast] at hrestarted
    refine .inr ⟨?_, by rw [(pure_eq_ok.mp hrestarted).2]⟩
    rintro ⟨last, hsome, -⟩
    rw [hlast] at hsome
    simp at hsome
  | some last =>
    rw [hlast] at hrestarted
    simp only at hrestarted
    split at hrestarted
    · next hne =>
      refine .inl ⟨⟨last, hlast, hne⟩, fun t s plane ↦ ?_⟩
      simp only [gtphubRestarted, get_bind_apply] at hrestarted
      exact restartedLoop_peer hrestarted t s plane
    · next heq =>
      refine .inr ⟨?_, by rw [(pure_eq_ok.mp hrestarted).2]⟩
      rintro ⟨last', hsome, hne⟩
      rw [hlast] at hsome
      cases hsome
      exact heq hne

end Clearing

/-! ## Counters of peers -/

/-- A control packet with a Recovery element, as the hub comes to look at it: the side and the port
that it is from, the counter, the counter in the last such packet of the peer, and the hub before
and after `gtphub_check_restart_counter`. -/
structure RecoverySeen where
  side : Side
  port : PeerPort
  restart : ℕ
  last : Option ℕ
  before : Hub
  after : Hub

/-- The sender and the counter of a control packet with a Recovery element, and the hub that checks
them. -/
def recoveryOf (lib : Lib) (rx : Rx) (p : GtpPacketDesc) (h : Hub) : Option (PeerPort × ℕ × Hub) :=
  if p.rc.valid ∧ p.type ≠ gtpEchoReq ∧ rx.plane = .ctrl then
    match gtphubFromPort lib rx.side rx.plane rx.fromAddr h, getRestartCount p with
    | .ok (some pp) h₁, some restart => if restart ≤ 255 then some (pp, restart, h₁) else none
    | _, _ => none
  else none

/-- The hub, with the last counter of each peer. -/
structure Watched where
  system : System
  last : ℕ → Option ℕ

/-- The hub as a machine that shows the checks of counters. -/
def restartMachine (lib : Lib) : Machine Watched HubEvent RecoverySeen where
  step s e :=
    let system := ((hubMachine lib).step s.system e).1
    match s.system.fault, e with
    | none, .rx rx =>
      let p := gtpDecode lib rx.buf rx.received rx.side rx.plane rx.now
      match recoveryOf lib rx p s.system.hub with
      | some (pp, restart, h) =>
        (⟨system, Function.update s.last pp.peer (some restart)⟩,
          match gtphubCheckRestartCounter p pp h with
          | .ok _ h' => [⟨rx.side, pp, restart, s.last pp.peer, h, h'⟩]
          | .error _ _ => [])
      | none => (⟨system, s.last⟩, [])
    | _, _ => (⟨system, s.last⟩, [])

/-- The peer has restarted: its last counter is known, and was another one. -/
def RecoverySeen.Differs (o : RecoverySeen) : Prop := ∃ last, o.last = some last ∧ last ≠ o.restart

/-- A restart leaves no tunnel with an endpoint of the peer on its side, and without one no
endpoint is cleared. -/
structure RecoverySeen.PerPeer (o : RecoverySeen) : Prop where
  restarted : o.Differs → ∀ t ∈ o.before.tunnels, ∀ plane,
    ((o.after.tun t).endpoint o.side plane).peer.map PeerPort.peer ≠ some o.port.peer
  kept : ¬ o.Differs → ∀ t ∈ o.before.tunnels, ∀ s plane,
    ((o.after.tun t).endpoint s plane).peer = ((o.before.tun t).endpoint s plane).peer

/-- The counter of the port tells the same as that of the peer, as far as there are tunnels of the
peer: at a restart it differs and the tunnels have the TEI of the other side, and otherwise it does
not differ or they have not. -/
structure RecoverySeen.Agrees (o : RecoverySeen) : Prop where
  restarted : o.Differs → ∀ t ∈ o.before.tunnels, ∀ plane,
    ((o.before.tun t).endpoint o.side plane).peer.map PeerPort.peer = some o.port.peer →
      o.before.Notices o.port o.restart ∧ o.before.Clears o.port.peer t o.side
  kept : ¬ o.Differs → o.before.Notices o.port o.restart →
    ∀ t ∈ o.before.tunnels, ∀ s, ¬ o.before.Clears o.port.peer t s

section Watching

variable {lib : Lib} {s : Watched} {e : HubEvent} {o : RecoverySeen}

theorem mem_restartMachine_step (ho : o ∈ ((restartMachine lib).step s e).2) :
    ∃ p u, getRestartCount p = some o.restart ∧ o.restart ≤ 255 ∧
      gtphubCheckRestartCounter p o.port o.before = .ok u o.after := by
  simp only [restartMachine] at ho
  split at ho
  · next rx _ _ =>
    split at ho
    · next pp restart h hrec =>
      have hfrom := hrec
      unfold recoveryOf at hfrom
      split at hfrom
      · split at hfrom
        · next hcount =>
          split at hfrom
          · next hle =>
            cases hfrom
            generalize hcheck : gtphubCheckRestartCounter _ pp h = res at ho
            cases res with
            | ok u h' =>
              obtain rfl := List.mem_singleton.mp ho
              exact ⟨_, u, hcount, hle, hcheck⟩
            | error f h' => simp at ho
          · simp at hfrom
        · simp at hfrom
      · simp at hfrom
    · simp at ho
  · simp at ho

/-- What a check leaves of an endpoint. -/
theorem check_peer (ho : o ∈ ((restartMachine lib).step s e).2) {t : ℕ}
    (ht : t ∈ o.before.tunnels) (s' : Side) (plane : Plane) :
    (o.before.Notices o.port o.restart ∧ o.before.Clears o.port.peer t s' ∧
      ((o.after.tun t).endpoint s' plane).peer = none) ∨
    (¬ (o.before.Notices o.port o.restart ∧ o.before.Clears o.port.peer t s') ∧
      ((o.after.tun t).endpoint s' plane).peer = ((o.before.tun t).endpoint s' plane).peer) := by
  obtain ⟨p, u, hcount, hle, hcheck⟩ := mem_restartMachine_step ho
  rcases checkRestartCounter_peer hcheck hcount hle with ⟨hnotices, hpeer⟩ | ⟨hnot, htun⟩
  · rw [hpeer]
    by_cases hclears : o.before.Clears o.port.peer t s'
    · exact .inl ⟨hnotices, hclears, if_pos ⟨ht, hclears⟩⟩
    · exact .inr ⟨fun hboth ↦ hclears hboth.2, if_neg fun hall ↦ hclears hall.2⟩
  · exact .inr ⟨fun hboth ↦ hnot hboth.1, by rw [htun]⟩

theorem step_perPeer_iff (ho : o ∈ ((restartMachine lib).step s e).2) : o.PerPeer ↔ o.Agrees := by
  constructor
  · intro hper
    refine ⟨fun hdiffers t ht plane hpeer ↦ ?_, fun hsame hnotices t ht s' hclears ↦ ?_⟩
    · rcases check_peer ho ht o.side plane with ⟨hnotices, hclears, -⟩ | ⟨-, hkept⟩
      · exact ⟨hnotices, hclears⟩
      · refine (hper.restarted hdiffers t ht plane ?_).elim
        rw [hkept, hpeer]
    · have hkept := hper.kept hsame t ht s' .ctrl
      rcases check_peer ho ht s' .ctrl with ⟨-, -, hnone⟩ | ⟨hnot, -⟩
      · have hsome := hclears.1
        rw [← hkept, hnone] at hsome
        simp at hsome
      · exact hnot ⟨hnotices, hclears⟩
  · intro hagrees
    refine ⟨fun hdiffers t ht plane hpeer ↦ ?_, fun hsame t ht s' plane ↦ ?_⟩
    · rcases check_peer ho ht o.side plane with ⟨-, -, hnone⟩ | ⟨hnot, hkept⟩
      · rw [hnone] at hpeer
        simp at hpeer
      · rw [hkept] at hpeer
        exact hnot (hagrees.restarted hdiffers t ht plane hpeer)
    · rcases check_peer ho ht s' plane with ⟨hnotices, hclears, -⟩ | ⟨-, hkept⟩
      · exact (hagrees.kept hsame hnotices t ht s' hclears).elim
      · exact hkept

/-- **Restarts of peers.** In every run of the hub, a packet with a Recovery element is handled as
the counter of its peer demands exactly if the counter of its port tells the same. -/
theorem restart_per_peer_iff (lib : Lib) (s : Watched) (es : List HubEvent) :
    ∀ o ∈ (restartMachine lib).trace s es, o.PerPeer ↔ o.Agrees :=
  Machine.forall_mem_trace (fun _ _ ↦ True) (fun _ ↦ True) (fun _ _ _ _ ↦ trivial)
    (fun _ _ _ _ _ ho ↦ step_perPeer_iff ho) trivial
    (Machine.meets_of_forall (fun _ _ ↦ trivial) s es)

end Watching

/-- The SGSN 192.168.0.2 asks for a tunnel with its restart counter, from some port. -/
def exampleRecoveryReq (port seq : ℕ) (restart user ctrl : UInt8) (choice : ℕ) : Rx :=
  { exampleRx .sgsn .ctrl 2 (examplePacket gtpCreatePdpReq 0 seq (exampleImsi ++ [14, restart] ++
      exampleTeis user ctrl ++ exampleApn ++ exampleGsns 2)) choice with
    fromAddr := ⟨[192, 168, 0, 2], port⟩ }

/-- A tunnel is made with the counter 5, and then the SGSN comes from another port with 6. -/
def exampleRestart : List HubEvent :=
  [exampleResolved, .rx (exampleRecoveryReq 2123 1 5 0x11 0x22 7),
    .rx (exampleCreateRsp 1 0x6d31 0x33
    0x44), .rx (exampleRecoveryReq 2124 2 6 0x55 0x66 8)]

/-- In that run a packet has a Recovery element. -/
theorem exampleRestart_perPeer_iff : ∃ o ∈ (restartMachine exampleLib).trace
    ⟨⟨gtphubInit exampleCfg, none⟩, fun _ ↦ none⟩ exampleRestart, (o.PerPeer ↔ o.Agrees) := by
  have hsome : ((restartMachine exampleLib).trace ⟨⟨gtphubInit exampleCfg, none⟩, fun _ ↦ none⟩
      exampleRestart).length ≠ 0 := by
    decide +kernel
  obtain ⟨o, ho⟩ := List.exists_mem_of_ne_nil _ (List.length_eq_zero_iff.not.mp hsome)
  exact ⟨o, ho, restart_per_peer_iff exampleLib _ exampleRestart o ho⟩

/-- The first counter of a port is never taken for a restart of the peer. -/
theorem restart_unnoticed_on_new_port : ¬ ∀ (lib : Lib) (cfg : HubCfg) (h₀ : Hub)
    (es : List HubEvent), gtphubStart lib cfg (gtphubInit cfg) = .ok () h₀ →
      ∀ o ∈ (restartMachine lib).trace ⟨⟨h₀, none⟩, fun _ ↦ none⟩ es, o.PerPeer := by
  intro hall
  have hany : ((restartMachine exampleLib).trace ⟨⟨gtphubInit exampleCfg, none⟩, fun _ ↦ none⟩
      exampleRestart).any (fun o ↦ o.side = .sgsn ∧ o.restart = 6 ∧ o.last = some 5 ∧
        7 ∈ o.before.tunnels ∧ ((o.after.tun 7).endpoint .sgsn .ctrl).peer.map PeerPort.peer =
          some o.port.peer) = true := by decide +kernel
  obtain ⟨o, ho, hbad⟩ := List.any_eq_true.mp hany
  obtain ⟨hside, hrestart, hlast, ht, hpeer⟩ := of_decide_eq_true hbad
  have hper := hall exampleLib exampleCfg (gtphubInit exampleCfg) exampleRestart rfl o ho
  refine hper.restarted ⟨5, hlast, by rw [hrestart]; decide⟩ 7 ht .ctrl ?_
  rw [hside, hpeer]

end OsmoSgsn.Gtphub
