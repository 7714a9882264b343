import OsmoSgsn.Library.Along
import OsmoSgsn.Gtphub.Evict
import OsmoSgsn.Gtphub.ExpiryOrder
import OsmoSgsn.Gtphub.Restart

/-!
# Create Requests that are dropped

A Create PDP Context Request may be dropped in many places. Up to the one where a tunnel is made
for it, nothing but the header of the packet, the restart counter of its sender and the names in it
have been looked at, so all that becomes of the other tunnels is that those of a restarted sender
are voided and that the one with the TEI of the header expires later. After it the message may still
turn out to be incomplete.
-/

open EStateM

namespace OsmoSgsn.Gtphub

/-! ## The slow expiry queue -/

/-- The times at which a tunnel is to be dropped. -/
def Hub.expiries (h : Hub) (t : ℕ) : List ℕ :=
  (h.expireSlowly.filter (·.item = .tunnel t)).map Expiring.expiry

/-- The queue that tunnels are in stays as it is. -/
def SameSlowly (h h' : Hub) : Prop := h'.expireSlowly = h.expireSlowly

theorem SameSlowly.refl (h : Hub) : SameSlowly h h := rfl

theorem SameSlowly.trans (h h' h'' : Hub) (hs : SameSlowly h h') (hs' : SameSlowly h' h'') :
    SameSlowly h h'' := Eq.trans hs' hs

theorem SameSlowly.expiries {h h' : Hub} (hs : SameSlowly h h') (t : ℕ) :
    h'.expiries t = h.expiries t := by
  unfold Hub.expiries
  rw [hs]

section Slowly

variable {h : Hub} {lib : Lib} {pp : PeerPort}

theorem slowly_addrHavePort (a : PeerAddr) (port : ℕ) :
    along SameSlowly (gtphubAddrHavePort lib a port) h := by
  refine along_bind SameSlowly.trans (along_of_ok ?_) fun o h₁ _ ↦ ?_
  · intro o h₁ hfind
    rw [(addrFindPort_ok hfind).1]
    exact .refl h
  · cases o with
    | some q => exact .refl h₁
    | none => exact .refl h₁

theorem slowly_portHave (s : Side) (p : Plane) (addr : GsnAddr) (port : ℕ) :
    along SameSlowly (gtphubPortHave lib s p addr port) h := by
  refine along_bind SameSlowly.trans ?_ fun a h₁ _ ↦ slowly_addrHavePort a port
  apply along_get_bind
  cases h.gtphubAddrFind s p addr with
  | some a => exact .refl h
  | none => exact .refl h

theorem slowly_fromPort (s : Side) (p : Plane) (sa : Sockaddr) :
    along SameSlowly (gtphubFromPort lib s p sa) h := by
  apply along_get_bind
  cases h.proxy s p with
  | some q => exact .refl h
  | none =>
    refine along_bind SameSlowly.trans ?_ fun o h₁ _ ↦ ?_
    · apply along_get_bind
      cases h.gtphubAddrFind s p sa.addr with
      | some a =>
        exact along_bind SameSlowly.trans (slowly_addrHavePort a sa.port) fun q h₂ _ ↦ .refl h₂
      | none => exact .refl h
    · cases o with
      | some q => exact .refl h₁
      | none =>
        simp only
        split
        · exact along_bind SameSlowly.trans (slowly_portHave s p sa.addr sa.port) fun q h₂ _ ↦
            .refl h₂
        · exact .refl h₁

theorem slowly_setPeer (t : ℕ) (s : Side) (p : Plane) (new : Option PeerPort) :
    along SameSlowly (gtphubTunnelEndpointSetPeer t s p new) h := by
  refine wp_mono (wp_setPeer t s p new) ?_ fun _ _ _ ↦ trivial
  rintro _ h' rfl
  rfl

theorem slowly_sendDelPdpCtx (t : ℕ) (s : Side) : along SameSlowly (gtphubSendDelPdpCtx t s) h := by
  apply along_get_bind
  simp only
  cases ((h.tun t).endpoint s .ctrl).peer with
  | none => exact .refl h
  | some q => exact along_bind SameSlowly.trans (along_get_bind rfl) fun seq h₁ _ ↦ .refl h₁

theorem slowly_restartedSide (t : ℕ) (s : Side) :
    along SameSlowly (gtphubRestartedSide pp t s) h := by
  apply along_get_bind
  cases ((h.tun t).endpoint s .ctrl).peer with
  | none => exact .refl h
  | some q =>
    simp only
    split
    · exact .refl h
    · refine along_bind SameSlowly.trans (slowly_sendDelPdpCtx t s.other) fun _ h₁ _ ↦ ?_
      exact along_bind SameSlowly.trans (slowly_setPeer t s .ctrl none) fun _ h₂ _ ↦
        slowly_setPeer t s .user none

theorem slowly_restartedLoop (l : List ℕ) : along SameSlowly (gtphubRestartedLoop pp l) h := by
  induction l generalizing h with
  | nil => exact .refl h
  | cons t l ih =>
    refine along_bind SameSlowly.trans (slowly_restartedSide t .sgsn) fun _ h₁ _ ↦ ?_
    exact along_bind SameSlowly.trans (slowly_restartedSide t .ggsn) fun _ h₂ _ ↦ ih

theorem slowly_checkRestartCounter (p : GtpPacketDesc) :
    along SameSlowly (gtphubCheckRestartCounter p pp) h := by
  unfold gtphubCheckRestartCounter
  cases getRestartCount p with
  | none => exact .refl h
  | some restart =>
    simp only
    split
    · exact .refl h
    · apply along_get_bind
      refine along_bind SameSlowly.trans ?_ fun _ h₁ _ ↦ rfl
      cases h.lastRestartCount pp with
      | none => exact .refl h
      | some last =>
        simp only
        split
        · exact along_get_bind (slowly_restartedLoop h.tunnels)
        · exact .refl h

/-- A name that is looked up is in the other queue. -/
theorem slowly_resolveGgsnAddr (imsi apn : Bytes) (clock : ℕ) :
    along SameSlowly (gtphubResolveGgsnAddr lib imsi apn clock) h := by
  apply along_get_bind
  simp only
  split
  · exact .refl h
  · split
    · exact .refl h
    · refine along_bind SameSlowly.trans (along_set rfl) fun _ h₁ _ ↦ ?_
      refine along_bind SameSlowly.trans ?_ fun _ h₂ _ ↦ rfl
      refine wp_mono (wp_expiryAdd .quickly _ clock) ?_ fun _ _ _ ↦ trivial
      rintro _ h₂ ⟨items, -, rfl⟩
      rfl

theorem slowly_resolveGgsn (p : GtpPacketDesc) (clock : ℕ) :
    along SameSlowly (gtphubResolveGgsn lib p clock) h := by
  unfold gtphubResolveGgsn
  split
  · exact .refl h
  · exact .refl h
  · split
    · exact .refl h
    · exact .refl h
    · refine along_bind SameSlowly.trans (slowly_resolveGgsnAddr _ _ clock) fun o h₁ _ ↦ ?_
      cases o with
      | some q => exact .refl h₁
      | none => exact .refl h₁

end Slowly

/-! ## Up to the destination -/

section Locate

variable {h h' : Hub} {lib : Lib} {p p' : GtpPacketDesc} {rx : Rx} {fromPort : PeerPort} {t : ℕ}
  {v : Verdict}

/-- A tunnel expires as before, or its time starts anew, as the header of a packet has its TEI. -/
def Awaits (p : GtpPacketDesc) (h h' : Hub) (t : ℕ) : Prop :=
  h'.expiries t = h.expiries t ∨ (p.headerTeiRx ≠ 0 ∧ (h.tun t).teiRepl = p.headerTeiRx ∧
    h'.expiries t = [p.timestamp + Exq.slowly.seconds])

theorem expiries_add {item : Item} {now : ℕ} {u : Unit}
    (hr : expiryAdd .slowly item now h = .ok u h') : h'.expiries t =
      if item = .tunnel t then [now + Exq.slowly.seconds] else h.expiries t := by
  obtain ⟨items, hadd, rfl⟩ := wp_ok (wp_expiryAdd .slowly item now) hr
  have hitems : (h.setExq items .slowly).expireSlowly = Expiring.remove h.expireSlowly item ++
      [⟨item, now + Exq.slowly.seconds⟩] := Expiring.add_eq_some hadd
  unfold Hub.expiries Expiring.remove at *
  rw [hitems, List.filter_append, List.filter_filter, List.map_append]
  by_cases hsame : item = .tunnel t
  · subst hsame
    have hnone : h.expireSlowly.filter (fun e ↦ decide (e.item = Item.tunnel t) &&
        decide (e.item ≠ Item.tunnel t)) = [] := by
      rw [List.filter_eq_nil_iff]
      intro e _
      simp
    rw [hnone]
    simp
  · have hall : h.expireSlowly.filter (fun e ↦ decide (e.item = Item.tunnel t) &&
        decide (e.item ≠ item)) = h.expireSlowly.filter (·.item = .tunnel t) := by
      refine List.filter_congr fun e _ ↦ ?_
      by_cases he : e.item = .tunnel t
      · simp [he, Ne.symm hsame]
      · simp [he]
    rw [hall]
    simp [hsame]

theorem awaits_unmapHeaderTei {o : Option (GtpPacketDesc × Option PeerPort)}
    (hr : gtphubUnmapHeaderTei p fromPort h = .ok o h') (t : ℕ) : Awaits p h h' t := by
  simp only [gtphubUnmapHeaderTei] at hr
  split at hr
  · exact (throw_eq_ok.mp hr).elim
  · split at hr
    · rw [(pure_eq_ok.mp hr).2]
      exact .inl rfl
    · next hnonzero =>
      rw [get_bind_apply] at hr
      cases hfind : h.gtphubUnmapTei p fromPort with
      | none =>
        rw [hfind] at hr
        rw [(pure_eq_ok.mp hr).2]
        exact .inl rfl
      | some t' =>
        rw [hfind] at hr
        obtain ⟨_, h₁, hadd, hr⟩ := bind_eq_ok.mp hr
        rw [(pure_eq_ok.mp hr).2]
        have hexp := expiries_add (t := t) hadd
        by_cases ht : t' = t
        · subst ht
          have hmatch := List.find?_some hfind
          simp only [decide_eq_true_eq] at hmatch
          exact .inr ⟨hnonzero, hmatch.1, by rw [hexp, if_pos rfl]⟩
        · refine .inl ?_
          rw [hexp, if_neg]
          exact fun heq ↦ ht (Item.tunnel.inj heq)

/-- The packet that is looked up is the one that was decoded, as far as the lookup goes. -/
theorem awaits_unmap {toProxy : Option PeerPort} {o : Option Unmapped}
    (hr : gtphubUnmap p fromPort toProxy h = .ok o h') (t : ℕ) : Awaits p h h' t := by
  simp only [gtphubUnmap] at hr
  obtain ⟨⟨p₁, fromSeq⟩, h₁, hseq, hr⟩ := bind_eq_ok.mp hr
  obtain ⟨o₁, h₂, htei, hr⟩ := bind_eq_ok.mp hr
  obtain ⟨rfl, -, hsame, -⟩ := unmapSeq_ok hseq
  have hawaits : Awaits p h₁ h₂ t := by
    have hone := awaits_unmapHeaderTei htei t
    rwa [Awaits, hsame.headerTeiRx, hsame.timestamp] at hone
  have hend : h' = h₂ := by
    cases o₁ with
    | none => exact (pure_eq_ok.mp hr).2
    | some x =>
      obtain ⟨p₂, fromTei⟩ := x
      simp only at hr
      cases hfinal : toProxy.or (fromSeq.or fromTei) with
      | none =>
        rw [hfinal] at hr
        exact (pure_eq_ok.mp hr).2
      | some final =>
        rw [hfinal] at hr
        exact (pure_eq_ok.mp hr).2
  rw [hend]
  exact hawaits

theorem Awaits.of_slowly {h₁ : Hub} (ha : Awaits p h h₁ t) (hs : SameSlowly h₁ h') :
    Awaits p h h' t := by
  unfold Awaits
  rw [hs.expiries]
  exact ha

theorem noDestination_kept (hr : gtphubNoDestination p h = .ok v h')
    (htype : p.type ≠ gtpDeletePdpRsp) : h' = h := by
  simp only [gtphubNoDestination] at hr
  cases htun : p.tun with
  | none =>
    rw [htun] at hr
    exact (pure_eq_ok.mp hr).2
  | some t =>
    rw [htun] at hr
    simp only [if_neg htype] at hr
    exact (pure_eq_ok.mp hr).2

/-- A packet is looked at after its restart counter: the tunnels stay as they are. -/
theorem route_checked {x : Verdict ⊕ Route} (hr : gtphubRoute lib rx p fromPort h = .ok x h')
    (htype : p.type ≠ gtpDeletePdpRsp) : ∃ h₁, gtphubCheckRestartCounter p fromPort h = .ok () h₁ ∧
      h'.view = h₁.view ∧ ∀ t, Awaits p h₁ h' t := by
  simp only [gtphubRoute] at hr
  obtain ⟨_, h₁, hcheck, hr⟩ := bind_eq_ok.mp hr
  rw [get_bind_apply] at hr
  obtain ⟨o, h₂, hunmap, hr⟩ := bind_eq_ok.mp hr
  refine ⟨h₁, hcheck, ?_⟩
  have hview := unmap_view hunmap
  have hawaits (t : ℕ) : Awaits p h₁ h₂ t := by
    have hone := awaits_unmap hunmap t
    rwa [Awaits, mapRestartCounter_fields] at hone
  -- what follows leaves the view and the slow queue alone
  suffices hrest : h'.view = h₂.view ∧ SameSlowly h₂ h' from
    ⟨hrest.1.trans hview, fun t ↦ (hawaits t).of_slowly hrest.2⟩
  cases o with
  | none =>
    rw [(pure_eq_ok.mp hr).2]
    exact ⟨rfl, .refl h₂⟩
  | some un =>
    obtain ⟨p', final, fromSeq⟩ := un
    cases final with
    | some toPort =>
      rw [(pure_eq_ok.mp hr).2]
      exact ⟨rfl, .refl h₂⟩
    | none =>
      have htype' : p'.type ≠ gtpDeletePdpRsp := by
        obtain ⟨-, -, hsame, -⟩ := unmap_ok hunmap
        rwa [hsame.type, mapRestartCounter_fields]
      have hend {h₃ : Hub} (hv : h₃.view = h₂.view ∧ SameSlowly h₂ h₃)
          (hr : (gtphubNoDestination p' >>= fun v ↦ pure (Sum.inl v) : HubM (Verdict ⊕ Route)) h₃ =
            .ok x h') : h'.view = h₂.view ∧ SameSlowly h₂ h' := by
        obtain ⟨v', h₄, hno, hr⟩ := bind_eq_ok.mp hr
        rw [(pure_eq_ok.mp hr).2, noDestination_kept hno htype']
        exact hv
      simp only at hr
      split at hr
      · obtain ⟨o, h₃, hresolve, hr⟩ := bind_eq_ok.mp hr
        have hv : h₃.view = h₂.view ∧ SameSlowly h₂ h₃ :=
          ⟨(resolveGgsn_ok hresolve).1, along_ok (slowly_resolveGgsn p' rx.clock) hresolve⟩
        cases o with
        | error e =>
          rw [(pure_eq_ok.mp hr).2]
          exact hv
        | ok o =>
          cases o with
          | none => exact hend hv hr
          | some toPort =>
            rw [(pure_eq_ok.mp hr).2]
            exact hv
      · exact hend ⟨rfl, .refl h₂⟩ hr

/-- With a packet a restart of its sender is noticed, and a side of a tunnel is of the sender. -/
def VoidsSide (lib : Lib) (rx : Rx) (h : Hub) (t : ℕ) (s : Side) : Prop :=
  ∃ pp restart h₁, recoveryOf lib rx (gtpDecode lib rx.buf rx.received rx.side rx.plane rx.now) h =
    some (pp, restart, h₁) ∧ h₁.Notices pp restart ∧ h₁.Clears pp.peer t s

/-- What a packet may do to a tunnel on the way to its destination: a side is voided after a restart
of the sender, and the tunnel may expire later. -/
structure Passed (lib : Lib) (rx : Rx) (h h' : Hub) (t : ℕ) : Prop where
  teiRepl : (h'.tun t).teiRepl = (h.tun t).teiRepl
  voided : ∀ s, VoidsSide lib rx h t s → ∀ plane,
    (h'.tun t).endpoint s plane = ⟨none, ((h.tun t).endpoint s plane).teiOrig⟩
  kept : ∀ s, ¬ VoidsSide lib rx h t s → ∀ plane,
    (h'.tun t).endpoint s plane = (h.tun t).endpoint s plane
  expiries : Awaits (gtpDecode lib rx.buf rx.received rx.side rx.plane rx.now) h h' t

theorem recoveryOf_eq_some {pp : PeerPort} {restart : ℕ} {h₁ : Hub} :
    recoveryOf lib rx p h = some (pp, restart, h₁) ↔
      (p.rc.valid = true ∧ p.type ≠ gtpEchoReq ∧ rx.plane = .ctrl) ∧
        gtphubFromPort lib rx.side rx.plane rx.fromAddr h = .ok (some pp) h₁ ∧
          getRestartCount p = some restart ∧ restart ≤ 255 := by
  unfold recoveryOf
  split
  · next hall =>
    rw [and_iff_right hall]
    split
    · next q h₂ n hfrom hcount =>
      rw [hfrom, hcount]
      split
      · next hle =>
        constructor
        · intro heq
          cases heq
          exact ⟨rfl, rfl, hle⟩
        · rintro ⟨heq, hn, -⟩
          cases heq
          cases hn
          rfl
      · next hnot =>
        constructor
        · intro heq
          simp at heq
        · rintro ⟨-, hn, hle⟩
          cases hn
          exact (hnot hle).elim
    · next hother =>
      constructor
      · intro heq
        simp at heq
      · rintro ⟨hfrom, hcount, -⟩
        exact (hother pp h₁ restart hfrom hcount).elim
  · next hnot =>
    constructor
    · intro heq
      simp at heq
    · exact fun hall ↦ (hnot hall.1).elim

theorem TunnelEndpoint.ext {te te' : TunnelEndpoint} (hpeer : te.peer = te'.peer)
    (horig : te.teiOrig = te'.teiOrig) : te = te' := by
  obtain ⟨peer, teiOrig⟩ := te
  obtain ⟨peer', teiOrig'⟩ := te'
  rw [TunnelEndpoint.mk.injEq]
  exact ⟨hpeer, horig⟩

/-- Without a restart nothing is voided. -/
theorem Passed.of_tun (htun : h'.tun = h.tun) (hnot : ∀ s, ¬ VoidsSide lib rx h t s)
    (hawaits : Awaits (gtpDecode lib rx.buf rx.received rx.side rx.plane rx.now) h h' t) :
    Passed lib rx h h' t where
  teiRepl := by rw [htun]
  voided s hvoids := (hnot s hvoids).elim
  kept s _ plane := by rw [htun]
  expiries := hawaits

theorem checkRestartCounter_passed {h₀ h₁ : Hub}
    (hp : p = gtpDecode lib rx.buf rx.received rx.side rx.plane rx.now)
    (hfirst : p.rc.valid = true ∧ p.type ≠ gtpEchoReq)
    (hfrom : gtphubFromPort lib rx.side rx.plane rx.fromAddr h = .ok (some fromPort) h₀)
    (hcheck : gtphubCheckRestartCounter p fromPort h₀ = .ok () h₁) (ht : t ∈ h.tunnels) :
    Passed lib rx h h₁ t := by
  have hview := (fromPort_ok hfrom).1
  have htun := tun_of_view hview
  have hslowly : SameSlowly h h₁ :=
    SameSlowly.trans h h₀ h₁ (along_ok (slowly_fromPort rx.side rx.plane rx.fromAddr) hfrom)
      (along_ok (slowly_checkRestartCounter p) hcheck)
  have hawaits : Awaits (gtpDecode lib rx.buf rx.received rx.side rx.plane rx.now) h h₁ t :=
    .inl (hslowly.expiries t)
  have hrecovery (pp : PeerPort) (restart : ℕ) (h₂ : Hub)
      (hrec : recoveryOf lib rx (gtpDecode lib rx.buf rx.received rx.side rx.plane rx.now) h =
        some (pp, restart, h₂)) :
      pp = fromPort ∧ h₂ = h₀ ∧ getRestartCount p = some restart ∧ restart ≤ 255 := by
    obtain ⟨-, hfrom', hcount, hle⟩ := recoveryOf_eq_some.mp hrec
    rw [hfrom] at hfrom'
    cases hfrom'
    exact ⟨rfl, rfl, hp ▸ hcount, hle⟩
  by_cases hcounts : ∃ restart, getRestartCount p = some restart ∧ restart ≤ 255
  · obtain ⟨restart, hcount, hle⟩ := hcounts
    have hctrl : rx.plane = .ctrl := by
      cases hplane : rx.plane with
      | ctrl => rfl
      | user =>
        -- a packet of the user plane has no elements
        rw [hplane] at hp
        rw [getRestartCount, hp, gtpDecode_ie_user] at hcount
        simp [gtpieGettv1, gtpieFind, gtpieGetie] at hcount
    have hrec : recoveryOf lib rx (gtpDecode lib rx.buf rx.received rx.side rx.plane rx.now) h =
        some (fromPort, restart, h₀) := by
      rw [← hp]
      exact recoveryOf_eq_some.mpr ⟨⟨hfirst.1, hfirst.2, hctrl⟩, hfrom, hcount, hle⟩
    have hvoids (s : Side) : VoidsSide lib rx h t s ↔
        h₀.Notices fromPort restart ∧ h₀.Clears fromPort.peer t s := by
      constructor
      · rintro ⟨pp, restart', h₂, hrec', hboth⟩
        rw [hrec] at hrec'
        cases hrec'
        exact hboth
      · exact fun hboth ↦ ⟨fromPort, restart, h₀, hrec, hboth⟩
    have ht₀ : t ∈ h₀.tunnels := tunnels_of_view hview ▸ ht
    have hvoid := voided_checkRestartCounter hcheck
    rcases checkRestartCounter_peer hcheck hcount hle with ⟨hnotices, hpeer⟩ | ⟨hnot, hsame⟩
    · refine ⟨by rw [hvoid.teiRepl, htun], fun s hvs plane ↦ ?_, fun s hvs plane ↦ ?_, hawaits⟩
      · have hnone := hpeer t s plane
        rw [if_pos ⟨ht₀, ((hvoids s).mp hvs).2⟩] at hnone
        rw [← htun, ← hvoid.teiOrig t s plane, ← hnone]
      · have hkept := hpeer t s plane
        rw [if_neg fun hall ↦ hvs ((hvoids s).mpr ⟨hnotices, hall.2⟩)] at hkept
        have horig := hvoid.teiOrig t s plane
        rw [htun] at hkept horig
        exact TunnelEndpoint.ext hkept horig
    · exact .of_tun (hsame.trans htun) (fun s hvs ↦ hnot ((hvoids s).mp hvs).1) hawaits
  · -- the counter is not looked at
    have hsame : h₁ = h₀ := by
      unfold gtphubCheckRestartCounter at hcheck
      cases hcount : getRestartCount p with
      | none =>
        rw [hcount] at hcheck
        exact (pure_eq_ok.mp hcheck).2
      | some restart =>
        rw [hcount] at hcheck
        have hmax : 255 < restart := not_le.mp fun hle ↦ hcounts ⟨restart, hcount, hle⟩
        simp only [if_pos hmax] at hcheck
        exact (pure_eq_ok.mp hcheck).2
    refine .of_tun (by rw [hsame, htun]) ?_ hawaits
    rintro s ⟨pp, restart, h₂, hrec, -⟩
    obtain ⟨-, -, hcount⟩ := hrecovery pp restart h₂ hrec
    exact hcounts ⟨restart, hcount⟩

theorem Passed.after {h₁ : Hub} (hp : Passed lib rx h h₁ t) (hslowly : h₁.expiries t = h.expiries t)
    (hview : h'.view = h₁.view)
    (ha : Awaits (gtpDecode lib rx.buf rx.received rx.side rx.plane rx.now) h₁ h' t) :
    Passed lib rx h h' t := by
  have htun := tun_of_view hview
  refine ⟨by rw [htun, hp.teiRepl], fun s hvs plane ↦ by rw [htun, hp.voided s hvs plane],
    fun s hvs plane ↦ by rw [htun, hp.kept s hvs plane], ?_⟩
  unfold Awaits at ha ⊢
  rwa [hslowly, hp.teiRepl] at ha

/-- On the way to the destination of a Create Request no tunnel is made and none ends. -/
theorem locate_passed {x : Verdict ⊕ Route} (hr : gtphubLocate lib rx h = .ok x h')
    (htype : (gtpDecode lib rx.buf rx.received rx.side rx.plane rx.now).type = gtpCreatePdpReq) :
    h'.tunnels = h.tunnels ∧ ∀ t ∈ h.tunnels, Passed lib rx h h' t := by
  have hquiet {h₁ : Hub} (hv : h₁.view = h.view) (hs : SameSlowly h h₁)
      (hnone : ∀ y, recoveryOf lib rx
        (gtpDecode lib rx.buf rx.received rx.side rx.plane rx.now) h ≠ some y) :
      h₁.tunnels = h.tunnels ∧ ∀ t ∈ h.tunnels, Passed lib rx h h₁ t := by
    refine ⟨tunnels_of_view hv, fun t _ ↦ .of_tun (tun_of_view hv) ?_ (.inl (hs.expiries t))⟩
    rintro s ⟨pp, restart, h₂, hrec, -⟩
    exact hnone _ hrec
  simp only [gtphubLocate] at hr
  split at hr
  · next hinvalid =>
    rw [(pure_eq_ok.mp hr).2]
    refine hquiet rfl (.refl h) fun y hrec ↦ ?_
    obtain ⟨pp, restart, h₂⟩ := y
    have hvalid := (recoveryOf_eq_some.mp hrec).1.1
    simp [hvalid] at hinvalid
  · next hvalid =>
    have hvalid : (gtpDecode lib rx.buf rx.received rx.side rx.plane rx.now).rc.valid = true := by
      simpa using hvalid
    have hecho : (gtpDecode lib rx.buf rx.received rx.side rx.plane rx.now).type ≠ gtpEchoReq := by
      rw [htype]
      decide
    rw [if_neg hecho] at hr
    obtain ⟨o, h₀, hfrom, hr⟩ := bind_eq_ok.mp hr
    have hview := (fromPort_ok hfrom).1
    have hslowly : SameSlowly h h₀ := along_ok (slowly_fromPort rx.side rx.plane rx.fromAddr) hfrom
    cases o with
    | none =>
      rw [(pure_eq_ok.mp hr).2]
      refine hquiet hview hslowly fun y hrec ↦ ?_
      obtain ⟨pp, restart, h₂⟩ := y
      obtain ⟨-, hfrom', -⟩ := recoveryOf_eq_some.mp hrec
      rw [hfrom] at hfrom'
      cases hfrom'
    | some fromPort =>
      have hdel : (gtpDecode lib rx.buf rx.received rx.side rx.plane rx.now).type ≠
          gtpDeletePdpRsp := by
        rw [htype]
        decide
      obtain ⟨h₁, hcheck, hv, hawaits⟩ := route_checked hr hdel
      have hvoid := voided_checkRestartCounter hcheck
      refine ⟨by rw [tunnels_of_view hv, hvoid.tunnels, tunnels_of_view hview], fun t ht ↦ ?_⟩
      have hpassed := checkRestartCounter_passed rfl ⟨hvalid, hecho⟩ hfrom hcheck ht
      refine hpassed.after ?_ hv (hawaits t)
      exact (SameSlowly.trans h h₀ h₁ hslowly
        (along_ok (slowly_checkRestartCounter _) hcheck)).expiries t

end Locate

/-! ## From the destination on -/

/-- A tunnel is left alone, unless it ends. -/
structure LeftAlone (t : ℕ) (h h' : Hub) : Prop where
  nodup : h.tunnels.Nodup → h'.tunnels.Nodup
  alone : h.tunnels.Nodup → t ∈ h'.tunnels →
    t ∈ h.tunnels ∧ h'.tun t = h.tun t ∧ h'.expiries t = h.expiries t

section Create

variable {h h' h'' : Hub} {lib : Lib} {t new : ℕ}

theorem LeftAlone.refl (h : Hub) : LeftAlone t h h := ⟨id, fun _ ht ↦ ⟨ht, rfl, rfl⟩⟩

theorem LeftAlone.trans (h h' h'' : Hub) (ha : LeftAlone t h h') (ha' : LeftAlone t h' h'') :
    LeftAlone t h h'' where
  nodup hnd := ha'.nodup (ha.nodup hnd)
  alone hnd ht := by
    obtain ⟨ht', htun', hexp'⟩ := ha'.alone (ha.nodup hnd) ht
    obtain ⟨ht, htun, hexp⟩ := ha.alone hnd ht'
    exact ⟨ht, htun'.trans htun, hexp'.trans hexp⟩

/-- The tunnels and the queue stay, and so does what the tunnel is. -/
theorem LeftAlone.of_slowly (htunnels : h'.tunnels = h.tunnels) (htun : h'.tun t = h.tun t)
    (hs : SameSlowly h h') : LeftAlone t h h' where
  nodup hnd := by rwa [htunnels]
  alone _ ht := ⟨htunnels ▸ ht, htun, hs.expiries t⟩

theorem expiries_dequeue {item : Item} (hne : item ≠ .tunnel t) :
    (h.delItem item).expiries t = h.expiries t := by
  have hqueue : (h.delItem item).expireSlowly = Expiring.remove h.expireSlowly item :=
    Hub.delItem_exq .slowly
  unfold Hub.expiries Expiring.remove at *
  rw [hqueue, List.filter_filter]
  congr 1
  refine List.filter_congr fun e _ ↦ ?_
  by_cases he : e.item = .tunnel t
  · simp [he, Ne.symm hne]
  · simp [he]

theorem alone_expiringItemDel (ended : ℕ) :
    along (LeftAlone t) (expiringItemDel (.tunnel ended)) h := by
  refine wp_mono (wp_expiringItemDel (.tunnel ended)) ?_ fun _ _ _ ↦ trivial
  rintro _ h' rfl
  refine ⟨fun hnd ↦ hnd.erase ended, fun hnd ht ↦ ?_⟩
  -- what ends is not there any more
  have hne : t ≠ ended := (hnd.mem_erase_iff.mp ht).1
  refine ⟨List.mem_of_mem_erase ht, Hub.dropTunnel_tun _ _ hne, expiries_dequeue ?_⟩
  exact fun heq ↦ hne (Item.tunnel.inj heq).symm

theorem alone_setPeer (hne : t ≠ new) (s : Side) (p : Plane) (pp : Option PeerPort) :
    along (LeftAlone t) (gtphubTunnelEndpointSetPeer new s p pp) h := by
  refine wp_mono (wp_setPeer new s p pp) ?_ fun _ _ _ ↦ trivial
  rintro _ h' rfl
  refine .of_slowly rfl ?_ rfl
  exact Function.update_of_ne hne _ _

theorem alone_portHave (s : Side) (p : Plane) (addr : GsnAddr) (port : ℕ) :
    along (LeftAlone t) (gtphubPortHave lib s p addr port) h := by
  refine along_of_ok fun pp h' hr ↦ ?_
  have hview := (portHave_ok hr).1
  refine .of_slowly (tunnels_of_view hview) (by rw [tun_of_view hview]) ?_
  exact along_ok (slowly_portHave s p addr port) hr

theorem alone_setTeiRepl (hne : t ≠ new) (tei : ℕ) : LeftAlone t h (h.setTeiRepl new tei) :=
  .of_slowly rfl (Hub.setTeiRepl_tun tei hne) rfl

theorem alone_checkReusedTeisLoop (hne : t ≠ new) {l : List ℕ} {teiMin teiMax : ℕ} :
    along (LeftAlone t) (gtphubCheckReusedTeisLoop new l teiMin teiMax) h := by
  induction l generalizing h teiMin teiMax with
  | nil => exact .refl h
  | cons ended l ih =>
    rw [gtphubCheckReusedTeisLoop]
    split
    · exact ih
    · apply along_get_bind
      split
      · exact along_bind LeftAlone.trans (alone_expiringItemDel ended) fun _ h₁ _ ↦ ih
      · split
        · exact .refl h
        · exact along_bind LeftAlone.trans (along_set (alone_setTeiRepl hne _)) fun _ h₁ _ ↦ ih

theorem alone_mapTei (hne : t ≠ new) (p : GtpPacketDesc) (plane : Plane) (tei : ℕ) :
    along (LeftAlone t) (mapTei p new plane tei) h := by
  apply along_get_bind
  refine along_bind LeftAlone.trans (along_set ?_) fun _ h₁ _ ↦ ?_
  · exact .of_slowly rfl (Function.update_of_ne hne _ _) rfl
  · refine along_bind LeftAlone.trans (along_get_bind (alone_checkReusedTeisLoop hne))
      fun b h₂ _ ↦ ?_
    cases b with
    | false => trivial
    | true =>
      simp only [if_true]
      split <;> exact .refl h₂

theorem alone_createPlane (hne : t ≠ new) (p : GtpPacketDesc) (fromCtrl : PeerPort)
    (plane : Plane) :
    along (LeftAlone t) (gtphubCreatePlane lib p fromCtrl new plane) h := by
  unfold gtphubCreatePlane
  split
  · apply along_get_bind
    refine along_bind LeftAlone.trans (alone_portHave p.side plane _ _) fun pp h₁ _ ↦ ?_
    refine along_bind LeftAlone.trans (alone_setPeer hne p.side plane (some pp)) fun _ h₂ _ ↦ ?_
    split
    · apply along_get_bind
      split <;> exact .refl h₂
    · exact along_bind LeftAlone.trans (alone_mapTei hne p plane _) fun p' h₃ _ ↦ .refl h₃
  · exact .refl h

theorem alone_createPlanes (hne : t ≠ new) (p : GtpPacketDesc) (fromCtrl : PeerPort) :
    along (LeftAlone t) (gtphubCreatePlanes lib p fromCtrl new) h := by
  refine along_bind LeftAlone.trans (alone_createPlane hne p fromCtrl .ctrl) fun o h₁ _ ↦ ?_
  cases o with
  | none => exact .refl h₁
  | some p' => exact alone_createPlane hne p' fromCtrl .user

theorem alone_tunnelNew {choice now : ℕ} {toCtrl : PeerPort}
    (hne : t ≠ tallocTunnel choice h.tunnels) :
    along (LeftAlone t) (gtphubTunnelNew choice toCtrl now) h := by
  apply along_get_bind
  refine along_bind LeftAlone.trans (along_set ?_) fun _ h₁ _ ↦ ?_
  · refine ⟨fun hnd ↦ hnd.cons (tallocTunnel_notMem choice h.tunnels), fun _ ht ↦ ?_⟩
    exact ⟨List.mem_of_ne_of_mem hne ht, Function.update_of_ne hne _ _, rfl⟩
  · refine along_bind LeftAlone.trans (along_of_ok fun _ h₂ hadd ↦ ?_) fun _ h₂ _ ↦ ?_
    · have hview := view_expiryAdd hadd
      have htunnels : h₂.tunnels = h₁.tunnels := tunnels_of_view hview
      refine ⟨fun hnd ↦ by rwa [htunnels], fun _ ht ↦
        ⟨htunnels ▸ ht, by rw [tun_of_view hview], ?_⟩⟩
      rw [expiries_add hadd, if_neg]
      exact fun heq ↦ hne (Item.tunnel.inj heq).symm
    · exact along_bind LeftAlone.trans (alone_setPeer hne .ggsn .ctrl (some toCtrl)) fun _ h₃ _ ↦
        .refl h₃

/-- What a Create Request does to the tunnels that there are. If it makes none, it does nothing. -/
theorem handleCtrl_alone {choice : ℕ} {r : Route} {o : Option GtpPacketDesc}
    (hr : gtphubHandleCtrl lib choice r h = .ok o h') (htype : r.p.type = gtpCreatePdpReq) :
    (¬ MakesTunnel r.p → h' = h) ∧ (t ∈ h.tunnels → LeftAlone t h h') := by
  have hnothing (heq : h' = h) :
      (¬ MakesTunnel r.p → h' = h) ∧ (t ∈ h.tunnels → LeftAlone t h h') :=
    ⟨fun _ ↦ heq, fun _ ↦ heq.symm ▸ LeftAlone.refl h⟩
  unfold gtphubHandleCtrl at hr
  split at hr
  · next hplane =>
    rw [gtphubHandlePdpCtx, if_pos (.inl htype), gtphubHandleCreatePdpCtx, if_pos htype] at hr
    cases hside : r.p.side with
    | ggsn =>
      rw [hside] at hr
      exact hnothing (pure_eq_ok.mp hr).2
    | sgsn =>
      cases htun : r.p.tun with
      | some t' =>
        rw [hside, htun] at hr
        exact hnothing (pure_eq_ok.mp hr).2
      | none =>
        rw [hside, htun] at hr
        refine ⟨fun hnot ↦ (hnot ⟨hplane, htype, hside, htun⟩).elim, fun ht ↦ ?_⟩
        have hne : t ≠ tallocTunnel choice h.tunnels :=
          ne_of_mem_of_not_mem ht (tallocTunnel_notMem choice h.tunnels)
        refine along_ok (along_bind LeftAlone.trans (alone_tunnelNew hne) fun new h₁ hnew ↦ ?_) hr
        rw [(tunnelNew_ok hnew).1]
        exact alone_createPlanes hne _ r.fromPort
  · exact hnothing (pure_eq_ok.mp hr).2

end Create

/-! ## The whole request -/

section Request

variable {lib : Lib} {rx : Rx} {h h' : Hub}

/-- A packet comes to where a tunnel is made for it. -/
def ComesToTunnel (lib : Lib) (rx : Rx) (h : Hub) : Prop :=
  ∃ r h₁, gtphubLocate lib rx h = .ok (.inr r) h₁ ∧ MakesTunnel r.p

/-- What a request that is dropped leaves. -/
structure LeavesTunnels (lib : Lib) (rx : Rx) (h h' : Hub) : Prop where
  none_new : ¬ ComesToTunnel lib rx h → h'.tunnels = h.tunnels
  passed : ∀ t ∈ h.tunnels, t ∈ h'.tunnels → Passed lib rx h h' t

theorem handleBuf_leavesTunnels {v : Verdict} (hr : gtphubHandleBuf lib rx h = .ok v h')
    (hnd : h.tunnels.Nodup)
    (htype : (gtpDecode lib rx.buf rx.received rx.side rx.plane rx.now).type = gtpCreatePdpReq)
    (hdropped : v = .drop ∨ v = .done) : LeavesTunnels lib rx h h' := by
  simp only [gtphubHandleBuf] at hr
  obtain ⟨x, h₁, hloc, hr⟩ := bind_eq_ok.mp hr
  obtain ⟨htunnels, hpassed⟩ := locate_passed hloc htype
  cases x with
  | inl v' =>
    rw [(pure_eq_ok.mp hr).2]
    exact ⟨fun _ ↦ htunnels, fun t ht _ ↦ hpassed t ht⟩
  | inr r =>
    obtain ⟨h₀, -, hrouted⟩ := locate_inr hloc
    have htype' : r.p.type = gtpCreatePdpReq := hrouted.type.trans htype
    obtain ⟨o, h₂, hctrl, ⟨-, -, rfl⟩ | ⟨p, p', -, hforward, -⟩⟩ := deliver_ok hr
    · refine ⟨fun hnot ↦ ?_, fun t ht ht' ↦ ?_⟩
      · rw [(handleCtrl_alone (t := 0) hctrl htype').1 fun hmakes ↦ hnot ⟨r, h₁, hloc, hmakes⟩]
        exact htunnels
      · have halone := (handleCtrl_alone hctrl htype').2 (htunnels ▸ ht)
        obtain ⟨-, htun, hexp⟩ := halone.alone (htunnels ▸ hnd) ht'
        obtain ⟨hrepl, hvoided, hkept, hawaits⟩ := hpassed t ht
        refine ⟨by rw [htun, hrepl], fun s hvs plane ↦ by rw [htun, hvoided s hvs plane],
          fun s hvs plane ↦ by rw [htun, hkept s hvs plane], ?_⟩
        unfold Awaits at hawaits ⊢
        rwa [hexp]
    · rcases hdropped with rfl | rfl <;> simp at hforward

/-- A step drops a Create PDP Context Request. -/
structure Handled.DropsRequest (o : Handled) (lib : Lib) (rx : Rx) : Prop where
  event : o.event = .rx rx
  type : (gtpDecode lib rx.buf rx.received rx.side rx.plane rx.now).type = gtpCreatePdpReq
  verdict : o.verdict = .drop ∨ o.verdict = .done

/-- After a restart the SGSN asks for a tunnel without saying where to. -/
def exampleRestartedReq : Rx :=
  exampleRx .sgsn .ctrl 2 (examplePacket gtpCreatePdpReq 0 2 [14, 6]) 8

/-- A tunnel is made and accepted, and then comes a request that is dropped. -/
def exampleDropped : List HubEvent :=
  [exampleResolved, .rx (exampleRecoveryReq 2123 1 5 0x11 0x22 7),
    .rx (exampleCreateRsp 1 0x6d31 0x33 0x44), .rx exampleRestartedReq]

theorem exampleDropped_drops : ∃ o ∈ (hubMachine exampleLib).trace ⟨gtphubInit exampleCfg, none⟩
    exampleDropped, o.DropsRequest exampleLib exampleRestartedReq ∧ 7 ∈ o.before.tunnels ∧
      7 ∈ o.after.tunnels ∧ ((o.before.tun 7).endpoint .sgsn .ctrl).peer ≠ none ∧
        ((o.after.tun 7).endpoint .sgsn .ctrl).peer = none := by
  have hany : ((hubMachine exampleLib).trace ⟨gtphubInit exampleCfg, none⟩ exampleDropped).any
      (fun o ↦ o.event = .rx exampleRestartedReq ∧ o.verdict = .drop ∧ 7 ∈ o.before.tunnels ∧
        7 ∈ o.after.tunnels ∧ ((o.before.tun 7).endpoint .sgsn .ctrl).peer ≠ none ∧
          ((o.after.tun 7).endpoint .sgsn .ctrl).peer = none) = true := by
    decide +kernel
  obtain ⟨o, ho, hall⟩ := List.any_eq_true.mp hany
  obtain ⟨hevent, hverdict, hrest⟩ := of_decide_eq_true hall
  exact ⟨o, ho, ⟨hevent, by decide +kernel, .inl hverdict⟩, hrest⟩

/-- The SGSN asks for a tunnel without addresses and TEIs. -/
def exampleBareReq : Rx :=
  exampleRx .sgsn .ctrl 2 (examplePacket gtpCreatePdpReq 0 1 (exampleImsi ++ exampleApn)) 7

end Request

end OsmoSgsn.Gtphub
