import OsmoSgsn.Gtphub.Tei

/-!
# Tunnels that a Create message ends

A Create message gives the endpoints of one side of a tunnel an address and a TEI. A tunnel with an
endpoint of the same address and TEI is taken to be stale and ends. The check is made once for each
plane for which a TEI is announced, right after that plane is handled. Which tunnels end can be told
from the message and the endpoints before it.
-/

open EStateM

namespace OsmoSgsn.Gtphub

/-! ## Endpoints that are compared -/

/-- What an endpoint is compared by: an address and a TEI, unless one of them is missing. -/
def TunnelEndpoint.gsn (te : TunnelEndpoint) : Option (GsnAddr × ℕ) :=
  if te.teiOrig = 0 then none else te.peer.map fun pp ↦ (pp.addr, te.teiOrig)

theorem Hub.reusesTei_gsn {h : Hub} {t new : ℕ} : h.reusesTei t new = true ↔ ∃ s p x,
    ((h.tun t).endpoint s p).gsn = some x ∧ ((h.tun new).endpoint s p).gsn = some x := by
  have hgsn (te : TunnelEndpoint) (addr : GsnAddr) (tei : ℕ) : te.gsn = some (addr, tei) ↔
      te.teiOrig ≠ 0 ∧ te.teiOrig = tei ∧ te.peer.map PeerPort.addr = some addr := by
    unfold TunnelEndpoint.gsn
    split
    · next hzero => simp [hzero]
    · next hne =>
      rw [Option.map_eq_some_iff, Option.map_eq_some_iff]
      constructor
      · rintro ⟨pp, hpp, heq⟩
        cases heq
        exact ⟨hne, rfl, pp, hpp, rfl⟩
      · rintro ⟨-, rfl, pp, hpp, rfl⟩
        exact ⟨pp, hpp, rfl⟩
  rw [Hub.reusesTei_iff]
  constructor
  · rintro ⟨s, p, addr, hne, heq, hold, hnew⟩
    exact ⟨s, p, (addr, _), (hgsn ..).mpr ⟨hne, rfl, hold⟩,
      (hgsn ..).mpr ⟨heq ▸ hne, heq.symm, hnew⟩⟩
  · rintro ⟨s, p, ⟨addr, tei⟩, hold, hnew⟩
    obtain ⟨hne, htei, hold⟩ := (hgsn ..).mp hold
    obtain ⟨-, htei', hnew⟩ := (hgsn ..).mp hnew
    exact ⟨s, p, addr, hne, htei.trans htei'.symm, hold, hnew⟩

/-! ## Elements that stay -/

section Elements

variable {ie : List Ie} {x y : Ie} {i inst type : ℕ}

theorem gtpieFind_set_of_ne (hx : ie[i]? = some x) (hy : y.type = x.type) (hne : x.type ≠ type) :
    gtpieFind (ie.set i y) type inst = gtpieFind ie type inst := by
  unfold gtpieFind
  rw [gtpieGetie_congr (map_type_set hx hy)]
  cases hj : gtpieGetie ie type inst with
  | none => rfl
  | some j =>
    obtain ⟨z, hz, htype⟩ := gtpieGetie_some hj
    have hij : i ≠ j := by
      rintro rfl
      rw [hx] at hz
      cases hz
      exact hne htype
    simp only [Option.bind_some]
    rw [List.getElem?_set_ne hij]

theorem gtpieGetie_injective {inst' : ℕ} (hi : gtpieGetie ie type inst = some i)
    (hi' : gtpieGetie ie type inst' = some i) : inst = inst' := by
  induction ie generalizing inst inst' i with
  | nil => simp [gtpieGetie] at hi
  | cons z ie ih =>
    unfold gtpieGetie at hi hi'
    split at hi
    · next htype =>
      rw [if_pos htype] at hi'
      cases inst with
      | zero =>
        cases inst' with
        | zero => rfl
        | succ inst' =>
          obtain rfl : 0 = i := Option.some.inj hi
          simp at hi'
      | succ inst =>
        cases inst' with
        | zero =>
          obtain rfl : 0 = i := Option.some.inj hi'
          simp at hi
        | succ inst' =>
          obtain ⟨j, hj, rfl⟩ := Option.map_eq_some_iff.mp hi
          obtain ⟨j', hj', heq⟩ := Option.map_eq_some_iff.mp hi'
          obtain rfl : j' = j := Nat.succ_injective heq
          rw [ih hj hj']
    · next htype =>
      rw [if_neg htype] at hi'
      obtain ⟨j, hj, rfl⟩ := Option.map_eq_some_iff.mp hi
      obtain ⟨j', hj', heq⟩ := Option.map_eq_some_iff.mp hi'
      obtain rfl : j' = j := Nat.succ_injective heq
      exact ih hj hj'

theorem gtpieFind_set_of_inst {inst' : ℕ} (hi : gtpieGetie ie type inst' = some i)
    (hy : y.type = type) (hne : inst ≠ inst') :
    gtpieFind (ie.set i y) type inst = gtpieFind ie type inst := by
  obtain ⟨x, hx, htype⟩ := gtpieGetie_some hi
  unfold gtpieFind
  rw [gtpieGetie_congr (map_type_set hx (hy.trans htype.symm))]
  cases hj : gtpieGetie ie type inst with
  | none => rfl
  | some j =>
    have hij : i ≠ j := by
      rintro rfl
      exact hne (gtpieGetie_injective hj hi)
    simp only [Option.bind_some]
    rw [List.getElem?_set_ne hij]

end Elements

/-! ## One plane -/

section OnePlane

variable {h h' : Hub} {p p' : GtpPacketDesc} {fromCtrl : PeerPort} {t t' : ℕ} {plane : Plane}
  {o : Option GtpPacketDesc}

theorem Hub.setPeer_endpoint_ne (h : Hub) (s : Side) (pl : Plane) (pp : Option PeerPort)
    (hne : t' ≠ t) : ((h.setPeer t s pl pp).tun t').endpoint = (h.tun t').endpoint := by
  funext s' pl'
  rw [Hub.setPeer, Hub.setEndpoint_endpoint, if_neg fun hall ↦ hne hall.1]

theorem Hub.setTeiOrig_endpoint_ne (h : Hub) (s : Side) (pl : Plane) (tei : ℕ) (hne : t' ≠ t) :
    ((h.setTeiOrig t s pl tei).tun t').endpoint = (h.tun t').endpoint := by
  funext s' pl'
  rw [Hub.setTeiOrig, Hub.setEndpoint_endpoint, if_neg fun hall ↦ hne hall.1]

/-- What the check does to a tunnel whose TEI was taken over. -/
theorem rechecked_setTeiOrig {h₁ : Hub} {s : Side} {pp : PeerPort} {tei : ℕ}
    (hnd : h.tunnels.Nodup) (hv : h₁.view = (h.setPeer t s plane (some pp)).view)
    (hcheck : gtphubCheckReusedTeis t (h₁.setTeiOrig t s plane tei) = .ok true h') :
    (h₁.setTeiOrig t s plane tei).tunnels = h.tunnels ∧
      Rechecked (h₁.setTeiOrig t s plane tei) t (h₁.setTeiOrig t s plane tei).tunnels h' := by
  have htunnels : h₁.tunnels = h.tunnels := setPeer_tunnels_of_view hv
  rw [gtphubCheckReusedTeis, get_bind_apply] at hcheck
  refine ⟨htunnels, checkReusedTeisLoop_rechecked ?_ hcheck⟩
  rw [Hub.setTeiOrig, Hub.setEndpoint_tunnels, htunnels]
  exact hnd

/-- The tunnel has the address and the TEI of the message on its plane, and is as before
elsewhere. -/
theorem gsn_setTeiOrig {h₁ : Hub} {s : Side} {pp : PeerPort} {tei : ℕ}
    (hv : h₁.view = (h.setPeer t s plane (some pp)).view) (hne : tei ≠ 0) (s' : Side) (pl : Plane) :
    (((h₁.setTeiOrig t s plane tei).tun t).endpoint s' pl).gsn =
      if s' = s ∧ pl = plane then some (pp.addr, tei) else ((h.tun t).endpoint s' pl).gsn := by
  have htun := tun_of_view hv
  rw [Hub.setTeiOrig, Hub.setEndpoint_endpoint, htun]
  by_cases hhere : s' = s ∧ pl = plane
  · obtain ⟨rfl, rfl⟩ := hhere
    rw [if_pos ⟨rfl, rfl, rfl⟩, if_pos ⟨rfl, rfl⟩]
    simp [TunnelEndpoint.gsn, hne]
  · rw [if_neg fun hall ↦ hhere hall.2, if_neg hhere, Hub.setPeer, Hub.setEndpoint_endpoint,
      if_neg fun hall ↦ hhere hall.2]

/-- The address of the tunnel changes on its plane, and the TEI stays. -/
theorem gsn_setPeer {s : Side} {pp : PeerPort} (s' : Side) (pl : Plane)
    (horig : ((h.tun t).endpoint s plane).teiOrig ≠ 0) :
    (((h.setPeer t s plane (some pp)).tun t).endpoint s' pl).gsn =
      if s' = s ∧ pl = plane then some (pp.addr, ((h.tun t).endpoint s plane).teiOrig)
      else ((h.tun t).endpoint s' pl).gsn := by
  rw [Hub.setPeer, Hub.setEndpoint_endpoint]
  by_cases hhere : s' = s ∧ pl = plane
  · obtain ⟨rfl, rfl⟩ := hhere
    rw [if_pos ⟨rfl, rfl, rfl⟩, if_pos ⟨rfl, rfl⟩]
    simp [TunnelEndpoint.gsn, horig]
  · rw [if_neg fun hall ↦ hhere hall.2, if_neg hhere]

/-- The endpoint that a Create message gives a plane, where the TEI was another one before. -/
def createdGsn (h : Hub) (p : GtpPacketDesc) (fromCtrl : PeerPort) (old : ℕ) (plane : Plane) :
    Option (GsnAddr × ℕ) :=
  match gsnAddrGet p plane.idx, teiFromIe p plane with
  | some addr, some tei =>
    if tei ≠ 0 then some (createAddr h p.side fromCtrl addr, tei)
    else if old ≠ 0 then some (createAddr h p.side fromCtrl addr, old)
    else none
  | _, _ => none

/-- A plane whose TEI is announced, with an address. -/
def Announces (p : GtpPacketDesc) (plane : Plane) : Prop :=
  gsnAddrGet p plane.idx ≠ none ∧ ∃ tei, tei ≠ 0 ∧ teiFromIe p plane = some tei

/-- A tunnel that is not compared equal is kept as it is. -/
theorem PlaneCreated.keeps (hpc : PlaneCreated h p fromCtrl t plane o h') (hnd : h.tunnels.Nodup)
    (ht' : t' ∈ h.tunnels) (hne : t' ≠ t)
    (hkeep : Announces p plane → ∀ s pl x, ((h.tun t').endpoint s pl).gsn = some x →
      (if s = p.side ∧ pl = plane then
        createdGsn h p fromCtrl ((h.tun t).endpoint p.side plane).teiOrig plane
        else ((h.tun t).endpoint s pl).gsn) ≠ some x) :
    t' ∈ h'.tunnels ∧ (h'.tun t').endpoint = (h.tun t').endpoint := by
  cases hpc with
  | missing _ => exact ⟨ht', rfl⟩
  | refused _ _ hv | kept _ _ hv =>
    refine ⟨(setPeer_tunnels_of_view hv).symm ▸ ht', ?_⟩
    rw [tun_of_view hv, Hub.setPeer_endpoint_ne h _ _ _ hne]
  | @mapped h₁ _ pp addr tei haddr hpp htei htei0 hv hcheck =>
    have hann : Announces p plane := ⟨by rw [haddr]; simp, tei, htei0, htei⟩
    obtain ⟨htunnels, hrc⟩ := rechecked_setTeiOrig hnd hv hcheck
    have hends : ((h₁.setTeiOrig t p.side plane tei).tun t').endpoint = (h.tun t').endpoint := by
      rw [Hub.setTeiOrig_endpoint_ne _ _ _ _ hne, tun_of_view hv,
        Hub.setPeer_endpoint_ne h _ _ _ hne]
    have hnot : t' ∉ (h₁.setTeiOrig t p.side plane tei).stale t
        (h₁.setTeiOrig t p.side plane tei).tunnels := by
      intro hstale
      obtain ⟨s, pl, x, hold, hnew⟩ := Hub.reusesTei_gsn.mp (mem_stale.mp hstale).2.2
      rw [hends] at hold
      rw [gsn_setTeiOrig hv htei0] at hnew
      refine hkeep hann s pl x hold ?_
      rw [← hnew, hpp]
      simp [createdGsn, haddr, htei, htei0]
    refine ⟨?_, ?_⟩
    · rw [hrc.tunnels]
      exact List.mem_diff_of_mem (htunnels ▸ ht') hnot
    · rw [hrc.others t' hne hnot, hends]

theorem PlaneCreated.background (hpc : PlaneCreated h p fromCtrl t plane o h')
    (hnd : h.tunnels.Nodup) : h'.background = h.background ∧ h'.tunnels.Sublist h.tunnels := by
  cases hpc with
  | missing _ => exact ⟨rfl, List.Sublist.refl _⟩
  | refused _ _ hv | kept _ _ hv =>
    exact ⟨(congrArg Hub.background hv :), by rw [setPeer_tunnels_of_view hv]⟩
  | @mapped h₁ _ pp addr tei haddr hpp htei htei0 hv hcheck =>
    obtain ⟨htunnels, hrc⟩ := rechecked_setTeiOrig hnd hv hcheck
    refine ⟨hrc.background.trans ?_, htunnels ▸ hrc.sublist⟩
    exact (congrArg Hub.background hv :)

/-- The endpoints of the tunnel after a plane that the loop goes on from. -/
theorem PlaneCreated.gsn (hpc : PlaneCreated h p fromCtrl t plane (some p') h')
    (hnd : h.tunnels.Nodup) :
    createdGsn h p fromCtrl ((h.tun t).endpoint p.side plane).teiOrig plane ≠ none ∧
      ∀ s pl, ((h'.tun t).endpoint s pl).gsn = if s = p.side ∧ pl = plane then
        createdGsn h p fromCtrl ((h.tun t).endpoint p.side plane).teiOrig plane
        else ((h.tun t).endpoint s pl).gsn := by
  generalize ho : some p' = o at hpc
  cases hpc with
  | missing _ | refused _ _ _ => simp at ho
  | @kept _ pp addr htei horig hv haddr hpp =>
    have hcreated : createdGsn h p fromCtrl ((h.tun t).endpoint p.side plane).teiOrig plane =
        some (createAddr h p.side fromCtrl addr, ((h.tun t).endpoint p.side plane).teiOrig) := by
      simp [createdGsn, haddr, htei, horig]
    refine ⟨by rw [hcreated]; simp, fun s pl ↦ ?_⟩
    rw [tun_of_view hv, gsn_setPeer s pl horig, hcreated, hpp]
  | @mapped h₁ _ pp addr tei haddr hpp htei htei0 hv hcheck =>
    have hcreated : createdGsn h p fromCtrl ((h.tun t).endpoint p.side plane).teiOrig plane =
        some (createAddr h p.side fromCtrl addr, tei) := by
      simp [createdGsn, haddr, htei, htei0]
    obtain ⟨htunnels, hrc⟩ := rechecked_setTeiOrig hnd hv hcheck
    refine ⟨by rw [hcreated]; simp, fun s pl ↦ ?_⟩
    rw [hrc.endpoint, gsn_setTeiOrig hv htei0, hcreated, hpp]

end OnePlane

/-! ## Both planes -/

section BothPlanes

variable {h h' : Hub} {lib : Lib} {p p' : GtpPacketDesc} {fromCtrl : PeerPort} {t t' : ℕ}
  {o : Option GtpPacketDesc}

/-- The elements of the user plane are read from the message as it was received. -/
structure SameUser (p p' : GtpPacketDesc) : Prop where
  side : p'.side = p.side
  addr : gsnAddrGet p' Plane.user.idx = gsnAddrGet p Plane.user.idx
  tei : teiFromIe p' .user = teiFromIe p .user

theorem gsnAddrGet_congr {inst : ℕ} (hrc : p'.rc = p.rc)
    (hfind : gtpieFind p'.ie gtpieGsnAddr inst = gtpieFind p.ie gtpieGsnAddr inst) :
    gsnAddrGet p' inst = gsnAddrGet p inst := by
  unfold gsnAddrGet gtpieGettlv
  rw [hrc, hfind]

theorem teiFromIe_congr {plane : Plane} (htype : p'.type = p.type)
    (hfind : gtpieFind p'.ie plane.ieType 0 = gtpieFind p.ie plane.ieType 0) :
    teiFromIe p' plane = teiFromIe p plane := by
  unfold teiFromIe
  rw [htype, hfind]

theorem gsnAddrPut_ne_none_iff {addr : GsnAddr} {inst : ℕ} : gsnAddrPut addr p inst ≠ none ↔
    p.rc = .pduC ∧ ∃ x, gtpieFind p.ie gtpieGsnAddr inst = some x ∧
      x.tlvV.length = addr.length := by
  unfold gsnAddrPut
  by_cases hrc : p.rc = .pduC
  · rw [if_neg (not_not.mpr hrc)]
    cases hi : gtpieGetie p.ie gtpieGsnAddr inst with
    | none => simp [gtpieFind, hi]
    | some i =>
      cases hfind : gtpieFind p.ie gtpieGsnAddr inst with
      | none => simp
      | some x => by_cases hlen : x.tlvV.length = addr.length <;> simp [hrc, hlen]
  · simp [hrc]

theorem sameUser_gsnAddrPut {addr : GsnAddr} (hput : gsnAddrPut addr p Plane.ctrl.idx = some p') :
    SameUser p p' := by
  unfold gsnAddrPut at hput
  split at hput
  · simp at hput
  · split at hput
    · next i x hi hfind =>
      split at hput
      · obtain rfl := Option.some.inj hput
        obtain ⟨y, hy, htype⟩ := gtpieGetie_some hi
        refine ⟨rfl, gsnAddrGet_congr rfl ?_, teiFromIe_congr rfl ?_⟩
        · exact gtpieFind_set_of_inst hi rfl (by decide)
        · exact gtpieFind_set_of_ne hy htype.symm (htype ▸ (ieType_ne_gsnAddr .user).symm)
      · simp at hput
    · simp at hput

/-- A TEI that is announced on the control plane leaves the other elements as they are. -/
theorem announceTei_find {nr type inst : ℕ} (htype : type ≠ Plane.ctrl.ieType) :
    gtpieFind (announceTei p .ctrl nr).ie type inst = gtpieFind p.ie type inst := by
  unfold announceTei
  cases hi : gtpieGetie p.ie Plane.ctrl.ieType 0 with
  | none => rfl
  | some i =>
    obtain ⟨x, hx, hxtype⟩ := gtpieGetie_some hi
    exact gtpieFind_set_of_ne hx hxtype.symm (hxtype ▸ htype.symm)

theorem sameUser_announceTei (nr : ℕ) : SameUser p (announceTei p .ctrl nr) := by
  have hfields := (announceTei_announced .ctrl nr p).2
  refine ⟨announceTei_side p .ctrl nr, gsnAddrGet_congr ?_ ?_, teiFromIe_congr ?_ ?_⟩
  · rw [hfields]
  · exact announceTei_find (ieType_ne_gsnAddr .ctrl).symm
  · rw [hfields]
  · exact announceTei_find (by decide)

theorem gsnAddrPut_announceTei {addr : GsnAddr} {inst : ℕ} (nr : ℕ)
    (hput : gsnAddrPut addr (announceTei p .ctrl nr) inst ≠ none) :
    gsnAddrPut addr p inst ≠ none := by
  have hfields := (announceTei_announced .ctrl nr p).2
  rw [gsnAddrPut_ne_none_iff] at hput ⊢
  rw [announceTei_find (ieType_ne_gsnAddr .ctrl).symm, hfields] at hput
  exact hput

/-- What the loop goes on with after the control plane. -/
theorem PlaneCreated.sameUser (hpc : PlaneCreated h p fromCtrl t .ctrl (some p') h') :
    SameUser p p' ∧ gsnAddrPut (h.localAddr p.side.other .ctrl) p Plane.ctrl.idx ≠ none := by
  generalize ho : some p' = o at hpc
  cases hpc with
  | missing _ | refused _ _ _ => simp at ho
  | kept _ _ _ _ _ => exact ⟨sameUser_gsnAddrPut ho.symm, by rw [← ho]; simp⟩
  | mapped _ _ _ _ _ _ =>
    have hann := sameUser_announceTei (p := p) (h.tun t).teiRepl
    have hput := sameUser_gsnAddrPut ho.symm
    refine ⟨⟨hput.side.trans hann.side, hput.addr.trans hann.addr, hput.tei.trans hann.tei⟩, ?_⟩
    refine gsnAddrPut_announceTei (h.tun t).teiRepl ?_
    rw [← ho]
    simp

/-- A Create message for a tunnel with some endpoints ends a tunnel with others: an endpoint of the
one, as the message leaves it by the time of a check, is one of the other. -/
inductive Evicts (h : Hub) (p : GtpPacketDesc) (fromCtrl : PeerPort)
    (te ends : Side → Plane → TunnelEndpoint) : Prop
  | ctrl (hann : Announces p .ctrl) (s : Side) (pl : Plane) (x : GsnAddr × ℕ)
      (hold : (ends s pl).gsn = some x)
      (hnew : (if s = p.side ∧ pl = .ctrl then
        createdGsn h p fromCtrl (te p.side .ctrl).teiOrig .ctrl else (te s pl).gsn) = some x)
  | user (hctrl : createdGsn h p fromCtrl (te p.side .ctrl).teiOrig .ctrl ≠ none)
      (hput : gsnAddrPut (h.localAddr p.side.other .ctrl) p Plane.ctrl.idx ≠ none)
      (hann : Announces p .user) (s : Side) (pl : Plane) (x : GsnAddr × ℕ)
      (hold : (ends s pl).gsn = some x)
      (hnew : (if s = p.side then createdGsn h p fromCtrl (te p.side pl).teiOrig pl
        else (te s pl).gsn) = some x)

/-- The TEI of the other plane stays as it is. -/
theorem PlaneCreated.teiOrig {s : Side} {pl : Plane} {plane : Plane}
    (hpc : PlaneCreated h p fromCtrl t plane o h') (hnd : h.tunnels.Nodup)
    (hne : ¬ (s = p.side ∧ pl = plane)) :
    ((h'.tun t).endpoint s pl).teiOrig = ((h.tun t).endpoint s pl).teiOrig := by
  cases hpc with
  | missing _ => rfl
  | refused _ _ hv | kept _ _ hv => rw [tun_of_view hv, Hub.setPeer_teiOrig]
  | mapped _ _ _ _ hv hcheck =>
    obtain ⟨-, hrc⟩ := rechecked_setTeiOrig hnd hv hcheck
    rw [hrc.endpoint, Hub.setTeiOrig, Hub.setEndpoint_endpoint, if_neg fun hall ↦ hne hall.2,
      tun_of_view hv, Hub.setPeer_teiOrig]

theorem SameUser.createdGsn (hsame : SameUser p p') {h₁ : Hub}
    (hsender : h₁.sgsnUseSender = h.sgsnUseSender) (old : ℕ) :
    createdGsn h₁ p' fromCtrl old .user = createdGsn h p fromCtrl old .user := by
  unfold Gtphub.createdGsn createAddr
  rw [hsame.addr, hsame.tei, hsame.side, hsender]

/-- A tunnel that is not evicted stays. -/
theorem createPlanes_keeps (hr : gtphubCreatePlanes lib p fromCtrl t h = .ok o h')
    (hnd : h.tunnels.Nodup) (ht' : t' ∈ h.tunnels) (hne : t' ≠ t)
    (hev : ¬ Evicts h p fromCtrl (h.tun t).endpoint (h.tun t').endpoint) : t' ∈ h'.tunnels := by
  have hctrl₀ : Announces p .ctrl → ∀ s pl x, ((h.tun t').endpoint s pl).gsn = some x →
      (if s = p.side ∧ pl = .ctrl then
        createdGsn h p fromCtrl ((h.tun t).endpoint p.side .ctrl).teiOrig .ctrl
        else ((h.tun t).endpoint s pl).gsn) ≠ some x :=
    fun hann s pl x hold hnew ↦ hev (.ctrl hann s pl x hold hnew)
  rcases createPlanes_ok hr with ⟨-, hctrl⟩ | ⟨p₁, h₁, hctrl, huser⟩
  · exact (hctrl.keeps hnd ht' hne hctrl₀).1
  · obtain ⟨ht₁, hends⟩ := hctrl.keeps hnd ht' hne hctrl₀
    obtain ⟨hback, hsub⟩ := hctrl.background hnd
    obtain ⟨hsame, hput⟩ := hctrl.sameUser
    obtain ⟨hcreated, hgsn⟩ := hctrl.gsn hnd
    have hsender : h₁.sgsnUseSender = h.sgsnUseSender :=
      Hub.eq_of_background Hub.sgsnUseSender (fun _ ↦ rfl) hback
    refine (huser.keeps (hnd.sublist hsub) ht₁ hne fun hann s pl x hold hnew ↦ ?_).1
    rw [hends] at hold
    refine hev (.user hcreated hput ?_ s pl x hold ?_)
    · exact ⟨hsame.addr ▸ hann.1, hsame.tei ▸ hann.2⟩
    · have hkept : ((h₁.tun t).endpoint p.side .user).teiOrig =
          ((h.tun t).endpoint p.side .user).teiOrig :=
        hctrl.teiOrig hnd (by simp)
      rw [← hnew, hsame.side, hgsn, hsame.createdGsn hsender, hkept]
      by_cases hside : s = p.side
      · cases pl with
        | ctrl => simp [hside]
        | user => simp [hside]
      · simp [hside]

theorem PlaneCreated.mem_tunnels {plane : Plane} (hpc : PlaneCreated h p fromCtrl t plane o h')
    (hnd : h.tunnels.Nodup) (ht : t ∈ h.tunnels) : t ∈ h'.tunnels := by
  cases hpc with
  | missing _ => exact ht
  | refused _ _ hv | kept _ _ hv => exact (setPeer_tunnels_of_view hv).symm ▸ ht
  | mapped _ _ _ _ hv hcheck =>
    obtain ⟨htunnels, hrc⟩ := rechecked_setTeiOrig hnd hv hcheck
    rw [hrc.tunnels]
    exact List.mem_diff_of_mem (htunnels ▸ ht) fun hstale ↦ (mem_stale.mp hstale).2.1 rfl

/-- The tunnel of the message itself stays. -/
theorem createPlanes_mem_tunnels (hr : gtphubCreatePlanes lib p fromCtrl t h = .ok o h')
    (hnd : h.tunnels.Nodup) (ht : t ∈ h.tunnels) : t ∈ h'.tunnels := by
  rcases createPlanes_ok hr with ⟨-, hctrl⟩ | ⟨p₁, h₁, hctrl, huser⟩
  · exact hctrl.mem_tunnels hnd ht
  · exact huser.mem_tunnels (hnd.sublist (hctrl.background hnd).2) (hctrl.mem_tunnels hnd ht)

theorem createPlanes_background (hr : gtphubCreatePlanes lib p fromCtrl t h = .ok o h')
    (hnd : h.tunnels.Nodup) : h'.background = h.background := by
  rcases createPlanes_ok hr with ⟨-, hctrl⟩ | ⟨p₁, h₁, hctrl, huser⟩
  · exact (hctrl.background hnd).1
  · obtain ⟨hback, hsub⟩ := hctrl.background hnd
    exact ((huser.background (hnd.sublist hsub)).1).trans hback

end BothPlanes

end OsmoSgsn.Gtphub
