import OsmoSgsn.Library.Along
import OsmoSgsn.Gtphub.Evict
import OsmoSgsn.Gtphub.RefCount
import OsmoSgsn.Gtphub.Delivery

/-!
# TEIs that peers have announced

A peer has each TEI for one tunnel at a time, so two tunnels with one TEI of one address cannot both
be in use. When a Create message announces a TEI, the hub ends the other tunnels that it knows it
from. A Create Response need not announce one, though, if there has been one before; the address of
the endpoint is then taken from the message, the old TEI stays, and nothing is compared.
-/

open EStateM

namespace OsmoSgsn.Gtphub

/-- The address and the TEI of an endpoint. -/
def Hub.gsn (h : Hub) (t : ℕ) (s : Side) (pl : Plane) : Option (GsnAddr × ℕ) :=
  ((h.tun t).endpoint s pl).gsn

/-- No two tunnels have endpoints with one address and one TEI. -/
def Hub.Apart (h : Hub) : Prop :=
  ∀ t ∈ h.tunnels, ∀ t' ∈ h.tunnels, t ≠ t' → ∀ s pl x, h.gsn t s pl = some x →
    h.gsn t' s pl ≠ some x

theorem Hub.apart_iff_forall_mem {h : Hub} : h.Apart ↔ ∀ t ∈ h.tunnels, ∀ t' ∈ h.tunnels, t ≠ t' →
    ∀ s ∈ [Side.sgsn, .ggsn], ∀ pl ∈ [Plane.ctrl, .user],
      h.gsn t s pl = none ∨ h.gsn t' s pl ≠ h.gsn t s pl := by
  refine forall₂_congr fun t _ ↦ forall₂_congr fun t' _ ↦ forall_congr' fun _ ↦ ?_
  constructor
  · intro hall s _ pl _
    cases hx : h.gsn t s pl with
    | none => exact .inl rfl
    | some x => exact .inr (hall s pl x hx)
  · intro hall s pl x hx
    have hone := hall s (by cases s <;> simp) pl (by cases pl <;> simp)
    rw [hx] at hone
    exact hone.resolve_left (Option.some_ne_none x)

instance (h : Hub) : Decidable h.Apart := decidable_of_iff _ Hub.apart_iff_forall_mem.symm

/-! ## Endpoints that are only lost -/

/-- Tunnels end and endpoints become void, and no more. -/
structure Sheds (h h' : Hub) : Prop where
  tunnels : ∀ t ∈ h'.tunnels, t ∈ h.tunnels
  gsn : ∀ t s pl, h'.gsn t s pl = h.gsn t s pl ∨ h'.gsn t s pl = none

section Shedding

variable {h h' : Hub} {lib : Lib} {t : ℕ}

theorem Sheds.refl (h : Hub) : Sheds h h := ⟨fun _ ht ↦ ht, fun _ _ _ ↦ .inl rfl⟩

theorem Sheds.trans (h h' h'' : Hub) (hs : Sheds h h') (hs' : Sheds h' h'') : Sheds h h'' where
  tunnels t ht := hs.tunnels t (hs'.tunnels t ht)
  gsn t s pl := by
    rcases hs'.gsn t s pl with heq | hnone
    · rw [heq]
      exact hs.gsn t s pl
    · exact .inr hnone

theorem Sheds.of_same (htunnels : h'.tunnels = h.tunnels) (htun : h'.tun = h.tun) : Sheds h h' where
  tunnels t ht := htunnels ▸ ht
  gsn t s pl := .inl (by rw [Hub.gsn, htun, Hub.gsn])

theorem Sheds.of_view (hv : h'.view = h.view) : Sheds h h' :=
  .of_same (tunnels_of_view hv) (tun_of_view hv)

theorem TunnelEndpoint.gsn_of_peer_none {te : TunnelEndpoint} (hpeer : te.peer = none) :
    te.gsn = none := by
  unfold TunnelEndpoint.gsn
  rw [hpeer]
  simp

theorem TunnelEndpoint.gsn_of_teiOrig_zero {te : TunnelEndpoint} (horig : te.teiOrig = 0) :
    te.gsn = none := by
  unfold TunnelEndpoint.gsn
  rw [if_pos horig]

theorem TunnelEndpoint.gsn_congr {te te' : TunnelEndpoint} (hpeer : te'.peer = te.peer)
    (horig : te'.teiOrig = te.teiOrig) : te'.gsn = te.gsn := by
  unfold TunnelEndpoint.gsn
  rw [hpeer, horig]

theorem Voided.sheds (hv : Voided h h') : Sheds h h' where
  tunnels t ht := hv.tunnels ▸ ht
  gsn t s pl := by
    rcases hv.peer t s pl with hsame | hnone
    · exact .inl (TunnelEndpoint.gsn_congr hsame (hv.teiOrig t s pl))
    · exact .inr (TunnelEndpoint.gsn_of_peer_none hnone)

theorem sheds_dropTunnel (h : Hub) (t : ℕ) : Sheds h (h.dropTunnel t) where
  tunnels _ ht := List.mem_of_mem_erase ht
  gsn t' s pl := by
    by_cases ht : t' = t
    · subst ht
      exact .inr (TunnelEndpoint.gsn_of_peer_none (h.dropTunnel_peer t' s pl))
    · rw [Hub.gsn, Hub.dropTunnel_tun h t ht]
      exact .inl rfl

theorem Sheds.apart (hs : Sheds h h') (ha : h.Apart) : h'.Apart := by
  intro t ht t' ht' hne s pl x hx hx'
  have hold {t : ℕ} (hx : h'.gsn t s pl = some x) : h.gsn t s pl = some x := by
    rcases hs.gsn t s pl with heq | hnone
    · rwa [← heq]
    · rw [hnone] at hx
      simp at hx
  exact ha t (hs.tunnels t ht) t' (hs.tunnels t' ht') hne s pl x (hold hx) (hold hx')

theorem sheds_expiringItemDel (item : Item) : along Sheds (expiringItemDel item) h := by
  refine along_of_ok fun _ h' hr ↦ ?_
  have hdrop : Sheds h (h.dropItem item) := by
    cases item with
    | tunnel t => exact sheds_dropTunnel h t
    | mapping m | pendingDelete pd | resolvedGgsn g | ggsnLookup id => exact .of_same rfl rfl
  exact Sheds.trans h _ h' hdrop (.of_view (expiringItemDel_ok hr))

theorem sheds_expiryTick (exq : Exq) (now : ℕ) : along Sheds (expiryTick exq now) h := by
  have hloop (l : List (Expiring Item)) (h : Hub) : along Sheds (expiryTickLoop now l) h := by
    induction l generalizing h with
    | nil => exact .refl h
    | cons m l ih =>
      rw [expiryTickLoop]
      split
      · refine along_bind Sheds.trans (sheds_expiringItemDel m.item) fun _ h₁ _ ↦ ?_
        exact along_bind Sheds.trans (ih h₁) fun _ h₂ _ ↦ .refl h₂
      · exact .refl h
  exact along_get_bind (hloop (h.exq exq) h)

theorem sheds_gc (now : ℕ) : along Sheds (gtphubGc now) h := by
  refine along_bind Sheds.trans (sheds_expiryTick .quickly now) fun quickly h₁ _ ↦ ?_
  refine along_bind Sheds.trans (sheds_expiryTick .slowly now) fun slowly h₂ _ ↦ ?_
  split
  · exact along_modify (.of_same rfl rfl)
  · exact .refl h₂

theorem sheds_resolvedGgsn (name : Bytes) (addr : GsnAddr) (now : ℕ) :
    along Sheds (gtphubResolvedGgsn lib name addr now) h := by
  refine along_bind Sheds.trans (along_of_ok fun pp h₁ hr ↦ .of_view (portHave_ok hr).1)
    fun pp h₁ _ ↦ along_get_bind ?_
  refine along_bind Sheds.trans (along_set (.of_same rfl rfl)) fun _ h₂ _ ↦ ?_
  refine along_bind Sheds.trans (along_of_ok fun _ h₃ hr ↦ .of_view (view_refCountInc hr))
    fun _ h₃ _ ↦ ?_
  refine along_bind Sheds.trans (along_of_ok fun _ h₄ hr ↦ .of_view (view_expiryAdd hr))
    fun _ h₄ _ ↦ ?_
  exact along_modify (.of_same rfl rfl)

theorem sheds_lookupCb (id : ℕ) (answer : DnsAnswer) (now : ℕ) :
    along Sheds (ggsnLookupCb lib id answer now) h := by
  apply along_get_bind
  cases h.ggsnLookups.find? (·.id = id) with
  | none => exact .refl h
  | some lookup =>
    cases answer with
    | failure =>
      simp only
      split
      · refine along_bind Sheds.trans (along_modify (.of_same rfl rfl)) fun _ h₁ _ ↦ ?_
        exact along_modify (.of_same rfl rfl)
      · exact sheds_expiringItemDel _
    | noAddress => exact sheds_expiringItemDel _
    | address addr =>
      simp only
      split
      · exact along_bind Sheds.trans (sheds_resolvedGgsn _ addr now) fun _ h₁ _ ↦
          sheds_expiringItemDel _
      · exact sheds_expiringItemDel _

end Shedding

/-! ## One plane of a Create message -/

/-- Some endpoints are those of no other tunnel. -/
def Hub.FreeOf (h : Hub) (t : ℕ) (g : Side → Plane → Option (GsnAddr × ℕ)) : Prop :=
  ∀ t' ∈ h.tunnels, t' ≠ t → ∀ s pl x, h.gsn t' s pl = some x → g s pl ≠ some x

/-- No two tunnels apart from one have endpoints with one address and one TEI. -/
def Hub.ApartBut (h : Hub) (t : ℕ) : Prop :=
  ∀ t₁ ∈ h.tunnels, t₁ ≠ t → ∀ t₂ ∈ h.tunnels, t₂ ≠ t → t₁ ≠ t₂ → ∀ s pl x,
    h.gsn t₁ s pl = some x → h.gsn t₂ s pl ≠ some x

theorem Hub.apart_iff {h : Hub} {t : ℕ} (ht : t ∈ h.tunnels) :
    h.Apart ↔ h.ApartBut t ∧ h.FreeOf t (h.gsn t) := by
  constructor
  · intro ha
    exact ⟨fun t₁ ht₁ _ t₂ ht₂ _ hne ↦ ha t₁ ht₁ t₂ ht₂ hne, fun t' ht' hne ↦ ha t' ht' t ht hne⟩
  · rintro ⟨hbut, hfree⟩ t₁ ht₁ t₂ ht₂ hne s pl x hx hx'
    by_cases h₁ : t₁ = t
    · rw [h₁] at hx hne
      exact hfree t₂ ht₂ hne.symm s pl x hx' hx
    · by_cases h₂ : t₂ = t
      · rw [h₂] at hx'
        exact hfree t₁ ht₁ h₁ s pl x hx hx'
      · exact hbut t₁ ht₁ h₁ t₂ ht₂ h₂ hne s pl x hx hx'

/-- The endpoints of a tunnel after a plane of a Create message. -/
def newGsn (h : Hub) (p : GtpPacketDesc) (fromCtrl : PeerPort) (t : ℕ) (plane : Plane) (s : Side)
    (pl : Plane) : Option (GsnAddr × ℕ) :=
  if s = p.side ∧ pl = plane then
    (createdGsn h p fromCtrl ((h.tun t).endpoint p.side plane).teiOrig plane).or (h.gsn t s pl)
  else h.gsn t s pl

section OnePlane

variable {h h' : Hub} {p : GtpPacketDesc} {fromCtrl : PeerPort} {t t' : ℕ} {plane : Plane}
  {o : Option GtpPacketDesc}

theorem createdGsn_missing {old : ℕ}
    (hmiss : gsnAddrGet p plane.idx = none ∨ teiFromIe p plane = none) :
    createdGsn h p fromCtrl old plane = none := by
  rcases hmiss with hmiss | hmiss <;> simp [createdGsn, hmiss]

theorem createdGsn_refused (htei : teiFromIe p plane = some 0) :
    createdGsn h p fromCtrl 0 plane = none := by
  unfold createdGsn
  rw [htei]
  cases gsnAddrGet p plane.idx <;> simp

theorem PlaneCreated.newGsn (hpc : PlaneCreated h p fromCtrl t plane o h') (hnd : h.tunnels.Nodup)
    (s : Side) (pl : Plane) : h'.gsn t s pl = newGsn h p fromCtrl t plane s pl := by
  unfold Gtphub.newGsn Hub.gsn
  cases hpc with
  | missing hmiss =>
    rw [createdGsn_missing hmiss]
    simp
  | refused htei horig hv =>
    rw [horig, createdGsn_refused htei, tun_of_view hv, Hub.setPeer, Hub.setEndpoint_endpoint]
    by_cases hhere : s = p.side ∧ pl = plane
    · -- without a TEI the address does not count
      obtain ⟨rfl, rfl⟩ := hhere
      rw [if_pos ⟨rfl, rfl, rfl⟩, if_pos ⟨rfl, rfl⟩, TunnelEndpoint.gsn_of_teiOrig_zero horig]
      exact TunnelEndpoint.gsn_of_teiOrig_zero horig
    · rw [if_neg fun hall ↦ hhere hall.2, if_neg hhere]
  | @kept _ pp addr htei horig hv haddr hpp =>
    have hcreated : createdGsn h p fromCtrl ((h.tun t).endpoint p.side plane).teiOrig plane =
        some (createAddr h p.side fromCtrl addr, ((h.tun t).endpoint p.side plane).teiOrig) := by
      simp [createdGsn, haddr, htei, horig]
    rw [tun_of_view hv, gsn_setPeer s pl horig, hcreated, hpp]
    rfl
  | @mapped h₁ _ pp addr tei haddr hpp htei htei0 hv hcheck =>
    have hcreated : createdGsn h p fromCtrl ((h.tun t).endpoint p.side plane).teiOrig plane =
        some (createAddr h p.side fromCtrl addr, tei) := by
      simp [createdGsn, haddr, htei, htei0]
    obtain ⟨htunnels, hrc⟩ := rechecked_setTeiOrig hnd hv hcheck
    rw [hrc.endpoint, gsn_setTeiOrig hv htei0, hcreated, hpp]
    rfl

/-- Another tunnel ends if a TEI is announced and it has an endpoint of the tunnel, and otherwise it
stays as it is. -/
theorem PlaneCreated.others (hpc : PlaneCreated h p fromCtrl t plane o h') (hnd : h.tunnels.Nodup)
    (hne : t' ≠ t) : (t' ∈ h'.tunnels ↔ t' ∈ h.tunnels ∧ (Announces p plane →
      ∀ s pl x, h.gsn t' s pl = some x → Gtphub.newGsn h p fromCtrl t plane s pl ≠ some x)) ∧
        (t' ∈ h'.tunnels → ∀ s pl, h'.gsn t' s pl = h.gsn t' s pl) := by
  have hgsn := hpc.newGsn hnd
  have hquiet (htunnels : h'.tunnels = h.tunnels)
      (hends : (h'.tun t').endpoint = (h.tun t').endpoint) (hnot : ¬ Announces p plane) :
      (t' ∈ h'.tunnels ↔ t' ∈ h.tunnels ∧ (Announces p plane →
        ∀ s pl x, h.gsn t' s pl = some x → Gtphub.newGsn h p fromCtrl t plane s pl ≠ some x)) ∧
          (t' ∈ h'.tunnels → ∀ s pl, h'.gsn t' s pl = h.gsn t' s pl) := by
    refine ⟨?_, fun _ s pl ↦ by rw [Hub.gsn, hends, Hub.gsn]⟩
    rw [htunnels, and_iff_left fun hann ↦ (hnot hann).elim]
  cases hpc with
  | missing hmiss =>
    refine hquiet rfl rfl ?_
    rintro ⟨haddr, tei, -, htei⟩
    rcases hmiss with hmiss | hmiss
    · exact haddr hmiss
    · rw [hmiss] at htei
      simp at htei
  | refused htei _ hv | kept htei _ hv _ _ =>
    refine hquiet (setPeer_tunnels_of_view hv) ?_ ?_
    · rw [tun_of_view hv, Hub.setPeer_endpoint_ne h _ _ _ hne]
    · rintro ⟨-, tei, hne0, htei'⟩
      rw [htei] at htei'
      exact hne0 (Option.some.inj htei').symm
  | @mapped h₁ _ pp addr tei haddr hpp htei htei0 hv hcheck =>
    have hann : Announces p plane := ⟨by rw [haddr]; simp, tei, htei0, htei⟩
    obtain ⟨htunnels, hrc⟩ := rechecked_setTeiOrig hnd hv hcheck
    have hends : ((h₁.setTeiOrig t p.side plane tei).tun t').endpoint = (h.tun t').endpoint := by
      rw [Hub.setTeiOrig_endpoint_ne _ _ _ _ hne, tun_of_view hv,
        Hub.setPeer_endpoint_ne h _ _ _ hne]
    have hstale : t' ∈ (h₁.setTeiOrig t p.side plane tei).stale t
        (h₁.setTeiOrig t p.side plane tei).tunnels ↔ t' ∈ h.tunnels ∧ ∃ s pl x,
          h.gsn t' s pl = some x ∧ Gtphub.newGsn h p fromCtrl t plane s pl = some x := by
      rw [mem_stale, htunnels, Hub.reusesTei_gsn, and_iff_right hne, hends]
      refine and_congr_right fun _ ↦ exists_congr fun s ↦ exists_congr fun pl ↦
        exists_congr fun x ↦ and_congr_right fun _ ↦ ?_
      rw [← hgsn s pl, Hub.gsn, hrc.endpoint]
    have hmem : t' ∈ h'.tunnels ↔ t' ∈ h.tunnels ∧ t' ∉ (h₁.setTeiOrig t p.side plane tei).stale t
        (h₁.setTeiOrig t p.side plane tei).tunnels := by
      rw [hrc.tunnels, List.Nodup.mem_sdiff_iff (htunnels ▸ hnd), htunnels]
    refine ⟨?_, fun ht' s pl ↦ ?_⟩
    · rw [hmem, hstale]
      constructor
      · rintro ⟨ht', hnot⟩
        exact ⟨ht', fun _ s pl x hx hx' ↦ hnot ⟨ht', s, pl, x, hx, hx'⟩⟩
      · rintro ⟨ht', hfree⟩
        refine ⟨ht', ?_⟩
        rintro ⟨-, s, pl, x, hx, hx'⟩
        exact hfree hann s pl x hx hx'
    · rw [Hub.gsn, hrc.others t' hne (hmem.mp ht').2, hends, Hub.gsn]

/-- The other tunnels stay apart, and the tunnel itself is apart from them if a TEI is announced or
its new endpoints are free. -/
theorem PlaneCreated.apart (hpc : PlaneCreated h p fromCtrl t plane o h') (hnd : h.tunnels.Nodup)
    (hbut : h.ApartBut t) : h'.ApartBut t ∧ (h'.FreeOf t (h'.gsn t) ↔
      Announces p plane ∨ h.FreeOf t (Gtphub.newGsn h p fromCtrl t plane)) := by
  have hothers {t' : ℕ} (hne : t' ≠ t) := hpc.others hnd hne
  constructor
  · intro t₁ ht₁ hne₁ t₂ ht₂ hne₂ hne s pl x
    rw [(hothers hne₁).2 ht₁, (hothers hne₂).2 ht₂]
    exact hbut t₁ ((hothers hne₁).1.mp ht₁).1 hne₁ t₂ ((hothers hne₂).1.mp ht₂).1 hne₂ hne s pl x
  · constructor
    · intro hfree
      by_cases hann : Announces p plane
      · exact .inl hann
      · refine .inr fun t' ht' hne s pl x hx ↦ ?_
        have hstays : t' ∈ h'.tunnels :=
          (hothers hne).1.mpr ⟨ht', fun hann' ↦ (hann hann').elim⟩
        rw [← hpc.newGsn hnd]
        exact hfree t' hstays hne s pl x (((hothers hne).2 hstays s pl).trans hx)
    · intro hor t' ht' hne s pl x hx
      obtain ⟨ht, hchecked⟩ := (hothers hne).1.mp ht'
      rw [(hothers hne).2 ht'] at hx
      rw [hpc.newGsn hnd]
      rcases hor with hann | hfree
      · exact hchecked hann s pl x hx
      · exact hfree t' ht hne s pl x hx

end OnePlane

/-! ## Both planes -/

section BothPlanes

variable {h h' : Hub} {p p' : GtpPacketDesc} {fromCtrl : PeerPort} {t : ℕ} {plane : Plane}
  {lib : Lib} {o : Option GtpPacketDesc}

/-- An endpoint of a tunnel is that of no other one. -/
def Hub.Unclaimed (h : Hub) (t : ℕ) (s : Side) (pl : Plane) (g : Option (GsnAddr × ℕ)) : Prop :=
  ∀ t' ∈ h.tunnels, t' ≠ t → ∀ x, g = some x → h.gsn t' s pl ≠ some x

theorem freeOf_newGsn_iff (hold : h.Unclaimed t p.side plane (h.gsn t p.side plane)) :
    h.FreeOf t (newGsn h p fromCtrl t plane) ↔ h.FreeOf t (h.gsn t) ∧ h.Unclaimed t p.side plane
      (createdGsn h p fromCtrl ((h.tun t).endpoint p.side plane).teiOrig plane) := by
  unfold Hub.FreeOf newGsn
  generalize createdGsn h p fromCtrl ((h.tun t).endpoint p.side plane).teiOrig plane = g
  constructor
  · intro hfree
    refine ⟨fun t' ht' hne s pl x hx ↦ ?_, fun t' ht' hne x hg hx ↦ ?_⟩
    · by_cases hhere : s = p.side ∧ pl = plane
      · obtain ⟨rfl, rfl⟩ := hhere
        exact fun hx' ↦ hold t' ht' hne x hx' hx
      · have hone := hfree t' ht' hne s pl x hx
        rwa [if_neg hhere] at hone
    · have hone := hfree t' ht' hne p.side plane x hx
      rw [if_pos ⟨rfl, rfl⟩, hg] at hone
      exact hone rfl
  · rintro ⟨hfree, hun⟩ t' ht' hne s pl x hx
    split
    · next hhere =>
      obtain ⟨rfl, rfl⟩ := hhere
      cases g with
      | none => exact hfree t' ht' hne _ _ x hx
      | some y => exact fun hxy ↦ hun t' ht' hne x hxy hx
    · exact hfree t' ht' hne s pl x hx

/-- The control plane of a Create message is in order, and the user plane is looked at. -/
def CtrlPasses (h : Hub) (p : GtpPacketDesc) (fromCtrl : PeerPort) (t : ℕ) : Prop :=
  createdGsn h p fromCtrl ((h.tun t).endpoint p.side .ctrl).teiOrig .ctrl ≠ none ∧
    gsnAddrPut (h.localAddr p.side.other .ctrl) p Plane.ctrl.idx ≠ none

theorem gsnAddrPut_announceTei_iff {addr : GsnAddr} {inst nr : ℕ} :
    gsnAddrPut addr (announceTei p .ctrl nr) inst ≠ none ↔ gsnAddrPut addr p inst ≠ none := by
  have hfields := (announceTei_announced .ctrl nr p).2
  rw [gsnAddrPut_ne_none_iff, gsnAddrPut_ne_none_iff,
    announceTei_find (ieType_ne_gsnAddr .ctrl).symm, hfields]

theorem PlaneCreated.passes_iff (hpc : PlaneCreated h p fromCtrl t .ctrl o h')
    (hnd : h.tunnels.Nodup) : CtrlPasses h p fromCtrl t ↔ o ≠ none := by
  cases ho : o with
  | some p₁ =>
    rw [ho] at hpc
    exact iff_of_true ⟨(hpc.gsn hnd).1, hpc.sameUser.2⟩ (Option.some_ne_none p₁)
  | none =>
    refine iff_of_false ?_ (not_not.mpr rfl)
    rintro ⟨hcreated, hput⟩
    cases hpc with
    | missing hmiss => exact hcreated (createdGsn_missing hmiss)
    | refused htei horig _ =>
      rw [horig] at hcreated
      exact hcreated (createdGsn_refused htei)
    | kept _ _ _ _ _ => exact hput ho
    | mapped _ _ _ _ _ _ => exact gsnAddrPut_announceTei_iff.mpr hput ho

/-- A Create message gives a tunnel an endpoint of another one without a check: the address is
replaced on a plane for which no TEI is announced, and no plane follows for which one is. -/
inductive Reclaims (h : Hub) (p : GtpPacketDesc) (fromCtrl : PeerPort) (t : ℕ) : Prop
  | ctrl (hsilent : ¬ Announces p .ctrl) (hlast : ¬ (CtrlPasses h p fromCtrl t ∧ Announces p .user))
      (t' : ℕ) (ht' : t' ∈ h.tunnels) (hne : t' ≠ t) (x : GsnAddr × ℕ)
      (hnew : createdGsn h p fromCtrl ((h.tun t).endpoint p.side .ctrl).teiOrig .ctrl = some x)
      (hold : h.gsn t' p.side .ctrl = some x)
  | user (hpasses : CtrlPasses h p fromCtrl t) (hsilent : ¬ Announces p .user)
      (t' : ℕ) (ht' : t' ∈ h.tunnels) (hne : t' ≠ t) (x : GsnAddr × ℕ)
      (hnew : createdGsn h p fromCtrl ((h.tun t).endpoint p.side .user).teiOrig .user = some x)
      (hold : h.gsn t' p.side .user = some x)
      (hstays : Announces p .ctrl → h.gsn t' p.side .ctrl ≠
        createdGsn h p fromCtrl ((h.tun t).endpoint p.side .ctrl).teiOrig .ctrl)

theorem SameUser.announces_iff (hsame : SameUser p p') :
    Announces p' .user ↔ Announces p .user := by
  unfold Announces
  rw [hsame.addr, hsame.tei]

/-- Another tunnel is still there after the control plane, exactly if it does not have the endpoint
that the tunnel gets there, or that is not checked. -/
theorem PlaneCreated.stays_iff {p₁ : GtpPacketDesc} {h₁ : Hub}
    (hpc : PlaneCreated h p fromCtrl t .ctrl (some p₁) h₁) (hnd : h.tunnels.Nodup)
    (hfree : h.FreeOf t (h.gsn t)) {t' : ℕ} (hne : t' ≠ t) :
    t' ∈ h₁.tunnels ↔ t' ∈ h.tunnels ∧ (Announces p .ctrl → h.gsn t' p.side .ctrl ≠
      createdGsn h p fromCtrl ((h.tun t).endpoint p.side .ctrl).teiOrig .ctrl) := by
  have hpasses : CtrlPasses h p fromCtrl t := (hpc.passes_iff hnd).mpr (Option.some_ne_none p₁)
  obtain ⟨z, hcreated⟩ := Option.ne_none_iff_exists'.mp hpasses.1
  have hnew : Gtphub.newGsn h p fromCtrl t .ctrl p.side .ctrl = some z := by
    rw [Gtphub.newGsn, if_pos ⟨rfl, rfl⟩, hcreated, Option.some_or]
  rw [(hpc.others hnd hne).1, hcreated]
  refine and_congr_right fun ht' ↦ forall_congr' fun _ ↦ ⟨fun hall heq ↦ ?_, fun hnot s pl x hx ↦ ?_⟩
  · exact hall p.side .ctrl z heq hnew
  · by_cases hhere : s = p.side ∧ pl = .ctrl
    · obtain ⟨rfl, rfl⟩ := hhere
      rw [hnew]
      exact fun heq ↦ hnot (hx.trans heq.symm)
    · -- elsewhere the tunnel has the endpoints that it had
      rw [Gtphub.newGsn, if_neg hhere]
      exact hfree t' ht' hne s pl x hx

/-- **The check of a Create message.** Tunnels that were apart stay apart exactly if the message
does not reclaim an endpoint. -/
theorem createPlanes_apart_iff (hr : gtphubCreatePlanes lib p fromCtrl t h = .ok o h')
    (hnd : h.tunnels.Nodup) (ht : t ∈ h.tunnels) (ha : h.Apart) :
    h'.Apart ↔ ¬ Reclaims h p fromCtrl t := by
  obtain ⟨hbut, hfree⟩ := (Hub.apart_iff ht).mp ha
  have hold (pl : Plane) : h.Unclaimed t p.side pl (h.gsn t p.side pl) :=
    fun t' ht' hne x hx hx' ↦ hfree t' ht' hne _ _ x hx' hx
  have ht' : t ∈ h'.tunnels := createPlanes_mem_tunnels hr hnd ht
  rw [Hub.apart_iff ht']
  rcases createPlanes_ok hr with ⟨-, hctrl⟩ | ⟨p₁, h₁, hctrl, huser⟩
  · -- the loop ends at the control plane
    obtain ⟨hbut', hiff⟩ := hctrl.apart hnd hbut
    have hstops : ¬ CtrlPasses h p fromCtrl t := fun hpasses ↦ (hctrl.passes_iff hnd).mp hpasses rfl
    rw [and_iff_right hbut', hiff, freeOf_newGsn_iff (hold .ctrl), and_iff_right hfree]
    constructor
    · intro hor hrec
      cases hrec with
      | ctrl hsilent _ t' ht' hne x hnew hold =>
        exact (hor.resolve_left hsilent) t' ht' hne x hnew hold
      | user hpasses => exact hstops hpasses
    · intro hnot
      by_cases hann : Announces p .ctrl
      · exact .inl hann
      · refine .inr fun t' ht' hne x hnew hx ↦ hnot ?_
        exact .ctrl hann (fun hboth ↦ hstops hboth.1) t' ht' hne x hnew hx
  · obtain ⟨hbut₁, hiff₁⟩ := hctrl.apart hnd hbut
    obtain ⟨hback, hsub⟩ := hctrl.background hnd
    have hnd₁ := hnd.sublist hsub
    obtain ⟨hbut', hiff⟩ := huser.apart hnd₁ hbut₁
    have hsame := hctrl.sameUser.1
    have hpasses : CtrlPasses h p fromCtrl t :=
      (hctrl.passes_iff hnd).mpr (Option.some_ne_none p₁)
    have hothers {t' : ℕ} (hne : t' ≠ t) := hctrl.others hnd hne
    have hkept : ((h₁.tun t).endpoint p.side .user).teiOrig =
        ((h.tun t).endpoint p.side .user).teiOrig := hctrl.teiOrig hnd (by simp)
    have hgsn : h₁.gsn t p.side .user = h.gsn t p.side .user := by
      rw [hctrl.newGsn hnd, newGsn, if_neg (by simp)]
    have hold₁ : h₁.Unclaimed t p₁.side .user (h₁.gsn t p₁.side .user) := by
      intro t' ht' hne x hx
      rw [hsame.side] at hx ⊢
      rw [(hothers hne).2 ht']
      exact hold .user t' ((hothers hne).1.mp ht').1 hne x (hgsn ▸ hx)
    have hsender : h₁.sgsnUseSender = h.sgsnUseSender :=
      Hub.eq_of_background Hub.sgsnUseSender (fun _ ↦ rfl) hback
    rw [and_iff_right hbut', hiff, freeOf_newGsn_iff hold₁, hiff₁, freeOf_newGsn_iff (hold .ctrl),
      and_iff_right hfree, hsame.announces_iff, hsame.createdGsn hsender, hsame.side, hkept]
    constructor
    · intro hor hrec
      cases hrec with
      | ctrl hsilent hlast t' ht' hne x hnew hold =>
        have huser : ¬ Announces p .user := fun hann ↦ hlast ⟨hpasses, hann⟩
        exact ((hor.resolve_left huser).1.resolve_left hsilent) t' ht' hne x hnew hold
      | user _ hsilent t' ht' hne x hnew hold hstays =>
        -- another tunnel with the endpoint is still there after the control plane
        have hstays' : t' ∈ h₁.tunnels := (hctrl.stays_iff hnd hfree hne).mpr ⟨ht', hstays⟩
        refine (hor.resolve_left hsilent).2 t' hstays' hne x hnew ?_
        rw [(hothers hne).2 hstays']
        exact hold
    · intro hnot
      by_cases huser : Announces p .user
      · exact .inl huser
      · refine .inr ⟨?_, fun t' ht' hne x hnew hx ↦ hnot ?_⟩
        · by_cases hann : Announces p .ctrl
          · exact .inl hann
          · refine .inr fun t' ht' hne x hnew hx ↦ hnot ?_
            exact .ctrl hann (fun hboth ↦ huser hboth.2) t' ht' hne x hnew hx
        · obtain ⟨ht, hstays⟩ := (hctrl.stays_iff hnd hfree hne).mp ht'
          rw [(hothers hne).2 ht'] at hx
          exact .user hpasses huser t' ht hne x hnew hx hstays

end BothPlanes

/-! ## Steps and runs -/

section Step

variable {lib : Lib} {rx : Rx} {h h' : Hub} {choice : ℕ} {r : Route} {o : Option GtpPacketDesc}

/-- A Create Response on the control plane reclaims an endpoint for its tunnel. -/
def Route.Reclaims (r : Route) (h : Hub) : Prop :=
  (r.p.plane = .ctrl ∧ r.p.type = gtpCreatePdpRsp ∧ r.p.side = .ggsn) ∧
    ∃ t, r.p.tun = some t ∧ Gtphub.Reclaims h r.p r.fromPort t

/-- A datagram is such a response. -/
def ReclaimsTei (lib : Lib) (rx : Rx) (h : Hub) : Prop :=
  ∃ r h₁, gtphubLocate lib rx h = .ok (.inr r) h₁ ∧ r.Reclaims h₁

/-- A new tunnel has no TEIs yet, and none of its planes goes without one. -/
theorem not_reclaims_of_new {p : GtpPacketDesc} {fromCtrl : PeerPort} {t : ℕ}
    (hnew : ∀ pl, ((h.tun t).endpoint p.side pl).teiOrig = 0) :
    ¬ Gtphub.Reclaims h p fromCtrl t := by
  have hann {pl : Plane} {x : GsnAddr × ℕ} (hx : createdGsn h p fromCtrl
      ((h.tun t).endpoint p.side pl).teiOrig pl = some x) : Announces p pl := by
    rw [hnew] at hx
    by_contra hnot
    cases haddr : gsnAddrGet p pl.idx with
    | none =>
      rw [createdGsn_missing (.inl haddr)] at hx
      simp at hx
    | some addr =>
      cases htei : teiFromIe p pl with
      | none =>
        rw [createdGsn_missing (.inr htei)] at hx
        simp at hx
      | some tei =>
        by_cases hzero : tei = 0
        · rw [hzero] at htei
          rw [createdGsn_refused htei] at hx
          simp at hx
        · exact hnot ⟨by rw [haddr]; simp, tei, hzero, htei⟩
  intro hrec
  cases hrec with
  | ctrl hsilent _ _ _ _ _ hnew _ => exact hsilent (hann hnew)
  | user _ hsilent _ _ _ _ hnew _ _ => exact hsilent (hann hnew)

/-- A tunnel without TEIs is apart from all others. -/
theorem apart_addTunnel {t : ℕ} {toCtrl : PeerPort} (ha : h.Apart)
    (hv : h'.view = ((h.addTunnel t).setPeer t .ggsn .ctrl (some toCtrl)).view) : h'.Apart := by
  have htunnels : h'.tunnels = t :: h.tunnels := tunnels_of_view hv
  have hnone (s : Side) (pl : Plane) : h'.gsn t s pl = none := by
    refine TunnelEndpoint.gsn_of_teiOrig_zero ?_
    rw [tun_of_view hv, Hub.setPeer_teiOrig, Hub.addTunnel_endpoint]
  have hsame {t' : ℕ} (hne : t' ≠ t) (s : Side) (pl : Plane) : h'.gsn t' s pl = h.gsn t' s pl := by
    rw [Hub.gsn, tun_of_view hv, Hub.setPeer_endpoint_ne _ _ _ _ hne, Hub.addTunnel_tun hne,
      Hub.gsn]
  have hmem : t ∈ h'.tunnels := by
    rw [htunnels]
    exact List.mem_cons_self
  refine (Hub.apart_iff hmem).mpr
    ⟨fun t₁ ht₁ hne₁ t₂ ht₂ hne₂ hne s pl x ↦ ?_, fun _ _ _ s pl x _ ↦ ?_⟩
  · rw [htunnels] at ht₁ ht₂
    rw [hsame hne₁, hsame hne₂]
    exact ha t₁ (List.mem_of_ne_of_mem hne₁ ht₁) t₂ (List.mem_of_ne_of_mem hne₂ ht₂) hne s pl x
  · rw [hnone]
    simp

theorem handleCtrl_apart_iff (hr : gtphubHandleCtrl lib choice r h = .ok o h')
    (hnd : h.tunnels.Nodup) (ha : h.Apart) (htun : ∀ t, r.p.tun = some t → t ∈ h.tunnels) :
    h'.Apart ↔ ¬ r.Reclaims h := by
  have hsheds (hs : Sheds h h') (hnot : ¬ r.Reclaims h) : h'.Apart ↔ ¬ r.Reclaims h :=
    iff_of_true (hs.apart ha) hnot
  have hother (htype : r.p.type ≠ gtpCreatePdpRsp) : ¬ r.Reclaims h := fun hrec ↦ htype hrec.1.2.1
  unfold gtphubHandleCtrl at hr
  split at hr
  · next hplane =>
    unfold gtphubHandlePdpCtx at hr
    split at hr
    · by_cases htype : r.p.type = gtpCreatePdpReq
      · have hnot : ¬ r.Reclaims h := hother (by rw [htype]; decide)
        rcases createReq_ok htype hr with ⟨-, -, rfl⟩ | ⟨hside, -, t, h₁, ht, hv, hr⟩
        · exact hsheds (.refl h') hnot
        · refine iff_of_true ?_ hnot
          have htunnels : h₁.tunnels = t :: h.tunnels := tunnels_of_view hv
          refine (createPlanes_apart_iff hr ?_ ?_ (apart_addTunnel ha hv)).mpr
            (not_reclaims_of_new fun pl ↦ ?_)
          · rw [htunnels]
            exact hnd.cons ht
          · rw [htunnels]
            exact List.mem_cons_self
          · rw [tun_of_view hv, Hub.setPeer_teiOrig, Hub.addTunnel_endpoint]
      · next hcreate =>
        have hrsp := hcreate.resolve_left htype
        rw [gtphubHandleCreatePdpCtx, if_neg htype] at hr
        cases hside : r.p.side with
        | sgsn =>
          rw [hside] at hr
          rw [(pure_eq_ok.mp hr).2]
          refine iff_of_true ha fun hrec ↦ ?_
          rw [hrec.1.2.2] at hside
          simp at hside
        | ggsn =>
          cases ht : r.p.tun with
          | none =>
            rw [hside, ht] at hr
            exact (throw_eq_ok.mp hr).elim
          | some t =>
            rw [hside, ht] at hr
            simp only [get_bind_apply] at hr
            split at hr
            · exact (throw_eq_ok.mp hr).elim
            · rw [createPlanes_apart_iff hr hnd (htun t ht) ha, not_iff_not]
              constructor
              · exact fun hrec ↦ ⟨⟨hplane, hrsp, hside⟩, t, ht, hrec⟩
              · rintro ⟨-, t', ht', hrec⟩
                rw [ht] at ht'
                cases ht'
                exact hrec
    · next hcreate =>
      have hnot : ¬ r.Reclaims h := hother fun htype ↦ hcreate (.inr htype)
      split at hr
      · rcases deleteReq_ok hr with ⟨-, rfl⟩ | ⟨pd, -, -, hv⟩
        · exact hsheds (.refl h') hnot
        · exact hsheds (Sheds.trans h (h.noteDelete pd) h' (.of_same rfl rfl) (.of_view hv)) hnot
      · split at hr
        · rcases deleteRsp_ok hr with ⟨-, rfl⟩ | ⟨pd, -, -, ⟨-, hv⟩ | ⟨-, hv⟩⟩
          · exact hsheds (.refl h') hnot
          · have hanswer : Sheds h (h.answerDelete pd r.p.side false) := .of_same rfl rfl
            exact hsheds (Sheds.trans h _ h' hanswer (.of_view hv)) hnot
          · have hanswer : Sheds h (h.answerDelete pd r.p.side true) := .of_same rfl rfl
            refine hsheds (Sheds.trans h _ h' hanswer ?_) hnot
            exact Sheds.trans _ _ h' (sheds_dropTunnel _ pd.tun) (.of_view hv)
        · rw [(pure_eq_ok.mp hr).2]
          exact iff_of_true ha hnot
  · next hplane =>
    rw [(pure_eq_ok.mp hr).2]
    exact iff_of_true ha fun hrec ↦ hplane hrec.1.1

/-- A datagram keeps the tunnels apart exactly if it does not reclaim an endpoint. -/
theorem handleBuf_apart_iff {v : Verdict} (hr : gtphubHandleBuf lib rx h = .ok v h')
    (hnd : h.tunnels.Nodup) (ha : h.Apart) : h'.Apart ↔ ¬ ReclaimsTei lib rx h := by
  simp only [gtphubHandleBuf] at hr
  obtain ⟨x, h₁, hloc, hr⟩ := bind_eq_ok.mp hr
  cases x with
  | inl v' =>
    rw [(pure_eq_ok.mp hr).2]
    refine iff_of_true ?_ ?_
    · rcases locate_inl hloc with hvoid | ⟨-, h₂, h₃, fromPort, p', t, hv, hvoid, -, hend⟩
      · exact hvoid.sheds.apart ha
      · have hends : Sheds h₃ (h₃.endTunnel t p'.side) :=
          Sheds.trans _ (h₃.dropTunnel t) _ (sheds_dropTunnel h₃ t) (.of_same rfl rfl)
        refine Sheds.apart ?_ ha
        refine Sheds.trans h h₂ h₁ (.of_view hv) ?_
        exact Sheds.trans h₂ h₃ h₁ hvoid.sheds (Sheds.trans h₃ _ h₁ hends (.of_view hend.view))
    · rintro ⟨r, h₂, hloc', -⟩
      rw [hloc] at hloc'
      cases hloc'
  | inr r =>
    obtain ⟨h₀, hv, hrouted⟩ := locate_inr hloc
    have hvoid : Voided h h₁ := Voided.trans (.of_view hv) hrouted.voided
    obtain ⟨o, h₂, hctrl, hend⟩ := deliver_ok hr
    have hrec : ReclaimsTei lib rx h ↔ r.Reclaims h₁ := by
      constructor
      · rintro ⟨r', h₂, hloc', hrec⟩
        rw [hloc] at hloc'
        cases hloc'
        exact hrec
      · exact fun hrec ↦ ⟨r, h₁, hloc, hrec⟩
    have htun (t : ℕ) (ht : r.p.tun = some t) : t ∈ h₁.tunnels := by
      obtain ⟨fromTei, hun, -⟩ := hrouted.destination
      exact hun.mem_tunnels ht
    rw [hrec, ← handleCtrl_apart_iff hctrl (hvoid.tunnels ▸ hnd) (hvoid.sheds.apart ha) htun]
    rcases hend with ⟨-, -, rfl⟩ | ⟨p, p', -, -, hfwd⟩
    · exact Iff.rfl
    · obtain ⟨htunnels, htun'⟩ := hfwd.fewer
      exact ⟨(Sheds.of_same htunnels.symm htun'.symm).apart, (Sheds.of_same htunnels htun').apart⟩

/-- An event that reclaims an endpoint. -/
def HubEvent.ReclaimsTei (lib : Lib) (h : Hub) : HubEvent → Prop
  | .rx rx => Gtphub.ReclaimsTei lib rx h
  | _ => False

theorem handle_apart_iff {e : HubEvent} {v : Verdict} (hr : e.handle lib h = .ok v h')
    (hnd : h.tunnels.Nodup) (ha : h.Apart) : h'.Apart ↔ ¬ e.ReclaimsTei lib h := by
  have hquiet {m : HubM Unit} (hm : along Sheds m h)
      (hr : (m >>= fun _ ↦ pure .done : HubM Verdict) h = .ok v h') : h'.Apart ↔ ¬ False := by
    obtain ⟨_, h₁, hrun, hr⟩ := bind_eq_ok.mp hr
    rw [(pure_eq_ok.mp hr).2]
    exact iff_of_true ((along_ok hm hrun).apart ha) id
  cases e with
  | rx rx => exact handleBuf_apart_iff hr hnd ha
  | resolvedGgsn name addr now => exact hquiet (sheds_resolvedGgsn name addr now) hr
  | lookupCb id answer now => exact hquiet (sheds_lookupCb id answer now) hr
  | gc now => exact hquiet (sheds_gc now) hr

end Step

section Run

variable {lib : Lib}

/-- As long as the hub runs, its tunnels are apart. -/
def System.Apart (s : System) : Prop := s.fault = none → s.hub.Apart

/-- An event that is handled to its end reclaims no endpoint. -/
def KeepsApart (lib : Lib) (s : System) (e : HubEvent) : Prop :=
  s.fault = none → ∀ v h', e.handle lib s.hub = .ok v h' → ¬ e.ReclaimsTei lib s.hub

theorem step_apart_iff {s : System} {e : HubEvent} (hs : s.Keeps Hub.Sound (· ≠ .refCountZero))
    (ha : s.Apart) : ((hubMachine lib).step s e).1.Apart ↔ KeepsApart lib s e := by
  obtain ⟨h, fault⟩ := s
  simp only [hubMachine, System.Apart, KeepsApart] at ha ⊢
  cases fault with
  | some f => simp
  | none =>
    have hnd : h.tunnels.Nodup := (hs.inv rfl).linked.tunnels
    cases hr : e.handle lib h with
    | ok v h' =>
      constructor
      · exact fun hapart _ _ _ _ ↦ (handle_apart_iff hr hnd (ha rfl)).mp (hapart rfl)
      · exact fun hall _ ↦ (handle_apart_iff hr hnd (ha rfl)).mpr (hall rfl v h' rfl)
    | error f h' => simp

theorem gtphubStart_apart {cfg : HubCfg} {h₀ : Hub}
    (hstart : gtphubStart lib cfg (gtphubInit cfg) = .ok () h₀) : h₀.Apart := by
  have hproxy (s : Side) (p : Plane) (h : Hub) : along Sheds (gtphubMakeProxy lib cfg s p) h := by
    unfold gtphubMakeProxy
    cases cfg.proxy s p with
    | none => exact .refl h
    | some sa =>
      refine along_bind Sheds.trans (along_of_ok fun pp h₁ hr ↦ .of_view (portHave_ok hr).1)
        fun pp h₁ _ ↦ ?_
      refine along_bind Sheds.trans (along_modify (.of_same rfl rfl)) fun _ h₂ _ ↦ ?_
      exact along_of_ok fun _ h₃ hr ↦ .of_view (view_refCountInc hr)
  have hsheds : along Sheds (gtphubStart lib cfg) (gtphubInit cfg) := by
    refine along_bind Sheds.trans (hproxy .sgsn .ctrl _) fun _ h₁ _ ↦ ?_
    refine along_bind Sheds.trans (hproxy .sgsn .user h₁) fun _ h₂ _ ↦ ?_
    exact along_bind Sheds.trans (hproxy .ggsn .ctrl h₂) fun _ h₃ _ ↦ hproxy .ggsn .user h₃
  refine (along_ok hsheds hstart).apart fun t ht ↦ ?_
  simp [gtphubInit] at ht

/-- **One tunnel for each TEI of a peer.** In a run of the hub, no two tunnels ever have endpoints
with one address and one TEI exactly if no Create Response reclaims an endpoint. -/
theorem tunnels_apart_iff (lib : Lib) (cfg : HubCfg) (h₀ : Hub) (es : List HubEvent)
    (hstart : gtphubStart lib cfg (gtphubInit cfg) = .ok () h₀) :
    (∀ n, ((hubMachine lib).run ⟨h₀, none⟩ (es.take n)).Apart) ↔
      (hubMachine lib).Meets (KeepsApart lib) ⟨h₀, none⟩ es := by
  refine Machine.forall_take_iff (KeepsApart lib) (System.Keeps Hub.Sound (· ≠ .refCountZero))
    (fun s e hs ↦ ?_) (fun s e hs ha ↦ step_apart_iff hs ha) (gtphubStart_sound hstart)
    fun _ ↦ gtphubStart_apart hstart
  exact System.Keeps.step (fun h hh ↦ sound_handle e hh (permitted_other e) fun hf ↦ hf.1 rfl) s hs

/-- A GGSN accepts a tunnel, with addresses. -/
def exampleAddressedRsp (sender addr : UInt8) (tei seq : ℕ) (teis : Bytes) : Rx :=
  exampleRx .ggsn .ctrl sender
    (examplePacket gtpCreatePdpRsp tei seq ([1, 128] ++ teis ++ exampleGsns addr)) 0

/-- Two tunnels are accepted with the same TEIs by two GGSNs, and then the second one comes with
the address of the first, and without TEIs. -/
def exampleReclaim : List HubEvent :=
  [exampleResolved, .rx (exampleCreateReq 1 0x11 0x22 7), .rx (exampleCreateReq 2 0x33 0x44 8),
    .rx (exampleAddressedRsp 9 9 1 0x6d31 (exampleTeis 0x55 0x66)),
    .rx (exampleAddressedRsp 9 8 2 0x6d32 (exampleTeis 0x55 0x66)),
    .rx (exampleAddressedRsp 8 9 2 1 [])]

/-- Two tunnels are asked for with different TEIs. -/
def exampleApart : List HubEvent :=
  [exampleResolved, .rx (exampleCreateReq 1 0x11 0x22 7), .rx (exampleCreateReq 2 0x33 0x44 8)]

/-- In that run no endpoint is reclaimed. -/
theorem exampleApart_keepsApart : (hubMachine exampleLib).Meets (KeepsApart exampleLib)
    ⟨gtphubInit exampleCfg, none⟩ exampleApart := by
  refine (tunnels_apart_iff exampleLib exampleCfg (gtphubInit exampleCfg) exampleApart rfl).mp ?_
  intro n _
  have hall (n : ℕ) (hn : n ≤ 3) : ((hubMachine exampleLib).run ⟨gtphubInit exampleCfg, none⟩
      (exampleApart.take n)).hub.Apart := by
    revert n
    decide +kernel
  by_cases hn : n ≤ 3
  · exact hall n hn
  · have hlen : exampleApart.length ≤ n := (not_le.mp hn).le
    have hlast := hall 3 (Nat.le_refl 3)
    rw [List.take_of_length_le (Nat.le_refl 3 : exampleApart.length ≤ 3)] at hlast
    rw [List.take_of_length_le hlen]
    exact hlast

/-- The second tunnel gets the TEI of the first one. -/
theorem response_reclaims_tei : ¬ ∀ (lib : Lib) (cfg : HubCfg) (h₀ : Hub) (es : List HubEvent),
    gtphubStart lib cfg (gtphubInit cfg) = .ok () h₀ →
      ∀ n, ((hubMachine lib).run ⟨h₀, none⟩ (es.take n)).Apart := by
  intro hall
  have hapart := hall exampleLib exampleCfg (gtphubInit exampleCfg) exampleReclaim rfl 6
  revert hapart
  unfold System.Apart
  decide +kernel

end Run

end OsmoSgsn.Gtphub
