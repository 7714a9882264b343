import OsmoSgsn.Gtphub.Effect

/-!
# The numbers of tunnels

A tunnel has a TEI of its own, which stands for those of both peers in every packet that the hub
forwards. The hub recognises the tunnel of a packet by it, so no two tunnels may have the same one.

A new tunnel takes the next number of a pool that wraps around. Whether another tunnel has it is
found out later, when the first TEI of the request is taken over: `gtphub_check_reused_teis` then
moves the new tunnel to a number above or below those of the others. A request that is refused
before that point leaves its tunnel unchecked, and the TEI that is announced to the GGSN has been
written by then.
-/

namespace OsmoSgsn.Gtphub

open EStateM

/-- The tunnels have different numbers, none of them zero. -/
structure DistinctTeis (h : Hub) : Prop where
  nodup : h.tunnels.Nodup
  nonzero : ∀ t ∈ h.tunnels, (h.tun t).teiRepl ≠ 0
  inj : ∀ t ∈ h.tunnels, ∀ t' ∈ h.tunnels, (h.tun t).teiRepl = (h.tun t').teiRepl → t = t'

/-- Tunnels may have ended, and those that are left have kept their numbers. -/
structure Fewer (h h' : Hub) : Prop where
  tunnels : h'.tunnels.Sublist h.tunnels
  teiRepl : ∀ t, (h'.tun t).teiRepl = (h.tun t).teiRepl

variable {h h' h'' : Hub}

theorem Fewer.trans (hf : Fewer h h') (hf' : Fewer h' h'') : Fewer h h'' :=
  ⟨hf'.tunnels.trans hf.tunnels, fun t ↦ (hf'.teiRepl t).trans (hf.teiRepl t)⟩

theorem Fewer.of_view (hv : h'.view = h.view) : Fewer h h' :=
  ⟨by rw [tunnels_of_view hv], fun t ↦ by rw [tun_of_view hv]⟩

theorem Voided.fewer (hv : Voided h h') : Fewer h h' := ⟨by rw [hv.tunnels], hv.teiRepl⟩

theorem Fewer.dropTunnel (h : Hub) (t : ℕ) : Fewer h (h.dropTunnel t) :=
  ⟨List.erase_sublist, h.dropTunnel_teiRepl t⟩

theorem Fewer.noteDelete (h : Hub) (pd : PendingDelete) : Fewer h (h.noteDelete pd) :=
  ⟨.refl _, fun _ ↦ rfl⟩

theorem Fewer.answerDelete (h : Hub) (pd : PendingDelete) (s : Side) (removed : Bool) :
    Fewer h (h.answerDelete pd s removed) := ⟨.refl _, fun _ ↦ rfl⟩

theorem DistinctTeis.fewer (hd : DistinctTeis h) (hf : Fewer h h') : DistinctTeis h' where
  nodup := hd.nodup.sublist hf.tunnels
  nonzero t ht := by
    rw [hf.teiRepl]
    exact hd.nonzero t (hf.tunnels.mem ht)
  inj t ht t' ht' heq := by
    rw [hf.teiRepl, hf.teiRepl] at heq
    exact hd.inj t (hf.tunnels.mem ht) t' (hf.tunnels.mem ht') heq

/-! ## The check for numbers that are taken -/

/-- One comparison: the number is kept unless it is taken, and then it moves out of the range of
those that were seen. -/
theorem checkMappedTei_some {new iterated teiMin teiMax tei teiMin' teiMax' : ℕ}
    (hr : gtphubCheckMappedTei new iterated teiMin teiMax = some (tei, teiMin', teiMax'))
    (hnew : new ≠ 0) (hit : iterated ≠ 0) :
    tei ≠ 0 ∧ (teiMin' ≤ iterated ∧ iterated ≤ teiMax' ∧ iterated ≠ tei) ∧
      (∀ x, teiMin ≤ x ∧ x ≤ teiMax ∧ x ≠ new → teiMin' ≤ x ∧ x ≤ teiMax' ∧ x ≠ tei) ∧
      (iterated ≠ new → tei = new) := by
  simp only [gtphubCheckMappedTei, hnew, hit, or_self, if_false] at hr
  have hmin : (if teiMin < iterated then teiMin else iterated) = min teiMin iterated := by
    split <;> omega
  have hmax : (if teiMax > iterated then teiMax else iterated) = max teiMax iterated := by
    split <;> omega
  rw [hmin, hmax] at hr
  split at hr
  · simp only [Option.some.injEq, Prod.mk.injEq] at hr
    obtain ⟨rfl, rfl, rfl⟩ := hr
    exact ⟨hnew, by omega, fun x ↦ by omega, fun _ ↦ rfl⟩
  · split at hr
    · simp only [Option.some.injEq, Prod.mk.injEq] at hr
      obtain ⟨rfl, rfl, rfl⟩ := hr
      exact ⟨by omega, by omega, fun x ↦ by omega, by omega⟩
    · split at hr
      · simp only [Option.some.injEq, Prod.mk.injEq] at hr
        obtain ⟨rfl, rfl, rfl⟩ := hr
        exact ⟨by omega, by omega, fun x ↦ by omega, by omega⟩
      · simp at hr

/-- The tunnels of a list that have to end, as they use a TEI of the new one. -/
def Hub.stale (h : Hub) (new : ℕ) (l : List ℕ) : List ℕ :=
  l.filter fun t ↦ t ≠ new ∧ h.reusesTei t new

/-- What the check does to the hub: stale tunnels end, and the new one may get another number. -/
structure Rechecked (h : Hub) (new : ℕ) (l : List ℕ) (h' : Hub) : Prop where
  background : h'.background = h.background
  log : h'.log = h.log
  tunnels : h'.tunnels = h.tunnels.diff (h.stale new l)
  endpoint : (h'.tun new).endpoint = (h.tun new).endpoint
  others : ∀ t ≠ new, t ∉ h.stale new l → h'.tun t = h.tun t
  teiRepl : ∀ t ≠ new, (h'.tun t).teiRepl = (h.tun t).teiRepl

theorem Hub.reusesTei_iff {t new : ℕ} : h.reusesTei t new = true ↔ ∃ s p addr,
    ((h.tun t).endpoint s p).teiOrig ≠ 0 ∧
      ((h.tun t).endpoint s p).teiOrig = ((h.tun new).endpoint s p).teiOrig ∧
      ((h.tun t).endpoint s p).peer.map PeerPort.addr = some addr ∧
      ((h.tun new).endpoint s p).peer.map PeerPort.addr = some addr := by
  constructor
  · intro hr
    rw [Hub.reusesTei, List.any_eq_true] at hr
    obtain ⟨s, -, hr⟩ := hr
    rw [List.any_eq_true] at hr
    obtain ⟨p, -, hr⟩ := hr
    simp only [Bool.and_eq_true, decide_eq_true_eq] at hr
    obtain ⟨⟨⟨⟨hne, heq⟩, hsome⟩, -⟩, haddr⟩ := hr
    obtain ⟨q, hq⟩ := Option.isSome_iff_exists.mp hsome
    refine ⟨s, p, q.addr, hne, heq, by rw [hq]; rfl, ?_⟩
    rw [← haddr, hq]
    rfl
  · rintro ⟨s, p, addr, hne, heq, hold, hnew⟩
    rw [Hub.reusesTei, List.any_eq_true]
    refine ⟨s, by cases s <;> simp, ?_⟩
    rw [List.any_eq_true]
    refine ⟨p, by cases p <;> simp, ?_⟩
    obtain ⟨q, hq, -⟩ := Option.map_eq_some_iff.mp hold
    obtain ⟨q', hq', -⟩ := Option.map_eq_some_iff.mp hnew
    simp only [Bool.and_eq_true, decide_eq_true_eq]
    exact ⟨⟨⟨⟨hne, heq⟩, by rw [hq]; rfl⟩, by rw [hq']; rfl⟩, hold.trans hnew.symm⟩

theorem Hub.reusesTei_congr {t new : ℕ} (ht : (h'.tun t).endpoint = (h.tun t).endpoint)
    (hnew : (h'.tun new).endpoint = (h.tun new).endpoint) :
    h'.reusesTei t new = h.reusesTei t new := by
  unfold Hub.reusesTei
  rw [ht, hnew]

theorem Hub.stale_congr {new : ℕ} {l : List ℕ}
    (hl : ∀ t ∈ l, (h'.tun t).endpoint = (h.tun t).endpoint)
    (hnew : (h'.tun new).endpoint = (h.tun new).endpoint) : h'.stale new l = h.stale new l := by
  refine List.filter_congr fun t ht ↦ ?_
  rw [Hub.reusesTei_congr (hl t ht) hnew]

theorem Hub.stale_cons (new t : ℕ) (l : List ℕ) : h.stale new (t :: l) =
    if t ≠ new ∧ h.reusesTei t new = true then t :: h.stale new l else h.stale new l := by
  unfold Hub.stale
  rw [List.filter_cons]
  simp

theorem mem_stale {new t : ℕ} {l : List ℕ} :
    t ∈ h.stale new l ↔ t ∈ l ∧ t ≠ new ∧ h.reusesTei t new = true := by simp [Hub.stale]

/-- The hub with another number for a tunnel. -/
def Hub.setTeiRepl (h : Hub) (t tei : ℕ) : Hub :=
  { h with tun := Function.update h.tun t { h.tun t with teiRepl := tei } }

@[simp] theorem Hub.setTeiRepl_endpoint (t tei t' : ℕ) :
    ((h.setTeiRepl t tei).tun t').endpoint = (h.tun t').endpoint := by
  unfold Hub.setTeiRepl
  by_cases ht : t' = t
  · rw [ht]
    simp
  · simp [Function.update_of_ne ht]

theorem Hub.setTeiRepl_tun (tei : ℕ) {t t' : ℕ} (ht : t' ≠ t) :
    (h.setTeiRepl t tei).tun t' = h.tun t' := by
  simp [Hub.setTeiRepl, Function.update_of_ne ht]

@[simp] theorem Hub.setTeiRepl_teiRepl (t tei : ℕ) :
    ((h.setTeiRepl t tei).tun t).teiRepl = tei := by
  simp [Hub.setTeiRepl]

/-- The steps of the loop: another tunnel is skipped, ends, or is compared. -/
theorem checkReusedTeisLoop_cons {new t teiMin teiMax : ℕ} {l : List ℕ} {b : Bool}
    (hr : gtphubCheckReusedTeisLoop new (t :: l) teiMin teiMax h = .ok b h') :
    (t = new ∧ gtphubCheckReusedTeisLoop new l teiMin teiMax h = .ok b h') ∨
    (t ≠ new ∧ h.reusesTei t new = true ∧ ∃ h₁, h₁.view = (h.dropTunnel t).view ∧
      gtphubCheckReusedTeisLoop new l teiMin teiMax h₁ = .ok b h') ∨
    (t ≠ new ∧ h.reusesTei t new = false ∧ b = false ∧ h' = h) ∨
    (t ≠ new ∧ h.reusesTei t new = false ∧ ∃ tei teiMin' teiMax',
      gtphubCheckMappedTei (h.tun new).teiRepl (h.tun t).teiRepl teiMin teiMax =
        some (tei, teiMin', teiMax') ∧
      gtphubCheckReusedTeisLoop new l teiMin' teiMax' (h.setTeiRepl new tei) = .ok b h') := by
  rw [gtphubCheckReusedTeisLoop] at hr
  split at hr
  · next heq => exact .inl ⟨heq, hr⟩
  · next hne =>
    rw [get_bind_apply] at hr
    split at hr
    · next hreuse =>
      obtain ⟨_, h₁, hdel, hr⟩ := bind_eq_ok.mp hr
      exact .inr (.inl ⟨hne, hreuse, h₁, expiringItemDel_ok hdel, hr⟩)
    · next hreuse =>
      have hreuse := Bool.eq_false_iff.mpr hreuse
      cases hcheck : gtphubCheckMappedTei (h.tun new).teiRepl (h.tun t).teiRepl teiMin teiMax with
      | none =>
        rw [hcheck] at hr
        obtain ⟨rfl, rfl⟩ := pure_eq_ok.mp hr
        exact .inr (.inr (.inl ⟨hne, hreuse, rfl, rfl⟩))
      | some x =>
        rw [hcheck] at hr
        simp only [set_bind_apply] at hr
        exact .inr (.inr (.inr ⟨hne, hreuse, x.1, x.2.1, x.2.2, rfl, hr⟩))

theorem checkReusedTeisLoop_rechecked {new teiMin teiMax : ℕ} {l : List ℕ}
    (hl : l.Nodup) (hr : gtphubCheckReusedTeisLoop new l teiMin teiMax h = .ok true h') :
    Rechecked h new l h' := by
  induction l generalizing h teiMin teiMax with
  | nil =>
    rw [(pure_eq_ok.mp hr).2]
    exact ⟨rfl, rfl, rfl, rfl, fun _ _ _ ↦ rfl, fun _ _ ↦ rfl⟩
  | cons t l ih =>
    obtain ⟨htl, hl⟩ := List.nodup_cons.mp hl
    rcases checkReusedTeisLoop_cons hr with ⟨rfl, hr⟩ | ⟨hne, hreuse, h₁, hv, hr⟩ |
      ⟨-, -, hb, -⟩ | ⟨hne, hreuse, tei, teiMin', teiMax', -, hr⟩
    · have ih := ih hl hr
      have hstale : h.stale t (t :: l) = h.stale t l := by simp [Hub.stale_cons]
      exact ⟨ih.background, ih.log, hstale ▸ ih.tunnels, ih.endpoint, hstale ▸ ih.others,
        ih.teiRepl⟩
    · have ih := ih hl hr
      have htun := tun_of_view hv
      have hstale : h₁.stale new l = h.stale new l := by
        refine Hub.stale_congr (fun t' ht' ↦ ?_) ?_
        · rw [htun, Hub.dropTunnel_tun _ _ (ne_of_mem_of_not_mem ht' htl)]
        · rw [htun, Hub.dropTunnel_tun _ _ hne.symm]
      have hcons : h.stale new (t :: l) = t :: h.stale new l := by
        simp [Hub.stale_cons, hne, hreuse]
      have hback := (background_of_view hv).trans (h.dropTunnel_background t)
      have hlog := (log_of_view hv).trans (h.dropTunnel_log t)
      refine ⟨ih.background.trans hback, ih.log.trans hlog, ?_, ?_, fun t' hne' ht' ↦ ?_,
        fun t' hne' ↦ ?_⟩
      · rw [ih.tunnels, hstale, hcons, List.diff_cons, tunnels_of_view hv, Hub.dropTunnel_tunnels]
      · rw [ih.endpoint, htun, Hub.dropTunnel_tun _ _ hne.symm]
      · rw [hcons, List.mem_cons, not_or] at ht'
        rw [ih.others t' hne' (hstale ▸ ht'.2), htun, Hub.dropTunnel_tun _ _ ht'.1]
      · rw [ih.teiRepl t' hne', htun, Hub.dropTunnel_teiRepl]
    · simp at hb
    · have ih := ih hl hr
      have hstale : (h.setTeiRepl new tei).stale new l = h.stale new l :=
        Hub.stale_congr (fun t' _ ↦ by simp) (by simp)
      have hcons : h.stale new (t :: l) = h.stale new l := by simp [Hub.stale_cons, hreuse]
      refine ⟨ih.background, ih.log, ?_, ?_, fun t' hne' ht' ↦ ?_, fun t' hne' ↦ ?_⟩
      · rw [ih.tunnels, hstale, hcons]
        rfl
      · rw [ih.endpoint, Hub.setTeiRepl_endpoint]
      · rw [ih.others t' hne' (hstale ▸ hcons ▸ ht'), Hub.setTeiRepl_tun _ hne']
      · rw [ih.teiRepl t' hne', Hub.setTeiRepl_tun _ hne']

/-- **The new number.** After the check, the number of the new tunnel is that of none of the
tunnels that are left, and it is the old one if that was free. -/
theorem checkReusedTeisLoop_number {new teiMin teiMax : ℕ} {l : List ℕ} (seen : ℕ → Prop)
    (hl : l.Nodup) (hr : gtphubCheckReusedTeisLoop new l teiMin teiMax h = .ok true h')
    (hnew : (h.tun new).teiRepl ≠ 0) (hnonzero : ∀ t ∈ l, (h.tun t).teiRepl ≠ 0)
    (hseen : ∀ x, seen x → teiMin ≤ x ∧ x ≤ teiMax ∧ x ≠ (h.tun new).teiRepl) :
    (h'.tun new).teiRepl ≠ 0 ∧ (∀ x, seen x → x ≠ (h'.tun new).teiRepl) ∧
      (∀ t ∈ l, t ≠ new → t ∉ h.stale new l → (h.tun t).teiRepl ≠ (h'.tun new).teiRepl) ∧
      ((∀ t ∈ l, t ≠ new → t ∉ h.stale new l → (h.tun t).teiRepl ≠ (h.tun new).teiRepl) →
        (h'.tun new).teiRepl = (h.tun new).teiRepl) := by
  induction l generalizing h teiMin teiMax seen with
  | nil =>
    rw [(pure_eq_ok.mp hr).2]
    exact ⟨hnew, fun x hx ↦ (hseen x hx).2.2, by simp, fun _ ↦ rfl⟩
  | cons t l ih =>
    obtain ⟨htl, hl⟩ := List.nodup_cons.mp hl
    have htnz := hnonzero t List.mem_cons_self
    have hlnz : ∀ t' ∈ l, (h.tun t').teiRepl ≠ 0 :=
      fun t' ht' ↦ hnonzero t' (List.mem_cons_of_mem t ht')
    rcases checkReusedTeisLoop_cons hr with ⟨rfl, hr⟩ | ⟨hne, hreuse, h₁, hv, hr⟩ |
      ⟨-, -, hb, -⟩ | ⟨hne, hreuse, tei, teiMin', teiMax', hcheck, hr⟩
    · have hstale : h.stale t (t :: l) = h.stale t l := by simp [Hub.stale_cons]
      obtain ⟨h0, hs, hfree, hkeep⟩ := ih seen hl hr hnew hlnz hseen
      rw [hstale]
      refine ⟨h0, hs, fun t' ht' hne' ↦ ?_, fun hall ↦ hkeep fun t' ht' ↦ ?_⟩
      · exact hfree t' (List.mem_of_ne_of_mem hne' ht') hne'
      · exact hall t' (List.mem_cons_of_mem t ht')
    · have hrepl (t' : ℕ) : (h₁.tun t').teiRepl = (h.tun t').teiRepl := by
        rw [tun_of_view hv, Hub.dropTunnel_teiRepl]
      have hstale : h₁.stale new l = h.stale new l := by
        refine Hub.stale_congr (fun t' ht' ↦ ?_) ?_
        · rw [tun_of_view hv, Hub.dropTunnel_tun _ _ (ne_of_mem_of_not_mem ht' htl)]
        · rw [tun_of_view hv, Hub.dropTunnel_tun _ _ hne.symm]
      have hcons : h.stale new (t :: l) = t :: h.stale new l := by
        simp [Hub.stale_cons, hne, hreuse]
      have ih := ih seen hl hr
      simp only [hrepl, hstale] at ih
      obtain ⟨h0, hs, hfree, hkeep⟩ := ih hnew hlnz hseen
      rw [hcons]
      refine ⟨h0, hs, fun t' ht' hne' hst ↦ ?_, fun hall ↦ hkeep fun t' ht' hne' hst ↦ ?_⟩
      · rw [List.mem_cons, not_or] at hst
        exact hfree t' (List.mem_of_ne_of_mem hst.1 ht') hne' hst.2
      · refine hall t' (List.mem_cons_of_mem t ht') hne' ?_
        rw [List.mem_cons, not_or]
        exact ⟨ne_of_mem_of_not_mem ht' htl, hst⟩
    · simp at hb
    · obtain ⟨htei, hit, hrange, hsame⟩ := checkMappedTei_some hcheck hnew htnz
      have hstale : (h.setTeiRepl new tei).stale new l = h.stale new l :=
        Hub.stale_congr (fun t' _ ↦ by simp) (by simp)
      have hcons : h.stale new (t :: l) = h.stale new l := by simp [Hub.stale_cons, hreuse]
      have htst : t ∉ h.stale new l := fun hmem ↦ htl (mem_stale.mp hmem).1
      have ih := ih (fun x ↦ seen x ∨ x = (h.tun t).teiRepl) hl hr
      simp only [Hub.setTeiRepl_teiRepl, hstale] at ih
      have hother (t' : ℕ) (hne' : t' ≠ new) :
          ((h.setTeiRepl new tei).tun t').teiRepl = (h.tun t').teiRepl := by
        rw [Hub.setTeiRepl_tun _ hne']
      obtain ⟨h0, hs, hfree, hkeep⟩ := ih htei (fun t' ht' ↦ by
        by_cases hne' : t' = new
        · rw [hne', Hub.setTeiRepl_teiRepl]
          exact htei
        · rw [hother t' hne']
          exact hlnz t' ht') (by
        rintro x (hx | rfl)
        · exact hrange x (hseen x hx)
        · exact hit)
      rw [hcons]
      refine ⟨h0, fun x hx ↦ hs x (.inl hx), fun t' ht' hne' hst ↦ ?_, fun hall ↦ ?_⟩
      · rcases List.mem_cons.mp ht' with rfl | ht'
        · exact hs _ (.inr rfl)
        · rw [← hother t' hne']
          exact hfree t' ht' hne' hst
      · have heq := hsame (hall t List.mem_cons_self hne htst)
        rw [heq] at hkeep
        refine hkeep fun t' ht' hne' hst ↦ ?_
        rw [← heq, hother t' hne', heq]
        exact hall t' (List.mem_cons_of_mem t ht') hne' hst

theorem Rechecked.mem_tunnels {new t : ℕ} (hrc : Rechecked h new h.tunnels h')
    (hnd : h.tunnels.Nodup) :
    t ∈ h'.tunnels ↔ t ∈ h.tunnels ∧ t ∉ h.stale new h.tunnels := by
  rw [hrc.tunnels]
  exact hnd.mem_diff_iff

theorem Rechecked.sublist {new : ℕ} {l : List ℕ} (hrc : Rechecked h new l h') :
    h'.tunnels.Sublist h.tunnels := by
  rw [hrc.tunnels]
  exact List.diff_sublist _ _

/-- The tunnels but for one have different numbers, and all numbers are different from zero. -/
structure DistinctBut (new : ℕ) (h : Hub) : Prop where
  nodup : h.tunnels.Nodup
  nonzero : ∀ t ∈ h.tunnels, (h.tun t).teiRepl ≠ 0
  mem : new ∈ h.tunnels
  inj : ∀ t ∈ h.tunnels, ∀ t' ∈ h.tunnels, t ≠ new → t' ≠ new →
    (h.tun t).teiRepl = (h.tun t').teiRepl → t = t'

theorem DistinctTeis.but (hd : DistinctTeis h) {new : ℕ} (hnew : new ∈ h.tunnels) :
    DistinctBut new h :=
  ⟨hd.nodup, hd.nonzero, hnew, fun t ht t' ht' _ _ ↦ hd.inj t ht t' ht'⟩

/-- What `gtphub_check_reused_teis` gives when it succeeds. -/
theorem checkReusedTeis_ok {new : ℕ} (hd : DistinctBut new h)
    (hr : gtphubCheckReusedTeis new h = .ok true h') :
    Rechecked h new h.tunnels h' ∧ DistinctTeis h' ∧ new ∈ h'.tunnels ∧
      ((h'.tun new).teiRepl = (h.tun new).teiRepl ↔ ∀ t ∈ h.tunnels, t ≠ new →
        t ∉ h.stale new h.tunnels → (h.tun t).teiRepl ≠ (h.tun new).teiRepl) := by
  simp only [gtphubCheckReusedTeis, get_bind_apply] at hr
  have hrc := checkReusedTeisLoop_rechecked hd.nodup hr
  obtain ⟨h0, -, hfree, hkeep⟩ := checkReusedTeisLoop_number (fun _ ↦ False) hd.nodup hr
    (hd.nonzero new hd.mem) hd.nonzero (by simp)
  have hmem {t : ℕ} := hrc.mem_tunnels hd.nodup (t := t)
  have hnewmem : new ∈ h'.tunnels := hmem.mpr ⟨hd.mem, fun hst ↦ (mem_stale.mp hst).2.1 rfl⟩
  have hnenew (t : ℕ) (ht : t ∈ h'.tunnels) (hne : t ≠ new) :
      (h'.tun t).teiRepl ≠ (h'.tun new).teiRepl := by
    obtain ⟨ht, hst⟩ := hmem.mp ht
    rw [hrc.teiRepl t hne]
    exact hfree t ht hne hst
  refine ⟨hrc, ⟨hd.nodup.sublist hrc.sublist, fun t ht ↦ ?_, fun t ht t' ht' heq ↦ ?_⟩, hnewmem,
    fun heq t ht hne hst ↦ ?_, hkeep⟩
  · by_cases hne : t = new
    · rw [hne]
      exact h0
    · rw [hrc.teiRepl t hne]
      exact hd.nonzero t (hmem.mp ht).1
  · by_cases hne : t = new
    · by_cases hne' : t' = new
      · rw [hne, hne']
      · rw [hne] at heq
        exact (hnenew t' ht' hne' heq.symm).elim
    · by_cases hne' : t' = new
      · rw [hne'] at heq
        exact (hnenew t ht hne heq).elim
      · rw [hrc.teiRepl t hne, hrc.teiRepl t' hne'] at heq
        exact hd.inj t (hmem.mp ht).1 t' (hmem.mp ht').1 hne hne' heq
  · rw [← heq]
    exact hfree t ht hne hst

/-! ## A new tunnel -/

theorem tallocTunnel_notMem (choice : ℕ) (live : List ℕ) : tallocTunnel choice live ∉ live := by
  unfold tallocTunnel
  split
  · intro hmem
    have hle (l : List ℕ) : ∀ x ∈ l, x ≤ l.foldr max 0 := by
      intro x hx
      induction l with
      | nil => simp at hx
      | cons y l ih =>
        rcases List.mem_cons.mp hx with rfl | hx
        · exact le_max_left _ _
        · exact (ih hx).trans (le_max_right _ _)
    have := hle live _ hmem
    omega
  · next hfree => exact hfree

/-- A hub with a tunnel more. -/
def Hub.addTunnel (h : Hub) (t : ℕ) : Hub :=
  { h with
    teiPool := nrPoolNext h.teiPool, tunnels := t :: h.tunnels
    tun := Function.update h.tun t { Tunnel.zero with teiRepl := (nrPoolNext h.teiPool).lastNr }
    log := .tunnelNew t :: h.log }

theorem tunnelNew_ok {choice now t : ℕ} {toCtrl : PeerPort}
    (hr : gtphubTunnelNew choice toCtrl now h = .ok t h') : t = tallocTunnel choice h.tunnels ∧
      h'.view = ((h.addTunnel t).setPeer t .ggsn .ctrl (some toCtrl)).view := by
  simp only [gtphubTunnelNew, get_bind_apply, set_bind_apply] at hr
  obtain ⟨_, h₁, hadd, hr⟩ := bind_eq_ok.mp hr
  obtain ⟨_, h₂, hset, hr⟩ := bind_eq_ok.mp hr
  obtain ⟨rfl, rfl⟩ := pure_eq_ok.mp hr
  refine ⟨rfl, ?_⟩
  rw [setPeer_ok hset]
  exact Hub.setPeer_congr (view_expiryAdd hadd) ..

@[simp] theorem Hub.addTunnel_teiRepl (t : ℕ) :
    ((h.addTunnel t).tun t).teiRepl = (nrPoolNext h.teiPool).lastNr := by simp [Hub.addTunnel]

theorem Hub.addTunnel_tun {t t' : ℕ} (ht : t' ≠ t) : (h.addTunnel t).tun t' = h.tun t' := by
  simp [Hub.addTunnel, Function.update_of_ne ht]

@[simp] theorem Hub.addTunnel_endpoint (t : ℕ) (s : Side) (p : Plane) :
    ((h.addTunnel t).tun t).endpoint s p = ⟨none, 0⟩ := by simp [Hub.addTunnel, Tunnel.zero]

theorem nrPoolNext_ne_zero {pool : NrPool} (hmin : pool.nrMin ≠ 0) :
    (nrPoolNext pool).lastNr ≠ 0 := by
  simp only [nrPoolNext]
  split
  · exact hmin
  · omega

/-- Right after a tunnel is made, at most its number may be that of another one. -/
theorem DistinctTeis.addTunnel (hd : DistinctTeis h) (hmin : h.teiPool.nrMin ≠ 0) {t : ℕ}
    (ht : t ∉ h.tunnels) : DistinctBut t (h.addTunnel t) := by
  have hold {t' : ℕ} (ht' : t' ∈ (h.addTunnel t).tunnels) (hne : t' ≠ t) : t' ∈ h.tunnels :=
    List.mem_of_ne_of_mem hne ht'
  refine ⟨List.nodup_cons.mpr ⟨ht, hd.nodup⟩, fun t' ht' ↦ ?_, List.mem_cons_self,
    fun t₁ ht₁ t₂ ht₂ hne₁ hne₂ heq ↦ ?_⟩
  · by_cases hne : t' = t
    · rw [hne, Hub.addTunnel_teiRepl]
      exact nrPoolNext_ne_zero hmin
    · rw [Hub.addTunnel_tun hne]
      exact hd.nonzero t' (hold ht' hne)
  · rw [Hub.addTunnel_tun hne₁, Hub.addTunnel_tun hne₂] at heq
    exact hd.inj t₁ (hold ht₁ hne₁) t₂ (hold ht₂ hne₂) heq

/-! ## The planes of a Create message -/

section Planes

variable {lib : Lib} {p p' : GtpPacketDesc} {fromCtrl : PeerPort} {t : ℕ} {plane : Plane}

/-- The hub after the TEI of a plane was taken over. -/
def Hub.setTeiOrig (h : Hub) (t : ℕ) (s : Side) (plane : Plane) (tei : ℕ) : Hub :=
  h.setEndpoint t s plane { (h.tun t).endpoint s plane with teiOrig := tei }

/-- The packet after the number of a tunnel was announced in it. -/
def announceTei (p : GtpPacketDesc) (plane : Plane) (tei : ℕ) : GtpPacketDesc :=
  match gtpieGetie p.ie plane.ieType 0 with
  | some i => p.setIe i (.tv4 plane.ieType tei)
  | none => p

theorem mapTei_ok {tei : ℕ} (hr : mapTei p t plane tei h = .ok p' h') :
    p' = announceTei p plane (h.tun t).teiRepl ∧
      gtphubCheckReusedTeis t (h.setTeiOrig t p.side plane tei) = .ok true h' := by
  simp only [mapTei, get_bind_apply, set_bind_apply] at hr
  obtain ⟨b, h₁, hcheck, hr⟩ := bind_eq_ok.mp hr
  cases b with
  | false => exact (throw_eq_ok.mp hr).elim
  | true =>
    unfold announceTei
    simp only [if_true] at hr
    cases hi : gtpieGetie p.ie plane.ieType 0 with
    | some i =>
      rw [hi] at hr
      obtain ⟨rfl, rfl⟩ := pure_eq_ok.mp hr
      exact ⟨rfl, hcheck⟩
    | none =>
      rw [hi] at hr
      obtain ⟨rfl, rfl⟩ := pure_eq_ok.mp hr
      exact ⟨rfl, hcheck⟩

/-- The address that a Create message gives for a plane. -/
def createAddr (h : Hub) (s : Side) (fromCtrl : PeerPort) (addr : GsnAddr) : GsnAddr :=
  if h.sgsnUseSender ∧ s = .sgsn then fromCtrl.sa.addr else addr

/-- How the loop handles a plane: an element is missing; there is no TEI, which is an error if
there was none before; or a TEI is taken over. -/
inductive PlaneCreated (h : Hub) (p : GtpPacketDesc) (fromCtrl : PeerPort) (t : ℕ) (plane : Plane) :
    Option GtpPacketDesc → Hub → Prop
  | missing (hmiss : gsnAddrGet p plane.idx = none ∨ teiFromIe p plane = none) :
      PlaneCreated h p fromCtrl t plane none h
  | refused {h' : Hub} {pp : PeerPort} (htei : teiFromIe p plane = some 0)
      (horig : ((h.tun t).endpoint p.side plane).teiOrig = 0)
      (hv : h'.view = (h.setPeer t p.side plane (some pp)).view) :
      PlaneCreated h p fromCtrl t plane none h'
  | kept {h' : Hub} {pp : PeerPort} {addr : GsnAddr} (htei : teiFromIe p plane = some 0)
      (horig : ((h.tun t).endpoint p.side plane).teiOrig ≠ 0)
      (hv : h'.view = (h.setPeer t p.side plane (some pp)).view)
      (haddr : gsnAddrGet p plane.idx = some addr)
      (hpp : pp.addr = createAddr h p.side fromCtrl addr) :
      PlaneCreated h p fromCtrl t plane
        (gsnAddrPut (h.localAddr p.side.other plane) p plane.idx) h'
  | mapped {h₁ h' : Hub} {pp : PeerPort} {addr : GsnAddr} {tei : ℕ}
      (haddr : gsnAddrGet p plane.idx = some addr)
      (hpp : pp.addr = createAddr h p.side fromCtrl addr)
      (htei : teiFromIe p plane = some tei) (hne : tei ≠ 0)
      (hv : h₁.view = (h.setPeer t p.side plane (some pp)).view)
      (hcheck : gtphubCheckReusedTeis t (h₁.setTeiOrig t p.side plane tei) = .ok true h') :
      PlaneCreated h p fromCtrl t plane
        (gsnAddrPut (h.localAddr p.side.other plane) (announceTei p plane (h.tun t).teiRepl)
          plane.idx) h'

theorem announceTei_side (p : GtpPacketDesc) (plane : Plane) (tei : ℕ) :
    (announceTei p plane tei).side = p.side := by
  unfold announceTei
  split <;> rfl

theorem createPlane_ok {o : Option GtpPacketDesc}
    (hr : gtphubCreatePlane lib p fromCtrl t plane h = .ok o h') :
    PlaneCreated h p fromCtrl t plane o h' := by
  simp only [gtphubCreatePlane] at hr
  cases haddr : gsnAddrGet p plane.idx with
  | none =>
    rw [haddr] at hr
    obtain ⟨rfl, rfl⟩ := pure_eq_ok.mp hr
    exact .missing (.inl haddr)
  | some addr =>
    cases htei : teiFromIe p plane with
    | none =>
      rw [haddr, htei] at hr
      obtain ⟨rfl, rfl⟩ := pure_eq_ok.mp hr
      exact .missing (.inr htei)
    | some tei =>
      rw [haddr, htei] at hr
      simp only [get_bind_apply] at hr
      obtain ⟨pp, h₁, hhave, hr⟩ := bind_eq_ok.mp hr
      obtain ⟨_, h₂, hset, hr⟩ := bind_eq_ok.mp hr
      obtain ⟨hv₁, -, -, hpp⟩ := portHave_ok hhave
      have hv : h₂.view = (h.setPeer t p.side plane (some pp)).view := by
        rw [setPeer_ok hset, Hub.setPeer_congr hv₁]
      have hpp : pp.addr = createAddr h p.side fromCtrl addr := by
        rw [hpp, createAddr]
        split <;> rfl
      split at hr
      · next hzero =>
        rw [hzero] at htei
        have horig : ((h₂.tun t).endpoint p.side plane).teiOrig =
            ((h.tun t).endpoint p.side plane).teiOrig := by
          rw [tun_of_view hv, Hub.setPeer_teiOrig]
        rw [get_bind_apply, horig] at hr
        split at hr
        · next hz =>
          obtain ⟨rfl, rfl⟩ := pure_eq_ok.mp hr
          exact .refused htei hz hv
        · next hz =>
          obtain ⟨rfl, rfl⟩ := pure_eq_ok.mp hr
          exact .kept htei hz hv haddr hpp
      · next hne =>
        obtain ⟨p', h₃, hmap, hr⟩ := bind_eq_ok.mp hr
        obtain ⟨rfl, hcheck⟩ := mapTei_ok hmap
        obtain ⟨rfl, rfl⟩ := pure_eq_ok.mp hr
        have hrepl : (h₂.tun t).teiRepl = (h.tun t).teiRepl := by
          rw [tun_of_view hv, Hub.setPeer_teiRepl]
        rw [announceTei_side, hrepl]
        exact .mapped haddr hpp htei hne hv hcheck

theorem DistinctBut.congr (hd : DistinctBut t h) (htunnels : h'.tunnels = h.tunnels)
    (hrepl : ∀ t, (h'.tun t).teiRepl = (h.tun t).teiRepl) : DistinctBut t h' := by
  constructor
  · rw [htunnels]
    exact hd.nodup
  · simp only [htunnels, hrepl]
    exact hd.nonzero
  · rw [htunnels]
    exact hd.mem
  · simp only [htunnels, hrepl]
    exact hd.inj

theorem setPeer_tunnels_of_view {s : Side} {pp : Option PeerPort}
    (hv : h'.view = (h.setPeer t s plane pp).view) : h'.tunnels = h.tunnels := by
  rw [tunnels_of_view hv, Hub.setPeer_tunnels]

theorem setPeer_teiRepl_of_view {s : Side} {pp : Option PeerPort}
    (hv : h'.view = (h.setPeer t s plane pp).view) (t' : ℕ) :
    (h'.tun t').teiRepl = (h.tun t').teiRepl := by
  rw [tun_of_view hv, Hub.setPeer_teiRepl]

/-- The state in which a TEI is checked. -/
theorem DistinctBut.setTeiOrig {h₁ : Hub} {s : Side} {pp : Option PeerPort} (hd : DistinctBut t h)
    (hv : h₁.view = (h.setPeer t s plane pp).view) (tei : ℕ) :
    DistinctBut t (h₁.setTeiOrig t s plane tei) := by
  refine hd.congr ?_ fun t' ↦ ?_
  · rw [Hub.setTeiOrig, Hub.setEndpoint_tunnels, setPeer_tunnels_of_view hv]
  · rw [Hub.setTeiOrig, Hub.setEndpoint_teiRepl, setPeer_teiRepl_of_view hv]

/-- With different numbers to start with, a plane leaves different numbers, and the tunnel keeps
its own. -/
theorem PlaneCreated.distinct {o : Option GtpPacketDesc} (hd : DistinctTeis h)
    (ht : t ∈ h.tunnels) (hpc : PlaneCreated h p fromCtrl t plane o h') :
    DistinctTeis h' ∧ t ∈ h'.tunnels ∧ (h'.tun t).teiRepl = (h.tun t).teiRepl := by
  cases hpc with
  | missing _ => exact ⟨hd, ht, rfl⟩
  | refused _ _ hv | kept _ _ hv =>
    have htunnels := setPeer_tunnels_of_view hv
    have hrepl := setPeer_teiRepl_of_view hv
    exact ⟨hd.fewer ⟨by rw [htunnels], hrepl⟩, by rw [htunnels]; exact ht, hrepl t⟩
  | mapped _ _ _ _ hv hcheck =>
    obtain ⟨-, hd', hmem, hkept⟩ := checkReusedTeis_ok ((hd.but ht).setTeiOrig hv _) hcheck
    refine ⟨hd', hmem, (hkept.mpr fun t' ht' hne _ heq ↦ hne ?_).trans ?_⟩
    · rw [Hub.setTeiOrig, Hub.setEndpoint_teiRepl, Hub.setEndpoint_teiRepl,
        setPeer_teiRepl_of_view hv, setPeer_teiRepl_of_view hv] at heq
      rw [Hub.setTeiOrig, Hub.setEndpoint_tunnels, setPeer_tunnels_of_view hv] at ht'
      exact hd.inj t' ht' t ht heq
    · rw [Hub.setTeiOrig, Hub.setEndpoint_teiRepl, setPeer_teiRepl_of_view hv]

theorem createPlanes_ok {o : Option GtpPacketDesc}
    (hr : gtphubCreatePlanes lib p fromCtrl t h = .ok o h') :
    (o = none ∧ PlaneCreated h p fromCtrl t .ctrl none h') ∨
      ∃ p₁ h₁, PlaneCreated h p fromCtrl t .ctrl (some p₁) h₁ ∧
        PlaneCreated h₁ p₁ fromCtrl t .user o h' := by
  simp only [gtphubCreatePlanes] at hr
  obtain ⟨o₁, h₁, hctrl, hr⟩ := bind_eq_ok.mp hr
  have hctrl := createPlane_ok hctrl
  cases o₁ with
  | none =>
    obtain ⟨rfl, rfl⟩ := pure_eq_ok.mp hr
    exact .inl ⟨rfl, hctrl⟩
  | some p₁ => exact .inr ⟨p₁, h₁, hctrl, createPlane_ok hr⟩

theorem createPlanes_distinct {o : Option GtpPacketDesc} (hd : DistinctTeis h)
    (ht : t ∈ h.tunnels) (hr : gtphubCreatePlanes lib p fromCtrl t h = .ok o h') :
    DistinctTeis h' ∧ t ∈ h'.tunnels ∧ (h'.tun t).teiRepl = (h.tun t).teiRepl := by
  rcases createPlanes_ok hr with ⟨-, hctrl⟩ | ⟨p₁, h₁, hctrl, huser⟩
  · exact hctrl.distinct hd ht
  · obtain ⟨hd₁, ht₁, hrepl₁⟩ := hctrl.distinct hd ht
    obtain ⟨hd', ht', hrepl'⟩ := huser.distinct hd₁ ht₁
    exact ⟨hd', ht', hrepl'.trans hrepl₁⟩

end Planes

/-! ## Numbers stay different -/

/-- A Create message that gives no address or no TEI for the control plane: the first GSN Address,
or the TEI of the control plane, is missing, or that TEI is zero. -/
def Unannounced (p : GtpPacketDesc) : Prop :=
  gsnAddrGet p 0 = none ∨ teiFromIe p .ctrl = none ∨ teiFromIe p .ctrl = some 0

/-- A packet that makes a tunnel: a Create PDP Context Request of an SGSN for no tunnel yet. -/
structure MakesTunnel (p : GtpPacketDesc) : Prop where
  plane : p.plane = .ctrl
  type : p.type = gtpCreatePdpReq
  side : p.side = .sgsn
  tun : p.tun = none

/-- The next number of the pool is that of a tunnel. -/
def NextTaken (h : Hub) : Prop := ∃ t ∈ h.tunnels, (h.tun t).teiRepl = (nrPoolNext h.teiPool).lastNr

section Create

variable {lib : Lib} {r : Route} {choice : ℕ} {o : Option GtpPacketDesc}

/-- The numbers right after a tunnel is made. -/
theorem addTunnel_distinct_iff (hd : DistinctTeis h) (hmin : h.teiPool.nrMin ≠ 0) {t : ℕ}
    (ht : t ∉ h.tunnels) : DistinctTeis (h.addTunnel t) ↔ ¬ NextTaken h := by
  constructor
  · rintro hd' ⟨t', ht', heq⟩
    have hne : t' ≠ t := ne_of_mem_of_not_mem ht' ht
    refine hne (hd'.inj t' (List.mem_cons_of_mem t ht') t List.mem_cons_self ?_)
    rw [Hub.addTunnel_tun hne, Hub.addTunnel_teiRepl, heq]
  · intro hfree
    obtain ⟨hnodup, hnonzero, hmem, hinj⟩ := hd.addTunnel hmin ht
    have hnew (t' : ℕ) (ht' : t' ∈ (h.addTunnel t).tunnels) (hne : t' ≠ t) :
        ((h.addTunnel t).tun t').teiRepl ≠ ((h.addTunnel t).tun t).teiRepl := by
      rw [Hub.addTunnel_tun hne, Hub.addTunnel_teiRepl]
      exact fun heq ↦ hfree ⟨t', List.mem_of_ne_of_mem hne ht', heq⟩
    refine ⟨hnodup, hnonzero, fun t₁ ht₁ t₂ ht₂ heq ↦ ?_⟩
    by_cases hne₁ : t₁ = t
    · by_cases hne₂ : t₂ = t
      · rw [hne₁, hne₂]
      · rw [hne₁] at heq
        exact (hnew t₂ ht₂ hne₂ heq.symm).elim
    · by_cases hne₂ : t₂ = t
      · rw [hne₂] at heq
        exact (hnew t₁ ht₁ hne₁ heq).elim
      · exact hinj t₁ ht₁ t₂ ht₂ hne₁ hne₂ heq

theorem Fewer.distinct_iff (htunnels : h'.tunnels = h.tunnels)
    (hrepl : ∀ t, (h'.tun t).teiRepl = (h.tun t).teiRepl) : DistinctTeis h' ↔ DistinctTeis h := by
  constructor
  · intro hd
    exact hd.fewer ⟨by rw [htunnels], fun t ↦ (hrepl t).symm⟩
  · intro hd
    exact hd.fewer ⟨by rw [htunnels], hrepl⟩

/-- A Create Request that makes a tunnel. -/
theorem createReq_ok {p : GtpPacketDesc} {fromCtrl toCtrl : PeerPort}
    (htype : p.type = gtpCreatePdpReq)
    (hr : gtphubHandleCreatePdpCtx lib choice p fromCtrl toCtrl h = .ok o h') :
    (¬ (p.side = .sgsn ∧ p.tun = none) ∧ o = none ∧ h' = h) ∨
      p.side = .sgsn ∧ p.tun = none ∧ ∃ t h₁, t ∉ h.tunnels ∧
        h₁.view = ((h.addTunnel t).setPeer t .ggsn .ctrl (some toCtrl)).view ∧
        gtphubCreatePlanes lib { p with tun := some t } fromCtrl t h₁ = .ok o h' := by
  rw [gtphubHandleCreatePdpCtx, if_pos htype] at hr
  cases hside : p.side with
  | ggsn =>
    rw [hside] at hr
    obtain ⟨rfl, rfl⟩ := pure_eq_ok.mp hr
    exact .inl ⟨by simp, rfl, rfl⟩
  | sgsn =>
    cases htun : p.tun with
    | some t =>
      rw [hside, htun] at hr
      obtain ⟨rfl, rfl⟩ := pure_eq_ok.mp hr
      exact .inl ⟨by simp, rfl, rfl⟩
    | none =>
      rw [hside, htun] at hr
      obtain ⟨t, h₁, hnew, hr⟩ := bind_eq_ok.mp hr
      obtain ⟨rfl, hv⟩ := tunnelNew_ok hnew
      exact .inr ⟨rfl, rfl, _, h₁, tallocTunnel_notMem choice h.tunnels, hv, hr⟩

/-- A Create Response for a tunnel. -/
theorem createRsp_ok {p : GtpPacketDesc} {fromCtrl toCtrl : PeerPort}
    (htype : p.type ≠ gtpCreatePdpReq)
    (hr : gtphubHandleCreatePdpCtx lib choice p fromCtrl toCtrl h = .ok o h') :
    (o = none ∧ h' = h) ∨ p.side = .ggsn ∧ ∃ t, p.tun = some t ∧
      (h.tun t).teiRepl = p.headerTeiRx ∧ gtphubCreatePlanes lib p fromCtrl t h = .ok o h' := by
  rw [gtphubHandleCreatePdpCtx, if_neg htype] at hr
  cases hside : p.side with
  | sgsn =>
    rw [hside] at hr
    obtain ⟨rfl, rfl⟩ := pure_eq_ok.mp hr
    exact .inl ⟨rfl, rfl⟩
  | ggsn =>
    cases htun : p.tun with
    | none =>
      rw [hside, htun] at hr
      exact (throw_eq_ok.mp hr).elim
    | some t =>
      rw [hside, htun] at hr
      simp only [get_bind_apply] at hr
      split at hr
      · exact (throw_eq_ok.mp hr).elim
      · next hrepl => exact .inr ⟨rfl, t, rfl, not_not.mp hrepl, hr⟩

/-- A new tunnel is checked as soon as the TEI of the control plane is taken over. -/
theorem firstPlane_distinct {p : GtpPacketDesc} {fromCtrl : PeerPort} {t : ℕ}
    (hbut : DistinctBut t h) (hpc : PlaneCreated h p fromCtrl t .ctrl o h')
    (horig : ((h.tun t).endpoint p.side .ctrl).teiOrig = 0) :
    (Unannounced p ∧ o = none ∧ (DistinctTeis h' ↔ DistinctTeis h)) ∨
      (¬ Unannounced p ∧ DistinctTeis h' ∧ t ∈ h'.tunnels) := by
  cases hpc with
  | missing hmiss => exact .inl ⟨hmiss.elim .inl fun htei ↦ .inr (.inl htei), rfl, Iff.rfl⟩
  | refused htei _ hv =>
    exact .inl ⟨.inr (.inr htei), rfl,
      Fewer.distinct_iff (setPeer_tunnels_of_view hv) (setPeer_teiRepl_of_view hv)⟩
  | kept _ hne _ => exact (hne horig).elim
  | mapped haddr _ htei hne hv hcheck =>
    obtain ⟨-, hd, hmem, -⟩ := checkReusedTeis_ok (hbut.setTeiOrig hv _) hcheck
    refine .inr ⟨?_, hd, hmem⟩
    rintro (haddr' | htei' | htei')
    · rw [Plane.idx, haddr'] at haddr
      simp at haddr
    · rw [htei'] at htei
      simp at htei
    · rw [htei'] at htei
      exact hne (Option.some.inj htei).symm

theorem createReq_distinct_iff {p : GtpPacketDesc} {fromCtrl toCtrl : PeerPort}
    (hd : DistinctTeis h) (hmin : h.teiPool.nrMin ≠ 0) (htype : p.type = gtpCreatePdpReq)
    (hr : gtphubHandleCreatePdpCtx lib choice p fromCtrl toCtrl h = .ok o h') :
    DistinctTeis h' ↔ ¬ ((p.side = .sgsn ∧ p.tun = none) ∧ Unannounced p ∧ NextTaken h) := by
  rcases createReq_ok htype hr with ⟨hnot, -, rfl⟩ | ⟨hside, htun, t, h₁, ht, hv, hr⟩
  · exact iff_of_true hd fun hall ↦ hnot hall.1
  · have htunnels := setPeer_tunnels_of_view hv
    have hrepl := setPeer_teiRepl_of_view hv
    have hbut : DistinctBut t h₁ := (hd.addTunnel hmin ht).congr htunnels hrepl
    have hiff : DistinctTeis h₁ ↔ ¬ NextTaken h :=
      (Fewer.distinct_iff htunnels hrepl).trans (addTunnel_distinct_iff hd hmin ht)
    have horig : ((h₁.tun t).endpoint p.side .ctrl).teiOrig = 0 := by
      rw [tun_of_view hv, Hub.setPeer_teiOrig, Hub.addTunnel_endpoint]
    have hunchecked (hun : Unannounced p) (hsame : DistinctTeis h' ↔ DistinctTeis h₁) :
        DistinctTeis h' ↔ ¬ ((p.side = .sgsn ∧ p.tun = none) ∧ Unannounced p ∧ NextTaken h) := by
      rw [hsame, hiff]
      exact not_congr ⟨fun hnext ↦ ⟨⟨hside, htun⟩, hun, hnext⟩, fun hall ↦ hall.2.2⟩
    rcases createPlanes_ok hr with ⟨-, hctrl⟩ | ⟨p₁, h₂, hctrl, huser⟩
    · rcases firstPlane_distinct hbut hctrl horig with ⟨hun, -, hsame⟩ | ⟨hun, hd', -⟩
      · exact hunchecked hun hsame
      · exact iff_of_true hd' fun hall ↦ hun hall.2.1
    · rcases firstPlane_distinct hbut hctrl horig with ⟨-, hnone, -⟩ | ⟨hun, hd₂, ht₂⟩
      · simp at hnone
      · exact iff_of_true (huser.distinct hd₂ ht₂).1 fun hall ↦ hun hall.2.1

/-- What a packet with a destination does to the numbers of the tunnels. -/
theorem handleCtrl_distinct_iff (hd : DistinctTeis h) (hmin : h.teiPool.nrMin ≠ 0)
    (htun : ∀ t, r.p.tun = some t → t ∈ h.tunnels)
    (hr : gtphubHandleCtrl lib choice r h = .ok o h') :
    DistinctTeis h' ↔ ¬ (MakesTunnel r.p ∧ Unannounced r.p ∧ NextTaken h) := by
  have hother (hne : ¬ (r.p.plane = .ctrl ∧ r.p.type = gtpCreatePdpReq)) (hd' : DistinctTeis h') :
      DistinctTeis h' ↔ ¬ (MakesTunnel r.p ∧ Unannounced r.p ∧ NextTaken h) :=
    iff_of_true hd' fun hall ↦ hne ⟨hall.1.plane, hall.1.type⟩
  unfold gtphubHandleCtrl at hr
  split at hr
  · next hplane =>
    unfold gtphubHandlePdpCtx at hr
    split at hr
    · by_cases htype : r.p.type = gtpCreatePdpReq
      · rw [createReq_distinct_iff hd hmin htype hr]
        refine not_congr (and_congr_left fun _ ↦ ?_)
        exact ⟨fun hst ↦ ⟨hplane, htype, hst.1, hst.2⟩, fun hmk ↦ ⟨hmk.side, hmk.tun⟩⟩
      · refine hother (fun hall ↦ htype hall.2) ?_
        rcases createRsp_ok htype hr with ⟨-, rfl⟩ | ⟨-, t, ht, -, hr⟩
        · exact hd
        · exact (createPlanes_distinct hd (htun t ht) hr).1
    · next hcreate =>
      refine hother (fun hall ↦ hcreate (.inl hall.2)) ?_
      split at hr
      · rcases deleteReq_ok hr with ⟨-, rfl⟩ | ⟨pd, -, -, hv⟩
        · exact hd
        · exact hd.fewer ((Fewer.noteDelete h pd).trans (.of_view hv))
      · split at hr
        · rcases deleteRsp_ok hr with ⟨-, rfl⟩ | ⟨pd, -, -, ⟨-, hv⟩ | ⟨-, hv⟩⟩
          · exact hd
          · exact hd.fewer ((Fewer.answerDelete h pd _ _).trans (.of_view hv))
          · have hdrop := (Fewer.answerDelete h pd r.p.side true).trans (.dropTunnel _ pd.tun)
            exact hd.fewer (hdrop.trans (.of_view hv))
        · rw [(pure_eq_ok.mp hr).2]
          exact hd
  · next hplane =>
    refine hother (fun hall ↦ hplane hall.1) ?_
    rw [(pure_eq_ok.mp hr).2]
    exact hd

/-- The tunnel of a packet is one of the hub's. -/
theorem TeiUnmapped.mem_tunnels {p : GtpPacketDesc} {fromPort : PeerPort} {o : Option PeerPort}
    (hun : TeiUnmapped h p fromPort o) {t : ℕ} (ht : p.tun = some t) : t ∈ h.tunnels := by
  cases hun with
  | zero _ htun =>
    rw [htun] at ht
    simp at ht
  | tunnel t' _ hfind htun _ =>
    rw [htun] at ht
    cases ht
    exact List.mem_of_find?_eq_some hfind

theorem Forwarded.fewer {p p' : GtpPacketDesc} (hf : Forwarded h r p p' h') :
    h'.tunnels = h.tunnels ∧ h'.tun = h.tun := by
  obtain ⟨l, -, -, hv⟩ := hf.view
  exact ⟨(congrArg Hub.tunnels hv :), (congrArg Hub.tun hv :)⟩

/-- **Numbers stay different.** A packet leaves tunnels with different numbers, except where it
makes a tunnel, the next number of the pool is taken, and the packet gives no address or no TEI for
the control plane. -/
theorem gtphubHandleBuf_distinctTeis_iff (lib : Lib) (rx : Rx) (h h' : Hub) (v : Verdict)
    (hd : DistinctTeis h)
    (hpool : h.teiPool.nrMin = 1 ∧ h.teiPool.nrMax = 0xffffffff)
    (hr : gtphubHandleBuf lib rx h = .ok v h') :
    DistinctTeis h' ↔ ¬ ((∃ r h₁, gtphubLocate lib rx h = .ok (.inr r) h₁ ∧ MakesTunnel r.p ∧
      Unannounced r.p) ∧ NextTaken h) := by
  simp only [gtphubHandleBuf] at hr
  obtain ⟨x, h₁, hloc, hr⟩ := bind_eq_ok.mp hr
  cases x with
  | inl v' =>
    obtain ⟨rfl, rfl⟩ := pure_eq_ok.mp hr
    have hd' : DistinctTeis h' := by
      rcases locate_inl hloc with hvoid | ⟨-, h₀, h₁, fromPort, p', t, hv, hvoid, -, hend⟩
      · exact hd.fewer hvoid.fewer
      · have hdrop : Fewer h₁ (h₁.endTunnel t p'.side) := ⟨List.erase_sublist, by
          simp [Hub.endTunnel]⟩
        exact hd.fewer (((Fewer.of_view hv).trans hvoid.fewer).trans
          (hdrop.trans (.of_view hend.view)))
    refine iff_of_true hd' ?_
    rintro ⟨⟨r, h₁, hloc', -⟩, -⟩
    rw [hloc] at hloc'
    simp at hloc'
  | inr r =>
    obtain ⟨h₀, hv, hrouted⟩ := locate_inr hloc
    have hf : Fewer h h₁ := (Fewer.of_view hv).trans hrouted.voided.fewer
    have htunnels : h₁.tunnels = h.tunnels := hrouted.voided.tunnels.trans (tunnels_of_view hv)
    have hpool₁ : h₁.teiPool = h.teiPool :=
      (Hub.eq_of_background Hub.teiPool (fun _ ↦ rfl) hrouted.voided.background).trans
        (Hub.eq_of_view Hub.teiPool (fun _ ↦ rfl) hv)
    have hnext : NextTaken h₁ ↔ NextTaken h := by
      simp only [NextTaken, htunnels, hpool₁, hf.teiRepl]
    obtain ⟨fromTei, hun, -⟩ := hrouted.destination
    obtain ⟨o, h₂, hctrl, hend⟩ := deliver_ok hr
    have hiff := handleCtrl_distinct_iff (hd.fewer hf) (by rw [hpool₁, hpool.1]; decide)
      (fun t ht ↦ hun.mem_tunnels ht) hctrl
    have hsame : DistinctTeis h' ↔ DistinctTeis h₂ := by
      rcases hend with ⟨-, -, rfl⟩ | ⟨p, p', -, -, hfwd⟩
      · exact Iff.rfl
      · obtain ⟨htunnels', htun'⟩ := hfwd.fewer
        exact Fewer.distinct_iff htunnels' fun t ↦ by rw [htun']
    rw [hsame, hiff, hnext]
    refine not_congr ⟨fun hall ↦ ⟨⟨r, h₁, hloc, hall.1, hall.2.1⟩, hall.2.2⟩, ?_⟩
    rintro ⟨⟨r', h₁', hloc', hmakes, hun'⟩, hnext'⟩
    rw [hloc] at hloc'
    cases hloc'
    exact ⟨hmakes, hun', hnext'⟩

/-- A hub with one tunnel. -/
def exampleTunnel : Hub := (exampleRun [exampleResolved, .rx (exampleCreateReq 1 0x11 0x22 7)]).hub

/-- The same after the pool has wrapped around: its next number is that of the tunnel. -/
def exampleWrapped : Hub := { exampleTunnel with teiPool := ⟨0xffffffff, 1, 0xffffffff⟩ }

theorem exampleTunnel_distinctTeis : DistinctTeis exampleTunnel :=
  ⟨by decide +kernel, by decide +kernel, by decide +kernel⟩

theorem exampleWrapped_distinctTeis : DistinctTeis exampleWrapped :=
  ⟨by decide +kernel, by decide +kernel, by decide +kernel⟩

/-- A second request of the SGSN gets the next number. -/
theorem second_request_distinctTeis : ∃ v h',
    gtphubHandleBuf exampleLib (exampleCreateReq 2 0x33 0x44 8) exampleTunnel = .ok v h' ∧
      DistinctTeis h' := by
  have hret : (gtphubHandleBuf exampleLib (exampleCreateReq 2 0x33 0x44 8)
      exampleTunnel).returned.isSome = true := by decide +kernel
  obtain ⟨⟨v, h'⟩, hret⟩ := Option.isSome_iff_exists.mp hret
  have hr := returned_eq_some.mp hret
  refine ⟨v, h', hr, ?_⟩
  refine (gtphubHandleBuf_distinctTeis_iff exampleLib _ exampleTunnel h' v
    exampleTunnel_distinctTeis (by decide +kernel) hr).mpr ?_
  rintro ⟨-, hnext⟩
  exact absurd hnext (by unfold NextTaken; decide +kernel)

/-- A request without TEIs, to a hub whose pool has wrapped around, leaves two tunnels with one
number. -/
theorem refused_request_repeats_tei : ¬ ∀ (lib : Lib) (rx : Rx) (h h' : Hub) (v : Verdict),
    DistinctTeis h → h.teiPool.nrMin = 1 ∧ h.teiPool.nrMax = 0xffffffff →
      gtphubHandleBuf lib rx h = .ok v h' → DistinctTeis h' := by
  intro hall
  have hret : ((gtphubHandleBuf exampleLib (exampleRx .sgsn .ctrl 2 (examplePacket gtpCreatePdpReq 0
      2 (exampleImsi ++ exampleApn ++ exampleGsns 2)) 8) exampleWrapped).returned.map fun x ↦
        (x.2.tunnels, (x.2.tun 7).teiRepl, (x.2.tun 8).teiRepl)) = some ([8, 7], 1, 1) := by
    decide +kernel
  obtain ⟨⟨v, h'⟩, hret, hx⟩ := Option.map_eq_some_iff.mp hret
  simp only [Prod.mk.injEq] at hx
  have hd := hall exampleLib _ exampleWrapped h' v exampleWrapped_distinctTeis (by decide +kernel)
    (returned_eq_some.mp hret)
  have heq := hd.inj 7 (by simp [hx.1]) 8 (by simp [hx.1]) (by rw [hx.2.1, hx.2.2])
  simp at heq

end Create

/-! ## The announced numbers -/

section Elements

variable {ie ie' : List Ie} {p p' : GtpPacketDesc}

/-- An element that is found has the type. -/
theorem gtpieGetie_some {type inst i : ℕ} (hi : gtpieGetie ie type inst = some i) :
    ∃ x, ie[i]? = some x ∧ x.type = type := by
  induction ie generalizing inst i with
  | nil => simp [gtpieGetie] at hi
  | cons y ie ih =>
    unfold gtpieGetie at hi
    split at hi
    · next htype =>
      cases inst with
      | zero =>
        cases hi
        exact ⟨y, rfl, htype⟩
      | succ inst =>
        obtain ⟨j, hj, rfl⟩ := Option.map_eq_some_iff.mp hi
        exact ih hj
    · obtain ⟨j, hj, rfl⟩ := Option.map_eq_some_iff.mp hi
      exact ih hj

/-- Where an element is found depends on the types. -/
theorem gtpieGetie_congr (htypes : ie'.map Ie.type = ie.map Ie.type) (type inst : ℕ) :
    gtpieGetie ie' type inst = gtpieGetie ie type inst := by
  induction ie generalizing ie' inst with
  | nil =>
    rw [List.map_nil, List.map_eq_nil_iff] at htypes
    rw [htypes]
  | cons y ie ih =>
    cases ie' with
    | nil => simp at htypes
    | cons y' ie' =>
      simp only [List.map_cons, List.cons.injEq] at htypes
      simp only [gtpieGetie, htypes.1, ih htypes.2]

theorem map_type_set {i : ℕ} {x y : Ie} (hx : ie[i]? = some x) (hy : y.type = x.type) :
    (ie.set i y).map Ie.type = ie.map Ie.type := by
  obtain ⟨hi, rfl⟩ := List.getElem?_eq_some_iff.mp hx
  rw [List.map_set, hy, ← List.getElem_map Ie.type (h := by simpa using hi)]
  exact List.set_getElem_self _

/-- An element that announces a TEI. -/
def Ie.IsTei (x : Ie) : Prop := ∃ plane : Plane, x.type = plane.ieType

/-- The types of the elements stay, and so do those that announce a TEI. -/
structure TeisKept (ie ie' : List Ie) : Prop where
  types : ie'.map Ie.type = ie.map Ie.type
  kept : ∀ (i : ℕ) (x : Ie), ie[i]? = some x → x.IsTei → ie'[i]? = some x

/-- The first TEI of a plane is replaced, and the others stay. -/
structure Announced (plane : Plane) (nr : ℕ) (ie ie' : List Ie) : Prop where
  types : ie'.map Ie.type = ie.map Ie.type
  first : ∀ (i : ℕ) (x : Ie), gtpieGetie ie plane.ieType 0 = some i → ie[i]? = some x → x.tv4V ≠ 0 →
    ie'[i]? = some (.tv4 plane.ieType nr)
  kept : ∀ (i : ℕ) (x : Ie), ie[i]? = some x → x.IsTei →
    gtpieGetie ie plane.ieType 0 ≠ some i → ie'[i]? = some x

theorem ieType_ne_gsnAddr (plane : Plane) : plane.ieType ≠ gtpieGsnAddr := by
  cases plane <;> decide

theorem ieType_ne_recovery (plane : Plane) : plane.ieType ≠ gtpieRecovery := by
  cases plane <;> decide

theorem ieType_injective {plane plane' : Plane} (htype : plane.ieType = plane'.ieType) :
    plane = plane' := by
  cases plane <;> cases plane' <;> first | rfl | exact absurd htype (by decide)

/-- An element that announces no TEI is replaced by one of its type. -/
theorem TeisKept.set {i : ℕ} {x y : Ie} (hx : ie[i]? = some x) (hy : y.type = x.type)
    (htei : ¬ x.IsTei) : TeisKept ie (ie.set i y) := by
  refine ⟨map_type_set hx hy, fun j z hz hztei ↦ ?_⟩
  have hne : i ≠ j := by
    rintro rfl
    rw [hx] at hz
    cases hz
    exact htei hztei
  rw [List.getElem?_set_ne hne, hz]

theorem gsnAddrPut_some {addr : GsnAddr} {inst : ℕ} (hput : gsnAddrPut addr p inst = some p') :
    TeisKept p.ie p'.ie ∧ p' = { p with ie := p'.ie } := by
  unfold gsnAddrPut at hput
  split at hput
  · simp at hput
  · split at hput
    · next i x hi hfind =>
      split at hput
      · cases hput
        obtain ⟨y, hy, htype⟩ := gtpieGetie_some hi
        refine ⟨TeisKept.set hy htype.symm ?_, rfl⟩
        rintro ⟨plane, hplane⟩
        exact ieType_ne_gsnAddr plane (hplane.symm.trans htype)
      · simp at hput
    · simp at hput

theorem mapRestartCounter_teisKept (n : ℕ) (p : GtpPacketDesc) :
    TeisKept p.ie (gtphubMapRestartCounter n p).ie := by
  unfold gtphubMapRestartCounter
  split
  · exact ⟨rfl, fun _ _ hx _ ↦ hx⟩
  · split
    · exact ⟨rfl, fun _ _ hx _ ↦ hx⟩
    · next i hi =>
      obtain ⟨y, hy, htype⟩ := gtpieGetie_some hi
      refine TeisKept.set hy htype.symm ?_
      rintro ⟨plane, hplane⟩
      exact ieType_ne_recovery plane (hplane.symm.trans htype)

/-- The first TEI of a plane, as the code reads it. -/
theorem teiFromIe_of_first {plane : Plane} {i : ℕ} {x : Ie}
    (hi : gtpieGetie p.ie plane.ieType 0 = some i) (hx : p.ie[i]? = some x) :
    teiFromIe p plane = some x.tv4V := by
  simp [teiFromIe, gtpieFind, hi, hx]

theorem announceTei_announced (plane : Plane) (nr : ℕ) (p : GtpPacketDesc) :
    Announced plane nr p.ie (announceTei p plane nr).ie ∧
      announceTei p plane nr = { p with ie := (announceTei p plane nr).ie } := by
  unfold announceTei
  cases hi : gtpieGetie p.ie plane.ieType 0 with
  | none =>
    refine ⟨⟨rfl, fun i x hi' ↦ ?_, fun i x hx _ _ ↦ hx⟩, rfl⟩
    rw [hi] at hi'
    simp at hi'
  | some i =>
    obtain ⟨y, hy, htype⟩ := gtpieGetie_some hi
    refine ⟨⟨map_type_set hy htype.symm, fun j x hj hx _ ↦ ?_, fun j x hx _ hj ↦ ?_⟩, rfl⟩
    · rw [hi] at hj
      cases hj
      exact List.getElem?_set_self (List.getElem?_eq_some_iff.mp hy).1
    · have hne : i ≠ j := fun heq ↦ hj (by rw [hi, heq])
      exact (List.getElem?_set_ne hne).trans hx

theorem TeisKept.announced {ie'' : List Ie} {plane : Plane} {nr : ℕ}
    (hann : Announced plane nr ie ie') (hkept : TeisKept ie' ie'') :
    Announced plane nr ie ie'' := by
  refine ⟨hkept.types.trans hann.types, fun i x hi hx hne ↦ ?_, fun i x hx htei hi ↦ ?_⟩
  · exact hkept.kept i _ (hann.first i x hi hx hne) ⟨plane, rfl⟩
  · exact hkept.kept i x (hann.kept i x hx htei hi) htei

/-- What a plane does to the elements of a Create message that is not refused. -/
theorem PlaneCreated.announced {fromCtrl : PeerPort} {t : ℕ} {plane : Plane}
    (hpc : PlaneCreated h p fromCtrl t plane (some p') h') :
    Announced plane (h.tun t).teiRepl p.ie p'.ie ∧ p' = { p with ie := p'.ie } := by
  generalize ho : some p' = o at hpc
  cases hpc with
  | missing _ | refused _ _ _ => simp at ho
  | kept htei _ _ =>
    obtain ⟨hkept, hp'⟩ := gsnAddrPut_some ho.symm
    refine ⟨⟨hkept.types, fun i x hi hx hne ↦ ?_, fun i x hx hx' _ ↦ hkept.kept i x hx hx'⟩, hp'⟩
    rw [teiFromIe_of_first hi hx] at htei
    exact (hne (Option.some.inj htei)).elim
  | mapped _ _ _ _ _ _ =>
    obtain ⟨hkept, hp'⟩ := gsnAddrPut_some ho.symm
    obtain ⟨hann, hsame⟩ := announceTei_announced plane (h.tun t).teiRepl p
    exact ⟨hkept.announced hann, by rw [hp', hsame]⟩

/-- Both planes, with the number that the tunnel has at each. -/
theorem createPlanes_announced {lib : Lib} {fromCtrl : PeerPort} {t : ℕ}
    (hr : gtphubCreatePlanes lib p fromCtrl t h = .ok (some p') h') :
    ∃ p₁ h₁, PlaneCreated h p fromCtrl t .ctrl (some p₁) h₁ ∧
      PlaneCreated h₁ p₁ fromCtrl t .user (some p') h' ∧
      Announced .ctrl (h.tun t).teiRepl p.ie p₁.ie ∧
      Announced .user (h₁.tun t).teiRepl p₁.ie p'.ie ∧ p' = { p with ie := p'.ie } := by
  rcases createPlanes_ok hr with ⟨hnone, -⟩ | ⟨p₁, h₁, hctrl, huser⟩
  · simp at hnone
  · obtain ⟨hann, hp₁⟩ := hctrl.announced
    obtain ⟨hann', hp'⟩ := huser.announced
    exact ⟨p₁, h₁, hctrl, huser, hann, hann', by rw [hp', hp₁]⟩

/-- Every TEI that was announced is replaced by a number. -/
def AnnouncesNumber (ie ie' : List Ie) (nr : ℕ) : Prop :=
  ∀ (i : ℕ) (x : Ie), ie[i]? = some x → x.IsTei → x.tv4V ≠ 0 →
    ∃ y, ie'[i]? = some y ∧ y.type = x.type ∧ y.tv4V = nr

/-- A TEI that is not the first one of its plane is a number already. -/
def FurtherTeis (ie : List Ie) (nr : ℕ) : Prop :=
  ∀ (i : ℕ) (x : Ie), ie[i]? = some x → x.IsTei → x.tv4V ≠ 0 →
    gtpieGetie ie x.type 0 ≠ some i → x.tv4V = nr

theorem isTei_iff {x : Ie} : x.IsTei ↔ x.type = gtpieTeiC ∨ x.type = gtpieTeiDi := by
  constructor
  · rintro ⟨plane, htype⟩
    cases plane with
    | ctrl => exact .inl htype
    | user => exact .inr htype
  · rintro (htype | htype)
    · exact ⟨.ctrl, htype⟩
    · exact ⟨.user, htype⟩

/-- The elements of a packet can be gone through one by one. -/
theorem furtherTeis_of_range {nr : ℕ} (hall : ∀ i ∈ List.range ie.length, ∀ x ∈ ie[i]?,
    (x.type = gtpieTeiC ∨ x.type = gtpieTeiDi) → x.tv4V ≠ 0 →
      gtpieGetie ie x.type 0 ≠ some i → x.tv4V = nr) : FurtherTeis ie nr := by
  intro i x hx htei
  have hi := (List.getElem?_eq_some_iff.mp hx).1
  exact hall i (List.mem_range.mpr hi) x hx (isTei_iff.mp htei)

/-- The first TEI of a plane is not zero. -/
def FirstTei (ie : List Ie) (plane : Plane) : Prop :=
  ∃ i x, gtpieGetie ie plane.ieType 0 = some i ∧ ie[i]? = some x ∧ x.tv4V ≠ 0

theorem getElem?_of_types (htypes : ie'.map Ie.type = ie.map Ie.type) {i : ℕ} {y : Ie}
    (hy : ie'[i]? = some y) : ∃ x, ie[i]? = some x ∧ y.type = x.type := by
  have hmap : (ie.map Ie.type)[i]? = some y.type := by rw [← htypes, List.getElem?_map, hy]; rfl
  rw [List.getElem?_map] at hmap
  obtain ⟨x, hx, htype⟩ := Option.map_eq_some_iff.mp hmap
  exact ⟨x, hx, htype.symm⟩

theorem TeisKept.getElem?_iff (hkept : TeisKept ie ie') {i : ℕ} {x : Ie} (hx : x.IsTei) :
    ie'[i]? = some x ↔ ie[i]? = some x := by
  constructor
  · intro hx'
    obtain ⟨y, hy, htype⟩ := getElem?_of_types hkept.types hx'
    obtain ⟨plane, hplane⟩ := hx
    have hy' := hkept.kept i y hy ⟨plane, htype ▸ hplane⟩
    rw [hx'] at hy'
    cases hy'
    exact hy
  · exact fun hx' ↦ hkept.kept i x hx' hx

theorem TeisKept.announcesNumber_iff (hkept : TeisKept ie ie') (ie'' : List Ie) (nr : ℕ) :
    AnnouncesNumber ie' ie'' nr ↔ AnnouncesNumber ie ie'' nr := by
  constructor
  · intro hall i x hx htei
    exact hall i x ((hkept.getElem?_iff htei).mpr hx) htei
  · intro hall i x hx htei
    exact hall i x ((hkept.getElem?_iff htei).mp hx) htei

theorem TeisKept.furtherTeis_iff (hkept : TeisKept ie ie') (nr : ℕ) :
    FurtherTeis ie' nr ↔ FurtherTeis ie nr := by
  have hget := gtpieGetie_congr hkept.types
  constructor
  · intro hall i x hx htei hne hfirst
    exact hall i x ((hkept.getElem?_iff htei).mpr hx) htei hne (by rw [hget]; exact hfirst)
  · intro hall i x hx htei hne hfirst
    exact hall i x ((hkept.getElem?_iff htei).mp hx) htei hne (by rw [← hget]; exact hfirst)

/-- When the numbers that were announced are that of the tunnel. The user plane comes last, so its
number is the one that the tunnel ends up with. -/
theorem announcesNumber_iff {ie₁ : List Ie} {nr nr' : ℕ} (hctrl : Announced .ctrl nr ie ie₁)
    (huser : Announced .user nr' ie₁ ie') :
    AnnouncesNumber ie ie' nr' ↔ (FirstTei ie .ctrl → nr = nr') ∧ FurtherTeis ie nr' := by
  have hget (type : ℕ) := gtpieGetie_congr hctrl.types type 0
  have hplane {plane plane' : Plane} {i : ℕ} {x : Ie} (hx : ie[i]? = some x)
      (htype : x.type = plane.ieType) (hi : gtpieGetie ie plane'.ieType 0 = some i) :
      plane = plane' := by
    obtain ⟨y, hy, hytype⟩ := gtpieGetie_some hi
    rw [hx] at hy
    cases hy
    exact ieType_injective (htype.symm.trans hytype)
  -- What becomes of the first TEI of each plane, and of the others.
  have hfirstCtrl (i : ℕ) (x : Ie) (hi : gtpieGetie ie gtpieTeiC 0 = some i)
      (hx : ie[i]? = some x) (hne : x.tv4V ≠ 0) : ie'[i]? = some (.tv4 gtpieTeiC nr) := by
    obtain ⟨y, hy, hytype⟩ := gtpieGetie_some hi
    refine huser.kept i _ (hctrl.first i x hi hx hne) ⟨.ctrl, rfl⟩ fun hi' ↦ ?_
    rw [hget] at hi'
    have : Plane.ctrl = .user := hplane hy hytype hi'
    simp at this
  have hfirstUser (i : ℕ) (x : Ie) (hi : gtpieGetie ie gtpieTeiDi 0 = some i)
      (hx : ie[i]? = some x) (hne : x.tv4V ≠ 0) : ie'[i]? = some (.tv4 gtpieTeiDi nr') := by
    obtain ⟨y, hy, hytype⟩ := gtpieGetie_some hi
    have hytype' : x.type = gtpieTeiDi := by
      rw [hx] at hy
      cases hy
      exact hytype
    refine huser.first i x (by rw [hget]; exact hi) (hctrl.kept i x hx ⟨.user, hytype'⟩ ?_) hne
    intro hi'
    have : Plane.user = .ctrl := hplane hx hytype' hi'
    simp at this
  have hother (i : ℕ) (x : Ie) (hx : ie[i]? = some x) (htei : x.IsTei)
      (hnot : gtpieGetie ie x.type 0 ≠ some i) : ie'[i]? = some x := by
    have hne (plane : Plane) : gtpieGetie ie plane.ieType 0 ≠ some i := by
      intro hi
      obtain ⟨plane', htype⟩ := htei
      rw [hplane hx htype hi] at htype
      exact hnot (htype ▸ hi)
    refine huser.kept i x (hctrl.kept i x hx htei (hne .ctrl)) htei ?_
    rw [hget]
    exact hne .user
  constructor
  · intro hall
    refine ⟨?_, fun i x hx htei hne hnot ↦ ?_⟩
    · rintro ⟨i, x, hi, hx, hne⟩
      obtain ⟨z, hz, hztype⟩ := gtpieGetie_some hi
      rw [hx] at hz
      cases hz
      obtain ⟨y, hy, -, hnr⟩ := hall i x hx ⟨.ctrl, hztype⟩ hne
      rw [hfirstCtrl i x hi hx hne] at hy
      cases hy
      exact hnr
    · obtain ⟨y, hy, -, hnr⟩ := hall i x hx htei hne
      rw [hother i x hx htei hnot] at hy
      cases hy
      exact hnr
  · rintro ⟨hctrlNr, hfurther⟩ i x hx htei hne
    obtain ⟨plane, htype⟩ := id htei
    by_cases hi : gtpieGetie ie x.type 0 = some i
    · rw [htype] at hi
      cases plane with
      | ctrl =>
        exact ⟨_, hfirstCtrl i x hi hx hne, htype.symm, hctrlNr ⟨i, x, hi, hx, hne⟩⟩
      | user => exact ⟨_, hfirstUser i x hi hx hne, htype.symm, rfl⟩
    · exact ⟨x, hother i x hx htei hi, rfl, hfurther i x hx htei hne hi⟩

end Elements

/-! ## What is announced is what is recognised -/

/-- A request announces the TEI and the address of a tunnel for the control plane of its SGSN, so
the tunnel is taken for a stale one. -/
def TakesOver (h : Hub) (r : Route) (t : ℕ) : Prop :=
  teiFromIe r.p .ctrl = some ((h.tun t).endpoint .sgsn .ctrl).teiOrig ∧
    ∃ addr, gsnAddrGet r.p 0 = some addr ∧
      ((h.tun t).endpoint .sgsn .ctrl).peer.map PeerPort.addr =
        some (createAddr h .sgsn r.fromPort addr)

/-- The next number of the pool is that of a tunnel that a request does not end. -/
def NumberTaken (h : Hub) (r : Route) : Prop :=
  ∃ t ∈ h.tunnels, (h.tun t).teiRepl = (nrPoolNext h.teiPool).lastNr ∧ ¬ TakesOver h r t

section Announce

variable {lib : Lib} {r : Route} {choice : ℕ} {p' : GtpPacketDesc}

/-- Which tunnels end when a new one takes over its first TEI. -/
theorem reusesTei_new {t t' tei : ℕ} {pp toCtrl : PeerPort} {h₁ h₂ : Hub} (hne : t' ≠ t)
    (htei : tei ≠ 0) (hv₁ : h₁.view = ((h.addTunnel t).setPeer t .ggsn .ctrl (some toCtrl)).view)
    (hv₂ : h₂.view = (h₁.setPeer t .sgsn .ctrl (some pp)).view) :
    (h₂.setTeiOrig t .sgsn .ctrl tei).reusesTei t' t = true ↔
      ((h.tun t').endpoint .sgsn .ctrl).teiOrig = tei ∧
        ((h.tun t').endpoint .sgsn .ctrl).peer.map PeerPort.addr = some pp.addr := by
  have hold (s : Side) (p : Plane) :
      ((h₂.setTeiOrig t .sgsn .ctrl tei).tun t').endpoint s p = (h.tun t').endpoint s p := by
    rw [Hub.setTeiOrig, Hub.setEndpoint_endpoint, if_neg fun hall ↦ hne hall.1, tun_of_view hv₂,
      Hub.setPeer, Hub.setEndpoint_endpoint, if_neg fun hall ↦ hne hall.1, tun_of_view hv₁,
      Hub.setPeer, Hub.setEndpoint_endpoint, if_neg fun hall ↦ hne hall.1, Hub.addTunnel_tun hne]
  have hnew (s : Side) (p : Plane) : ((h₂.setTeiOrig t .sgsn .ctrl tei).tun t).endpoint s p =
      if s = .sgsn ∧ p = .ctrl then ⟨some pp, tei⟩
      else if s = .ggsn ∧ p = .ctrl then ⟨some toCtrl, 0⟩ else ⟨none, 0⟩ := by
    cases s <;> cases p <;>
      simp [Hub.setTeiOrig, tun_of_view hv₂, Hub.setPeer, tun_of_view hv₁]
  rw [Hub.reusesTei_iff]
  simp only [hold, hnew]
  constructor
  · rintro ⟨s, p, addr, hne₀, heq, hpeer, hpp⟩
    split at heq
    · next hsp =>
      obtain ⟨rfl, rfl⟩ := hsp
      exact ⟨heq, hpeer.trans hpp.symm⟩
    · split at heq
      · exact (hne₀ heq).elim
      · exact (hne₀ heq).elim
  · rintro ⟨horig, hpeer⟩
    exact ⟨.sgsn, .ctrl, pp.addr, by rw [horig]; exact htei, horig, hpeer, rfl⟩

/-- A Create Request that is forwarded: the tunnel, and what is announced for it. -/
theorem createReq_announces {toCtrl : PeerPort} (hd : DistinctTeis h)
    (hmin : h.teiPool.nrMin ≠ 0) (htype : r.p.type = gtpCreatePdpReq)
    (hr : gtphubHandleCreatePdpCtx lib choice r.p r.fromPort toCtrl h = .ok (some p') h') :
    (r.p.side = .sgsn ∧ r.p.tun = none) ∧ ∃ t ∈ h'.tunnels, p'.tun = some t ∧
      ((h'.tun t).teiRepl = (nrPoolNext h.teiPool).lastNr ↔ ¬ NumberTaken h r) ∧
      (AnnouncesNumber r.p.ie p'.ie (h'.tun t).teiRepl ↔
        (h'.tun t).teiRepl = (nrPoolNext h.teiPool).lastNr ∧
          FurtherTeis r.p.ie (h'.tun t).teiRepl) := by
  rcases createReq_ok htype hr with ⟨-, hnone, -⟩ | ⟨hside, htun, t, h₁, ht, hv, hr⟩
  · simp at hnone
  · refine ⟨⟨hside, htun⟩, t, ?_⟩
    have htunnels := setPeer_tunnels_of_view hv
    have hrepl := setPeer_teiRepl_of_view hv
    have hbut : DistinctBut t h₁ := (hd.addTunnel hmin ht).congr htunnels hrepl
    obtain ⟨p₁, h₂, hctrl, huser, hann, hann', hp'⟩ := createPlanes_announced hr
    have hnew : (h₁.tun t).teiRepl = (nrPoolNext h.teiPool).lastNr := by
      rw [hrepl, Hub.addTunnel_teiRepl]
    generalize ho : some p₁ = o at hctrl
    cases hctrl with
    | missing _ | refused _ _ _ => simp at ho
    | kept _ horig _ =>
      rw [tun_of_view hv, Hub.setPeer_teiOrig, Hub.addTunnel_endpoint] at horig
      exact (horig rfl).elim
    | @mapped h₃ _ pp addr tei haddr hpp htei hne hv₃ hcheck =>
      simp only [hside] at hv₃ hcheck hpp
      have hbut₃ := hbut.setTeiOrig hv₃ tei
      obtain ⟨hrc, hd₂, ht₂, hkept⟩ := checkReusedTeis_ok hbut₃ hcheck
      obtain ⟨hd', ht', hrepl'⟩ := huser.distinct hd₂ ht₂
      refine ⟨ht', by rw [hp'], ?_, ?_⟩
      · have hnumber : ((h₃.setTeiOrig t .sgsn .ctrl tei).tun t).teiRepl =
            (nrPoolNext h.teiPool).lastNr := by
          rw [Hub.setTeiOrig, Hub.setEndpoint_teiRepl, setPeer_teiRepl_of_view hv₃, hnew]
        rw [hnumber] at hkept
        have hsender :
            createAddr h₁ .sgsn r.fromPort addr = createAddr h .sgsn r.fromPort addr := by
          unfold createAddr
          rw [Hub.eq_of_view Hub.sgsnUseSender (fun _ ↦ rfl) hv]
          rfl
        rw [hrepl', hkept]
        constructor
        · rintro hfree ⟨t', ht'', hnr, hover⟩
          have hne' : t' ≠ t := ne_of_mem_of_not_mem ht'' ht
          refine hfree t' ?_ hne' (fun hst ↦ hover ?_) ?_
          · rw [Hub.setTeiOrig, Hub.setEndpoint_tunnels, setPeer_tunnels_of_view hv₃, htunnels]
            exact List.mem_cons_of_mem t ht''
          · obtain ⟨-, -, hreuse⟩ := mem_stale.mp hst
            obtain ⟨horig, hpeer⟩ := (reusesTei_new hne' hne hv hv₃).mp hreuse
            refine ⟨by rw [horig]; exact htei, addr, haddr, ?_⟩
            rw [hpeer, hpp, hsender]
          · rw [Hub.setTeiOrig, Hub.setEndpoint_teiRepl, setPeer_teiRepl_of_view hv₃, hrepl,
              Hub.addTunnel_tun hne', hnr]
        · intro hfree t' ht'' hne' hst hnr
          rw [Hub.setTeiOrig, Hub.setEndpoint_teiRepl, setPeer_teiRepl_of_view hv₃, hrepl,
            Hub.addTunnel_tun hne'] at hnr
          have hmem : t' ∈ h.tunnels := by
            rw [Hub.setTeiOrig, Hub.setEndpoint_tunnels, setPeer_tunnels_of_view hv₃,
              htunnels] at ht''
            exact List.mem_of_ne_of_mem hne' ht''
          refine hfree ⟨t', hmem, hnr, ?_⟩
          rintro ⟨htei', addr', haddr', hpeer⟩
          refine hst (mem_stale.mpr ⟨ht'', hne', (reusesTei_new hne' hne hv hv₃).mpr ?_⟩)
          have htei₀ : teiFromIe r.p .ctrl = some tei := htei
          have haddr₀ : gsnAddrGet r.p 0 = some addr := haddr
          rw [htei₀] at htei'
          rw [haddr₀] at haddr'
          cases haddr'
          exact ⟨(Option.some.inj htei').symm, by rw [hpeer, hpp, hsender]⟩
      · rw [hrepl', announcesNumber_iff hann hann', hnew]
        refine and_congr_left fun _ ↦ ⟨fun hfirst ↦ (hfirst ?_).symm, fun heq _ ↦ heq.symm⟩
        -- The request is forwarded, so it has a TEI for the control plane.
        have htei₀ : teiFromIe r.p .ctrl = some tei := htei
        unfold teiFromIe gtpieFind at htei₀
        cases hi : gtpieGetie r.p.ie Plane.ctrl.ieType 0 with
        | none =>
          rw [hi] at htei₀
          simp [htype] at htei₀
        | some i =>
          obtain ⟨x, hx, -⟩ := gtpieGetie_some hi
          rw [hi] at htei₀
          simp only [Option.bind_some, hx, Option.some.injEq] at htei₀
          exact ⟨i, x, hi, hx, by rw [htei₀]; exact hne⟩

/-- A Create Response that is forwarded. -/
theorem createRsp_announces {toCtrl : PeerPort} (hd : DistinctTeis h)
    (htun : ∀ t, r.p.tun = some t → t ∈ h.tunnels) (htype : r.p.type ≠ gtpCreatePdpReq)
    (hr : gtphubHandleCreatePdpCtx lib choice r.p r.fromPort toCtrl h = .ok (some p') h') :
    ∃ t ∈ h'.tunnels, p'.tun = some t ∧ (h'.tun t).teiRepl = r.p.headerTeiRx ∧
      (AnnouncesNumber r.p.ie p'.ie (h'.tun t).teiRepl ↔
        FurtherTeis r.p.ie (h'.tun t).teiRepl) := by
  rcases createRsp_ok htype hr with ⟨hnone, -⟩ | ⟨-, t, ht, hrepl, hr⟩
  · simp at hnone
  · obtain ⟨p₁, h₁, hctrl, huser, hann, hann', hp'⟩ := createPlanes_announced hr
    obtain ⟨hd₁, ht₁, hrepl₁⟩ := hctrl.distinct hd (htun t ht)
    obtain ⟨-, ht', hrepl'⟩ := huser.distinct hd₁ ht₁
    refine ⟨t, ht', by rw [hp']; exact ht, by rw [hrepl', hrepl₁, hrepl], ?_⟩
    rw [hrepl', announcesNumber_iff hann hann', hrepl₁]
    exact ⟨fun hall ↦ hall.2, fun hall ↦ ⟨fun _ ↦ rfl, hall⟩⟩

/-- A Create message that is forwarded, whichever of the two it is. -/
theorem create_announces {toCtrl : PeerPort} (hd : DistinctTeis h) (hmin : h.teiPool.nrMin ≠ 0)
    (htun : ∀ t, r.p.tun = some t → t ∈ h.tunnels) (hplane : r.p.plane = .ctrl)
    (hr : gtphubHandleCreatePdpCtx lib choice r.p r.fromPort toCtrl h = .ok (some p') h') :
    ∃ t ∈ h'.tunnels, p'.tun = some t ∧
      (AnnouncesNumber r.p.ie p'.ie (h'.tun t).teiRepl ↔
        (MakesTunnel r.p → ¬ NumberTaken h r) ∧
          FurtherTeis r.p.ie (if r.p.type = gtpCreatePdpReq then (nrPoolNext h.teiPool).lastNr
            else r.p.headerTeiRx)) := by
  by_cases hreq : r.p.type = gtpCreatePdpReq
  · obtain ⟨⟨hside, hnone⟩, t, ht, hpt, hnum, hiff⟩ := createReq_announces hd hmin hreq hr
    refine ⟨t, ht, hpt, ?_⟩
    rw [hiff, hnum, if_pos hreq]
    constructor
    · rintro ⟨hfree, hfurther⟩
      rw [hnum.mpr hfree] at hfurther
      exact ⟨fun _ ↦ hfree, hfurther⟩
    · rintro ⟨hfree, hfurther⟩
      have hfree := hfree ⟨hplane, hreq, hside, hnone⟩
      rw [hnum.mpr hfree]
      exact ⟨hfree, hfurther⟩
  · obtain ⟨t, ht, hpt, hnum, hiff⟩ := createRsp_announces hd htun hreq hr
    refine ⟨t, ht, hpt, ?_⟩
    rw [hiff, if_neg hreq, hnum]
    exact ⟨fun hfurther ↦ ⟨fun hmakes ↦ (hreq hmakes.type).elim, hfurther⟩, fun hall ↦ hall.2⟩

/-- A message that is forwarded and was no Create message is none then either. -/
theorem handlePdpCtx_type {p : GtpPacketDesc} {fromCtrl toCtrl : PeerPort}
    (hcreate : ¬ (p.type = gtpCreatePdpReq ∨ p.type = gtpCreatePdpRsp))
    (hr : gtphubHandlePdpCtx lib choice p fromCtrl toCtrl h = .ok (some p') h') :
    p'.type = p.type := by
  unfold gtphubHandlePdpCtx at hr
  rw [if_neg hcreate] at hr
  split at hr
  · rcases deleteReq_ok hr with ⟨hnone, -⟩ | ⟨pd, hsome, -⟩
    · simp at hnone
    · rw [Option.some.inj hsome]
  · split at hr
    · rcases deleteRsp_ok hr with ⟨hnone, -⟩ | ⟨pd, -, -, ⟨hnone, -⟩ | ⟨hsome, -⟩⟩
      · simp at hnone
      · simp at hnone
      · rw [Option.some.inj hsome]
    · rw [Option.some.inj (pure_eq_ok.mp hr).1]

/-- **What is announced is what is recognised.** A Create message that is forwarded announces the
number of its tunnel in place of every TEI, exactly if the number that a new tunnel draws from the
pool is not that of a tunnel that lives on, and no plane has a second TEI with another value. -/
theorem gtphubHandleBuf_announces_iff (lib : Lib) (rx : Rx) (h h' : Hub) (toPort : PeerPort)
    (p' : GtpPacketDesc) (hd : DistinctTeis h)
    (hpool : h.teiPool.nrMin = 1 ∧ h.teiPool.nrMax = 0xffffffff)
    (hr : gtphubHandleBuf lib rx h = .ok (.forward toPort p') h')
    (htype : p'.type = gtpCreatePdpReq ∨ p'.type = gtpCreatePdpRsp) :
    let p := gtpDecode lib rx.buf rx.received rx.side rx.plane rx.now
    (∃ t ∈ h'.tunnels, p'.tun = some t ∧ AnnouncesNumber p.ie p'.ie (h'.tun t).teiRepl) ↔
      ∃ r h₁, gtphubLocate lib rx h = .ok (.inr r) h₁ ∧
        (MakesTunnel r.p → ¬ NumberTaken h₁ r) ∧
        FurtherTeis p.ie (if p.type = gtpCreatePdpReq then (nrPoolNext h.teiPool).lastNr
          else p.headerTeiRx) := by
  intro p
  obtain ⟨r, h₁, hloc, hr⟩ := handleBuf_forward hr
  obtain ⟨h₀, hv, hrouted⟩ := locate_inr hloc
  have hd₁ : DistinctTeis h₁ := hd.fewer ((Fewer.of_view hv).trans hrouted.voided.fewer)
  have hpool₁ : h₁.teiPool = h.teiPool :=
    (Hub.eq_of_background Hub.teiPool (fun _ ↦ rfl) hrouted.voided.background).trans
      (Hub.eq_of_view Hub.teiPool (fun _ ↦ rfl) hv)
  have hmin : h₁.teiPool.nrMin ≠ 0 := by rw [hpool₁, hpool.1]; decide
  obtain ⟨fromTei, hun, -⟩ := hrouted.destination
  have htun (t : ℕ) (ht : r.p.tun = some t) : t ∈ h₁.tunnels := hun.mem_tunnels ht
  -- The elements of the decoded packet that announce a TEI are those of the routed one.
  have hkept : TeisKept p.ie r.p.ie := by
    rw [hrouted.same.ie]
    exact mapRestartCounter_teisKept _ p
  have hloc_iff (P : Route → Hub → Prop) :
      (∃ r h₁, gtphubLocate lib rx h = .ok (.inr r) h₁ ∧ P r h₁) ↔ P r h₁ := by
    constructor
    · rintro ⟨r', h₁', hloc', hP⟩
      rw [hloc] at hloc'
      cases hloc'
      exact hP
    · exact fun hP ↦ ⟨r, h₁, hloc, hP⟩
  rw [hloc_iff (fun r h₁ ↦ (MakesTunnel r.p → ¬ NumberTaken h₁ r) ∧ _)]
  obtain ⟨o, h₂, hctrl, hend⟩ := deliver_ok hr
  rcases hend with ⟨-, hdrop, -⟩ | ⟨p₂, p₃, rfl, heq, hfwd⟩
  · simp at hdrop
  · cases heq
    obtain ⟨htunnels, htun'⟩ := hfwd.fewer
    have hp' : p'.type = p₂.type ∧ p'.tun = p₂.tun ∧ p'.ie = p₂.ie := by
      rcases hfwd.packet with rfl | ⟨seq, rfl⟩ <;> exact ⟨rfl, rfl, rfl⟩
    rw [hp'.1] at htype
    rw [hp'.2.1, hp'.2.2, htunnels, htun']
    have hone {t : ℕ} (ht : t ∈ h₂.tunnels) (hpt : p₂.tun = some t) :
        (∃ t ∈ h₂.tunnels, p₂.tun = some t ∧ AnnouncesNumber p.ie p₂.ie (h₂.tun t).teiRepl) ↔
          AnnouncesNumber r.p.ie p₂.ie (h₂.tun t).teiRepl := by
      rw [hkept.announcesNumber_iff]
      constructor
      · rintro ⟨t', -, hpt', hann⟩
        rw [hpt] at hpt'
        cases hpt'
        exact hann
      · exact fun hann ↦ ⟨t, ht, hpt, hann⟩
    have hplane : rx.plane = p.plane := (gtpDecode_fields lib _ _ _ _ _).2.1.symm
    unfold gtphubHandleCtrl at hctrl
    split at hctrl
    · next hctrlPlane =>
      have hcreate : r.p.type = gtpCreatePdpReq ∨ r.p.type = gtpCreatePdpRsp := by
        by_contra hnot
        rw [handlePdpCtx_type hnot hctrl] at htype
        exact hnot htype
      rw [gtphubHandlePdpCtx, if_pos hcreate] at hctrl
      obtain ⟨t, ht, hpt, hiff⟩ := create_announces hd₁ hmin htun hctrlPlane hctrl
      rw [hone ht hpt, hiff, ← hpool₁, ← hkept.furtherTeis_iff, hrouted.type, hrouted.headerTeiRx]
    · next huser =>
      -- Nothing is looked for on the user plane, and nothing is announced.
      obtain ⟨heq, rfl⟩ := pure_eq_ok.mp hctrl
      cases heq
      have hie : p.ie = [] := by
        have hrx : rx.plane = .user := by
          rw [hplane, ← hrouted.plane]
          cases hpl : r.p.plane with
          | ctrl => exact (huser hpl).elim
          | user => rfl
        change (gtpDecode lib rx.buf rx.received rx.side rx.plane rx.now).ie = []
        rw [hrx]
        exact gtpDecode_ie_user ..
      rw [hie]
      refine iff_of_true ?_ ⟨fun hmakes ↦ (huser hmakes.plane).elim, fun i x hx ↦ by simp at hx⟩
      obtain ⟨t, ht⟩ : ∃ t, r.p.tun = some t := by
        refine Option.ne_none_iff_exists'.mp (hfwd.tunnel.resolve_right fun hdel ↦ ?_)
        rw [hdel] at htype
        exact absurd htype (by decide)
      exact ⟨t, htun t ht, ht, fun i x hx ↦ by simp at hx⟩

/-- A second request of the SGSN announces its number. -/
theorem second_request_announces : ∃ toPort p' h',
    gtphubHandleBuf exampleLib (exampleCreateReq 2 0x33 0x44 8) exampleTunnel =
      .ok (.forward toPort p') h' ∧
    ∃ t ∈ h'.tunnels, p'.tun = some t ∧ AnnouncesNumber (gtpDecode exampleLib
      (exampleCreateReq 2 0x33 0x44 8).buf (exampleCreateReq 2 0x33 0x44 8).received
      .sgsn .ctrl 0).ie
        p'.ie (h'.tun t).teiRepl := by
  have hret : ((gtphubHandleBuf exampleLib (exampleCreateReq 2 0x33 0x44 8)
      exampleTunnel).returned.map fun x ↦ match x.1 with
        | .forward _ p => some p.type
        | _ => none) = some (some gtpCreatePdpReq) := by decide +kernel
  obtain ⟨⟨v, h'⟩, hret, hx⟩ := Option.map_eq_some_iff.mp hret
  cases v with
  | drop | done | reply _ _ => simp at hx
  | forward toPort p' =>
    have hr := returned_eq_some.mp hret
    refine ⟨toPort, p', h', hr, ?_⟩
    refine (gtphubHandleBuf_announces_iff exampleLib _ exampleTunnel h' toPort p'
      exampleTunnel_distinctTeis (by decide +kernel) hr (.inl (Option.some.inj hx))).mpr ?_
    obtain ⟨r, h₁, hloc, -⟩ := handleBuf_forward hr
    have hret₁ : ((gtphubLocate exampleLib (exampleCreateReq 2 0x33 0x44 8)
        exampleTunnel).returned.map fun x ↦
          (x.2.tunnels, (x.2.tun 7).teiRepl, (nrPoolNext x.2.teiPool).lastNr)) =
            some ([7], 1, 2) := by decide +kernel
    rw [returned_eq_some.mpr hloc] at hret₁
    simp only [Option.map_some, Option.some.injEq, Prod.mk.injEq] at hret₁
    refine ⟨r, h₁, hloc, ?_, furtherTeis_of_range (by decide +kernel)⟩
    rintro - ⟨t, ht, heq, -⟩
    rw [hret₁.1, List.mem_singleton] at ht
    rw [ht, hret₁.2.1, hret₁.2.2] at heq
    simp at heq

/-- A request to a hub whose pool has wrapped around announces a number that the tunnel does not
have. -/
theorem wrapped_pool_announces_old_tei : ¬ ∀ (lib : Lib) (rx : Rx) (h h' : Hub) (toPort : PeerPort)
    (p' : GtpPacketDesc), DistinctTeis h →
      h.teiPool.nrMin = 1 ∧ h.teiPool.nrMax = 0xffffffff →
      gtphubHandleBuf lib rx h = .ok (.forward toPort p') h' →
      p'.type = gtpCreatePdpReq ∨ p'.type = gtpCreatePdpRsp →
      ∃ t ∈ h'.tunnels, p'.tun = some t ∧
        AnnouncesNumber (gtpDecode lib rx.buf rx.received rx.side rx.plane rx.now).ie p'.ie
          (h'.tun t).teiRepl := by
  intro hall
  have hret : ((gtphubHandleBuf exampleLib (exampleCreateReq 2 0x33 0x44 8)
      exampleWrapped).returned.map fun x ↦ match x.1 with
        | .forward _ p => some (p.type, p.tun, p.ie[2]?, (x.2.tun 8).teiRepl)
        | _ => none) = some (some (gtpCreatePdpReq, some 8, some (.tv4 gtpieTeiC 1), 2)) := by
    decide +kernel
  obtain ⟨⟨v, h'⟩, hret, hx⟩ := Option.map_eq_some_iff.mp hret
  cases v with
  | drop | done | reply _ _ => simp at hx
  | forward toPort p' =>
    simp only [Option.some.injEq, Prod.mk.injEq] at hx
    obtain ⟨htype, htun, hie, hnr⟩ := hx
    obtain ⟨t, -, ht, hann⟩ := hall exampleLib _ exampleWrapped h' toPort p'
      exampleWrapped_distinctTeis (by decide +kernel) (returned_eq_some.mp hret) (.inl htype)
    rw [htun] at ht
    cases ht
    obtain ⟨y, hy, -, hy'⟩ := hann 2 (.tv4 gtpieTeiC 0x44) (by decide +kernel) ⟨.ctrl, rfl⟩
      (by decide)
    rw [hie] at hy
    cases hy
    rw [hnr] at hy'
    exact absurd hy' (by decide)

end Announce

end OsmoSgsn.Gtphub
