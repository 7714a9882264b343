import OsmoSgsn.Gmm.Plain
import OsmoSgsn.Gmm.Silent

/-!
# Taking and giving back records

What the few functions do that take records and give them back, and what the end of a context does
to its record. A record that is cleaned up has no context any more, and a context that goes away is
the context of no record.
-/

namespace OsmoSgsn.Gmm

open EStateM

variable {α β : Type} {m : SgsnM α} {k : α → SgsnM β} {s s' : Sgsn} {id : CtxId} {mm : MmCtx}
  {held : SubId → ℕ} {sid : SubId} {x : Subscr} {v v' v'' : Records}

/-! ## Objects that are there -/

section Objects

variable {Q : MmCtx → Sgsn → Prop} {R : Subscr → Sgsn → Prop} {U : Unit → Sgsn → Prop}
  {E : Fault → Sgsn → Prop}

theorem wp_getSubscr (hx : s.records.record sid = some x) : wp (getSubscr sid) R E s ↔ R x s := by
  have hx' : s.subscr? sid = some x := hx
  unfold getSubscr
  rw [wp_bind, wp_get, hx']
  exact Iff.rfl

theorem wp_modSubscr (hx : s.records.record sid = some x) {f : Subscr → Subscr} :
    wp (modSubscr sid f) U E s ↔ U () (s.modSubscr sid f) := by
  unfold modSubscr
  rw [wp_bind, wp_getSubscr hx, wp_modify]

end Objects

@[simp] theorem records_modSubscr (s : Sgsn) (sid : SubId) (f : Subscr → Subscr) :
    (s.modSubscr sid f).records = s.records.modify sid f := rfl

@[simp] theorem records_dropSubscr (s : Sgsn) (sid : SubId) :
    (s.dropSubscr sid).records = s.records.drop sid := rfl

theorem record_modify_self {f : Subscr → Subscr} (hf : ∀ x, (f x).id = x.id)
    (hx : v.record sid = some x) : (v.modify sid f).record sid = some (f x) := by
  rw [record_modify hf, hx, Function.update_self]
  rfl

theorem modify_modify {f g : Subscr → Subscr} (hf : ∀ x, (f x).id = x.id) :
    (v.modify sid f).modify sid g = v.modify sid (g ∘ f) := by
  simp only [Records.modify, Records.mk.injEq, List.map_map, and_true, true_and]
  refine List.map_congr_left fun x _ ↦ ?_
  by_cases hx : x.id = sid
  · simp [hx, hf]
  · simp [hx]

/-! ## Frames -/

/-- The records that are left have the flags that they had. -/
def SameFlags (v v' : Records) : Prop :=
  ∀ sid y, v'.record sid = some y → ∃ x, v.record sid = some x ∧
    y.authInfoPending = x.authInfoPending ∧ y.locationPending = x.locationPending

theorem SameFlags.refl (v : Records) : SameFlags v v := fun _ y hy ↦ ⟨y, hy, rfl, rfl⟩

theorem SameFlags.trans (h : SameFlags v v') (h' : SameFlags v' v'') : SameFlags v v'' := by
  intro sid z hz
  obtain ⟨y, hy, h1, h2⟩ := h' sid z hz
  obtain ⟨x, hx, h3, h4⟩ := h sid y hy
  exact ⟨x, hx, h1.trans h3, h2.trans h4⟩

theorem SameFlags.of_record (h : v'.record = v.record) : SameFlags v v' :=
  fun _ y hy ↦ ⟨y, h ▸ hy, rfl, rfl⟩

theorem SameFlags.modify {f : Subscr → Subscr} (hid : ∀ x, (f x).id = x.id)
    (hauth : ∀ x, (f x).authInfoPending = x.authInfoPending)
    (hloc : ∀ x, (f x).locationPending = x.locationPending) :
    SameFlags v (v.modify sid f) := by
  intro q y hy
  rw [record_modify hid] at hy
  by_cases hq : q = sid
  · subst hq
    rw [Function.update_self, Option.map_eq_some_iff] at hy
    obtain ⟨x, hx, rfl⟩ := hy
    exact ⟨x, hx, hauth x, hloc x⟩
  · rw [Function.update_of_ne hq] at hy
    exact ⟨y, hy, rfl, rfl⟩

theorem SameFlags.drop (hnodup : (v.subscrs.map (·.id)).Nodup) (hx : v.record sid = some x) :
    SameFlags v (v.drop sid) := by
  by_cases hneed : 0 < x.useCount ∨ x.keepInRam = true
  · rw [record_drop_of_needed hnodup hx hneed]
    exact .refl v
  · intro q y hy
    rw [record_drop_of_not hnodup hx hneed] at hy
    by_cases hq : q = sid
    · simp [hq] at hy
    · exact ⟨y, by simpa [hq] using hy, rfl, rfl⟩

/-! ## References of callers -/

/-- What `gprs_subscr_put` leaves. -/
structure Put (held : SubId → ℕ) (sid : SubId) (v v' : Records) : Prop where
  counted : Counted (Function.update held sid (held sid - 1)) v'
  ctxs : v'.ctxs = v.ctxs
  cfg : v'.cfg = v.cfg
  flags : SameFlags v v'
  /-- What another caller needs is not freed. -/
  record : ∀ x, v.record sid = some x → 1 < x.useCount ∨ x.keepInRam = true →
    v' = v.modify sid fun x ↦ { x with useCount := x.useCount - 1 }

theorem wp_gprsSubscrPut (h : Counted held s.records) (hpos : 0 < held sid)
    {E : Fault → Sgsn → Prop} :
    wp (gprsSubscrPut sid) (fun _ s' ↦ Put held sid s.records s'.records) E s := by
  obtain ⟨x, hx⟩ := h.ofHeld hpos
  let f (x : Subscr) : Subscr := { x with useCount := x.useCount - 1 }
  have hf : ∀ x, (f x).id = x.id := fun _ ↦ rfl
  have hnodup : ((s.records.modify sid f).subscrs.map (·.id)).Nodup := by
    rw [ids_modify hf]
    exact h.nodup
  have hrec := record_modify_self hf hx
  unfold gprsSubscrPut
  rw [wp_bind, wp_modSubscr hx, wp_modify]
  refine ⟨h.put hpos, rfl, rfl, ?_, fun y hy hneed ↦ ?_⟩
  · exact (SameFlags.modify hf (fun _ ↦ rfl) fun _ ↦ rfl).trans (.drop hnodup hrec)
  · obtain rfl : x = y := Option.some.inj (hx.symm.trans hy)
    refine record_drop_of_needed hnodup hrec ?_
    rcases hneed with hone | hkeep
    · refine .inl ?_
      change 0 < x.useCount - 1
      omega
    · exact .inr hkeep

/-- A record that is left after `gprs_subscr_put` has the context that it had. -/
theorem wp_gprsSubscrPut_mm (hx : s.records.record sid = some x)
    (hnodup : (s.records.subscrs.map (·.id)).Nodup) {E : Fault → Sgsn → Prop} :
    wp (gprsSubscrPut sid) (fun _ s' ↦ ∀ q y', s'.records.record q = some y' →
      ∃ y, s.records.record q = some y ∧ y'.mm = y.mm) E s := by
  let f (x : Subscr) : Subscr := { x with useCount := x.useCount - 1 }
  have hf : ∀ x, (f x).id = x.id := fun _ ↦ rfl
  have hkept : ∀ q y', (s.records.modify sid f).record q = some y' →
      ∃ y, s.records.record q = some y ∧ y'.mm = y.mm := by
    intro q y' hy'
    rw [record_modify hf] at hy'
    by_cases hq : q = sid
    · subst hq
      rw [Function.update_self, hx] at hy'
      obtain rfl : f x = y' := Option.some.inj hy'
      exact ⟨x, hx, rfl⟩
    · exact ⟨y', by rwa [Function.update_of_ne hq] at hy', rfl⟩
  have hids : ((s.records.modify sid f).subscrs.map (·.id)).Nodup := by
    rw [ids_modify hf]
    exact hnodup
  unfold gprsSubscrPut
  rw [wp_bind, wp_modSubscr hx, wp_modify]
  intro q y' hy'
  change ((s.records.modify sid f).drop sid).record q = some y' at hy'
  by_cases hneed : 0 < (f x).useCount ∨ (f x).keepInRam = true
  · rw [record_drop_of_needed hids (record_modify_self hf hx) hneed] at hy'
    exact hkept q y' hy'
  · rw [record_drop_of_not hids (record_modify_self hf hx) hneed] at hy'
    by_cases hq : q = sid
    · simp [hq] at hy'
    · exact hkept q y' (by rwa [Function.update_of_ne hq] at hy')

theorem records_setCtx_subscr (_hmm : s.ctxs id = some mm) (o : Option SubId) :
    (s.setCtx id { mm with subscr := o }).records =
      s.records.set id (some { mm.subscription with subscr := o }) :=
  records_setCtx s id _

theorem subscription_of_some (hmm : s.ctxs id = some mm) :
    s.records.ctxs id = some mm.subscription := by
  simp [Sgsn.records, hmm]

/-- A record that is in the list is found by its pointer. -/
theorem record_of_mem (h : Counted held v) (hx : x ∈ v.subscrs) : v.record x.id = some x := by
  have hsome : (v.record x.id).isSome := List.find?_isSome.mpr ⟨x, hx, by simp⟩
  obtain ⟨y, hy⟩ := Option.isSome_iff_exists.mp hsome
  rw [hy]
  exact congrArg some (List.inj_on_of_nodup_map h.nodup (mem_of_record hy) hx (record_id hy))

/-- `gprs_subscr_get`, for a record that is there. -/
theorem wp_gprsSubscrGet (h : Counted held s.records) (hx : s.records.record sid = some x)
    {E : Fault → Sgsn → Prop} :
    wp (gprsSubscrGet sid)
      (fun _ s' ↦ Counted (Function.update held sid (held sid + 1)) s'.records ∧
      s'.records.record sid = some { x with useCount := x.useCount + 1 } ∧
      s' = s.modSubscr sid fun x ↦ { x with useCount := x.useCount + 1 }) E s := by
  unfold gprsSubscrGet
  rw [wp_modSubscr hx]
  exact ⟨h.get hx, record_modify_self (f := fun x ↦ { x with useCount := x.useCount + 1 })
    (fun _ ↦ rfl) hx, rfl⟩

/-- A caller has been given a record. -/
structure Given (held : SubId → ℕ) (v : Records) (sid : SubId) (v' : Records) : Prop where
  counted : Counted (Function.update held sid (held sid + 1)) v'
  record : (v'.record sid).isSome
  ctxs : v'.ctxs = v.ctxs

theorem wp_gprsSubscrGetByImsi (h : Counted held s.records) (imsi : Digits)
    {E : Fault → Sgsn → Prop} :
    wp (gprsSubscrGetByImsi imsi) (fun o s' ↦ match o with
      | none => s' = s
      | some sid => Given held s.records sid s'.records) E s := by
  unfold gprsSubscrGetByImsi
  rw [wp_bind, wp_get]
  cases hfind : s.subscrByImsi? imsi with
  | none => exact rfl
  | some x =>
    have hmem : x ∈ s.records.subscrs := by
      rw [Sgsn.subscrByImsi?] at hfind
      split at hfind
      · cases hfind
      · exact List.mem_of_find?_eq_some hfind
    dsimp only
    rw [wp_bind]
    refine wp_mono (wp_gprsSubscrGet h (record_of_mem h hmem)) ?_ fun _ _ hf ↦ hf
    rintro - s' ⟨hcount, hrec, rfl⟩
    exact ⟨hcount, Option.isSome_of_eq_some hrec, rfl⟩

theorem wp_gprsSubscrCreate (h : Counted held s.records) (imsi : Digits)
    {E : Fault → Sgsn → Prop} :
    wp (gprsSubscrCreate imsi) (fun sid s' ↦ Given held s.records sid s'.records) E s := by
  unfold gprsSubscrCreate
  rw [wp_bind, wp_get, wp_bind, wp_modify, wp_pure]
  have hfresh : ∀ y ∈ s.records.subscrs, y.id ≠ s.nextSubscr := fun y hy ↦ (h.freshSubscr y hy).ne
  refine ⟨h.add (x := .fresh s.nextSubscr imsi) rfl rfl rfl, ?_, rfl⟩
  change ((s.records.add (.fresh s.nextSubscr imsi)).record s.nextSubscr).isSome
  rw [record_add (x := .fresh s.nextSubscr imsi) hfresh]
  exact congrArg Option.isSome (Function.update_self s.nextSubscr _ s.records.record)

/-- A caller has been given the record of a context. -/
structure GivenTo (held : SubId → ℕ) (id : CtxId) (sid : SubId) (v' : Records) : Prop where
  counted : Counted (Function.update held sid (held sid + 1)) v'
  pointer : v'.pointer id = some sid

theorem wp_gprsSubscrGetOrCreateByMmctx (h : Counted held s.records) :
    wp (gprsSubscrGetOrCreateByMmctx id) (fun sid s' ↦ GivenTo held id sid s'.records)
      (fun f _ ↦ Harmless (s.ctxs id = none) f) s := by
  unfold gprsSubscrGetOrCreateByMmctx
  rw [wp_bind]
  cases hmm : s.ctxs id with
  | none =>
    unfold getMm
    rw [wp_bind, wp_get, hmm]
    exact ⟨by simp, by simp, fun _ ↦ rfl⟩
  | some mm =>
    rw [wp_getMm hmm]
    cases hsub : mm.subscr with
    | some sid =>
      have hp : s.records.pointer id = some sid := (pointer_of_some hmm).trans hsub
      obtain ⟨x, hx⟩ := h.pointed hp
      dsimp only
      rw [wp_bind]
      refine wp_mono (wp_gprsSubscrGet h hx) ?_ fun _ _ hf ↦ hf
      rintro - s' ⟨hcount, -, rfl⟩
      exact ⟨hcount, hp⟩
    | none =>
      dsimp only
      rw [wp_bind]
      refine wp_mono (wp_gprsSubscrGetByImsi h mm.imsi) (fun o s₀ ho ↦ ?_) fun _ _ hf ↦ hf
      rw [wp_bind]
      refine wp_mono (?_ : wp _ (fun sid s' ↦ Given held s.records sid s'.records)
        (fun f _ ↦ Harmless (some mm = none) f) s₀) (fun sid s₁ hgiv ↦ ?_) fun _ _ hf ↦ hf
      · -- The record is found or made, and a caller has it.
        cases o with
        | none =>
          obtain rfl : s₀ = s := ho
          exact wp_gprsSubscrCreate h mm.imsi
        | some sid => exact ho
      obtain ⟨x, hx⟩ := Option.isSome_iff_exists.mp hgiv.record
      have hu : s₁.records.ctxs id = some mm.subscription := by
        rw [hgiv.ctxs]
        exact subscription_of_some hmm
      obtain ⟨mm₁, hmm₁, hmm₁'⟩ := Option.map_eq_some_iff.mp hu
      have hlink :=
        hgiv.counted.link (f := (fun x : Subscr ↦ { x with useCount := x.useCount + 1 }) ∘
        (·.takenBy id mm)) hx hu hsub (fun _ ↦ rfl) rfl rfl
      have hx₁ := record_modify_self (v := s₁.records) (f := (·.takenBy id mm)) (fun _ ↦ rfl) hx
      rw [← modify_modify (f := (·.takenBy id mm)) fun _ ↦ rfl, ← hmm₁'] at hlink
      rw [wp_bind, wp_modSubscr hx, wp_bind]
      unfold gprsSubscrGet
      rw [wp_modSubscr (s := s₁.modSubscr sid _) hx₁, wp_bind,
        wp_modMm (s := (s₁.modSubscr sid _).modSubscr sid _) hmm₁, wp_pure]
      refine ⟨?_, ?_⟩
      · rw [records_setCtx]
        exact hlink
      · rw [records_setCtx, pointer_set, if_pos rfl]
        rfl

/-- `gprs_subscr_tx_gsup_message`, for a record that is there. -/
theorem wp_gprsSubscrTxGsup (hx : s.records.record sid = some x) {req : GsupRequest}
    {E : Fault → Sgsn → Prop} :
    wp (gprsSubscrTxGsup sid req) (fun ok s' ↦ s'.records = s.records ∧
      (s.env.gsup.head? = some false ↔ ok = false)) E s := by
  unfold gprsSubscrTxGsup gsupAnswer
  rw [wp_bind, wp_getSubscr hx, wp_bind, wp_bind, wp_get]
  cases hg : s.env.gsup with
  | nil => exact ⟨rfl, by simp⟩
  | cons b bs =>
    cases b with
    | true => exact ⟨rfl, by simp⟩
    | false => exact ⟨rfl, by simp⟩

/-! ## The end of a context -/

/-- What `gprs_subscr_cleanup` leaves. -/
structure Cleaned (held : SubId → ℕ) (sid : SubId) (v v' : Records) : Prop where
  counted : Counted held v'
  flags : SameFlags v v'
  cfg : v'.cfg = v.cfg
  alive : ∀ i, (v'.ctxs i).isSome = (v.ctxs i).isSome
  pointer : ∀ i, v'.pointer i = v.pointer i ∨ v'.pointer i = none
  /-- The record has no context. -/
  record : ∃ y, v'.record sid = some y ∧ y.mm = none

/-- The second half of `gprs_subscr_cleanup`, for a record that has no context any more. -/
theorem wp_purge (h : Cleaned held sid v s.records) {purge : Bool} {E : Fault → Sgsn → Prop} :
    wp (if purge then do
        let _ ← gprsSubscrTxGsup sid .purgeMs
        modSubscr sid fun x ↦ { x with enablePurge := false }
      else pure ()) (fun _ s' ↦ Cleaned held sid v s'.records) E s := by
  obtain ⟨y, hy, hmm⟩ := h.record
  cases purge with
  | false => exact h
  | true =>
    let f (x : Subscr) : Subscr := { x with enablePurge := false }
    rw [if_pos rfl, wp_bind]
    refine wp_mono (wp_gprsSubscrTxGsup hy) (fun ok s' hs' ↦ ?_) fun _ _ hf ↦ hf
    have hy' : s'.records.record sid = some y := by
      rw [hs'.1]
      exact hy
    rw [wp_modSubscr hy', records_modSubscr, hs'.1]
    exact {
      counted :=
        h.counted.modify (f := f) (fun _ ↦ rfl) (fun _ ↦ rfl) (fun _ ↦ rfl) (fun _ ↦ rfl) hy
      flags := h.flags.trans (.modify (f := f) (fun _ ↦ rfl) (fun _ ↦ rfl) fun _ ↦ rfl)
      cfg := h.cfg
      alive := h.alive
      pointer := h.pointer
      record := ⟨f y, record_modify_self (f := f) (fun _ ↦ rfl) hy, hmm⟩ }

/-- **A record that is cleaned up has no context any more**, and neither has that the record. -/
theorem wp_gprsSubscrCleanup (h : Counted held s.records) (hpos : 0 < held sid)
    {E : Fault → Sgsn → Prop} :
    wp (gprsSubscrCleanup sid) (fun _ s' ↦ Cleaned held sid s.records s'.records) E s := by
  obtain ⟨x, hx⟩ := h.ofHeld hpos
  unfold gprsSubscrCleanup
  rw [wp_bind, wp_getSubscr hx, wp_bind]
  cases hxmm : x.mm with
  | none =>
    exact wp_purge ⟨h, .refl _, rfl, fun _ ↦ rfl, fun _ ↦ .inl rfl, x, hx, hxmm⟩
  | some i =>
    have hp : s.records.pointer i = some sid := h.lawful.linked sid x i hx hxmm
    obtain ⟨u, hu, husub⟩ := Option.bind_eq_some_iff.mp hp
    obtain ⟨mm, hmm, hmmu⟩ := Option.map_eq_some_iff.mp hu
    have hsub : mm.subscr = some sid := by
      rw [← husub, ← hmmu]
      rfl
    have hu' : s.records.ctxs i = some mm.subscription := subscription_of_some hmm
    -- The context and the caller have references, so the record stays.
    have htwo : 1 < x.useCount := by
      obtain ⟨l, hl, hcard⟩ := h.lawful.counted sid x hx
      have hone : 1 ≤ l.card := Finset.card_pos.mpr ⟨i, (hl i).mpr hp⟩
      omega
    let f (x : Subscr) : Subscr := { x with useCount := x.useCount - 1 }
    let g (x : Subscr) : Subscr := { x with mm := none }
    have hf : ∀ x, (f x).id = x.id := fun _ ↦ rfl
    have hgf : ∀ x, ((g ∘ f) x).id = x.id := fun _ ↦ rfl
    have hunlink := h.unlink (f := g ∘ f) hx hxmm hu' hpos hgf rfl rfl
    dsimp only
    rw [wp_bind, wp_getMm hmm, hsub]
    dsimp only
    rw [wp_bind]
    refine wp_mono (wp_gprsSubscrPut h hpos) (fun _ s₁ hput ↦ ?_) fun _ _ hf ↦ hf
    have hrecs : s₁.records = s.records.modify sid f := hput.record x hx (.inl htwo)
    have hmm₁ : ∃ mm₁, s₁.ctxs i = some mm₁ ∧ mm₁.subscription = mm.subscription := by
      refine Option.map_eq_some_iff.mp ?_
      change s₁.records.ctxs i = _
      rw [hrecs]
      exact hu'
    obtain ⟨mm₁, hmm₁, hsame⟩ := hmm₁
    have hx₁ : (s₁.setCtx i { mm₁ with subscr := none }).records.record sid = some (f x) := by
      rw [records_setCtx, record_set, hrecs]
      exact record_modify_self hf hx
    rw [wp_bind, wp_modMm hmm₁, wp_modSubscr hx₁]
    refine wp_purge ?_
    have hfinal : ((s₁.setCtx i { mm₁ with subscr := none }).modSubscr sid g).records =
        (s.records.modify sid (g ∘ f)).set i (some { mm.subscription with subscr := none }) := by
      rw [records_modSubscr, records_setCtx_subscr hmm₁, hrecs, hsame, ← modify_modify hf]
      rfl
    change Cleaned _ _ _ ((s₁.setCtx i { mm₁ with subscr := none }).modSubscr sid g).records
    rw [hfinal]
    refine ⟨hunlink, ?_, rfl, fun j ↦ ?_, fun j ↦ ?_, (g ∘ f) x, ?_, rfl⟩
    · exact (SameFlags.modify hgf (fun _ ↦ rfl) fun _ ↦ rfl).trans (.of_record record_set)
    · change (Function.update s.records.ctxs i _ j).isSome = _
      by_cases hj : j = i
      · subst hj
        simp [hu']
      · rw [Function.update_of_ne hj]
    · rw [pointer_set]
      by_cases hj : j = i
      · exact .inr (if_pos hj)
      · exact .inl (if_neg hj)
    · rw [record_set]
      exact record_modify_self hgf hx

theorem records_freeCtx (s : Sgsn) (id : CtxId) :
    (s.freeCtx id).records = s.records.set id none := by
  simp only [Sgsn.records, Sgsn.freeCtx, Records.set, Records.mk.injEq, and_true, true_and]
  funext j
  by_cases hj : j = id
  · subst hj
    simp
  · simp [hj]

/-- What is left when a context has gone. -/
structure Ended (held : SubId → ℕ) (id : CtxId) (v v' : Records) : Prop where
  counted : Counted held v'
  gone : v'.ctxs id = none
  flags : SameFlags v v'
  cfg : v'.cfg = v.cfg

theorem Ended.of_eq {w : Records} (h : Ended held id w v') (hw : w = v) : Ended held id v v' :=
  hw ▸ h

/-- A program, from a state, ends a context. -/
def EndsAt (id : CtxId) (m : SgsnM α) (s : Sgsn) : Prop :=
  ∀ held, Counted held s.records →
    wp m (fun _ s' ↦ Ended held id s.records s'.records)
      (fun f _ ↦ Harmless (s.ctxs id = none) f) s

theorem EndsAt.bind (hm : SilentAt id m s)
    (hk : ∀ a s', s'.records = s.records → EndsAt id (k a) s') : EndsAt id (m >>= k) s := by
  intro held h
  refine wp_bind.mpr (wp_mono (hm held h) (fun a s' hs' ↦ ?_) fun _ _ hf ↦ hf)
  refine wp_mono (hk a s' hs' held (hs'.symm ▸ h)) (fun _ _ h' ↦ h'.of_eq hs') fun f t hf ↦ ?_
  exact hf.mono (gone_iff hs' id).mp

theorem EndsAt.getMm {k : MmCtx → SgsnM β} (hk : ∀ mm, s.ctxs id = some mm → EndsAt id (k mm) s) :
    EndsAt id (getMm id >>= k) s := by
  intro held h
  rw [wp_bind]
  cases hmm : s.ctxs id with
  | none =>
    unfold Gmm.getMm
    rw [wp_bind, wp_get, hmm]
    exact ⟨by simp, by simp, fun _ ↦ rfl⟩
  | some mm =>
    rw [wp_getMm hmm]
    have hw := hk mm hmm held h
    rw [hmm] at hw
    exact hw

/-- An LLC entity that is gone is no record and no context. -/
theorem wp_getLlme {l : LlmeId} {R : Llme → Sgsn → Prop} (hR : ∀ llme, R llme s) :
    wp (getLlme l) R (fun f _ ↦ Harmless False f) s := by
  unfold getLlme
  rw [wp_bind, wp_get]
  cases s.llme? l with
  | none => exact .of_ne (by simp) (by simp) (by simp)
  | some llme => exact hR llme

theorem wp_gprsLlgmmUnassign {l : LlmeId} :
    wp (gprsLlgmmUnassign l) (fun _ s' ↦ s'.records = s.records)
      (fun f _ ↦ Harmless False f) s := by
  unfold gprsLlgmmUnassign gprsLlgmmAssign
  rw [wp_bind]
  refine wp_getLlme fun llme ↦ ?_
  rw [wp_bind]
  exact wp_getLlme fun _ ↦ rfl

/-- The context goes, once it is the context of no record. -/
theorem wp_freeCtx_unassign {l : Option LlmeId} (h : Counted held s'.records)
    (hcfg : s'.records.cfg = s.records.cfg) (hflags : SameFlags s.records s'.records)
    (hfree : ∀ q y, s'.records.record q = some y → y.mm ≠ some id) :
    wp (do
      modify (·.freeCtx id)
      match l with
        | none => pure ()
        | some llme => gprsLlgmmUnassign llme)
      (fun _ t ↦ Ended held id s.records t.records)
      (fun f _ ↦ Harmless (s.ctxs id = none) f) s' := by
  have hended : Ended held id s.records (s'.freeCtx id).records := by
    rw [records_freeCtx]
    exact ⟨h.free hfree, Function.update_self .., hflags.trans (.of_record record_set), hcfg⟩
  rw [wp_bind, wp_modify]
  cases l with
  | none => exact hended
  | some llme =>
    exact wp_mono wp_gprsLlgmmUnassign (fun _ t ht ↦ ht ▸ hended) fun f t hf ↦ hf.mono False.elim

/-- The reference of a context is given back. -/
theorem ends_release {l : Option LlmeId} (hmm : s.ctxs id = some mm) :
    EndsAt id (do
      (match mm.subscr with
        | none => pure ()
        | some sid => do
          gprsSubscrGet sid
          gprsSubscrCleanup sid
          gprsSubscrPut sid)
      modify (·.freeCtx id)
      match l with
        | none => pure ()
        | some llme => gprsLlgmmUnassign llme) s := by
  intro held h
  have hp := pointer_of_some hmm
  cases hsub : mm.subscr with
  | none =>
    refine wp_freeCtx_unassign h rfl (.refl _) fun q y hy hmm' ↦ ?_
    have hlinked := (h.lawful.linked q y id hy hmm').symm.trans (hp.trans hsub)
    exact absurd hlinked (Option.some_ne_none q)
  | some sid =>
    obtain ⟨x, hx⟩ := h.pointed (hp.trans hsub)
    have hpos : 0 < Function.update held sid (held sid + 1) sid := by simp
    dsimp only
    simp only [bind_assoc]
    rw [wp_bind]
    refine wp_mono (wp_gprsSubscrGet h hx) ?_ fun _ _ hf ↦ hf
    rintro - s₁ ⟨hcount, -, rfl⟩
    rw [wp_bind]
    refine wp_mono (wp_gprsSubscrCleanup hcount hpos) (fun _ s₂ hclean ↦ ?_) fun _ _ hf ↦ hf
    rw [wp_bind]
    obtain ⟨y, hy, hymm⟩ := hclean.record
    have hboth := wp_and (wp_gprsSubscrPut hclean.counted hpos (E := fun _ _ ↦ False))
      (wp_gprsSubscrPut_mm hy hclean.counted.nodup (E := fun _ _ ↦ False))
    refine wp_mono hboth (fun _ s₃ hs₃ ↦ ?_) fun _ _ hf ↦ hf.1.elim
    obtain ⟨hput, hkept⟩ := hs₃
    have hcounted : Counted held s₃.records := by
      have := hput.counted
      simpa using this
    have hget : SameFlags s.records (s.modSubscr sid fun x ↦
        { x with useCount := x.useCount + 1 }).records :=
      .modify (fun _ ↦ rfl) (fun _ ↦ rfl) fun _ ↦ rfl
    refine wp_freeCtx_unassign hcounted (hput.cfg.trans hclean.cfg)
      ((hget.trans hclean.flags).trans hput.flags) fun q z hz hmm' ↦ ?_
    -- The context can only point to its own record, and that has no context any more.
    have hq : s₂.records.pointer id = some q := by
      rw [← hcounted.lawful.linked q z id hz hmm']
      exact congrArg (fun ctxs ↦ (ctxs id).bind (·.subscr)) hput.ctxs.symm
    obtain rfl : q = sid := by
      have hone : s.records.pointer id = some sid := hp.trans hsub
      rcases hclean.pointer id with hsame | hnone
      · exact Option.some.inj (hq.symm.trans (hsame.trans hone))
      · exact absurd (hq.symm.trans hnone) (Option.some_ne_none q)
    obtain ⟨z₂, hz₂, hsame⟩ := hkept q z hz
    obtain rfl : y = z₂ := Option.some.inj (hy.symm.trans hz₂)
    exact absurd (hmm'.symm.trans (hsame.trans hymm)) (Option.some_ne_none id)

end OsmoSgsn.Gmm
