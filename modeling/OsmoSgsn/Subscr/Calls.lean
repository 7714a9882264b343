import OsmoSgsn.Subscr.Counted

/-!
# Which calls keep the law of records

All calls keep the law but three. `gprs_subscr_get_or_create_by_mmctx` breaks it when the record
that it finds has another context: both contexts then point to the record, which points to one of
them. `mmctx_sgsn_data` and `update_subscr_create` break it when they find a record, since they come
back without putting it.
-/

namespace OsmoSgsn.Subscr

open RecState (start)

variable {s s' : RecState} {r r' : RecPtr} {x x' : Record} {m m' : MmPtr} {c c' : MmCtx}
  {imsi : Imsi}

/-! ## Lookups -/

theorem findImsi_eq_some (h : s.findImsi imsi = some r) : ∃ x, s.recs r = some x := by
  rw [RecState.findImsi] at h
  split at h
  · cases h
  · have hany := List.find?_some h
    obtain ⟨x, hx, -⟩ := (Option.any_eq_true _ _).mp hany
    exact ⟨x, hx⟩

theorem getByImsi_of_some (h : s.findImsi imsi = some r) :
    s.getByImsi imsi = (s.get r, some r) := by
  simp only [RecState.getByImsi, h]

theorem getByImsi_of_none (h : s.findImsi imsi = none) : s.getByImsi imsi = (s, none) := by
  simp only [RecState.getByImsi, h]

theorem getOrCreate_of_some (h : s.findImsi imsi = some r) : s.getOrCreate imsi = (s.get r, r) := by
  rw [RecState.getOrCreate, getByImsi_of_some h]

theorem getOrCreate_of_none (h : s.findImsi imsi = none) : s.getOrCreate imsi = s.alloc imsi := by
  rw [RecState.getOrCreate, getByImsi_of_none h]

theorem getByImsi_mms (s : RecState) (imsi : Imsi) : (s.getByImsi imsi).1.mms = s.mms := by
  cases hfind : s.findImsi imsi with
  | none => rw [getByImsi_of_none hfind]
  | some r =>
    rw [getByImsi_of_some hfind]
    exact modifyRec_mms _ _ _

theorem getOrCreate_mms (s : RecState) (imsi : Imsi) : (s.getOrCreate imsi).1.mms = s.mms := by
  cases hfind : s.findImsi imsi with
  | none =>
    rw [getOrCreate_of_none hfind]
    rfl
  | some r =>
    rw [getOrCreate_of_some hfind]
    exact modifyRec_mms _ _ _

theorem acquire_mms (s : RecState) (imsi : Imsi) : (s.acquire imsi).1.mms = s.mms := by
  have hget := getByImsi_mms s imsi
  rw [RecState.acquire]
  split
  · rename_i heq
    rwa [heq] at hget
  · rename_i heq
    rw [heq] at hget
    dsimp only at hget ⊢
    rw [modifyRec_mms, getOrCreate_mms, hget]

theorem Exact.getByImsi (h : Exact s) (imsi : Imsi) : Exact (s.getByImsi imsi).1 := by
  cases hfind : s.findImsi imsi with
  | none =>
    rw [getByImsi_of_none hfind]
    exact h
  | some r =>
    obtain ⟨x, hx⟩ := findImsi_eq_some hfind
    rw [getByImsi_of_some hfind]
    exact h.get (Option.isSome_of_eq_some hx)

theorem Exact.getOrCreate (h : Exact s) (hw : WellFormed s) (imsi : Imsi) :
    Exact (s.getOrCreate imsi).1 := by
  cases hfind : s.findImsi imsi with
  | none =>
    rw [getOrCreate_of_none hfind]
    exact h.alloc hw imsi
  | some r =>
    obtain ⟨x, hx⟩ := findImsi_eq_some hfind
    rw [getOrCreate_of_some hfind]
    exact h.get (Option.isSome_of_eq_some hx)

/-- What `acquire` gives to its caller. -/
structure Acquired (s : RecState) (imsi : Imsi) (s' : RecState) (r : RecPtr) (x : Record) :
    Prop where
  exact : Exact s'
  record : s'.recs r = some x
  /-- The record has the context of the one that was found. -/
  mm : x.mm = (s.findImsi imsi).bind fun q ↦ (s.recs q).bind (·.mm)

theorem Exact.acquire (h : Exact s) (hw : WellFormed s) (imsi : Imsi) :
    ∃ x, Acquired s imsi (s.acquire imsi).1 (s.acquire imsi).2 x := by
  cases hfind : s.findImsi imsi with
  | none =>
    have hacquire : s.acquire imsi = ((s.alloc imsi).1.modifyRec s.nextRec fun x ↦
        { x with firstContact := true, enablePurge := false }, s.nextRec) := by
      rw [RecState.acquire, getByImsi_of_none hfind]
      dsimp only
      rw [getOrCreate_of_none hfind]
      rfl
    have hrec : (s.alloc imsi).1.recs s.nextRec =
        some ⟨1, copyImsi imsi, false, false, false, false, false, none⟩ := by
      simp [RecState.alloc, RecState.setHeld, RecState.setRec]
    have hheld : 0 < (s.alloc imsi).1.held s.nextRec := by
      simp [RecState.alloc, RecState.setHeld, RecState.setRec]
    rw [hacquire]
    refine ⟨⟨1, copyImsi imsi, false, false, true, false, false, none⟩, ?_, ?_, ?_⟩
    · exact (h.alloc hw imsi).modifyRec (fun _ ↦ rfl) (fun _ ↦ rfl) fun _ _ ↦ .inl (by omega)
    · rw [modifyRec_of_some hrec]
      simp
    · rw [hfind]
      rfl
  | some r =>
    obtain ⟨x, hx⟩ := findImsi_eq_some hfind
    have hacquire : s.acquire imsi = (s.get r, r) := by
      rw [RecState.acquire, getByImsi_of_some hfind]
    rw [hacquire]
    refine ⟨{ x with useCount := x.useCount + 1 }, ?_, ?_, ?_⟩
    · exact h.get (Option.isSome_of_eq_some hx)
    · rw [get_of_some hx]
      simp
    · simp [hfind, hx]

/-! ## Linking -/

theorem link_of_some (hx : s.recs r = some x) :
    s.link m c r = (s.setRec r (some { x with
      useCount := x.useCount + 1, imsi := if c.imsi = [] then x.imsi else copyImsi c.imsi,
      mm := some m })).setMm m (some { c with subscr := some r }) := by
  have hself : ∀ y, (s.setRec r (some y)).recs r = some y := fun y ↦ by simp
  rw [RecState.link, modifyRec_of_some hx, RecState.ref, modifyRec_of_some (hself _)]
  simp only [RecState.setRec, Function.update_idem]

theorem subscrOf_eq_none (hm : s.mms m = some c) (hc : c.subscr = none) : s.subscrOf m = none := by
  rw [RecState.subscrOf, hm]
  exact hc

/-- A record and a context that are both unlinked are linked. -/
theorem Exact.link (h : Exact s) (hw : WellFormed s) (hm : s.mms m = some c) (hc : c.subscr = none)
    (hx : s.recs r = some x) (hmm : x.mm = none) : Exact (s.link m c r) := by
  have hsub := subscrOf_eq_none hm hc
  have hctx := contexts_setMm hw (Option.isSome_of_eq_some hm) (some { c with subscr := some r }) r
  have hcount := h.counted r x hx
  rw [hsub] at hctx
  simp only [reduceCtorEq, decide_false, Bool.toNat_false, Option.bind_some, decide_true,
    Bool.toNat_true] at hctx
  rw [link_of_some hx]
  refine h.writeBoth hm (fun q hq ↦ ?_) ?_ (fun m' ↦ ?_) (.inl (by omega))
  · simp [hc, hq.symm]
  · dsimp only
    omega
  · rw [subscrOf_setMm]
    by_cases hm' : m' = m
    · simp [hm']
    · have hne : s.subscrOf m' ≠ some r := by
        rw [Ne, ← h.linked r x m' hx, hmm]
        exact nofun
      simp [hm', hne, Ne.symm hm']

/-- A record that has a context is linked to another one. -/
theorem not_exact_link (h : Exact s) (hm : s.mms m = some c) (hc : c.subscr = none)
    (hx : s.recs r = some x) (hmm : x.mm = some m') : ¬ Exact (s.link m c r) := by
  intro hbad
  have hsub' : s.subscrOf m' = some r := (h.linked r x m' hx).mp hmm
  have hne : m' ≠ m := by
    rintro rfl
    exact absurd (hsub'.symm.trans (subscrOf_eq_none hm hc)) nofun
  rw [link_of_some hx] at hbad
  have hafter := subscrOf_setMm s m m' (some { c with subscr := some r })
  rw [if_neg hne, hsub'] at hafter
  have hback := (hbad.linked r _ m' (Function.update_self r _ s.recs)).mpr hafter
  exact hne (Option.some.inj hback).symm

/-- `gprs_subscr_get_or_create_by_mmctx` does not take a record from another context. -/
def KeepsLink (s : RecState) (c : MmCtx) : Prop :=
  c.subscr.isSome ∨ ∀ r x, s.findImsi c.imsi = some r → s.recs r = some x → x.mm = none

theorem exact_getOrCreateByMmctx (h : Exact s) (hw : WellFormed s) (hm : s.mms m = some c) :
    Exact (s.getOrCreateByMmctx m c).1 ↔ KeepsLink s c := by
  cases hc : c.subscr with
  | some r =>
    have hpointed := h.pointed m r (by rw [RecState.subscrOf, hm]; exact hc)
    simp only [RecState.getOrCreateByMmctx, hc, KeepsLink, Option.isSome_some, true_or, iff_true]
    exact h.get hpointed
  | none =>
    obtain ⟨x, hacq⟩ := h.acquire hw c.imsi
    have hm' : (s.acquire c.imsi).1.mms m = some c := by rw [acquire_mms, hm]
    simp only [RecState.getOrCreateByMmctx, hc, KeepsLink, Option.isSome_none, Bool.false_eq_true,
      false_or]
    cases hmm : x.mm with
    | none =>
      refine ⟨fun _ r y hfind hy ↦ ?_, fun _ ↦
        hacq.exact.link (hw.acquire c.imsi) hm' hc hacq.record hmm⟩
      simpa [hfind, hy, hmm] using hacq.mm.symm
    | some m₀ =>
      refine ⟨fun hgood ↦ absurd hgood (not_exact_link hacq.exact hm' hc hacq.record hmm),
        fun hall ↦ ?_⟩
      have hmm' := hacq.mm.symm.trans hmm
      obtain ⟨r, hfind, hbind⟩ := Option.bind_eq_some_iff.mp hmm'
      obtain ⟨y, hy, hy'⟩ := Option.bind_eq_some_iff.mp hbind
      simp [hall r y hfind hy] at hy'

theorem WellFormed.link (hw : WellFormed s) (hm : (s.mms m).isSome) (c : MmCtx) (r : RecPtr) :
    WellFormed (s.link m c r) := by
  refine ((hw.modifyRec r _).modifyRec r _).setMm ?_ _
  rw [modifyRec_mms, modifyRec_mms]
  exact hm

theorem WellFormed.getOrCreateByMmctx (hw : WellFormed s) (hm : (s.mms m).isSome) (c : MmCtx) :
    WellFormed (s.getOrCreateByMmctx m c).1 := by
  rw [RecState.getOrCreateByMmctx]
  split
  · exact hw.get _
  · refine (hw.acquire c.imsi).link ?_ _ _
    rw [acquire_mms]
    exact hm

/-! ## Records that are looked up and not put -/

theorem held_get (s : RecState) (r : RecPtr) : 0 < (s.get r).held r := by
  simp [RecState.get]

theorem not_exact_getByImsi_forget (h : Exact s) (hfind : s.findImsi imsi = some r) :
    ¬ Exact ((s.get r).forget r) := by
  obtain ⟨x, hx⟩ := findImsi_eq_some hfind
  exact not_exact_forget (h.get (Option.isSome_of_eq_some hx)) (held_get s r)

theorem exact_sgsnData (h : Exact s) (c : MmCtx) :
    Exact (s.sgsnData c) ↔ c.subscr.isSome ∨ s.findImsi c.imsi = none := by
  cases hc : c.subscr with
  | some r =>
    have hsame : s.sgsnData c = s := by rw [RecState.sgsnData, hc]
    simpa [hsame] using h
  | none =>
    cases hfind : s.findImsi c.imsi with
    | none =>
      have hsame : s.sgsnData c = s := by rw [RecState.sgsnData, hc]; simp [getByImsi_of_none hfind]
      simpa [hsame] using h
    | some r =>
      have hforget : s.sgsnData c = (s.get r).forget r := by
        rw [RecState.sgsnData, hc]
        simp only [getByImsi_of_some hfind]
      simpa [hforget] using not_exact_getByImsi_forget h hfind

/-- The operator makes a record for a new IMSI. -/
theorem Exact.vtyCreate (h : Exact s) (hw : WellFormed s) (hfind : s.findImsi imsi = none) :
    Exact (s.vtyCreate imsi).1 := by
  have hcreate : s.vtyCreate imsi = ((s.alloc imsi).1.modifyRec s.nextRec fun x ↦
      { x with keepInRam := true }).put s.nextRec := by
    rw [RecState.vtyCreate, getByImsi_of_none hfind]
    dsimp only
    rw [getOrCreate_of_none hfind]
    rfl
  have hheld : 0 < (s.alloc imsi).1.held s.nextRec := by
    simp [RecState.alloc, RecState.setHeld, RecState.setRec]
  have hrec : (s.alloc imsi).1.recs s.nextRec =
      some ⟨1, copyImsi imsi, false, false, false, false, false, none⟩ := by
    simp [RecState.alloc, RecState.setHeld, RecState.setRec]
  rw [hcreate]
  refine Exact.put ((h.alloc hw imsi).modifyRec (fun _ ↦ rfl) (fun _ ↦ rfl) fun _ _ ↦ .inr rfl)
    ((hw.alloc imsi).modifyRec _ _) ?_
  rw [modifyRec_of_some hrec]
  exact hheld

theorem exact_vtyCreate (h : Exact s) (hw : WellFormed s) (imsi : Imsi) :
    Exact (s.vtyCreate imsi).1 ↔ s.findImsi imsi = none := by
  cases hfind : s.findImsi imsi with
  | none => exact iff_of_true (h.vtyCreate hw hfind) rfl
  | some r =>
    have hforget : (s.vtyCreate imsi).1 = (s.get r).forget r := by
      simp only [RecState.vtyCreate, getByImsi_of_some hfind]
    simpa [hforget] using not_exact_getByImsi_forget h hfind

theorem WellFormed.sgsnData (hw : WellFormed s) (c : MmCtx) : WellFormed (s.sgsnData c) := by
  have hget := hw.getByImsi c.imsi
  rw [RecState.sgsnData]
  split
  · exact hw
  · split
    · rename_i heq
      rw [heq] at hget
      exact hget.setHeld _ _
    · rename_i heq
      rwa [heq] at hget

theorem WellFormed.vtyCreate (hw : WellFormed s) (imsi : Imsi) :
    WellFormed (s.vtyCreate imsi).1 := by
  have hget := hw.getByImsi imsi
  rw [RecState.vtyCreate]
  split
  · rename_i heq
    rw [heq] at hget
    exact hget.setHeld _ _
  · rename_i heq
    rw [heq] at hget
    exact ((hget.getOrCreate imsi).modifyRec _ _).put _

/-! ## The end of records and contexts -/

/-- A caller that has a record takes its context away. -/
theorem detach_of_linked (h : Exact s) (hw : WellFormed s) (hr : 0 < s.held r)
    (hx : s.recs r = some x) (hmm : x.mm = some m) :
    ∃ c, s.mms m = some c ∧ c.subscr = some r ∧
      s.detach r x = ((s.setRec r (some { x with useCount := x.useCount - 1, mm := none })).setMm m
        (some { c with subscr := none }), []) := by
  have hsub : s.subscrOf m = some r := (h.linked r x m hx).mp hmm
  obtain ⟨c, hc, hptr⟩ := Option.bind_eq_some_iff.mp hsub
  have hpos : 0 < s.contexts r :=
    Nat.pos_of_ne_zero fun hzero ↦ subscrOf_ne hw hzero m hsub
  have hcount := h.counted r x hx
  have hkeep : 0 < x.useCount - 1 ∨ x.keepInRam = true := .inl (by omega)
  have hunref : s.unref r = (s.setRec r (some { x with useCount := x.useCount - 1 }), []) := by
    rw [RecState.unref, hx]
    exact if_pos hkeep
  have hself : ∀ y, ((s.setRec r (some y)).setMm m (some { c with subscr := none })).recs r =
      some y := fun y ↦ Function.update_self r _ s.recs
  refine ⟨c, hc, hptr, ?_⟩
  simp only [RecState.detach, hmm, hc, hptr, hunref, modifyRec_of_some (hself _)]
  simp only [RecState.setRec, RecState.setMm, Function.update_idem]

/-- The state after the first part of `gprs_subscr_cleanup`. -/
structure Detached (s : RecState) (r : RecPtr) (x : Record) (s' : RecState) : Prop where
  exact : Exact s'
  wellFormed : WellFormed s'
  held : s'.held = s.held
  subscrOf : ∀ m, s'.subscrOf m = if x.mm = some m then none else s.subscrOf m

theorem Exact.detach (h : Exact s) (hw : WellFormed s) (hr : 0 < s.held r)
    (hx : s.recs r = some x) : Detached s r x (s.detach r x).1 := by
  cases hmm : x.mm with
  | none =>
    have hsame : s.detach r x = (s, []) := by rw [RecState.detach, hmm]
    rw [hsame]
    exact ⟨h, hw, rfl, fun m ↦ by simp [hmm]⟩
  | some m =>
    obtain ⟨c, hc, hptr, hdetach⟩ := detach_of_linked h hw hr hx hmm
    have hsub : s.subscrOf m = some r := (h.linked r x m hx).mp hmm
    have hctx := contexts_setMm hw (Option.isSome_of_eq_some hc) (some { c with subscr := none }) r
    have hcount := h.counted r x hx
    rw [hsub] at hctx
    simp only [reduceCtorEq, decide_false, Bool.toNat_false, Option.bind_some, decide_true,
      Bool.toNat_true] at hctx
    rw [hdetach]
    refine ⟨h.writeBoth hc (fun q hq ↦ ?_) ?_ (fun m' ↦ ?_) (.inl (by omega)), ?_, rfl, fun m' ↦ ?_⟩
    · simp [hptr, hq.symm]
    · dsimp only
      omega
    · -- No other context points to the record.
      rw [subscrOf_setMm]
      by_cases hm' : m' = m
      · simp [hm']
      · have hne : s.subscrOf m' ≠ some r := by
          rw [Ne, ← h.linked r x m' hx, hmm]
          simpa using Ne.symm hm'
        simp [hm', hne]
    · have hself := (hw.modifyRec r fun y ↦ { y with useCount := x.useCount - 1, mm := none }).setMm
        (m := m) (by rw [modifyRec_mms, hc]; rfl) { c with subscr := none }
      rw [modifyRec_of_some hx] at hself
      exact hself
    · rw [subscrOf_setMm, hmm]
      by_cases hm' : m' = m
      · simp [hm']
      · simp [hm', Ne.symm hm']

theorem WellFormed.detach (hw : WellFormed s) (r : RecPtr) (x : Record) :
    WellFormed (s.detach r x).1 := by
  rw [RecState.detach]
  split
  · exact hw
  · split
    · exact hw
    · rename_i hc
      split
      · exact hw
      · refine ((hw.unref _).setMm ?_ _).modifyRec _ _
        rw [unref_mms, hc]
        rfl

theorem WellFormed.cleanup (hw : WellFormed s) (r : RecPtr) : WellFormed (s.cleanup r).1 := by
  rw [RecState.cleanup]
  split
  · exact hw
  · rename_i x hx
    dsimp only
    split
    · exact (hw.detach r x).modifyRec _ _
    · exact hw.detach r x

theorem Exact.cleanup (h : Exact s) (hw : WellFormed s) (hr : 0 < s.held r) :
    Exact (s.cleanup r).1 := by
  obtain ⟨x, hx⟩ := Option.isSome_iff_exists.mp (h.callers r hr)
  have hdet := h.detach hw hr hx
  rw [RecState.cleanup, hx]
  dsimp only
  split
  · refine hdet.exact.modifyRec (fun _ ↦ rfl) (fun _ ↦ rfl) fun _ _ ↦ .inl ?_
    rw [hdet.held]
    omega
  · exact hdet.exact

theorem cleanup_held (h : Exact s) (hw : WellFormed s) (hr : 0 < s.held r) :
    (s.cleanup r).1.held = s.held := by
  obtain ⟨x, hx⟩ := Option.isSome_iff_exists.mp (h.callers r hr)
  have hdet := h.detach hw hr hx
  rw [RecState.cleanup, hx]
  dsimp only
  split
  · rw [modifyRec_held, hdet.held]
  · exact hdet.held

/-- The context of a record has no record after the cleanup. -/
theorem cleanup_subscrOf (h : Exact s) (hw : WellFormed s) (hr : 0 < s.held r)
    (hsub : s.subscrOf m = some r) : (s.cleanup r).1.subscrOf m = none := by
  obtain ⟨x, hx⟩ := Option.isSome_iff_exists.mp (h.callers r hr)
  have hdet := (h.detach hw hr hx).subscrOf m
  rw [if_pos ((h.linked r x m hx).mpr hsub)] at hdet
  rw [RecState.cleanup, hx]
  dsimp only
  split
  · rw [modifyRec_subscrOf, hdet]
  · exact hdet

theorem subscrOf_freeMm (s : RecState) (m m' : MmPtr) :
    (s.freeMm m).subscrOf m' = if m' = m then none else s.subscrOf m' :=
  subscrOf_setMm s m m' none

/-- A context that has no record goes away. -/
theorem Exact.freeMm (h : Exact s) (hm : s.subscrOf m = none) : Exact (s.freeMm m) := by
  have hsub : ∀ m', (s.freeMm m).subscrOf m' = s.subscrOf m' := by
    intro m'
    rw [subscrOf_freeMm]
    by_cases hm' : m' = m
    · rw [if_pos hm', hm', hm]
    · rw [if_neg hm']
  refine h.of_subscrOf rfl rfl hsub fun r ↦ ?_
  change (s.mmList.filter (· ≠ m)).countP (fun m' ↦ (s.freeMm m).subscrOf m' = some r) = _
  rw [List.countP_filter]
  refine List.countP_congr fun m' _ ↦ ?_
  rw [hsub]
  by_cases hm' : m' = m
  · simp [hm', hm]
  · simp [hm']

theorem Exact.mmFree (h : Exact s) (hw : WellFormed s) (hm : s.mms m = some c) :
    Exact (s.mmFree m c).1 := by
  rw [RecState.mmFree]
  split
  · rename_i hc
    exact h.freeMm (subscrOf_eq_none hm hc)
  · rename_i r hc
    have hsub : s.subscrOf m = some r := by
      rw [RecState.subscrOf, hm]
      exact hc
    have hget := h.get (h.pointed m r hsub)
    have hr := held_get s r
    have hsub' : (s.get r).subscrOf m = some r := (modifyRec_subscrOf s r m _).trans hsub
    have hclean := hget.cleanup (hw.get r) hr
    have hheld : 0 < ((s.get r).cleanup r).1.held r := by
      rw [cleanup_held hget (hw.get r) hr]
      exact hr
    refine (hclean.put ((hw.get r).cleanup r) hheld).freeMm ?_
    rw [put_subscrOf]
    exact cleanup_subscrOf hget (hw.get r) hr hsub'

theorem WellFormed.mmFree (hw : WellFormed s) (m : MmPtr) (c : MmCtx) :
    WellFormed (s.mmFree m c).1 := by
  rw [RecState.mmFree]
  split
  · exact hw.freeMm m
  · exact (((hw.get _).cleanup _).put _).freeMm m

/-! ## Runs -/

/-- A call keeps the law. -/
def RecEvent.Keeps (s : RecState) : RecEvent → Prop
  | .getOrCreateByMmctx m => ∀ c, s.mms m = some c → KeepsLink s c
  | .sgsnData m => ∀ c, s.mms m = some c → c.subscr.isSome ∨ s.findImsi c.imsi = none
  | .vtyCreate imsi => s.findImsi imsi = none
  | _ => True

theorem Exact.start : Exact start where
  counted _ _ hx := nomatch hx
  linked _ _ _ hx := nomatch hx
  pointed _ _ hr := nomatch hr
  callers _ hr := absurd hr (lt_irrefl 0)
  needed _ _ hx := nomatch hx

theorem WellFormed.start : WellFormed start :=
  ⟨List.nodup_nil, fun _ ↦ by simp [RecState.start], fun _ _ ↦ rfl⟩

theorem WellFormed.mmAlloc (hw : WellFormed s) (hm : s.mms m = none) (c : MmCtx) :
    WellFormed { s.setMm m (some c) with mmList := m :: s.mmList } := by
  have hnot : m ∉ s.mmList := by simp [hw.mem, hm]
  refine ⟨List.nodup_cons.mpr ⟨hnot, hw.nodup⟩, fun m' ↦ ?_, hw.fresh⟩
  change m' ∈ m :: s.mmList ↔ (Function.update s.mms m (some c) m').isSome
  by_cases hm' : m' = m
  · simp [hm']
  · simpa [hm'] using hw.mem m'

theorem Exact.mmAlloc (h : Exact s) (hm : s.mms m = none) :
    Exact { s.setMm m (some ⟨[], none⟩) with mmList := m :: s.mmList } := by
  have hnone : s.subscrOf m = none := by simp [RecState.subscrOf, hm]
  have hsub : ∀ m', (s.setMm m (some ⟨[], none⟩)).subscrOf m' = s.subscrOf m' := by
    intro m'
    rw [subscrOf_setMm]
    by_cases hm' : m' = m
    · rw [if_pos hm', hm', hnone]
      rfl
    · rw [if_neg hm']
  refine h.of_subscrOf rfl rfl hsub fun r ↦ ?_
  change (m :: s.mmList).countP (fun m' ↦ (s.setMm m (some ⟨[], none⟩)).subscrOf m' = some r) = _
  simp only [hsub]
  exact List.countP_cons_of_neg (by simp [hnone])

theorem Exact.mmIdentify (h : Exact s) (hm : s.mms m = some c) (imsi : Imsi) :
    Exact (s.setMm m (some { c with imsi := imsi })) := by
  have hsub : ∀ m', (s.setMm m (some { c with imsi := imsi })).subscrOf m' = s.subscrOf m' := by
    intro m'
    rw [subscrOf_setMm]
    by_cases hm' : m' = m
    · rw [if_pos hm', hm', RecState.subscrOf, hm]
      rfl
    · rw [if_neg hm']
  refine h.of_subscrOf rfl rfl hsub fun r ↦ ?_
  change s.mmList.countP (fun m' ↦ (s.setMm m _).subscrOf m' = some r) = _
  simp only [hsub]
  rfl

theorem WellFormed.step (hw : WellFormed s) (e : RecEvent) : WellFormed (s.step e).1 := by
  have hheld : ∀ r (k : RecState × List RecOut), WellFormed k.1 →
      WellFormed (s.whenHeld r k).1 := by
    intro r k hk
    rw [RecState.whenHeld]
    split
    · exact hk
    · exact hw
  have hmm : ∀ m (k : MmCtx → RecState × List RecOut),
      (∀ c, s.mms m = some c → WellFormed (k c).1) → WellFormed (s.whenMm m k).1 := by
    intro m k hk
    rw [RecState.whenMm]
    split
    · exact hw
    · rename_i c hc
      exact hk c hc
  cases e with
  | mmAlloc m =>
    rw [RecState.step]
    split
    · rename_i hm
      exact hw.mmAlloc hm _
    · exact hw
  | mmIdentify m imsi => exact hmm m _ fun c hc ↦ hw.setMm (Option.isSome_of_eq_some hc) _
  | mmFree m => exact hmm m _ fun c _ ↦ hw.mmFree m c
  | get r =>
    rw [RecState.step]
    split
    · exact hw.get r
    · exact hw
  | getByImsi imsi => exact hw.getByImsi imsi
  | getOrCreate imsi => exact hw.getOrCreate imsi
  | getOrCreateByMmctx m =>
    exact hmm m _ fun c hc ↦ hw.getOrCreateByMmctx (Option.isSome_of_eq_some hc) c
  | put r => exact hheld r _ (hw.put r)
  | cleanup r => exact hheld r _ (hw.cleanup r)
  | cancel r => exact hheld r _ (hw.modifyRec r _)
  | insertData r => exact hheld r _ (hw.modifyRec r _)
  | update r => exact hheld r _ (hw.modifyRec r _)
  | destroy r => exact hheld r _ (hw.modifyRec r _)
  | sgsnData m => exact hmm m _ fun c _ ↦ hw.sgsnData c
  | vtyCreate imsi => exact hw.vtyCreate imsi

/-- **One call.** It keeps the law exactly when it meets its condition. -/
theorem exact_step (hw : WellFormed s) (h : Exact s) (e : RecEvent) :
    Exact (s.step e).1 ↔ e.Keeps s := by
  have hheld : ∀ r (k : RecState × List RecOut), (0 < s.held r → Exact k.1) →
      Exact (s.whenHeld r k).1 := by
    intro r k hk
    rw [RecState.whenHeld]
    split
    · rename_i hr
      exact hk hr
    · exact h
  have hmarks : ∀ r (f : Record → Record), (∀ x, (f x).useCount = x.useCount) →
      (∀ x, (f x).mm = x.mm) → Exact (s.whenHeld r (s.modifyRec r f, [])).1 :=
    fun r f hcount hmm ↦ hheld r _ fun hr ↦ h.modifyRec hcount hmm fun _ _ ↦ .inl (by omega)
  have hmm : ∀ m (k : MmCtx → RecState × List RecOut) (P : MmCtx → Prop),
      (∀ c, s.mms m = some c → (Exact (k c).1 ↔ P c)) →
      (Exact (s.whenMm m k).1 ↔ ∀ c, s.mms m = some c → P c) := by
    intro m k P hk
    rw [RecState.whenMm]
    split
    · rename_i hm
      exact iff_of_true h fun c hc ↦ nomatch hm.symm.trans hc
    · rename_i c hm
      rw [hk c hm]
      exact ⟨fun hP c' hc' ↦ Option.some.inj (hm.symm.trans hc') ▸ hP, fun hall ↦ hall c hm⟩
  cases e with
  | mmAlloc m =>
    refine iff_of_true ?_ trivial
    rw [RecState.step]
    split
    · rename_i hm
      exact h.mmAlloc hm
    · exact h
  | mmIdentify m imsi =>
    refine (hmm m _ (fun _ ↦ True) fun c hc ↦ iff_of_true (h.mmIdentify hc _) trivial).trans ?_
    exact iff_of_true (fun _ _ ↦ trivial) trivial
  | mmFree m =>
    refine (hmm m _ (fun _ ↦ True) fun c hc ↦ iff_of_true (h.mmFree hw hc) trivial).trans ?_
    exact iff_of_true (fun _ _ ↦ trivial) trivial
  | get r =>
    refine iff_of_true ?_ trivial
    rw [RecState.step]
    split
    · rename_i hr
      exact h.get hr
    · exact h
  | getByImsi imsi => exact iff_of_true (h.getByImsi imsi) trivial
  | getOrCreate imsi => exact iff_of_true (h.getOrCreate hw imsi) trivial
  | getOrCreateByMmctx m => exact hmm m _ _ fun c hc ↦ exact_getOrCreateByMmctx h hw hc
  | put r => exact iff_of_true (hheld r _ fun hr ↦ h.put hw hr) trivial
  | cleanup r => exact iff_of_true (hheld r _ fun hr ↦ h.cleanup hw hr) trivial
  | cancel r => exact iff_of_true (hmarks r _ (fun _ ↦ rfl) fun _ ↦ rfl) trivial
  | insertData r => exact iff_of_true (hmarks r _ (fun _ ↦ rfl) fun _ ↦ rfl) trivial
  | update r => exact iff_of_true (hmarks r _ (fun _ ↦ rfl) fun _ ↦ rfl) trivial
  | destroy r => exact iff_of_true (hmarks r _ (fun _ ↦ rfl) fun _ ↦ rfl) trivial
  | sgsnData m => exact hmm m _ _ fun c _ ↦ exact_sgsnData h c
  | vtyCreate imsi => exact exact_vtyCreate h hw imsi

/-- **Counts and links.** In all states of a run records are counted and linked exactly, if and only
if no call of it takes a record from another context, and none finds a record that it does not
put. -/
theorem exact_run (es : List RecEvent) :
    (∀ n, Exact (recMachine.run start (es.take n))) ↔
      recMachine.Meets (fun s e ↦ e.Keeps s) start es :=
  recMachine.forall_take_iff (fun s e ↦ e.Keeps s) WellFormed (fun _ e hw ↦ hw.step e)
    (fun _ e hw h ↦ exact_step hw h e) WellFormed.start Exact.start

/-- The operator makes a record for an IMSI. A mobile station with this IMSI, whose MM context needs
none, activates a PDP context. Nobody has the record, and it is counted. -/
theorem vtyCreated_not_exact : ¬ Exact (recMachine.run start
    [.vtyCreate ['0', '0', '1'], .mmAlloc 0, .mmIdentify 0 ['0', '0', '1'], .sgsnData 0]) := by
  intro h
  have hcount := h.counted 0 ⟨1, ['0', '0', '1'], false, true, false, false, false, none⟩
    (by decide +kernel)
  exact absurd hcount (by decide +kernel)

end OsmoSgsn.Subscr
