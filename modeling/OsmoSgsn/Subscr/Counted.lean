import OsmoSgsn.Subscr.Records

/-!
# Records are counted and linked exactly

`Exact` is the law of subscriber records. Each call is made of a few steps that keep it: a caller
takes a reference or puts one back, a record is made, a record and an MM context that are both
unlinked are linked, a record is unlinked. Three calls can break it. A context may be linked to a
record that another context has, and two calls come back with a reference that nobody puts.
-/

namespace OsmoSgsn.Subscr

variable {s s' : RecState} {r r' : RecPtr} {x x' : Record} {m m' : MmPtr} {c c' : MmCtx}
  {imsi : Imsi}

/-! ## The law -/

namespace RecState

variable (s : RecState)

/-- The record that an MM context points to. -/
def subscrOf (m : MmPtr) : Option RecPtr := (s.mms m).bind (·.subscr)

/-- The number of MM contexts that point to a record. -/
def contexts (r : RecPtr) : ℕ := s.mmList.countP fun m ↦ s.subscrOf m = some r

end RecState

/-- The counts and the links are right. -/
structure Exact (s : RecState) : Prop where
  /-- A record has as many references as there are MM contexts and callers that have it. -/
  counted : ∀ r x, s.recs r = some x → x.useCount = s.contexts r + s.held r
  /-- A record points to an MM context exactly when that points to the record. -/
  linked : ∀ r x m, s.recs r = some x → (x.mm = some m ↔ s.subscrOf m = some r)
  /-- A record that an MM context points to is not freed. -/
  pointed : ∀ m r, s.subscrOf m = some r → (s.recs r).isSome
  /-- A record that a caller has is not freed. -/
  callers : ∀ r, 0 < s.held r → (s.recs r).isSome
  /-- A record that nobody has is freed, unless it is kept in RAM. -/
  needed : ∀ r x, s.recs r = some x → 0 < s.contexts r + s.held r ∨ x.keepInRam = true

/-- What the lists and the allocator see to in any case. -/
structure WellFormed (s : RecState) : Prop where
  nodup : s.mmList.Nodup
  mem : ∀ m, m ∈ s.mmList ↔ (s.mms m).isSome
  fresh : ∀ r, s.nextRec ≤ r → s.recs r = none

section Frame

variable (s : RecState) (r q : RecPtr) (x : Option Record) (m : MmPtr) (c : Option MmCtx) (n : ℕ)

@[simp] theorem setRec_recs : (s.setRec r x).recs = Function.update s.recs r x := rfl

@[simp] theorem setRec_held : (s.setRec r x).held = s.held := rfl

@[simp] theorem setRec_subscrOf : (s.setRec r x).subscrOf m = s.subscrOf m := rfl

@[simp] theorem setRec_contexts : (s.setRec r x).contexts q = s.contexts q := rfl

@[simp] theorem setHeld_recs : (s.setHeld r n).recs = s.recs := rfl

@[simp] theorem setHeld_held : (s.setHeld r n).held = Function.update s.held r n := rfl

@[simp] theorem setHeld_subscrOf : (s.setHeld r n).subscrOf m = s.subscrOf m := rfl

@[simp] theorem setHeld_contexts : (s.setHeld r n).contexts q = s.contexts q := rfl

@[simp] theorem setMm_recs : (s.setMm m c).recs = s.recs := rfl

@[simp] theorem setMm_held : (s.setMm m c).held = s.held := rfl

@[simp] theorem modifyRec_mms (f : Record → Record) : (s.modifyRec r f).mms = s.mms := by
  rw [RecState.modifyRec]
  split <;> rfl

@[simp] theorem modifyRec_held (f : Record → Record) : (s.modifyRec r f).held = s.held := by
  rw [RecState.modifyRec]
  split <;> rfl

@[simp] theorem modifyRec_subscrOf (f : Record → Record) :
    (s.modifyRec r f).subscrOf m = s.subscrOf m := by
  rw [RecState.subscrOf, modifyRec_mms]
  rfl

@[simp] theorem unref_mms : (s.unref r).1.mms = s.mms := by
  rw [RecState.unref]
  split
  · rfl
  · dsimp only
    split <;> rfl

@[simp] theorem put_subscrOf : (s.put r).1.subscrOf m = s.subscrOf m := by
  change ((s.unref r).1.mms m).bind _ = _
  rw [unref_mms]
  rfl

end Frame

/-! ## Counting contexts -/

/-- Two predicates that differ in one element only, which is in the list once. -/
theorem countP_add_of_ne {α : Type*} {l : List α} (hl : l.Nodup) {a : α} (ha : a ∈ l)
    {p q : α → Bool} (h : ∀ b, b ≠ a → p b = q b) :
    l.countP p + (q a).toNat = l.countP q + (p a).toNat := by
  induction l with
  | nil => exact absurd ha List.not_mem_nil
  | cons b l ih =>
    obtain ⟨hb, hl⟩ := List.nodup_cons.mp hl
    rw [List.countP_cons, List.countP_cons]
    by_cases hab : b = a
    · subst hab
      have hrest : l.countP p = l.countP q :=
        List.countP_congr fun y hy ↦ by rw [h y (ne_of_mem_of_not_mem hy hb)]
      rw [hrest]
      cases p b <;> cases q b <;> simp
    · have hmem : a ∈ l := (List.mem_cons.mp ha).resolve_left fun heq ↦ hab heq.symm
      have := ih hl hmem
      rw [h b hab]
      omega

theorem subscrOf_setMm (s : RecState) (m m' : MmPtr) (c : Option MmCtx) :
    (s.setMm m c).subscrOf m' = if m' = m then c.bind (·.subscr) else s.subscrOf m' := by
  by_cases h : m' = m
  · subst h
    simp [RecState.subscrOf, RecState.setMm]
  · simp [RecState.subscrOf, RecState.setMm, h]

/-- What an MM context has to do with the count of a record. -/
theorem contexts_setMm (hw : WellFormed s) (hm : (s.mms m).isSome) (c : Option MmCtx) (r : RecPtr) :
    (s.setMm m c).contexts r + (decide (s.subscrOf m = some r)).toNat =
      s.contexts r + (decide (c.bind (·.subscr) = some r)).toNat := by
  have hcount := countP_add_of_ne hw.nodup ((hw.mem m).mpr hm)
    (p := fun m' ↦ decide ((s.setMm m c).subscrOf m' = some r))
    (q := fun m' ↦ decide (s.subscrOf m' = some r))
    (fun b hb ↦ by simp only [subscrOf_setMm, if_neg hb])
  rw [subscrOf_setMm, if_pos rfl] at hcount
  exact hcount

theorem mem_of_subscrOf (hw : WellFormed s) (h : s.subscrOf m = some r) : m ∈ s.mmList := by
  rw [hw.mem]
  obtain ⟨c, hc, -⟩ := Option.bind_eq_some_iff.mp h
  exact Option.isSome_of_eq_some hc

theorem contexts_eq_zero (h : ∀ m, s.subscrOf m ≠ some r) :
    s.contexts r = 0 :=
  List.countP_eq_zero.mpr fun m _ ↦ by simpa using h m

theorem subscrOf_ne (hw : WellFormed s) (h : s.contexts r = 0) (m : MmPtr) :
    s.subscrOf m ≠ some r := by
  intro hm
  simpa [hm] using List.countP_eq_zero.mp h m (mem_of_subscrOf hw hm)

/-! ## Steps that keep the law -/

/-- The list of the records and the next pointer are no part of the law. -/
theorem Exact.lists (h : Exact s) (l : List RecPtr) (n : RecPtr) :
    Exact { s with recList := l, nextRec := n } :=
  ⟨h.counted, h.linked, h.pointed, h.callers, h.needed⟩

/-- A record is written, and callers get or give back references. -/
theorem Exact.write (h : Exact s) {n : ℕ} (hcount : x'.useCount = s.contexts r + n)
    (hlink : ∀ m, x'.mm = some m ↔ s.subscrOf m = some r)
    (hneed : 0 < s.contexts r + n ∨ x'.keepInRam = true) :
    Exact ((s.setRec r (some x')).setHeld r n) where
  counted q y hy := by
    by_cases hq : q = r
    · subst hq
      obtain rfl : x' = y := by simpa using hy
      simpa using hcount
    · have hold : s.recs q = some y := by simpa [hq] using hy
      simpa [hq] using h.counted q y hold
  linked q y m hy := by
    by_cases hq : q = r
    · subst hq
      obtain rfl : x' = y := by simpa using hy
      exact hlink m
    · exact h.linked q y m (by simpa [hq] using hy)
  pointed m q hq := by
    by_cases hqr : q = r
    · simp [hqr]
    · simpa [hqr] using h.pointed m q hq
  callers q hq := by
    by_cases hqr : q = r
    · simp [hqr]
    · simpa [hqr] using
        h.callers q (by simpa [hqr] using hq)
  needed q y hy := by
    by_cases hq : q = r
    · subst hq
      obtain rfl : x' = y := by simpa using hy
      simpa using hneed
    · have hold : s.recs q = some y := by simpa [hq] using hy
      simpa [hq] using h.needed q y hold

/-- A record that nobody has is freed. -/
theorem Exact.erase (h : Exact s) (hw : WellFormed s) (hr : s.contexts r = 0) :
    Exact ((s.setRec r none).setHeld r 0) where
  counted q y hy := by
    by_cases hq : q = r
    · simp [hq] at hy
    · have hold : s.recs q = some y := by simpa [hq] using hy
      simpa [hq] using h.counted q y hold
  linked q y m hy := by
    by_cases hq : q = r
    · simp [hq] at hy
    · exact h.linked q y m (by simpa [hq] using hy)
  pointed m q hq := by
    have hqr : q ≠ r := fun heq ↦ subscrOf_ne hw hr m (heq ▸ hq)
    simpa [hqr] using h.pointed m q hq
  callers q hq := by
    by_cases hqr : q = r
    · simp [hqr] at hq
    · simpa [hqr] using
        h.callers q (by simpa [hqr] using hq)
  needed q y hy := by
    by_cases hq : q = r
    · simp [hq] at hy
    · have hold : s.recs q = some y := by simpa [hq] using hy
      simpa [hq] using h.needed q y hold

/-- A record and an MM context are written together. -/
theorem Exact.writeBoth (h : Exact s) (hm : s.mms m = some c)
    (hother : ∀ q, q ≠ r → (c'.subscr = some q ↔ c.subscr = some q))
    (hcount : x'.useCount = (s.setMm m (some c')).contexts r + s.held r)
    (hlink : ∀ m', x'.mm = some m' ↔ (s.setMm m (some c')).subscrOf m' = some r)
    (hneed : 0 < (s.setMm m (some c')).contexts r + s.held r ∨ x'.keepInRam = true) :
    Exact ((s.setRec r (some x')).setMm m (some c')) := by
  have hsub : ∀ m' q, q ≠ r →
      ((s.setMm m (some c')).subscrOf m' = some q ↔ s.subscrOf m' = some q) := by
    intro m' q hq
    rw [subscrOf_setMm]
    by_cases hm' : m' = m
    · subst hm'
      simpa [RecState.subscrOf, hm] using hother q hq
    · rw [if_neg hm']
  have hctx : ∀ q, q ≠ r → (s.setMm m (some c')).contexts q = s.contexts q := fun q hq ↦
    List.countP_congr fun m' _ ↦ by simpa using hsub m' q hq
  have hrecs : ∀ q y, q ≠ r → ((s.setRec r (some x')).setMm m (some c')).recs q = some y →
      s.recs q = some y := fun q y hq hy ↦ by
    simpa [hq] using hy
  have hself : ∀ y, ((s.setRec r (some x')).setMm m (some c')).recs r = some y → x' = y :=
    fun y hy ↦ by simpa using hy
  constructor
  · intro q y hy
    by_cases hq : q = r
    · subst hq
      rw [← hself y hy]
      exact hcount
    · exact (h.counted q y (hrecs q y hq hy)).trans (by rw [← hctx q hq]; rfl)
  · intro q y m' hy
    by_cases hq : q = r
    · subst hq
      rw [← hself y hy]
      exact hlink m'
    · exact (h.linked q y m' (hrecs q y hq hy)).trans (hsub m' q hq).symm
  · intro m' q hq
    by_cases hqr : q = r
    · simp [hqr]
    · simpa [hqr] using h.pointed m' q ((hsub m' q hqr).mp hq)
  · intro q hq
    by_cases hqr : q = r
    · simp [hqr]
    · simpa [hqr] using h.callers q hq
  · intro q y hy
    by_cases hq : q = r
    · subst hq
      rw [← hself y hy]
      exact hneed
    · have hold := h.needed q y (hrecs q y hq hy)
      rw [← hctx q hq] at hold
      exact hold

/-- The MM contexts change, and what they point to does not. -/
theorem Exact.of_subscrOf (h : Exact s) (hrecs : s'.recs = s.recs) (hheld : s'.held = s.held)
    (hsub : ∀ m, s'.subscrOf m = s.subscrOf m) (hctx : ∀ r, s'.contexts r = s.contexts r) :
    Exact s' where
  counted r x hx := by
    rw [hctx, hheld]
    exact h.counted r x (hrecs ▸ hx)
  linked r x m hx := by
    rw [hsub]
    exact h.linked r x m (hrecs ▸ hx)
  pointed m r hr := by
    rw [hrecs]
    exact h.pointed m r (hsub m ▸ hr)
  callers r hr := by
    rw [hrecs]
    exact h.callers r (hheld ▸ hr)
  needed r x hx := by
    rw [hctx, hheld]
    exact h.needed r x (hrecs ▸ hx)

/-! ## The lists and the allocator -/

namespace WellFormed

theorem setHeld (h : WellFormed s) (r : RecPtr) (n : ℕ) : WellFormed (s.setHeld r n) :=
  ⟨h.nodup, h.mem, h.fresh⟩

theorem modifyRec (h : WellFormed s) (r : RecPtr) (f : Record → Record) :
    WellFormed (s.modifyRec r f) := by
  rw [RecState.modifyRec]
  split
  · exact h
  · rename_i x hx
    refine ⟨h.nodup, h.mem, fun q hq ↦ ?_⟩
    have hne : q ≠ r := by
      rintro rfl
      exact absurd ((h.fresh q hq).symm.trans hx) nofun
    rw [setRec_recs, Function.update_of_ne hne]
    exact h.fresh q hq

theorem get (h : WellFormed s) (r : RecPtr) : WellFormed (s.get r) :=
  (h.modifyRec r _).setHeld r _

theorem unref (h : WellFormed s) (r : RecPtr) : WellFormed (s.unref r).1 := by
  rw [RecState.unref]
  split
  · exact h
  · rename_i x hx
    have hfresh : ∀ y q, s.nextRec ≤ q → (s.setRec r y).recs q = none := by
      intro y q hq
      have hne : q ≠ r := by
        rintro rfl
        exact absurd ((h.fresh q hq).symm.trans hx) nofun
      rw [setRec_recs, Function.update_of_ne hne]
      exact h.fresh q hq
    dsimp only
    split
    · exact ⟨h.nodup, h.mem, hfresh _⟩
    · exact ⟨h.nodup, h.mem, hfresh _⟩

theorem put (h : WellFormed s) (r : RecPtr) : WellFormed (s.put r).1 :=
  (h.unref r).setHeld r _

theorem alloc (h : WellFormed s) (imsi : Imsi) : WellFormed (s.alloc imsi).1 := by
  refine ⟨h.nodup, h.mem, fun q hq ↦ ?_⟩
  have hlt : s.nextRec < q := hq
  change Function.update s.recs s.nextRec _ q = none
  rw [Function.update_of_ne hlt.ne']
  exact h.fresh q hlt.le

theorem getByImsi (h : WellFormed s) (imsi : Imsi) : WellFormed (s.getByImsi imsi).1 := by
  rw [RecState.getByImsi]
  split
  · exact h.get _
  · exact h

theorem getOrCreate (h : WellFormed s) (imsi : Imsi) : WellFormed (s.getOrCreate imsi).1 := by
  have hget := h.getByImsi imsi
  rw [RecState.getOrCreate]
  split
  · rename_i heq
    rwa [heq] at hget
  · rename_i heq
    rw [heq] at hget
    exact hget.alloc imsi

theorem acquire (h : WellFormed s) (imsi : Imsi) : WellFormed (s.acquire imsi).1 := by
  have hget := h.getByImsi imsi
  rw [RecState.acquire]
  split
  · rename_i heq
    rwa [heq] at hget
  · rename_i heq
    rw [heq] at hget
    exact (hget.getOrCreate imsi).modifyRec _ _

/-- An MM context that is there is written. -/
theorem setMm (h : WellFormed s) (hm : (s.mms m).isSome) (c : MmCtx) :
    WellFormed (s.setMm m (some c)) := by
  refine ⟨h.nodup, fun m' ↦ ?_, h.fresh⟩
  change m' ∈ s.mmList ↔ (Function.update s.mms m (some c) m').isSome
  by_cases hne : m' = m
  · subst hne
    simpa using (h.mem m').mpr hm
  · rw [Function.update_of_ne hne]
    exact h.mem m'

theorem freeMm (h : WellFormed s) (m : MmPtr) : WellFormed (s.freeMm m) := by
  refine ⟨h.nodup.filter _, fun m' ↦ ?_, h.fresh⟩
  change m' ∈ s.mmList.filter (· ≠ m) ↔ (Function.update s.mms m none m').isSome
  rw [List.mem_filter]
  by_cases hne : m' = m
  · simp [hne]
  · simpa [hne] using h.mem m'

end WellFormed

/-! ## References of callers -/

theorem get_of_some (hx : s.recs r = some x) :
    s.get r = (s.setRec r (some { x with useCount := x.useCount + 1 })).setHeld r
      (s.held r + 1) := by
  simp only [RecState.get, RecState.ref, RecState.modifyRec, hx]

theorem modifyRec_of_some (hx : s.recs r = some x) (f : Record → Record) :
    s.modifyRec r f = s.setRec r (some (f x)) := by
  simp only [RecState.modifyRec, hx]

/-- A caller takes a reference. -/
theorem Exact.get (h : Exact s) (hx : (s.recs r).isSome) : Exact (s.get r) := by
  obtain ⟨x, hx⟩ := Option.isSome_iff_exists.mp hx
  rw [get_of_some hx]
  refine h.write ?_ (fun m ↦ h.linked r x m hx) (.inl (by omega))
  have := h.counted r x hx
  push_cast
  omega

/-- A caller makes a record. -/
theorem Exact.alloc (h : Exact s) (hw : WellFormed s) (imsi : Imsi) : Exact (s.alloc imsi).1 := by
  have hnone : s.recs s.nextRec = none := hw.fresh _ le_rfl
  have hsub : ∀ m, s.subscrOf m ≠ some s.nextRec := by
    intro m hm
    simpa [hnone] using h.pointed m _ hm
  have hctx : s.contexts s.nextRec = 0 := contexts_eq_zero hsub
  have hheld : s.held s.nextRec = 0 := by
    by_contra hne
    simpa [hnone] using h.callers _ (Nat.pos_of_ne_zero hne)
  have hlink : ∀ m, none = some m ↔ s.subscrOf m = some s.nextRec := fun m ↦
    ⟨fun hm ↦ absurd hm (Option.some_ne_none m).symm, fun hm ↦ absurd hm (hsub m)⟩
  refine (h.write ?_ hlink (.inl (by omega))).lists _ _
  rw [setRec_held, hctx, hheld]
  rfl

/-- A record is written that stays needed. -/
theorem Exact.modifyRec (h : Exact s) {f : Record → Record}
    (hcount : ∀ x, (f x).useCount = x.useCount) (hmm : ∀ x, (f x).mm = x.mm)
    (hneed : ∀ x, s.recs r = some x → 0 < s.contexts r + s.held r ∨ (f x).keepInRam = true) :
    Exact (s.modifyRec r f) := by
  rw [RecState.modifyRec]
  split
  · exact h
  · rename_i x hx
    have hself : s.setRec r (some (f x)) = (s.setRec r (some (f x))).setHeld r (s.held r) := by
      rw [RecState.setHeld, setRec_held, Function.update_eq_self]
      rfl
    rw [hself]
    refine h.write ?_ (fun m ↦ ?_) (hneed x hx)
    · rw [hcount]
      exact h.counted r x hx
    · rw [hmm]
      exact h.linked r x m hx

/-- A caller puts its reference back. -/
theorem Exact.put (h : Exact s) (hw : WellFormed s) (hr : 0 < s.held r) : Exact (s.put r).1 := by
  obtain ⟨x, hx⟩ := Option.isSome_iff_exists.mp (h.callers r hr)
  have hcount := h.counted r x hx
  by_cases hkeep : 0 < x.useCount - 1 ∨ x.keepInRam = true
  · have hput : (s.put r).1 =
        (s.setRec r (some { x with useCount := x.useCount - 1 })).setHeld r (s.held r - 1) := by
      rw [RecState.put, RecState.unref, hx]
      dsimp only
      rw [if_pos hkeep]
      rfl
    rw [hput]
    refine h.write ?_ (fun m ↦ h.linked r x m hx) ?_
    · dsimp only
      omega
    · rcases hkeep with hpos | hkeep
      · exact .inl (by omega)
      · exact .inr hkeep
  · have hctx : s.contexts r = 0 := by omega
    have hlast : s.held r - 1 = 0 := by omega
    have hput : (s.put r).1 =
        { (s.setRec r none).setHeld r 0 with recList := s.recList.filter (· ≠ r) } := by
      rw [RecState.put, RecState.unref, hx]
      dsimp only
      rw [if_neg hkeep, RecState.forget]
      change RecState.setHeld _ r (s.held r - 1) = _
      rw [hlast]
      rfl
    rw [hput]
    exact (h.erase hw hctx).lists _ _

/-- A reference that a caller does not put back is counted for ever. -/
theorem not_exact_forget (h : Exact s) (hr : 0 < s.held r) : ¬ Exact (s.forget r) := by
  intro hbad
  obtain ⟨x, hx⟩ := Option.isSome_iff_exists.mp (h.callers r hr)
  have hcount := h.counted r x hx
  have hcount' := hbad.counted r x hx
  rw [RecState.forget, setHeld_contexts, setHeld_held, Function.update_self] at hcount'
  omega

end OsmoSgsn.Subscr
