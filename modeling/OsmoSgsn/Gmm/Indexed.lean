import OsmoSgsn.Gmm.Registry

/-!
# The list and the hash tables

The contexts that there are, the list of contexts and the five hash tables agree: the list has every
context once, and a table has every context under the key that it has now. About a dozen places of
the code write a key; each of them is a rule that rehashes.

So a lookup through a table finds what a walk over the list would find.
-/

namespace OsmoSgsn.Gmm

/-! ## Keys -/

/-- The key of a context in a table. -/
def keyOf {Key : Type} (entry : CtxId → Option Entry) (f : Entry → Option Key) (id : CtxId) :
    Option Key :=
  (entry id).bind f

section Keys

variable {Key : Type} {entry : CtxId → Option Entry} {f : Entry → Option Key} {id : CtxId}
  {e e' : Entry} {t : HashTable Key CtxId}

theorem keyOf_update (o : Option Entry) :
    keyOf (Function.update entry id o) f = Function.update (keyOf entry f) id (o.bind f) := by
  funext j
  by_cases hj : j = id
  · subst hj
    simp [keyOf]
  · simp [keyOf, hj]

/-- A write that keeps the key of a context. -/
theorem agrees_set (h : t.Agrees (keyOf entry f)) (he : entry id = some e) (hf : f e' = f e) :
    t.Agrees (keyOf (Function.update entry id (some e')) f) := by
  rw [keyOf_update]
  refine h.congr fun j ↦ ?_
  by_cases hj : j = id
  · subst hj
    simp [keyOf, he, hf]
  · rw [Function.update_of_ne hj]

/-- A write that is followed by a rehash. -/
theorem agrees_rehash (h : t.Agrees (keyOf entry f)) (id : CtxId) {k : Option Key}
    (hk : f e' = k) : (t.rehash id k).Agrees (keyOf (Function.update entry id (some e')) f) := by
  subst hk
  rw [keyOf_update]
  exact h.rehash id (f e')

/-- A context that is freed. -/
theorem agrees_free (h : t.Agrees (keyOf entry f)) (id : CtxId) :
    (t.del id).Agrees (keyOf (Function.update entry id none) f) := by
  rw [keyOf_update]
  exact h.del id

/-- A new context has no key yet. -/
theorem agrees_alloc (h : t.Agrees (keyOf entry f)) (he : entry id = none) (hf : f e' = none) :
    t.Agrees (keyOf (Function.update entry id (some e')) f) := by
  rw [keyOf_update]
  refine h.congr fun j ↦ ?_
  by_cases hj : j = id
  · subst hj
    simp [keyOf, he, hf]
  · rw [Function.update_of_ne hj]

end Keys

/-! ## The invariant -/

/-- The hash tables agree with the contexts that there are. -/
structure Agreed (entry : CtxId → Option Entry) (t : MmTables) : Prop where
  imsi : t.byImsi.Agrees (keyOf entry fun e ↦ imsiKey e.imsi)
  ptmsi : t.byPtmsi.Agrees (keyOf entry fun e ↦ ptmsiKey e.pTmsi)
  ptmsiOld : t.byPtmsiOld.Agrees (keyOf entry fun e ↦ ptmsiOldKey e.pTmsiOld)
  tlli : t.byTlli.Agrees (keyOf entry fun e ↦ tlliKey e.tlli)
  tlliNew : t.byTlliNew.Agrees (keyOf entry fun e ↦ tlliKey e.tlliNew)

/-- The list of contexts has every context that there is once, and a pointer is given out once. -/
structure Listed (entry : CtxId → Option Entry) (mmList : List CtxId) (nextCtx : CtxId) : Prop where
  mem_iff : ∀ id, id ∈ mmList ↔ entry id ≠ none
  nodup : mmList.Nodup
  lt_next : ∀ id, entry id ≠ none → id < nextCtx

/-- The list of contexts and the hash tables are as they should be. -/
structure Indexed (r : Registry) : Prop where
  agreed : Agreed r.entry r.tables
  listed : Listed r.entry r.mmList r.nextCtx

variable {entry : CtxId → Option Entry} {t : MmTables} {mmList : List CtxId} {nextCtx : CtxId}
  {id : CtxId} {e e' : Entry} {r r' : Registry} {p : Promises}

/-- Two entries have the same keys. -/
structure Entry.SameKeys (e' e : Entry) : Prop where
  imsi : e'.imsi = e.imsi
  pTmsi : e'.pTmsi = e.pTmsi
  pTmsiOld : e'.pTmsiOld = e.pTmsiOld
  tlli : e'.tlli = e.tlli
  tlliNew : e'.tlliNew = e.tlliNew

theorem Agreed.set (h : Agreed entry t) (he : entry id = some e) (hk : e'.SameKeys e) :
    Agreed (Function.update entry id (some e')) t where
  imsi := agrees_set h.imsi he (by rw [hk.imsi])
  ptmsi := agrees_set h.ptmsi he (by rw [hk.pTmsi])
  ptmsiOld := agrees_set h.ptmsiOld he (by rw [hk.pTmsiOld])
  tlli := agrees_set h.tlli he (by rw [hk.tlli])
  tlliNew := agrees_set h.tlliNew he (by rw [hk.tlliNew])

theorem Agreed.setImsi (h : Agreed entry t) (he : entry id = some e) (imsi : Digits) :
    Agreed (Function.update entry id (some { e with imsi := imsi })) (t.rehashImsi id imsi) where
  imsi := agrees_rehash h.imsi id rfl
  ptmsi := agrees_set h.ptmsi he rfl
  ptmsiOld := agrees_set h.ptmsiOld he rfl
  tlli := agrees_set h.tlli he rfl
  tlliNew := agrees_set h.tlliNew he rfl

theorem Agreed.setPtmsi (h : Agreed entry t) (he : entry id = some e) (pTmsi pTmsiOld : BitVec 32)
    (history : List (BitVec 32)) :
    Agreed (Function.update entry id (some { e with
      pTmsi := pTmsi, pTmsiOld := pTmsiOld, ptmsiHistory := history }))
      (t.rehashPtmsi id pTmsi pTmsiOld) where
  imsi := agrees_set h.imsi he rfl
  ptmsi := agrees_rehash h.ptmsi id rfl
  ptmsiOld := agrees_rehash h.ptmsiOld id rfl
  tlli := agrees_set h.tlli he rfl
  tlliNew := agrees_set h.tlliNew he rfl

theorem Agreed.setTlli (h : Agreed entry t) (he : entry id = some e) (tlli tlliNew : BitVec 32) :
    Agreed (Function.update entry id (some { e with tlli := tlli, tlliNew := tlliNew }))
      (t.rehashTlli id tlli tlliNew) where
  imsi := agrees_set h.imsi he rfl
  ptmsi := agrees_set h.ptmsi he rfl
  ptmsiOld := agrees_set h.ptmsiOld he rfl
  tlli := agrees_rehash h.tlli id rfl
  tlliNew := agrees_rehash h.tlliNew id rfl

theorem Listed.set (h : Listed entry mmList nextCtx) (he : entry id = some e) (e' : Entry) :
    Listed (Function.update entry id (some e')) mmList nextCtx := by
  have hsame : ∀ j, Function.update entry id (some e') j ≠ none ↔ entry j ≠ none := by
    intro j
    by_cases hj : j = id
    · subst hj
      simp [he]
    · rw [Function.update_of_ne hj]
  exact ⟨fun j ↦ (h.mem_iff j).trans (hsame j).symm, h.nodup,
    fun j hj ↦ h.lt_next j ((hsame j).mp hj)⟩

theorem Indexed.set (h : Indexed r) (he : r.entry id = some e) (hk : e'.SameKeys e) :
    Indexed (r.set id e') :=
  ⟨h.agreed.set he hk, h.listed.set he e'⟩

/-- What is not in the index does not matter to it. -/
theorem Indexed.congr (h : Indexed r) (he : r'.entry = r.entry) (hl : r'.mmList = r.mmList)
    (hn : r'.nextCtx = r.nextCtx) (ht : r'.tables = r.tables) : Indexed r' := by
  refine ⟨?_, ?_⟩
  · rw [he, ht]
    exact h.agreed
  · rw [he, hl, hn]
    exact h.listed

namespace Registry

/-- What a context loses with its connection. -/
theorem dropUe_eq (r : Registry) (id : CtxId) :
    (r.entry id = none ∧ r.dropUe id = r) ∨
      ∃ e, r.entry id = some e ∧ r.dropUe id = r.set id { e with ueCtx := none } := by
  unfold dropUe
  cases he : r.entry id with
  | none => exact .inl ⟨rfl, rfl⟩
  | some e => exact .inr ⟨e, rfl, rfl⟩

end Registry

theorem Indexed.dropUe (h : Indexed r) (id : CtxId) : Indexed (r.dropUe id) := by
  rcases r.dropUe_eq id with ⟨-, heq⟩ | ⟨e, he, heq⟩
  · rw [heq]
    exact h
  · rw [heq]
    exact h.set he ⟨rfl, rfl, rfl, rfl, rfl⟩

theorem Indexed.freeUe (h : Indexed r) (ue : UeId) : Indexed (r.freeUe ue) := by
  unfold Registry.freeUe
  cases r.byUe ue with
  | none => exact h.congr rfl rfl rfl rfl
  | some id => exact (h.dropUe id).congr rfl rfl rfl rfl

theorem Indexed.dropLlme (h : Indexed r) (l : Option LlmeId) : Indexed (r.dropLlme l) :=
  h.congr rfl rfl rfl rfl

theorem Indexed.alloc (h : Indexed r) (ranType : SgsnRanType) (ra : RaId) :
    Indexed (r.alloc ranType ra) := by
  have hnone : r.entry r.nextCtx = none := by
    by_contra hne
    exact absurd (h.listed.lt_next _ hne) (lt_irrefl _)
  refine ⟨⟨agrees_alloc h.agreed.imsi hnone rfl, agrees_alloc h.agreed.ptmsi hnone rfl,
    agrees_alloc h.agreed.ptmsiOld hnone rfl, agrees_alloc h.agreed.tlli hnone rfl,
    agrees_alloc h.agreed.tlliNew hnone rfl⟩, ?_, ?_, ?_⟩
  · intro j
    rw [Registry.alloc, List.mem_cons, h.listed.mem_iff j]
    by_cases hj : j = r.nextCtx
    · subst hj
      simp
    · simp [hj]
  · refine List.nodup_cons.mpr ⟨fun hmem ↦ ?_, h.listed.nodup⟩
    exact (h.listed.mem_iff _).mp hmem hnone
  · intro j hj
    by_cases hjn : j = r.nextCtx
    · exact hjn ▸ Nat.lt_succ_self _
    · have hold : r.entry j ≠ none := by simpa [Registry.alloc, hjn] using hj
      exact (h.listed.lt_next j hold).trans (Nat.lt_succ_self _)

theorem Indexed.free (h : Indexed r) (id : CtxId) (e : Entry) : Indexed (r.free id e) := by
  refine ⟨⟨agrees_free h.agreed.imsi id, agrees_free h.agreed.ptmsi id,
    agrees_free h.agreed.ptmsiOld id, agrees_free h.agreed.tlli id,
    agrees_free h.agreed.tlliNew id⟩, ?_, h.listed.nodup.erase id, ?_⟩
  · intro j
    rw [Registry.free, h.listed.nodup.mem_erase_iff, h.listed.mem_iff j]
    by_cases hj : j = id
    · subst hj
      simp
    · simp [hj]
  · intro j hj
    by_cases hji : j = id
    · subst hji
      simp [Registry.free] at hj
    · exact h.listed.lt_next j (by simpa [Registry.free, hji] using hj)

/-- **The index is kept.** Whatever the code does to the registry keeps the list of contexts and the
hash tables as they should be. -/
theorem Indexed.step (h : Indexed r) (hs : Step p r r') : Indexed r' := by
  cases hs with
  | request ok _ => exact h.congr rfl rfl rfl rfl
  | attach he _ _ => exact h.set he ⟨rfl, rfl, rfl, rfl, rfl⟩
  | gmm he _ _ => exact h.set he ⟨rfl, rfl, rfl, rfl, rfl⟩
  | mmGb he _ _ => exact h.set he ⟨rfl, rfl, rfl, rfl, rfl⟩
  | pmm he _ _ _ => exact h.set he ⟨rfl, rfl, rfl, rfl, rfl⟩
  | dropUe he => exact h.set he ⟨rfl, rfl, rfl, rfl, rfl⟩
  | takeUe he _ _ => exact h.set he ⟨rfl, rfl, rfl, rfl, rfl⟩
  | addUe ue _ => exact h.congr rfl rfl rfl rfl
  | freeUe ue => exact h.freeUe ue
  | takeLlme he _ _ _ => exact h.set he ⟨rfl, rfl, rfl, rfl, rfl⟩
  | addLlme tlli => exact h.congr rfl rfl rfl rfl
  | assign llmes _ => exact h.congr rfl rfl rfl rfl
  | freeLlme l _ => exact h.congr rfl rfl rfl rfl
  | toIu he _ _ =>
    split
    · exact h.set he ⟨rfl, rfl, rfl, rfl, rfl⟩
    · refine Indexed.dropLlme (h.set he ?_) _
      exact ⟨rfl, rfl, rfl, rfl, rfl⟩
  | toGb he _ _ _ _ _ => exact h.set he ⟨rfl, rfl, rfl, rfl, rfl⟩
  | place he _ => exact h.set he ⟨rfl, rfl, rfl, rfl, rfl⟩
  | tlli he tlli tlliNew => exact ⟨h.agreed.setTlli he tlli tlliNew, h.listed.set he _⟩
  | imsi he imsi _ => exact ⟨h.agreed.setImsi he imsi, h.listed.set he _⟩
  | givePtmsi he pTmsi _ _ _ _ => exact ⟨h.agreed.setPtmsi he _ _ _, h.listed.set he _⟩
  | @takePtmsi _ e he pTmsi hold _ _ _ =>
    refine ⟨?_, h.listed.set he _⟩
    have hset := h.agreed.setPtmsi he pTmsi 0 (pTmsi :: e.ptmsiHistory)
    rw [← hold] at hset ⊢
    exact hset
  | dropPtmsiOld he => exact ⟨h.agreed.setPtmsi he _ _ _, h.listed.set he _⟩
  | session he _ _ => exact h.set he ⟨rfl, rfl, rfl, rfl, rfl⟩
  | alloc ranType ra => exact h.alloc ranType ra
  | free he => exact h.free _ _

theorem Indexed.steps (h : Indexed r) (hs : Steps p r r') : Indexed r' :=
  hs.invariant (fun _ _ ↦ Indexed.step) h

/-! ## Lookups -/

/-- A context of the list has a property. -/
def Sgsn.Has (s : Sgsn) (id : CtxId) (P : MmCtx → Prop) : Prop :=
  id ∈ s.mmList ∧ ∃ mm, s.ctxs id = some mm ∧ P mm

/-- The result of a lookup: a context of the list with a property, or none where there is none. -/
def Sgsn.Finds (s : Sgsn) (P : MmCtx → Prop) : Option CtxId → Prop
  | some id => s.Has id P
  | none => ∀ id, ¬ s.Has id P

section Lookups

variable {s : Sgsn} {P : MmCtx → Prop} {Key : Type} {f : Entry → Option Key} {k : Key}
  {bucket : Key → ℕ} {table : HashTable Key CtxId} {q : MmCtx → Bool}

@[simp] theorem listed_iff : s.listed q id = true ↔ s.Has id fun mm ↦ q mm = true := by
  simp only [Sgsn.listed, decide_eq_true_eq, Sgsn.Has]
  cases s.ctxs id <;> simp

theorem view_entry_of_some {mm : MmCtx} (hmm : s.ctxs id = some mm) :
    s.view.entry id = some mm.entry := by
  simp [Sgsn.view, hmm]

theorem keyOf_view {mm : MmCtx} (hmm : s.ctxs id = some mm) :
    keyOf s.view.entry f id = f mm.entry := by
  rw [keyOf, view_entry_of_some hmm, Option.bind_some]

theorem mem_mmList (h : Indexed s.view) {mm : MmCtx} (hmm : s.ctxs id = some mm) :
    id ∈ s.mmList := by
  refine (h.listed.mem_iff id).mpr ?_
  rw [view_entry_of_some hmm]
  exact Option.some_ne_none _

/-- What a lookup through a table finds has the property that is asked for, and a key. -/
theorem has_of_lookup (h : table.Agrees (keyOf s.view.entry f))
    (hf : table.lookup bucket k (s.listed q) = some id) :
    s.Has id fun mm ↦ q mm = true ∧ f mm.entry ≠ none := by
  obtain ⟨hlisted, hkey⟩ := h.of_lookup_some hf
  obtain ⟨hmem, mm, hmm, hq⟩ := listed_iff.mp hlisted
  exact ⟨hmem, mm, hmm, hq, keyOf_view (f := f) hmm ▸ hkey⟩

/-- Where a lookup through a table finds nothing, no context with the key has the property. -/
theorem not_of_lookup (h : Indexed s.view) (ht : table.Agrees (keyOf s.view.entry f))
    (hf : table.lookup bucket k (s.listed q) = none) {mm : MmCtx} (hmm : s.ctxs id = some mm)
    (hk : f mm.entry = some k) : q mm = false := by
  have hnot := ht.of_lookup_none hf ((keyOf_view hmm).trans hk)
  rw [Bool.eq_false_iff, ne_eq, listed_iff] at hnot
  by_contra hq
  exact hnot ⟨mem_mmList h hmm, mm, hmm, by simpa using hq⟩

end Lookups

variable {s : Sgsn}

/-- `sgsn_mm_ctx_by_imsi` finds what a walk over the list would find. -/
theorem finds_imsi (h : Indexed s.view) {imsi : Digits} (hi : imsi ≠ []) :
    s.Finds (fun mm ↦ mm.imsi = imsi) (sgsnMmCtxByImsi s imsi) := by
  unfold sgsnMmCtxByImsi
  rw [if_neg hi]
  cases hf : s.tables.byImsi.lookup s.hash.imsi imsi (s.listed fun mm ↦ mm.imsi = imsi) with
  | some id =>
    obtain ⟨hmem, mm, hmm, hq, -⟩ := has_of_lookup h.agreed.imsi hf
    exact ⟨hmem, mm, hmm, by simpa using hq⟩
  | none =>
    rintro id ⟨-, mm, hmm, rfl⟩
    have hnot := not_of_lookup h h.agreed.imsi hf hmm (by simp [MmCtx.entry, imsiKey, hi])
    simp at hnot

/-- `sgsn_mm_ctx_by_ptmsi` finds what a walk over the list would find. A value that means that the
field is not set is not found in it. -/
theorem finds_ptmsi (h : Indexed s.view) (pTmsi : BitVec 32) :
    s.Finds (fun mm ↦ (mm.pTmsi = pTmsi ∧ pTmsi ≠ 0 ∧ pTmsi ≠ gsmReservedTmsi) ∨
      (mm.pTmsiOld = pTmsi ∧ pTmsi ≠ 0)) (sgsnMmCtxByPtmsi s pTmsi) := by
  unfold sgsnMmCtxByPtmsi
  cases hf : s.tables.byPtmsi.lookup s.hash.ptmsi pTmsi (s.listed fun mm ↦ pTmsi = mm.pTmsi) with
  | some id =>
    obtain ⟨hmem, mm, hmm, hq, hkey⟩ := has_of_lookup h.agreed.ptmsi hf
    have hp : pTmsi = mm.pTmsi := by simpa using hq
    have hset : ¬ (mm.pTmsi = 0 ∨ mm.pTmsi = gsmReservedTmsi) := by
      intro hor
      exact hkey (if_pos hor)
    rw [not_or] at hset
    exact ⟨hmem, mm, hmm, .inl ⟨hp.symm, hp ▸ hset.1, hp ▸ hset.2⟩⟩
  | none =>
    change s.Finds _ (s.tables.byPtmsiOld.lookup _ _ _)
    cases hf' : s.tables.byPtmsiOld.lookup s.hash.ptmsi pTmsi
        (s.listed fun mm ↦ mm.pTmsiOld ≠ 0 ∧ mm.pTmsiOld = pTmsi) with
    | some id =>
      obtain ⟨hmem, mm, hmm, hq, -⟩ := has_of_lookup h.agreed.ptmsiOld hf'
      obtain ⟨h0, hp⟩ := by simpa using hq
      exact ⟨hmem, mm, hmm, .inr ⟨hp, hp ▸ h0⟩⟩
    | none =>
      rintro id ⟨-, mm, hmm, ⟨rfl, h0, h1⟩ | ⟨rfl, h0⟩⟩
      · have hnot := not_of_lookup h h.agreed.ptmsi hf hmm (if_neg (not_or.mpr ⟨h0, h1⟩))
        exact absurd rfl (of_decide_eq_false hnot)
      · have hnot := not_of_lookup h h.agreed.ptmsiOld hf' hmm (if_neg h0)
        exact absurd ⟨h0, rfl⟩ (of_decide_eq_false hnot)

/-- `sgsn_mm_ctx_by_tlli` finds what a walk over the list would find. -/
theorem finds_tlli (h : Indexed s.view) {tlli : BitVec 32} (h0 : tlli ≠ 0)
    (h1 : tlli ≠ tlliUnassigned) (ra : RaId) :
    s.Finds (fun mm ↦ mm.ra = ra ∧ (mm.tlli = tlli ∨ mm.tlliNew = tlli))
      (sgsnMmCtxByTlli s tlli ra) := by
  simp only [sgsnMmCtxByTlli]
  cases hf : s.tables.byTlli.lookup s.hash.tlli tlli
      (s.listed fun mm ↦ mm.ra = ra ∧ (tlli = mm.tlli ∨ tlli = mm.tlliNew)) with
  | some id =>
    obtain ⟨hmem, mm, hmm, hq, -⟩ := has_of_lookup h.agreed.tlli hf
    obtain ⟨hra, ht⟩ := of_decide_eq_true hq
    exact ⟨hmem, mm, hmm, hra, ht.imp Eq.symm Eq.symm⟩
  | none =>
    change s.Finds _ (s.tables.byTlliNew.lookup _ _ _)
    cases hf' : s.tables.byTlliNew.lookup s.hash.tlli tlli
        (s.listed fun mm ↦ mm.ra = ra ∧ (tlli = mm.tlli ∨ tlli = mm.tlliNew)) with
    | some id =>
      obtain ⟨hmem, mm, hmm, hq, -⟩ := has_of_lookup h.agreed.tlliNew hf'
      obtain ⟨hra, ht⟩ := of_decide_eq_true hq
      exact ⟨hmem, mm, hmm, hra, ht.imp Eq.symm Eq.symm⟩
    | none =>
      rintro id ⟨-, mm, hmm, rfl, rfl | rfl⟩
      · have hnot := not_of_lookup h h.agreed.tlli hf hmm (if_neg (not_or.mpr ⟨h0, h1⟩))
        exact absurd ⟨rfl, .inl rfl⟩ (of_decide_eq_false hnot)
      · have hnot := not_of_lookup h h.agreed.tlliNew hf' hmm (if_neg (not_or.mpr ⟨h0, h1⟩))
        exact absurd ⟨rfl, .inr rfl⟩ (of_decide_eq_false hnot)

end OsmoSgsn.Gmm
