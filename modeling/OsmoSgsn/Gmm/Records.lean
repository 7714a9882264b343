import OsmoSgsn.Gmm.Node

/-!
# Contexts and their records

A context has a reference to its subscriber record, and so has a function that works on the record.
The record points back to a context, and that context points to the record. So a record that is used
is there, although references can be lost: when two contexts come to the same record, it points back
to the later one, and the earlier one never gives its reference back.

`Counted` says this of a state in which functions that are still running have some references of
their own.
-/

namespace OsmoSgsn.Gmm

/-! ## What concerns records -/

/-- The part of a context that concerns its record. -/
structure Subscription where
  subscr : Option SubId
  authState : SgsnAuthState
  deriving DecidableEq

/-- The part of a context that concerns its record. -/
def MmCtx.subscription (mm : MmCtx) : Subscription := ⟨mm.subscr, mm.authState⟩

/-- The part of the gateway that concerns records. -/
structure Records where
  cfg : SgsnConfig
  ctxs : CtxId → Option Subscription
  nextCtx : CtxId
  subscrs : List Subscr
  nextSubscr : SubId

/-- The part of the gateway that concerns records. -/
def Sgsn.records (s : Sgsn) : Records where
  cfg := s.cfg
  ctxs id := (s.ctxs id).map MmCtx.subscription
  nextCtx := s.nextCtx
  subscrs := s.subscrs
  nextSubscr := s.nextSubscr

namespace Records

variable (v : Records)

/-- The record that a context points to. -/
def pointer (id : CtxId) : Option SubId := (v.ctxs id).bind (·.subscr)

/-- The record that a pointer points to. -/
def record (sid : SubId) : Option Subscr := v.subscrs.find? (·.id = sid)

/-- Write to a record. -/
def modify (sid : SubId) (f : Subscr → Subscr) : Records :=
  { v with subscrs := v.subscrs.map fun x ↦ if x.id = sid then f x else x }

/-- Free a record that has no reference left. -/
def drop (sid : SubId) : Records :=
  { v with subscrs :=
      v.subscrs.filter fun x ↦ ¬ (x.id = sid ∧ x.useCount ≤ 0 ∧ x.keepInRam = false) }

/-- Add a record. -/
def add (x : Subscr) : Records :=
  { v with subscrs := v.subscrs ++ [x], nextSubscr := v.nextSubscr + 1 }

/-- Write to a context, or free it. -/
def set (id : CtxId) (t : Option Subscription) : Records :=
  { v with ctxs := Function.update v.ctxs id t }

end Records

/-! ## The law of references -/

/-- The records that are used are there, for contexts that have pointers to records, for records,
and for the references of running functions. -/
structure Lawful (pointer : CtxId → Option SubId) (record : SubId → Option Subscr)
    (held : SubId → ℕ) : Prop where
  /-- Every context and every function that has a record is counted. -/
  counted : ∀ sid x, record sid = some x →
    ∃ l : Finset CtxId, (∀ id, id ∈ l ↔ pointer id = some sid) ∧
      (l.card : ℤ) + held sid ≤ x.useCount
  pointed : ∀ id sid, pointer id = some sid → (record sid).isSome
  callers : ∀ sid, 0 < held sid → (record sid).isSome
  /-- The context of a record points to the record. -/
  linked : ∀ sid x id, record sid = some x → x.mm = some id → pointer id = some sid
  needed : ∀ sid x, record sid = some x → 0 < x.useCount ∨ x.keepInRam = true

namespace Lawful

variable {pointer pointer' : CtxId → Option SubId} {record record' : SubId → Option Subscr}
  {held : SubId → ℕ} {sid : SubId} {x : Subscr} {n : ℕ}

/-- A record is written, and who has it may change. -/
theorem write (h : Lawful pointer record held)
    (hother : ∀ id q, q ≠ sid → (pointer' id = some q ↔ pointer id = some q))
    (hcount : ∃ l : Finset CtxId, (∀ id, id ∈ l ↔ pointer' id = some sid) ∧
      (l.card : ℤ) + n ≤ x.useCount)
    (hlink : ∀ id, x.mm = some id → pointer' id = some sid)
    (hneed : 0 < x.useCount ∨ x.keepInRam = true) :
    Lawful pointer' (Function.update record sid (some x)) (Function.update held sid n) where
  counted q y hy := by
    by_cases hq : q = sid
    · subst hq
      obtain rfl : x = y := by simpa using hy
      simpa using hcount
    · obtain ⟨l, hl, hcard⟩ := h.counted q y (by simpa [hq] using hy)
      exact ⟨l, fun id ↦ (hl id).trans (hother id q hq).symm, by simpa [hq] using hcard⟩
  pointed id q hid := by
    by_cases hq : q = sid
    · simp [hq]
    · simpa [hq] using h.pointed id q ((hother id q hq).mp hid)
  callers q hq := by
    by_cases hqs : q = sid
    · simp [hqs]
    · simpa [hqs] using h.callers q (by simpa [hqs] using hq)
  linked q y id hy hmm := by
    by_cases hq : q = sid
    · subst hq
      obtain rfl : x = y := by simpa using hy
      exact hlink id hmm
    · exact (hother id q hq).mpr (h.linked q y id (by simpa [hq] using hy) hmm)
  needed q y hy := by
    by_cases hq : q = sid
    · subst hq
      obtain rfl : x = y := by simpa using hy
      exact hneed
    · exact h.needed q y (by simpa [hq] using hy)

/-- A record that nobody has is freed. -/
theorem erase (h : Lawful pointer record held) (hnone : ∀ id, pointer id ≠ some sid) :
    Lawful pointer (Function.update record sid none) (Function.update held sid 0) where
  counted q y hy := by
    by_cases hq : q = sid
    · simp [hq] at hy
    · simpa [hq] using h.counted q y (by simpa [hq] using hy)
  pointed id q hid := by
    have hq : q ≠ sid := fun heq ↦ hnone id (heq ▸ hid)
    simpa [hq] using h.pointed id q hid
  callers q hq := by
    by_cases hqs : q = sid
    · simp [hqs] at hq
    · simpa [hqs] using h.callers q (by simpa [hqs] using hq)
  linked q y id hy hmm := by
    by_cases hq : q = sid
    · simp [hq] at hy
    · exact h.linked q y id (by simpa [hq] using hy) hmm
  needed q y hy := by
    by_cases hq : q = sid
    · simp [hq] at hy
    · exact h.needed q y (by simpa [hq] using hy)

/-- A context goes away that is the context of no record. -/
theorem lose (h : Lawful pointer record held) (id : CtxId)
    (hfree : ∀ sid x, record sid = some x → x.mm ≠ some id)
    (hp : ∀ i, pointer' i = if i = id then none else pointer i) : Lawful pointer' record held where
  counted sid x hx := by
    obtain ⟨l, hl, hcard⟩ := h.counted sid x hx
    refine ⟨l.erase id, fun i ↦ ?_, ?_⟩
    · rw [Finset.mem_erase, hl, hp]
      by_cases hi : i = id
      · simp [hi]
      · simp [hi]
    · have hle : (l.erase id).card ≤ l.card := Finset.card_le_card (Finset.erase_subset _ _)
      omega
  pointed i sid hi := by
    rw [hp] at hi
    split at hi
    · exact absurd hi nofun
    · exact h.pointed i sid hi
  callers := h.callers
  linked sid x i hx hmm := by
    have hi : i ≠ id := fun heq ↦ hfree sid x hx (heq ▸ hmm)
    rw [hp, if_neg hi]
    exact h.linked sid x i hx hmm
  needed := h.needed

end Lawful

/-- The references to records are in order, and pointers are given out once. -/
structure Counted (held : SubId → ℕ) (v : Records) : Prop where
  lawful : Lawful v.pointer v.record held
  nodup : (v.subscrs.map (·.id)).Nodup
  freshSubscr : ∀ x ∈ v.subscrs, x.id < v.nextSubscr
  freshCtx : ∀ id, v.nextCtx ≤ id → v.ctxs id = none

/-! ## Records in the list -/

section Lists

variable {v : Records} {held : SubId → ℕ} {sid q : SubId} {x : Subscr} {f : Subscr → Subscr}
  {id : CtxId} {t : Option Subscription}

theorem record_id (hx : v.record sid = some x) : x.id = sid := by
  simpa using List.find?_some hx

theorem mem_of_record (hx : v.record sid = some x) : x ∈ v.subscrs := List.mem_of_find?_eq_some hx

@[simp] theorem pointer_modify : (v.modify sid f).pointer = v.pointer := rfl

@[simp] theorem pointer_drop : (v.drop sid).pointer = v.pointer := rfl

@[simp] theorem pointer_add : (v.add x).pointer = v.pointer := rfl

@[simp] theorem record_set : (v.set id t).record = v.record := rfl

theorem pointer_set (i : CtxId) :
    (v.set id t).pointer i = if i = id then t.bind (·.subscr) else v.pointer i := by
  by_cases hi : i = id
  · subst hi
    simp [Records.pointer, Records.set]
  · simp [Records.pointer, Records.set, hi]

theorem record_modify (hf : ∀ x, (f x).id = x.id) :
    (v.modify sid f).record = Function.update v.record sid ((v.record sid).map f) := by
  funext q
  have hid : ∀ x : Subscr, (if x.id = sid then f x else x).id = x.id := by
    intro x
    split
    · exact hf x
    · rfl
  have hfind : (v.modify sid f).record q =
      (v.record q).map fun x ↦ if x.id = sid then f x else x := by
    rw [Records.record, Records.modify, List.find?_map]
    simp only [Function.comp_def, hid]
    rfl
  rw [hfind]
  cases hx : v.record q with
  | none =>
    by_cases hq : q = sid
    · subst hq
      simp [hx]
    · simp [hq, hx]
  | some x =>
    have hxid := record_id hx
    by_cases hq : q = sid
    · subst hq
      simp [hx, hxid]
    · simp [hq, hx, hxid]

theorem ids_modify (hf : ∀ x, (f x).id = x.id) :
    (v.modify sid f).subscrs.map (·.id) = v.subscrs.map (·.id) := by
  rw [Records.modify, List.map_map]
  refine List.map_congr_left fun x _ ↦ ?_
  rw [Function.comp_apply]
  split
  · exact hf x
  · rfl

theorem record_add (hfresh : ∀ y ∈ v.subscrs, y.id ≠ x.id) :
    (v.add x).record = Function.update v.record x.id (some x) := by
  funext q
  rw [Records.record, Records.add, List.find?_append]
  by_cases hq : q = x.id
  · subst hq
    have hnone : v.subscrs.find? (·.id = x.id) = none :=
      List.find?_eq_none.mpr fun y hy ↦ by simpa using hfresh y hy
    simp [hnone]
  · have hlast : [x].find? (·.id = q) = none := by
      simp [Ne.symm hq]
    rw [hlast, Option.or_none, Function.update_of_ne hq]
    rfl

/-- A record that has references left, or is kept in RAM, is not freed. -/
theorem record_drop_of_needed (hnodup : (v.subscrs.map (·.id)).Nodup) (hx : v.record sid = some x)
    (hneed : 0 < x.useCount ∨ x.keepInRam = true) : v.drop sid = v := by
  have hall : ∀ y ∈ v.subscrs, ¬ (y.id = sid ∧ y.useCount ≤ 0 ∧ y.keepInRam = false) := by
    rintro y hy ⟨hid, hcount, hkeep⟩
    have hyx : y = x :=
      List.inj_on_of_nodup_map hnodup hy (mem_of_record hx) (hid.trans (record_id hx).symm)
    subst hyx
    rcases hneed with hpos | htrue
    · omega
    · exact absurd (hkeep.symm.trans htrue) nofun
  have hfilter : v.subscrs.filter
      (fun y ↦ ¬ (y.id = sid ∧ y.useCount ≤ 0 ∧ y.keepInRam = false)) = v.subscrs :=
    List.filter_eq_self.mpr fun y hy ↦ decide_eq_true (hall y hy)
  rw [Records.drop, hfilter]

theorem record_drop_of_not (hnodup : (v.subscrs.map (·.id)).Nodup) (hx : v.record sid = some x)
    (hneed : ¬ (0 < x.useCount ∨ x.keepInRam = true)) :
    (v.drop sid).record = Function.update v.record sid none := by
  funext q
  rw [Records.record, Records.drop, List.find?_filter]
  by_cases hq : q = sid
  · subst hq
    rw [Function.update_self, List.find?_eq_none]
    intro y hy
    by_cases hid : y.id = q
    · have hyx : y = x :=
        List.inj_on_of_nodup_map hnodup hy (mem_of_record hx) (hid.trans (record_id hx).symm)
      subst hyx
      have hcount : y.useCount ≤ 0 := by
        by_contra hpos
        exact hneed (.inl (by omega))
      have hkeep : y.keepInRam = false := by
        by_contra htrue
        exact hneed (.inr (by simpa using htrue))
      simp [hid, hcount, hkeep]
    · simp [hid]
  · rw [Function.update_of_ne hq, Records.record]
    congr 1
    funext y
    by_cases hid : y.id = q
    · have hne : y.id ≠ sid := fun heq ↦ hq (hid.symm.trans heq)
      simp [hne]
    · simp [hid]

theorem nodup_drop (hnodup : (v.subscrs.map (·.id)).Nodup) :
    ((v.drop sid).subscrs.map (·.id)).Nodup :=
  hnodup.sublist (List.Sublist.map _ List.filter_sublist)

/-! ## What the primitives keep -/

namespace Counted

theorem record_lt (h : Counted held v) (hx : v.record sid = some x) : sid < v.nextSubscr :=
  record_id hx ▸ h.freshSubscr x (mem_of_record hx)

/-- The record of a context is there. -/
theorem pointed (h : Counted held v) (hp : v.pointer id = some sid) : ∃ x, v.record sid = some x :=
  Option.isSome_iff_exists.mp (h.lawful.pointed id sid hp)

theorem ofHeld (h : Counted held v) (hsid : 0 < held sid) : ∃ x, v.record sid = some x :=
  Option.isSome_iff_exists.mp (h.lawful.callers sid hsid)

theorem freshSubscr_modify (h : Counted held v) (hf : ∀ x, (f x).id = x.id) :
    ∀ y ∈ (v.modify sid f).subscrs, y.id < v.nextSubscr := by
  intro y hy
  have hmem : y.id ∈ (v.modify sid f).subscrs.map (·.id) := List.mem_map_of_mem hy
  rw [ids_modify hf] at hmem
  obtain ⟨z, hz, hid⟩ := List.mem_map.mp hmem
  exact hid ▸ h.freshSubscr z hz

/-- A record is written, and callers get or give back references. -/
theorem write {n : ℕ} (h : Counted held v) (hx : v.record sid = some x) (hf : ∀ x, (f x).id = x.id)
    (hcount : ∃ l : Finset CtxId, (∀ i, i ∈ l ↔ v.pointer i = some sid) ∧
      (l.card : ℤ) + n ≤ (f x).useCount)
    (hlink : ∀ i, (f x).mm = some i → v.pointer i = some sid)
    (hneed : 0 < (f x).useCount ∨ (f x).keepInRam = true) :
    Counted (Function.update held sid n) (v.modify sid f) where
  lawful := by
    rw [record_modify hf, hx]
    exact h.lawful.write (fun _ _ _ ↦ Iff.rfl) hcount hlink hneed
  nodup := by
    rw [ids_modify hf]
    exact h.nodup
  freshSubscr := h.freshSubscr_modify hf
  freshCtx := h.freshCtx

/-- A record and a context are written together. -/
theorem writeBoth (h : Counted held v) {u : Subscription} (hx : v.record sid = some x)
    (hf : ∀ x, (f x).id = x.id) (hid : (v.ctxs id).isSome)
    (hother : ∀ i q, q ≠ sid → ((v.set id (some u)).pointer i = some q ↔ v.pointer i = some q))
    (hcount : ∃ l : Finset CtxId, (∀ i, i ∈ l ↔ (v.set id (some u)).pointer i = some sid) ∧
      (l.card : ℤ) + held sid ≤ (f x).useCount)
    (hlink : ∀ i, (f x).mm = some i → (v.set id (some u)).pointer i = some sid)
    (hneed : 0 < (f x).useCount ∨ (f x).keepInRam = true) :
    Counted held ((v.modify sid f).set id (some u)) where
  lawful := by
    have hlaw := h.lawful.write hother hcount hlink hneed
    rw [Function.update_eq_self] at hlaw
    rw [record_set, record_modify hf, hx]
    exact hlaw
  nodup := by
    change ((v.modify sid f).subscrs.map (·.id)).Nodup
    rw [ids_modify hf]
    exact h.nodup
  freshSubscr := h.freshSubscr_modify hf
  freshCtx i hi := by
    have hne : i ≠ id := by
      rintro rfl
      rw [h.freshCtx i hi] at hid
      exact absurd hid (by simp)
    exact (Function.update_of_ne hne _ _).trans (h.freshCtx i hi)

/-- The fields are written that do not concern references. -/
theorem modify (h : Counted held v) (hid : ∀ x, (f x).id = x.id)
    (hcount : ∀ x, (f x).useCount = x.useCount) (hkeep : ∀ x, (f x).keepInRam = x.keepInRam)
    (hmm : ∀ x, (f x).mm = x.mm) (hx : v.record sid = some x) : Counted held (v.modify sid f) := by
  obtain ⟨l, hl, hcard⟩ := h.lawful.counted sid x hx
  have hw := h.write hx hid (n := held sid) ⟨l, hl, by rw [hcount]; exact hcard⟩
    (fun i hi ↦ h.lawful.linked sid x i hx (hmm x ▸ hi))
    (by rw [hcount, hkeep]; exact h.lawful.needed sid x hx)
  rwa [Function.update_eq_self] at hw

/-- `gprs_subscr_get` by a caller. -/
theorem get (h : Counted held v) (hx : v.record sid = some x) :
    Counted (Function.update held sid (held sid + 1))
      (v.modify sid fun x ↦ { x with useCount := x.useCount + 1 }) := by
  obtain ⟨l, hl, hcard⟩ := h.lawful.counted sid x hx
  refine h.write hx (fun _ ↦ rfl) ⟨l, hl, ?_⟩ (fun i ↦ h.lawful.linked sid x i hx) (.inl ?_)
  · push_cast
    omega
  · change 0 < x.useCount + 1
    omega

/-- `gprs_subscr_put` by a caller. -/
theorem put (h : Counted held v) (hpos : 0 < held sid) :
    Counted (Function.update held sid (held sid - 1))
      ((v.modify sid fun x ↦ { x with useCount := x.useCount - 1 }).drop sid) := by
  obtain ⟨x, hx⟩ := h.ofHeld hpos
  obtain ⟨l, hl, hcard⟩ := h.lawful.counted sid x hx
  let f (x : Subscr) : Subscr := { x with useCount := x.useCount - 1 }
  have hf : ∀ x, (f x).id = x.id := fun _ ↦ rfl
  have hrec : (v.modify sid f).record sid = some (f x) := by
    rw [record_modify hf, hx, Function.update_self]
    rfl
  have hnodup : ((v.modify sid f).subscrs.map (·.id)).Nodup := by
    rw [ids_modify hf]
    exact h.nodup
  change Counted _ ((v.modify sid f).drop sid)
  by_cases hneed : 0 < (f x).useCount ∨ (f x).keepInRam = true
  · rw [record_drop_of_needed hnodup hrec hneed]
    refine h.write hx hf ⟨l, hl, ?_⟩ (fun i ↦ h.lawful.linked sid x i hx) hneed
    change (l.card : ℤ) + ((held sid - 1 : ℕ) : ℤ) ≤ x.useCount - 1
    omega
  · have hlast : l.card = 0 ∧ held sid - 1 = 0 := by
      have : ¬ 0 < x.useCount - 1 := fun hpos ↦ hneed (.inl hpos)
      omega
    have hnone : ∀ i, v.pointer i ≠ some sid := by
      intro i hi
      have hmem := (hl i).mpr hi
      rw [Finset.card_eq_zero.mp hlast.1] at hmem
      exact absurd hmem (Finset.notMem_empty i)
    refine ⟨?_, nodup_drop hnodup, fun y hy ↦ ?_, h.freshCtx⟩
    · rw [record_drop_of_not hnodup hrec hneed, record_modify hf, Function.update_idem, hlast.2]
      exact h.lawful.erase hnone
    · exact h.freshSubscr_modify hf y (List.mem_of_mem_filter hy)

/-- A caller makes a record. -/
theorem add (h : Counted held v) (hid : x.id = v.nextSubscr) (hcount : x.useCount = 1)
    (hmm : x.mm = none) :
    Counted (Function.update held v.nextSubscr (held v.nextSubscr + 1)) (v.add x) := by
  have hnone : v.record v.nextSubscr = none := by
    by_contra hsome
    obtain ⟨y, hy⟩ := Option.ne_none_iff_exists'.mp hsome
    exact absurd (h.record_lt hy) (lt_irrefl _)
  have hptr : ∀ i, v.pointer i ≠ some v.nextSubscr := by
    intro i hi
    obtain ⟨y, hy⟩ := h.pointed hi
    exact absurd (hnone.symm.trans hy) nofun
  have hheld : held v.nextSubscr = 0 := by
    by_contra hne
    obtain ⟨y, hy⟩ := h.ofHeld (Nat.pos_of_ne_zero hne)
    exact absurd (hnone.symm.trans hy) nofun
  have hfresh : ∀ y ∈ v.subscrs, y.id ≠ x.id := fun y hy ↦
    hid ▸ (h.freshSubscr y hy).ne
  constructor
  · rw [record_add hfresh, hid]
    refine h.lawful.write (fun _ _ _ ↦ Iff.rfl) ⟨∅, fun i ↦ ?_, ?_⟩ (fun i hi ↦ ?_) (.inl ?_)
    · exact iff_of_false (Finset.notMem_empty i) (hptr i)
    · rw [hheld, hcount]
      simp
    · exact absurd (hmm.symm.trans hi) nofun
    · omega
  · change ((v.subscrs ++ [x]).map (·.id)).Nodup
    rw [List.map_append, List.nodup_append]
    refine ⟨h.nodup, List.nodup_singleton _, fun a ha b hb ↦ ?_⟩
    obtain ⟨y, hy, rfl⟩ := List.mem_map.mp ha
    obtain rfl : b = x.id := by simpa using hb
    exact hfresh y hy
  · intro y hy
    rcases List.mem_append.mp hy with hy | hy
    · exact Nat.lt_succ_of_lt (h.freshSubscr y hy)
    · obtain rfl : y = x := by simpa using hy
      exact hid ▸ Nat.lt_succ_self _
  · exact h.freshCtx

/-- A context is written, and what it points to stays. -/
theorem keep (h : Counted held v) {u u' : Subscription} (hu : v.ctxs id = some u)
    (hsub : u'.subscr = u.subscr) : Counted held (v.set id (some u')) := by
  have hp : (v.set id (some u')).pointer = v.pointer := by
    funext i
    rw [pointer_set]
    by_cases hi : i = id
    · subst hi
      simp [Records.pointer, hu, hsub]
    · rw [if_neg hi]
  refine ⟨?_, h.nodup, h.freshSubscr, fun i hi ↦ ?_⟩
  · rw [hp]
    exact h.lawful
  · have hne : i ≠ id := by
      rintro rfl
      exact absurd ((h.freshCtx i hi).symm.trans hu) nofun
    exact (Function.update_of_ne hne _ _).trans (h.freshCtx i hi)

/-- A context without a record and a record are linked. -/
theorem link (h : Counted held v) {u : Subscription} (hx : v.record sid = some x)
    (hu : v.ctxs id = some u) (hnone : u.subscr = none) (hf : ∀ x, (f x).id = x.id)
    (hcount : (f x).useCount = x.useCount + 1) (hmm : (f x).mm = some id) :
    Counted held ((v.modify sid f).set id (some { u with subscr := some sid })) := by
  obtain ⟨l, hl, hcard⟩ := h.lawful.counted sid x hx
  have hptr : v.pointer id = none := by simp [Records.pointer, hu, hnone]
  have hnot : id ∉ l := by simp [hl, hptr]
  refine h.writeBoth hx hf (by simp [hu]) (fun i q hq ↦ ?_) ⟨insert id l, fun i ↦ ?_, ?_⟩
    (fun i hi ↦ ?_) (.inl ?_)
  · rw [pointer_set]
    by_cases hi : i = id
    · simp [hi, hptr, hq.symm]
    · rw [if_neg hi]
  · rw [Finset.mem_insert, hl, pointer_set]
    by_cases hi : i = id
    · simp [hi]
    · simp [hi]
  · rw [Finset.card_insert_of_notMem hnot, hcount]
    push_cast
    omega
  · obtain rfl : id = i := Option.some.inj (hmm.symm.trans hi)
    rw [pointer_set, if_pos rfl]
    rfl
  · omega

/-- A record that a caller has loses its context. -/
theorem unlink (h : Counted held v) {u : Subscription} (hx : v.record sid = some x)
    (hmm : x.mm = some id) (hu : v.ctxs id = some u) (hpos : 0 < held sid)
    (hf : ∀ x, (f x).id = x.id) (hcount : (f x).useCount = x.useCount - 1)
    (hnone : (f x).mm = none) :
    Counted held ((v.modify sid f).set id (some { u with subscr := none })) := by
  obtain ⟨l, hl, hcard⟩ := h.lawful.counted sid x hx
  have hptr : v.pointer id = some sid := h.lawful.linked sid x id hx hmm
  have hmem : id ∈ l := (hl id).mpr hptr
  have hone : 1 ≤ l.card := Finset.card_pos.mpr ⟨id, hmem⟩
  have herase := Finset.card_erase_of_mem hmem
  refine h.writeBoth hx hf (by simp [hu]) (fun i q hq ↦ ?_) ⟨l.erase id, fun i ↦ ?_, ?_⟩
    (fun i hi ↦ absurd (hnone.symm.trans hi) nofun) (.inl ?_)
  · rw [pointer_set]
    by_cases hi : i = id
    · simp [hi, hptr, hq.symm]
    · rw [if_neg hi]
  · rw [Finset.mem_erase, hl, pointer_set]
    by_cases hi : i = id
    · simp [hi]
    · simp [hi]
  · rw [herase, hcount]
    omega
  · omega

/-- A context goes away that is the context of no record. -/
theorem free (h : Counted held v) (hfree : ∀ sid x, v.record sid = some x → x.mm ≠ some id) :
    Counted held (v.set id none) := by
  refine ⟨h.lawful.lose id hfree fun i ↦ pointer_set i, h.nodup, h.freshSubscr, fun i hi ↦ ?_⟩
  by_cases hne : i = id
  · subst hne
    exact Function.update_self ..
  · exact (Function.update_of_ne hne _ _).trans (h.freshCtx i hi)

/-- A context is made, and has no record. -/
theorem alloc (h : Counted held v) {u : Subscription} (hnone : u.subscr = none) :
    Counted held { v.set v.nextCtx (some u) with nextCtx := v.nextCtx + 1 } := by
  have hctx := h.freshCtx v.nextCtx le_rfl
  have hp : (v.set v.nextCtx (some u)).pointer = v.pointer := by
    funext i
    rw [pointer_set]
    by_cases hi : i = v.nextCtx
    · simp [hi, Records.pointer, hctx, hnone]
    · rw [if_neg hi]
  refine ⟨?_, h.nodup, h.freshSubscr, fun i hi ↦ ?_⟩
  · change Lawful (v.set v.nextCtx (some u)).pointer _ _
    rw [hp]
    exact h.lawful
  · have hlt : v.nextCtx < i := hi
    exact (Function.update_of_ne hlt.ne' _ _).trans (h.freshCtx i hlt.le)

end Counted

end Lists

end OsmoSgsn.Gmm
