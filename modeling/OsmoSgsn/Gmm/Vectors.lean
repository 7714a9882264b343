import OsmoSgsn.Gmm.Node

/-!
# The store of authentication vectors

A subscriber record keeps the vectors of the HLR in an array of five entries. An entry is valid when
it has a key sequence number, and unused when nobody has asked for it. `sgsn_auth_get_tuple` walks
once around the array, from behind the entry that the caller had last, and hands out the first entry
that is both.

Three things write to the array: that call, the messages of the HLR, and
`gprs_subscr_reset_auth_triplets`. Only a SEND_AUTH_INFO Result that carries vectors makes an entry
unused again. So whatever is handed out between two of these is handed out once.
-/

namespace OsmoSgsn.Gmm

/-! ## Entries -/

/-- An entry that may be handed out. -/
def GsmAuthTuple.Unused (t : GsmAuthTuple) : Prop := t.keySeq ≠ gsmKeySeqInval ∧ t.useCount = 0

instance (t : GsmAuthTuple) : Decidable t.Unused := inferInstanceAs (Decidable (_ ∧ _))

/-- The entry of an array at an index may be handed out. -/
def UnusedAt (store : List GsmAuthTuple) (i : ℕ) : Prop := ∃ t, store[i]? = some t ∧ t.Unused

/-- The entry as it is handed out. -/
def GsmAuthTuple.taken (t : GsmAuthTuple) : GsmAuthTuple := { t with useCount := 1 }

@[simp] theorem GsmAuthTuple.keySeq_taken (t : GsmAuthTuple) : t.taken.keySeq = t.keySeq := rfl

theorem GsmAuthTuple.not_unused_taken (t : GsmAuthTuple) : ¬ t.taken.Unused := fun h ↦
  absurd h.2 one_ne_zero

theorem GsmAuthTuple.not_unused_cleared : ¬ GsmAuthTuple.cleared.Unused := fun h ↦ h.1 rfl

/-! ## The search -/

theorem nextTuple_eq_some {store : List GsmAuthTuple} {keySeq i : ℕ}
    (h : nextTuple store keySeq = some i) : UnusedAt store i := by
  have hi := List.find?_some h
  rw [Option.any_eq_true] at hi
  obtain ⟨t, ht, hunused⟩ := hi
  exact ⟨t, ht, of_decide_eq_true hunused⟩

/-- The walk comes past every entry, wherever it begins. -/
theorem mem_walk (start : ℕ) {i : ℕ} (hi : i < 5) :
    i ∈ (List.range 5).map fun k ↦ (start + 1 + k) % 5 := by
  refine List.mem_map.mpr ⟨(i + 4 * (start + 1)) % 5, List.mem_range.mpr ?_, ?_⟩ <;> omega

theorem nextTuple_eq_none {store : List GsmAuthTuple} {keySeq : ℕ} (hlen : store.length = 5) :
    nextTuple store keySeq = none ↔ ∀ t ∈ store, ¬ t.Unused := by
  constructor
  · intro h t ht hunused
    obtain ⟨i, hi, rfl⟩ := List.mem_iff_getElem.mp ht
    have hpast := List.find?_eq_none.mp h i (mem_walk _ (hlen ▸ hi))
    apply hpast
    rw [List.getElem?_eq_getElem hi, Option.any_some]
    exact decide_eq_true hunused
  · intro h
    refine List.find?_eq_none.mpr fun i _ hany ↦ ?_
    obtain ⟨t, ht, hunused⟩ := (Option.any_eq_true _ _).mp hany
    exact h t (List.mem_of_getElem? ht) (of_decide_eq_true hunused)

/-! ## What writes to the array -/

/-- `sgsn_auth_get_tuple`, once the record is found: the index and the content of the entry. -/
def Subscr.getTuple (x : Subscr) (keySeq : ℕ) : Subscr × Option (ℕ × GsmAuthTuple) :=
  match nextTuple x.authTriplets keySeq with
  | none => (x, none)
  | some i => ({ x with authTriplets := x.authTriplets.modify i (·.taken) },
      x.authTriplets[i]?.map fun t ↦ (i, t.taken))

/-- `gprs_subscr_reset_auth_triplets`, once the record is found. -/
def Subscr.resetAuthTriplets (x : Subscr) : Subscr :=
  { x with
    authTriplets := List.replicate 5 .cleared, authTripletsUpdated := false,
    authInfoPending := false }

theorem gprsSubscrResetAuthTriplets_eq (sid : SubId) :
    gprsSubscrResetAuthTriplets sid = modSubscr sid (·.resetAuthTriplets) := rfl

theorem Sgsn.subscr?_modSubscr {s : Sgsn} {sid : SubId} {f : Subscr → Subscr}
    (hf : ∀ x, (f x).id = x.id) : (s.modSubscr sid f).subscr? sid = (s.subscr? sid).map f := by
  have hsame : ((fun x : Subscr ↦ decide (x.id = sid)) ∘ fun x ↦ if x.id = sid then f x else x) =
      fun x ↦ decide (x.id = sid) := by
    funext x
    by_cases hx : x.id = sid <;> simp [hx, hf]
  unfold Sgsn.subscr? Sgsn.modSubscr
  rw [List.find?_map, hsame]
  cases hx : s.subscrs.find? fun x ↦ decide (x.id = sid) with
  | none => rfl
  | some x =>
    have hid : x.id = sid := of_decide_eq_true (List.find?_some hx :)
    simp [hid]

/-- The call of the node is that of the record, with the key that the context had last. -/
theorem sgsnAuthGetTuple_run {s : Sgsn} {id : CtxId} {mm : MmCtx} {sid : SubId} {x : Subscr}
    (hmm : s.ctxs id = some mm) (hsubscr : mm.subscr = some sid) (hx : s.subscr? sid = some x) :
    ∃ s', sgsnAuthGetTuple id s = .ok ((x.getTuple mm.authTriplet.keySeq).2.map (·.2)) s' ∧
      s'.subscr? sid = some (x.getTuple mm.authTriplet.keySeq).1 := by
  have hget : getMm id s = .ok mm s := by
    simp [getMm, hmm, bind, EStateM.bind, get, getThe, MonadStateOf.get, EStateM.get, pure,
      EStateM.pure]
  have hgetSubscr : getSubscr sid s = .ok x s := by
    simp [getSubscr, hx, bind, EStateM.bind, get, getThe, MonadStateOf.get, EStateM.get, pure,
      EStateM.pure]
  unfold sgsnAuthGetTuple Subscr.getTuple
  simp only [bind, EStateM.bind, hget, hsubscr, hgetSubscr]
  cases hnext : nextTuple x.authTriplets mm.authTriplet.keySeq with
  | none => exact ⟨s, rfl, hx⟩
  | some i =>
    refine ⟨s.modSubscr sid fun x ↦ { x with authTriplets := x.authTriplets.modify i (·.taken) },
      ?_, ?_⟩
    · simp only [modSubscr, bind, EStateM.bind, hgetSubscr, modify, modifyGet,
        MonadStateOf.modifyGet, EStateM.modifyGet, pure, EStateM.pure, Option.map_map]
      rfl
    · refine (Sgsn.subscr?_modSubscr ?_).trans ?_
      · intro y
        rfl
      · rw [hx]
        rfl

/-! ## Runs -/

/-- What happens to the array of a record. -/
inductive VectorEvent
  /-- A call of `sgsn_auth_get_tuple`. -/
  | getTuple (keySeq : ℕ)
  /-- A message of the HLR. -/
  | gsup (msg : GsupMsg)
  /-- A call of `gprs_subscr_reset_auth_triplets`. -/
  | reset
  deriving Repr

/-- New vectors come in. -/
def VectorEvent.Refills : VectorEvent → Prop
  | .gsup (.authInfoResult vectors) => vectors ≠ []
  | _ => False

/-- A call and its answer: the index and the content of an entry, or `NULL`. -/
structure Handout where
  store : List GsmAuthTuple
  keySeq : ℕ
  answer : Option (ℕ × GsmAuthTuple)
  deriving DecidableEq, Repr

/-- The index that a call answers with. -/
def Handout.index (o : Handout) : Option ℕ := o.answer.map (·.1)

/-- The store of a record, with the answers as outputs. -/
def vectorStore : Machine Subscr VectorEvent Handout where
  step
    | x, .getTuple keySeq =>
      ((x.getTuple keySeq).1, [⟨x.authTriplets, keySeq, (x.getTuple keySeq).2⟩])
    | x, .gsup msg => (msg.record x, [])
    | x, .reset => (x.resetAuthTriplets, [])

/-- An answer is an entry that was unused, by its index and under the key sequence number of its
index; and there is none only where no entry is unused. -/
structure Handout.Right (o : Handout) : Prop where
  entry : ∀ i t, o.answer = some (i, t) →
    t.keySeq = i ∧ ∃ u, o.store[i]? = some u ∧ u.Unused ∧ t = u.taken
  null : o.answer = none ↔ ∀ t ∈ o.store, ¬ t.Unused

/-- The array has five entries, and a valid one has the key sequence number of its index. -/
structure WellKeyed (store : List GsmAuthTuple) : Prop where
  length : store.length = 5
  keySeq : ∀ i (t : GsmAuthTuple), store[i]? = some t → t.keySeq = gsmKeySeqInval ∨ t.keySeq = i

theorem wellKeyed_cleared : WellKeyed (List.replicate 5 .cleared) where
  length := List.length_replicate
  keySeq i t ht := by
    obtain rfl := List.eq_of_mem_replicate (List.mem_of_getElem? ht)
    exact .inl rfl

theorem wellKeyed_tripletsOf (vectors : List AuthVector) : WellKeyed (tripletsOf vectors) where
  length := by simp [tripletsOf]
  keySeq i t ht := by
    unfold tripletsOf at ht
    rw [List.getElem?_map] at ht
    obtain ⟨j, hj, rfl⟩ := Option.map_eq_some_iff.mp ht
    obtain rfl : i = j := by
      obtain ⟨hlt, rfl⟩ := List.getElem?_eq_some_iff.mp hj
      simp
    cases vectors[i]? with
    | none => exact .inl rfl
    | some vec => exact .inr rfl

theorem WellKeyed.modify_taken {store : List GsmAuthTuple} (h : WellKeyed store) (i : ℕ) :
    WellKeyed (store.modify i (·.taken)) where
  length := by rw [List.length_modify, h.length]
  keySeq j t ht := by
    rw [List.getElem?_modify] at ht
    obtain ⟨u, hu, rfl⟩ := Option.map_eq_some_iff.mp ht
    split
    · exact h.keySeq j u hu
    · exact h.keySeq j u hu

/-! ## One step -/

/-- A message that brings no vectors leaves the array or clears it. -/
theorem GsupMsg.record_authTriplets (msg : GsupMsg) (x : Subscr) :
    (msg.record x).authTriplets = x.authTriplets ∨
      (msg.record x).authTriplets = List.replicate 5 .cleared ∨
      ∃ vectors, msg = .authInfoResult vectors ∧ vectors ≠ [] ∧
        (msg.record x).authTriplets = tripletsOf vectors := by
  cases msg with
  | authInfoResult vectors =>
    by_cases hnil : vectors = []
    · exact .inl (if_pos hnil)
    · exact .inr (.inr ⟨vectors, rfl, hnil, if_neg hnil⟩)
  | authInfoError cause =>
    unfold GsupMsg.record
    dsimp only
    cases checkCause (gsupCause cause) with
    | eacces => exact .inr (.inl rfl)
    | ehostunreach => exact .inl rfl
    | einval => exact .inl rfl
  | updateLocationError cause =>
    unfold GsupMsg.record
    dsimp only
    cases checkCause (gsupCause cause) <;> exact .inl rfl
  | locationCancel withdraw => cases withdraw <;> exact .inl rfl
  | _ => exact .inl rfl

theorem wellKeyed_step (x : Subscr) (e : VectorEvent) (hx : WellKeyed x.authTriplets) :
    WellKeyed (vectorStore.step x e).1.authTriplets := by
  cases e with
  | getTuple keySeq =>
    change WellKeyed (x.getTuple keySeq).1.authTriplets
    unfold Subscr.getTuple
    cases nextTuple x.authTriplets keySeq with
    | none => exact hx
    | some i => exact hx.modify_taken i
  | gsup msg =>
    change WellKeyed (msg.record x).authTriplets
    rcases msg.record_authTriplets x with h | h | ⟨vectors, -, -, h⟩
    · rw [h]
      exact hx
    · rw [h]
      exact wellKeyed_cleared
    · rw [h]
      exact wellKeyed_tripletsOf vectors
  | reset => exact wellKeyed_cleared

/-- **One call.** What the answer is, and what it does to the array. -/
theorem Subscr.getTuple_cases (x : Subscr) (keySeq : ℕ) :
    (nextTuple x.authTriplets keySeq = none ∧ x.getTuple keySeq = (x, none)) ∨
      ∃ i t, nextTuple x.authTriplets keySeq = some i ∧ x.authTriplets[i]? = some t ∧ t.Unused ∧
        x.getTuple keySeq = ({ x with authTriplets := x.authTriplets.modify i (·.taken) },
          some (i, t.taken)) := by
  unfold Subscr.getTuple
  cases hnext : nextTuple x.authTriplets keySeq with
  | none => exact .inl ⟨rfl, rfl⟩
  | some i =>
    obtain ⟨t, ht, hunused⟩ := nextTuple_eq_some hnext
    refine .inr ⟨i, t, rfl, ht, hunused, ?_⟩
    simp only [ht, Option.map_some]

theorem right_step (x : Subscr) (e : VectorEvent) (hx : WellKeyed x.authTriplets) :
    ∀ o ∈ (vectorStore.step x e).2, o.Right := by
  cases e with
  | getTuple keySeq =>
    intro o ho
    obtain rfl := List.mem_singleton.mp ho
    rcases x.getTuple_cases keySeq with ⟨hnext, hget⟩ | ⟨i, t, hnext, ht, hunused, hget⟩
    · refine ⟨fun i t h ↦ ?_, ?_⟩
      · rw [hget] at h
        cases h
      · rw [hget]
        exact ⟨fun _ ↦ (nextTuple_eq_none hx.length).mp hnext, fun _ ↦ rfl⟩
    · refine ⟨fun j u h ↦ ?_, ?_⟩
      · rw [hget] at h
        obtain ⟨rfl, rfl⟩ := Prod.mk.inj (Option.some.inj h)
        exact ⟨(hx.keySeq i t ht).resolve_left hunused.1, t, ht, hunused, rfl⟩
      · rw [hget]
        refine ⟨fun h ↦ (Option.some_ne_none _ h).elim, fun hnone ↦ ?_⟩
        exact absurd hunused (hnone t (List.mem_of_getElem? ht))
  | gsup msg => exact fun o ho ↦ (List.not_mem_nil ho).elim
  | reset => exact fun o ho ↦ (List.not_mem_nil ho).elim

/-! ## Handing out -/

theorem not_unusedAt_cleared (i : ℕ) : ¬ UnusedAt (List.replicate 5 .cleared) i := by
  rintro ⟨t, ht, hunused⟩
  obtain rfl := List.eq_of_mem_replicate (List.mem_of_getElem? ht)
  exact GsmAuthTuple.not_unused_cleared hunused

theorem unusedAt_modify_taken {store : List GsmAuthTuple} {i j : ℕ}
    (h : UnusedAt (store.modify i (·.taken)) j) : i ≠ j ∧ UnusedAt store j := by
  obtain ⟨t, ht, hunused⟩ := h
  rw [List.getElem?_modify] at ht
  obtain ⟨u, hu, rfl⟩ := Option.map_eq_some_iff.mp ht
  by_cases hij : i = j
  · rw [if_pos hij] at hunused
    exact absurd hunused u.not_unused_taken
  · rw [if_neg hij] at hunused
    exact ⟨hij, u, hu, hunused⟩

/-- No step but a refill makes an entry unused. -/
theorem unusedAt_step (x : Subscr) (e : VectorEvent) (i : ℕ) (he : ¬ e.Refills)
    (h : UnusedAt (vectorStore.step x e).1.authTriplets i) : UnusedAt x.authTriplets i := by
  cases e with
  | getTuple keySeq =>
    change UnusedAt (x.getTuple keySeq).1.authTriplets i at h
    rcases x.getTuple_cases keySeq with ⟨-, hget⟩ | ⟨j, t, -, -, -, hget⟩
    · rw [hget] at h
      exact h
    · rw [hget] at h
      exact (unusedAt_modify_taken h).2
  | gsup msg =>
    change UnusedAt (msg.record x).authTriplets i at h
    rcases msg.record_authTriplets x with hsame | hcleared | ⟨vectors, rfl, hne, -⟩
    · exact hsame ▸ h
    · rw [hcleared] at h
      exact absurd h (not_unusedAt_cleared i)
    · exact absurd hne he
  | reset => exact absurd h (not_unusedAt_cleared i)

/-- What a step hands out was unused before it and is not after it. -/
theorem index_step (x : Subscr) (e : VectorEvent) :
    ((vectorStore.step x e).2.filterMap (·.index)).Nodup ∧
      ∀ i ∈ (vectorStore.step x e).2.filterMap (·.index), UnusedAt x.authTriplets i ∧
        ¬ UnusedAt (vectorStore.step x e).1.authTriplets i := by
  cases e with
  | getTuple keySeq =>
    change (([⟨_, _, (x.getTuple keySeq).2⟩] : List Handout).filterMap (·.index)).Nodup ∧
      ∀ i ∈ ([⟨_, _, (x.getTuple keySeq).2⟩] : List Handout).filterMap (·.index), _ ∧
        ¬ UnusedAt (x.getTuple keySeq).1.authTriplets i
    rcases x.getTuple_cases keySeq with ⟨-, hget⟩ | ⟨i, t, -, ht, hunused, hget⟩
    · rw [hget]
      simp [Handout.index]
    · rw [hget]
      refine ⟨by simp [Handout.index], fun j hj ↦ ?_⟩
      obtain rfl : j = i := by simpa [Handout.index] using hj
      exact ⟨⟨t, ht, hunused⟩, fun h ↦ (unusedAt_modify_taken h).1 rfl⟩
  | gsup msg => exact ⟨List.nodup_nil, fun i hi ↦ (List.not_mem_nil hi).elim⟩
  | reset => exact ⟨List.nodup_nil, fun i hi ↦ (List.not_mem_nil hi).elim⟩

/-! ## Runs of a record -/

/-- **Each vector is handed out once.** Whatever calls, messages and resets come upon a new record,
every answer is right, and in every part of the run that no refill falls into, no entry is handed
out twice. -/
theorem vectors_handed_out_once (sid : SubId) (imsi : Digits) (before part after : List VectorEvent)
    (hpart : ∀ e ∈ part, ¬ e.Refills) :
    (∀ o ∈ vectorStore.trace (.fresh sid imsi) (before ++ part ++ after), o.Right) ∧
      ((vectorStore.trace (vectorStore.run (.fresh sid imsi) before) part).filterMap
        (·.index)).Nodup := by
  have hrun : ∀ es, WellKeyed (vectorStore.run (.fresh sid imsi) es).authTriplets := fun es ↦
    Machine.invariant_run (fun _ _ ↦ True) (fun x ↦ WellKeyed x.authTriplets)
      (fun x e hx _ ↦ wellKeyed_step x e hx) wellKeyed_cleared
      (Machine.meets_of_forall (fun _ _ ↦ trivial) _ _)
  have hmeets : ∀ x, vectorStore.Meets (fun _ e ↦ ¬ e.Refills) x part := by
    clear hrun
    induction part with
    | nil => exact fun _ ↦ trivial
    | cons e part ih =>
      exact fun x ↦ ⟨hpart e List.mem_cons_self,
        ih (fun e he ↦ hpart e (List.mem_cons_of_mem _ he)) _⟩
  constructor
  · exact Machine.forall_mem_trace (fun _ _ ↦ True) (fun x ↦ WellKeyed x.authTriplets)
      (fun x e hx _ ↦ wellKeyed_step x e hx) (fun x e hx _ ↦ right_step x e hx) wellKeyed_cleared
      (Machine.meets_of_forall (fun _ _ ↦ trivial) _ _)
  · exact (Machine.nodup_filterMap_trace (fun _ e ↦ ¬ e.Refills) (fun _ ↦ True)
      (fun x i ↦ UnusedAt x.authTriplets i) (·.index) (fun _ _ _ _ ↦ trivial)
      (fun x e i _ he h ↦ unusedAt_step x e i he h) (fun x e _ _ ↦ index_step x e) trivial
      (hmeets _)).1

/-- Two refills with more and with fewer vectors than fit, one without any in between, and calls
that come past the end of the array. -/
theorem vectors_handed_out_once_twoRefills :
    let vec : AuthVector := ⟨true, false, [1, 2, 3, 4], []⟩
    let refill (n : ℕ) : VectorEvent := .gsup (.authInfoResult (List.replicate n vec))
    let x := vectorStore.run (.fresh 0 [1]) [refill 6, .getTuple 7, .getTuple 0]
    (vectorStore.trace x [.getTuple 4, refill 0, .getTuple 2, .getTuple 3, .getTuple 1]).filterMap
      (·.index) = [2, 3, 4] ∧ [2, 3, 4].Nodup := by
  intro vec refill x
  have hlist : (vectorStore.trace x [.getTuple 4, refill 0, .getTuple 2, .getTuple 3,
      .getTuple 1]).filterMap (·.index) = [2, 3, 4] := by decide
  refine ⟨hlist, ?_⟩
  rw [← hlist]
  exact (vectors_handed_out_once 0 [1] [refill 6, .getTuple 7, .getTuple 0]
    [.getTuple 4, refill 0, .getTuple 2, .getTuple 3, .getTuple 1] [refill 2]
    (by simp [refill, VectorEvent.Refills])).2

end OsmoSgsn.Gmm
