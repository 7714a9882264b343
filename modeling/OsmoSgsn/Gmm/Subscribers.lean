import OsmoSgsn.Gmm.Reached

/-!
# Subscribers and their contexts

A subscriber is known to the gateway by an IMSI, by the P-TMSIs that it was given and by the TLLIs
that are made from them. What a context is found by should be its own, and no other context's.

The hash tables find what the list of contexts has, and P-TMSIs are given to one context each,
without a condition. An IMSI may come to belong to two contexts by an identity response, and a
context may be found by a value that means that a field is not set.
-/

namespace OsmoSgsn.Gmm

variable {s : Sgsn}

/-- A context of `mm_list`, as it is. -/
def Sgsn.Lists (s : Sgsn) (id : CtxId) (mm : MmCtx) : Prop := id ∈ s.mmList ∧ s.ctxs id = some mm

theorem Sgsn.Lists.entry {id : CtxId} {mm : MmCtx} (h : s.Lists id mm) :
    s.view.entry id = some mm.entry := view_entry_of_some h.2

/-! ## Runs of an example -/

/-- A gateway that takes every mobile station and offers no ciphering. -/
def exampleConfig : SgsnConfig where
  authPolicy := .policyOpen
  requireAuthentication := false
  requireUpdateLocation := false
  imsiAcl := []
  geaEncryptionMask := 1
  dynamicLookup := false

/-- One bucket for all keys. -/
def exampleHashing : Hashing := ⟨fun _ ↦ 0, fun _ ↦ 0, fun _ ↦ 0⟩

/-- A gateway after some events. -/
def exampleNode (es : List (Event × Env)) : Node :=
  (node 8).run (.start exampleConfig exampleHashing) es

/-- A cell of a location area. -/
def exampleCell (rac : ℕ) : RaId := ⟨[], 1, rac⟩

/-- A message over Gb. -/
def exampleGb (tlli : BitVec 32) (rac : ℕ) (msg : UplinkMsg) : Event × Env :=
  (.gb tlli (exampleCell rac) false msg, {})

/-- An attach over Gb, and the random number that the P-TMSI is made from. -/
def exampleAttach (tlli : BitVec 32) (mi : MobileIdentity) (rand : BitVec 32) : Event × Env :=
  (.gb tlli (exampleCell 1) false (.gmm (.attachReq ⟨[], [], some mi, 0⟩)), { rand := [some rand] })

theorem reached_example {ok : Sgsn → Event → Prop} {es : List (Event × Env)}
    (hmeets : (node 8).Meets (fun n e ↦ ok n.sgsn e.1) (.start exampleConfig exampleHashing) es)
    (hfault : (exampleNode es).fault = none) : Reached ok (exampleNode es).sgsn := by
  refine ⟨8, exampleConfig, exampleHashing, es, hmeets, ?_⟩
  rw [← hfault]
  rfl

theorem reached_example_true {es : List (Event × Env)} (hfault : (exampleNode es).fault = none) :
    Reached (fun _ _ ↦ True) (exampleNode es).sgsn :=
  reached_example (Machine.meets_of_forall (fun _ _ ↦ trivial) _ es) hfault

theorem exists_lists (es : List (Event × Env)) (P : MmCtx → Bool) (id : CtxId)
    (h : id ∈ (exampleNode es).sgsn.mmList ∧ (exampleNode es).sgsn.ctxHas P id = true) :
    ∃ mm, (exampleNode es).sgsn.Lists id mm ∧ P mm = true :=
  ((Option.any_eq_true _ _).mp h.2).imp fun _ hmm ↦ ⟨⟨h.1, hmm.1⟩, hmm.2⟩

/-- A mobile station has sent an attach request with its IMSI. -/
def exampleOne : List (Event × Env) := [exampleAttach 0x80000001 (.imsi [1]) 1]

/-! ## The hash tables -/

/-- Nothing is promised. -/
def Promises.nothing : Promises := ⟨False, False, False, False, False, False, False⟩

instance loose_nothing : Loose .nothing := ⟨not_false, not_false⟩

theorem Uplink.keeps_nothing (s : Sgsn) (u : Uplink) : u.Keeps s .nothing :=
  ⟨False.elim, False.elim, False.elim, False.elim, False.elim, False.elim⟩

theorem Reached.nothing {ok : Sgsn → Event → Prop} (h : Reached ok s) :
    Kept .nothing s.view :=
  h.kept fun s _ _ u _ ↦ u.keeps_nothing s

/-- A context is in one of the tables. -/
def MmTables.Holds (t : MmTables) (id : CtxId) : Prop :=
  (∃ k, (k, id) ∈ t.byImsi) ∨ (∃ k, (k, id) ∈ t.byPtmsi) ∨ (∃ k, (k, id) ∈ t.byPtmsiOld) ∨
    (∃ k, (k, id) ∈ t.byTlli) ∨ ∃ k, (k, id) ∈ t.byTlliNew

theorem Indexed.mem_mmList_of_holds (h : Indexed s.view) {id : CtxId} (hid : s.tables.Holds id) :
    id ∈ s.mmList := by
  refine (h.listed.mem_iff id).mpr fun hnone ↦ ?_
  have hno {Key : Type} {f : Entry → Option Key} {t : HashTable Key CtxId}
      (ht : t.Agrees (keyOf s.view.entry f)) : ¬ ∃ k, (k, id) ∈ t := by
    rintro ⟨k, hk⟩
    have hkey := (ht k id).mp hk
    rw [keyOf, hnone] at hkey
    exact absurd hkey (by simp)
  rcases hid with hid | hid | hid | hid | hid
  · exact hno h.agreed.imsi hid
  · exact hno h.agreed.ptmsi hid
  · exact hno h.agreed.ptmsiOld hid
  · exact hno h.agreed.tlli hid
  · exact hno h.agreed.tlliNew hid

/-- **The tables agree with the list.** In every state that is reached, a lookup by an IMSI, a
P-TMSI or a TLLI finds a context of the list that has it, if there is one, and no other; and a
context is in a table only if it is in the list. -/
theorem lookups_find_listed (h : Reached (fun _ _ ↦ True) s) :
    (∀ imsi, imsi ≠ [] → s.Finds (fun mm ↦ mm.imsi = imsi) (sgsnMmCtxByImsi s imsi)) ∧
    (∀ t, s.Finds (fun mm ↦ (mm.pTmsi = t ∧ t ≠ 0 ∧ t ≠ gsmReservedTmsi) ∨
      (mm.pTmsiOld = t ∧ t ≠ 0)) (sgsnMmCtxByPtmsi s t)) ∧
    (∀ tlli ra, tlli ≠ 0 → tlli ≠ tlliUnassigned →
      s.Finds (fun mm ↦ mm.ra = ra ∧ (mm.tlli = tlli ∨ mm.tlliNew = tlli))
        (sgsnMmCtxByTlli s tlli ra)) ∧
    ∀ id, s.tables.Holds id → id ∈ s.mmList := by
  have hidx := h.nothing.indexed
  refine ⟨fun imsi hi ↦ finds_imsi hidx hi, fun t ↦ finds_ptmsi hidx t, fun tlli ra h0 h1 ↦ ?_,
    fun id hid ↦ hidx.mem_mmList_of_holds hid⟩
  exact finds_tlli hidx h0 h1 ra

/-- After an attach the context is found by its IMSI. -/
theorem lookups_find_listed_attached :
    (exampleNode exampleOne).sgsn.Finds (fun mm ↦ mm.imsi = [1])
      (sgsnMmCtxByImsi (exampleNode exampleOne).sgsn [1]) ∧
    sgsnMmCtxByImsi (exampleNode exampleOne).sgsn [1] = some 0 :=
  ⟨(lookups_find_listed (reached_example_true (by decide +kernel))).1 [1] (by decide),
    by decide +kernel⟩

/-! ## P-TMSIs -/

/-- **P-TMSIs identify one subscriber.** In every state that is reached, no P-TMSI of a context, be
it the old one, is one of another context. -/
theorem ptmsis_disjoint (h : Reached (fun _ _ ↦ True) s) {id id' : CtxId} {mm mm' : MmCtx}
    (hmm : s.Lists id mm) (hmm' : s.Lists id' mm') (hne : id ≠ id') :
    Disjoint {t | mm.entry.Bears t} {t | mm'.entry.Bears t} := by
  refine Set.disjoint_left.mpr fun t ht ht' ↦ hne ?_
  exact h.nothing.ptmsi id _ id' _ t hmm.entry hmm'.entry ht ht'

/-- Two mobile stations have sent attach requests with their IMSIs. -/
def exampleTwo : List (Event × Env) :=
  [exampleAttach 0x80000001 (.imsi [1]) 1, exampleAttach 0x80000002 (.imsi [2]) 2]

/-- The contexts of both have a P-TMSI, and not the same. -/
theorem ptmsis_disjoint_exampleTwo : ∃ mm mm', (exampleNode exampleTwo).sgsn.Lists 0 mm ∧
    (exampleNode exampleTwo).sgsn.Lists 1 mm' ∧ mm.entry.Bears 0xc0000001 ∧
      Disjoint {t | mm.entry.Bears t} {t | mm'.entry.Bears t} := by
  have hreached : Reached (fun _ _ ↦ True) (exampleNode exampleTwo).sgsn :=
    reached_example_true (by decide +kernel)
  obtain ⟨mm, hmm, hp⟩ := exists_lists exampleTwo (·.pTmsi = 0xc0000001) 0
    (by decide +kernel)
  obtain ⟨mm', hmm', -⟩ := exists_lists exampleTwo (fun _ ↦ true) 1
    (by decide +kernel)
  exact ⟨mm, mm', hmm, hmm', ⟨by decide, by decide, .inl (of_decide_eq_true hp)⟩,
    ptmsis_disjoint hreached hmm hmm' (by decide)⟩

/-! ## IMSIs -/

/-- No two contexts of the list have the same IMSI. -/
def Sgsn.ImsisUnique (s : Sgsn) : Prop :=
  ∀ id id' mm mm', s.Lists id mm → s.Lists id' mm' → mm.imsi = mm'.imsi → mm.imsi ≠ [] → id = id'

/-- An event is a message with a property. -/
def Event.Sends (P : Sgsn → Uplink → Prop) (s : Sgsn) (e : Event) : Prop :=
  ∃ u, e.uplink s = some u ∧ P s u

instance loose_imsi : Loose { Promises.nothing with imsi := True } := ⟨not_false, not_false⟩

/-- **One context per subscriber**, in every state that is reached without an identity response that
gives a context that has an IMSI the one of another context. -/
theorem imsisUnique_of_reached (h : Reached (fun s e ↦ ¬ e.Sends Uplink.MergesImsi s) s) :
    s.ImsisUnique := by
  have hkept : Kept { Promises.nothing with imsi := True } s.view := by
    refine h.kept fun s e hok u hu ↦ ?_
    exact ⟨fun _ hbad ↦ hok ⟨u, hu, hbad⟩, False.elim, False.elim, False.elim, False.elim,
      False.elim⟩
  intro id id' mm mm' hmm hmm' heq hne
  exact hkept.imsi trivial id _ id' _ hmm.entry hmm'.entry heq hne

theorem imsisUnique_exampleTwo : (exampleNode exampleTwo).sgsn.ImsisUnique := by
  refine imsisUnique_of_reached (reached_example ⟨?_, ?_, trivial⟩ (by decide +kernel))
  · rintro ⟨u, hu, hbad⟩
    obtain rfl := Option.some.inj hu
    exact hbad
  · rintro ⟨u, hu, hbad⟩
    obtain rfl := Option.some.inj hu
    exact hbad

/-- The second mobile station answers a request for its IMEI with the IMSI of the first. -/
def exampleImsiTaken : List (Event × Env) :=
  exampleTwo ++ [exampleGb 0x80000002 1 (.gmm (.idResp (some (.imsi [1]))))]

-- then both contexts have it
example : (exampleNode exampleImsiTaken).sgsn.mmList = [1, 0] ∧
    ∀ id ∈ [0, 1], ((exampleNode exampleImsiTaken).sgsn.ctxs id).map (·.imsi) = some [1] := by
  decide +kernel

/-! ## Values that mean that a field is not set -/

/-- A mobile station was given a P-TMSI, or has come with it, and its context still has it. -/
structure MmCtx.Knows (mm : MmCtx) (t : BitVec 32) : Prop where
  bears : mm.entry.Bears t
  history : t ∈ mm.ptmsiHistory

instance loose_reserved : Loose { Promises.nothing with reserved := True } := ⟨not_false, not_false⟩

theorem Reached.unreserved
    (h : Reached (fun s e ↦ ¬ e.Sends (fun s u ↦ u.MakesPtmsi s gsmReservedTmsi) s) s) :
    Kept { Promises.nothing with reserved := True } s.view := by
  refine h.kept fun s e hok u hu ↦ ?_
  exact ⟨False.elim, fun _ hbad ↦ hok ⟨u, hu, hbad⟩, False.elim, False.elim, False.elim, False.elim⟩

theorem knows_of_kept {id : CtxId} {mm : MmCtx} {t : BitVec 32}
    (h : Kept { Promises.nothing with reserved := True } s.view) (hmm : s.ctxs id = some mm)
    (h0 : t ≠ 0) (ht : mm.pTmsi = t ∨ mm.pTmsiOld = t) : mm.Knows t := by
  have hpresented := h.presented id _ (view_entry_of_some hmm)
  have hhistory : t ∈ mm.ptmsiHistory := by
    rcases ht with rfl | rfl
    · exact hpresented.pTmsi h0
    · exact hpresented.pTmsiOld h0
  refine ⟨⟨h0, ?_, ht⟩, hhistory⟩
  rintro rfl
  exact h.reserved trivial id _ (view_entry_of_some hmm) hhistory

-- the old P-TMSI is not set, and a TLLI that is made from zero finds the context
example :
    sgsnMmCtxByTlliAndPtmsi (exampleNode exampleOne).sgsn 0xc0000000 (exampleCell 1) = some 0 := by
  decide +kernel

-- after an attach with the reserved value that value finds the context
example : sgsnMmCtxByPtmsi (exampleNode [exampleAttach 0x80000001 (.tmsi gsmReservedTmsi) 5]).sgsn
    gsmReservedTmsi = some 0 := by
  decide +kernel

end OsmoSgsn.Gmm
