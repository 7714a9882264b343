import OsmoSgsn.Gmm.Requests

/-!
# Messages and the rules

A message from a mobile station may give a context a pointer, an identity or a registration. What
must be so for the rules to be followed then is said here for each message.
-/

namespace OsmoSgsn.Gmm

open EStateM

variable {p : Promises} {α β : Type} {s s' : Sgsn} {r r' : Registry} {id : CtxId} {e : Entry}
  {ue : UeId} {l : LlmeId} {ctx : Option CtxId} {radio : Radio} {rai cell : RaId}
  {tlli : BitVec 32}

/-! ## What a message needs -/

/-- A context that leaves Iu has no connection that it does not give up. -/
def Registry.LeavesIu (r : Registry) (id : CtxId) : Prop :=
  ∀ e, r.entry id = some e → e.ranType = .utranIu → e.pmm = .connected ∨ e.ueCtx = none

/-- A context may be bound to where a message has come from. -/
def Radio.Ready (p : Promises) (r : Registry) (id : CtxId) : Radio → Prop
  | .gb _ _ l => (p.llme → r.LlmeFor id l) ∧ (p.ue → r.LeavesIu id)
  | .iu ue => p.ue → r.UeFor id ue

/-- No context is bound to where a message has come from. -/
def Radio.Free (p : Promises) (r : Registry) : Radio → Prop
  | .gb _ _ l => p.llme → ∀ id, r.LlmeFor id l
  | .iu ue => p.ue → ∀ id, r.UeFor id ue

theorem Radio.Ready.beside (h : radio.Ready p r id) (hb : r.Beside id r')
    (he : r'.LeavesIu id) : radio.Ready p r' id := by
  cases radio with
  | gb tlli cell l => exact ⟨fun hp ↦ (h.1 hp).beside hb, fun _ ↦ he⟩
  | iu ue => exact fun hp ↦ (h hp).beside hb

theorem Radio.Free.ready (h : radio.Free p r) (hb : r.Beside id r')
    (he : ∀ e, r'.entry id = some e → e.ranType = radio.ranType) : radio.Ready p r' id := by
  cases radio with
  | gb tlli cell l =>
    refine ⟨fun hp ↦ (h hp id).beside hb, fun _ e hid hiu ↦ ?_⟩
    exact absurd (hiu.symm.trans (he e hid)) (by simp [Radio.ranType])
  | iu ue => exact fun hp ↦ (h hp id).beside hb

/-- An LLC entity is given up that nobody points to. -/
theorem steps_dropLlme (h : p.llme → r.LlmeUnused l) : Steps p r (r.dropLlme (some l)) := by
  rcases Registry.dropped_eq r.llmes (some l) with heq | ⟨l', hl, heq⟩
  · simp only [Registry.dropLlme, heq]
    exact .refl
  · obtain rfl := Option.some.inj hl
    simp only [Registry.dropLlme, heq]
    exact .single (.freeLlme l h)

theorem walks_gprsLlgmmUnassign (h : p.llme → s.view.LlmeUnused l) :
    Walks p (gprsLlgmmUnassign l) Any s :=
  .of_moves moves_gprsLlgmmUnassign fun _ ↦ steps_dropLlme h

theorem Radio.Free.unused (h : (Radio.gb tlli cell l).Free p r) (hp : p.llme) : r.LlmeUnused l :=
  fun id e he ↦ (h hp (id + 1)).2 id e he (Nat.ne_of_lt (Nat.lt_succ_self id))

theorem Sent.beside (h : Sent r r') (id : CtxId) : r.Beside id r' := by
  induction h with
  | refl => exact .refl id r
  | tail _ hlast ih =>
    obtain ⟨tlli, rfl⟩ := hlast
    exact ih.trans ⟨fun _ _ ↦ rfl, fun _ hl ↦ Registry.mem_liveLlmes_addLlme.mpr (.inr hl), rfl⟩

theorem Radio.Free.sent (h : radio.Free p r) (hs : Sent r r') : radio.Free p r' := by
  cases radio with
  | gb tlli cell l => exact fun hp id ↦ (h hp id).beside (hs.beside id)
  | iu ue => exact fun hp id ↦ (h hp id).beside (hs.beside id)

theorem walks_ratChange_toGb (he : s.view.entry id = some e) (hiu : e.ranType = .utranIu)
    (hl : p.llme → s.view.LlmeFor id l) (hu : p.ue → e.pmm = .connected ∨ e.ueCtx = none) :
    Walks p (gmmFsmRatChange id .geranGb (some l)) (fun _ s' ↦ s.view.Beside id s'.view) s := by
  refine .last (.moves (moves_gmmFsmRatChange_toGb he hiu)
    (fun _ ↦ .single (.toGb he hiu l e.mmGb hl hu)) fun _ s₁ hs₁ ↦ .pure ?_)
  rw [hs₁]
  exact .set ..

section Loose

variable [Loose p]

/-! ## Attach -/

omit [Loose p] in
theorem walks_attReqRejected {cause : ℕ} (h : ctx = none → radio.Free p s.view) :
    Walks p (attReqRejected ctx radio cause) Any s := by
  refine .sends sends_sendOldmsg fun _ s₁ hs₁ ↦ ?_
  cases ctx with
  | some id => exact Follows.walks s₁
  | none =>
    cases radio with
    | gb tlli cell l => exact walks_gprsLlgmmUnassign ((h rfl).sent hs₁).unused
    | iu ue => exact .pure trivial

theorem walks_ratChange_toIu {o : Option LlmeId} (he : s.view.entry id = some e)
    (hgb : e.ranType = .geranGb) : Walks p (gmmFsmRatChange id .utranIu o) (fun _ s' ↦
      (∃ e', s'.view.entry id = some e' ∧ e'.ranType = .utranIu) ∧
        ∀ ue, s.view.UeFor id ue → s'.view.UeFor id ue) s := by
  refine .last (.moves (moves_gmmFsmRatChange_toIu he hgb)
    (fun _ ↦ .single (.toIu he hgb fun hp ↦ absurd hp Loose.ran)) fun _ s₁ hs₁ ↦ .pure ?_)
  rw [hs₁]
  split
  · exact ⟨⟨_, Registry.set_entry_self .., rfl⟩, fun ue h ↦ h.beside (.set ..)⟩
  · refine ⟨⟨_, Registry.set_entry_self s.view .., rfl⟩, fun ue h ↦ ⟨h.1, fun j x hx hj ↦ ?_⟩⟩
    exact h.2 j x (by simpa [Registry.dropLlme, Registry.set, hj] using hx) hj

omit [Loose p] in
/-- A context takes the connection and the routing area of a message. -/
theorem walks_takeUe {f : MmCtx → MmCtx}
    (hf : ∀ mm, ∃ ra, (f mm).entry = { mm.entry with ueCtx := some ue, ra := ra })
    (hu : ∀ e, s.view.entry id = some e → p.ue → e.ranType = .utranIu ∧ s.view.UeFor id ue) :
    Walks p (modMm id f) Any s := by
  refine .last (.goes goes_modMm fun _ s' h ↦ ?_)
  obtain ⟨mm, hmm, rfl⟩ := h
  obtain ⟨ra, hra⟩ := hf mm
  have he := view_entry_of_some hmm
  refine ⟨fun _ ↦ ?_, .pure trivial⟩
  have hplace := Step.place (p := p) (Registry.set_entry_self s.view id
    { mm.entry with ueCtx := some ue }) ra
  rw [Registry.set_set] at hplace
  rw [view_setCtx, hra]
  exact (Relation.ReflTransGen.single (.takeUe he ue (hu _ he))).tail hplace

/-- The context is bound to where the request has come from. -/
theorem walks_attReqBind {req : AttachRequest} (h : radio.Ready p s.view id) :
    Walks p (attReqBind id radio rai req) Any s := by
  unfold attReqBind
  refine .getMm fun mm hmm ↦ ?_
  have he := view_entry_of_some hmm
  cases radio with
  | gb tlli cell l =>
    obtain ⟨hl, hu⟩ := h
    refine .bind (Q := fun _ s' ↦ s.view.Beside id s'.view) ?_ fun _ s₁ hs₁ ↦ ?_
    · split
      · rename_i hne
        have hiu : mm.ranType = .utranIu := by
          cases hr : mm.ranType with
          | geranGb => exact absurd hr hne
          | utranIu => rfl
        exact walks_ratChange_toGb he hiu hl fun hp ↦ hu hp _ he hiu
      · exact .pure (.refl ..)
    simp only [bind_assoc]
    refine .rekey (g := fun t mm ↦ t.rehashTlli id mm.tlli mm.tlliNew)
      (fun mm hmm ↦ .tlli (view_entry_of_some hmm) tlli mm.tlliNew) fun mm₁ s₂ hmm₁ hs₂ ↦ ?_
    have hb : s.view.Beside id s₂.view := by
      rw [hs₂]
      exact hs₁.trans ((Registry.Beside.set s₁.view id _).trans
        ⟨fun _ _ ↦ rfl, fun _ h ↦ h, rfl⟩)
    refine .modMmStep (fun mm₂ hmm₂ _ ↦ ?_) fun mm₂ hmm₂ ↦ .last ?_
    · exact .takeLlme (view_entry_of_some hmm₂) l (fun hp ↦ (hl hp).beside hb)
        fun hp ↦ absurd hp Loose.ran
    · exact .modMmStep (fun mm₃ hmm₃ _ ↦ .place (view_entry_of_some hmm₃) rai)
        fun _ _ ↦ .pure trivial
  | iu ue =>
    refine .bind (Q := fun _ s' ↦ (∃ e, s'.view.entry id = some e ∧ e.ranType = .utranIu) ∧
      (p.ue → s'.view.UeFor id ue)) ?_ fun _ s₁ hs₁ ↦ ?_
    · split
      · rename_i hne
        have hgb : mm.ranType = .geranGb := by
          cases hr : mm.ranType with
          | geranGb => rfl
          | utranIu => exact absurd hr hne
        exact (walks_ratChange_toIu he hgb).mono fun _ s₁ hs₁ ↦ ⟨hs₁.1, fun hp ↦ hs₁.2 ue (h hp)⟩
      · rename_i heq
        exact .pure ⟨⟨_, he, not_not.mp heq⟩, h⟩
    obtain ⟨⟨e₁, he₁, hiu⟩, hu⟩ := hs₁
    refine walks_takeUe (fun mm ↦ ⟨rai, rfl⟩) fun e he hp ↦ ?_
    obtain rfl := Option.some.inj (he₁.symm.trans he)
    exact ⟨hiu, hu hp⟩

/-- A request that is carried out for a context. -/
theorem walks_attReqProceed {req : AttachRequest} (h : radio.Ready p s.view id) :
    Walks p (attReqProceed id radio rai req) Any s := by
  have hrejected (s : Sgsn) : Walks p (attReqRejected (some id) radio 111) Any s :=
    walks_attReqRejected fun hnone ↦ absurd hnone (by simp)
  unfold attReqProceed
  refine (walks_attReqBind h).then fun _ s₁ ↦ .follows fun mm s₂ ↦ .follows fun s s₃ ↦ ?_
  extract_lets cfg
  split
  · exact hrejected s₃
  · exact Follows.walks s₃

omit [Loose p] in
theorem view_addCtx (s : Sgsn) (ranType : SgsnRanType) (ra : RaId) (mm : MmCtx) :
    (s.addCtx mm).view = (s.view.alloc ranType ra).set s.nextCtx mm.entry := by
  simp only [Sgsn.view, Sgsn.addCtx, Registry.alloc, Registry.set, Function.update_idem]
  congr 1
  funext j
  by_cases hj : j = s.nextCtx
  · subst hj
    simp
  · simp [hj]

/-- A context that was just made. -/
structure Made (ranType : SgsnRanType) (r r' : Registry) (id : CtxId) : Prop where
  beside : r.Beside id r'
  ranType : ∀ e, r'.entry id = some e → e.ranType = ranType
  pTmsiOld : ∀ e, r'.entry id = some e → e.pTmsiOld = 0

omit [Loose p] in
theorem Made.of_set {ranType : SgsnRanType} {ra : RaId} (tables : MmTables)
    (hr : e.ranType = ranType) (hold : e.pTmsiOld = 0) :
    Made ranType r { (r.alloc ranType ra).set r.nextCtx e with tables := tables } r.nextCtx := by
  have hentry : ∀ x, ({ (r.alloc ranType ra).set r.nextCtx e with tables := tables } :
      Registry).entry r.nextCtx = some x → x = e := by
    intro x hx
    simpa [Registry.set, eq_comm] using hx
  refine ⟨⟨fun j hj ↦ ?_, fun _ h ↦ h, rfl⟩, fun x hx ↦ ?_, fun x hx ↦ ?_⟩
  · simp [Registry.set, Registry.alloc, hj]
  · rw [hentry x hx, hr]
  · rw [hentry x hx, hold]

omit [Loose p] in
theorem walks_sgsnMmCtxAllocGb : Walks p (sgsnMmCtxAllocGb tlli rai)
    (fun id s' ↦ Made .geranGb s.view s'.view id) s := by
  intro _
  set mm : MmCtx := { MmCtx.fresh .geranGb rai with tlli := tlli }
  have hmm : (s.addCtx mm).ctxs s.nextCtx = some mm := Function.update_self ..
  have hview := view_addCtx s .geranGb rai mm
  unfold sgsnMmCtxAllocGb sgsnMmCtxRehashTlli
  rw [wp_bind, wp_get, wp_bind, wp_modify, wp_bind, wp_bind, wp_getMm hmm, wp_modify, wp_pure]
  have hnew : (s.view.alloc .geranGb rai).entry s.nextCtx =
      some (MmCtx.fresh .geranGb rai).entry := Function.update_self ..
  have halloc := Step.alloc (p := p) (r := s.view) .geranGb rai
  have htlli := Step.tlli (p := p) hnew mm.tlli mm.tlliNew
  have hdone : ∀ s₂ : Sgsn, s₂.view = { (s.addCtx mm).view with
      tables := s.tables.rehashTlli s.nextCtx mm.tlli mm.tlliNew } →
      Steps p s.view s₂.view ∧ Made .geranGb s.view s₂.view s.nextCtx := by
    intro s₂ hs₂
    rw [hs₂, hview]
    exact ⟨(Relation.ReflTransGen.single halloc).tail htlli, .of_set _ rfl rfl⟩
  exact hdone _ rfl

omit [Loose p] in
theorem walks_sgsnMmCtxAllocIu (h : p.ue → ∀ id, s.view.UeFor id ue) :
    Walks p (sgsnMmCtxAllocIu ue) (fun id s' ↦ Made .utranIu s.view s'.view id) s := by
  unfold sgsnMmCtxAllocIu
  refine .getUe fun conn hconn ↦ .get ?_
  set mm : MmCtx := { MmCtx.fresh .utranIu conn.ra with ueCtx := some ue, newKey := true }
  have hview := view_addCtx s .utranIu conn.ra mm
  have hnew : (s.view.alloc .utranIu conn.ra).entry s.nextCtx =
      some (MmCtx.fresh .utranIu conn.ra).entry := Function.update_self ..
  have hmade : Made .utranIu s.view { (s.view.alloc .utranIu conn.ra).set s.view.nextCtx mm.entry
      with tables := s.tables } s.view.nextCtx := .of_set s.tables rfl rfl
  have halloc := Step.alloc (p := p) (r := s.view) .utranIu conn.ra
  have htake := Step.takeUe (p := p) hnew ue fun hp ↦ ⟨rfl, ?_⟩
  · refine .modify (fun _ ↦ ?_) (.pure ?_)
    · rw [hview]
      exact (Relation.ReflTransGen.single halloc).tail htake
    · rw [hview]
      exact hmade
  · refine (h hp s.nextCtx).beside ⟨fun j hj ↦ ?_, fun _ h ↦ h, rfl⟩
    exact Function.update_of_ne hj ..

/-- The context that an attach request is for: the one that the message belongs to, or one that has
the identity. None is for an identity of the wrong kind. -/
def attReqFound (s : Sgsn) (ctx : Option CtxId) : MobileIdentity → Option CtxId
  | .imsi imsi => ctx <|> sgsnMmCtxByImsi s imsi
  | .tmsi tmsi => ctx <|> sgsnMmCtxByPtmsi s tmsi
  | _ => none

/-- An attach request is refused before anything is done about its identity. -/
def AttachRequest.Malformed (req : AttachRequest) : Prop :=
  8 < req.msNetworkCapa.length ∨ req.mi = none ∨ 50 < req.msRaAccCapLen

instance (req : AttachRequest) : Decidable req.Malformed :=
  inferInstanceAs (Decidable (_ ∨ _ ∨ _))

/-- The context that an attach request is carried out for, if there is one already. -/
def attReqFor (s : Sgsn) (ctx : Option CtxId) (req : AttachRequest) : Option CtxId :=
  if req.Malformed then none else req.mi.bind (attReqFound s ctx)

omit [Loose p] in
theorem Made.ready {ranType : SgsnRanType} (h : Made ranType r r' id) (hr : ranType = radio.ranType)
    (hfree : radio.Free p r) {tables : MmTables} {e' : Entry} (he : r'.entry id = some e)
    (he' : e'.ranType = e.ranType) : radio.Ready p { r'.set id e' with tables := tables } id := by
  refine hfree.ready (h.beside.trans ((Registry.Beside.set r' id e').trans
    ⟨fun _ _ ↦ rfl, fun _ h ↦ h, rfl⟩)) fun x hx ↦ ?_
  obtain rfl : e' = x := by simpa [Registry.set] using hx
  rw [he', h.ranType e he, hr]

omit [Loose p] in
theorem walks_setImsi {ranType : SgsnRanType} {m : SgsnM CtxId} {imsi : Digits}
    (hm : Walks p m (fun id s' ↦ Made ranType s.view s'.view id) s)
    (hr : ranType = radio.ranType) (hfree : radio.Free p s.view)
    (hfor : p.imsi → imsi ≠ [] → ∀ id, s.view.ImsiFor id imsi) :
    Walks p (do
      let id ← m
      modMm id fun mm ↦ { mm with imsi := imsi }
      sgsnMmCtxRehashImsi id
      pure (some id)) (fun o s' ↦ ∃ id, o = some id ∧ radio.Ready p s'.view id) s := by
  refine .bind hm fun id s₁ hs₁ ↦ ?_
  refine .rekey (g := fun t mm ↦ t.rehashImsi id mm.imsi) (fun mm hmm ↦ ?_)
    fun mm s₂ hmm hs₂ ↦ .pure ⟨id, rfl, ?_⟩
  · refine .imsi (view_entry_of_some hmm) imsi fun hp hi j e he hj ↦ ?_
    exact hfor hp hi id j e ((hs₁.beside.entry j hj) ▸ he) hj
  · rw [hs₂]
    exact hs₁.ready hr hfree (view_entry_of_some hmm) rfl

omit [Loose p] in
theorem walks_setPtmsi {ranType : SgsnRanType} {m : SgsnM CtxId} {tmsi : BitVec 32}
    (hm : Walks p m (fun id s' ↦ Made ranType s.view s'.view id) s)
    (hr : ranType = radio.ranType) (hfree : radio.Free p s.view)
    (hfor : tmsi ≠ 0 → tmsi ≠ gsmReservedTmsi → ∀ id, s.view.PtmsiFor id tmsi)
    (hres : p.reserved → tmsi ≠ gsmReservedTmsi)
    (hllme : p.llme → localTlli tmsi ≠ tlliUnassigned) :
    Walks p (do
      let id ← m
      modMm id fun mm ↦ { mm with pTmsi := tmsi, ptmsiHistory := tmsi :: mm.ptmsiHistory }
      sgsnMmCtxRehashPtmsi id
      pure (some id)) (fun o s' ↦ ∃ id, o = some id ∧ radio.Ready p s'.view id) s := by
  refine .bind hm fun id s₁ hs₁ ↦ ?_
  refine .rekey (g := fun t mm ↦ t.rehashPtmsi id mm.pTmsi mm.pTmsiOld) (fun mm hmm ↦ ?_)
    fun mm s₂ hmm hs₂ ↦ .pure ⟨id, rfl, ?_⟩
  · have he := view_entry_of_some hmm
    have hold : mm.pTmsiOld = 0 := hs₁.pTmsiOld _ he
    have htake := Step.takePtmsi (p := p) he tmsi hold (fun h0 h1 j e he' hj ↦ ?_) hres hllme
    · rw [← hold] at htake
      exact htake
    · exact hfor h0 h1 id j e ((hs₁.beside.entry j hj) ▸ he') hj
  · rw [hs₂]
    exact hs₁.ready hr hfree (view_entry_of_some hmm) rfl

omit [Loose p] in
theorem orElse_eq_none {o o' : Option CtxId} : (o <|> o') = none ↔ o = none ∧ o' = none := by
  simp

omit [Loose p] in
theorem walks_attReqContext {mi : MobileIdentity}
    (hfound : ∀ id, attReqFound s ctx mi = some id → radio.Ready p s.view id)
    (hnone : attReqFound s ctx mi = none → ctx = none → radio.Free p s.view)
    (hnew : ∀ tmsi, mi = .tmsi tmsi → attReqFound s ctx mi = none →
      (p.reserved → tmsi ≠ gsmReservedTmsi) ∧ (p.llme → localTlli tmsi ≠ tlliUnassigned)) :
    Walks p (attReqContext ctx radio rai mi) (fun o s' ↦
      (∃ id, o = some id ∧ radio.Ready p s'.view id) ∨
        (o = none ∧ s' = s ∧ attReqFound s ctx mi = none)) s := by
  refine .kept fun hkept ↦ ?_
  cases mi with
  | imsi imsi =>
    refine .get ?_
    cases hctx : ctx <|> sgsnMmCtxByImsi s imsi with
    | some id => exact .pure (.inl ⟨id, rfl, hfound id hctx⟩)
    | none =>
      have hfree := hnone hctx (orElse_eq_none.mp hctx).1
      have hfor (hi : imsi ≠ []) : ∀ id, s.view.ImsiFor id imsi :=
        imsiFor_of_none hkept.indexed hi (orElse_eq_none.mp hctx).2
      refine Walks.mono ?_ fun o s' h ↦ .inl h
      cases radio with
      | gb tlli cell l => exact walks_setImsi walks_sgsnMmCtxAllocGb rfl hfree fun _ ↦ hfor
      | iu ue => exact walks_setImsi (walks_sgsnMmCtxAllocIu hfree) rfl hfree fun _ ↦ hfor
  | tmsi tmsi =>
    refine .get ?_
    cases hctx : ctx <|> sgsnMmCtxByPtmsi s tmsi with
    | some id => exact .pure (.inl ⟨id, rfl, hfound id hctx⟩)
    | none =>
      have hfree := hnone hctx (orElse_eq_none.mp hctx).1
      obtain ⟨hres, hllme⟩ := hnew tmsi rfl hctx
      have hfor (h0 : tmsi ≠ 0) (h1 : tmsi ≠ gsmReservedTmsi) : ∀ id, s.view.PtmsiFor id tmsi :=
        ptmsiFor_of_none hkept.indexed h0 h1 (orElse_eq_none.mp hctx).2
      refine Walks.mono ?_ fun o s' h ↦ .inl h
      cases radio with
      | gb tlli cell l =>
        exact walks_setPtmsi walks_sgsnMmCtxAllocGb rfl hfree hfor hres hllme
      | iu ue =>
        exact walks_setPtmsi (walks_sgsnMmCtxAllocIu hfree) rfl hfree hfor hres hllme
  | imei _ | imeisv _ => exact .pure (.inr ⟨rfl, rfl, rfl⟩)

/-- What an attach request needs: the context that it is for may be bound to where it has come from,
and if there is none, nobody else is. -/
structure AttachRequest.Fits (p : Promises) (s : Sgsn) (ctx : Option CtxId) (radio : Radio)
    (req : AttachRequest) : Prop where
  found : ∀ id, attReqFor s ctx req = some id → radio.Ready p s.view id
  unknown : attReqFor s ctx req = none → ctx = none → radio.Free p s.view
  new : ∀ tmsi, ¬ req.Malformed → req.mi = some (.tmsi tmsi) → attReqFor s ctx req = none →
    (p.reserved → tmsi ≠ gsmReservedTmsi) ∧ (p.llme → localTlli tmsi ≠ tlliUnassigned)

theorem walks_gsm48RxGmmAttReq {req : AttachRequest} (h : req.Fits p s ctx radio) :
    Walks p (gsm48RxGmmAttReq ctx radio req) Any s := by
  have hrai : Walks p (match radio with
      | .gb _ cell _ => pure cell
      | .iu ue => do
        let conn ← getUe ue
        pure conn.ra) (fun _ s' ↦ s' = s) s := by
    cases radio with
    | gb tlli cell l => exact .pure rfl
    | iu ue => exact .getUe fun _ _ ↦ .pure rfl
  have hmalformed (hbad : req.Malformed) (cause : ℕ) :
      Walks p (attReqRejected ctx radio cause) Any s :=
    walks_attReqRejected (h.unknown (if_pos hbad))
  unfold gsm48RxGmmAttReq
  refine .bind hrai fun rai s₁ hs₁ ↦ ?_
  subst hs₁
  split
  · rename_i hlong
    exact hmalformed (.inl hlong) 95
  · rename_i hlong
    split
    · rename_i hmi
      exact hmalformed (.inr (.inl hmi)) 95
    · rename_i mi hmi
      split
      · rename_i hra
        exact hmalformed (.inr (.inr hra)) 95
      · rename_i hra
        have hwell : ¬ req.Malformed := by
          rintro (hbad | hbad | hbad)
          · exact hlong hbad
          · exact absurd (hmi.symm.trans hbad) (by simp)
          · exact hra hbad
        have hfor : attReqFor s₁ ctx req = attReqFound s₁ ctx mi := by
          rw [attReqFor, if_neg hwell, hmi, Option.bind_some]
        refine .bind (walks_attReqContext (fun id hid ↦ h.found id (hfor.trans hid))
          (fun hnone ↦ h.unknown (hfor.trans hnone)) ?_) ?_
        · rintro tmsi rfl hnone
          exact h.new tmsi hwell hmi (hfor.trans hnone)
        · rintro o s₂ (⟨id, rfl, hready⟩ | ⟨rfl, rfl, hnone⟩)
          · exact walks_attReqProceed hready
          · exact walks_attReqRejected (h.unknown (hfor.trans hnone))

/-! ## Routing area update -/

/-- Nobody points to the LLC entity of a message. -/
def Radio.Unused (p : Promises) (r : Registry) : Radio → Prop
  | .gb _ _ l => p.llme → r.LlmeUnused l
  | .iu _ => True

/-- A context may come to a radio access, if it is on another one. -/
def Radio.Takes (p : Promises) (r : Registry) (id : CtxId) : Radio → Prop
  | .gb _ _ l => ∀ e, r.entry id = some e → e.ranType = .utranIu →
    (p.llme → r.LlmeFor id l) ∧ (p.ue → e.pmm = .connected ∨ e.ueCtx = none)
  | .iu ue => p.ue → r.UeFor id ue

omit [Loose p] in
theorem walks_raUpdReqRejected {cause : ℕ} (h : ctx = none → radio.Unused p s.view) :
    Walks p (raUpdReqRejected ctx radio cause) Any s := by
  refine .sends sends_sendOldmsg fun _ s₁ hs₁ ↦ ?_
  cases ctx with
  | some id => exact Follows.walks s₁
  | none =>
    cases radio with
    | gb tlli cell l =>
      refine walks_gprsLlgmmUnassign fun hp id e he ↦ h rfl hp id e ?_
      rwa [← hs₁.entry]
    | iu ue => exact Follows.walks s₁

omit [Loose p] in
theorem MmCtx.entry_processMsCtxStatus (mm : MmCtx) (status : BitVec 16) :
    ∃ session, (mm.processMsCtxStatus status).entry = { mm.entry with session := session } ∧
      (session = true → mm.entry.session = true) := by
  refine ⟨_, rfl, fun h ↦ ?_⟩
  simp only [MmCtx.entry, MmCtx.processMsCtxStatus, decide_eq_true_eq] at h ⊢
  refine h.imp_left fun hne hnil ↦ hne ?_
  rw [hnil]
  rfl

omit [Loose p] in
theorem walks_commonProcInitReq (he : s.view.entry id = some e) :
    Walks p (gmmFsm id .commonProcInitReq)
      (fun _ s' ↦ ∃ g, s'.view = s.view.set id { e with gmm := g }) s := by
  refine .last (.moves (moves_gmmFsm .commonProcInitReq he (by simp)) (fun _ ↦ ?_)
    fun _ s₁ hs₁ ↦ .pure ⟨_, hs₁⟩)
  refine .single (.gmm he _ fun _ hreg ↦ .inl ?_)
  rcases GmmState.isRegistered_after hreg with hold | ⟨-, hev⟩
  · exact hold
  · simp at hev

section Calls

variable {c : Calls} [c.Follow p]

theorem walks_raUpdReqProceed {req : RaUpdRequest} (h : radio.Takes p s.view id) :
    Walks p (raUpdReqProceed c id radio req) Any s := by
  have hstart : Unseen fun mm ↦ { mm with t3350Mode := .rau }.timerStart 3350 :=
    ⟨fun mm ↦ MmCtx.entry_timerStart _ 3350⟩
  have hnone : Shrinks fun mm ↦ { mm with pendingReq := .raUpdReq } :=
    ⟨fun mm ↦ ⟨mm.entry.session, rfl, fun h ↦ h⟩⟩
  have hsome (status : BitVec 16) :
      Shrinks fun mm ↦ { mm.processMsCtxStatus status with pendingReq := .raUpdReq } :=
    ⟨fun mm ↦ mm.entry_processMsCtxStatus status⟩
  unfold raUpdReqProceed
  refine .getMm fun mm hmm ↦ ?_
  have he := view_entry_of_some hmm
  cases radio with
  | gb tlli cell l =>
    refine .then ?_ fun _ s₁ ↦ ?_
    · split
      · rename_i hne
        have hiu : mm.ranType = .utranIu := by
          cases hr : mm.ranType with
          | geranGb => exact absurd hr hne
          | utranIu => rfl
        obtain ⟨hl, hu⟩ := h _ he hiu
        exact (walks_ratChange_toGb he hiu hl hu).any.then fun _ s₁ ↦ Follows.walks s₁
      · exact .pure trivial
    simp only [bind_assoc]
    refine .rekeys (g := fun t mm ↦ t.rehashTlli id mm.tlli mm.tlliNew) (fun mm hmm ↦ ?_)
      fun _ s₂ _ _ ↦ ?_
    · have hplace := Step.place (p := p) (view_entry_of_some hmm) cell
      have htlli := Step.tlli (p := p) (Registry.set_entry_self s₁.view id
        { mm.entry with ra := cell }) tlli mm.tlliNew
      rw [Registry.set_set] at htlli
      exact (Relation.ReflTransGen.single hplace).tail htlli
    · cases req.pdpCtxStatus with
      | none => exact Follows.walks s₂
      | some status => exact Follows.walks s₂
  | iu ue =>
    refine .bind (Q := fun _ s' ↦ (∃ e, s'.view.entry id = some e ∧ e.ranType = .utranIu) ∧
      (p.ue → s'.view.UeFor id ue)) ?_ fun _ s₁ hs₁ ↦ ?_
    · split
      · rename_i hne
        have hgb : mm.ranType = .geranGb := by
          cases hr : mm.ranType with
          | geranGb => rfl
          | utranIu => exact absurd hr hne
        refine .bind (walks_ratChange_toIu he hgb) fun _ s₁ hs₁ ↦ ?_
        obtain ⟨⟨e₁, he₁, hiu⟩, hu⟩ := hs₁
        refine (walks_commonProcInitReq he₁).mono fun _ s₂ hs₂ ↦ ?_
        obtain ⟨g, hs₂⟩ := hs₂
        rw [hs₂]
        exact ⟨⟨_, Registry.set_entry_self .., hiu⟩, fun hp ↦ (hu ue (h hp)).beside (.set ..)⟩
      · rename_i heq
        exact .pure ⟨⟨_, he, not_not.mp heq⟩, h⟩
    obtain ⟨⟨e₁, he₁, hiu⟩, hu⟩ := hs₁
    refine .then (walks_takeUe (fun mm ↦ ⟨mm.ra, rfl⟩) fun e he hp ↦ ?_) fun _ s₂ ↦ ?_
    · obtain rfl := Option.some.inj (he₁.symm.trans he)
      exact ⟨hiu, hu hp⟩
    · cases req.pdpCtxStatus with
      | none => exact Follows.walks s₂
      | some status => exact Follows.walks s₂

omit [Loose p] [c.Follow p] in
theorem Radio.Takes.setGmm (h : radio.Takes p r id) (he : r.entry id = some e) (g : GmmState) :
    radio.Takes p (r.set id { e with gmm := g }) id := by
  cases radio with
  | gb tlli cell l =>
    intro x hx hiu
    obtain rfl : { e with gmm := g } = x := by simpa using hx
    obtain ⟨hl, hu⟩ := h e he hiu
    exact ⟨fun hp ↦ (hl hp).beside (.set ..), hu⟩
  | iu ue => exact fun hp ↦ (h hp).beside (.set ..)

theorem walks_raUpdReqFound {req : RaUpdRequest} (h : radio.Takes p s.view id) :
    Walks p (gsm48RxGmmRaUpdReq.raUpdReqFound c radio req id) Any s := by
  refine .getMm fun mm hmm ↦ ?_
  have he := view_entry_of_some hmm
  split
  · refine .bind (walks_commonProcInitReq he) fun _ s₁ hs₁ ↦ walks_raUpdReqProceed ?_
    obtain ⟨g, hs₁⟩ := hs₁
    rw [hs₁]
    exact h.setGmm he g
  · exact walks_raUpdReqProceed h

/-- A routing area update request is refused before a context is looked for. -/
def RaUpdRequest.Refused (req : RaUpdRequest) : Prop :=
  req.parseCause ≠ none ∨ req.updateType = 1 ∨ req.updateType = 2

instance (req : RaUpdRequest) : Decidable req.Refused := inferInstanceAs (Decidable (_ ∨ _ ∨ _))

/-- The context that a routing area update is for, if it is not refused. -/
def raUpdReqFound (s : Sgsn) (ctx : Option CtxId) (radio : Radio) (req : RaUpdRequest) :
    Option CtxId :=
  match ctx, radio with
  | some id, _ =>
    if (s.ctxs id).any fun mm ↦ mm.ra = req.oldRai ∧ mm.gmm ≠ .deregistered then some id else none
  | none, .gb tlli _ _ => sgsnMmCtxByTlliAndPtmsi s tlli req.oldRai
  | none, .iu _ =>
    match req.allocPtmsi with
    | some (some (.tmsi tmsi)) => sgsnMmCtxByPtmsi s tmsi
    | _ => none

/-- The context that a routing area update is carried out for. -/
def raUpdReqFor (s : Sgsn) (ctx : Option CtxId) (radio : Radio) (req : RaUpdRequest) :
    Option CtxId :=
  if req.Refused then none else raUpdReqFound s ctx radio req

/-- What a routing area update request needs. -/
structure RaUpdRequest.Fits (p : Promises) (s : Sgsn) (ctx : Option CtxId) (radio : Radio)
    (req : RaUpdRequest) : Prop where
  refused : req.Refused → ctx = none → radio.Unused p s.view
  found : ∀ id, raUpdReqFor s ctx radio req = some id → radio.Takes p s.view id
  unknown : ∀ tlli cell l, ¬ req.Refused → ctx = none → radio = .gb tlli cell l →
    raUpdReqFor s ctx radio req = none → sgsnMmCtxByLlme s l = none → radio.Unused p s.view

theorem walks_gsm48RxGmmRaUpdReq {req : RaUpdRequest} (h : req.Fits p s ctx radio) :
    Walks p (gsm48RxGmmRaUpdReq c ctx radio req) Any s := by
  unfold gsm48RxGmmRaUpdReq
  cases hcause : req.parseCause with
  | some cause => exact walks_raUpdReqRejected (h.refused (.inl (by simp [hcause])))
  | none =>
    by_cases htype : req.updateType = 1 ∨ req.updateType = 2
    · rw [if_pos htype]
      exact walks_raUpdReqRejected (h.refused (.inr htype))
    · have hok : ¬ req.Refused := by
        rintro (hbad | hbad)
        · exact hbad hcause
        · exact htype hbad
      have hfor : raUpdReqFor s ctx radio req = raUpdReqFound s ctx radio req := if_neg hok
      have hfound := fun id hid ↦ h.found id (hfor.trans hid)
      rw [if_neg htype]
      cases ctx with
      | some id =>
        refine .getMm fun mm hmm ↦ ?_
        split
        · exact walks_raUpdReqRejected fun hnone ↦ absurd hnone (by simp)
        · rename_i hgood
          rw [not_or, not_not] at hgood
          exact walks_raUpdReqProceed (hfound id (by simp [raUpdReqFound, hmm, hgood]))
      | none =>
        cases radio with
        | gb tlli cell l =>
          refine .get ?_
          cases hby : sgsnMmCtxByTlliAndPtmsi s tlli req.oldRai with
          | some id => exact walks_raUpdReqFound (hfound id hby)
          | none =>
            exact .get (walks_raUpdReqRejected (h.unknown tlli cell l hok rfl rfl (hfor.trans hby)))
        | iu ue =>
          have hrejected (cause : ℕ) (s : Sgsn) :
              Walks p (raUpdReqRejected none (.iu ue) cause) Any s :=
            walks_raUpdReqRejected fun _ ↦ trivial
          rcases hptmsi : req.allocPtmsi with _ | _ | mi
          · exact hrejected 10 s
          · exact hrejected 111 s
          · cases mi with
            | tmsi tmsi =>
              refine .get ?_
              cases hby : sgsnMmCtxByPtmsi s tmsi with
              | some id =>
                exact walks_raUpdReqFound (hfound id (by simp [raUpdReqFound, hptmsi, hby]))
              | none => exact hrejected 10 s
            | imsi _ | imei _ | imeisv _ => exact hrejected 111 s

/-! ## Service request -/

theorem walks_gsm48RxGmmServiceReq {req : ServiceRequest}
    (h : p.ue → ∀ mi id e, req.mi = some mi → serviceReqContext s ctx mi = some id →
      s.view.entry id = some e → e.ranType = .utranIu ∧ s.view.UeFor id ue) :
    Walks p (gsm48RxGmmServiceReq c ctx ue req) Any s := by
  have hnone : Shrinks fun mm ↦ { mm with serviceType := req.serviceType } :=
    ⟨fun mm ↦ ⟨mm.entry.session, rfl, fun h ↦ h⟩⟩
  have hsome (status : BitVec 16) : Shrinks fun mm ↦
      { mm with serviceType := req.serviceType }.processMsCtxStatus status :=
    ⟨fun mm ↦ MmCtx.entry_processMsCtxStatus _ status⟩
  have hsend (cause : ℕ) : Walks p (sendOldmsg (.iu ue) (.serviceRej cause)) Any s :=
    Follows.walks s
  unfold gsm48RxGmmServiceReq
  cases hmi : req.mi with
  | none => exact hsend 95
  | some mi =>
    dsimp only
    split
    · exact hsend 9
    · refine .get ?_
      cases hctx : serviceReqContext s ctx mi with
      | none => exact hsend 10
      | some id =>
        refine .then (walks_takeUe (fun mm ↦ ⟨mm.ra, rfl⟩) fun e he hp ↦ h hp mi id e hmi hctx he)
          fun _ s₁ ↦ ?_
        cases req.pdpCtxStatus with
        | none => exact Follows.walks s₁
        | some status => exact Follows.walks s₁

/-! ## Identity -/

omit [c.Follow p] in
/-- The identity of a context that is freed is that of none. -/
theorem imsiFor_free (hunique : UniqueImsi r) {old : CtxId} {eold : Entry} {imsi : Digits}
    (he : r.entry old = some eold) (himsi : eold.imsi = imsi) (hne : imsi ≠ []) (id : CtxId) :
    (r.free old eold).ImsiFor id imsi := by
  intro j e hj _ heq
  by_cases hold : j = old
  · subst hold
    simp [Registry.free] at hj
  · have hj' : r.entry j = some e := by simpa [Registry.free, hold] using hj
    exact hold (hunique j e old eold hj' he (heq.trans himsi.symm) (heq ▸ hne))

omit [c.Follow p] in
theorem walks_storeIdentity {mm : MmCtx} {mi : MobileIdentity}
    (h : p.imsi → ∀ imsi, mi = .imsi imsi → mm.imsi ≠ [] → imsi ≠ [] → s.view.ImsiFor id imsi) :
    Walks p (gsm48RxGmmIdResp.storeIdentity id mm mi) Any s := by
  cases mi with
  | imsi imsi =>
    have hset (s : Sgsn) (hfor : p.imsi → imsi ≠ [] → s.view.ImsiFor id imsi) : Walks p (do
        modMm id fun mm ↦ { mm with imsi := imsi }
        sgsnMmCtxRehashImsi id) Any s := by
      refine .last ?_
      rw [bind_assoc]
      exact .rekey (g := fun t mm ↦ t.rehashImsi id mm.imsi)
        (fun mm hmm ↦ .imsi (view_entry_of_some hmm) imsi hfor) fun _ _ _ _ ↦ .pure trivial
    refine .kept fun hkept ↦ .get ?_
    split
    · rename_i old hold
      obtain ⟨-, hby⟩ := Option.ite_none_right_eq_some.mp hold
      have hi : imsi ≠ [] := by
        rintro rfl
        simp [sgsnMmCtxByImsi] at hby
      obtain ⟨-, mm', hmm', himsi⟩ := hby ▸ finds_imsi hkept.indexed hi
      have he := view_entry_of_some hmm'
      refine .moves (moves_gprsGmmMmCtxCleanupFree he fun hp ↦ absurd hp Loose.ran)
        (fun _ ↦ .single (.free he)) fun _ s₁ hs₁ ↦ hset s₁ fun hp _ ↦ ?_
      rw [hs₁]
      exact imsiFor_free (hkept.imsi hp) he himsi hi id
    · rename_i hnone
      refine hset s fun hp hi ↦ ?_
      by_cases hmm : mm.imsi = []
      · rw [if_pos hmm] at hnone
        exact imsiFor_of_none hkept.indexed hi hnone id
      · exact h hp imsi rfl hmm hi
  | imei imei => exact Follows.walks (m := modMm id _) s
  | imeisv _ | tmsi _ => exact .pure trivial

theorem walks_gsm48RxGmmIdResp {o : Option MobileIdentity}
    (h : p.imsi → ∀ mm imsi, s.ctxs id = some mm → mm.t3370IdType ≠ .none →
      o = some (.imsi imsi) → mm.imsi ≠ [] → imsi ≠ [] → s.view.ImsiFor id imsi) :
    Walks p (gsm48RxGmmIdResp c id o) Any s := by
  cases o with
  | none => exact .pure trivial
  | some mi =>
    refine .getMm fun mm hmm ↦ ?_
    split
    · exact .pure trivial
    · rename_i htype
      have hstop :
          Quiet (if mi.type = mm.t3370IdType then modMm id (·.timerStop) else pure ()) := by
        split
        · exact .modMm fun _ ↦ rfl
        · exact .pure _
      refine .quiet hstop fun _ s₁ hs₁ ↦ .then (walks_storeIdentity ?_) fun _ s₂ ↦ Follows.walks s₂
      rintro hp imsi rfl hmm' hi
      rw [hs₁]
      exact h hp mm imsi hmm htype rfl hmm' hi

end Calls

/-! ## PDP contexts -/

/-- A context can be reached through the LLC entity that it points to, or over Iu. -/
def Registry.Linked (r : Registry) (id : CtxId) : Prop :=
  ∀ e, r.entry id = some e → e.ranType = .utranIu ∨ e.llme ≠ none

omit [Loose p] in
/-- A write by which a context may come to have its first PDP context. -/
theorem walks_session {f : MmCtx → MmCtx} (h : s.view.Linked id)
    (hf : ∀ mm, ∃ session, (f mm).entry = { mm.entry with session := session }) :
    Walks p (modMm id f) (fun _ s' ↦ s'.view.Linked id) s := by
  refine .last (.modMmStep (fun mm hmm _ ↦ ?_) fun mm hmm ↦ .pure ?_)
  · obtain ⟨session, heq⟩ := hf mm
    rw [heq]
    exact .session (view_entry_of_some hmm) session fun _ ↦ .inr (h _ (view_entry_of_some hmm))
  · obtain ⟨session, heq⟩ := hf mm
    rw [view_setCtx, heq]
    intro e he
    obtain rfl : { mm.entry with session := session } = e := by simpa using he
    exact h mm.entry (view_entry_of_some hmm)

omit [Loose p] in
theorem walks_activateGgsn {nsapi sapi ti : ℕ} {room : Bool} (h : s.view.Linked id) :
    Walks p (activateGgsn id nsapi sapi ti room) Any s := by
  refine .getMm fun mm hmm ↦ .quiet (quiet_observe rfl) fun _ s₁ hs₁ ↦ ?_
  split
  · exact Walks.any (walks_session (hs₁ ▸ h) fun mm ↦ ⟨_, rfl⟩)
  · exact .pure trivial

instance : Follows p (gsm48RxGsmActPdpReq.reject id) := by
  unfold gsm48RxGsmActPdpReq.reject
  infer_instance

theorem walks_gsm48RxGsmActPdpReq {req : ActPdpRequest} (h : s.view.Linked id) :
    Walks p (gsm48RxGsmActPdpReq id req) Any s := by
  have hreject (s : Sgsn) : Walks p (gsm48RxGsmActPdpReq.reject id) Any s := Follows.walks s
  unfold gsm48RxGsmActPdpReq
  refine .getMm fun mm hmm ↦ .get ?_
  dsimp only
  split
  · exact hreject s
  · split
    · exact Follows.walks s
    · split
      · exact .pure trivial
      · split
        · exact walks_activateGgsn h
        · split
          · exact hreject s
          · refine .then (Walks.any (walks_session h fun mm ↦ ⟨_, rfl⟩)) fun _ s₁ ↦ ?_
            split
            · exact hreject s₁
            · exact .pure trivial
        · exact hreject s

theorem walks_gsm0408RcvGsm {msg : SmMsg} (h : ∀ id, ctx = some id → s.view.Linked id) :
    Walks p (gsm0408RcvGsm ctx radio msg) Any s := by
  have hsend (s : Sgsn) : Walks p (sendOldmsg radio (.detachReq 10)) Any s := Follows.walks s
  cases ctx with
  | none => cases msg <;> first | exact hsend s | exact .pure trivial
  | some id =>
    cases msg with
    | actPdpReq req => exact walks_gsm48RxGsmActPdpReq (h id rfl)
    | deactPdpReq _ | deactPdpAck _ =>
      refine .getMm fun mm hmm ↦ ?_
      split <;> exact Follows.walks s
    | status => exact .pure trivial
    | unknown => exact Follows.walks (m := do
        let _ ← gsm48GmmSendmsg id .smStatus) s

omit [Loose p] in
theorem walks_ggsnLookupCb {lookup : GgsnLookup} {answer : DnsAnswer} {mm : MmCtx}
    (hmm : s.ctxs id = some mm) (hlookup : mm.ggsnLookup = some lookup) :
    Walks p (ggsnLookupCb id lookup answer) Any s := by
  have hlinked (hkept : Kept p s.view) : s.view.Linked id := by
    intro e he
    obtain rfl := Option.some.inj ((view_entry_of_some hmm).symm.trans he)
    have hsession : mm.entry.session = true := by simp [MmCtx.entry, hlookup]
    cases hr : mm.entry.ranType with
    | utranIu => exact .inl rfl
    | geranGb => exact .inr (hkept.served id _ he hr hsession)
  have hclear : Shrinks fun mm ↦ { mm with ggsnLookup := none } := by
    refine ⟨fun mm ↦ ⟨_, rfl, fun h ↦ ?_⟩⟩
    simp only [MmCtx.entry, ne_eq, decide_eq_true_eq] at h ⊢
    exact .inl (by simpa using h)
  cases answer with
  | found room =>
    refine .kept fun hkept ↦ .bind (walks_session (hlinked hkept) fun mm ↦ ⟨_, rfl⟩) ?_
    exact fun _ s₁ hs₁ ↦ walks_activateGgsn hs₁
  | again => exact .pure trivial
  | failed =>
    exact Follows.walks (m := do
      let _ ← gsm48GmmSendmsg id .actPdpRej
      modMm id fun mm ↦ { mm with ggsnLookup := none }) s

end Loose

end OsmoSgsn.Gmm
