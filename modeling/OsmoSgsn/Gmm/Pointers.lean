import OsmoSgsn.Gmm.Identities

/-!
# Pointers

A context points to the LLC entity through which its mobile station is reached over Gb, and to the
connection on which it is reached over Iu. A pointer is `Owned` if what it points to is there and no
other context points to it. The owner of an object may give it up; nobody else may.

Which of the two pointers a context may have depends on its radio access. The assertions of the code
are about that, and so is what is delivered to the mobile station.
-/

namespace OsmoSgsn.Gmm

variable {r r' : Registry} {p : Promises} {id : CtxId} {e e' : Entry}

/-! ## Ownership -/

/-- What contexts point to is there, and no two of them point to the same. -/
structure Owned {Ptr : Type} (f : Entry → Option Ptr) (live : Ptr → Prop)
    (entry : CtxId → Option Entry) : Prop where
  live : ∀ id e x, entry id = some e → f e = some x → live x
  unique : ∀ id e id' e' x, entry id = some e → entry id' = some e' → f e = some x →
    f e' = some x → id = id'

section Owned

variable {Ptr : Type} {f : Entry → Option Ptr} {live live' : Ptr → Prop}

/-- No pointer is written, and nothing goes that is still pointed to. -/
theorem Owned.carry (h : Owned f live r.entry) (hc : Carries f r r')
    (hlive : ∀ id e x, r'.entry id = some e → f e = some x → live x → live' x) :
    Owned f live' r'.entry where
  live id e x he hx := by
    obtain ⟨y, hy, hf⟩ := hc id e he
    exact hlive id e x he hx (h.live id y x hy (hf ▸ hx))
  unique id e id' e' x he he' hx hx' := by
    obtain ⟨y, hy, hf⟩ := hc id e he
    obtain ⟨y', hy', hf'⟩ := hc id' e' he'
    exact h.unique id y id' y' x hy hy' (hf ▸ hx) (hf' ▸ hx')

/-- A context comes to point to something that no other one points to. -/
theorem Owned.write (h : Owned f live r.entry)
    (hr : r'.entry = Function.update r.entry id (some e'))
    (hfor : ∀ x, f e' = some x → live x ∧ ∀ j y, r.entry j = some y → j ≠ id → f y ≠ some x) :
    Owned f live r'.entry := by
  rw [hr]
  constructor
  · intro j y x hy hx
    by_cases hj : j = id
    · subst hj
      rw [Function.update_self, Option.some.injEq] at hy
      exact (hfor x (hy ▸ hx)).1
    · rw [Function.update_of_ne hj] at hy
      exact h.live j y x hy hx
  · intro i y j z x hy hz hyx hzx
    by_cases hi : i = id
    · subst hi
      rw [Function.update_self, Option.some.injEq] at hy
      subst hy
      by_contra hij
      rw [Function.update_of_ne (Ne.symm hij)] at hz
      exact (hfor x hyx).2 j z hz (Ne.symm hij) hzx
    · rw [Function.update_of_ne hi] at hy
      by_cases hj : j = id
      · subst hj
        rw [Function.update_self, Option.some.injEq] at hz
        subst hz
        exact absurd hyx ((hfor x hzx).2 i y hy hi)
      · rw [Function.update_of_ne hj] at hz
        exact h.unique i y j z x hy hz hyx hzx

/-- What one context points to, no other one does. -/
theorem Owned.other (h : Owned f live r.entry) (he : r.entry id = some e) {x : Ptr}
    (hx : f e = some x) : live x ∧ ∀ j y, r.entry j = some y → j ≠ id → f y ≠ some x :=
  ⟨h.live id e x he hx, fun j y hy hj hyx ↦ hj (h.unique j y id e x hy he hyx hx)⟩

/-- A context that keeps its pointer, or gives it up. -/
theorem Owned.keep (h : Owned f live r.entry) (he : r.entry id = some e)
    (hr : r'.entry = Function.update r.entry id (some e'))
    (hf : ∀ x, f e' = some x → f e = some x) : Owned f live r'.entry :=
  h.write hr fun x hx ↦ h.other he (hf x hx)

end Owned

/-! ## LLC entities -/

namespace Registry

theorem mem_liveLlmes_addLlme {r : Registry} {tlli : BitVec 32} {l : LlmeId} :
    l ∈ (r.addLlme tlli).liveLlmes ↔ l = r.nextLlme ∨ l ∈ r.liveLlmes := by
  simp [liveLlmes, addLlme]

theorem mem_liveLlmes_freeLlme {r : Registry} {l l' : LlmeId} :
    l' ∈ (r.freeLlme l).liveLlmes ↔ l' ∈ r.liveLlmes ∧ l' ≠ l := by
  simp only [liveLlmes, freeLlme, List.mem_map, List.mem_filter, decide_eq_true_eq]
  constructor
  · rintro ⟨x, ⟨hx, hne⟩, rfl⟩
    exact ⟨⟨x, hx, rfl⟩, hne⟩
  · rintro ⟨⟨x, hx, rfl⟩, hne⟩
    exact ⟨x, ⟨hx, hne⟩, rfl⟩

/-- What is given up is the LLC entity itself, or nothing. -/
theorem dropped_eq (llmes : List Llme) (o : Option LlmeId) :
    dropped llmes o = llmes ∨ ∃ l, o = some l ∧ dropped llmes o = llmes.filter (·.id ≠ l) := by
  unfold dropped
  repeat' split
  · exact .inl rfl
  · exact .inl rfl
  · exact .inl rfl
  · exact .inr ⟨_, rfl, rfl⟩

theorem liveLlmes_dropped_subset (llmes : List Llme) (o : Option LlmeId) :
    (dropped llmes o).map (·.id) ⊆ llmes.map (·.id) := by
  rcases dropped_eq llmes o with heq | ⟨l, -, heq⟩
  · rw [heq]
    exact List.Subset.refl _
  · rw [heq]
    exact List.map_subset _ (List.filter_subset_self llmes)

theorem mem_liveLlmes_dropped {llmes : List Llme} {o : Option LlmeId} {l : LlmeId}
    (h : l ∈ llmes.map (·.id)) (hne : o ≠ some l) : l ∈ (dropped llmes o).map (·.id) := by
  rcases dropped_eq llmes o with heq | ⟨l', rfl, heq⟩
  · rwa [heq]
  · obtain ⟨x, hx, rfl⟩ := List.mem_map.mp h
    rw [heq]
    refine List.mem_map.mpr ⟨x, List.mem_filter.mpr ⟨hx, ?_⟩, rfl⟩
    exact decide_eq_true fun hxl ↦ hne (congrArg some hxl.symm)

@[simp] theorem freeUe_llmes (r : Registry) (ue : UeId) : (r.freeUe ue).llmes = r.llmes := by
  unfold freeUe dropUe
  repeat' split
  all_goals rfl

@[simp] theorem freeUe_nextLlme (r : Registry) (ue : UeId) :
    (r.freeUe ue).nextLlme = r.nextLlme := by
  unfold freeUe dropUe
  repeat' split
  all_goals rfl

end Registry

/-- A pointer to an LLC entity is given out once. -/
def FreshLlmes (r : Registry) : Prop := ∀ l ∈ r.liveLlmes, l < r.nextLlme

theorem FreshLlmes.mono (h : FreshLlmes r) (hl : r'.liveLlmes ⊆ r.liveLlmes)
    (hn : r'.nextLlme = r.nextLlme) : FreshLlmes r' :=
  fun l hmem ↦ hn ▸ h l (hl hmem)

theorem FreshLlmes.step (h : FreshLlmes r) (hs : Step p r r') : FreshLlmes r' := by
  cases hs with
  | addLlme tlli =>
    intro l hl
    rcases Registry.mem_liveLlmes_addLlme.mp hl with rfl | hl
    · exact Nat.lt_succ_self _
    · exact (h l hl).trans (Nat.lt_succ_self _)
  | assign llmes hids =>
    refine h.mono (fun l hl ↦ ?_) rfl
    rw [Registry.liveLlmes, ← hids]
    exact hl
  | freeLlme l _ => exact h.mono (fun l' hl ↦ (Registry.mem_liveLlmes_freeLlme.mp hl).1) rfl
  | toIu _ _ _ =>
    split
    · exact h.mono (fun l hl ↦ hl) rfl
    · exact h.mono (Registry.liveLlmes_dropped_subset _ _) rfl
  | free _ => exact h.mono (Registry.liveLlmes_dropped_subset _ _) rfl
  | freeUe ue =>
    refine h.mono (fun l hl ↦ ?_) (by simp)
    rwa [Registry.liveLlmes, Registry.freeUe_llmes] at hl
  | request _ _ | attach _ _ _ | gmm _ _ _ | mmGb _ _ _ | pmm _ _ _ _ | dropUe _ | takeUe _ _ _
  | addUe _ _ | takeLlme _ _ _ _ | toGb _ _ _ _ _ _ | place _ _ | tlli _ _ _ | imsi _ _ _
  | givePtmsi _ _ _ _ _ _ | takePtmsi _ _ _ _ _ _ | dropPtmsiOld _ | session _ _ _ | alloc _ _ =>
    exact h.mono (fun l hl ↦ hl) rfl

/-- What contexts point to as their LLC entities is there, and no two of them share one. -/
abbrev OwnedLlmes (r : Registry) : Prop := Owned (·.llme) (· ∈ r.liveLlmes) r.entry

/-- A context gives up its LLC entity. -/
theorem OwnedLlmes.giveUp (h : OwnedLlmes r) (he : r.entry id = some e)
    (hr : ∀ j x, r'.entry j = some x → x.llme ≠ none → j ≠ id ∧ r.entry j = some x)
    (hl : ∀ l, l ∈ r.liveLlmes → e.llme ≠ some l → l ∈ r'.liveLlmes) : OwnedLlmes r' where
  live j x l hx hxl := by
    obtain ⟨hj, hold⟩ := hr j x hx (by rw [hxl]; exact Option.some_ne_none l)
    exact hl l (h.live j x l hold hxl) fun hel ↦ hj (h.unique j x id e l hold he hxl hel)
  unique j x j' x' l hx hx' hxl hxl' := by
    obtain ⟨-, hold⟩ := hr j x hx (by rw [hxl]; exact Option.some_ne_none l)
    obtain ⟨-, hold'⟩ := hr j' x' hx' (by rw [hxl']; exact Option.some_ne_none l)
    exact h.unique j x j' x' l hold hold' hxl hxl'

/-- **LLC entities stay owned**, as long as none is given to a second context, or given up by
somebody else. -/
theorem OwnedLlmes.step (hp : p.llme) (h : OwnedLlmes r) (hs : Step p r r') : OwnedLlmes r' := by
  cases hs with
  | takeLlme _ l hfor _ =>
    refine h.write rfl fun x hx ↦ ?_
    obtain rfl := Option.some.inj hx
    exact hfor hp
  | toGb _ _ l _ hfor _ =>
    refine h.write rfl fun x hx ↦ ?_
    obtain rfl := Option.some.inj hx
    exact hfor hp
  | addLlme tlli =>
    exact h.carry (.of_entry rfl) fun _ _ _ _ _ hl ↦ Registry.mem_liveLlmes_addLlme.mpr (.inr hl)
  | assign llmes hids =>
    refine h.carry (.of_entry rfl) fun _ _ _ _ _ hl ↦ ?_
    rw [Registry.liveLlmes, hids]
    exact hl
  | freeLlme l hun =>
    refine h.carry (.of_entry rfl) fun j x l' hx hxl hl ↦ ?_
    refine Registry.mem_liveLlmes_freeLlme.mpr ⟨hl, fun heq ↦ ?_⟩
    exact hun hp j x hx (heq ▸ hxl)
  | @toIu id e he _ _ =>
    split
    · exact h.carry (.update he rfl rfl) fun _ _ _ _ _ hl ↦ hl
    · refine h.giveUp he (fun j x hx hxl ↦ ?_)
        fun l hl hne ↦ Registry.mem_liveLlmes_dropped hl hne
      by_cases hj : j = id
      · subst hj
        obtain rfl : _ = x := by simpa [Registry.dropLlme, Registry.set] using hx
        exact absurd rfl hxl
      · exact ⟨hj, by simpa [Registry.dropLlme, Registry.set, hj] using hx⟩
  | @free id e he =>
    refine h.giveUp he (fun j x hx hxl ↦ ?_)
      fun l hl hne ↦ Registry.mem_liveLlmes_dropped hl hne
    by_cases hj : j = id
    · subst hj
      simp [Registry.free] at hx
    · exact ⟨hj, by simpa [Registry.free, hj] using hx⟩
  | alloc ranType ra => exact h.write rfl fun x hx ↦ absurd hx (Option.some_ne_none x).symm
  | freeUe ue =>
    refine h.carry (.freeUe (fun _ ↦ rfl) _ _) fun _ _ _ _ _ hl ↦ ?_
    rwa [Registry.liveLlmes, Registry.freeUe_llmes]
  | request _ _ | addUe _ _ => exact h.carry (.of_entry rfl) fun _ _ _ _ _ hl ↦ hl
  | attach he _ _ | gmm he _ _ | mmGb he _ _ | pmm he _ _ _ | dropUe he | takeUe he _ _
  | place he _ | tlli he _ _ | imsi he _ _ | givePtmsi he _ _ _ _ _ | takePtmsi he _ _ _ _ _
  | dropPtmsiOld he | session he _ _ =>
    exact h.carry (.update he rfl rfl) fun _ _ _ _ _ hl ↦ hl

/-! ## PDP contexts over Gb -/

/-- A context on Gb that has a PDP context has an LLC entity to reach it through. -/
def Entry.Served (e : Entry) : Prop := e.ranType = .geranGb → e.session = true → e.llme ≠ none

theorem Every.servedStep (h : Every Entry.Served r) (hs : Step p r r') : Every Entry.Served r' := by
  let f (e : Entry) := (e.ranType, e.session, e.llme)
  have hf : ∀ e e' : Entry, f e' = f e → e.Served → e'.Served := by
    intro e e' heq hserved
    obtain ⟨h1, h2, h3⟩ : e'.ranType = e.ranType ∧ e'.session = e.session ∧ e'.llme = e.llme := by
      simpa [f] using heq
    rwa [Entry.Served, h1, h2, h3]
  cases hs with
  | takeLlme he l _ _ => exact h.write rfl fun _ _ ↦ Option.some_ne_none l
  | @toIu id e he _ _ =>
    split
    · exact h.write rfl fun hgb ↦ absurd hgb (by simp)
    · have hset : Every Entry.Served (r.set id { e with
          ranType := .utranIu, gmm := .deregistered, mmGb := .idle, llme := none }) :=
        h.write rfl fun hgb ↦ absurd hgb (by simp)
      exact hset.carry hf ((Carries.of_entry rfl).dropLlme _)
  | toGb _ _ l _ _ _ => exact h.write rfl fun _ _ ↦ Option.some_ne_none l
  | @session id e he session hsess =>
    refine h.write rfl fun hgb hsn ↦ ?_
    rcases hsess hsn with hold | hiu | hl
    · exact h id e he hgb hold
    · exact absurd (hiu.symm.trans hgb) (by simp)
    · exact hl
  | alloc ranType ra =>
    exact h.write rfl fun _ hsn ↦ absurd hsn (by simp [MmCtx.entry, MmCtx.fresh])
  | free _ => exact h.carry hf (.free _ _ _)
  | freeUe ue => exact h.carry hf (.freeUe (fun _ ↦ rfl) _ _)
  | request _ _ | addUe _ _ | addLlme _ | assign _ _ | freeLlme _ _ =>
    exact h.carry hf (.of_entry rfl)
  | attach he _ _ | gmm he _ _ | mmGb he _ _ | pmm he _ _ _ | dropUe he | takeUe he _ _
  | place he _ | tlli he _ _ | imsi he _ _ | givePtmsi he _ _ _ _ _ | takePtmsi he _ _ _ _ _
  | dropPtmsiOld he =>
    exact h.carry hf (.update he rfl rfl)

/-! ## Connections -/

/-- The list of connections has every connection that is there once. -/
structure ListedUes (r : Registry) : Prop where
  nodup : r.ueList.Nodup
  mem_iff : ∀ ue, ue ∈ r.ueList ↔ r.ues ue = true

theorem ListedUes.congr (h : ListedUes r) (hl : r'.ueList = r.ueList) (hu : r'.ues = r.ues) :
    ListedUes r' := by
  refine ⟨hl ▸ h.nodup, fun ue ↦ ?_⟩
  rw [hl, hu]
  exact h.mem_iff ue

namespace Registry

@[simp] theorem freeUe_ueList (r : Registry) (ue : UeId) :
    (r.freeUe ue).ueList = r.ueList.erase ue := by
  unfold freeUe dropUe
  repeat' split
  all_goals rfl

@[simp] theorem freeUe_ues (r : Registry) (ue : UeId) :
    (r.freeUe ue).ues = Function.update r.ues ue false := by
  unfold freeUe dropUe
  repeat' split
  all_goals rfl

end Registry

theorem ListedUes.step (h : ListedUes r) (hs : Step p r r') : ListedUes r' := by
  cases hs with
  | addUe ue hnew =>
    refine ⟨List.nodup_cons.mpr ⟨fun hmem ↦ ?_, h.nodup⟩, fun ue' ↦ ?_⟩
    · exact absurd ((h.mem_iff ue).mp hmem) (by simp [hnew])
    · rw [Registry.addUe, List.mem_cons, h.mem_iff ue']
      by_cases hue : ue' = ue
      · simp [hue]
      · simp [hue]
  | freeUe ue =>
    refine ⟨by simpa using h.nodup.erase ue, fun ue' ↦ ?_⟩
    rw [Registry.freeUe_ueList, Registry.freeUe_ues, h.nodup.mem_erase_iff, h.mem_iff ue']
    by_cases hue : ue' = ue
    · simp [hue]
    · simp [hue]
  | toIu _ _ _ =>
    split
    · exact h.congr rfl rfl
    · exact h.congr rfl rfl
  | free _ => exact h.congr rfl rfl
  | request _ _ | attach _ _ _ | gmm _ _ _ | mmGb _ _ _ | pmm _ _ _ _ | dropUe _ | takeUe _ _ _
  | takeLlme _ _ _ _ | addLlme _ | assign _ _ | freeLlme _ _ | toGb _ _ _ _ _ _ | place _ _
  | tlli _ _ _ | imsi _ _ _ | givePtmsi _ _ _ _ _ _ | takePtmsi _ _ _ _ _ _ | dropPtmsiOld _
  | session _ _ _ | alloc _ _ =>
    exact h.congr rfl rfl

/-- A context that points to a connection is on Iu. -/
def Entry.OnIu (e : Entry) : Prop := e.ueCtx ≠ none → e.ranType = .utranIu

/-- What contexts point to as their connections is there, and no two of them share one. -/
abbrev OwnedUes (r : Registry) : Prop := Owned (·.ueCtx) (r.ues · = true) r.entry

/-- The contexts that point to connections are the only ones that do, and on Iu. -/
structure BoundUes (r : Registry) : Prop where
  owned : OwnedUes r
  onIu : Every Entry.OnIu r

/-- A connection that is freed is lost by the context that points to it. -/
theorem BoundUes.freeUe (h : BoundUes r) (hidx : Indexed r) (ue : UeId) :
    BoundUes (r.freeUe ue) := by
  have hgone : ∀ j x, (r.freeUe ue).entry j = some x → x.ueCtx ≠ some ue := by
    intro j x hx hxu
    unfold Registry.freeUe at hx
    cases hby : r.byUe ue with
    | none =>
      rw [hby] at hx
      have hmem : j ∈ r.mmList := (hidx.listed.mem_iff j).mpr (hx ▸ Option.some_ne_none x)
      have hnot := List.find?_eq_none.mp hby j hmem
      have hiu := h.onIu j x hx (by rw [hxu]; exact Option.some_ne_none ue)
      have hj : r.entry j = some x := hx
      rw [hj, Option.any_some] at hnot
      exact hnot (decide_eq_true ⟨hiu, hxu⟩)
    | some id =>
      rw [hby] at hx
      have hp := List.find?_some hby
      obtain ⟨e, he, hown⟩ := Option.any_eq_true _ _ |>.mp hp
      obtain ⟨-, heu⟩ := of_decide_eq_true hown
      simp only [Registry.dropUe, he] at hx
      by_cases hj : j = id
      · subst hj
        obtain rfl : _ = x := by simpa [Registry.set] using hx
        exact absurd hxu (by simp)
      · have hold : r.entry j = some x := by simpa [Registry.set, hj] using hx
        exact hj (h.owned.unique j x id e ue hold he hxu heu)
  have hback : ∀ j x, (r.freeUe ue).entry j = some x → x.ueCtx ≠ none → r.entry j = some x := by
    intro j x hx hxn
    unfold Registry.freeUe at hx
    cases hby : r.byUe ue with
    | none =>
      rw [hby] at hx
      exact hx
    | some id =>
      rw [hby] at hx
      rcases r.dropUe_eq id with ⟨-, heq⟩ | ⟨e, -, heq⟩
      · simpa [heq] using hx
      · simp only [heq] at hx
        by_cases hj : j = id
        · subst hj
          obtain rfl : _ = x := by simpa [Registry.set] using hx
          exact absurd rfl hxn
        · simpa [Registry.set, hj] using hx
  refine ⟨⟨fun j x u hx hxu ↦ ?_, fun j x j' x' u hx hx' hxu hxu' ↦ ?_⟩, fun j x hx hxn ↦ ?_⟩
  · have hne : u ≠ ue := fun heq ↦ hgone j x hx (heq ▸ hxu)
    rw [Registry.freeUe_ues, Function.update_of_ne hne]
    exact h.owned.live j x u (hback j x hx (hxu ▸ Option.some_ne_none u)) hxu
  · exact h.owned.unique j x j' x' u (hback j x hx (hxu ▸ Option.some_ne_none u))
      (hback j' x' hx' (hxu' ▸ Option.some_ne_none u)) hxu hxu'
  · exact h.onIu j x (hback j x hx hxn) hxn

theorem BoundUes.carry (h : BoundUes r) (hc : Carries (fun e ↦ (e.ranType, e.ueCtx)) r r')
    (hlive : ∀ ue, r.ues ue = true → r'.ues ue = true) : BoundUes r' where
  owned := by
    refine h.owned.carry (fun id e' he' ↦ ?_) fun _ _ ue _ _ ↦ hlive ue
    obtain ⟨e, he, hf⟩ := hc id e' he'
    exact ⟨e, he, (Prod.mk.inj hf).2⟩
  onIu := by
    refine h.onIu.carry (fun e e' hf honIu ↦ ?_) hc
    obtain ⟨h1, h2⟩ := Prod.mk.inj hf
    rwa [Entry.OnIu, h1, h2]

/-- **Connections stay bound to contexts on Iu**, as long as none is given to a context on Gb or to
a second one, or kept by a context that leaves Iu. -/
theorem BoundUes.step (hp : p.ue) (hidx : Indexed r) (h : BoundUes r) (hs : Step p r r') :
    BoundUes r' := by
  cases hs with
  | @takeUe id e he ue hfor =>
    obtain ⟨hiu, hlive, hother⟩ := hfor hp
    refine ⟨h.owned.write rfl fun x hx ↦ ?_, h.onIu.write rfl fun _ ↦ hiu⟩
    obtain rfl := Option.some.inj hx
    exact ⟨hlive, fun j y hy hj hyu ↦
      hother j y hy hj (h.onIu j y hy (hyu ▸ Option.some_ne_none ue)) hyu⟩
  | @dropUe id e he =>
    exact ⟨h.owned.keep he rfl fun x hx ↦ absurd hx (by simp),
      h.onIu.write rfl fun hne ↦ absurd rfl hne⟩
  | addUe ue _ =>
    refine h.carry (.of_entry rfl) fun ue' hlive ↦ ?_
    by_cases hue : ue' = ue
    · simp [Registry.addUe, hue]
    · simpa [Registry.addUe, hue] using hlive
  | freeUe ue => exact h.freeUe hidx ue
  | @toIu id e he hgb _ =>
    have hnone : e.ueCtx = none := by
      by_contra hne
      exact absurd ((h.onIu id e he hne).symm.trans hgb) (by simp)
    split
    · exact ⟨h.owned.keep he rfl fun x hx ↦ hx, h.onIu.write rfl fun _ ↦ rfl⟩
    · have hset : BoundUes (r.set id { e with
          ranType := .utranIu, gmm := .deregistered, mmGb := .idle, llme := none }) :=
        ⟨h.owned.keep he rfl fun x hx ↦ hx, h.onIu.write rfl fun _ ↦ rfl⟩
      exact hset.carry ((Carries.of_entry rfl).dropLlme _) fun _ hlive ↦ hlive
  | @toGb id e he _ l mmGb _ hue =>
    have hnone : (if e.pmm = .connected then none else e.ueCtx) = none := by
      rcases hue hp with hconn | hnone
      · rw [if_pos hconn]
      · rw [hnone, ite_self]
    exact ⟨h.owned.keep he rfl fun x hx ↦ absurd hx (by simp [hnone]),
      h.onIu.write rfl fun hne ↦ absurd hnone hne⟩
  | alloc ranType ra =>
    exact ⟨h.owned.write rfl fun x hx ↦ absurd hx (Option.some_ne_none x).symm,
      h.onIu.write rfl fun hne ↦ absurd rfl hne⟩
  | free _ => exact h.carry (.free _ _ _) fun _ hlive ↦ hlive
  | request _ _ | addLlme _ | assign _ _ | freeLlme _ _ =>
    exact h.carry (.of_entry rfl) fun _ hlive ↦ hlive
  | attach he _ _ | gmm he _ _ | mmGb he _ _ | pmm he _ _ _ | takeLlme he _ _ _ | place he _
  | tlli he _ _ | imsi he _ _ | givePtmsi he _ _ _ _ _ | takePtmsi he _ _ _ _ _
  | dropPtmsiOld he | session he _ _ =>
    exact h.carry (.update he rfl rfl) fun _ hlive ↦ hlive

end OsmoSgsn.Gmm
