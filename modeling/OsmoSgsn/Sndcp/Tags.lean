import OsmoSgsn.Library.Machine
import OsmoSgsn.Sndcp.XidInd

/-!
# Tags of compressed packets

A compressed packet carries a PCOMP or DCOMP value, the tag, that tells how it was compressed: by
which entity, and in which of the ways of its algorithm. The sender finds the entity by the NSAPI of
the packet and takes the tag at an index; the receiver finds the entity by the tag, and the index of
the tag. A tag of zero is reserved for packets that are not compressed.

The tags come from the mobile station, in the fields that propose an entity, and nobody looks at
them. The two ways undo each other as long as the tags of every field that is accepted are not zero,
differ from one another, and differ from those of the other entities of the list.
-/

namespace OsmoSgsn.Sndcp

/-! ## Looking up -/

/-- Find which entity handles a tag. -/
def gprsSndcpCompByComp (entities : List CompEntity) (comp : ℕ) : Option CompEntity :=
  entities.find? fun e ↦ comp ∈ e.comp

/-- Find which entity handles an NSAPI. -/
def gprsSndcpCompByNsapi (entities : List CompEntity) (nsapi : ℕ) : Option CompEntity :=
  entities.find? fun e ↦ nsapi ∈ e.nsapi

/-- Find the index of a tag, which starts counting at one. -/
def gprsSndcpCompGetIdx (e : CompEntity) (comp : ℕ) : ℕ :=
  if comp = 0 then 0 else if comp ∈ e.comp then e.comp.idxOf comp + 1 else 0

/-- Find the tag of an index. -/
def gprsSndcpCompGetComp (e : CompEntity) (compIndex : ℕ) : ℕ :=
  if compIndex = 0 then 0
  else if e.comp.length < compIndex then 0
  else e.comp.getD (compIndex - 1) 0

/-- The tags of an entity lead back to it, each to its index. -/
def Identifies (entities : List CompEntity) (e : CompEntity) : Prop :=
  ∀ i, 1 ≤ i → i ≤ e.comp.length →
    gprsSndcpCompGetComp e i ≠ 0 ∧
      gprsSndcpCompByComp entities (gprsSndcpCompGetComp e i) = some e ∧
      gprsSndcpCompGetIdx e (gprsSndcpCompGetComp e i) = i

/-- So do the tags of every entity that an NSAPI leads to. -/
def TagsWork (entities : List CompEntity) : Prop :=
  ∀ nsapi e, gprsSndcpCompByNsapi entities nsapi = some e → Identifies entities e

/-- And of every entity of the list. -/
def AllIdentified (entities : List CompEntity) : Prop := ∀ e ∈ entities, Identifies entities e

theorem AllIdentified.tagsWork {entities : List CompEntity} (h : AllIdentified entities) :
    TagsWork entities := fun _ e he ↦ h e (List.mem_of_find?_eq_some he)

theorem getComp_succ {e : CompEntity} {i : ℕ} (hi : i < e.comp.length) :
    gprsSndcpCompGetComp e (i + 1) = e.comp[i] := by
  unfold gprsSndcpCompGetComp
  rw [if_neg (Nat.succ_ne_zero i), if_neg (by omega), Nat.add_sub_cancel,
    List.getD_eq_getElem e.comp 0 hi]

/-- What the tags of an entity are like that lead back to it. -/
theorem identifies_iff {entities : List CompEntity} {e : CompEntity} :
    Identifies entities e ↔ 0 ∉ e.comp ∧ e.comp.Nodup ∧
      ∀ c ∈ e.comp, gprsSndcpCompByComp entities c = some e := by
  constructor
  · intro h
    have hat (i : ℕ) (hi : i < e.comp.length) := by
      have := h (i + 1) (Nat.le_add_left 1 i) hi
      rwa [getComp_succ hi] at this
    refine ⟨fun hzero ↦ ?_, ?_, fun c hc ↦ ?_⟩
    · obtain ⟨i, hi, heq⟩ := List.mem_iff_getElem.mp hzero
      exact (hat i hi).1 heq
    · -- the index is found again, so no tag comes twice
      refine List.nodup_iff_injective_getElem.mpr fun ⟨i, hi⟩ ⟨j, hj⟩ heq ↦ ?_
      have hidx : i + 1 = j + 1 := by
        rw [← (hat i hi).2.2, ← (hat j hj).2.2]
        exact congrArg _ heq
      exact Fin.ext (Nat.succ.inj hidx)
    · obtain ⟨i, hi, rfl⟩ := List.mem_iff_getElem.mp hc
      exact (hat i hi).2.1
  · rintro ⟨hzero, hnodup, hfind⟩ i hpos hi
    obtain ⟨j, rfl⟩ := Nat.exists_eq_add_of_le' hpos
    have hmem : e.comp[j] ∈ e.comp := List.getElem_mem hi
    have hne : e.comp[j] ≠ 0 := fun heq ↦ hzero (heq ▸ hmem)
    rw [getComp_succ hi]
    refine ⟨hne, hfind _ hmem, ?_⟩
    unfold gprsSndcpCompGetIdx
    rw [if_neg hne, if_pos hmem, hnodup.idxOf_getElem]

/-! ## Lists of entities -/

/-- No number comes twice. -/
def UniqueNumbers (entities : List CompEntity) : Prop := (entities.map (·.entity)).Nodup

theorem compByComp_cons_of_mem {e : CompEntity} {entities : List CompEntity} {c : ℕ}
    (hc : c ∈ e.comp) : gprsSndcpCompByComp (e :: entities) c = some e :=
  List.find?_cons_of_pos (decide_eq_true hc)

theorem compByComp_cons_of_notMem {e : CompEntity} {entities : List CompEntity} {c : ℕ}
    (hc : c ∉ e.comp) :
    gprsSndcpCompByComp (e :: entities) c = gprsSndcpCompByComp entities c :=
  List.find?_cons_of_neg (by simpa using hc)

/-- An entity in front of a list. -/
theorem allIdentified_cons {e : CompEntity} {entities : List CompEntity}
    (hunique : UniqueNumbers (e :: entities)) :
    AllIdentified (e :: entities) ↔
      (0 ∉ e.comp ∧ e.comp.Nodup) ∧ (∀ x ∈ entities, x.comp.Disjoint e.comp) ∧
        AllIdentified entities := by
  have hne : ∀ x ∈ entities, x ≠ e := by
    rintro x hx rfl
    exact (List.nodup_cons.mp hunique).1 (List.mem_map_of_mem hx)
  constructor
  · intro h
    have hdisjoint : ∀ x ∈ entities, x.comp.Disjoint e.comp := by
      intro x hx c hcx hce
      have hfind := (identifies_iff.mp (h x (List.mem_cons_of_mem _ hx))).2.2 c hcx
      rw [compByComp_cons_of_mem hce] at hfind
      exact hne x hx (Option.some.inj hfind).symm
    obtain ⟨hzero, hnodup, -⟩ := identifies_iff.mp (h e List.mem_cons_self)
    refine ⟨⟨hzero, hnodup⟩, hdisjoint, fun x hx ↦ ?_⟩
    obtain ⟨hzero, hnodup, hfind⟩ := identifies_iff.mp (h x (List.mem_cons_of_mem _ hx))
    refine identifies_iff.mpr ⟨hzero, hnodup, fun c hc ↦ ?_⟩
    rw [← compByComp_cons_of_notMem (hdisjoint x hx hc)]
    exact hfind c hc
  · rintro ⟨⟨hzero, hnodup⟩, hdisjoint, hrest⟩ x hx
    rcases List.mem_cons.mp hx with rfl | hx
    · exact identifies_iff.mpr ⟨hzero, hnodup, fun c hc ↦ compByComp_cons_of_mem hc⟩
    · obtain ⟨hzero, hnodup, hfind⟩ := identifies_iff.mp (hrest x hx)
      refine identifies_iff.mpr ⟨hzero, hnodup, fun c hc ↦ ?_⟩
      rw [compByComp_cons_of_notMem (hdisjoint x hx hc)]
      exact hfind c hc

/-- All tags lead back exactly if none is zero and no two of the list are the same. -/
theorem allIdentified_iff {entities : List CompEntity} (hunique : UniqueNumbers entities) :
    AllIdentified entities ↔ (∀ e ∈ entities, 0 ∉ e.comp ∧ e.comp.Nodup) ∧
      entities.Pairwise fun e x ↦ x.comp.Disjoint e.comp := by
  induction entities with
  | nil => simp [AllIdentified]
  | cons e entities ih =>
    rw [allIdentified_cons hunique, ih (List.nodup_cons.mp hunique).2, List.forall_mem_cons,
      List.pairwise_cons]
    tauto

theorem AllIdentified.sublist {entities entities' : List CompEntity}
    (hunique : UniqueNumbers entities) (hsub : entities'.Sublist entities)
    (h : AllIdentified entities) : AllIdentified entities' := by
  obtain ⟨hown, hpairs⟩ := (allIdentified_iff hunique).mp h
  exact (allIdentified_iff (hunique.sublist (hsub.map _))).mpr
    ⟨fun e he ↦ hown e (hsub.subset he), hpairs.sublist hsub⟩

/-! ## Handling a field -/

/-- The list without the entity of a number. -/
def without (entities : List CompEntity) (entity : ℕ) : List CompEntity :=
  entities.eraseP fun e ↦ e.entity = entity

theorem mem_without {entities : List CompEntity} (hunique : UniqueNumbers entities)
    {entity : ℕ} {e : CompEntity} :
    e ∈ without entities entity ↔ e ∈ entities ∧ e.entity ≠ entity := by
  induction entities with
  | nil => simp [without]
  | cons x entities ih =>
    obtain ⟨hfirst, hrest⟩ := List.nodup_cons.mp hunique
    by_cases hx : x.entity = entity
    · have hwithout : without (x :: entities) entity = entities := by simp [without, hx]
      rw [hwithout, List.mem_cons]
      constructor
      · intro he
        refine ⟨.inr he, fun heq ↦ hfirst ?_⟩
        exact List.mem_map.mpr ⟨e, he, heq.trans hx.symm⟩
      · rintro ⟨rfl | he, hne⟩
        · exact absurd hx hne
        · exact he
    · have hwithout : without (x :: entities) entity = x :: without entities entity := by
        simp [without, hx]
      rw [hwithout, List.mem_cons, ih hrest, List.mem_cons]
      constructor
      · rintro (rfl | he)
        · exact ⟨.inl rfl, hx⟩
        · exact ⟨.inr he.1, he.2⟩
      · rintro ⟨rfl | he, hne⟩
        · exact .inl rfl
        · exact .inr ⟨he, hne⟩

theorem gprsSndcpCompDelete_ok {entities entities' : List CompEntity} {entity : ℕ}
    (h : gprsSndcpCompDelete entities entity = .ok entities') :
    entities' = without entities entity := by
  unfold gprsSndcpCompDelete at h
  cases hfind : entities.find? fun e ↦ e.entity = entity with
  | none =>
    rw [hfind] at h
    obtain rfl := Except.ok.inj h
    exact (List.eraseP_of_forall_not fun e he ↦ by
      simpa using List.find?_eq_none.mp hfind e he).symm
  | some e =>
    rw [hfind] at h
    dsimp only at h
    split at h
    · unfold gprsSndcpPcompTerm at h
      rw [osmoAssert_bind] at h
      split at h
      · exact (Except.ok.inj h).symm
      · cases h
    · exact (Except.ok.inj h).symm

/-- An entity that a field makes. -/
structure MadeBy (f : CompField) (e : CompEntity) : Prop where
  entity : e.entity = f.entity
  comp : e.comp = f.comp
  algo : e.algo = f.algo
  params : ∃ params, f.params = some params ∧ e.compclass = params.compclass

theorem gprsSndcpCompAdd_ok {entities entities' : List CompEntity} {f : CompField}
    (h : gprsSndcpCompAdd entities f = .ok entities') :
    ∃ e, MadeBy f e ∧ entities' = e :: without entities f.entity := by
  unfold gprsSndcpCompAdd at h
  cases hdelete : gprsSndcpCompDelete entities f.entity with
  | error => rw [hdelete] at h; cases h
  | ok left =>
    obtain rfl := gprsSndcpCompDelete_ok hdelete
    rw [hdelete] at h
    cases hcreate : gprsSndcpCompCreate f with
    | error => rw [hcreate] at h; cases h
    | ok e =>
      rw [hcreate] at h
      refine ⟨e, ?_, (Except.ok.inj h).symm⟩
      unfold gprsSndcpCompCreate at hcreate
      split at hcreate
      · cases hcreate
      · rw [osmoAssert_bind] at hcreate
        split at hcreate
        · rename_i params hparams hnsapi
          have hmade : e = ⟨f.entity, params.nsapi, f.comp, params.compclass, f.algo⟩ := by
            dsimp only at hcreate
            split at hcreate
            · cases hinit : gprsSndcpPcompInit f with
              | error => rw [hinit] at hcreate; cases hcreate
              | ok => rw [hinit] at hcreate; exact (Except.ok.inj hcreate).symm
            · cases hinit : gprsSndcpDcompInit f with
              | error => rw [hinit] at hcreate; cases hcreate
              | ok => rw [hinit] at hcreate; exact (Except.ok.inj hcreate).symm
            · cases hcreate
          subst hmade
          exact ⟨rfl, rfl, rfl, params, hparams, rfl⟩
        · cases hcreate

/-- A field that is accepted as an entity of a class. -/
def Accepts (cfg : XidCfg) (f : CompField) : XidParamType → Prop
  | .protocolCompression => ∃ params, f.algo = 0 ∧ f.params = some (.rfc1144 params) ∧
      cfg.rfc1144Passive = true ∧ params.nsapi ≠ []
  | .dataCompression => ∃ params, f.algo = 0 ∧ f.params = some (.v42bis params) ∧
      cfg.v42bisPassive = true ∧ params.nsapi ≠ []
  | _ => False

/-- What a field does to the list of a class: it makes a new entity, in place of the one with its
number, or it deletes that one or leaves the list alone. -/
def Changes (cfg : XidCfg) (compclass : XidParamType) (f : CompField)
    (entities entities' : List CompEntity) : Prop :=
  (Accepts cfg f compclass ∧
    ∃ e, MadeBy f e ∧ entities' = e :: without entities f.entity) ∨
  (¬ Accepts cfg f compclass ∧ (entities' = without entities f.entity ∨ entities' = entities))

section

variable {cfg : XidCfg} {comp comp' : LlmeComp} {f g : CompField}

/-- A field that is rejected: its entity is deleted. -/
theorem reject_ok {entities : List CompEntity} {entity : ℕ} {k : List CompEntity → LlmeComp}
    (h : (do
      let left ← gprsSndcpCompDelete entities entity
      return (k left, g) : Except XidFailure (LlmeComp × CompField)) = .ok (comp', f)) :
    comp' = k (without entities entity) := by
  cases hdelete : gprsSndcpCompDelete entities entity with
  | error => rw [hdelete] at h; cases h
  | ok left =>
    obtain rfl := gprsSndcpCompDelete_ok hdelete
    rw [hdelete] at h
    exact (Prod.mk.inj (Except.ok.inj h)).1.symm

/-- A field that is accepted: an entity is made of it, and its answer does not propose. -/
theorem accept_ok {entities : List CompEntity} {k : List CompEntity → LlmeComp}
    (h : (do
      let made ← gprsSndcpCompAdd entities { f with p := false }
      return (k made, { f with p := false }) : Except XidFailure (LlmeComp × CompField)) =
        .ok (comp', g)) :
    ∃ e, MadeBy f e ∧ comp' = k (e :: without entities f.entity) := by
  cases hadd : gprsSndcpCompAdd entities { f with p := false } with
  | error => rw [hadd] at h; cases h
  | ok made =>
    obtain ⟨e, hmade, rfl⟩ := gprsSndcpCompAdd_ok hadd
    rw [hadd] at h
    exact ⟨e, ⟨hmade.1, hmade.2, hmade.3, hmade.4⟩, (Prod.mk.inj (Except.ok.inj h)).1.symm⟩

/-- Only the first algorithm of a class is accepted. -/
theorem Accepts.algo_eq {compclass : XidParamType} (h : Accepts cfg f compclass) : f.algo = 0 := by
  cases compclass with
  | protocolCompression | dataCompression =>
    obtain ⟨params, halgo, -⟩ := h
    exact halgo
  | versionNumber | invalidCompression => exact h.elim

/-- An entity of another algorithm is deleted. -/
theorem Changes.of_algo_ne {compclass : XidParamType} {entities : List CompEntity}
    (hne : f.algo ≠ 0) : Changes cfg compclass f entities (without entities f.entity) :=
  .inr ⟨fun haccept ↦ hne haccept.algo_eq, .inl rfl⟩

theorem Accepts.class_eq {compclass : XidParamType} (h : Accepts cfg f compclass) :
    gprsSndcpGetCompressionClass f = compclass := by
  cases compclass with
  | protocolCompression | dataCompression =>
    obtain ⟨params, -, hparams, -⟩ := h
    rw [gprsSndcpGetCompressionClass, hparams]
    rfl
  | versionNumber | invalidCompression => exact h.elim

theorem handlePcompEntities_changes (h : handlePcompEntities cfg comp f = .ok (comp', g)) :
    Changes cfg .protocolCompression f comp.proto comp'.proto ∧ comp'.data = comp.data := by
  unfold handlePcompEntities at h
  dsimp only at h
  split at h
  · next params halgo hparams =>
    split at h
    · next haccept =>
      obtain ⟨e, hmade, rfl⟩ := accept_ok h
      exact ⟨.inl ⟨⟨params, halgo, hparams, haccept⟩, e, hmade, rfl⟩, rfl⟩
    · next haccept =>
      obtain rfl := reject_ok h
      refine ⟨.inr ⟨?_, .inl rfl⟩, rfl⟩
      rintro ⟨params', -, hparams', haccept'⟩
      rw [hparams] at hparams'
      cases hparams'
      exact haccept haccept'
  -- the other algorithms are rejected
  · next halgo _ =>
    obtain rfl := reject_ok h
    exact ⟨.of_algo_ne (by simp [halgo]), rfl⟩
  · next halgo _ =>
    obtain rfl := reject_ok h
    exact ⟨.of_algo_ne (by simp [halgo]), rfl⟩
  · cases h
  · cases h
  · cases h
  -- one that the code does not know leaves the list alone
  · next hzero _ _ =>
    obtain ⟨rfl, -⟩ := Prod.mk.inj (Except.ok.inj h)
    refine ⟨.inr ⟨?_, .inr rfl⟩, rfl⟩
    rintro ⟨params', halgo', hparams', -⟩
    exact hzero params' halgo' hparams'

theorem handleDcompEntities_changes (h : handleDcompEntities cfg comp f = .ok (comp', g)) :
    Changes cfg .dataCompression f comp.data comp'.data ∧ comp'.proto = comp.proto := by
  unfold handleDcompEntities at h
  dsimp only at h
  split at h
  · next params halgo hparams =>
    split at h
    · next haccept =>
      obtain ⟨e, hmade, rfl⟩ := accept_ok h
      exact ⟨.inl ⟨⟨params, halgo, hparams, haccept⟩, e, hmade, rfl⟩, rfl⟩
    · next haccept =>
      obtain rfl := reject_ok h
      refine ⟨.inr ⟨?_, .inl rfl⟩, rfl⟩
      rintro ⟨params', -, hparams', haccept'⟩
      rw [hparams] at hparams'
      cases hparams'
      exact haccept haccept'
  · next halgo _ =>
    obtain rfl := reject_ok h
    exact ⟨.of_algo_ne (by simp [halgo]), rfl⟩
  · cases h
  · cases h
  · next hzero _ =>
    obtain ⟨rfl, -⟩ := Prod.mk.inj (Except.ok.inj h)
    refine ⟨.inr ⟨?_, .inr rfl⟩, rfl⟩
    rintro ⟨params', halgo', hparams', -⟩
    exact hzero params' halgo' hparams'

/-- **One field.** What it does to the two lists. -/
theorem handleCompField_changes (h : handleCompField cfg comp f = .ok (comp', g)) :
    Changes cfg .protocolCompression f comp.proto comp'.proto ∧
      Changes cfg .dataCompression f comp.data comp'.data := by
  unfold handleCompField at h
  split at h
  · next hclass =>
    obtain ⟨hproto, hdata⟩ := handlePcompEntities_changes h
    refine ⟨hproto, .inr ⟨fun haccept ↦ ?_, .inr hdata⟩⟩
    exact absurd (hclass.symm.trans haccept.class_eq) (by decide)
  · next hclass =>
    obtain ⟨hdata, hproto⟩ := handleDcompEntities_changes h
    refine ⟨.inr ⟨fun haccept ↦ ?_, .inr hproto⟩, hdata⟩
    exact absurd (hclass.symm.trans haccept.class_eq) (by decide)
  -- a field without parameters
  · next hproto hdata =>
    cases hdeleteProto : gprsSndcpCompDelete comp.proto f.entity with
    | error => rw [hdeleteProto] at h; cases h
    | ok proto =>
      cases hdeleteData : gprsSndcpCompDelete comp.data f.entity with
      | error => rw [hdeleteProto, hdeleteData] at h; cases h
      | ok data =>
        rw [hdeleteProto, hdeleteData] at h
        obtain ⟨rfl, -⟩ := Prod.mk.inj (Except.ok.inj h)
        obtain rfl := gprsSndcpCompDelete_ok hdeleteProto
        obtain rfl := gprsSndcpCompDelete_ok hdeleteData
        exact ⟨.inr ⟨fun haccept ↦ hproto haccept.class_eq, .inl rfl⟩,
          .inr ⟨fun haccept ↦ hdata haccept.class_eq, .inl rfl⟩⟩

end

/-! ## Runs -/

/-- The tags of a field are fit for a list: none is zero, no two are the same, and no other entity
of the list has one of them. -/
def Tagged (entities : List CompEntity) (f : CompField) : Prop :=
  (0 ∉ f.comp ∧ f.comp.Nodup) ∧
    ∀ e ∈ entities, e.entity ≠ f.entity → e.comp.Disjoint f.comp

instance (entities : List CompEntity) (f : CompField) : Decidable (Tagged entities f) :=
  decidable_of_iff ((0 ∉ f.comp ∧ f.comp.Nodup) ∧
    ∀ e ∈ entities, e.entity ≠ f.entity → ∀ c ∈ e.comp, c ∉ f.comp) Iff.rfl

theorem UniqueNumbers.changes {cfg : XidCfg} {compclass : XidParamType} {f : CompField}
    {entities entities' : List CompEntity} (hunique : UniqueNumbers entities)
    (h : Changes cfg compclass f entities entities') : UniqueNumbers entities' := by
  have hleft : UniqueNumbers (without entities f.entity) :=
    hunique.sublist (List.eraseP_sublist.map _)
  rcases h with ⟨-, e, hmade, rfl⟩ | ⟨-, rfl | rfl⟩
  · refine List.nodup_cons.mpr ⟨fun hmem ↦ ?_, hleft⟩
    obtain ⟨x, hx, heq⟩ := List.mem_map.mp hmem
    exact ((mem_without hunique).mp hx).2 (heq.trans hmade.entity)
  · exact hleft
  · exact hunique

/-- **What a field does to the tags.** Where all tags lead back, they go on to exactly if those of
the field, where it is accepted, are fit for the list. -/
theorem allIdentified_changes_iff {cfg : XidCfg} {compclass : XidParamType} {f : CompField}
    {entities entities' : List CompEntity} (hunique : UniqueNumbers entities)
    (hall : AllIdentified entities) (h : Changes cfg compclass f entities entities') :
    AllIdentified entities' ↔ (Accepts cfg f compclass → Tagged entities f) := by
  have hunique' := hunique.changes h
  have hleft : AllIdentified (without entities f.entity) :=
    hall.sublist hunique List.eraseP_sublist
  rcases h with ⟨haccept, e, hmade, rfl⟩ | ⟨hreject, rfl | rfl⟩
  · rw [allIdentified_cons hunique', forall_prop_of_true haccept, Tagged, hmade.comp,
      and_iff_left hleft]
    refine and_congr_right fun _ ↦ ?_
    constructor
    · exact fun hdisjoint x hx hne ↦ hdisjoint x ((mem_without hunique).mpr ⟨hx, hne⟩)
    · intro hdisjoint x hx
      obtain ⟨hx, hne⟩ := (mem_without hunique).mp hx
      exact hdisjoint x hx hne
  · exact ⟨fun _ haccept ↦ absurd haccept hreject, fun _ ↦ hleft⟩
  · exact ⟨fun _ haccept ↦ absurd haccept hreject, fun _ ↦ hall⟩

/-- The negotiation of a logical link, field by field. A field that violates an assertion leaves
nothing behind. -/
def negotiation (cfg : XidCfg) : Machine LlmeComp CompField CompField where
  step comp f :=
    match handleCompField cfg comp f with
    | .ok (comp, answer) => (comp, [answer])
    | .error _ => (comp, [])

/-- The tags of a field are fit for the list of the class that it is accepted for. -/
def FitTags (cfg : XidCfg) (comp : LlmeComp) (f : CompField) : Prop :=
  (Accepts cfg f .protocolCompression → Tagged comp.proto f) ∧
    (Accepts cfg f .dataCompression → Tagged comp.data f)

/-- The lists as they are: no number comes twice, and there is only RFC 1144 and V.42bis. -/
structure WellNumbered (compclass : XidParamType) (entities : List CompEntity) : Prop where
  unique : UniqueNumbers entities
  only : OnlyClass compclass entities

theorem Accepts.made {cfg : XidCfg} {compclass : XidParamType} {f : CompField} {e : CompEntity}
    (haccept : Accepts cfg f compclass) (hmade : MadeBy f e) :
    e.compclass = compclass ∧ e.algo = 0 := by
  obtain ⟨made, hmade', hclass⟩ := hmade.params
  rw [hmade.algo, hclass]
  cases compclass with
  | protocolCompression =>
    obtain ⟨params, halgo, hparams, -⟩ := haccept
    obtain rfl := Option.some.inj (hmade'.symm.trans hparams)
    exact ⟨rfl, halgo⟩
  | dataCompression =>
    obtain ⟨params, halgo, hparams, -⟩ := haccept
    obtain rfl := Option.some.inj (hmade'.symm.trans hparams)
    exact ⟨rfl, halgo⟩
  | _ => exact haccept.elim

theorem WellNumbered.changes {cfg : XidCfg} {compclass : XidParamType} {f : CompField}
    {entities entities' : List CompEntity} (hwell : WellNumbered compclass entities)
    (h : Changes cfg compclass f entities entities') : WellNumbered compclass entities' := by
  refine ⟨hwell.unique.changes h, ?_⟩
  rcases h with ⟨haccept, e, hmade, rfl⟩ | ⟨-, rfl | rfl⟩
  · exact List.forall_mem_cons.mpr ⟨haccept.made hmade, hwell.only.eraseP _⟩
  · exact hwell.only.eraseP _
  · exact hwell.only

theorem wellNumbered_step {cfg : XidCfg} {comp : LlmeComp} {f : CompField}
    (h : WellNumbered .protocolCompression comp.proto ∧ WellNumbered .dataCompression comp.data) :
    WellNumbered .protocolCompression ((negotiation cfg).step comp f).1.proto ∧
      WellNumbered .dataCompression ((negotiation cfg).step comp f).1.data := by
  unfold negotiation
  dsimp only
  split
  · rename_i comp' g hhandle
    obtain ⟨hproto, hdata⟩ := handleCompField_changes hhandle
    exact ⟨h.1.changes hproto, h.2.changes hdata⟩
  · exact h

/-- A field that is accepted violates no assertion. -/
theorem handleCompField_ok {cfg : XidCfg} {comp : LlmeComp} {f : CompField}
    (h : WellNumbered .protocolCompression comp.proto ∧ WellNumbered .dataCompression comp.data)
    (haccept : Accepts cfg f .protocolCompression ∨ Accepts cfg f .dataCompression) :
    ∃ comp' g, handleCompField cfg comp f = .ok (comp', g) := by
  obtain ⟨p, entity, algo, values, params⟩ := f
  rcases haccept with ⟨params, rfl, rfl, haccept⟩ | ⟨params, rfl, rfl, haccept⟩
  · have hnsapi : (CompParams.rfc1144 params).nsapi ≠ [] := haccept.2
    simp only [handleCompField, gprsSndcpGetCompressionClass, CompParams.compclass,
      handlePcompEntities, if_pos haccept, gprsSndcpCompAdd, gprsSndcpCompDelete_eq h.1.only,
      gprsSndcpCompCreate, osmoAssert_bind, if_pos hnsapi, gprsSndcpPcompInit, if_true]
    exact ⟨_, _, rfl⟩
  · have hnsapi : (CompParams.v42bis params).nsapi ≠ [] := haccept.2
    simp only [handleCompField, gprsSndcpGetCompressionClass, CompParams.compclass,
      handleDcompEntities, if_pos haccept, gprsSndcpCompAdd, gprsSndcpCompDelete_eq h.2.only,
      gprsSndcpCompCreate, osmoAssert_bind, if_pos hnsapi, gprsSndcpDcompInit, if_true]
    exact ⟨_, _, rfl⟩

/-- **One field.** All tags of both lists go on to lead back exactly if those of the field fit. -/
theorem allIdentified_step_iff {cfg : XidCfg} {comp : LlmeComp} {f : CompField}
    (h : WellNumbered .protocolCompression comp.proto ∧ WellNumbered .dataCompression comp.data)
    (hall : AllIdentified comp.proto ∧ AllIdentified comp.data) :
    (AllIdentified ((negotiation cfg).step comp f).1.proto ∧
      AllIdentified ((negotiation cfg).step comp f).1.data) ↔ FitTags cfg comp f := by
  unfold negotiation
  dsimp only
  cases hhandle : handleCompField cfg comp f with
  | ok res =>
    obtain ⟨hproto, hdata⟩ := handleCompField_changes hhandle
    exact and_congr (allIdentified_changes_iff h.1.unique hall.1 hproto)
      (allIdentified_changes_iff h.2.unique hall.2 hdata)
  | error e =>
    have hreject : ¬ (Accepts cfg f .protocolCompression ∨ Accepts cfg f .dataCompression) := by
      intro haccept
      obtain ⟨comp', g, hok⟩ := handleCompField_ok h haccept
      rw [hok] at hhandle
      cases hhandle
    refine iff_of_true hall ⟨fun haccept ↦ ?_, fun haccept ↦ ?_⟩
    · exact absurd (.inl haccept) hreject
    · exact absurd (.inr haccept) hreject

/-- **Every tag of every entity** leads back in all states of a negotiation exactly if the tags of
every field that is accepted fit. -/
theorem allIdentified_run_iff (cfg : XidCfg) (fields : List CompField) :
    (∀ n, AllIdentified ((negotiation cfg).run ⟨[], []⟩ (fields.take n)).proto ∧
      AllIdentified ((negotiation cfg).run ⟨[], []⟩ (fields.take n)).data) ↔
      (negotiation cfg).Meets (FitTags cfg) ⟨[], []⟩ fields := by
  refine Machine.forall_take_iff (FitTags cfg) (fun comp ↦
    WellNumbered .protocolCompression comp.proto ∧ WellNumbered .dataCompression comp.data)
    (fun _ _ h ↦ wellNumbered_step h) (fun _ _ h hall ↦ allIdentified_step_iff h hall) ?_ ?_
  · exact ⟨⟨List.nodup_nil, by simp [OnlyClass]⟩, List.nodup_nil, by simp [OnlyClass]⟩
  · exact ⟨fun e he ↦ (List.not_mem_nil he).elim, fun e he ↦ (List.not_mem_nil he).elim⟩

/-- **Tags identify entities.** In every negotiation in which the tags of every field that is
accepted fit, in every state: whatever NSAPI a packet has, the tags of the entity that handles it
are not zero, and lead back to the entity and to their indices. -/
theorem tagsWork_run (cfg : XidCfg) (fields : List CompField)
    (hfields : (negotiation cfg).Meets (FitTags cfg) ⟨[], []⟩ fields) (n : ℕ) :
    TagsWork ((negotiation cfg).run ⟨[], []⟩ (fields.take n)).proto ∧
      TagsWork ((negotiation cfg).run ⟨[], []⟩ (fields.take n)).data := by
  obtain ⟨hproto, hdata⟩ := (allIdentified_run_iff cfg fields).mpr hfields n
  exact ⟨hproto.tagsWork, hdata.tagsWork⟩

theorem fitTags_rfc1144 {cfg : XidCfg} {comp : LlmeComp} {f : CompField} {params : Rfc1144Params}
    (hparams : f.params = some (.rfc1144 params)) (h : Tagged comp.proto f) :
    FitTags cfg comp f := by
  refine ⟨fun _ ↦ h, ?_⟩
  rintro ⟨params', -, hparams', -⟩
  rw [hparams] at hparams'
  cases hparams'

/-- Two entities of one class with tags of their own, one of them replaced. -/
theorem tagsWork_run_replaced :
    let fields : List CompField := [⟨true, 0, 0, [1, 2], some (.rfc1144 ⟨[5], 7⟩)⟩,
      ⟨true, 1, 0, [3, 4], some (.rfc1144 ⟨[6], 7⟩)⟩,
      ⟨true, 0, 0, [2, 5], some (.rfc1144 ⟨[5], 7⟩)⟩]
    TagsWork ((negotiation ⟨true, true⟩).run ⟨[], []⟩ (fields.take 3)).proto := by
  intro fields
  have hmeets : (negotiation ⟨true, true⟩).Meets (FitTags ⟨true, true⟩) ⟨[], []⟩ fields :=
    ⟨fitTags_rfc1144 rfl (by decide), fitTags_rfc1144 rfl (by decide),
      fitTags_rfc1144 rfl (by decide), trivial⟩
  exact (tagsWork_run ⟨true, true⟩ fields hmeets 3).1

/-- A proposal of RFC 1144 compression for NSAPI 5, with the tags 1 and 0. -/
def exampleZeroTag : Mem := message [0x02, 0x07, 0x80, 0x00, 0x04, 0x10, 0x00, 0x20, 0x0f] fun _ ↦ 0

/-- The proposal is accepted. The second tag of the entity for NSAPI 5 is the one for packets that
are not compressed, and its index is not found. -/
theorem zeroTag_not_tagsWork :
    let fields : List CompField := [⟨true, 0, 0, [1, 0], some (.rfc1144 ⟨[5], 15⟩)⟩]
    let entities := ((negotiation ⟨true, true⟩).run ⟨[], []⟩ fields).proto
    gprsSndcpParseXid exampleZeroTag 9 none = some (-1, fields) ∧
      (∃ e, gprsSndcpCompByNsapi entities 5 = some e ∧ gprsSndcpCompGetComp e 2 = 0 ∧
        gprsSndcpCompGetIdx e (gprsSndcpCompGetComp e 2) = 0) ∧
      ¬ TagsWork entities := by
  intro fields entities
  have hnsapi :
      gprsSndcpCompByNsapi entities 5 = some ⟨0, [5], [1, 0], .protocolCompression, 0⟩ := by
    decide
  refine ⟨by decide +kernel, ⟨_, hnsapi, rfl, rfl⟩, fun h ↦ ?_⟩
  exact (h 5 _ hnsapi 2 (by decide) (by decide)).1 rfl

end OsmoSgsn.Sndcp
