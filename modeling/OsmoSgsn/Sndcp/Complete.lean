import OsmoSgsn.Sndcp.Xid

/-!
# Completing a response

A response leaves out what it accepts as it was requested, and is completed from the request.
Filling the gaps of a field means that what it carries stays, and what it leaves out comes from the
field of the request for the same compression entity. The code looks fields up by their number
alone, though protocol and data compression entities share the numbers; it always takes the PCOMP or
DCOMP values of the request; it takes the list of profiles when the response has one, not when it
has none; and only the last field that it looks up decides whether it fails. So it fills the gaps,
whatever the order of the request, only if all fields with the number of a field of the response
agree with it in what they should not touch.
-/

namespace OsmoSgsn.Sndcp

/-! ## Parameters -/

namespace CompParams

/-- Parameters of the same algorithm. -/
inductive SameKind : CompParams → CompParams → Prop
  | rfc1144 (a b : Rfc1144Params) : SameKind (.rfc1144 a) (.rfc1144 b)
  | rfc2507 (a b : Rfc2507Params) : SameKind (.rfc2507 a) (.rfc2507 b)
  | rohc (a b : RohcParams) : SameKind (.rohc a) (.rohc b)
  | v42bis (a b : V42bisParams) : SameKind (.v42bis a) (.v42bis b)
  | v44 (a b : V44Params) : SameKind (.v44 a) (.v44 b)

/-- The list of profiles, if the algorithm has one. -/
def profiles : CompParams → List ℤ
  | .rohc params => params.profile
  | _ => []

/-- The parameters with their gaps filled: each one that is missing, and the list of profiles if
there is none, comes from other parameters of the same algorithm. -/
def filledFrom : CompParams → CompParams → CompParams
  | .rfc1144 dst, .rfc1144 src => .rfc1144 { dst with s01 := completedBy dst.s01 src.s01 }
  | .rfc2507 dst, .rfc2507 src => .rfc2507
      { dst with
        fMaxPeriod := completedBy dst.fMaxPeriod src.fMaxPeriod
        fMaxTime := completedBy dst.fMaxTime src.fMaxTime
        maxHeader := completedBy dst.maxHeader src.maxHeader
        tcpSpace := completedBy dst.tcpSpace src.tcpSpace
        nonTcpSpace := completedBy dst.nonTcpSpace src.nonTcpSpace }
  | .rohc dst, .rohc src => .rohc
      { dst with
        maxCid := completedBy dst.maxCid src.maxCid
        maxHeader := completedBy dst.maxHeader src.maxHeader
        profile := if dst.profile = [] then src.profile else dst.profile }
  | .v42bis dst, .v42bis src => .v42bis
      { dst with
        p0 := completedBy dst.p0 src.p0
        p1 := completedBy dst.p1 src.p1
        p2 := completedBy dst.p2 src.p2 }
  | .v44 dst, .v44 src => .v44
      { dst with
        c0 := completedBy dst.c0 src.c0
        p0 := completedBy dst.p0 src.p0
        p1t := completedBy dst.p1t src.p1t
        p1r := completedBy dst.p1r src.p1r
        p3t := completedBy dst.p3t src.p3t
        p3r := completedBy dst.p3r src.p3r }
  | dst, _ => dst

variable {dst src src' params : CompParams}

/-- Parameters are completed from those of the same algorithm. -/
theorem completeCompFieldParams_isSome :
    (completeCompFieldParams dst src).isSome ↔ dst.SameKind src := by
  constructor
  · intro h
    cases dst <;> cases src <;> first | constructor | exact absurd h Bool.false_ne_true
  · intro h
    cases h <;> rfl

theorem SameKind.compclass_eq (h : dst.SameKind src) : src.compclass = dst.compclass := by
  cases h <;> rfl

/-- The algorithm stays, and a list of profiles is replaced. -/
theorem SameKind.of_complete (h : completeCompFieldParams dst src = some params) :
    (∀ other, params.SameKind other ↔ dst.SameKind other) ∧
      params.profiles = if dst.profiles = [] then [] else src.profiles := by
  have hkind := completeCompFieldParams_isSome.mp (Option.isSome_of_eq_some h)
  have hsame {a b : CompParams} (hab : a.SameKind b) (other : CompParams) :
      a.SameKind other ↔ b.SameKind other := by
    constructor
    · intro ha
      cases hab <;> cases ha <;> constructor
    · intro hb
      cases hab <;> cases hb <;> constructor
  cases hkind with
  | rfc1144 d s =>
    obtain rfl := Option.some_inj.mp h
    exact ⟨hsame (.rfc1144 _ _), rfl⟩
  | rfc2507 d s =>
    obtain rfl := Option.some_inj.mp h
    exact ⟨hsame (.rfc2507 _ _), rfl⟩
  | rohc d s =>
    obtain rfl := Option.some_inj.mp h
    refine ⟨hsame (.rohc _ _), ?_⟩
    change (if 0 < d.profile.length then s.profile else d.profile) =
      if d.profile = [] then [] else s.profile
    by_cases hnil : d.profile = []
    · simp [hnil]
    · rw [if_neg hnil, if_pos (List.length_pos_iff.mpr hnil)]
  | v42bis d s =>
    obtain rfl := Option.some_inj.mp h
    exact ⟨hsame (.v42bis _ _), rfl⟩
  | v44 d s =>
    obtain rfl := Option.some_inj.mp h
    exact ⟨hsame (.v44 _ _), rfl⟩

theorem SameKind.profiles_filledFrom (h : dst.SameKind src) :
    (dst.filledFrom src).profiles = if dst.profiles = [] then src.profiles else dst.profiles := by
  cases h <;> rfl

/-- Where the lists of profiles agree, the code fills the gaps. -/
theorem SameKind.complete_eq (h : dst.SameKind src) (hprofiles : src.profiles = dst.profiles) :
    completeCompFieldParams dst src = some (dst.filledFrom src) := by
  cases h with
  | rohc d s =>
    have hprofile : s.profile = d.profile := hprofiles
    simp only [completeCompFieldParams, filledFrom, hprofile, ite_self]
  | _ => rfl

/-- What is filled stays, if other parameters would have filled it alike. -/
theorem SameKind.complete_filledFrom (h : dst.SameKind src) (h' : dst.SameKind src')
    (hprofiles : src.profiles = dst.profiles) (hprofiles' : src'.profiles = dst.profiles)
    (hsame : dst.filledFrom src = dst.filledFrom src') :
    completeCompFieldParams (dst.filledFrom src) src' = some (dst.filledFrom src) := by
  have hagain {a b c : ℤ} (habc : completedBy a b = completedBy a c) :
      completedBy (completedBy a b) c = completedBy a b := by
    unfold completedBy at *
    split_ifs at * <;> omega
  cases h with
  | rfc1144 d s =>
    cases h' with
    | rfc1144 _ s' =>
      simp only [filledFrom, rfc1144.injEq, Rfc1144Params.mk.injEq, true_and] at hsame
      simp only [filledFrom, completeCompFieldParams, hagain hsame]
  | rfc2507 d s =>
    cases h' with
    | rfc2507 _ s' =>
      simp only [filledFrom, rfc2507.injEq, Rfc2507Params.mk.injEq, true_and] at hsame
      obtain ⟨h1, h2, h3, h4, h5⟩ := hsame
      simp only [filledFrom, completeCompFieldParams, hagain h1, hagain h2, hagain h3, hagain h4,
        hagain h5]
  | rohc d s =>
    cases h' with
    | rohc _ s' =>
      have hprofile : s.profile = d.profile := hprofiles
      have hprofile' : s'.profile = d.profile := hprofiles'
      simp only [filledFrom, rohc.injEq, RohcParams.mk.injEq, true_and] at hsame
      obtain ⟨h1, h2, -⟩ := hsame
      simp only [filledFrom, completeCompFieldParams, hagain h1, hagain h2, hprofile, hprofile',
        ite_self]
  | v42bis d s =>
    cases h' with
    | v42bis _ s' =>
      simp only [filledFrom, v42bis.injEq, V42bisParams.mk.injEq, true_and] at hsame
      obtain ⟨h1, h2, h3⟩ := hsame
      simp only [filledFrom, completeCompFieldParams, hagain h1, hagain h2, hagain h3]
  | v44 d s =>
    cases h' with
    | v44 _ s' =>
      simp only [filledFrom, v44.injEq, V44Params.mk.injEq, true_and] at hsame
      obtain ⟨h1, h2, h3, h4, h5, h6⟩ := hsame
      simp only [filledFrom, completeCompFieldParams, hagain h1, hagain h2, hagain h3, hagain h4,
        hagain h5, hagain h6]

end CompParams

/-! ## Fields -/

namespace CompField

/-- Fields with parameters of the same algorithm. -/
def SameKind (f g : CompField) : Prop :=
  ∃ dst src, f.params = some dst ∧ g.params = some src ∧ dst.SameKind src

/-- The lists of profiles of the parameters of a field. -/
def profiles (f : CompField) : List ℤ := f.params.elim [] CompParams.profiles

/-- One field of the request with the number of the field: its values are taken, and its parameters
complete those of the field. -/
def completeStep (f g : CompField) : CompField :=
  { f with
    comp := if g.comp = [] then f.comp else g.comp
    params := f.params.map fun dst ↦
      (g.params.bind fun src ↦ completeCompFieldParams dst src).getD dst }

variable {f g : CompField} {gs : List CompField}

/-- The last field with the number decides. -/
theorem complete_concat (f g : CompField) (gs : List CompField) :
    (g.entity = (gprsSndcpCompleteCompField f gs).1.entity →
      (gprsSndcpCompleteCompField f (gs ++ [g])).1 =
        completeStep (gprsSndcpCompleteCompField f gs).1 g ∧
      ((gprsSndcpCompleteCompField f (gs ++ [g])).2 = true ↔
        (gprsSndcpCompleteCompField f gs).1.SameKind g)) ∧
    (g.entity ≠ (gprsSndcpCompleteCompField f gs).1.entity →
      gprsSndcpCompleteCompField f (gs ++ [g]) = gprsSndcpCompleteCompField f gs) := by
  unfold gprsSndcpCompleteCompField
  rw [List.foldl_concat]
  generalize gs.foldl _ (f, true) = state
  obtain ⟨⟨p, entity, algo, comp, params⟩, rc⟩ := state
  obtain ⟨gp, gentity, galgo, gcomp, gparams⟩ := g
  dsimp only
  constructor
  · rintro rfl
    rw [if_pos rfl]
    have hcomp : (if gcomp = [] then (⟨p, gentity, algo, comp, params⟩ : CompField)
        else ⟨p, gentity, algo, gcomp, params⟩) =
          ⟨p, gentity, algo, if gcomp = [] then comp else gcomp, params⟩ := by
      split <;> rfl
    rw [hcomp]
    rcases params with _ | dst
    · exact ⟨rfl, by simp [SameKind]⟩
    · rcases gparams with _ | src
      · exact ⟨rfl, by simp [SameKind]⟩
      · have hkind : (⟨p, gentity, algo, comp, some dst⟩ : CompField).SameKind
            ⟨gp, gentity, galgo, gcomp, some src⟩ ↔ dst.SameKind src := by
          simp [SameKind]
        rw [hkind, ← CompParams.completeCompFieldParams_isSome]
        simp only [completeStep, Option.map_some, Option.bind_some]
        rcases completeCompFieldParams dst src with _ | params
        · exact ⟨rfl, by simp⟩
        · exact ⟨rfl, by simp⟩
  · intro hne
    rw [if_neg hne]

/-- What the fields of the request leave as it is. -/
structure Kept (f f' : CompField) : Prop where
  p : f'.p = f.p
  entity : f'.entity = f.entity
  algo : f'.algo = f.algo
  sameKind : ∀ g, f'.SameKind g ↔ f.SameKind g
  profiles : f.profiles = [] → f'.profiles = []

theorem Kept.refl (f : CompField) : Kept f f := ⟨rfl, rfl, rfl, fun _ ↦ Iff.rfl, id⟩

theorem Kept.trans {f' f'' : CompField} (h : Kept f f') (h' : Kept f' f'') : Kept f f'' :=
  ⟨h'.p.trans h.p, h'.entity.trans h.entity, h'.algo.trans h.algo,
    fun g ↦ (h'.sameKind g).trans (h.sameKind g), fun hnil ↦ h'.profiles (h.profiles hnil)⟩

theorem kept_completeStep (f g : CompField) : Kept f (completeStep f g) := by
  have hparams : (completeStep f g).params = f.params ∨ ∃ dst src params,
      f.params = some dst ∧ completeCompFieldParams dst src = some params ∧
        (completeStep f g).params = some params := by
    unfold completeStep
    rcases hf : f.params with _ | dst
    · exact .inl rfl
    · rcases g.params with _ | src
      · exact .inl rfl
      · rcases hc : completeCompFieldParams dst src with _ | params
        · exact .inl (by simp [hc])
        · exact .inr ⟨dst, src, params, rfl, hc, by simp [hc]⟩
  refine ⟨rfl, rfl, rfl, fun g' ↦ ?_, fun hnil ↦ ?_⟩
  · rcases hparams with hsame | ⟨dst, src, params, hf, hc, hparams⟩
    · rw [SameKind, SameKind, hsame]
    · have hkind := (CompParams.SameKind.of_complete hc).1
      simp only [SameKind, hf, hparams, Option.some.injEq, exists_and_left, exists_eq_left', hkind]
  · rcases hparams with hsame | ⟨dst, src, params, hf, hc, hparams⟩
    · rw [CompField.profiles, hsame]
      exact hnil
    · have hprofiles := (CompParams.SameKind.of_complete hc).2
      rw [CompField.profiles, hf] at hnil
      rw [CompField.profiles, hparams]
      exact hprofiles.trans (if_pos hnil)

theorem kept_complete (f : CompField) (gs : List CompField) :
    Kept f (gprsSndcpCompleteCompField f gs).1 := by
  induction gs using List.reverseRecOn with
  | nil => exact .refl f
  | append_singleton gs g ih =>
    obtain ⟨hmatch, hother⟩ := complete_concat f g gs
    by_cases hentity : g.entity = (gprsSndcpCompleteCompField f gs).1.entity
    · rw [(hmatch hentity).1]
      exact ih.trans (kept_completeStep _ g)
    · rw [hother hentity]
      exact ih

/-- One more field of the request that has the number. -/
theorem complete_concat_of_eq (gs : List CompField) (hentity : g.entity = f.entity) :
    (gprsSndcpCompleteCompField f (gs ++ [g])).1 =
        completeStep (gprsSndcpCompleteCompField f gs).1 g ∧
      ((gprsSndcpCompleteCompField f (gs ++ [g])).2 = true ↔ f.SameKind g) := by
  have hkept := kept_complete f gs
  obtain ⟨hfield, hrc⟩ := (complete_concat f g gs).1 (hentity.trans hkept.entity.symm)
  exact ⟨hfield, hrc.trans (hkept.sameKind g)⟩

/-- One more field of the request that has another number. -/
theorem complete_concat_of_ne (hentity : g.entity ≠ f.entity) :
    gprsSndcpCompleteCompField f (gs ++ [g]) = gprsSndcpCompleteCompField f gs :=
  (complete_concat f g gs).2 fun heq ↦ hentity (heq.trans (kept_complete f gs).entity)

/-- Without fields that have the number, nothing happens. -/
theorem complete_of_forall_ne (h : ∀ g ∈ gs, g.entity ≠ f.entity) :
    gprsSndcpCompleteCompField f gs = (f, true) := by
  induction gs using List.reverseRecOn with
  | nil => rfl
  | append_singleton gs g ih =>
    rw [complete_concat_of_ne (h g (by simp))]
    exact ih fun g' hg' ↦ h g' (List.mem_append_left _ hg')

/-- Fields that all have the algorithm, at the end of the request, complete the field. -/
theorem complete_append_ok {good : List CompField} (hgood : ∀ g ∈ good, g.entity = f.entity →
    f.SameKind g) (hsome : ∃ g ∈ good, g.entity = f.entity) :
    (gprsSndcpCompleteCompField f (gs ++ good)).2 = true := by
  induction good using List.reverseRecOn with
  | nil => exact absurd hsome (by simp)
  | append_singleton good g ih =>
    rw [← List.append_assoc]
    by_cases hentity : g.entity = f.entity
    · exact (complete_concat_of_eq _ hentity).2.mpr (hgood g (by simp) hentity)
    · rw [complete_concat_of_ne hentity]
      refine ih (fun g' hg' ↦ hgood g' (List.mem_append_left _ hg')) ?_
      obtain ⟨g', hg', heq⟩ := hsome
      rcases List.mem_append.mp hg' with hg' | hg'
      · exact ⟨g', hg', heq⟩
      · rw [List.mem_singleton.mp hg'] at heq
        exact absurd heq hentity

/-- If the request has fields with the number, one of them decides. -/
theorem exists_decides (hsome : ∃ g ∈ gs, g.entity = f.entity) :
    ∃ g ∈ gs, g.entity = f.entity ∧ ∀ f', f'.entity = f.entity →
      ((gprsSndcpCompleteCompField f' gs).2 = true ↔ f'.SameKind g) := by
  induction gs using List.reverseRecOn with
  | nil => exact absurd hsome (by simp)
  | append_singleton gs g ih =>
    by_cases hentity : g.entity = f.entity
    · refine ⟨g, by simp, hentity, fun f' hf' ↦ ?_⟩
      exact (complete_concat_of_eq _ (hentity.trans hf'.symm)).2
    · have hbefore : ∃ g ∈ gs, g.entity = f.entity := by
        obtain ⟨g', hg', heq⟩ := hsome
        rcases List.mem_append.mp hg' with hg' | hg'
        · exact ⟨g', hg', heq⟩
        · rw [List.mem_singleton.mp hg'] at heq
          exact absurd heq hentity
      obtain ⟨g', hg', heq, hdecides⟩ := ih hbefore
      refine ⟨g', List.mem_append_left _ hg', heq, fun f' hf' ↦ ?_⟩
      rw [complete_concat_of_ne (hf' ▸ hentity)]
      exact hdecides f' hf'

end CompField

/-! ## Lists of fields -/

/-- Completing all fields succeeds if each one is completed. -/
theorem gprsSndcpCompleteCompFields_eq_some {resp req out : List CompField} :
    gprsSndcpCompleteCompFields resp req = some out ↔
      (∀ f ∈ resp, (gprsSndcpCompleteCompField f req).2 = true) ∧
        out = resp.map fun f ↦ (gprsSndcpCompleteCompField f req).1 := by
  induction resp generalizing out with
  | nil => exact ⟨fun h ↦ ⟨by simp, (Option.some_inj.mp h).symm⟩, fun h ↦ congrArg some h.2.symm⟩
  | cons f resp ih =>
    rw [gprsSndcpCompleteCompFields, List.forall_mem_cons, List.map_cons]
    rcases hf : gprsSndcpCompleteCompField f req with ⟨f', rc⟩
    cases rc with
    | false => simp
    | true =>
      simp only [Option.map_eq_some_iff, ih]
      constructor
      · rintro ⟨out', ⟨hall, rfl⟩, rfl⟩
        exact ⟨⟨trivial, hall⟩, rfl⟩
      · rintro ⟨⟨-, hall⟩, rfl⟩
        exact ⟨_, ⟨hall, rfl⟩, rfl⟩

/-- Every permutation of a request completes the fields alike. -/
theorem complete_eq_of_perm {resp req req' out : List CompField}
    (h : gprsSndcpCompleteCompFields resp req = some out)
    (h' : gprsSndcpCompleteCompFields resp req' = gprsSndcpCompleteCompFields resp req)
    {f : CompField} (hf : f ∈ resp) :
    (gprsSndcpCompleteCompField f req').2 = true ∧
      (gprsSndcpCompleteCompField f req').1 = (gprsSndcpCompleteCompField f req).1 := by
  obtain ⟨-, hout⟩ := gprsSndcpCompleteCompFields_eq_some.mp h
  obtain ⟨hall', hout'⟩ := gprsSndcpCompleteCompFields_eq_some.mp (h'.trans h)
  exact ⟨hall' f hf, List.map_inj_left.mp (hout'.symm.trans hout) f hf⟩

/-- A field of a response with its gaps filled from a request: what it carries stays, and what it
leaves out comes from the fields of the request for the same entity of the same class. -/
structure GapsFilled (req : List CompField) (f f' : CompField) : Prop where
  p : f'.p = f.p
  entity : f'.entity = f.entity
  algo : f'.algo = f.algo
  comp : f.comp ≠ [] → f'.comp = f.comp
  params : ∀ g ∈ req, g.entity = f.entity →
    gprsSndcpGetCompressionClass g = gprsSndcpGetCompressionClass f →
      ∀ dst src, f.params = some dst → g.params = some src →
        f'.params = some (dst.filledFrom src)
  others : (∀ g ∈ req, g.entity = f.entity →
    gprsSndcpGetCompressionClass g ≠ gprsSndcpGetCompressionClass f) → f' = f

/-- Completing a response fills its gaps, and does not depend on the order of the request. -/
structure OnlyFillsGaps (req resp : List CompField) : Prop where
  filled : ∀ out, gprsSndcpCompleteCompFields resp req = some out →
    List.Forall₂ (GapsFilled req) resp out
  order : ∀ req', req.Perm req' →
    gprsSndcpCompleteCompFields resp req' = gprsSndcpCompleteCompFields resp req

/-- A field of the request agrees with a field of the response: it has the same algorithm and the
same list of profiles, and no values of its own where the response has some. -/
structure Agrees (f g : CompField) : Prop where
  kind : f.SameKind g
  profiles : g.profiles = f.profiles
  comp : f.comp = [] ∨ g.comp = [] ∨ g.comp = f.comp

/-- Two fields of the request have the same for a field of the response. -/
structure SameFor (f g g' : CompField) : Prop where
  params : ∀ dst src src', f.params = some dst → g.params = some src → g'.params = some src' →
    dst.filledFrom src = dst.filledFrom src'
  comp : g.comp = [] ∨ g'.comp = [] ∨ g.comp = g'.comp

/-- All fields of the request that have the number of a field of the response agree with it, and
with one another. -/
def Agreeing (req resp : List CompField) : Prop :=
  ∀ f ∈ resp, ∀ g ∈ req, g.entity = f.entity →
    Agrees f g ∧ ∀ g' ∈ req, g'.entity = f.entity → SameFor f g g'

/-- For some field of the response, the request has fields with its number, but none that has the
algorithms of all fields of the response with this number. -/
def Hopeless (req resp : List CompField) : Prop :=
  ∃ f ∈ resp, (∃ g ∈ req, g.entity = f.entity) ∧
    ∀ g ∈ req, g.entity = f.entity → ∃ f' ∈ resp, f'.entity = f.entity ∧ ¬ f'.SameKind g

variable {req resp : List CompField}

/-- In a hopeless case every order fails. -/
theorem Hopeless.eq_none (h : Hopeless req resp) {req' : List CompField} (hperm : req.Perm req') :
    gprsSndcpCompleteCompFields resp req' = none := by
  obtain ⟨f, hf, ⟨g, hg, hentity⟩, hnone⟩ := h
  obtain ⟨g', hg', heq, hdecides⟩ :=
    CompField.exists_decides (f := f) ⟨g, hperm.mem_iff.mp hg, hentity⟩
  obtain ⟨f', hf', hf'e, hkind⟩ := hnone g' (hperm.mem_iff.mpr hg') heq
  rw [Option.eq_none_iff_forall_ne_some]
  intro out hout
  have hall := (gprsSndcpCompleteCompFields_eq_some.mp hout).1 f' hf'
  exact hkind ((hdecides f' hf'e).mp hall)

/-- Otherwise some order succeeds: the fields that have the algorithms come last. -/
theorem exists_perm_of_not_hopeless (h : ¬ Hopeless req resp) :
    ∃ req' out, req.Perm req' ∧ gprsSndcpCompleteCompFields resp req' = some out := by
  classical
  let good (g : CompField) : Bool := decide (∀ f ∈ resp, f.entity = g.entity → f.SameKind g)
  have hperm : (req.filter (fun g ↦ !good g) ++ req.filter good).Perm req :=
    List.perm_append_comm.trans (List.filter_append_perm good req)
  refine ⟨_, _, hperm.symm, gprsSndcpCompleteCompFields_eq_some.mpr ⟨fun f hf ↦ ?_, rfl⟩⟩
  by_cases hsome : ∃ g ∈ req, g.entity = f.entity
  · refine CompField.complete_append_ok (fun g hg hentity ↦ ?_) ?_
    · exact of_decide_eq_true (List.mem_filter.mp hg).2 f hf hentity.symm
    · by_contra hnone
      refine h ⟨f, hf, hsome, fun g hg hentity ↦ ?_⟩
      by_contra hall
      refine hnone ⟨g, List.mem_filter.mpr ⟨hg, decide_eq_true fun f' hf' hf'e ↦ ?_⟩, hentity⟩
      by_contra hkind
      exact hall ⟨f', hf', hf'e.trans hentity, hkind⟩
  · rw [CompField.complete_of_forall_ne]
    intro g hg hentity
    exact hsome ⟨g, hperm.mem_iff.mp hg, hentity⟩

/-- Fields of the request that agree complete a field to the same, in whatever order they come. -/
theorem complete_of_agrees {f : CompField} {params : Option CompParams} {comp : List ℕ}
    (gs : List CompField)
    (hagrees : ∀ g ∈ gs, g.entity = f.entity → Agrees f g)
    (hparams : ∀ g ∈ gs, g.entity = f.entity → ∀ dst src, f.params = some dst →
      g.params = some src → params = some (dst.filledFrom src))
    (hcomp : ∀ g ∈ gs, g.entity = f.entity → g.comp = [] ∨ g.comp = comp)
    (hsome : ∃ g ∈ gs, g.entity = f.entity) :
    (gprsSndcpCompleteCompField f gs).2 = true ∧
      (gprsSndcpCompleteCompField f gs).1.params = params ∧
      ((∃ g ∈ gs, g.entity = f.entity ∧ g.comp ≠ []) →
        (gprsSndcpCompleteCompField f gs).1.comp = comp) ∧
      ((∀ g ∈ gs, g.entity = f.entity → g.comp = []) →
        (gprsSndcpCompleteCompField f gs).1.comp = f.comp) := by
  induction gs using List.reverseRecOn with
  | nil => exact absurd hsome (by simp)
  | append_singleton gs g ih =>
    have hagrees' : ∀ g ∈ gs, g.entity = f.entity → Agrees f g := fun g' hg' ↦
      hagrees g' (List.mem_append_left _ hg')
    have hparams' : ∀ g ∈ gs, g.entity = f.entity → ∀ dst src, f.params = some dst →
        g.params = some src → params = some (dst.filledFrom src) := fun g' hg' ↦
      hparams g' (List.mem_append_left _ hg')
    have hcomp' : ∀ g ∈ gs, g.entity = f.entity → g.comp = [] ∨ g.comp = comp := fun g' hg' ↦
      hcomp g' (List.mem_append_left _ hg')
    have hmem : g ∈ gs ++ [g] := by simp
    by_cases hentity : g.entity = f.entity
    · obtain ⟨hfield, hrc⟩ := CompField.complete_concat_of_eq gs hentity
      have hfit := hagrees g hmem hentity
      obtain ⟨dst, src, hdst, hsrc, hkind⟩ := hfit.kind
      have hprofiles : src.profiles = dst.profiles := by
        have := hfit.profiles
        rwa [CompField.profiles, CompField.profiles, hdst, hsrc] at this
      have hfilled := hparams g hmem hentity dst src hdst hsrc
      refine ⟨hrc.mpr hfit.kind, ?_, ?_, ?_⟩
      · rw [hfield, CompField.completeStep]
        simp only [hsrc, Option.bind_some]
        by_cases hbefore : ∃ g ∈ gs, g.entity = f.entity
        · -- The parameters are filled already, and stay.
          have hstay := hkind.complete_filledFrom hkind hprofiles hprofiles rfl
          rw [(ih hagrees' hparams' hcomp' hbefore).2.1, hfilled, Option.map_some, hstay,
            Option.getD_some]
        · rw [CompField.complete_of_forall_ne fun g' hg' heq ↦ hbefore ⟨g', hg', heq⟩, hdst,
            Option.map_some, hkind.complete_eq hprofiles, Option.getD_some, hfilled]
      · intro _
        rw [hfield, CompField.completeStep]
        by_cases hnil : g.comp = []
        · have hearlier : ∃ g ∈ gs, g.entity = f.entity ∧ g.comp ≠ [] := by
            obtain ⟨g', hg', heq, hne⟩ := ‹∃ _, _›
            rcases List.mem_append.mp hg' with hg' | hg'
            · exact ⟨g', hg', heq, hne⟩
            · rw [List.mem_singleton.mp hg'] at hne
              exact absurd hnil hne
          have hbefore : ∃ g ∈ gs, g.entity = f.entity := by
            obtain ⟨g', hg', heq, -⟩ := hearlier
            exact ⟨g', hg', heq⟩
          rw [if_pos hnil]
          exact (ih hagrees' hparams' hcomp' hbefore).2.2.1 hearlier
        · rw [if_neg hnil]
          exact (hcomp g hmem hentity).resolve_left hnil
      · intro hnone
        rw [hfield, CompField.completeStep, if_pos (hnone g hmem hentity)]
        by_cases hbefore : ∃ g ∈ gs, g.entity = f.entity
        · exact (ih hagrees' hparams' hcomp' hbefore).2.2.2 fun g' hg' ↦
            hnone g' (List.mem_append_left _ hg')
        · rw [CompField.complete_of_forall_ne fun g' hg' heq ↦ hbefore ⟨g', hg', heq⟩]
    · have hrest {P : CompField → Prop} (h : ∃ g' ∈ gs ++ [g], g'.entity = f.entity ∧ P g') :
          ∃ g' ∈ gs, g'.entity = f.entity ∧ P g' := by
        obtain ⟨g', hg', heq, hP⟩ := h
        rcases List.mem_append.mp hg' with hg' | hg'
        · exact ⟨g', hg', heq, hP⟩
        · rw [List.mem_singleton.mp hg'] at heq
          exact absurd heq hentity
      have hbefore : ∃ g ∈ gs, g.entity = f.entity := by
        obtain ⟨g', hg', heq⟩ := hsome
        obtain ⟨g'', hg'', heq', -⟩ := hrest (P := fun _ ↦ True) ⟨g', hg', heq, trivial⟩
        exact ⟨g'', hg'', heq'⟩
      obtain ⟨hrc, hps, hfound, hnot⟩ := ih hagrees' hparams' hcomp' hbefore
      rw [CompField.complete_concat_of_ne hentity]
      exact ⟨hrc, hps, fun h ↦ hfound (hrest h), fun h ↦ hnot fun g' hg' ↦
        h g' (List.mem_append_left _ hg')⟩

/-- What the fields that agree supply. -/
theorem Agreeing.supply (h : Agreeing req resp) {f : CompField} (hf : f ∈ resp) :
    ∃ (params : Option CompParams) (comp : List ℕ),
      (∀ g ∈ req, g.entity = f.entity → ∀ dst src, f.params = some dst → g.params = some src →
        params = some (dst.filledFrom src)) ∧
      (∀ g ∈ req, g.entity = f.entity → g.comp = [] ∨ g.comp = comp) ∧
      (f.comp ≠ [] → comp = f.comp) := by
  have hparams : ∃ params : Option CompParams, ∀ g ∈ req, g.entity = f.entity → ∀ dst src,
      f.params = some dst → g.params = some src → params = some (dst.filledFrom src) := by
    by_cases hsome : ∃ g ∈ req, g.entity = f.entity
    · obtain ⟨g₀, hg₀, he₀⟩ := hsome
      obtain ⟨dst₀, src₀, hdst₀, hsrc₀, -⟩ := (h f hf g₀ hg₀ he₀).1.kind
      refine ⟨some (dst₀.filledFrom src₀), fun g hg he dst src hdst hsrc ↦ ?_⟩
      obtain rfl := Option.some_inj.mp (hdst₀.symm.trans hdst)
      exact congrArg some (((h f hf g₀ hg₀ he₀).2 g hg he).params dst₀ src₀ src hdst hsrc₀ hsrc)
    · exact ⟨none, fun g hg he ↦ absurd ⟨g, hg, he⟩ hsome⟩
  obtain ⟨params, hparams⟩ := hparams
  by_cases hnil : f.comp = []
  · by_cases hsome : ∃ g ∈ req, g.entity = f.entity ∧ g.comp ≠ []
    · obtain ⟨g₀, hg₀, he₀, hne₀⟩ := hsome
      refine ⟨params, g₀.comp, hparams, fun g hg he ↦ ?_, fun hne ↦ absurd hnil hne⟩
      exact ((h f hf g hg he).2 g₀ hg₀ he₀).comp.imp_right fun hc ↦ hc.resolve_left hne₀
    · refine ⟨params, [], hparams, fun g hg he ↦ ?_, fun hne ↦ absurd hnil hne⟩
      by_contra hne
      exact hsome ⟨g, hg, he, fun hg ↦ hne (.inl hg)⟩
  · exact ⟨params, f.comp, hparams, fun g hg he ↦ (h f hf g hg he).1.comp.resolve_left hnil,
      fun _ ↦ rfl⟩

theorem CompField.SameKind.compclass_eq {f g : CompField} (h : f.SameKind g) :
    gprsSndcpGetCompressionClass g = gprsSndcpGetCompressionClass f := by
  obtain ⟨dst, src, hdst, hsrc, hkind⟩ := h
  rw [gprsSndcpGetCompressionClass, gprsSndcpGetCompressionClass, hdst, hsrc]
  exact hkind.compclass_eq

/-- Where all agree, every order succeeds with the same outcome. -/
theorem Agreeing.complete_eq (h : Agreeing req resp) {req' : List CompField}
    (hperm : req.Perm req') {f : CompField} (hf : f ∈ resp) :
    (gprsSndcpCompleteCompField f req').2 = true ∧
      (gprsSndcpCompleteCompField f req').1 = (gprsSndcpCompleteCompField f req).1 := by
  by_cases hsome : ∃ g ∈ req, g.entity = f.entity
  · obtain ⟨params, comp, hparams, hcomp, -⟩ := h.supply hf
    have hmem {g : CompField} : g ∈ req' ↔ g ∈ req := hperm.symm.mem_iff
    have hthere := complete_of_agrees req (fun g hg he ↦ (h f hf g hg he).1) hparams hcomp hsome
    have hthere' := complete_of_agrees req'
      (fun g hg he ↦ (h f hf g (hmem.mp hg) he).1) (fun g hg ↦ hparams g (hmem.mp hg))
      (fun g hg ↦ hcomp g (hmem.mp hg)) (by simpa only [hmem] using hsome)
    obtain ⟨-, hps, hfound, hnot⟩ := hthere
    obtain ⟨hrc', hps', hfound', hnot'⟩ := hthere'
    have hkept := CompField.kept_complete f req
    have hkept' := CompField.kept_complete f req'
    refine ⟨hrc', ?_⟩
    have hsame : (gprsSndcpCompleteCompField f req').1.comp =
        (gprsSndcpCompleteCompField f req).1.comp := by
      by_cases hvalues : ∃ g ∈ req, g.entity = f.entity ∧ g.comp ≠ []
      · rw [hfound hvalues, hfound' (by simpa only [hmem] using hvalues)]
      · have hnone : ∀ g ∈ req, g.entity = f.entity → g.comp = [] := fun g hg he ↦ by
          by_contra hne
          exact hvalues ⟨g, hg, he, hne⟩
        rw [hnot hnone, hnot' fun g hg ↦ hnone g (hmem.mp hg)]
    have hext {a b : CompField} (h1 : a.p = b.p) (h2 : a.entity = b.entity) (h3 : a.algo = b.algo)
        (h4 : a.comp = b.comp) (h5 : a.params = b.params) : a = b := by
      cases a
      cases b
      simp_all
    exact hext (hkept'.p.trans hkept.p.symm) (hkept'.entity.trans hkept.entity.symm)
      (hkept'.algo.trans hkept.algo.symm) hsame (hps'.trans hps.symm)
  · have hnone : ∀ g ∈ req, g.entity ≠ f.entity := fun g hg he ↦ hsome ⟨g, hg, he⟩
    rw [CompField.complete_of_forall_ne hnone,
      CompField.complete_of_forall_ne fun g hg ↦ hnone g (hperm.mem_iff.mpr hg)]
    exact ⟨rfl, rfl⟩

/-- Where all agree, gaps are filled. -/
theorem Agreeing.gapsFilled (h : Agreeing req resp) {f : CompField} (hf : f ∈ resp) :
    GapsFilled req f (gprsSndcpCompleteCompField f req).1 := by
  have hkept := CompField.kept_complete f req
  by_cases hsome : ∃ g ∈ req, g.entity = f.entity
  · obtain ⟨params, comp, hparams, hcomp, hown⟩ := h.supply hf
    obtain ⟨-, hps, hfound, hnot⟩ :=
      complete_of_agrees req (fun g hg he ↦ (h f hf g hg he).1) hparams hcomp hsome
    refine ⟨hkept.p, hkept.entity, hkept.algo, fun hne ↦ ?_, fun g hg he _ dst src hdst hsrc ↦ ?_,
      fun hothers ↦ ?_⟩
    · by_cases hvalues : ∃ g ∈ req, g.entity = f.entity ∧ g.comp ≠ []
      · rw [hfound hvalues, hown hne]
      · refine hnot fun g hg he ↦ ?_
        by_contra hgne
        exact hvalues ⟨g, hg, he, hgne⟩
    · rw [hps, hparams g hg he dst src hdst hsrc]
    · obtain ⟨g, hg, he⟩ := hsome
      exact absurd (h f hf g hg he).1.kind.compclass_eq (hothers g hg he)
  · have hnone : ∀ g ∈ req, g.entity ≠ f.entity := fun g hg he ↦ hsome ⟨g, hg, he⟩
    rw [CompField.complete_of_forall_ne hnone]
    exact ⟨rfl, rfl, rfl, fun _ ↦ rfl, fun g hg he ↦ absurd he (hnone g hg), fun _ ↦ rfl⟩

/-- What a field of the request leaves of the lists of profiles when it comes last. -/
theorem CompField.profiles_completeStep {f g : CompField} {dst src : CompParams}
    (hdst : f.params = some dst) (hsrc : g.params = some src) (hkind : dst.SameKind src) :
    (completeStep f g).profiles = if f.profiles = [] then [] else g.profiles := by
  obtain ⟨params, hparams⟩ := Option.isSome_iff_exists.mp
    (CompParams.completeCompFieldParams_isSome.mpr hkind)
  have hprofiles := (CompParams.SameKind.of_complete hparams).2
  rw [CompField.profiles, CompField.profiles, CompField.profiles, completeStep]
  simp only [hdst, hsrc, Option.map_some, Option.bind_some, hparams, Option.getD_some,
    Option.elim_some]
  exact hprofiles

section Agreeing

variable {out : List CompField} {f g : CompField}

/-- Some order succeeds, and so all of them do. -/
theorem OnlyFillsGaps.exists_eq_some (h : OnlyFillsGaps req resp) (hhope : ¬ Hopeless req resp) :
    ∃ out, gprsSndcpCompleteCompFields resp req = some out := by
  obtain ⟨req₀, out, hperm₀, hout₀⟩ := exists_perm_of_not_hopeless hhope
  exact ⟨out, (h.order req₀ hperm₀) ▸ hout₀⟩

theorem OnlyFillsGaps.gapsFilled (h : OnlyFillsGaps req resp)
    (hout : gprsSndcpCompleteCompFields resp req = some out) (hf : f ∈ resp) :
    GapsFilled req f (gprsSndcpCompleteCompField f req).1 := by
  have hforall := h.filled out hout
  rw [(gprsSndcpCompleteCompFields_eq_some.mp hout).2, List.forall₂_map_right_iff,
    List.forall₂_same] at hforall
  exact hforall f hf

/-- A field of the request that is put at the end decides, and leaves its traces. -/
theorem OnlyFillsGaps.last (h : OnlyFillsGaps req resp)
    (hout : gprsSndcpCompleteCompFields resp req = some out) (hf : f ∈ resp) (hg : g ∈ req)
    (he : g.entity = f.entity) : f.SameKind g ∧ ∃ x, CompField.Kept f x ∧
      (gprsSndcpCompleteCompField f req).1 = CompField.completeStep x g := by
  obtain ⟨before, behind, rfl⟩ := List.append_of_mem hg
  have hperm : (before ++ g :: behind).Perm (before ++ behind ++ [g]) :=
    List.perm_middle.trans (List.perm_append_singleton g (before ++ behind)).symm
  obtain ⟨hrc, hsame⟩ := complete_eq_of_perm hout (h.order _ hperm) hf
  obtain ⟨hfield, hdecides⟩ := CompField.complete_concat_of_eq (before ++ behind) he
  exact ⟨hdecides.mp hrc, _, CompField.kept_complete f _, hsame.symm.trans hfield⟩

/-- Its values are those of the completed field, if it has any. -/
theorem OnlyFillsGaps.comp_eq (h : OnlyFillsGaps req resp)
    (hout : gprsSndcpCompleteCompFields resp req = some out) (hf : f ∈ resp) (hg : g ∈ req)
    (he : g.entity = f.entity) (hne : g.comp ≠ []) :
    (gprsSndcpCompleteCompField f req).1.comp = g.comp := by
  obtain ⟨-, x, -, hx⟩ := h.last hout hf hg he
  rw [hx, CompField.completeStep, if_neg hne]

/-- The list of profiles that is left is that of the last field, or none. -/
theorem OnlyFillsGaps.profiles_eq (h : OnlyFillsGaps req resp)
    (hout : gprsSndcpCompleteCompFields resp req = some out) (hf : f ∈ resp) (hg : g ∈ req)
    (he : g.entity = f.entity) : g.profiles = f.profiles := by
  obtain ⟨hkind, x, hkept, hx⟩ := h.last hout hf hg he
  obtain ⟨dst, src, hdst, hsrc, hparams⟩ := id hkind
  have hresult := (h.gapsFilled hout hf).params g hg he hkind.compclass_eq dst src hdst hsrc
  obtain ⟨xdst, src', hxdst, hsrc', hxkind⟩ := (hkept.sameKind g).mpr hkind
  obtain rfl := Option.some_inj.mp (hsrc.symm.trans hsrc')
  have hstep := CompField.profiles_completeStep hxdst hsrc hxkind
  have hleft : (gprsSndcpCompleteCompField f req).1.profiles =
      if f.profiles = [] then g.profiles else f.profiles := by
    have hf' : f.profiles = dst.profiles := by rw [CompField.profiles, hdst, Option.elim_some]
    have hg' : g.profiles = src.profiles := by rw [CompField.profiles, hsrc, Option.elim_some]
    rw [CompField.profiles, hresult, Option.elim_some, hparams.profiles_filledFrom, hf', hg']
  rw [hx, hstep] at hleft
  by_cases hnil : f.profiles = []
  · rw [if_pos (hkept.profiles hnil), if_pos hnil] at hleft
    rw [hnil, ← hleft]
  · rw [if_neg hnil] at hleft
    by_cases hxnil : x.profiles = []
    · rw [if_pos hxnil] at hleft
      exact absurd hleft.symm hnil
    · rwa [if_neg hxnil] at hleft

theorem OnlyFillsGaps.agreeing (h : OnlyFillsGaps req resp) (hhope : ¬ Hopeless req resp) :
    Agreeing req resp := by
  obtain ⟨out, hout⟩ := h.exists_eq_some hhope
  intro f hf g hg he
  have hgaps := h.gapsFilled hout hf
  obtain ⟨hkind, -⟩ := h.last hout hf hg he
  refine ⟨⟨hkind, h.profiles_eq hout hf hg he, ?_⟩, fun g' hg' he' ↦ ⟨?_, ?_⟩⟩
  · by_cases hfnil : f.comp = []
    · exact .inl hfnil
    · by_cases hgnil : g.comp = []
      · exact .inr (.inl hgnil)
      · exact .inr (.inr ((h.comp_eq hout hf hg he hgnil).symm.trans (hgaps.comp hfnil)))
  · intro dst src src' hdst hsrc hsrc'
    obtain ⟨hkind', -⟩ := h.last hout hf hg' he'
    have hresult := hgaps.params g hg he hkind.compclass_eq dst src hdst hsrc
    have hresult' := hgaps.params g' hg' he' hkind'.compclass_eq dst src' hdst hsrc'
    exact Option.some_inj.mp (hresult.symm.trans hresult')
  · by_cases hgnil : g.comp = []
    · exact .inl hgnil
    · by_cases hgnil' : g'.comp = []
      · exact .inr (.inl hgnil')
      · exact .inr (.inr ((h.comp_eq hout hf hg he hgnil).symm.trans
          (h.comp_eq hout hf hg' he' hgnil')))

theorem Agreeing.onlyFillsGaps (h : Agreeing req resp) : OnlyFillsGaps req resp := by
  refine ⟨fun out hout ↦ ?_, fun req' hperm ↦ ?_⟩
  · rw [(gprsSndcpCompleteCompFields_eq_some.mp hout).2, List.forall₂_map_right_iff,
      List.forall₂_same]
    exact fun f hf ↦ h.gapsFilled hf
  · have hall (f : CompField) (hf : f ∈ resp) := h.complete_eq hperm hf
    have hout := gprsSndcpCompleteCompFields_eq_some.mpr
      ⟨fun f hf ↦ (h.complete_eq (.refl req) hf).1, rfl⟩
    refine (gprsSndcpCompleteCompFields_eq_some.mpr ⟨fun f hf ↦ (hall f hf).1, ?_⟩).trans
      hout.symm
    exact List.map_congr_left fun f hf ↦ (hall f hf).2.symm

theorem Hopeless.onlyFillsGaps (h : Hopeless req resp) : OnlyFillsGaps req resp := by
  refine ⟨fun out hout ↦ ?_, fun req' hperm ↦ ?_⟩
  · rw [h.eq_none (.refl req)] at hout
    simp at hout
  · rw [h.eq_none hperm, h.eq_none (.refl req)]

end Agreeing

/-- **Completing a response only fills its gaps** if the fields of the request that have the number
of a field of the response agree with it and with one another, or if every order fails, and in no
other case. -/
theorem onlyFillsGaps_iff (req resp : List CompField) :
    OnlyFillsGaps req resp ↔ Agreeing req resp ∨ Hopeless req resp := by
  constructor
  · intro h
    rw [or_iff_not_imp_right]
    exact h.agreeing
  · rintro (hagree | hhope)
    · exact hagree.onlyFillsGaps
    · exact hhope.onlyFillsGaps

/-- A request of robust header compression with one profile. -/
def exampleRequest : CompField := ⟨true, 7, 2, [1, 2], some (.rohc ⟨[5, 6], 15, 168, [1]⟩)⟩

/-- A response that leaves out the profiles. -/
def exampleResponse : CompField := ⟨false, 7, 2, [], some (.rohc ⟨[5, 6], 15, 168, []⟩)⟩

/-- The profiles that a response leaves out are not taken from the request. -/
theorem profiles_not_completed :
    gprsSndcpDecodeXid (message [2, 8, 7, 6, 0, 0x60, 0, 15, 0, 168] fun _ ↦ 0) 10
        (some (gprsSndcpFillTable [exampleRequest])) = some (-1, [exampleResponse]) ∧
      gprsSndcpCompleteCompFields [exampleResponse] [exampleRequest] =
        some [{ exampleResponse with comp := [1, 2] }] ∧
      ¬ OnlyFillsGaps [exampleRequest] [exampleResponse] := by
  refine ⟨by decide +kernel, rfl, fun h ↦ ?_⟩
  have hout := h.filled [{ exampleResponse with comp := [1, 2] }] rfl
  obtain ⟨hfilled, -⟩ := List.forall₂_cons.mp hout
  have hparams := hfilled.params exampleRequest (List.mem_singleton_self _) rfl rfl
    (.rohc ⟨[5, 6], 15, 168, []⟩) (.rohc ⟨[5, 6], 15, 168, [1]⟩) rfl rfl
  exact absurd hparams (by decide)

end OsmoSgsn.Sndcp
