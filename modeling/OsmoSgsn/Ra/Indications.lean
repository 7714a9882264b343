import OsmoSgsn.Ra.Unique

/-!
# The store over a run of calls

Every call keeps the store in order but one: a cell that is reported for a routing area that is
new, while another area of the location area has its identity. A run in which no cell moves to a
new area keeps all of the laws, and no assertion fails in it.
-/

namespace OsmoSgsn.Ra

open SgsnRaGlobal

variable {g : SgsnRaGlobal} {ra : SgsnRa} {nsei bvci : BitVec 16}

/-- A store that is sound and in which every area of a GERAN has a cell. -/
structure Ready (g : SgsnRaGlobal) : Prop where
  sound : Sound g
  alive : ∀ ra ∈ g.raList, ra.ranType = .geranGb → ra.cellsAliveList ≠ []

theorem Ready.consistent (h : Ready g) : Consistent g := h.sound.consistent h.alive

theorem ready_sgsnRaInit : Ready sgsnRaInit where
  sound := by
    refine ⟨List.nodup_nil, List.nodup_nil, ?_, ?_, ?_, ?_, ?_, ?_⟩
    all_goals
      intro ra hra
      exact absurd hra List.not_mem_nil
  alive ra hra := absurd hra List.not_mem_nil

/-! ## The calls one by one -/

/-- A new cell of an area that the store has. -/
theorem Ready.cellResetNew (h : Ready g) (nsei bvci : BitVec 16) (hra : ra ∈ g.raList)
    (ht : ra.ranType = .geranGb)
    {cgiPs : CellGlobalIdPs} (hrai : ra.rai = cgiPs.rai)
    (hnone : ra.geranGetCell cgiPs.cellIdentity = none) :
    ∃ g', g.cellResetNew ra nsei bvci cgiPs = some g' ∧ Ready g' := by
  have hlac : ra.rai.lac = cgiPs.rai.lac := congrArg RoutingAreaId.lac hrai
  cases hlai : g.geranGetCellByLai cgiPs.rai.lac cgiPs.cellIdentity with
  | none =>
    refine ⟨_, by rw [SgsnRaGlobal.cellResetNew, hlai], ?_, ?_⟩
    · exact h.sound.cellAllocGeran hra ht fun x hx hxlac ↦
        h.sound.geranGetCellByLai_eq_none hlai x hx (hxlac.trans hlac)
    · exact h.sound.alive_cellAllocGeran hra fun x hx hxt hnil ↦ absurd hnil (h.alive x hx hxt)
  | some c =>
    obtain ⟨old, hold, -, holdlac, hc, hid⟩ := geranGetCellByLai_eq_some hlai
    have hcra : c.ra = old.ptr := (h.sound.geran old hold c hc).2.2
    -- the area does not have the cell, so the one that has it is another
    have hne : c.ra ≠ ra.ptr := by
      intro heq
      obtain rfl := h.sound.eq_of_ptr hold hra (hcra.symm.trans heq)
      exact h.sound.geranGetCell_eq_none hra hnone c hc hid
    obtain ⟨g', hfree, hs, ha, hfrom, hkeep⟩ := h.sound.cellFree hold hc h.alive
    obtain ⟨ra', hra', hp, hrai', ht'⟩ : ∃ ra' ∈ g'.raList,
        ra'.ptr = ra.ptr ∧ ra'.rai = ra.rai ∧ ra'.ranType = ra.ranType :=
      ⟨_, hkeep ra hra (Ne.symm hne), rfl, rfl, rfl⟩
    refine ⟨g'.cellAllocGeran ra.ptr cgiPs.cellIdentity nsei bvci, ?_, ?_, ?_⟩
    · simp only [SgsnRaGlobal.cellResetNew, hlai, if_neg hne, hfree]
    · rw [← hp]
      refine hs.cellAllocGeran hra' (ht'.trans ht) fun x hx hxlac d hd hdid ↦ ?_
      obtain ⟨y, hy, hxy, hcells⟩ := hfrom x hx
      obtain ⟨hdy, hdp⟩ := hcells d hd
      have hylac : y.rai.lac = old.rai.lac := by
        rw [← hxy, holdlac, ← hlac, ← hrai']
        exact hxlac
      exact hdp (h.sound.cell y hy old hold hylac d hdy c hc (hdid.trans hid.symm))
    · rw [← hp]
      exact hs.alive_cellAllocGeran hra' fun x hx hxt hnil ↦ absurd hnil (ha x hx hxt)

/-- A cell of an area that is new, and whose identity is new in the location area. -/
theorem Ready.cellAllocNew (h : Ready g) {cgiPs : CellGlobalIdPs}
    (hget : g.getRa cgiPs.rai = none)
    (hlai : g.geranGetCellByLai cgiPs.rai.lac cgiPs.cellIdentity = none) :
    Ready ((g.raAlloc cgiPs.rai .geranGb).1.cellAllocGeran (g.raAlloc cgiPs.rai .geranGb).2.ptr
      cgiPs.cellIdentity nsei bvci) := by
  have hs : Sound (g.raAlloc cgiPs.rai .geranGb).1 := h.sound.raAlloc (getRa_eq_none hget) _
  have hra : (g.raAlloc cgiPs.rai .geranGb).2 ∈ (g.raAlloc cgiPs.rai .geranGb).1.raList :=
    List.mem_cons_self
  refine ⟨hs.cellAllocGeran hra rfl fun x hx hlac c hc ↦ ?_,
    hs.alive_cellAllocGeran hra fun x hx ht hnil ↦ ?_⟩
  · rcases List.mem_cons.mp hx with rfl | hx
    · exact absurd hc List.not_mem_nil
    · exact h.sound.geranGetCellByLai_eq_none hlai x hx hlac c hc
  · rcases List.mem_cons.mp hx with rfl | hx
    · rfl
    · exact absurd hnil (h.alive x hx ht)

/-- New addresses of a cell that the store has. -/
theorem Ready.update (h : Ready g) (p : CellPtr) (nsei bvci : BitVec 16) :
    Ready (g.modCells fun cells ↦ cells.map fun c ↦
      if c.ptr = p then { c with nsei := nsei, bvci := bvci } else c) where
  sound := by
    refine h.sound.map fun x _ ↦ ⟨rfl, rfl, rfl, ?_⟩
    -- neither address of a cell identifies it
    have hkey : ∀ c : SgsnRaCell,
        (if c.ptr = p then { c with nsei := nsei, bvci := bvci } else c).key = c.key := by
      intro c
      split <;> rfl
    simp only [List.map_map, Function.comp_def, hkey]
    exact .refl _
  alive x hx ht hnil := by
    obtain ⟨y, hy, rfl⟩ := List.mem_map.mp hx
    exact h.alive y hy ht (List.map_eq_nil_iff.mp hnil)

/-- What is left of an area is the area without some of its cells, and not without any. -/
theorem less_of_nseiFailure {ra' : SgsnRa} (h : ra.nseiFailure nsei = some ra') :
    Less ra' ra ∧
      (ra'.ranType = .geranGb → ra'.cellsAliveList = [] → ra.cellsAliveList = []) := by
  rw [SgsnRa.nseiFailure] at h
  by_cases ht : ra.ranType ≠ .geranGb
  · rw [if_pos ht] at h
    obtain rfl := Option.some.inj h
    exact ⟨⟨rfl, rfl, rfl, .refl _⟩, fun _ hnil ↦ hnil⟩
  · rw [if_neg ht] at h
    by_cases hnil : (ra.cellsAliveList.filter fun cell ↦ ¬ cell.onNsei nsei) = []
    · rw [if_pos hnil] at h
      exact absurd h (by simp)
    · rw [if_neg hnil] at h
      obtain rfl := Option.some.inj h
      exact ⟨.filter ra _, fun _ h0 ↦ absurd h0 hnil⟩

theorem Ready.geranNseiFailureInd (h : Ready g) (nsei : BitVec 16) :
    Ready (g.geranNseiFailureInd nsei).1 where
  sound := h.sound.filterMap fun _ _ _ heq ↦ (less_of_nseiFailure heq).1
  alive x' hx' ht hnil := by
    obtain ⟨x, hx, heq⟩ := List.mem_filterMap.mp hx'
    obtain ⟨hless, hempty⟩ := less_of_nseiFailure heq
    exact h.alive x hx (hless.ranType ▸ ht) (hempty ht hnil)

theorem Ready.modRncId (h : Ready g) (p : RaPtr) (rncId : Option RncId) :
    Ready (g.modRa p fun ra ↦ { ra with rncId := rncId }) where
  sound := by
    refine h.sound.map fun x _ ↦ ?_
    split
    · exact ⟨rfl, rfl, rfl, .refl _⟩
    · exact ⟨rfl, rfl, rfl, .refl _⟩
  alive x hx ht hnil := by
    obtain ⟨y, hy, rfl⟩ := List.mem_map.mp hx
    have hsame : ∀ y : SgsnRa, (if y.ptr = p then { y with rncId := rncId } else y).ranType =
        y.ranType ∧ (if y.ptr = p then { y with rncId := rncId } else y).cellsAliveList =
        y.cellsAliveList := by
      intro y
      split
      · exact ⟨rfl, rfl⟩
      · exact ⟨rfl, rfl⟩
    exact h.alive y hy ((hsame y).1 ▸ ht) ((hsame y).2 ▸ hnil)

theorem Ready.utranRegister (h : Ready g) (rai : RoutingAreaId) (rncId : RncId) :
    Ready (g.utranRegister rai rncId).1 := by
  rw [SgsnRaGlobal.utranRegister]
  cases hget : g.getRa rai with
  | none =>
    refine Ready.modRncId ⟨h.sound.raAlloc (getRa_eq_none hget) _, fun x hx ht ↦ ?_⟩ _ _
    rcases List.mem_cons.mp hx with rfl | hx
    · exact absurd ht SgsnRaRanType.noConfusion
    · exact h.alive x hx ht
  | some ra =>
    by_cases ht : ra.ranType = .geranGb
    · simp only [if_pos ht]
      exact h
    · simp only [if_neg ht]
      exact h.modRncId _ _

/-- Where the area of a cell that is reported is new, no other area of the location area has a cell
with the identity. -/
def NoMoveToNewArea (g : SgsnRaGlobal) : RaEvent → Prop
  | .bvcCellReset _ _ cgiPs => g.getRa cgiPs.rai = none →
    g.geranGetCellByLai cgiPs.rai.lac cgiPs.cellIdentity = none
  | _ => True

instance (g : SgsnRaGlobal) (e : RaEvent) : Decidable (NoMoveToNewArea g e) :=
  match e with
  | .bvcCellReset _ _ _ => inferInstanceAs (Decidable (_ → _))
  | .nseiFailure _ | .bvcSignReset _ | .cellFree _ | .utranRegister _ _ =>
    inferInstanceAs (Decidable True)

theorem Ready.geranBvcCellResetInd (h : Ready g) {cgiPs : CellGlobalIdPs}
    (hok : NoMoveToNewArea g (.bvcCellReset nsei bvci cgiPs)) :
    ∃ g' rc, g.geranBvcCellResetInd nsei bvci cgiPs = some (g', rc) ∧ Ready g' := by
  rw [SgsnRaGlobal.geranBvcCellResetInd]
  cases hg : g.geranGetRa cgiPs.rai with
  | none =>
    rw [raFindOrCreate]
    cases hget : g.getRa cgiPs.rai with
    | none => exact ⟨_, _, rfl, h.cellAllocNew hget (hok hget)⟩
    | some x =>
      have hx : x.ranType ≠ .geranGb := by
        intro ht
        rw [geranGetRa, hget] at hg
        simp [ht] at hg
      simp only [if_neg hx]
      exact ⟨g, -12, rfl, h⟩
  | some ra =>
    obtain ⟨hra, hrai, ht⟩ := geranGetRa_eq_some hg
    cases hcell : ra.geranGetCell cgiPs.cellIdentity with
    | none =>
      obtain ⟨g', hnew, hr⟩ := h.cellResetNew nsei bvci hra ht hrai hcell
      refine ⟨g', 0, ?_, hr⟩
      simp only [hcell, hnew, Option.map_some]
    | some c =>
      simp only [hcell, if_pos (geranGetCell_eq_some hcell).2.1]
      exact ⟨_, 0, rfl, h.update _ nsei bvci⟩

/-! ## Runs -/

/-- A call keeps a store in order, and the process runs on. -/
theorem Ready.call (h : Ready g) {e : RaEvent} (hok : NoMoveToNewArea g e) :
    ∃ g' rc, g.call e = some (g', rc) ∧ Ready g' := by
  cases e with
  | bvcCellReset nsei bvci cgiPs => exact h.geranBvcCellResetInd hok
  | nseiFailure nsei => exact ⟨_, _, rfl, h.geranNseiFailureInd nsei⟩
  | bvcSignReset nsei => exact ⟨_, _, rfl, h.geranNseiFailureInd nsei⟩
  | cellFree p =>
    rw [SgsnRaGlobal.call]
    cases hc : g.cell? p with
    | none => exact ⟨g, 0, rfl, h⟩
    | some c =>
      obtain ⟨ra, hra, hf⟩ := List.exists_of_findSome?_eq_some hc
      obtain ⟨g', hfree, hs, ha, -⟩ := h.sound.cellFree hra (List.mem_of_find?_eq_some hf) h.alive
      exact ⟨g', 0, by simp only [hfree, Option.map_some], hs, ha⟩
  | utranRegister rai rncId => exact ⟨_, _, rfl, h.utranRegister rai rncId⟩

/-- **The store of routing areas.** In every sequence of calls in which no cell that is known in a
location area is reported for a routing area that is new, the process is not aborted, and after
every call there is at most one area for each identity, no area of a GERAN is without cells, every
cell points at the area that lists it, no cell identity occurs twice in a location area, and the
lookups with and without the routing area agree. -/
theorem consistent_run {es : List RaEvent}
    (hes : raStore.Meets (fun g e ↦ ∀ g' ∈ g, NoMoveToNewArea g' e) (some sgsnRaInit) es) :
    ∃ g, raStore.run (some sgsnRaInit) es = some g ∧ Consistent g := by
  have hrun := Machine.invariant_run (M := raStore) _ (fun g ↦ ∃ g', g = some g' ∧ Ready g') ?_
    ⟨sgsnRaInit, rfl, ready_sgsnRaInit⟩ hes
  · obtain ⟨g, hg, hr⟩ := hrun
    exact ⟨g, hg, hr.consistent⟩
  · rintro - e ⟨g, rfl, hr⟩ hok
    obtain ⟨g', rc, hcall, hr'⟩ := hr.call (hok g rfl)
    refine ⟨g', ?_, hr'⟩
    simp only [raStore, Option.bind_some, hcall]

/-! ## Two routing areas of one location area -/

/-- A routing area of location area 1. -/
def areaOf (rac : BitVec 8) : RoutingAreaId := ⟨⟨⟨262, 42, false⟩, 1⟩, rac⟩

/-- A cell is reported for area 1 and another one for area 2, the first one moves to area 2, and
the network service entity of the second one fails. -/
def movingRun : List RaEvent :=
  [.bvcCellReset 101 2 ⟨areaOf 1, 5⟩, .bvcCellReset 102 3 ⟨areaOf 2, 6⟩,
    .bvcCellReset 101 2 ⟨areaOf 2, 5⟩, .nseiFailure 102,
    .utranRegister (areaOf 3) ⟨⟨262, 42, false⟩, 7⟩]

theorem consistent_movingRun :
    ∃ g, raStore.run (some sgsnRaInit) movingRun = some g ∧ Consistent g := by
  suffices hes :
      raStore.Meets (fun g e ↦ ∀ g' ∈ g, NoMoveToNewArea g' e) (some sgsnRaInit) movingRun from
    consistent_run hes
  refine ⟨?_, ?_, ?_, ?_, ?_, trivial⟩
  all_goals
    intro g hg
    obtain rfl := Option.mem_some_iff.mp hg
    decide

/-- A cell that moves to an area that is new is known twice in its location area. -/
theorem cell_twice_in_location_area :
    ¬ ∃ g, raStore.run (some sgsnRaInit)
      [.bvcCellReset 101 2 ⟨areaOf 1, 5⟩, .bvcCellReset 101 2 ⟨areaOf 2, 5⟩] = some g ∧
        Consistent g := by
  rintro ⟨g, hg, hc⟩
  obtain rfl := Option.some.inj hg
  have hsame := hc.cell ⟨1, areaOf 2, .geranGb, none, [⟨1, 1, .geranGb, 101, 2, 5⟩]⟩ (by decide)
    ⟨0, areaOf 1, .geranGb, none, [⟨0, 0, .geranGb, 101, 2, 5⟩]⟩ (by decide) rfl
    ⟨1, 1, .geranGb, 101, 2, 5⟩ (by decide) ⟨0, 0, .geranGb, 101, 2, 5⟩ (by decide) rfl
  exact absurd hsame.2 (by decide)

end OsmoSgsn.Ra
