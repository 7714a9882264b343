import OsmoSgsn.Ra.Store

/-!
# One area for each identity, one cell for each identity

Between two calls the store has at most one area for each routing area identity, every area of a
GERAN has a cell, every cell points at the area that lists it, and within a location area no cell
identity belongs to two cells. The last is what a lookup without the routing area relies on.

It is lost in one way. A cell that is reported for a routing area that the store has is searched
for in the whole location area and taken out of the area that it has left; where the routing area
is new, nothing is searched, and the old entry stays.
-/

namespace OsmoSgsn.Ra

open SgsnRaGlobal

/-! ## The laws -/

/-- A store that is in order. -/
structure Consistent (g : SgsnRaGlobal) : Prop where
  /-- At most one area exists for each identity. -/
  area : (g.raList.map (·.rai)).Nodup
  /-- No area of a GERAN is without cells. -/
  alive : ∀ ra ∈ g.raList, ra.ranType = .geranGb → ra.cellsAliveList ≠ []
  /-- The area that a cell points to is the one that lists it. -/
  parent : ∀ ra ∈ g.raList, ∀ cell ∈ ra.cellsAliveList,
    g.raList.find? (·.ptr = cell.ra) = some ra
  /-- Within a location area no identity belongs to two cells. -/
  cell : ∀ ra ∈ g.raList, ∀ ra' ∈ g.raList, ra.rai.lac = ra'.rai.lac →
    ∀ c ∈ ra.cellsAliveList, ∀ c' ∈ ra'.cellsAliveList, c.cellId = c'.cellId → ra = ra' ∧ c = c'
  /-- What is found with the routing area is found without it. -/
  byCgi : ∀ (cgiPs : CellGlobalIdPs) cell, g.geranGetCellByCgiPs cgiPs = some cell →
    g.geranGetCellByCgi ⟨cgiPs.rai.lac, cgiPs.cellIdentity⟩ = some cell
  /-- What is found without the routing area is found with the one that lists it. -/
  byCgiPs : ∀ (cgi : CellGlobalId) cell, g.geranGetCellByCgi cgi = some cell →
    ∃ ra ∈ g.raList, ra.rai.lac = cgi.lai ∧ cell ∈ ra.cellsAliveList ∧
      g.geranGetCellByCgiPs ⟨ra.rai, cgi.cellIdentity⟩ = some cell

/-- What identifies a cell. -/
def SgsnRaCell.key (cell : SgsnRaCell) : CellPtr × RaPtr × SgsnRaRanType × BitVec 16 :=
  (cell.ptr, cell.ra, cell.ranType, cell.cellId)

/-- What holds while the store is written to: the laws but for the areas that have no cell, with
the pointers that they rest on. -/
structure Sound (g : SgsnRaGlobal) : Prop where
  area : (g.raList.map (·.rai)).Nodup
  ptr : (g.raList.map (·.ptr)).Nodup
  ptr_lt : ∀ ra ∈ g.raList, ra.ptr < g.nextRa
  cell_lt : ∀ ra ∈ g.raList, ∀ c ∈ ra.cellsAliveList, c.ptr < g.nextCell
  geran : ∀ ra ∈ g.raList, ∀ c ∈ ra.cellsAliveList,
    ra.ranType = .geranGb ∧ c.ranType = .geranGb ∧ c.ra = ra.ptr
  cellPtr : ∀ ra ∈ g.raList, (ra.cellsAliveList.map (·.ptr)).Nodup
  cell : ∀ ra ∈ g.raList, ∀ ra' ∈ g.raList, ra.rai.lac = ra'.rai.lac →
    ∀ c ∈ ra.cellsAliveList, ∀ c' ∈ ra'.cellsAliveList, c.cellId = c'.cellId → c.ptr = c'.ptr
  list : ∀ ra ∈ g.raList, ∀ ra' ∈ g.raList, ∀ c ∈ ra.cellsAliveList,
    ∀ c' ∈ ra'.cellsAliveList, c.ptr = c'.ptr → ra.ptr = ra'.ptr

/-- No area of a GERAN is without cells, but for one. -/
def AliveBut (p : RaPtr) (g : SgsnRaGlobal) : Prop :=
  ∀ ra ∈ g.raList, ra.ranType = .geranGb → ra.cellsAliveList = [] → ra.ptr = p

variable {g : SgsnRaGlobal} {ra ra' : SgsnRa} {c c' : SgsnRaCell} {lai : LocationAreaId}
  {cellId nsei bvci : BitVec 16}

theorem Sound.eq_of_ptr (h : Sound g) (hra : ra ∈ g.raList) (hra' : ra' ∈ g.raList)
    (hp : ra.ptr = ra'.ptr) : ra = ra' :=
  List.inj_on_of_nodup_map h.ptr hra hra' hp

theorem Sound.eq_of_rai (h : Sound g) (hra : ra ∈ g.raList) (hra' : ra' ∈ g.raList)
    (hr : ra.rai = ra'.rai) : ra = ra' :=
  List.inj_on_of_nodup_map h.area hra hra' hr

theorem Sound.eq_of_cellPtr (h : Sound g) (hra : ra ∈ g.raList) (hra' : ra' ∈ g.raList)
    (hc : c ∈ ra.cellsAliveList) (hc' : c' ∈ ra'.cellsAliveList) (hp : c.ptr = c'.ptr) :
    ra = ra' ∧ c = c' := by
  obtain rfl := h.eq_of_ptr hra hra' (h.list ra hra ra' hra' c hc c' hc' hp)
  exact ⟨rfl, List.inj_on_of_nodup_map (h.cellPtr ra hra) hc hc' hp⟩

theorem Sound.find_ptr (h : Sound g) (hra : ra ∈ g.raList) {p : RaPtr} (hp : ra.ptr = p) :
    g.raList.find? (·.ptr = p) = some ra := by
  cases hf : g.raList.find? (·.ptr = p) with
  | none =>
    have hne := List.find?_eq_none.mp hf ra hra
    simp [hp] at hne
  | some ra' =>
    have hp' : ra'.ptr = p := by simpa using List.find?_some hf
    rw [h.eq_of_ptr (List.mem_of_find?_eq_some hf) hra (hp'.trans hp.symm)]

/-! ## Lookups -/

theorem getRa_eq_some {rai : RoutingAreaId} (h : g.getRa rai = some ra) :
    ra ∈ g.raList ∧ ra.rai = rai :=
  ⟨List.mem_of_find?_eq_some h, by simpa using List.find?_some h⟩

theorem getRa_eq_none {rai : RoutingAreaId} (h : g.getRa rai = none) :
    ∀ ra ∈ g.raList, ra.rai ≠ rai := by
  intro ra hra
  simpa using List.find?_eq_none.mp h ra hra

theorem geranGetRa_eq_some {rai : RoutingAreaId} (h : g.geranGetRa rai = some ra) :
    ra ∈ g.raList ∧ ra.rai = rai ∧ ra.ranType = .geranGb := by
  rw [geranGetRa] at h
  cases hg : g.getRa rai with
  | none =>
    rw [hg] at h
    exact absurd h (by simp)
  | some x =>
    simp only [hg] at h
    split at h
    · obtain rfl := Option.some.inj h
      exact ⟨(getRa_eq_some hg).1, (getRa_eq_some hg).2, ‹_›⟩
    · exact absurd h (by simp)

theorem geranGetCell_eq_some (h : ra.geranGetCell cellId = some c) :
    c ∈ ra.cellsAliveList ∧ c.ranType = .geranGb ∧ c.cellId = cellId := by
  rw [SgsnRa.geranGetCell] at h
  split at h
  · exact absurd h (by simp)
  · have hc : c.isGeran cellId = true :=
      List.find?_some (p := fun c : SgsnRaCell ↦ c.isGeran cellId) h
    rw [SgsnRaCell.isGeran, decide_eq_true_eq] at hc
    exact ⟨List.mem_of_find?_eq_some h, hc⟩

theorem Sound.geranGetCell_eq_none (h : Sound g) (hra : ra ∈ g.raList)
    (hn : ra.geranGetCell cellId = none) : ∀ c ∈ ra.cellsAliveList, c.cellId ≠ cellId := by
  intro c hc hid
  obtain ⟨ht, hct, -⟩ := h.geran ra hra c hc
  rw [SgsnRa.geranGetCell, if_neg (by simp [ht])] at hn
  have hnot := List.find?_eq_none.mp hn c hc
  rw [SgsnRaCell.isGeran, decide_eq_true_eq] at hnot
  exact hnot ⟨hct, hid⟩

theorem geranGetCellByLai_eq_some (h : g.geranGetCellByLai lai cellId = some c) :
    ∃ ra ∈ g.raList, ra.ranType = .geranGb ∧ ra.rai.lac = lai ∧ c ∈ ra.cellsAliveList ∧
      c.cellId = cellId := by
  obtain ⟨ra, hra, hf⟩ := List.exists_of_findSome?_eq_some h
  split at hf
  · exact absurd hf (by simp)
  · rename_i ht
    split at hf
    · exact absurd hf (by simp)
    · rename_i hlac
      have hc : c.isGeran cellId = true :=
        List.find?_some (p := fun c : SgsnRaCell ↦ c.isGeran cellId) hf
      rw [SgsnRaCell.isGeran, decide_eq_true_eq] at hc
      exact ⟨ra, hra, not_not.mp ht, not_not.mp hlac, List.mem_of_find?_eq_some hf, hc.2⟩

theorem Sound.geranGetCellByLai_eq_none (h : Sound g)
    (hn : g.geranGetCellByLai lai cellId = none) : ∀ ra ∈ g.raList, ra.rai.lac = lai →
    ∀ c ∈ ra.cellsAliveList, c.cellId ≠ cellId := by
  intro ra hra hlac c hc hid
  obtain ⟨ht, hct, -⟩ := h.geran ra hra c hc
  have hnone := List.findSome?_eq_none_iff.mp hn ra hra
  rw [if_neg (by simp [ht]), if_neg (by simp [hlac])] at hnone
  have hnot := List.find?_eq_none.mp hnone c hc
  rw [SgsnRaCell.isGeran, decide_eq_true_eq] at hnot
  exact hnot ⟨hct, hid⟩

/-- In a store that is in order, every cell is found by its identities. -/
theorem Sound.lookups (h : Sound g) (hra : ra ∈ g.raList) (hc : c ∈ ra.cellsAliveList) :
    g.geranGetCellByCgi ⟨ra.rai.lac, c.cellId⟩ = some c ∧
      g.geranGetCellByCgiPs ⟨ra.rai, c.cellId⟩ = some c := by
  constructor
  · cases hf : g.geranGetCellByCgi ⟨ra.rai.lac, c.cellId⟩ with
    | none => exact absurd rfl (h.geranGetCellByLai_eq_none hf ra hra rfl c hc)
    | some c' =>
      obtain ⟨ra', hra', -, hlac, hc', hid⟩ := geranGetCellByLai_eq_some hf
      have hp := h.cell ra' hra' ra hra hlac c' hc' c hc hid
      rw [(h.eq_of_cellPtr hra' hra hc' hc hp).2]
  · have hget : g.geranGetRa ra.rai = some ra := by
      rw [geranGetRa]
      cases hg : g.getRa ra.rai with
      | none => exact absurd rfl (getRa_eq_none hg ra hra)
      | some x =>
        obtain rfl := h.eq_of_rai (getRa_eq_some hg).1 hra (getRa_eq_some hg).2
        exact if_pos (h.geran x hra c hc).1
    rw [geranGetCellByCgiPs, hget]
    cases hf : ra.geranGetCell c.cellId with
    | none => exact absurd rfl (h.geranGetCell_eq_none hra hf c hc)
    | some c' =>
      obtain ⟨hc', -, hid⟩ := geranGetCell_eq_some hf
      have hp := h.cell ra hra ra hra rfl c' hc' c hc hid
      exact hf.trans (congrArg some (h.eq_of_cellPtr hra hra hc' hc hp).2)

/-- The laws, of a store that is sound and in which every area of a GERAN has a cell. -/
theorem Sound.consistent (h : Sound g)
    (ha : ∀ ra ∈ g.raList, ra.ranType = .geranGb → ra.cellsAliveList ≠ []) : Consistent g where
  area := h.area
  alive := ha
  parent ra hra c hc := h.find_ptr hra (h.geran ra hra c hc).2.2.symm
  cell ra hra ra' hra' hlac c hc c' hc' hid :=
    h.eq_of_cellPtr hra hra' hc hc' (h.cell ra hra ra' hra' hlac c hc c' hc' hid)
  byCgi cgiPs c hf := by
    rw [geranGetCellByCgiPs] at hf
    cases hg : g.geranGetRa cgiPs.rai with
    | none =>
      rw [hg] at hf
      exact absurd hf (by simp)
    | some ra =>
      rw [hg] at hf
      obtain ⟨hra, hrai, -⟩ := geranGetRa_eq_some hg
      obtain ⟨hc, -, hid⟩ := geranGetCell_eq_some hf
      rw [← hrai, ← hid]
      exact (h.lookups hra hc).1
  byCgiPs cgi c hf := by
    obtain ⟨ra, hra, -, hlac, hc, hid⟩ := geranGetCellByLai_eq_some hf
    refine ⟨ra, hra, hlac, hc, ?_⟩
    rw [← hid]
    exact (h.lookups hra hc).2

/-! ## Areas and cells that go -/

/-- What is left of an area after cells were dropped from it or data was written to it that
identifies neither the area nor a cell. -/
structure Less (ra' ra : SgsnRa) : Prop where
  ptr : ra'.ptr = ra.ptr
  rai : ra'.rai = ra.rai
  ranType : ra'.ranType = ra.ranType
  cells : (ra'.cellsAliveList.map (·.key)).Sublist (ra.cellsAliveList.map (·.key))

theorem Less.exists_mem (h : Less ra' ra) (hc : c' ∈ ra'.cellsAliveList) :
    ∃ c ∈ ra.cellsAliveList, c.ptr = c'.ptr ∧ c.ra = c'.ra ∧ c.ranType = c'.ranType ∧
      c.cellId = c'.cellId := by
  obtain ⟨c, hc₁, hkey⟩ := List.mem_map.mp (h.cells.subset (List.mem_map_of_mem hc))
  simp only [SgsnRaCell.key, Prod.mk.injEq] at hkey
  exact ⟨c, hc₁, hkey⟩

theorem Less.filter (ra : SgsnRa) (p : SgsnRaCell → Bool) :
    Less { ra with cellsAliveList := ra.cellsAliveList.filter p } ra :=
  ⟨rfl, rfl, rfl, List.filter_sublist.map _⟩

theorem map_filterMap_sublist {α β : Type*} {f : α → Option α} {k : α → β} {l : List α}
    (hf : ∀ a ∈ l, ∀ b, f a = some b → k b = k a) : ((l.filterMap f).map k).Sublist (l.map k) := by
  induction l with
  | nil => simp
  | cons a l ih =>
    have ih' := ih fun x hx ↦ hf x (List.mem_cons_of_mem _ hx)
    cases ha : f a with
    | none =>
      rw [List.filterMap_cons_none ha]
      exact ih'.cons _
    | some b =>
      rw [List.filterMap_cons_some ha, List.map_cons, List.map_cons, hf a List.mem_cons_self b ha]
      exact ih'.cons_cons _

/-- Dropping areas and cells keeps a store sound. -/
theorem Sound.filterMap (h : Sound g) {f : SgsnRa → Option SgsnRa}
    (hf : ∀ ra ∈ g.raList, ∀ ra', f ra = some ra' → Less ra' ra) :
    Sound { g with raList := g.raList.filterMap f } := by
  have hmem : ∀ ra' ∈ g.raList.filterMap f, ∃ ra ∈ g.raList, Less ra' ra := by
    intro ra' hra'
    obtain ⟨ra, hra, heq⟩ := List.mem_filterMap.mp hra'
    exact ⟨ra, hra, hf ra hra ra' heq⟩
  refine ⟨?_, ?_, ?_, ?_, ?_, ?_, ?_, ?_⟩
  · exact h.area.sublist (map_filterMap_sublist fun ra hra ra' heq ↦ (hf ra hra ra' heq).rai)
  · exact h.ptr.sublist (map_filterMap_sublist fun ra hra ra' heq ↦ (hf ra hra ra' heq).ptr)
  · intro ra' hra'
    obtain ⟨ra, hra, hl⟩ := hmem ra' hra'
    rw [hl.ptr]
    exact h.ptr_lt ra hra
  · intro ra' hra' c' hc'
    obtain ⟨ra, hra, hl⟩ := hmem ra' hra'
    obtain ⟨c, hc, hp, -⟩ := hl.exists_mem hc'
    rw [← hp]
    exact h.cell_lt ra hra c hc
  · intro ra' hra' c' hc'
    obtain ⟨ra, hra, hl⟩ := hmem ra' hra'
    obtain ⟨c, hc, -, hr, ht, -⟩ := hl.exists_mem hc'
    rw [hl.ranType, hl.ptr, ← hr, ← ht]
    exact h.geran ra hra c hc
  · intro ra' hra'
    obtain ⟨ra, hra, hl⟩ := hmem ra' hra'
    have hsub := hl.cells.map Prod.fst
    rw [List.map_map, List.map_map] at hsub
    exact (h.cellPtr ra hra).sublist hsub
  · intro x' hx' y' hy' hlac c' hc' d' hd' hid
    obtain ⟨x, hx, hlx⟩ := hmem x' hx'
    obtain ⟨y, hy, hly⟩ := hmem y' hy'
    obtain ⟨c, hc, hcp, -, -, hcid⟩ := hlx.exists_mem hc'
    obtain ⟨d, hd, hdp, -, -, hdid⟩ := hly.exists_mem hd'
    rw [hlx.rai, hly.rai] at hlac
    rw [← hcp, ← hdp]
    exact h.cell x hx y hy hlac c hc d hd (hcid.trans (hid.trans hdid.symm))
  · intro x' hx' y' hy' c' hc' d' hd' hp
    obtain ⟨x, hx, hlx⟩ := hmem x' hx'
    obtain ⟨y, hy, hly⟩ := hmem y' hy'
    obtain ⟨c, hc, hcp, -⟩ := hlx.exists_mem hc'
    obtain ⟨d, hd, hdp, -⟩ := hly.exists_mem hd'
    rw [hlx.ptr, hly.ptr]
    exact h.list x hx y hy c hc d hd (hcp.trans (hp.trans hdp.symm))

/-- Writing to areas is the case in which none is dropped. -/
theorem Sound.map (h : Sound g) {f : SgsnRa → SgsnRa} (hf : ∀ ra ∈ g.raList, Less (f ra) ra) :
    Sound { g with raList := g.raList.map f } := by
  rw [← List.filterMap_eq_map]
  refine h.filterMap fun ra hra ra' heq ↦ ?_
  obtain rfl := Option.some.inj heq
  exact hf ra hra

theorem Sound.raFree (h : Sound g) (p : RaPtr) : Sound (g.raFree p) := by
  rw [SgsnRaGlobal.raFree, ← List.filterMap_eq_filter]
  refine h.filterMap fun ra hra ra' heq ↦ ?_
  obtain ⟨-, rfl⟩ : _ ∧ ra = ra' := by simpa [Option.guard] using heq
  exact ⟨rfl, rfl, rfl, .refl _⟩

theorem Sound.cellUnlink (h : Sound g) (p : CellPtr) : Sound (g.cellUnlink p) :=
  h.map fun ra _ ↦ Less.filter ra _

/-! ## Areas and cells that come -/

theorem Sound.raAlloc (h : Sound g) {rai : RoutingAreaId} (hrai : ∀ ra ∈ g.raList, ra.rai ≠ rai)
    (ranType : SgsnRaRanType) : Sound (g.raAlloc rai ranType).1 := by
  have hcells : ∀ ra ∈ (g.raAlloc rai ranType).1.raList, ∀ c ∈ ra.cellsAliveList,
      ra ∈ g.raList := by
    intro ra hra c hc
    rcases List.mem_cons.mp hra with rfl | hra
    · exact absurd hc (by simp)
    · exact hra
  refine ⟨?_, ?_, ?_, ?_, ?_, ?_, ?_, ?_⟩
  · refine List.nodup_cons.mpr ⟨fun hmem ↦ ?_, h.area⟩
    obtain ⟨ra, hra, heq⟩ := List.mem_map.mp hmem
    exact hrai ra hra heq
  · refine List.nodup_cons.mpr ⟨fun hmem ↦ ?_, h.ptr⟩
    obtain ⟨ra, hra, heq⟩ := List.mem_map.mp hmem
    exact (h.ptr_lt ra hra).ne heq
  · intro ra hra
    rcases List.mem_cons.mp hra with rfl | hra
    · exact Nat.lt_succ_self _
    · exact Nat.lt_succ_of_lt (h.ptr_lt ra hra)
  · exact fun ra hra c hc ↦ h.cell_lt ra (hcells ra hra c hc) c hc
  · exact fun ra hra c hc ↦ h.geran ra (hcells ra hra c hc) c hc
  · intro ra hra
    rcases List.mem_cons.mp hra with rfl | hra
    · exact List.nodup_nil
    · exact h.cellPtr ra hra
  · intro x hx y hy hlac c hc d hd
    exact h.cell x (hcells x hx c hc) y (hcells y hy d hd) hlac c hc d hd
  · intro x hx y hy c hc d hd
    exact h.list x (hcells x hx c hc) y (hcells y hy d hd) c hc d hd

/-- Where the areas and the cells of a store are from that has one more cell. -/
theorem Sound.mem_cellAllocGeran (h : Sound g) (hra : ra ∈ g.raList) {x : SgsnRa}
    (hx : x ∈ (g.cellAllocGeran ra.ptr cellId nsei bvci).raList) :
    ∃ y ∈ g.raList, x.ptr = y.ptr ∧ x.rai = y.rai ∧ x.ranType = y.ranType ∧
      ((y ≠ ra ∧ x.cellsAliveList = y.cellsAliveList) ∨ (y = ra ∧ x.cellsAliveList =
        ⟨g.nextCell, ra.ptr, .geranGb, nsei, bvci, cellId⟩ :: ra.cellsAliveList)) := by
  obtain ⟨y, hy, rfl⟩ := List.mem_map.mp hx
  refine ⟨y, hy, ?_⟩
  by_cases hp : y.ptr = ra.ptr
  · obtain rfl := h.eq_of_ptr hy hra hp
    rw [if_pos rfl]
    exact ⟨rfl, rfl, rfl, .inr ⟨rfl, rfl⟩⟩
  · rw [if_neg hp]
    exact ⟨rfl, rfl, rfl, .inl ⟨fun heq ↦ hp (heq ▸ rfl), rfl⟩⟩

theorem Sound.mem_cells_cellAllocGeran (h : Sound g) (hra : ra ∈ g.raList) {x : SgsnRa}
    (hx : x ∈ (g.cellAllocGeran ra.ptr cellId nsei bvci).raList) (hc : c ∈ x.cellsAliveList) :
    ∃ y ∈ g.raList, x.ptr = y.ptr ∧ x.rai = y.rai ∧ x.ranType = y.ranType ∧
      (c ∈ y.cellsAliveList ∨
        (y = ra ∧ c = ⟨g.nextCell, ra.ptr, .geranGb, nsei, bvci, cellId⟩)) := by
  obtain ⟨y, hy, hp, hrai, ht, hcells⟩ := h.mem_cellAllocGeran hra hx
  refine ⟨y, hy, hp, hrai, ht, ?_⟩
  rcases hcells with ⟨-, hcells⟩ | ⟨rfl, hcells⟩
  · exact .inl (hcells ▸ hc)
  · exact (List.mem_cons.mp (hcells ▸ hc)).symm.imp_right fun heq ↦ ⟨rfl, heq⟩

theorem map_cellAllocGeran {α : Type*} {k : SgsnRa → α}
    (hk : ∀ (ra : SgsnRa) cells, k { ra with cellsAliveList := cells } = k ra) (p : RaPtr) :
    (g.cellAllocGeran p cellId nsei bvci).raList.map k = g.raList.map k := by
  simp only [SgsnRaGlobal.cellAllocGeran, modRa, List.map_map]
  refine List.map_congr_left fun x _ ↦ ?_
  rw [Function.comp_apply]
  split
  · exact hk x _
  · rfl

/-- A cell whose identity is new in the location area may be added to an area of a GERAN. -/
theorem Sound.cellAllocGeran (h : Sound g) (hra : ra ∈ g.raList) (ht : ra.ranType = .geranGb)
    (hnew : ∀ x ∈ g.raList, x.rai.lac = ra.rai.lac → ∀ c ∈ x.cellsAliveList, c.cellId ≠ cellId) :
    Sound (g.cellAllocGeran ra.ptr cellId nsei bvci) := by
  refine ⟨?_, ?_, ?_, ?_, ?_, ?_, ?_, ?_⟩
  · rw [map_cellAllocGeran fun _ _ ↦ rfl]
    exact h.area
  · rw [map_cellAllocGeran fun _ _ ↦ rfl]
    exact h.ptr
  · intro x hx
    obtain ⟨y, hy, hp, -⟩ := h.mem_cellAllocGeran hra hx
    rw [hp]
    exact h.ptr_lt y hy
  · intro x hx c hc
    obtain ⟨y, hy, -, -, -, hc | ⟨-, rfl⟩⟩ := h.mem_cells_cellAllocGeran hra hx hc
    · exact Nat.lt_succ_of_lt (h.cell_lt y hy c hc)
    · exact Nat.lt_succ_self _
  · intro x hx c hc
    obtain ⟨y, hy, hp, -, hty, hc | ⟨rfl, rfl⟩⟩ := h.mem_cells_cellAllocGeran hra hx hc
    · rw [hp, hty]
      exact h.geran y hy c hc
    · rw [hp, hty]
      exact ⟨ht, rfl, rfl⟩
  · intro x hx
    obtain ⟨y, hy, -, -, -, ⟨-, hcells⟩ | ⟨rfl, hcells⟩⟩ := h.mem_cellAllocGeran hra hx
    · rw [hcells]
      exact h.cellPtr y hy
    · rw [hcells]
      refine List.nodup_cons.mpr ⟨fun hmem ↦ ?_, h.cellPtr y hy⟩
      obtain ⟨c, hc, heq⟩ := List.mem_map.mp hmem
      exact (h.cell_lt y hy c hc).ne heq
  · intro x hx x' hx' hlac c hc c' hc' hid
    obtain ⟨y, hy, -, hrai, -, hc⟩ := h.mem_cells_cellAllocGeran hra hx hc
    obtain ⟨y', hy', -, hrai', -, hc'⟩ := h.mem_cells_cellAllocGeran hra hx' hc'
    rw [hrai, hrai'] at hlac
    rcases hc with hc | ⟨rfl, rfl⟩
    · rcases hc' with hc' | ⟨rfl, rfl⟩
      · exact h.cell y hy y' hy' hlac c hc c' hc' hid
      · exact absurd hid (hnew y hy hlac c hc)
    · rcases hc' with hc' | ⟨rfl, rfl⟩
      · exact absurd hid.symm (hnew y' hy' hlac.symm c' hc')
      · rfl
  · intro x hx x' hx' c hc c' hc' hp
    obtain ⟨y, hy, hpy, -, -, hc⟩ := h.mem_cells_cellAllocGeran hra hx hc
    obtain ⟨y', hy', hpy', -, -, hc'⟩ := h.mem_cells_cellAllocGeran hra hx' hc'
    rw [hpy, hpy']
    rcases hc with hc | ⟨rfl, rfl⟩
    · rcases hc' with hc' | ⟨rfl, rfl⟩
      · exact h.list y hy y' hy' c hc c' hc' hp
      · exact absurd hp (h.cell_lt y hy c hc).ne
    · rcases hc' with hc' | ⟨rfl, rfl⟩
      · exact absurd hp.symm (h.cell_lt y' hy' c' hc').ne
      · rfl

/-- The area that has got a cell is not without one. -/
theorem Sound.alive_cellAllocGeran (h : Sound g) (hra : ra ∈ g.raList)
    (ha : AliveBut ra.ptr g) :
    ∀ x ∈ (g.cellAllocGeran ra.ptr cellId nsei bvci).raList, x.ranType = .geranGb →
      x.cellsAliveList ≠ [] := by
  intro x hx ht
  obtain ⟨y, hy, -, -, hty, ⟨hne, hcells⟩ | ⟨-, hcells⟩⟩ := h.mem_cellAllocGeran hra hx
  · rw [hcells]
    exact fun hnil ↦ hne (h.eq_of_ptr hy hra (ha y hy (hty ▸ ht) hnil))
  · rw [hcells]
    simp

/-! ## Dropping a cell -/

/-- Where the cells of a store are from in which one was dropped. -/
theorem mem_cellUnlink {p : CellPtr} {x : SgsnRa} (hx : x ∈ (g.cellUnlink p).raList) :
    ∃ y ∈ g.raList, x = { y with cellsAliveList := y.cellsAliveList.filter (·.ptr ≠ p) } := by
  obtain ⟨y, hy, rfl⟩ := List.mem_map.mp hx
  exact ⟨y, hy, rfl⟩

/-- `_sgsn_ra_cell_free`, for a cell that an area lists: the cell goes, and the area with it if it
was the last one. -/
theorem Sound.cellFree (h : Sound g) (hra : ra ∈ g.raList) (hc : c ∈ ra.cellsAliveList)
    (ha : ∀ x ∈ g.raList, x.ranType = .geranGb → x.cellsAliveList ≠ []) :
    ∃ g', g.cellFree c = some g' ∧ Sound g' ∧
      (∀ x ∈ g'.raList, x.ranType = .geranGb → x.cellsAliveList ≠ []) ∧
      (∀ x ∈ g'.raList, ∃ y ∈ g.raList, x.rai = y.rai ∧
        ∀ d ∈ x.cellsAliveList, d ∈ y.cellsAliveList ∧ d.ptr ≠ c.ptr) ∧
      ∀ x ∈ g.raList, x.ptr ≠ c.ra →
        { x with cellsAliveList := x.cellsAliveList.filter (·.ptr ≠ c.ptr) } ∈ g'.raList := by
  have hs := h.cellUnlink c.ptr
  have hmem : { ra with cellsAliveList := ra.cellsAliveList.filter (·.ptr ≠ c.ptr) } ∈
      (g.cellUnlink c.ptr).raList := List.mem_map.mpr ⟨ra, hra, rfl⟩
  have hfind := hs.find_ptr hmem (h.geran ra hra c hc).2.2.symm
  have hcells : ∀ x ∈ (g.cellUnlink c.ptr).raList, ∃ y ∈ g.raList, x.rai = y.rai ∧
      ∀ d ∈ x.cellsAliveList, d ∈ y.cellsAliveList ∧ d.ptr ≠ c.ptr := by
    intro x hx
    obtain ⟨y, hy, rfl⟩ := mem_cellUnlink hx
    refine ⟨y, hy, rfl, fun d hd ↦ ?_⟩
    exact ⟨List.mem_of_mem_filter hd, by simpa using (List.mem_filter.mp hd).2⟩
  -- an area that has lost its last cell is the one that has listed the cell
  have halive : ∀ x ∈ (g.cellUnlink c.ptr).raList, x.ranType = .geranGb →
      x.cellsAliveList = [] → x.ptr = ra.ptr := by
    intro x hx ht hnil
    obtain ⟨y, hy, rfl⟩ := mem_cellUnlink hx
    obtain ⟨d, hd⟩ := List.exists_mem_of_ne_nil _ (ha y hy ht)
    have hdp : d.ptr = c.ptr := by
      have hnot := List.filter_eq_nil_iff.mp hnil d hd
      simpa using hnot
    exact h.list y hy ra hra d hd c hc hdp
  have hother : ∀ x ∈ g.raList,
      { x with cellsAliveList := x.cellsAliveList.filter (·.ptr ≠ c.ptr) } ∈
        (g.cellUnlink c.ptr).raList := fun x hx ↦ List.mem_map.mpr ⟨x, hx, rfl⟩
  by_cases hnil : ra.cellsAliveList.filter (·.ptr ≠ c.ptr) = []
  · refine ⟨(g.cellUnlink c.ptr).raFree ra.ptr, ?_, hs.raFree _, ?_, ?_, ?_⟩
    · simp only [SgsnRaGlobal.cellFree, hfind]
      exact if_pos hnil
    · intro x hx ht hx0
      obtain ⟨hx, hne⟩ := List.mem_filter.mp hx
      exact absurd (halive x hx ht hx0) (by simpa using hne)
    · exact fun x hx ↦ hcells x (List.mem_of_mem_filter hx)
    · intro x hx hne
      refine List.mem_filter.mpr ⟨hother x hx, ?_⟩
      rw [(h.geran ra hra c hc).2.2] at hne
      simpa using hne
  · refine ⟨g.cellUnlink c.ptr, ?_, hs, ?_, hcells, fun x hx _ ↦ hother x hx⟩
    · simp only [SgsnRaGlobal.cellFree, hfind]
      exact if_neg hnil
    · intro x hx ht hx0
      have heq := hs.eq_of_ptr hx hmem (halive x hx ht hx0)
      rw [heq] at hx0
      exact hnil hx0

end OsmoSgsn.Ra
