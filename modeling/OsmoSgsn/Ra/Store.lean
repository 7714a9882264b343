import OsmoSgsn.Library.Machine

/-!
# The store of routing areas

The gateway keeps the routing areas that are served and, for those of a GERAN, the cells that are
alive in them. The network service and the BSSGP layer below report cells and failures, an RNC
reports the areas that it serves, and the store follows.

An area and a cell are heap objects of the source, so here they have a pointer each. A cell points
back to its area. Where the source follows a pointer, or asserts, the model may have no next state.
-/

namespace OsmoSgsn.Ra

/-! ## The data -/

/-- `struct osmo_plmn_id`. -/
structure PlmnId where
  mcc : BitVec 16
  mnc : BitVec 16
  mnc3Digits : Bool
  deriving DecidableEq, Repr

/-- `struct osmo_location_area_id`. -/
structure LocationAreaId where
  plmn : PlmnId
  lac : BitVec 16
  deriving DecidableEq, Repr

/-- `struct osmo_routing_area_id`. -/
structure RoutingAreaId where
  lac : LocationAreaId
  rac : BitVec 8
  deriving DecidableEq, Repr

/-- `struct osmo_cell_global_id`. -/
structure CellGlobalId where
  lai : LocationAreaId
  cellIdentity : BitVec 16
  deriving DecidableEq, Repr

/-- `struct osmo_cell_global_id_ps`. -/
structure CellGlobalIdPs where
  rai : RoutingAreaId
  cellIdentity : BitVec 16
  deriving DecidableEq, Repr

/-- `struct osmo_rnc_id`. -/
structure RncId where
  plmn : PlmnId
  rncId : BitVec 16
  deriving DecidableEq, Repr

/-- `enum sgsn_ra_ran_type`. -/
inductive SgsnRaRanType
  | geranGb | utranIu
  deriving DecidableEq, Repr

/-- A pointer to a routing area. -/
abbrev RaPtr := ℕ

/-- A pointer to a cell. -/
abbrev CellPtr := ℕ

/-- `struct sgsn_ra_cell`, where only the fields of GERAN are used. -/
structure SgsnRaCell where
  ptr : CellPtr
  /-- Link back to the parent. -/
  ra : RaPtr
  ranType : SgsnRaRanType
  nsei : BitVec 16
  bvci : BitVec 16
  cellId : BitVec 16
  deriving DecidableEq, Repr

/-- `struct sgsn_ra`. -/
structure SgsnRa where
  ptr : RaPtr
  rai : RoutingAreaId
  ranType : SgsnRaRanType
  /-- `u.utran.rnc_id`, which an area of a GERAN does not have. -/
  rncId : Option RncId
  cellsAliveList : List SgsnRaCell
  deriving DecidableEq, Repr

/-- `struct sgsn_ra_global`, and the pointers that the allocator returns next. -/
structure SgsnRaGlobal where
  raList : List SgsnRa
  nextRa : RaPtr
  nextCell : CellPtr
  deriving DecidableEq, Repr

/-- `sgsn_ra_init`. -/
def sgsnRaInit : SgsnRaGlobal := ⟨[], 0, 0⟩

namespace SgsnRaGlobal

variable (g : SgsnRaGlobal)

/-! ## Looking up -/

/-- `sgsn_ra_get_ra`. -/
def getRa (rai : RoutingAreaId) : Option SgsnRa := g.raList.find? (·.rai = rai)

/-- `sgsn_ra_geran_get_ra`. -/
def geranGetRa (rai : RoutingAreaId) : Option SgsnRa :=
  match g.getRa rai with
  | some ra => if ra.ranType = .geranGb then some ra else none
  | none => none

end SgsnRaGlobal

/-- A cell of a GERAN with an identity. -/
def SgsnRaCell.isGeran (cell : SgsnRaCell) (cellId : BitVec 16) : Bool :=
  cell.ranType = .geranGb ∧ cell.cellId = cellId

/-- `sgsn_ra_geran_get_cell_by_ra`. -/
def SgsnRa.geranGetCell (ra : SgsnRa) (cellId : BitVec 16) : Option SgsnRaCell :=
  if ra.ranType ≠ .geranGb then none
  else ra.cellsAliveList.find? (·.isGeran cellId)

namespace SgsnRaGlobal

variable (g : SgsnRaGlobal)

/-- `sgsn_ra_geran_get_cell_by_lai`. -/
def geranGetCellByLai (lai : LocationAreaId) (cellId : BitVec 16) : Option SgsnRaCell :=
  g.raList.findSome? fun ra ↦
    if ra.ranType ≠ .geranGb then none
    else if ra.rai.lac ≠ lai then none
    else ra.cellsAliveList.find? (·.isGeran cellId)

/-- `sgsn_ra_geran_get_cell_by_cgi_ps`. -/
def geranGetCellByCgiPs (cgiPs : CellGlobalIdPs) : Option SgsnRaCell :=
  match g.geranGetRa cgiPs.rai with
  | none => none
  | some ra => ra.geranGetCell cgiPs.cellIdentity

/-- `sgsn_ra_geran_get_cell_by_cgi`. -/
def geranGetCellByCgi (cgi : CellGlobalId) : Option SgsnRaCell :=
  g.geranGetCellByLai cgi.lai cgi.cellIdentity

/-! ## Allocating and freeing -/

/-- `sgsn_ra_alloc`. -/
def raAlloc (rai : RoutingAreaId) (ranType : SgsnRaRanType) : SgsnRaGlobal × SgsnRa :=
  let ra : SgsnRa := ⟨g.nextRa, rai, ranType, none, []⟩
  ({ g with raList := ra :: g.raList, nextRa := g.nextRa + 1 }, ra)

/-- `sgsn_ra_find_or_create`. -/
def raFindOrCreate (rai : RoutingAreaId) (ranType : SgsnRaRanType) :
    Option (SgsnRaGlobal × SgsnRa) :=
  match g.getRa rai with
  | some ra => if ra.ranType = ranType then some (g, ra) else none
  | none => some (g.raAlloc rai ranType)

/-- Write to the area that a pointer points to. -/
def modRa (p : RaPtr) (f : SgsnRa → SgsnRa) : SgsnRaGlobal :=
  { g with raList := g.raList.map fun ra ↦ if ra.ptr = p then f ra else ra }

/-- Write to the list of cells of every area. -/
def modCells (f : List SgsnRaCell → List SgsnRaCell) : SgsnRaGlobal :=
  { g with raList := g.raList.map fun ra ↦
      { ra with cellsAliveList := f ra.cellsAliveList } }

/-- `sgsn_ra_cell_alloc_geran`. -/
def cellAllocGeran (ra : RaPtr) (cellId nsei bvci : BitVec 16) : SgsnRaGlobal :=
  { g.modRa ra fun x ↦ { x with
      cellsAliveList := ⟨g.nextCell, ra, .geranGb, nsei, bvci, cellId⟩ :: x.cellsAliveList } with
    nextCell := g.nextCell + 1 }

/-- `sgsn_ra_free`: the cells go with the area. -/
def raFree (p : RaPtr) : SgsnRaGlobal := { g with raList := g.raList.filter (·.ptr ≠ p) }

/-- `_sgsn_ra_cell_free` without dropping the area. -/
def cellUnlink (p : CellPtr) : SgsnRaGlobal := g.modCells fun cells ↦ cells.filter (·.ptr ≠ p)

/-- `_sgsn_ra_cell_free`, which drops an area that is left empty. -/
def cellFree (cell : SgsnRaCell) : Option SgsnRaGlobal :=
  let g := g.cellUnlink cell.ptr
  match g.raList.find? (·.ptr = cell.ra) with
  | none => none
  | some ra => if ra.cellsAliveList = [] then some (g.raFree ra.ptr) else some g

/-! ## Events -/

/-- The end of `sgsn_ra_geran_bvc_cell_reset_ind`, for a cell that its area does not have: a cell
with the identity that is in another area of the location area has moved. -/
def cellResetNew (ra : SgsnRa) (nsei bvci : BitVec 16) (cgiPs : CellGlobalIdPs) :
    Option SgsnRaGlobal :=
  match g.geranGetCellByLai cgiPs.rai.lac cgiPs.cellIdentity with
  | none => some (g.cellAllocGeran ra.ptr cgiPs.cellIdentity nsei bvci)
  | some cell =>
    if cell.ra = ra.ptr then none
    else match g.cellFree cell with
      | none => none
      | some g => some (g.cellAllocGeran ra.ptr cgiPs.cellIdentity nsei bvci)

/-- `sgsn_ra_geran_bvc_cell_reset_ind`. For an area that is new the location area is not
searched. -/
def geranBvcCellResetInd (nsei bvci : BitVec 16) (cgiPs : CellGlobalIdPs) :
    Option (SgsnRaGlobal × ℤ) :=
  match g.geranGetRa cgiPs.rai with
  | none =>
    match g.raFindOrCreate cgiPs.rai .geranGb with
    | none => some (g, -12)
    | some (g, ra) => some (g.cellAllocGeran ra.ptr cgiPs.cellIdentity nsei bvci, 0)
  | some ra =>
    match ra.geranGetCell cgiPs.cellIdentity with
    | some cell =>
      if cell.ranType = .geranGb then
        some (g.modCells fun cells ↦ cells.map fun c ↦
          if c.ptr = cell.ptr then { c with nsei := nsei, bvci := bvci } else c, 0)
      else ((g.cellUnlink cell.ptr).cellResetNew ra nsei bvci cgiPs).map (·, 0)
    | none => (g.cellResetNew ra nsei bvci cgiPs).map (·, 0)

end SgsnRaGlobal

/-- A cell that a network service entity serves. -/
def SgsnRaCell.onNsei (cell : SgsnRaCell) (nsei : BitVec 16) : Bool :=
  cell.ranType = .geranGb ∧ cell.nsei = nsei

/-- What the failure of a network service entity leaves of an area: an area of a GERAN that has no
cell left is dropped. -/
def SgsnRa.nseiFailure (nsei : BitVec 16) (ra : SgsnRa) : Option SgsnRa :=
  if ra.ranType ≠ .geranGb then some ra
  else
    let cells := ra.cellsAliveList.filter fun cell ↦ ¬ cell.onNsei nsei
    if cells = [] then none else some { ra with cellsAliveList := cells }

namespace SgsnRaGlobal

variable (g : SgsnRaGlobal)

/-- `sgsn_ra_geran_nsei_failure_ind`. -/
def geranNseiFailureInd (nsei : BitVec 16) : SgsnRaGlobal × ℤ :=
  let found := g.raList.any fun ra ↦
    ra.ranType = .geranGb ∧ ra.cellsAliveList.any (·.onNsei nsei)
  ({ g with raList := g.raList.filterMap (·.nseiFailure nsei) }, if found then 0 else -2)

/-- `sgsn_ra_geran_bvc_sign_reset_ind`. -/
def geranBvcSignResetInd (nsei : BitVec 16) : SgsnRaGlobal := (g.geranNseiFailureInd nsei).1

/-- `sgsn_ra_utran_register`. -/
def utranRegister (rai : RoutingAreaId) (rncId : RncId) : SgsnRaGlobal × ℤ :=
  match g.getRa rai with
  | none =>
    let (g, ra) := g.raAlloc rai .utranIu
    (g.modRa ra.ptr fun ra ↦ { ra with rncId := some rncId }, 0)
  | some ra =>
    if ra.ranType = .geranGb then (g, -2)
    else (g.modRa ra.ptr fun ra ↦ { ra with rncId := some rncId }, 0)

/-- The cell that a pointer points to. -/
def cell? (p : CellPtr) : Option SgsnRaCell :=
  g.raList.findSome? fun ra ↦ ra.cellsAliveList.find? (·.ptr = p)

end SgsnRaGlobal

/-- The calls into the store. -/
inductive RaEvent
  | bvcCellReset (nsei bvci : BitVec 16) (cgiPs : CellGlobalIdPs)
  | nseiFailure (nsei : BitVec 16)
  | bvcSignReset (nsei : BitVec 16)
  /-- `sgsn_ra_cell_free`, for a cell that is alive. -/
  | cellFree (cell : CellPtr)
  | utranRegister (rai : RoutingAreaId) (rncId : RncId)
  deriving DecidableEq, Repr

/-- One call, with what it returns. There is no next store where the process is aborted. -/
def SgsnRaGlobal.call (g : SgsnRaGlobal) : RaEvent → Option (SgsnRaGlobal × ℤ)
  | .bvcCellReset nsei bvci cgiPs => g.geranBvcCellResetInd nsei bvci cgiPs
  | .nseiFailure nsei => some (g.geranNseiFailureInd nsei)
  | .bvcSignReset nsei => some (g.geranBvcSignResetInd nsei, 0)
  | .cellFree p =>
    match g.cell? p with
    | none => some (g, 0)
    | some cell => (g.cellFree cell).map (·, 0)
  | .utranRegister rai rncId => some (g.utranRegister rai rncId)

/-- The store as a machine: a process that was aborted stays so. -/
def raStore : Machine (Option SgsnRaGlobal) RaEvent ℤ where
  step g e := match g.bind (·.call e) with
    | none => (none, [])
    | some (g, rc) => (some g, [rc])

end OsmoSgsn.Ra
