import OsmoSgsn.Gmm.State

/-!
# Finding a context

A context is found by its IMSI, by a P-TMSI and by a TLLI through hash tables, and by the
connection or the LLC entity that it points to by a walk over the list. A table holds a context
under the key that it had when it was rehashed; what is compared on the way through a bucket is the
field of the context as it is.

Values that mean that a field is not set have no key: the empty IMSI, zero, and the reserved value.
-/

namespace OsmoSgsn.Gmm

/-- `TLLI_UNASSIGNED`. -/
def tlliUnassigned : BitVec 32 := 0xffffffff

/-- `GSM_RESERVED_TMSI`. -/
def gsmReservedTmsi : BitVec 32 := 0xffffffff

/-! ## Hash tables -/

/-- The key of a context in `mm_by_imsi`. -/
def imsiKey (imsi : Digits) : Option Digits := if imsi = [] then none else some imsi

/-- The key of a context in `mm_by_ptmsi`. -/
def ptmsiKey (pTmsi : BitVec 32) : Option (BitVec 32) :=
  if pTmsi = 0 ∨ pTmsi = gsmReservedTmsi then none else some pTmsi

/-- The key of a context in `mm_by_ptmsi_old`, where the reserved value is one like any other. -/
def ptmsiOldKey (pTmsiOld : BitVec 32) : Option (BitVec 32) :=
  if pTmsiOld = 0 then none else some pTmsiOld

/-- The key of a context in `mm_by_tlli` and in `mm_by_tlli_new`. -/
def tlliKey (tlli : BitVec 32) : Option (BitVec 32) :=
  if tlli = 0 ∨ tlli = tlliUnassigned then none else some tlli

namespace MmTables

/-- The writes of `sgsn_mm_ctx_rehash_imsi`. -/
def rehashImsi (t : MmTables) (id : CtxId) (imsi : Digits) : MmTables :=
  { t with byImsi := t.byImsi.rehash id (imsiKey imsi) }

/-- The writes of `sgsn_mm_ctx_rehash_ptmsi`. -/
def rehashPtmsi (t : MmTables) (id : CtxId) (pTmsi pTmsiOld : BitVec 32) : MmTables :=
  { t with
    byPtmsi := t.byPtmsi.rehash id (ptmsiKey pTmsi)
    byPtmsiOld := t.byPtmsiOld.rehash id (ptmsiOldKey pTmsiOld) }

/-- The writes of `sgsn_mm_ctx_rehash_tlli`. -/
def rehashTlli (t : MmTables) (id : CtxId) (tlli tlliNew : BitVec 32) : MmTables :=
  { t with
    byTlli := t.byTlli.rehash id (tlliKey tlli)
    byTlliNew := t.byTlliNew.rehash id (tlliKey tlliNew) }

end MmTables

/-- `sgsn_mm_ctx_rehash_imsi`. -/
def sgsnMmCtxRehashImsi (id : CtxId) : SgsnM Unit := do
  let mm ← getMm id
  modify fun s ↦ { s with tables := s.tables.rehashImsi id mm.imsi }

/-- `sgsn_mm_ctx_rehash_ptmsi`. -/
def sgsnMmCtxRehashPtmsi (id : CtxId) : SgsnM Unit := do
  let mm ← getMm id
  modify fun s ↦ { s with tables := s.tables.rehashPtmsi id mm.pTmsi mm.pTmsiOld }

/-- `sgsn_mm_ctx_rehash_tlli`. -/
def sgsnMmCtxRehashTlli (id : CtxId) : SgsnM Unit := do
  let mm ← getMm id
  modify fun s ↦ { s with tables := s.tables.rehashTlli id mm.tlli mm.tlliNew }

/-! ## Looking up -/

/-- A context that is in the list and has a property. -/
def Sgsn.listed (s : Sgsn) (p : MmCtx → Bool) (id : CtxId) : Bool :=
  id ∈ s.mmList ∧ (s.ctxs id).any p

/-- `sgsn_mm_ctx_by_tlli`. -/
def sgsnMmCtxByTlli (s : Sgsn) (tlli : BitVec 32) (raid : RaId) : Option CtxId :=
  let p (mm : MmCtx) : Bool := mm.ra = raid ∧ (tlli = mm.tlli ∨ tlli = mm.tlliNew)
  s.tables.byTlli.lookup s.hash.tlli tlli (s.listed p) <|>
    s.tables.byTlliNew.lookup s.hash.tlli tlli (s.listed p)

/-- `sgsn_mm_ctx_by_ptmsi`. -/
def sgsnMmCtxByPtmsi (s : Sgsn) (pTmsi : BitVec 32) : Option CtxId :=
  s.tables.byPtmsi.lookup s.hash.ptmsi pTmsi (s.listed fun mm ↦ pTmsi = mm.pTmsi) <|>
    s.tables.byPtmsiOld.lookup s.hash.ptmsi pTmsi
      (s.listed fun mm ↦ mm.pTmsiOld ≠ 0 ∧ mm.pTmsiOld = pTmsi)

/-- `sgsn_mm_ctx_by_imsi`. -/
def sgsnMmCtxByImsi (s : Sgsn) (imsi : Digits) : Option CtxId :=
  if imsi = [] then none
  else s.tables.byImsi.lookup s.hash.imsi imsi (s.listed fun mm ↦ mm.imsi = imsi)

/-- The first context of the list with a property. -/
def Sgsn.findMm (s : Sgsn) (p : MmCtx → Bool) : Option CtxId :=
  s.mmList.find? fun id ↦ (s.ctxs id).any p

/-- `sgsn_mm_ctx_by_ue_ctx`. -/
def sgsnMmCtxByUeCtx (s : Sgsn) (ue : UeId) : Option CtxId :=
  s.findMm fun mm ↦ mm.ranType = .utranIu ∧ mm.ueCtx = some ue

/-- `sgsn_mm_ctx_by_llme`. -/
def sgsnMmCtxByLlme (s : Sgsn) (llme : LlmeId) : Option CtxId :=
  s.findMm fun mm ↦ mm.ranType = .geranGb ∧ mm.llme = some llme

/-- `gprs_tmsi2tlli` for a local TLLI. -/
def localTlli (pTmsi : BitVec 32) : BitVec 32 := pTmsi ||| 0xc0000000

/-- `gprs_tmsi2tlli` for a foreign TLLI. -/
def foreignTlli (pTmsi : BitVec 32) : BitVec 32 := (pTmsi &&& 0x3fffffff) ||| 0x80000000

/-- `gprs_tlli_type` and `gprs_tmsi2tlli` for that type: how a P-TMSI is made into a TLLI of the
type that one has. Only local and foreign ones are made from P-TMSIs. -/
def tlliOfType (tlli : BitVec 32) : Option (BitVec 32 → BitVec 32) :=
  if tlli &&& 0xc0000000 = 0xc0000000 then some localTlli
  else if tlli &&& 0xc0000000 = 0x80000000 then some foreignTlli
  else none

/-- `sgsn_mm_ctx_by_tlli_and_ptmsi`. -/
def sgsnMmCtxByTlliAndPtmsi (s : Sgsn) (tlli : BitVec 32) (raid : RaId) : Option CtxId :=
  match tlliOfType tlli with
  | none => none
  | some derive =>
    s.findMm fun mm ↦ (derive mm.pTmsi = tlli ∨ derive mm.pTmsiOld = tlli) ∧ mm.ra = raid

/-- `sgsn_mm_ctx_is_authenticated`. -/
def MmCtx.isAuthenticated (mm : MmCtx) : Bool := mm.secCtx ≠ .none

end OsmoSgsn.Gmm
