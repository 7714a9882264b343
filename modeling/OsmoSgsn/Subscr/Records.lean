import OsmoSgsn.Library.Machine

/-!
# Subscriber records

A subscriber record is counted. Every MM context that points to it has a reference, and so has every
function that was given it and has not put it back; a record without references is freed, unless the
operator made it, which keeps it in RAM. The record points back to its MM context, and there is room
for one.

The events are the calls from the rest of the gateway. What `gprs_subscr_cancel` does to the MM
context through the GMM layer comes between its marks and its cleanup, as events of its own.
-/

namespace OsmoSgsn.Subscr

/-- A pointer to an MM context. The memory of a context that is gone may be used again. -/
abbrev MmPtr := ℕ

/-- A pointer to a subscriber record. -/
abbrev RecPtr := ℕ

/-- An IMSI as it was entered or received. -/
abbrev Imsi := List Char

/-- `GSM23003_IMSI_MAX_DIGITS`. -/
def imsiMaxDigits : ℕ := 15

/-- `osmo_strlcpy` to an IMSI. -/
def copyImsi (imsi : Imsi) : Imsi := imsi.take imsiMaxDigits

/-- `struct sgsn_mm_ctx`, as far as its subscriber record is concerned. -/
structure MmCtx where
  imsi : Imsi
  subscr : Option RecPtr
  deriving DecidableEq, Repr

/-- `struct gprs_subscr` with `sgsn_data->mm`, as far as its lifetime is concerned. -/
structure Record where
  useCount : ℤ
  imsi : Imsi
  authorized : Bool
  keepInRam : Bool
  firstContact : Bool
  cancelled : Bool
  enablePurge : Bool
  mm : Option MmPtr
  deriving DecidableEq, Repr

/-- The MM contexts with `sgsn->mm_list`, and the records with `gprs_subscribers`. -/
structure RecState where
  mms : MmPtr → Option MmCtx
  mmList : List MmPtr
  recs : RecPtr → Option Record
  recList : List RecPtr
  nextRec : RecPtr
  /-- History: the references of explicit callers. -/
  held : RecPtr → ℕ

/-- What can be seen of records. -/
inductive RecOut
  | purgeMs (imsi : Imsi)
  | freed (r : RecPtr)
  /-- An object is used that is gone, or that never was. -/
  | fault
  deriving DecidableEq, Repr

namespace RecState

variable (s : RecState)

/-! ## Objects -/

/-- Write a record. -/
def setRec (r : RecPtr) (x : Option Record) : RecState :=
  { s with recs := Function.update s.recs r x }

/-- Change a record, if it is there. -/
def modifyRec (r : RecPtr) (f : Record → Record) : RecState :=
  match s.recs r with
  | none => s
  | some x => s.setRec r (some (f x))

/-- Write an MM context. -/
def setMm (m : MmPtr) (c : Option MmCtx) : RecState :=
  { s with mms := Function.update s.mms m c }

/-- A caller has a reference more or less. -/
def setHeld (r : RecPtr) (n : ℕ) : RecState :=
  { s with held := Function.update s.held r n }

/-- A caller comes back and has not put its reference. -/
def forget (r : RecPtr) : RecState := s.setHeld r (s.held r - 1)

/-! ## References -/

/-- The effect of `_gprs_subscr_get` on the record. -/
def ref (r : RecPtr) : RecState := s.modifyRec r fun x ↦ { x with useCount := x.useCount + 1 }

/-- The effect of `_gprs_subscr_put` on the record, with `gprs_subscr_free`. -/
def unref (r : RecPtr) : RecState × List RecOut :=
  match s.recs r with
  | none => (s, [.fault])
  | some x =>
    let x := { x with useCount := x.useCount - 1 }
    if 0 < x.useCount ∨ x.keepInRam then (s.setRec r (some x), [])
    else ({ s.setRec r none with recList := s.recList.filter (· ≠ r) }, [.freed r])

/-- `gprs_subscr_get` by a caller. -/
def get (r : RecPtr) : RecState := (s.ref r).setHeld r (s.held r + 1)

/-- `gprs_subscr_put` by a caller. -/
def put (r : RecPtr) : RecState × List RecOut :=
  let (s', outs) := s.unref r
  (s'.forget r, outs)

/-! ## Lookups -/

/-- The loop of `gprs_subscr_get_by_imsi`. -/
def findImsi (imsi : Imsi) : Option RecPtr :=
  if imsi = [] then none else s.recList.find? fun r ↦ (s.recs r).any (·.imsi = imsi)

/-- `gprs_subscr_get_by_imsi`. -/
def getByImsi (imsi : Imsi) : RecState × Option RecPtr :=
  match s.findImsi imsi with
  | some r => (s.get r, some r)
  | none => (s, none)

/-- `gprs_subscr_alloc`, with the IMSI that `gprs_subscr_get_or_create` gives the record. -/
def alloc (imsi : Imsi) : RecState × RecPtr :=
  let r := s.nextRec
  let s := s.setRec r (some ⟨1, copyImsi imsi, false, false, false, false, false, none⟩)
  let s := s.setHeld r (s.held r + 1)
  ({ s with recList := s.recList ++ [r], nextRec := r + 1 }, r)

/-- `gprs_subscr_get_or_create`. -/
def getOrCreate (imsi : Imsi) : RecState × RecPtr :=
  match s.getByImsi imsi with
  | (s, some r) => (s, r)
  | (s, none) => s.alloc imsi

/-- `gprs_subscr_get_or_create_by_mmctx` for a context without a record, as far as it finds one. -/
def acquire (imsi : Imsi) : RecState × RecPtr :=
  match s.getByImsi imsi with
  | (s, some r) => (s, r)
  | (s, none) =>
    let (s, r) := s.getOrCreate imsi
    (s.modifyRec r fun x ↦ { x with firstContact := true, enablePurge := false }, r)

/-- The end of `gprs_subscr_get_or_create_by_mmctx`: a context and a record point to each other. -/
def link (m : MmPtr) (c : MmCtx) (r : RecPtr) : RecState :=
  let s := s.modifyRec r fun x ↦
    { x with imsi := if c.imsi = [] then x.imsi else copyImsi c.imsi, mm := some m }
  (s.ref r).setMm m (some { c with subscr := some r })

/-- `gprs_subscr_get_or_create_by_mmctx`. -/
def getOrCreateByMmctx (m : MmPtr) (c : MmCtx) : RecState × RecPtr :=
  match c.subscr with
  | some r => (s.get r, r)
  | none =>
    let (s, r) := s.acquire c.imsi
    (s.link m c r, r)

/-- `mmctx_sgsn_data` and `mm_subscr_data`. They give out the data of a record, and not the
record. -/
def sgsnData (c : MmCtx) : RecState :=
  match c.subscr with
  | some _ => s
  | none =>
    match s.getByImsi c.imsi with
    | (s, some r) => s.forget r
    | (s, none) => s

/-! ## The end of records and contexts -/

/-- The first part of `gprs_subscr_cleanup`. -/
def detach (r : RecPtr) (x : Record) : RecState × List RecOut :=
  match x.mm with
  | none => (s, [])
  | some m =>
    match s.mms m with
    | none => (s, [.fault])
    | some c =>
      match c.subscr with
      | none => (s, [.fault])
      | some r' =>
        let (s, outs) := s.unref r'
        ((s.setMm m (some { c with subscr := none })).modifyRec r fun x ↦ { x with mm := none },
          outs)

/-- `gprs_subscr_cleanup`. -/
def cleanup (r : RecPtr) : RecState × List RecOut :=
  match s.recs r with
  | none => (s, [.fault])
  | some x =>
    let (s, outs) := s.detach r x
    if x.enablePurge then
      (s.modifyRec r fun x ↦ { x with enablePurge := false }, outs ++ [.purgeMs x.imsi])
    else (s, outs)

/-- The end of `sgsn_mm_ctx_cleanup_free`, with `sgsn_mm_ctx_unlink`. -/
def freeMm (m : MmPtr) : RecState :=
  { s.setMm m none with mmList := s.mmList.filter (· ≠ m) }

/-- `sgsn_mm_ctx_cleanup_free`. -/
def mmFree (m : MmPtr) (c : MmCtx) : RecState × List RecOut :=
  match c.subscr with
  | none => (s.freeMm m, [])
  | some r =>
    let (s, outs) := (s.get r).cleanup r
    let (s, more) := s.put r
    (s.freeMm m, outs ++ more)

/-- `update_subscr_create`. -/
def vtyCreate (imsi : Imsi) : RecState × List RecOut :=
  match s.getByImsi imsi with
  | (s, some r) => (s.forget r, [])
  | (s, none) =>
    let (s, r) := s.getOrCreate imsi
    (s.modifyRec r fun x ↦ { x with keepInRam := true }).put r

end RecState

/-! ## The machine -/

/-- The calls. -/
inductive RecEvent
  | mmAlloc (m : MmPtr)
  /-- An IMSI is written to an MM context. -/
  | mmIdentify (m : MmPtr) (imsi : Imsi)
  | mmFree (m : MmPtr)
  | get (r : RecPtr)
  | getByImsi (imsi : Imsi)
  | getOrCreate (imsi : Imsi)
  | getOrCreateByMmctx (m : MmPtr)
  | put (r : RecPtr)
  | cleanup (r : RecPtr)
  /-- The marks of `gprs_subscr_cancel`. -/
  | cancel (r : RecPtr)
  /-- The marks of `gprs_subscr_handle_gsup_isd_req`. -/
  | insertData (r : RecPtr)
  | update (r : RecPtr)
  /-- `update_subscr_destroy` does not keep the record in RAM any more. -/
  | destroy (r : RecPtr)
  | sgsnData (m : MmPtr)
  | vtyCreate (imsi : Imsi)
  deriving DecidableEq, Repr

namespace RecState

/-- Do something for an MM context, if it is there. -/
def whenMm (s : RecState) (m : MmPtr) (k : MmCtx → RecState × List RecOut) :
    RecState × List RecOut :=
  match s.mms m with
  | none => (s, [])
  | some c => k c

/-- Do something for a caller, if it has a reference. -/
def whenHeld (s : RecState) (r : RecPtr) (k : RecState × List RecOut) : RecState × List RecOut :=
  if 0 < s.held r then k else (s, [])

/-- One call. -/
def step (s : RecState) : RecEvent → RecState × List RecOut
  | .mmAlloc m =>
    match s.mms m with
    | none => ({ s.setMm m (some ⟨[], none⟩) with mmList := m :: s.mmList }, [])
    | some _ => (s, [])
  | .mmIdentify m imsi => s.whenMm m fun c ↦
    (s.setMm m (some { c with imsi := copyImsi imsi }), [])
  | .mmFree m => s.whenMm m fun c ↦ s.mmFree m c
  | .get r => if (s.recs r).isSome then (s.get r, []) else (s, [])
  | .getByImsi imsi => ((s.getByImsi imsi).1, [])
  | .getOrCreate imsi => ((s.getOrCreate imsi).1, [])
  | .getOrCreateByMmctx m => s.whenMm m fun c ↦ ((s.getOrCreateByMmctx m c).1, [])
  | .put r => s.whenHeld r (s.put r)
  | .cleanup r => s.whenHeld r (s.cleanup r)
  | .cancel r => s.whenHeld r (s.modifyRec r fun x ↦
    { x with authorized := false, cancelled := true, enablePurge := false }, [])
  | .insertData r => s.whenHeld r (s.modifyRec r fun x ↦
    { x with authorized := true, enablePurge := true }, [])
  | .update r => s.whenHeld r (s.modifyRec r fun x ↦ { x with firstContact := false }, [])
  | .destroy r => s.whenHeld r (s.modifyRec r fun x ↦ { x with keepInRam := false }, [])
  | .sgsnData m => s.whenMm m fun c ↦ (s.sgsnData c, [])
  | .vtyCreate imsi => s.vtyCreate imsi

/-- A gateway that was just started. -/
def start : RecState where
  mms _ := none
  mmList := []
  recs _ := none
  recList := []
  nextRec := 0
  held _ := 0

end RecState

/-- The machine of subscriber records. -/
def recMachine : Machine RecState RecEvent RecOut where
  step := RecState.step

end OsmoSgsn.Subscr
