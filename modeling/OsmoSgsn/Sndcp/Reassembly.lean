import OsmoSgsn.Library.Machine
import OsmoSgsn.Sndcp.RoundTrip

/-!
# Where the segments of a packet come from

The queue of the reassembler holds numbers and data; which SN-PDU a segment came with is forgotten.
Here the queue is run side by side with the list of the SN-PDUs that are in it, and every packet
that is handed on is recorded with the SN-PDUs that it was put together from and with the
compression modes that it is expanded with. The record changes nothing: the queue is that of the
reassembler (`ind_fragList`), and so is what is handed up (`ind_delivered`).
-/

namespace OsmoSgsn.Sndcp

/-! ## Segments -/

/-- An SN-PDU. Its length is a 16 bit number. -/
structure SnPdu where
  octets : Bytes
  short : octets.length < 2 ^ 16

/-- The data of a segment. -/
def payload (pdu : Bytes) : Bytes := pdu.drop ((snHdr pdu).suh + 2)

/-- What the queue keeps of a segment. -/
def segment (pdu : Bytes) : ℕ × Bytes := ((snHdr pdu).segNr, payload pdu)

/-- The compression modes in the second octet of a first segment. -/
def compModes (pdu : Bytes) : ℕ × ℕ := ((octet pdu 1 &&& 0xf).toNat, (octet pdu 1 >>> 4).toNat)

/-- The reassembly state that a segment meets: a first one discards what was there. -/
def opened (d : DefragState) (pdu : Bytes) : DefragState :=
  if (snHdr pdu).first then
    { d with
      fragList := []
      npdu := (snHdr pdu).npduNum
      noMore := false
      highestSeg := 0
      segHave := 0
      totLen := 0 }
  else d

/-- The reassembly state behind a segment. -/
def taken (d : DefragState) (pdu : Bytes) : DefragState :=
  let d := enqueued (opened d pdu) (segment pdu)
  if (snHdr pdu).more then d else { d with noMore := true }

theorem le_suh (pdu : Bytes) : (snHdr pdu).suh ≤ 2 := by
  have hdef : (snHdr pdu).suh = if (snHdr pdu).first then 2 else 1 := rfl
  rw [hdef]
  split <;> omega

/-- What `defrag_input` does, for an SN-PDU whose length fits into 16 bits: only one that is
shorter than its own header fails. -/
theorem defragInput_eq (env : SndcpEnv) (sne : GprsSndcpEntity) {pdu : Bytes}
    (hlen : pdu.length < 2 ^ 16) :
    defragInput env sne pdu =
      if pdu.length < (snHdr pdu).suh + 2 then
        ⟨.error .enomem, none, { sne with defrag := opened sne.defrag pdu }⟩
      else if (taken sne.defrag pdu).noMore && defragHaveAllSegments (taken sne.defrag pdu) then
        defragSegments env { sne with defrag := taken sne.defrag pdu }
      else ⟨.ok (), none, { sne with defrag := taken sne.defrag pdu }⟩ := by
  have hsuh := le_suh pdu
  by_cases hshort : pdu.length < (snHdr pdu).suh + 2
  · have hbig : (((pdu.length : ℤ) - ((snHdr pdu).suh + 2)) % 2 ^ 32).toNat ≥ maxTallocSize := by
      unfold maxTallocSize
      omega
    rw [if_pos hshort, defragInput]
    simp only [defragEnqueue, if_pos hbig]
    rfl
  · have hdata : (((pdu.length : ℤ) - ((snHdr pdu).suh + 2)) % 2 ^ 32).toNat =
        (payload pdu).length := by
      rw [payload, List.length_drop]
      omega
    have hsmall : ¬ (payload pdu).length ≥ maxTallocSize := by
      rw [payload, List.length_drop]
      unfold maxTallocSize
      omega
    have htake : (pdu.drop ((snHdr pdu).suh + 2)).take (payload pdu).length = payload pdu :=
      List.take_length
    rw [if_neg hshort, defragInput]
    simp only [defragEnqueue, hdata, if_neg hsmall, htake]
    rfl

/-! ## The packets that are handed on -/

/-- A packet on its way to expansion and to the user. -/
structure Handed where
  /-- The SN-PDUs that it was put together from, in order. -/
  segs : List Bytes
  npdu : Bytes
  /-- The modes that it is expanded with. -/
  modes : ℕ × ℕ
  deriving DecidableEq

/-- What becomes of a packet that is handed on. -/
def Handed.expand (env : SndcpEnv) (h : Handed) : Option Bytes :=
  if env.anyPcompOrDcompActive then env.decompress h.modes.1 h.modes.2 h.npdu else some h.npdu

/-- A buffer of a given length, and what was written to it. -/
def written (env : SndcpEnv) (len : ℕ) (buf : Bytes) : Bytes :=
  (List.range len).map fun i ↦ buf.getD i (env.uninit i)

/-- The loop of `defrag_segments` on the SN-PDUs in the queue. -/
def collectHeld (held : List Bytes) : List ℕ → Option (List Bytes) × List Bytes
  | [] => (some [], held)
  | segNr :: segNrs =>
    match held.find? fun pdu ↦ (snHdr pdu).segNr = segNr with
    | none => (none, held)
    | some pdu =>
      let (segs, held) := collectHeld (held.eraseP fun pdu ↦ (snHdr pdu).segNr = segNr) segNrs
      (segs.map (pdu :: ·), held)

/-- `defrag_input` on the SN-PDUs in the queue: those that are left, and the packet handed on. -/
def defragHeld (env : SndcpEnv) (d : DefragState) (held : List Bytes) (pdu : Bytes) :
    List Bytes × Option Handed :=
  let held := if (snHdr pdu).first then [] else held
  if pdu.length < (snHdr pdu).suh + 2 then (held, none)
  else
    let d := taken d pdu
    if d.noMore && defragHaveAllSegments d then
      match collectHeld (pdu :: held) (List.range (d.highestSeg + 1)) with
      | (none, held) => (held, none)
      | (some segs, held) =>
        (held, some ⟨segs, written env d.totLen (segs.map payload).flatten, d.pcomp, d.dcomp⟩)
    else (pdu :: held, none)

/-! ## The record agrees with the reassembler -/

theorem segment_find? (held : List Bytes) (segNr : ℕ) :
    (held.map segment).find? (·.1 = segNr) =
      (held.find? fun pdu ↦ (snHdr pdu).segNr = segNr).map segment := by
  rw [List.find?_map]
  rfl

theorem segment_eraseP (held : List Bytes) (segNr : ℕ) :
    (held.map segment).eraseP (·.1 = segNr) =
      (held.eraseP fun pdu ↦ (snHdr pdu).segNr = segNr).map segment := by
  induction held with
  | nil => rfl
  | cons pdu held ih =>
    by_cases h : (snHdr pdu).segNr = segNr
    · simp [segment, h]
    · have h' : ¬ (segment pdu).1 = segNr := h
      rw [List.map_cons, List.eraseP_cons_of_neg (by simpa using h'),
        List.eraseP_cons_of_neg (by simpa using h), List.map_cons, ih]

/-- The loop over the queue, and the loop over the SN-PDUs in it. -/
theorem defragCollect_held (held : List Bytes) (segNrs : List ℕ) :
    defragCollect (held.map segment) segNrs =
      ((collectHeld held segNrs).1.map fun segs ↦ (segs.map payload).flatten,
        (collectHeld held segNrs).2.map segment) := by
  induction segNrs generalizing held with
  | nil => rfl
  | cons segNr segNrs ih =>
    rw [defragCollect, collectHeld, defragGetSeg, segment_find?, segment_eraseP]
    cases hfind : held.find? fun pdu ↦ (snHdr pdu).segNr = segNr with
    | none =>
      rw [List.eraseP_of_forall_not]
      · rfl
      · intro pdu hpdu
        simpa using List.find?_eq_none.mp hfind pdu hpdu
    | some pdu =>
      simp only [Option.map_some, ih, segment]
      cases (collectHeld (held.eraseP fun pdu ↦ (snHdr pdu).segNr = segNr) segNrs).1 with
      | none => rfl
      | some segs => rfl

theorem handOff_delivered (env : SndcpEnv) (sne : GprsSndcpEntity) (segs : List Bytes)
    (npdu : Bytes) :
    (handOff env sne npdu).delivered =
      Handed.expand env ⟨segs, npdu, sne.defrag.pcomp, sne.defrag.dcomp⟩ := by
  rw [handOff, Handed.expand]
  split
  · cases env.decompress sne.defrag.pcomp sne.defrag.dcomp npdu with
    | none => rfl
    | some _ => rfl
  · rfl

theorem handOff_sne (env : SndcpEnv) (sne : GprsSndcpEntity) (npdu : Bytes) :
    (handOff env sne npdu).sne = sne := by
  rw [handOff]
  split
  · cases env.decompress sne.defrag.pcomp sne.defrag.dcomp npdu with
    | none => rfl
    | some _ => rfl
  · rfl

section Defrag

variable (env : SndcpEnv) {sne : GprsSndcpEntity} {held : List Bytes} {pdu : Bytes}
  (hlink : sne.defrag.fragList = held.map segment) (hlen : pdu.length < 2 ^ 16)

include hlink

/-- The queue that a segment meets. -/
theorem opened_fragList :
    (opened sne.defrag pdu).fragList = (if (snHdr pdu).first then [] else held).map segment := by
  rw [opened]
  split
  · rfl
  · exact hlink

theorem taken_fragList :
    (taken sne.defrag pdu).fragList =
      (pdu :: if (snHdr pdu).first then [] else held).map segment := by
  rw [List.map_cons, ← opened_fragList hlink, taken]
  split <;> rfl

include hlen

/-- The entity behind `defrag_input`: its queue is that of the record. -/
theorem defragInput_sne :
    (defragInput env sne pdu).sne =
      { sne with defrag := { (if pdu.length < (snHdr pdu).suh + 2 then opened sne.defrag pdu
          else taken sne.defrag pdu) with
        fragList := (defragHeld env sne.defrag held pdu).1.map segment } } := by
  rw [defragInput_eq env sne hlen, defragHeld]
  by_cases hshort : pdu.length < (snHdr pdu).suh + 2
  · simp only [if_pos hshort, ← opened_fragList hlink]
  · simp only [if_neg hshort]
    by_cases hall : ((taken sne.defrag pdu).noMore &&
        defragHaveAllSegments (taken sne.defrag pdu)) = true
    · simp only [if_pos hall]
      rw [defragSegments, taken_fragList hlink, defragCollect_held]
      rcases collectHeld (pdu :: if (snHdr pdu).first then [] else held)
          (List.range ((taken sne.defrag pdu).highestSeg + 1)) with ⟨_ | segs, held'⟩
      · rfl
      · simp only [Option.map_some, handOff_sne]
    · simp only [if_neg hall, ← taken_fragList hlink]

/-- What `defrag_input` hands up is what becomes of the packet in the record. -/
theorem defragInput_delivered :
    (defragInput env sne pdu).delivered =
      (defragHeld env sne.defrag held pdu).2.bind (Handed.expand env) := by
  rw [defragInput_eq env sne hlen, defragHeld]
  by_cases hshort : pdu.length < (snHdr pdu).suh + 2
  · simp only [if_pos hshort, Option.bind_none]
  · simp only [if_neg hshort]
    by_cases hall : ((taken sne.defrag pdu).noMore &&
        defragHaveAllSegments (taken sne.defrag pdu)) = true
    · simp only [if_pos hall]
      rw [defragSegments, taken_fragList hlink, defragCollect_held]
      rcases collectHeld (pdu :: if (snHdr pdu).first then [] else held)
          (List.range ((taken sne.defrag pdu).highestSeg + 1)) with ⟨_ | segs, held'⟩
      · rfl
      · simp only [Option.map_some, Option.bind_some]
        exact handOff_delivered ..
    · simp only [if_neg hall, Option.bind_none]

end Defrag

/-! ## Received SN-PDUs -/

/-- Whether a received SN-PDU gets past the checks of `sndcp_ll_unitdata_ind`. -/
def Admitted (env : SndcpEnv) (sne : GprsSndcpEntity) (pdu : Bytes) : Prop :=
  (snHdr pdu).type = true ∧ 3 ≤ pdu.length ∧ (snHdr pdu).nsapi = sne.nsapi ∧
    env.mmctxFound = true

instance (env : SndcpEnv) (sne : GprsSndcpEntity) (pdu : Bytes) :
    Decidable (Admitted env sne pdu) :=
  inferInstanceAs (Decidable (_ ∧ _))

/-- The entity with the modes of a first segment. -/
def withModes (sne : GprsSndcpEntity) (pdu : Bytes) : GprsSndcpEntity :=
  if (snHdr pdu).first then
    { sne with defrag.pcomp := (compModes pdu).1, defrag.dcomp := (compModes pdu).2 }
  else sne

/-- An SN-PDU that is a packet of its own. -/
def Single (pdu : Bytes) : Prop := (snHdr pdu).first = true ∧ (snHdr pdu).more = false

instance (pdu : Bytes) : Decidable (Single pdu) := inferInstanceAs (Decidable (_ ∧ _))

/-- The part of `sndcp_ll_unitdata_ind` behind the checks. -/
theorem ind_eq (env : SndcpEnv) (sne : GprsSndcpEntity) (pdu : Bytes)
    (h : Admitted env sne pdu) :
    sndcpLlUnitdataInd env sne pdu =
      if Single pdu then
        if pdu.length ≤ (snHdr pdu).suh + 2 then ⟨.error .eio, none, withModes sne pdu⟩
        else handOff env (withModes sne pdu) (payload pdu)
      else defragInput env (withModes sne pdu) pdu := by
  obtain ⟨htype, hlen, hnsapi, hmm⟩ := h
  have hlen' : ¬ pdu.length < 3 := by omega
  rw [sndcpLlUnitdataInd]
  simp only [htype, Bool.not_true, Bool.false_eq_true, if_false, hlen', hnsapi, ne_eq,
    not_true_eq_false, hmm, Single]
  by_cases hf : (snHdr pdu).first = true
  · by_cases hm : (snHdr pdu).more = true
    · simp [withModes, hf, hm, compModes]
    · simp [withModes, hf, hm, compModes, payload]
  · simp [withModes, hf]

/-- An SN-PDU that fails a check has no effect. -/
theorem ind_of_not_admitted (env : SndcpEnv) (sne : GprsSndcpEntity) (pdu : Bytes)
    (h : ¬ Admitted env sne pdu) :
    (sndcpLlUnitdataInd env sne pdu).sne = sne ∧
      (sndcpLlUnitdataInd env sne pdu).delivered = none := by
  rw [sndcpLlUnitdataInd]
  by_cases htype : (snHdr pdu).type = true
  · by_cases hlen : pdu.length < 3
    · simp [htype, hlen]
    · by_cases hnsapi : (snHdr pdu).nsapi = sne.nsapi
      · by_cases hmm : env.mmctxFound = true
        · exact absurd ⟨htype, by omega, hnsapi, hmm⟩ h
        · simp [htype, hlen, hnsapi, hmm]
      · simp [htype, hlen, hnsapi]
  · simp [htype]

/-- `sndcp_ll_unitdata_ind` on the SN-PDUs in the queue. -/
def indHeld (env : SndcpEnv) (sne : GprsSndcpEntity) (held : List Bytes) (pdu : Bytes) :
    List Bytes × Option Handed :=
  if Admitted env sne pdu then
    if Single pdu then
      if pdu.length ≤ (snHdr pdu).suh + 2 then (held, none)
      else (held, some ⟨[pdu], payload pdu, compModes pdu⟩)
    else defragHeld env (withModes sne pdu).defrag held pdu
  else (held, none)

@[simp] theorem withModes_fragList (sne : GprsSndcpEntity) (pdu : Bytes) :
    (withModes sne pdu).defrag.fragList = sne.defrag.fragList := by
  rw [withModes]
  split <;> rfl

section Ind

variable (env : SndcpEnv) {sne : GprsSndcpEntity} {held : List Bytes} {pdu : Bytes}
  (hlink : sne.defrag.fragList = held.map segment) (hlen : pdu.length < 2 ^ 16)

include hlink hlen

/-- **The queue in the record is that of the reassembler.** -/
theorem ind_fragList :
    (sndcpLlUnitdataInd env sne pdu).sne.defrag.fragList =
      (indHeld env sne held pdu).1.map segment := by
  rw [indHeld]
  by_cases hadm : Admitted env sne pdu
  · rw [ind_eq env sne pdu hadm, if_pos hadm]
    by_cases hsingle : Single pdu
    · simp only [if_pos hsingle]
      split
      · rw [withModes_fragList, hlink]
      · rw [handOff_sne, withModes_fragList, hlink]
    · have hlink' : (withModes sne pdu).defrag.fragList = held.map segment := by
        rw [withModes_fragList, hlink]
      rw [if_neg hsingle, if_neg hsingle, defragInput_sne env hlink' hlen]
  · rw [(ind_of_not_admitted env sne pdu hadm).1, if_neg hadm, hlink]

/-- **What is handed up** is what becomes of the packet in the record. -/
theorem ind_delivered :
    (sndcpLlUnitdataInd env sne pdu).delivered =
      (indHeld env sne held pdu).2.bind (Handed.expand env) := by
  rw [indHeld]
  by_cases hadm : Admitted env sne pdu
  · rw [ind_eq env sne pdu hadm, if_pos hadm]
    by_cases hsingle : Single pdu
    · simp only [if_pos hsingle]
      split
      · rfl
      · rw [handOff_delivered env _ [pdu], withModes, if_pos hsingle.1]
        rfl
    · rw [if_neg hsingle, if_neg hsingle]
      exact defragInput_delivered env ((withModes_fragList sne pdu).trans hlink) hlen
  · rw [(ind_of_not_admitted env sne pdu hadm).2, if_neg hadm, Option.bind_none]

end Ind

/-! ## Runs -/

/-- An entity together with the SN-PDUs in its queue, newest first. -/
structure Traced where
  sne : GprsSndcpEntity
  held : List Bytes
  linked : sne.defrag.fragList = held.map segment

/-- A new entity. -/
def Traced.alloc (nsapi : ℕ) : Traced := ⟨gprsSndcpEntityAlloc nsapi, [], rfl⟩

/-- SN-PDUs arrive, and the packets that are handed on are recorded. The surroundings may change
from one SN-PDU to the next. -/
def tracedEntity : Machine Traced (SndcpEnv × SnPdu) Handed where
  step s e :=
    (⟨(sndcpLlUnitdataInd e.1 s.sne e.2.octets).sne, (indHeld e.1 s.sne s.held e.2.octets).1,
      ind_fragList e.1 s.linked e.2.short⟩, (indHeld e.1 s.sne s.held e.2.octets).2.toList)

end OsmoSgsn.Sndcp
