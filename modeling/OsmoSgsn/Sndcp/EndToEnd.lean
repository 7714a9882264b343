import OsmoSgsn.Sndcp.Dcomp
import OsmoSgsn.Sndcp.Reassembly

/-!
# Compressed packets in fragments

A packet is compressed before it is cut, and expanded after it has been put together. The second
octet of its first SN-PDU says how it was compressed; everything else about fragments is the same as
for a packet that is not compressed. So both functions of SNDCP are compared with themselves without
compression: the SN-PDUs differ in that one octet, and what is handed up is expanded.

With what is known about fragments and about V.42bis, packets come back as they were.
-/

namespace OsmoSgsn.Sndcp

/-! ## Sending -/

/-- Surroundings without compression, in which every SN-PDU is taken. -/
def SndcpEnv.plain (env : SndcpEnv) : SndcpEnv :=
  { env with anyPcompOrDcompActive := false, llcTxUi := fun _ ↦ .ok () }

/-- A first SN-PDU with other compression modes. -/
def relabel (pcomp dcomp : ℕ) (pdu : Bytes) : Bytes := pdu.set 1 (compHdr pcomp dcomp)

section Sending

variable {env : SndcpEnv} {n201U pcomp dcomp rounds k : ℕ} {sne : GprsSndcpEntity}
  {npdu payload rest : Bytes}

theorem sndcpSendUdFrag_relabel (fs : SndcpFragState) :
    sndcpSendUdFrag n201U pcomp dcomp sne fs =
      (if fs.fragNr = 0 then relabel pcomp dcomp (sndcpSendUdFrag n201U 0 0 sne fs).1
        else (sndcpSendUdFrag n201U 0 0 sne fs).1,
        (sndcpSendUdFrag n201U 0 0 sne fs).2) := by
  unfold sndcpSendUdFrag relabel
  by_cases h0 : fs.fragNr = 0
  · simp [h0]
  · simp [h0]

/-- The fragments after the first one, as long as their count does not start again. -/
theorem sndcpSendAll_next (hk : k ≠ 0)
    (hrc : (sndcpSendAll env n201U pcomp dcomp sne rounds ⟨k, rest⟩).rc = .ok ())
    (hlen : k + (sndcpSendAll env n201U pcomp dcomp sne rounds ⟨k, rest⟩).pdus.length < 256) :
    sndcpSendAll env.plain n201U 0 0 sne rounds ⟨k, rest⟩ =
      sndcpSendAll env n201U pcomp dcomp sne rounds ⟨k, rest⟩ := by
  induction rounds generalizing k rest with
  | zero => rfl
  | succ rounds ih =>
    have hfrag : sndcpSendUdFrag n201U pcomp dcomp sne ⟨k, rest⟩ =
        sndcpSendUdFrag n201U 0 0 sne ⟨k, rest⟩ := by
      rw [sndcpSendUdFrag_relabel, if_neg hk]
    rcases hplain : sndcpSendUdFrag n201U 0 0 sne ⟨k, rest⟩ with ⟨pdu, ⟨k', rest'⟩, more⟩
    have hk' : k' = (k + 1) % 256 := congrArg (·.2.1.fragNr) hplain.symm
    rw [sndcpSendAll, sndcpSendAll, hfrag, hplain]
    rw [sndcpSendAll, hfrag, hplain] at hrc hlen
    dsimp only at hrc hlen ⊢
    cases hllc : env.llcTxUi pdu with
    | error e =>
      rw [hllc] at hrc
      cases hrc
    | ok =>
      rw [hllc] at hrc hlen
      cases more with
      | false => rfl
      | true =>
        have hnext : k' = k + 1 := by
          rw [hk']
          simp only [if_true, List.length_cons] at hlen
          exact Nat.mod_eq_of_lt (by omega)
        subst hnext
        have hrest := ih (by omega : k + 1 ≠ 0) hrc (by
          simp only [if_true, List.length_cons] at hlen
          omega)
        simp only [if_true]
        rw [hrest]
        rfl

/-- **The fragments of a packet** differ from those of one that is not compressed in the modes. -/
theorem sndcpSendAll_relabel
    (hrc : (sndcpSendAll env n201U pcomp dcomp sne rounds ⟨0, rest⟩).rc = .ok ())
    (hlen : (sndcpSendAll env n201U pcomp dcomp sne rounds ⟨0, rest⟩).pdus.length < 256) :
    (sndcpSendAll env.plain n201U 0 0 sne rounds ⟨0, rest⟩).rc = .ok () ∧
      (sndcpSendAll env n201U pcomp dcomp sne rounds ⟨0, rest⟩).pdus =
        (sndcpSendAll env.plain n201U 0 0 sne rounds ⟨0, rest⟩).pdus.modifyHead
          (relabel pcomp dcomp) := by
  cases rounds with
  | zero => cases hrc
  | succ rounds =>
    have hfrag : sndcpSendUdFrag n201U pcomp dcomp sne ⟨0, rest⟩ =
        (relabel pcomp dcomp (sndcpSendUdFrag n201U 0 0 sne ⟨0, rest⟩).1,
          (sndcpSendUdFrag n201U 0 0 sne ⟨0, rest⟩).2) := by
      rw [sndcpSendUdFrag_relabel, if_pos rfl]
    rcases hplain : sndcpSendUdFrag n201U 0 0 sne ⟨0, rest⟩ with ⟨pdu, ⟨k', rest'⟩, more⟩
    have hk' : k' = 1 := congrArg (·.2.1.fragNr) hplain.symm
    rw [sndcpSendAll, sndcpSendAll, hfrag, hplain]
    rw [sndcpSendAll, hfrag, hplain] at hrc hlen
    subst hk'
    dsimp only at hrc hlen ⊢
    cases hllc : env.llcTxUi (relabel pcomp dcomp pdu) with
    | error e =>
      rw [hllc] at hrc
      cases hrc
    | ok =>
      rw [hllc] at hrc hlen
      cases more with
      | false => exact ⟨rfl, rfl⟩
      | true =>
        have hrest := sndcpSendAll_next one_ne_zero hrc (by
          simp only [if_true, List.length_cons] at hlen
          omega)
        simp only [if_true] at hrc ⊢
        rw [hrest]
        exact ⟨hrc, rfl⟩

/-- **A packet that is compressed** is sent as what it is compressed to would be. -/
theorem sndcpSnUnitdataReq_relabel (hactive : env.anyPcompOrDcompActive = true)
    (hcompress : env.compress npdu = some (payload, pcomp, dcomp))
    (hrc : (sndcpSnUnitdataReq env n201U sne npdu).rc = .ok ())
    (hlen : (sndcpSnUnitdataReq env n201U sne npdu).pdus.length < 256) :
    (sndcpSnUnitdataReq env.plain n201U sne payload).rc = .ok () ∧
      (sndcpSnUnitdataReq env n201U sne npdu).pdus =
        (sndcpSnUnitdataReq env.plain n201U sne payload).pdus.modifyHead
          (relabel pcomp dcomp) := by
  have hplain : env.plain.anyPcompOrDcompActive = false := rfl
  unfold sndcpSnUnitdataReq at hrc hlen ⊢
  simp only [hactive, hcompress, hplain, if_true, Bool.false_eq_true, if_false] at hrc hlen ⊢
  split at hrc
  · rename_i hlong
    rw [if_pos hlong] at hlen ⊢
    rw [if_pos hlong]
    exact sndcpSendAll_relabel hrc hlen
  · rename_i hshort
    rw [if_neg hshort, if_neg hshort]
    cases hllc : env.llcTxUi (commonHdr sne.nsapi false true :: compHdr pcomp dcomp ::
        udataHdr sne.txNpduNr 0 ++ payload) with
    | error e =>
      rw [hllc] at hrc
      cases hrc
    | ok => exact ⟨rfl, rfl⟩

end Sending

/-! ## Receiving -/

/-- An entity that has the modes of the packet under reassembly. -/
def labelled (m : ℕ × ℕ) (sne : GprsSndcpEntity) : GprsSndcpEntity :=
  { sne with defrag.pcomp := m.1, defrag.dcomp := m.2 }

/-- What is received is what would be without compression, expanded. -/
structure Unpacked (env : SndcpEnv) (m : ℕ × ℕ) (r r₀ : RxResult) : Prop where
  delivered : r.delivered = r₀.delivered.bind (env.decompress m.1 m.2)
  sne : r.sne = labelled m r₀.sne

section Receiving

variable {env : SndcpEnv} (hactive : env.anyPcompOrDcompActive = true) {sne : GprsSndcpEntity}
  (m : ℕ × ℕ)

include hactive

theorem handOff_labelled (sne : GprsSndcpEntity) (npdu : Bytes) :
    Unpacked env m (handOff env (labelled m sne) npdu) (handOff env.plain sne npdu) := by
  have hplain : env.plain.anyPcompOrDcompActive = false := rfl
  unfold handOff
  rw [if_pos hactive, hplain]
  simp only [Bool.false_eq_true, if_false]
  have hmodes : (labelled m sne).defrag.pcomp = m.1 ∧ (labelled m sne).defrag.dcomp = m.2 :=
    ⟨rfl, rfl⟩
  rw [hmodes.1, hmodes.2]
  cases hdecompress : env.decompress m.1 m.2 npdu with
  | none => exact ⟨hdecompress.symm, rfl⟩
  | some npdu' => exact ⟨hdecompress.symm, rfl⟩

theorem defragSegments_labelled (sne : GprsSndcpEntity) :
    Unpacked env m (defragSegments env (labelled m sne)) (defragSegments env.plain sne) := by
  unfold defragSegments
  have hlist : (labelled m sne).defrag.fragList = sne.defrag.fragList ∧
      (labelled m sne).defrag.highestSeg = sne.defrag.highestSeg ∧
      (labelled m sne).defrag.totLen = sne.defrag.totLen := ⟨rfl, rfl, rfl⟩
  rw [hlist.1, hlist.2.1, hlist.2.2]
  rcases defragCollect sne.defrag.fragList (List.range (sne.defrag.highestSeg + 1)) with
    ⟨_ | buf, fragList⟩
  · exact ⟨rfl, rfl⟩
  · exact handOff_labelled hactive m { sne with defrag.fragList := fragList } _

omit hactive in
theorem opened_labelled (sne : GprsSndcpEntity) (pdu : Bytes) :
    { labelled m sne with defrag := opened (labelled m sne).defrag pdu } =
      labelled m { sne with defrag := opened sne.defrag pdu } := by
  unfold opened
  split
  · rfl
  · rfl

omit hactive in
theorem taken_labelled (sne : GprsSndcpEntity) (pdu : Bytes) :
    { labelled m sne with defrag := taken (labelled m sne).defrag pdu } =
      labelled m { sne with defrag := taken sne.defrag pdu } := by
  unfold taken opened
  split
  · split
    · rfl
    · rfl
  · split
    · rfl
    · rfl

theorem defragInput_labelled (sne : GprsSndcpEntity) {pdu : Bytes} (hlen : pdu.length < 2 ^ 16) :
    Unpacked env m (defragInput env (labelled m sne) pdu) (defragInput env.plain sne pdu) := by
  rw [defragInput_eq env _ hlen, defragInput_eq env.plain _ hlen, opened_labelled, taken_labelled]
  have htaken : taken (labelled m sne).defrag pdu =
      (labelled m { sne with defrag := taken sne.defrag pdu }).defrag :=
    congrArg GprsSndcpEntity.defrag (taken_labelled m sne pdu)
  have hmore : (taken (labelled m sne).defrag pdu).noMore = (taken sne.defrag pdu).noMore := by
    rw [htaken]
    rfl
  have hall : defragHaveAllSegments (taken (labelled m sne).defrag pdu) =
      defragHaveAllSegments (taken sne.defrag pdu) := by
    rw [htaken]
    rfl
  rw [hmore, hall]
  split
  · exact ⟨rfl, rfl⟩
  · split
    · exact defragSegments_labelled hactive m { sne with defrag := taken sne.defrag pdu }
    · exact ⟨rfl, rfl⟩

/-- An SN-PDU that is not the first of its packet. -/
theorem ind_labelled (sne : GprsSndcpEntity) {pdu : Bytes} (hlen : pdu.length < 2 ^ 16)
    (hfirst : (snHdr pdu).first = false) :
    Unpacked env m (sndcpLlUnitdataInd env (labelled m sne) pdu)
      (sndcpLlUnitdataInd env.plain sne pdu) := by
  by_cases hadm : Admitted env (labelled m sne) pdu
  · have hplain : Admitted env.plain sne pdu := hadm
    have hsingle : ¬Single pdu := fun h ↦ absurd (h.1.symm.trans hfirst) (by decide)
    have hsame (s : GprsSndcpEntity) : withModes s pdu = s := by
      unfold withModes
      rw [hfirst, if_neg (by decide)]
    rw [ind_eq env _ pdu hadm, ind_eq env.plain _ pdu hplain, if_neg hsingle, if_neg hsingle, hsame,
      hsame]
    exact defragInput_labelled hactive m sne hlen
  · have hplain : ¬Admitted env.plain sne pdu := hadm
    obtain ⟨hsne, hnone⟩ := ind_of_not_admitted env (labelled m sne) pdu hadm
    obtain ⟨hsne₀, hnone₀⟩ := ind_of_not_admitted env.plain sne pdu hplain
    exact ⟨by rw [hnone, hnone₀]; rfl, by rw [hsne, hsne₀]⟩

omit hactive in
theorem octet_set_of_ne {i j : ℕ} (hne : i ≠ j) (pdu : Bytes) (x : UInt8) :
    octet (pdu.set j x) i = octet pdu i := by
  unfold octet
  rw [List.getD_eq_getElem?_getD, List.getD_eq_getElem?_getD, List.getElem?_set_ne hne.symm]

variable {pcomp dcomp : ℕ} {pdu : Bytes}

omit hactive in
/-- The modes are all that is different. -/
theorem snHdr_relabel (hfirst : (snHdr pdu).first = true) :
    snHdr (relabel pcomp dcomp pdu) = snHdr pdu := by
  have h0 : octet (relabel pcomp dcomp pdu) 0 = octet pdu 0 := octet_set_of_ne (by decide) _ _
  have h2 : octet (relabel pcomp dcomp pdu) 2 = octet pdu 2 := octet_set_of_ne (by decide) _ _
  have h3 : octet (relabel pcomp dcomp pdu) 3 = octet pdu 3 := octet_set_of_ne (by decide) _ _
  have hsch : decide (octet pdu 0 &&& 0x40 ≠ 0) = true := hfirst
  unfold snHdr
  dsimp only
  rw [h0, hsch]
  simp only [if_true, h2, h3]

omit hactive in
theorem payload_relabel (hfirst : (snHdr pdu).first = true) :
    payload (relabel pcomp dcomp pdu) = payload pdu := by
  unfold payload
  rw [snHdr_relabel hfirst]
  exact List.drop_set_of_lt (by omega)

omit hactive in
theorem defragInput_relabel (hfirst : (snHdr pdu).first = true) (hlen : pdu.length < 2 ^ 16)
    (env : SndcpEnv) (sne : GprsSndcpEntity) :
    defragInput env sne (relabel pcomp dcomp pdu) = defragInput env sne pdu := by
  have hlength : (relabel pcomp dcomp pdu).length = pdu.length := List.length_set
  have hopened (d : DefragState) : opened d (relabel pcomp dcomp pdu) = opened d pdu := by
    unfold opened
    rw [snHdr_relabel hfirst]
  have htaken (d : DefragState) : taken d (relabel pcomp dcomp pdu) = taken d pdu := by
    unfold taken segment
    rw [hopened, snHdr_relabel hfirst, payload_relabel hfirst]
  rw [defragInput_eq env sne hlen, defragInput_eq env sne (hlength.trans_lt hlen), hlength, hopened,
    htaken, snHdr_relabel hfirst]

/-- **The first SN-PDU of a packet.** -/
theorem ind_relabel (hlen : pdu.length < 2 ^ 16) (hfirst : (snHdr pdu).first = true)
    (hadm : Admitted env.plain sne pdu) (pcomp dcomp : ℕ) :
    Unpacked env (compModes (relabel pcomp dcomp pdu))
      (sndcpLlUnitdataInd env sne (relabel pcomp dcomp pdu))
      (sndcpLlUnitdataInd env.plain sne pdu) := by
  have hlength : (relabel pcomp dcomp pdu).length = pdu.length := List.length_set
  have hhdr : snHdr (relabel pcomp dcomp pdu) = snHdr pdu := snHdr_relabel hfirst
  have hadm' : Admitted env sne (relabel pcomp dcomp pdu) := by
    unfold Admitted
    rw [hhdr, hlength]
    exact hadm
  have hsingle : Single (relabel pcomp dcomp pdu) ↔ Single pdu := by
    unfold Single
    rw [hhdr]
  have hmodes : withModes sne (relabel pcomp dcomp pdu) =
      labelled (compModes (relabel pcomp dcomp pdu)) (withModes sne pdu) := by
    unfold withModes
    rw [hhdr, if_pos hfirst, if_pos hfirst]
    rfl
  rw [ind_eq env sne _ hadm', ind_eq env.plain sne pdu hadm, hmodes, hhdr, hlength,
    payload_relabel hfirst, defragInput_relabel hfirst hlen]
  by_cases hs : Single pdu
  · rw [if_pos hs, if_pos (hsingle.mpr hs)]
    split
    · exact ⟨rfl, rfl⟩
    · exact handOff_labelled hactive _ _ _
  · rw [if_neg hs, if_neg fun h ↦ hs (hsingle.mp h)]
    exact defragInput_labelled hactive _ _ hlen

/-- The SN-PDUs after the first one. -/
theorem feed_labelled {pdus : List Bytes}
    (hpdus : ∀ pdu ∈ pdus, pdu.length < 2 ^ 16 ∧ (snHdr pdu).first = false)
    (sne : GprsSndcpEntity) :
    feed env (labelled m sne) pdus =
      (feed env.plain sne pdus).map (·.bind (env.decompress m.1 m.2)) := by
  induction pdus generalizing sne with
  | nil => rfl
  | cons pdu pdus ih =>
    obtain ⟨⟨hlen, hfirst⟩, hrest⟩ := List.forall_mem_cons.mp hpdus
    obtain ⟨hdelivered, hsne⟩ := ind_labelled hactive m sne hlen hfirst
    rw [feed, feed, hdelivered, hsne, ih hrest]
    rfl

/-- **What is handed up of a packet that was compressed** is expanded. -/
theorem feed_relabel {pdus : List Bytes} (hlen : pdu.length < 2 ^ 16)
    (hfirst : (snHdr pdu).first = true) (hadm : Admitted env.plain sne pdu)
    (hpdus : ∀ pdu ∈ pdus, pdu.length < 2 ^ 16 ∧ (snHdr pdu).first = false)
    (pcomp dcomp : ℕ) :
    feed env sne (relabel pcomp dcomp pdu :: pdus) =
      (feed env.plain sne (pdu :: pdus)).map (·.bind (env.decompress
        (compModes (relabel pcomp dcomp pdu)).1 (compModes (relabel pcomp dcomp pdu)).2)) := by
  obtain ⟨hdelivered, hsne⟩ := ind_relabel hactive hlen hfirst hadm pcomp dcomp
  rw [feed, feed, hdelivered, hsne, feed_labelled hactive _ hpdus]
  rfl

end Receiving

/-! ## Packets -/

private theorem compHdr_bits : ∀ pcomp dcomp : Fin 16,
    (compHdr pcomp dcomp &&& 0xf).toNat = pcomp ∧ (compHdr pcomp dcomp >>> 4).toNat = dcomp := by
  decide +kernel

section Packets

variable {n201U pcomp dcomp : ℕ} {tx rx : GprsSndcpEntity} {npdu payload : Bytes}

/-- The modes are read back. -/
theorem compModes_relabel (hp : pcomp < 16) (hd : dcomp < 16) {pdu : Bytes}
    (hlen : 2 ≤ pdu.length) : compModes (relabel pcomp dcomp pdu) = (pcomp, dcomp) := by
  have hoctet : octet (relabel pcomp dcomp pdu) 1 = compHdr pcomp dcomp := by
    unfold octet relabel
    rw [List.getD_eq_getElem?_getD, List.getElem?_set_self (by omega), Option.getD_some]
  obtain ⟨hpcomp, hdcomp⟩ := compHdr_bits ⟨pcomp, hp⟩ ⟨dcomp, hd⟩
  unfold compModes
  rw [hoctet]
  exact Prod.ext hpcomp hdcomp

/-- Chunks are no longer than what fits. -/
theorem chunks_le (n201U rounds k : ℕ) (rest : Bytes) :
    ∀ p ∈ chunks n201U rounds k rest, p.length ≤ n201U - 3 := by
  induction rounds generalizing k rest with
  | zero => exact fun p hp ↦ absurd hp List.not_mem_nil
  | succ rounds ih =>
    have hchunk : chunkLen n201U k ≤ n201U - 3 := Nat.sub_le _ _
    rw [chunks]
    split
    · exact List.forall_mem_cons.mpr ⟨(List.length_take_le _ _).trans hchunk, ih _ _⟩
    · rename_i hlast
      exact List.forall_mem_singleton.mpr ((not_lt.mp hlast).trans hchunk)

theorem chunks_head (n201U rounds : ℕ) (rest p : Bytes) (ps : List Bytes)
    (h : chunks n201U rounds 0 rest = p :: ps) : p.length ≤ n201U - 4 := by
  cases rounds with
  | zero => cases h
  | succ rounds =>
    have hchunk : chunkLen n201U 0 = n201U - 4 := by
      unfold chunkLen
      rw [if_pos rfl]
      omega
    rw [chunks] at h
    split at h
    · obtain ⟨rfl, -⟩ := List.cons.inj h
      exact (List.length_take_le _ _).trans_eq hchunk
    · rename_i hlast
      obtain ⟨rfl, -⟩ := List.cons.inj h
      exact (not_lt.mp hlast).trans_eq hchunk

/-- The SN-PDUs after the first one. -/
theorem segs_next (hnsapi : tx.nsapi < 16) {n k : ℕ} (hk : k ≠ 0) {ps : List Bytes}
    (hps : ∀ p ∈ ps, p.length + 3 ≤ n) :
    ∀ pdu ∈ segs tx k ps, pdu.length ≤ n ∧ (snHdr pdu).first = false := by
  have hseg (k : ℕ) (hk : k ≠ 0) (more : Bool) (p : Bytes) (hp : p.length + 3 ≤ n) :
      (segPdu tx k more p).length ≤ n ∧ (snHdr (segPdu tx k more p)).first = false := by
    obtain ⟨-, -, -, hfirst, hsuh, -, hlen, -⟩ := snHdr_segPdu hnsapi k more p
    rw [if_neg hk] at hsuh
    rw [hlen, hsuh]
    exact ⟨hp, hfirst.trans (decide_eq_false hk)⟩
  induction k, ps using segs.induct with
  | case1 => exact fun pdu hpdu ↦ absurd hpdu List.not_mem_nil
  | case2 k p =>
    exact List.forall_mem_singleton.mpr (hseg k hk false p (hps p List.mem_cons_self))
  | case3 k p q ps ih =>
    exact List.forall_mem_cons.mpr ⟨hseg k hk true p (hps p List.mem_cons_self),
      ih (by omega) fun r hr ↦ hps r (List.mem_cons_of_mem p hr)⟩

/-- The first SN-PDU of a packet, and those after it. -/
structure Shape (env : SndcpEnv) (n201U : ℕ) (rx : GprsSndcpEntity) (pdu : Bytes)
    (pdus : List Bytes) : Prop where
  short : pdu.length ≤ n201U
  first : (snHdr pdu).first = true
  admitted : Admitted env rx pdu
  next : ∀ pdu ∈ pdus, pdu.length ≤ n201U ∧ (snHdr pdu).first = false

theorem shape_segPdu {env : SndcpEnv} (henv : env.mmctxFound = true) (hnsapi : tx.nsapi < 16)
    (hrx : rx.nsapi = tx.nsapi) {more : Bool} {p : Bytes} (hp : p.length + 4 ≤ n201U)
    {pdus : List Bytes} (hnext : ∀ pdu ∈ pdus, pdu.length ≤ n201U ∧ (snHdr pdu).first = false) :
    Shape env n201U rx (segPdu tx 0 more p) pdus := by
  obtain ⟨hn, -, htype, hfirst, hsuh, -, hlen, -⟩ := snHdr_segPdu hnsapi 0 more p
  rw [if_pos rfl] at hsuh
  rw [hsuh] at hlen
  exact ⟨hlen.trans_le hp, hfirst.trans (decide_eq_true rfl),
    ⟨htype, by omega, hn.trans hrx.symm, henv⟩, hnext⟩

/-- What is sent without compression has that shape. -/
theorem sndcpSnUnitdataReq_shape {env : SndcpEnv} (hcomp : env.anyPcompOrDcompActive = false)
    (henv : env.mmctxFound = true) (hmin : 5 ≤ n201U) (hmax : n201U < 2 ^ 16)
    (hnsapi : tx.nsapi < 16) (hrx : rx.nsapi = tx.nsapi)
    (hrc : (sndcpSnUnitdataReq env n201U tx npdu).rc = .ok ())
    (hlen : (sndcpSnUnitdataReq env n201U tx npdu).pdus.length ≤ 16) :
    ∃ pdu pdus, (sndcpSnUnitdataReq env n201U tx npdu).pdus = pdu :: pdus ∧
      Shape env n201U rx pdu pdus := by
  have hmaxLen : unfragmentedMax n201U = n201U - 4 := by
    unfold unfragmentedMax
    omega
  simp only [sndcpSnUnitdataReq, hcomp, Bool.false_eq_true, if_false, hmaxLen] at hrc hlen ⊢
  by_cases hfrag : npdu.length > n201U - 4
  · rw [if_pos hfrag] at hrc hlen ⊢
    obtain ⟨hpdus, hflat⟩ := sndcpSendAll_spec env hmin hmax tx _ 0 npdu hrc (by omega)
    have hle := chunks_le n201U (npdu.length + 2) 0 npdu
    cases hc : chunks n201U (npdu.length + 2) 0 npdu with
    | nil =>
      rw [hc] at hflat
      rw [← hflat] at hfrag
      exact absurd hfrag (Nat.not_lt_zero _)
    | cons p ps =>
      rw [hc] at hpdus hle
      have hp := chunks_head _ _ _ _ _ hc
      have hps (q : Bytes) (hq : q ∈ ps) : q.length + 3 ≤ n201U := by
        have := hle q (List.mem_cons_of_mem p hq)
        omega
      have hnext := segs_next hnsapi one_ne_zero hps
      rw [hpdus]
      cases ps with
      | nil => exact ⟨_, _, rfl, shape_segPdu henv hnsapi hrx (by omega) (by simp)⟩
      | cons q ps => exact ⟨_, _, rfl, shape_segPdu henv hnsapi hrx (by omega) hnext⟩
  · rw [if_neg hfrag] at hrc hlen ⊢
    have hseg : commonHdr tx.nsapi false true :: compHdr 0 0 :: udataHdr tx.txNpduNr 0 ++ npdu =
      segPdu tx 0 false npdu := rfl
    rw [hseg] at hrc hlen ⊢
    cases hllc : env.llcTxUi (segPdu tx 0 false npdu) with
    | error e =>
      rw [hllc] at hrc
      cases hrc
    | ok => exact ⟨_, _, rfl, shape_segPdu henv hnsapi hrx (by omega) (by simp)⟩

/-- **A packet that was compressed comes back** as what it is expanded to. -/
theorem comesBack_of_expands {env : SndcpEnv} (hactive : env.anyPcompOrDcompActive = true)
    (henv : env.mmctxFound = true) (hmin : 5 ≤ n201U) (hmax : n201U < 2 ^ 16)
    (hnsapi : tx.nsapi < 16) (hrx : rx.nsapi = tx.nsapi) (hp : pcomp < 16) (hd : dcomp < 16)
    (hcompress : env.compress npdu = some (payload, pcomp, dcomp)) (hne : payload ≠ [])
    (hexpand : env.decompress pcomp dcomp payload = some npdu)
    (hrc : (sndcpSnUnitdataReq env n201U tx npdu).rc = .ok ())
    (hlen : (sndcpSnUnitdataReq env n201U tx npdu).pdus.length ≤ 15) :
    ComesBack env rx (sndcpSnUnitdataReq env n201U tx npdu).pdus npdu := by
  obtain ⟨hrc₀, hpdus⟩ := sndcpSnUnitdataReq_relabel hactive hcompress hrc (by omega)
  have hlen₀ : (sndcpSnUnitdataReq env.plain n201U tx payload).pdus.length ≤ 15 := by
    rw [hpdus, List.length_modifyHead] at hlen
    exact hlen
  have hplain : env.plain.anyPcompOrDcompActive = false := rfl
  have henv₀ : env.plain.mmctxFound = true := henv
  obtain ⟨pdu, pdus, hshape, hpdu, hfirst, hadm, hnext⟩ :=
    sndcpSnUnitdataReq_shape hplain henv₀ hmin hmax hnsapi hrx hrc₀ (by omega)
  have hback := (sndcp_comes_back_iff env.plain hplain henv₀ hmin hmax tx rx hnsapi hrx payload hrc₀
    (by omega)).mpr ⟨hne, .inl hlen₀⟩
  have htwo : 2 ≤ pdu.length := by
    have := hadm.2.1
    omega
  have hfeed := feed_relabel hactive (hpdu.trans_lt hmax) hfirst hadm
    (fun x hx ↦ (hnext x hx).imp_left (·.trans_lt hmax)) pcomp dcomp
  rw [compModes_relabel hp hd htwo] at hfeed
  rw [hshape] at hpdus hback
  unfold ComesBack at hback ⊢
  rw [hpdus, List.modifyHead_cons, hfeed, hback, List.map_append, List.map_replicate,
    List.length_cons, List.length_cons]
  refine congrArg (List.replicate pdus.length none ++ ·) ?_
  exact congrArg (fun r ↦ [r]) hexpand

end Packets

/-! ## Data compression -/

/-- The surroundings of a link on which data is compressed and headers are not, with the entities
of both ends. -/
def dcompEnv (env : SndcpEnv) (es rs : List DcompEntity) (nsapi : ℕ) : SndcpEnv :=
  { env with
    anyPcompOrDcompActive := true
    compress := fun npdu ↦
      match gprsSndcpDcompCompress es npdu nsapi with
      | .ok sent => some (sent.data, 0, sent.dcomp)
      | .error _ => none
    decompress := fun _ dcomp npdu ↦
      match gprsSndcpDcompExpand rs npdu (segmentRoom npdu) dcomp with
      | .ok received => received.data
      | .error _ => none }

section Data

variable {entities : List CompEntity} {params params' : CompEntity → DcompParams}
  {es₀ es rs₀ rs : List DcompEntity} {data payload npdu : Bytes} {nsapi dcomp n201U : ℕ}
  {tx rx : GprsSndcpEntity}

/-- Nothing but an empty packet is compressed to nothing. -/
theorem SentFor.ne_nil (h : SentFor entities params nsapi data dcomp payload) (hne : data ≠ []) :
    payload ≠ [] := by
  cases h with
  | asIs _ => exact hne
  | tagged _ hsent =>
    cases hsent with
    | asIs => exact hne
    | compressed _ _ hexpands =>
      rintro rfl
      obtain ⟨d, hd, hhandled⟩ := hexpands 1 one_ne_zero
      obtain rfl := Except.ok.inj hd
      exact hne hhandled.symm

/-- Tags fit into the four bits that they have. -/
theorem SentFor.lt (h : SentFor entities params nsapi data dcomp payload)
    (htag : ∀ e ∈ entities, ∀ c ∈ e.comp, c < 16) : dcomp < 16 := by
  cases h with
  | asIs _ => decide
  | @tagged e i _ he _ =>
    have hmem : e ∈ entities := List.mem_of_find?_eq_some he
    unfold gprsSndcpCompGetComp
    split_ifs with h0 hlong
    · decide
    · decide
    · have hlt : i - 1 < e.comp.length := by omega
      rw [List.getD_eq_getElem e.comp 0 hlt]
      exact htag e hmem _ (List.getElem_mem hlt)

end Data

end OsmoSgsn.Sndcp
