import OsmoSgsn.Sndcp.Entity

/-!
# Does reassembly undo fragmentation?

The fragmenter numbers the segments of a packet in four bits, but takes the count modulo 15, so the
sixteenth segment is numbered 0 again. The reassembler then has two segments of number 0 and takes
the newer one for the start of the packet. Up to fifteen segments every packet comes back whole; a
packet of sixteen comes back only if it happens to look the same in the wrong order.
-/

namespace OsmoSgsn.Sndcp

/-! ## The header is read back -/

/-- A segment: number in the packet, whether more follow, and the data. -/
def segPdu (sne : GprsSndcpEntity) (fragNr : ℕ) (more : Bool) (payload : Bytes) : Bytes :=
  commonHdr sne.nsapi more (fragNr = 0) :: (if fragNr = 0 then [compHdr 0 0] else []) ++
    udataHdr sne.txNpduNr (fragNr % 0xf) ++ payload

private theorem commonHdr_bits : ∀ (nsapi : Fin 16) (more first : Bool),
    (commonHdr nsapi more first &&& 0xf).toNat = nsapi ∧
    decide (commonHdr nsapi more first &&& 0x10 ≠ 0) = more ∧
    decide (commonHdr nsapi more first &&& 0x20 ≠ 0) = true ∧
    decide (commonHdr nsapi more first &&& 0x40 ≠ 0) = first := by
  decide +kernel

private theorem udataHdr_segNr : ∀ (high : Fin 256) (segNr : Fin 16),
    (((UInt8.ofNat high &&& (0xf : UInt8)) ||| (UInt8.ofNat segNr <<< (4 : UInt8))) >>> 4).toNat =
      segNr := by
  decide +kernel

section Header

variable {sne : GprsSndcpEntity} (hnsapi : sne.nsapi < 16)

include hnsapi

/-- What the receiver reads from the header of a segment. -/
theorem snHdr_segPdu (fragNr : ℕ) (more : Bool) (payload : Bytes) :
    let pdu := segPdu sne fragNr more payload
    (snHdr pdu).nsapi = sne.nsapi ∧ (snHdr pdu).more = more ∧ (snHdr pdu).type = true ∧
    (snHdr pdu).first = decide (fragNr = 0) ∧ (snHdr pdu).suh = (if fragNr = 0 then 2 else 1) ∧
    (snHdr pdu).segNr = fragNr % 0xf ∧
    pdu.length = payload.length + (snHdr pdu).suh + 2 ∧
    pdu.drop ((snHdr pdu).suh + 2) = payload := by
  intro pdu
  have hseg (x : ℕ) : (((UInt8.ofNat x &&& (0xf : UInt8)) |||
      (UInt8.ofNat (fragNr % 0xf) <<< (4 : UInt8))) >>> 4).toNat = fragNr % 0xf := by
    have h := udataHdr_segNr ⟨x % 256, Nat.mod_lt _ (by norm_num)⟩ ⟨fragNr % 0xf, by omega⟩
    have hx : UInt8.ofNat (x % 256) = UInt8.ofNat x := by
      apply UInt8.toNat_inj.mp
      simp
    simpa [hx] using h
  obtain ⟨hn, hm, ht, hf⟩ := commonHdr_bits ⟨sne.nsapi, hnsapi⟩ more (decide (fragNr = 0))
  have hfirst : (snHdr pdu).first = decide (fragNr = 0) := hf
  have hsuh : (snHdr pdu).suh = if fragNr = 0 then 2 else 1 := by
    have hdef : (snHdr pdu).suh = if (snHdr pdu).first then 2 else 1 := rfl
    rw [hdef, hfirst]
    simp
  have hsegNr : (snHdr pdu).segNr = (octet pdu (snHdr pdu).suh >>> 4).toNat := rfl
  refine ⟨hn, hm, ht, hfirst, hsuh, ?_, ?_, ?_⟩
  · rw [hsegNr, hsuh]
    by_cases h0 : fragNr = 0
    · simpa [pdu, segPdu, h0, udataHdr] using hseg (sne.txNpduNr >>> 8)
    · simpa [pdu, segPdu, h0, udataHdr] using hseg (sne.txNpduNr >>> 8)
  · rw [hsuh]
    by_cases h0 : fragNr = 0 <;> simp [pdu, segPdu, h0, udataHdr]
  · rw [hsuh]
    by_cases h0 : fragNr = 0 <;> simp [pdu, segPdu, h0, udataHdr]

end Header

/-! ## What the fragmenter sends -/

/-- The data that fits into fragment `k`. -/
def chunkLen (n201U k : ℕ) : ℕ := n201U - 3 - if k = 0 then 1 else 0

/-- The cut of a packet, or of the rest of it from fragment `k` on. -/
def chunks (n201U : ℕ) : ℕ → ℕ → Bytes → List Bytes
  | 0, _, _ => []
  | rounds + 1, k, rest =>
    if chunkLen n201U k < rest.length then
      rest.take (chunkLen n201U k) :: chunks n201U rounds (k + 1) (rest.drop (chunkLen n201U k))
    else [rest]

/-- The segments that carry a list of chunks, numbered from `k` on. -/
def segs (sne : GprsSndcpEntity) : ℕ → List Bytes → List Bytes
  | _, [] => []
  | k, [p] => [segPdu sne k false p]
  | k, p :: q :: ps => segPdu sne k true p :: segs sne (k + 1) (q :: ps)

@[simp] theorem length_segs (sne : GprsSndcpEntity) (k : ℕ) (ps : List Bytes) :
    (segs sne k ps).length = ps.length := by
  induction k, ps using segs.induct with
  | case1 => rfl
  | case2 => rfl
  | case3 k p q ps ih => simp [segs, ih]

theorem sndcpSendUdFrag_eq {n201U : ℕ} (hmin : 5 ≤ n201U) (hmax : n201U < 2 ^ 16)
    (sne : GprsSndcpEntity) (k : ℕ) (rest : Bytes) :
    sndcpSendUdFrag n201U 0 0 sne ⟨k, rest⟩ =
      (segPdu sne k (decide (chunkLen n201U k < rest.length)) (rest.take (chunkLen n201U k)),
        ⟨(k + 1) % 256, rest.drop (chunkLen n201U k)⟩,
        decide (chunkLen n201U k < rest.length)) := by
  have hmaxPayload : (((n201U : ℤ) - 3 - if k = 0 then 1 else 0) % 2 ^ 32).toNat =
      chunkLen n201U k := by
    unfold chunkLen
    split <;> omega
  have htake : rest.take (min rest.length (chunkLen n201U k)) = rest.take (chunkLen n201U k) := by
    rw [Nat.min_comm, ← List.take_take, List.take_length]
  have hdrop : rest.drop (min rest.length (chunkLen n201U k)) = rest.drop (chunkLen n201U k) := by
    rcases le_total rest.length (chunkLen n201U k) with h | h
    · rw [min_eq_left h, List.drop_length, List.drop_eq_nil_of_le h]
    · rw [min_eq_right h]
  have hmore : decide (rest.drop (chunkLen n201U k) ≠ []) =
      decide (chunkLen n201U k < rest.length) := by
    simp [List.drop_eq_nil_iff]
  simp only [sndcpSendUdFrag, decide_eq_true_eq, hmaxPayload, htake, hdrop, hmore, segPdu]

/-- **The fragmenter** cuts the rest of a packet into chunks and numbers them on, as long as it
does not run past sixteen fragments. -/
theorem sndcpSendAll_spec (env : SndcpEnv) {n201U : ℕ} (hmin : 5 ≤ n201U) (hmax : n201U < 2 ^ 16)
    (sne : GprsSndcpEntity) (rounds k : ℕ) (rest : Bytes)
    (hrc : (sndcpSendAll env n201U 0 0 sne rounds ⟨k, rest⟩).rc = .ok ())
    (hk : k + (sndcpSendAll env n201U 0 0 sne rounds ⟨k, rest⟩).pdus.length ≤ 16) :
    (sndcpSendAll env n201U 0 0 sne rounds ⟨k, rest⟩).pdus =
        segs sne k (chunks n201U rounds k rest) ∧
      (chunks n201U rounds k rest).flatten = rest := by
  induction rounds generalizing k rest with
  | zero => simp [sndcpSendAll] at hrc
  | succ rounds ih =>
    rw [sndcpSendAll, sndcpSendUdFrag_eq hmin hmax] at hrc hk ⊢
    cases hllc : env.llcTxUi (segPdu sne k (decide (chunkLen n201U k < rest.length))
        (rest.take (chunkLen n201U k))) with
    | error e => simp [hllc] at hrc
    | ok _ =>
      simp only [hllc] at hrc hk ⊢
      by_cases hmore : chunkLen n201U k < rest.length
      · simp only [hmore, decide_true, if_true, List.length_cons] at hrc hk ⊢
        have hnext : (k + 1) % 256 = k + 1 := Nat.mod_eq_of_lt (by omega)
        rw [hnext] at hrc hk ⊢
        obtain ⟨hpdus, hflat⟩ := ih (k + 1) (rest.drop (chunkLen n201U k)) hrc (by omega)
        have hchunks : chunks n201U rounds (k + 1) (rest.drop (chunkLen n201U k)) ≠ [] := by
          rintro h
          rw [h] at hflat
          simp at hflat
          omega
        obtain ⟨q, qs, hq⟩ := List.exists_cons_of_ne_nil hchunks
        rw [hpdus, chunks, if_pos hmore, hq, segs, List.flatten_cons, ← hq, hflat]
        exact ⟨rfl, List.take_append_drop _ _⟩
      · simp only [hmore, decide_false, Bool.false_eq_true, if_false]
        rw [chunks, if_neg hmore, segs, List.take_of_length_le (by omega)]
        simp

/-- Chunks are no longer than `N201-U`, and all but the last are full. -/
theorem chunks_length (n201U rounds k : ℕ) (rest : Bytes) :
    (∀ p ∈ chunks n201U rounds k rest, p.length ≤ n201U) ∧
    ∀ i p, (chunks n201U rounds k rest)[i]? = some p →
      i + 1 < (chunks n201U rounds k rest).length → p.length = chunkLen n201U (k + i) := by
  induction rounds generalizing k rest with
  | zero => simp [chunks]
  | succ rounds ih =>
    obtain ⟨hle, hfull⟩ := ih (k + 1) (rest.drop (chunkLen n201U k))
    have hchunk : chunkLen n201U k ≤ n201U := by
      unfold chunkLen
      omega
    by_cases hmore : chunkLen n201U k < rest.length
    · rw [chunks, if_pos hmore]
      refine ⟨List.forall_mem_cons.mpr ⟨?_, hle⟩, ?_⟩
      · rw [List.length_take]
        omega
      · rintro (_ | i) p hp hi
        · obtain rfl : rest.take (chunkLen n201U k) = p := by simpa using hp
          rw [List.length_take, Nat.add_zero]
          omega
        · rw [hfull i p (by simpa using hp) (by simpa using hi), Nat.add_assoc, Nat.add_comm 1]
    · rw [chunks, if_neg hmore]
      refine ⟨?_, by simp⟩
      rw [List.forall_mem_singleton]
      omega

/-! ## What the reassembler collects -/

/-- The packets that are handed up, SN-PDU by SN-PDU. -/
def feed (env : SndcpEnv) (sne : GprsSndcpEntity) : List Bytes → List (Option Bytes)
  | [] => []
  | pdu :: pdus =>
    (sndcpLlUnitdataInd env sne pdu).delivered ::
      feed env (sndcpLlUnitdataInd env sne pdu).sne pdus

/-- The queue with one more segment. -/
def enqueued (d : DefragState) (seg : ℕ × Bytes) : DefragState :=
  { d with
    fragList := seg :: d.fragList
    highestSeg := max d.highestSeg seg.1
    segHave := d.segHave ||| (1#32 <<< seg.1)
    totLen := d.totLen + seg.2.length }

/-- Put the packet together if no segment is missing. -/
def finish (env : SndcpEnv) (sne : GprsSndcpEntity) : RxResult :=
  if defragHaveAllSegments sne.defrag then defragSegments env sne else ⟨.ok (), none, sne⟩

/-- The state in which a first segment leaves the reassembly behind, before it is enqueued. -/
def restarted (d : DefragState) (npduNum : ℕ) : DefragState :=
  { d with
    fragList := []
    npdu := npduNum
    noMore := false
    highestSeg := 0
    segHave := 0
    totLen := 0
    pcomp := 0
    dcomp := 0 }

section Receive

variable (env : SndcpEnv) (henv : env.mmctxFound = true) {tx sne : GprsSndcpEntity}
  (hnsapi : tx.nsapi < 16) (hsne : sne.nsapi = tx.nsapi) {payload : Bytes}
  (hlen : payload.length < maxTallocSize)

include henv hnsapi hsne hlen

/-- A segment that is not the first of its packet is enqueued; the last one may complete it. -/
theorem ind_next {k : ℕ} (hk : k ≠ 0) (more : Bool) (hmore : sne.defrag.noMore = false) :
    sndcpLlUnitdataInd env sne (segPdu tx k more payload) =
      if more then ⟨.ok (), none, { sne with defrag := enqueued sne.defrag (k % 0xf, payload) }⟩
      else finish env { sne with
        defrag := { enqueued sne.defrag (k % 0xf, payload) with noMore := true } } := by
  obtain ⟨hn, hm, ht, hf, hsuh, hseg, hpdu, hdrop⟩ := snHdr_segPdu hnsapi k more payload
  have hdata : (((segPdu tx k more payload).length : ℤ) -
      ((snHdr (segPdu tx k more payload)).suh + 2)) % 2 ^ 32 = payload.length := by
    rw [hpdu]
    unfold maxTallocSize at hlen
    omega
  have hshort : ¬ (segPdu tx k more payload).length < 3 := by
    rw [hpdu, hsuh, if_neg hk]
    omega
  have hentity : (snHdr (segPdu tx k more payload)).nsapi = sne.nsapi := hn.trans hsne.symm
  rw [sndcpLlUnitdataInd]
  simp only [ht, Bool.not_true, Bool.false_eq_true, if_false, hshort, hentity, ne_eq,
    not_true_eq_false, henv, hf, hk, decide_false, Bool.not_false, Bool.true_or, if_true]
  rw [defragInput]
  simp only [hf, hk, decide_false, Bool.false_eq_true, if_false, hdata, Int.toNat_natCast, hdrop,
    hseg, hm, defragEnqueue, ge_iff_le, Nat.not_le.mpr hlen, List.take_length]
  cases more
  · rfl
  · simp only [if_true, hmore, Bool.false_and, Bool.false_eq_true, if_false, enqueued]

/-- A first segment with more to come starts a packet. -/
theorem ind_first :
    sndcpLlUnitdataInd env sne (segPdu tx 0 true payload) =
      ⟨.ok (), none, { sne with defrag := enqueued (restarted sne.defrag
        (snHdr (segPdu tx 0 true payload)).npduNum) (0, payload) }⟩ := by
  obtain ⟨hn, hm, ht, hf, hsuh, hseg, hpdu, hdrop⟩ := snHdr_segPdu hnsapi 0 true payload
  have hdata : (((segPdu tx 0 true payload).length : ℤ) -
      ((snHdr (segPdu tx 0 true payload)).suh + 2)) % 2 ^ 32 = payload.length := by
    rw [hpdu]
    unfold maxTallocSize at hlen
    omega
  have hshort : ¬ (segPdu tx 0 true payload).length < 3 := by
    rw [hpdu, hsuh]
    simp
  have hcomp : octet (segPdu tx 0 true payload) 1 = compHdr 0 0 := rfl
  have hpcomp : (compHdr 0 0 &&& 0xf).toNat = 0 := by decide
  have hdcomp : (compHdr 0 0 >>> 4).toNat = 0 := by decide
  have hentity : (snHdr (segPdu tx 0 true payload)).nsapi = sne.nsapi := hn.trans hsne.symm
  rw [sndcpLlUnitdataInd]
  simp only [ht, Bool.not_true, Bool.false_eq_true, if_false, hshort, hentity, ne_eq,
    not_true_eq_false, henv, hf, decide_true, Bool.false_or, if_true, hm, hcomp, hpcomp, hdcomp]
  rw [defragInput]
  simp only [hf, decide_true, if_true, hdata, Int.toNat_natCast, hdrop, hseg, hm, defragEnqueue,
    ge_iff_le, Nat.not_le.mpr hlen, if_false, List.take_length]
  simp [enqueued, restarted]

omit hlen in
/-- A first segment with nothing to follow is a whole packet; an empty one is refused. -/
theorem ind_single (hcomp : env.anyPcompOrDcompActive = false) :
    (sndcpLlUnitdataInd env sne (segPdu tx 0 false payload)).delivered =
      if payload = [] then none else some payload := by
  obtain ⟨hn, hm, ht, hf, hsuh, -, hpdu, hdrop⟩ := snHdr_segPdu hnsapi 0 false payload
  have hshort : ¬ (segPdu tx 0 false payload).length < 3 := by
    rw [hpdu, hsuh]
    simp
  have hempty : (segPdu tx 0 false payload).length ≤
      (snHdr (segPdu tx 0 false payload)).suh + 2 ↔ payload = [] := by
    rw [hpdu, ← List.length_eq_zero_iff]
    omega
  have hentity : (snHdr (segPdu tx 0 false payload)).nsapi = sne.nsapi := hn.trans hsne.symm
  rw [sndcpLlUnitdataInd]
  simp only [ht, Bool.not_true, Bool.false_eq_true, if_false, hshort, hentity, ne_eq,
    not_true_eq_false, henv, hf, decide_true, Bool.false_or, if_true, hm, hempty, hdrop]
  split
  · rfl
  · simp [handOff, hcomp]

end Receive

/-- The segments of a list of chunks, with the numbers that the fragmenter gives them. -/
def numbered (k : ℕ) : List Bytes → List (ℕ × Bytes)
  | [] => []
  | p :: ps => (k % 0xf, p) :: numbered (k + 1) ps

/-- The entity once the last of a list of segments has been enqueued. -/
def completed (sne : GprsSndcpEntity) (d : DefragState) (l : List (ℕ × Bytes)) :
    GprsSndcpEntity :=
  { sne with defrag := { l.foldl enqueued d with noMore := true } }

/-- **A run of segments after the first.** All but the last are only enqueued; the last one
completes the packet if it can. -/
theorem feed_segs (env : SndcpEnv) (henv : env.mmctxFound = true) {tx : GprsSndcpEntity}
    (hnsapi : tx.nsapi < 16) (ps : List Bytes) {k : ℕ} (hk : k ≠ 0) (sne : GprsSndcpEntity)
    (hsne : sne.nsapi = tx.nsapi) (hmore : sne.defrag.noMore = false)
    (hlen : ∀ p ∈ ps, p.length < maxTallocSize) (hps : ps ≠ []) :
    feed env sne (segs tx k ps) = List.replicate (ps.length - 1) none ++
      [(finish env (completed sne sne.defrag (numbered k ps))).delivered] := by
  induction ps generalizing k sne with
  | nil => exact absurd rfl hps
  | cons p ps ih =>
    rw [List.forall_mem_cons] at hlen
    rcases ps with _ | ⟨q, ps⟩
    · simp [segs, feed, ind_next env henv hnsapi hsne hlen.1 hk false hmore, numbered, completed]
    · rw [segs, feed, ind_next env henv hnsapi hsne hlen.1 hk true hmore]
      rw [if_pos rfl]
      dsimp only
      rw [ih (Nat.succ_ne_zero k) { sne with defrag := enqueued sne.defrag (k % 0xf, p) } hsne hmore
        hlen.2 (by simp)]
      rfl

/-! ## Putting the packet together -/

theorem foldl_enqueued_fragList (l : List (ℕ × Bytes)) (d : DefragState) :
    (l.foldl enqueued d).fragList = l.reverse ++ d.fragList := by
  induction l generalizing d with
  | nil => rfl
  | cons seg l ih => simp [ih, enqueued]

theorem foldl_enqueued_highestSeg (l : List (ℕ × Bytes)) (d : DefragState) :
    (l.foldl enqueued d).highestSeg = (l.map (·.1)).foldl max d.highestSeg := by
  induction l generalizing d with
  | nil => rfl
  | cons seg l ih => simp [ih, enqueued]

theorem foldl_enqueued_segHave (l : List (ℕ × Bytes)) (d : DefragState) :
    (l.foldl enqueued d).segHave =
      (l.map (·.1)).foldl (fun mask i ↦ mask ||| (1#32 <<< i)) d.segHave := by
  induction l generalizing d with
  | nil => rfl
  | cons seg l ih => simp [ih, enqueued]

theorem foldl_enqueued_totLen (l : List (ℕ × Bytes)) (d : DefragState) :
    (l.foldl enqueued d).totLen = d.totLen + (l.map (·.2)).flatten.length := by
  induction l generalizing d with
  | nil => rfl
  | cons seg l ih => simp [ih, enqueued, Nat.add_assoc]

/-- A queue in which no number occurs twice gives back the segment of a number. -/
theorem find?_of_nodup {l : List (ℕ × Bytes)} (hl : (l.map (·.1)).Nodup) {seg : ℕ × Bytes}
    (hseg : seg ∈ l) : l.find? (·.1 = seg.1) = some seg := by
  induction l with
  | nil => simp at hseg
  | cons head l ih =>
    rw [List.map_cons, List.nodup_cons] at hl
    rcases List.mem_cons.mp hseg with rfl | hseg
    · simp
    · have hne : head.1 ≠ seg.1 := by
        intro h
        exact hl.1 (h ▸ List.mem_map_of_mem hseg)
      rw [List.find?_cons_of_neg (by simpa using hne), ih hl.2 hseg]

/-- The packet collected from a queue without repeated numbers. -/
theorem defragCollect_of_nodup (data : ℕ → Bytes) (segNrs : List ℕ) (hsegNrs : segNrs.Nodup)
    {l : List (ℕ × Bytes)} (hl : (l.map (·.1)).Nodup) (hmem : ∀ i ∈ segNrs, (i, data i) ∈ l) :
    (defragCollect l segNrs).1 = some (segNrs.map data).flatten := by
  induction segNrs generalizing l with
  | nil => rfl
  | cons i segNrs ih =>
    rw [List.forall_mem_cons] at hmem
    rw [List.nodup_cons] at hsegNrs
    have hrest : ∀ j ∈ segNrs, (j, data j) ∈ l.eraseP (·.1 = i) := by
      intro j hj
      have hne : j ≠ i := fun h ↦ hsegNrs.1 (h ▸ hj)
      exact (List.mem_eraseP_of_neg (by simpa using hne)).mpr (hmem.2 j hj)
    have hnodup : ((l.eraseP (·.1 = i)).map (·.1)).Nodup :=
      hl.sublist ((List.eraseP_sublist).map _)
    simp only [defragCollect, defragGetSeg, find?_of_nodup hl hmem.1, Option.map_some]
    rw [ih hsegNrs.2 hnodup hrest]
    simp

theorem getD_uninit_of_length {buf : Bytes} (uninit : ℕ → UInt8) :
    ((List.range buf.length).map fun i ↦ buf.getD i (uninit i)) = buf := by
  refine List.ext_getElem (by simp) fun i h _ ↦ ?_
  simp only [List.length_map, List.length_range] at h
  simp [h]

/-- What is handed up once all segments are there, without compression. -/
theorem finish_delivered {env : SndcpEnv} (hcomp : env.anyPcompOrDcompActive = false)
    {sne : GprsSndcpEntity} (hall : defragHaveAllSegments sne.defrag = true) {buf : Bytes}
    (hbuf : (defragCollect sne.defrag.fragList
      (List.range (sne.defrag.highestSeg + 1))).1 = some buf) :
    (finish env sne).delivered =
      some ((List.range sne.defrag.totLen).map fun i ↦ buf.getD i (env.uninit i)) := by
  rw [finish, if_pos hall, defragSegments]
  rcases h : defragCollect sne.defrag.fragList (List.range (sne.defrag.highestSeg + 1)) with
    ⟨buf', l⟩
  rw [h] at hbuf
  obtain rfl : buf' = some buf := hbuf
  simp [handOff, hcomp]

theorem numbered_snd (k : ℕ) (ps : List Bytes) : (numbered k ps).map (·.2) = ps := by
  induction ps generalizing k with
  | nil => rfl
  | cons p ps ih => rw [numbered, List.map_cons, ih]

/-- Up to fifteen segments the numbers are those of the fragments. -/
theorem numbered_fst {k : ℕ} {ps : List Bytes} (h : k + ps.length ≤ 15) :
    (numbered k ps).map (·.1) = List.range' k ps.length := by
  induction ps generalizing k with
  | nil => rfl
  | cons p ps ih =>
    rw [List.length_cons] at h
    rw [numbered, List.map_cons, ih (by omega), List.length_cons, List.range'_succ]
    simp [Nat.mod_eq_of_lt (by omega : k < 15)]

theorem mem_numbered {k : ℕ} {ps : List Bytes} (h : k + ps.length ≤ 15) {i : ℕ}
    (hi : i < ps.length) : (k + i, ps[i]) ∈ numbered k ps := by
  induction ps generalizing k i with
  | nil => simp at hi
  | cons p ps ih =>
    rw [List.length_cons] at h
    rcases i with _ | i
    · simp [numbered, Nat.mod_eq_of_lt (by omega : k < 15)]
    · have := ih (k := k + 1) (by omega) (i := i) (by simpa using hi)
      simp only [numbered, List.getElem_cons_succ, List.mem_cons]
      right
      convert this using 2
      omega

theorem numbered_append (k : ℕ) (ps qs : List Bytes) :
    numbered k (ps ++ qs) = numbered k ps ++ numbered (k + ps.length) qs := by
  induction ps generalizing k with
  | nil => rfl
  | cons p ps ih =>
    rw [List.cons_append, numbered, ih, numbered, List.length_cons, List.cons_append,
      show k + 1 + ps.length = k + (ps.length + 1) by omega]

theorem foldl_max_range (m : ℕ) : (List.range m).foldl max 0 = m - 1 := by
  induction m with
  | zero => rfl
  | succ m ih =>
    rw [List.range_succ, List.foldl_append, ih]
    simp

/-- Chunks that lie in a queue under consecutive numbers are collected in order. -/
theorem defragCollect_chunks {k : ℕ} {ps : List Bytes} {l : List (ℕ × Bytes)}
    (hl : (l.map (·.1)).Nodup) (hmem : ∀ i (hi : i < ps.length), (k + i, ps[i]) ∈ l) :
    (defragCollect l (List.range' k ps.length)).1 = some ps.flatten := by
  rw [defragCollect_of_nodup (fun i ↦ ps.getD (i - k) []) _ List.nodup_range' hl]
  · congr 2
    refine List.ext_getElem (by simp) fun i hi _ ↦ ?_
    simp only [List.length_map, List.length_range'] at hi
    simp [hi]
  · intro i hi
    rw [List.mem_range'_1] at hi
    have hget : ps.getD (i - k) [] = ps[i - k] := by
      rw [List.getD_eq_getElem?_getD, List.getElem?_eq_getElem (by omega), Option.getD_some]
    rw [hget]
    convert hmem (i - k) (by omega) using 2
    omega

theorem numbered_reverse_nodup {k : ℕ} {ps : List Bytes} (h : k + ps.length ≤ 15) :
    ((numbered k ps).reverse.map (·.1)).Nodup := by
  rw [List.map_reverse, List.nodup_reverse, numbered_fst h]
  exact List.nodup_range'

section Deliver

variable {env : SndcpEnv} (hcomp : env.anyPcompOrDcompActive = false) {sne : GprsSndcpEntity}
  {d : DefragState}
  (hd : d.fragList = [] ∧ d.highestSeg = 0 ∧ d.segHave = 0 ∧ d.totLen = 0)

include hcomp hd

/-- **Up to fifteen segments** the packet comes back as it was. -/
theorem finish_of_le {ps : List Bytes} (hps : ps ≠ []) (hlen : ps.length ≤ 15) :
    (finish env (completed sne d (numbered 0 ps))).delivered = some ps.flatten := by
  obtain ⟨hl, hhigh, hhave, htot⟩ := hd
  have hpos : 0 < ps.length := List.length_pos_iff.mpr hps
  have hhigh' : ((numbered 0 ps).foldl enqueued d).highestSeg + 1 = ps.length := by
    rw [foldl_enqueued_highestSeg, hhigh, numbered_fst (by omega), ← List.range_eq_range',
      foldl_max_range]
    omega
  have htot' : ((numbered 0 ps).foldl enqueued d).totLen = ps.flatten.length := by
    rw [foldl_enqueued_totLen, htot, numbered_snd, Nat.zero_add]
  have hall : defragHaveAllSegments (completed sne d (numbered 0 ps)).defrag = true := by
    simp only [completed, defragHaveAllSegments, segNeeded, hhigh', decide_eq_true_eq]
    rw [foldl_enqueued_segHave, hhave, numbered_fst (by omega), ← List.range_eq_range']
  have hbuf : (defragCollect ((numbered 0 ps).foldl enqueued d).fragList
      (List.range (((numbered 0 ps).foldl enqueued d).highestSeg + 1))).1 =
        some ps.flatten := by
    rw [hhigh', foldl_enqueued_fragList, hl, List.append_nil, List.range_eq_range']
    refine defragCollect_chunks (numbered_reverse_nodup (by omega)) fun i hi ↦ ?_
    rw [List.mem_reverse]
    exact mem_numbered (by omega) hi
  rw [finish_delivered hcomp hall hbuf]
  simp only [completed, htot', getD_uninit_of_length]

/-- **Of sixteen segments** the last one takes the place of the first, and the end of the packet is
what the buffer held before. -/
theorem finish_of_sixteen {p q : Bytes} {ps : List Bytes} (hlen : ps.length = 14) :
    (finish env (completed sne d (numbered 0 (p :: ps ++ [q])))).delivered =
      some ((List.range (p ++ ps.flatten ++ q).length).map fun i ↦
          (q ++ ps.flatten).getD i (env.uninit i)) := by
  obtain ⟨hl, hhigh, hhave, htot⟩ := hd
  have hnum : numbered 0 (p :: ps ++ [q]) = numbered 0 (p :: ps) ++ [(0, q)] := by
    rw [numbered_append]
    simp [numbered, hlen]
  have hfst : (numbered 0 (p :: ps ++ [q])).map (·.1) = List.range 15 ++ [0] := by
    rw [hnum, List.map_append, numbered_fst (by simp [hlen]), List.length_cons, hlen,
      List.range_eq_range']
    rfl
  have hhigh' : ((numbered 0 (p :: ps ++ [q])).foldl enqueued d).highestSeg = 14 := by
    rw [foldl_enqueued_highestSeg, hhigh, hfst]
    decide
  have htot' : ((numbered 0 (p :: ps ++ [q])).foldl enqueued d).totLen =
      (p ++ ps.flatten ++ q).length := by
    rw [foldl_enqueued_totLen, htot, numbered_snd]
    simp
  have hall : defragHaveAllSegments (completed sne d (numbered 0 (p :: ps ++ [q]))).defrag =
      true := by
    simp only [completed, defragHaveAllSegments, hhigh', decide_eq_true_eq]
    rw [foldl_enqueued_segHave, hhave, hfst]
    decide
  -- the newest segment of number 0 is the last one; the others are found in order behind it
  have hbuf : (defragCollect ((numbered 0 (p :: ps ++ [q])).foldl enqueued d).fragList
      (List.range (((numbered 0 (p :: ps ++ [q])).foldl enqueued d).highestSeg + 1))).1 =
        some (q ++ ps.flatten) := by
    have hrange : List.range (14 + 1) = 0 :: List.range' 1 ps.length := by
      rw [hlen]
      decide
    have hrest : (defragCollect (numbered 0 (p :: ps)).reverse (List.range' 1 ps.length)).1 =
        some ps.flatten := by
      refine defragCollect_chunks (numbered_reverse_nodup (by simp [hlen])) fun i hi ↦ ?_
      rw [List.mem_reverse, numbered]
      exact List.mem_cons_of_mem _ (mem_numbered (by omega) hi)
    rw [hhigh', foldl_enqueued_fragList, hl, List.append_nil, hnum, List.reverse_append, hrange]
    simp only [List.reverse_singleton, List.singleton_append, defragCollect, defragGetSeg,
      decide_true, List.find?_cons_of_pos, Option.map_some, List.eraseP_cons_of_pos, hrest]
  rw [finish_delivered hcomp hall hbuf]
  simp only [completed, htot']

end Deliver

/-! ## The round trip -/

/-- The packet is handed up once, with the last of the SN-PDUs and not before. -/
def ComesBack (env : SndcpEnv) (rx : GprsSndcpEntity) (pdus : List Bytes) (npdu : Bytes) : Prop :=
  feed env rx pdus = List.replicate (pdus.length - 1) none ++ [some npdu]

/-- What a packet of sixteen segments turns into: the last segment in place of the first, the
fourteen between, and what the buffer held before. -/
def reordered (n201U : ℕ) (uninit : ℕ → UInt8) (npdu : Bytes) : Bytes :=
  let buf := npdu.drop (n201U - 4 + 14 * (n201U - 3)) ++
    (npdu.drop (n201U - 4)).take (14 * (n201U - 3))
  (List.range npdu.length).map fun i ↦ buf.getD i (uninit i)

/-- All segments of a packet, the first included. -/
theorem feed_segs_zero (env : SndcpEnv) (henv : env.mmctxFound = true) {tx : GprsSndcpEntity}
    (hnsapi : tx.nsapi < 16) {p q : Bytes} {ps : List Bytes} {sne : GprsSndcpEntity}
    (hsne : sne.nsapi = tx.nsapi) (hlen : ∀ r ∈ p :: q :: ps, r.length < maxTallocSize) :
    ∃ npduNum, feed env sne (segs tx 0 (p :: q :: ps)) = List.replicate (ps.length + 1) none ++
      [(finish env (completed sne (restarted sne.defrag npduNum)
        (numbered 0 (p :: q :: ps)))).delivered] := by
  rw [List.forall_mem_cons] at hlen
  refine ⟨(snHdr (segPdu tx 0 true p)).npduNum, ?_⟩
  rw [segs, feed, ind_first env henv hnsapi hsne hlen.1, Nat.zero_add]
  dsimp only
  have hrest := feed_segs env henv hnsapi (q :: ps) one_ne_zero
    ⟨sne.nsapi, sne.txNpduNr, enqueued (restarted sne.defrag
      (snHdr (segPdu tx 0 true p)).npduNum) (0, p)⟩ hsne rfl hlen.2 (by simp)
  rw [hrest]
  rfl

/-- Of sixteen chunks, the parts of the packet that end up out of place. -/
theorem reordered_chunks {n201U : ℕ} {uninit : ℕ → UInt8} {p q : Bytes} {ps : List Bytes}
    (hp : p.length = n201U - 4) (hps : ps.flatten.length = 14 * (n201U - 3)) :
    reordered n201U uninit (p ++ ps.flatten ++ q) =
      (List.range (p ++ ps.flatten ++ q).length).map fun i ↦
        (q ++ ps.flatten).getD i (uninit i) := by
  have hlast : (p ++ ps.flatten ++ q).drop (n201U - 4 + 14 * (n201U - 3)) = q := by
    rw [← hp, ← hps, ← List.length_append, List.drop_left]
  have hmid : ((p ++ ps.flatten ++ q).drop (n201U - 4)).take (14 * (n201U - 3)) = ps.flatten := by
    rw [List.append_assoc, ← hp, List.drop_left, ← hps, List.take_left]
  simp only [reordered, hlast, hmid]

/-- A packet longer than one SN-PDU is cut into a first chunk and at least one more. -/
theorem chunks_of_long {n201U rounds : ℕ} {npdu : Bytes}
    (hmore : chunkLen n201U 0 < npdu.length)
    (hflat : (chunks n201U (rounds + 1) 0 npdu).flatten = npdu) :
    ∃ p q ps, chunks n201U (rounds + 1) 0 npdu = p :: q :: ps := by
  rw [chunks, if_pos hmore] at hflat ⊢
  rcases hrest : chunks n201U rounds (0 + 1) (npdu.drop (chunkLen n201U 0)) with _ | ⟨q, ps⟩
  · rw [hrest] at hflat
    have hlen := congrArg List.length hflat
    simp only [List.flatten_cons, List.flatten_nil, List.append_nil, List.length_take] at hlen
    omega
  · exact ⟨_, q, ps, rfl⟩

/-- Sixteen chunks are the first one, fourteen full ones and the last one. -/
theorem chunks_sixteen {n201U rounds : ℕ} {npdu p q : Bytes} {ps : List Bytes}
    (hc : chunks n201U rounds 0 npdu = p :: q :: ps) (hps : ps.length = 14) :
    ∃ mid last, q :: ps = mid ++ [last] ∧ mid.length = 14 ∧ p.length = n201U - 4 ∧
      mid.flatten.length = 14 * (n201U - 3) := by
  obtain ⟨-, hfull⟩ := chunks_length n201U rounds 0 npdu
  obtain ⟨mid, last, hmid⟩ : ∃ mid last, q :: ps = mid ++ [last] :=
    ⟨(q :: ps).dropLast, (q :: ps).getLast (by simp), (List.dropLast_append_getLast (by simp)).symm⟩
  rw [hc, hmid] at hfull
  have hmidLen : mid.length = 14 := by
    have hlen := congrArg List.length hmid
    simp only [List.length_cons, List.length_append, List.length_nil] at hlen
    omega
  refine ⟨mid, last, hmid, hmidLen, ?_, ?_⟩
  · rw [hfull 0 p rfl (by simp [hmidLen])]
    simp only [chunkLen, Nat.add_zero, if_true]
    omega
  · have hconst : ∀ x ∈ mid.map List.length, x = n201U - 3 := by
      intro x hx
      obtain ⟨m, hm, rfl⟩ := List.mem_map.mp hx
      obtain ⟨i, hi, rfl⟩ := List.mem_iff_getElem.mp hm
      have hget : (p :: (mid ++ [last]))[i + 1]? = some mid[i] := by
        rw [List.getElem?_cons_succ, List.getElem?_append_left hi, List.getElem?_eq_getElem hi]
      rw [hfull (i + 1) mid[i] hget (by simp; omega)]
      simp [chunkLen]
    rw [List.length_flatten, List.sum_eq_card_nsmul _ _ hconst, List.length_map, hmidLen,
      smul_eq_mul]

/-- The round trip of a packet that was cut. -/
theorem comesBack_segs_iff {env : SndcpEnv} (hcomp : env.anyPcompOrDcompActive = false)
    (henv : env.mmctxFound = true) {n201U rounds : ℕ} (hmax : n201U < 2 ^ 16)
    {tx rx : GprsSndcpEntity} (hnsapi : tx.nsapi < 16)
    (hrx : rx.nsapi = tx.nsapi) {npdu p q : Bytes}
    {ps : List Bytes} (hc : chunks n201U rounds 0 npdu = p :: q :: ps)
    (hflat : (p :: q :: ps).flatten = npdu) (hlen : ps.length ≤ 14) :
    ComesBack env rx (segs tx 0 (p :: q :: ps)) npdu ↔
      ps.length ≤ 13 ∨ reordered n201U env.uninit npdu = npdu := by
  obtain ⟨hle, -⟩ := chunks_length n201U rounds 0 npdu
  rw [hc] at hle
  obtain ⟨npduNum, hfeed⟩ := feed_segs_zero env henv hnsapi hrx fun r hr ↦
    (hle r hr).trans_lt (hmax.trans (by decide))
  have hd : (restarted rx.defrag npduNum).fragList = [] ∧
      (restarted rx.defrag npduNum).highestSeg = 0 ∧ (restarted rx.defrag npduNum).segHave = 0 ∧
      (restarted rx.defrag npduNum).totLen = 0 := ⟨rfl, rfl, rfl, rfl⟩
  rw [ComesBack, hfeed, length_segs, List.length_cons, List.length_cons, Nat.add_sub_cancel,
    List.append_cancel_left_eq, List.singleton_inj]
  by_cases h13 : ps.length ≤ 13
  · rw [finish_of_le hcomp hd (by simp) (by simp; omega), hflat]
    simp [h13]
  · obtain ⟨mid, last, hmid, hmidLen, hp, hmidFlat⟩ := chunks_sixteen hc (by omega)
    have hnpdu : p ++ mid.flatten ++ last = npdu := by
      rw [← hflat, hmid]
      simp
    have hdel : (finish env (completed rx (restarted rx.defrag npduNum)
        (numbered 0 (p :: mid ++ [last])))).delivered =
          some (reordered n201U env.uninit npdu) := by
      rw [finish_of_sixteen hcomp hd hmidLen, ← hnpdu, reordered_chunks hp hmidFlat]
    rw [hmid, show p :: (mid ++ [last]) = p :: mid ++ [last] from rfl, hdel, Option.some.injEq]
    simp only [h13, false_or]

/-- **When reassembly undoes fragmentation.** Without compression, for a packet that is sent in at
most sixteen SN-PDUs and whatever the receiving entity has in its queue: the packet comes back
exactly if it is not empty and took at most fifteen, or, for one of sixteen, if it reads the same
after the last segment has taken the place of the first. -/
theorem sndcp_comes_back_iff (env : SndcpEnv) (hcomp : env.anyPcompOrDcompActive = false)
    (henv : env.mmctxFound = true) {n201U : ℕ} (hmin : 5 ≤ n201U) (hmax : n201U < 2 ^ 16)
    (tx rx : GprsSndcpEntity) (hnsapi : tx.nsapi < 16) (hrx : rx.nsapi = tx.nsapi) (npdu : Bytes)
    (hrc : (sndcpSnUnitdataReq env n201U tx npdu).rc = .ok ())
    (hpdus : (sndcpSnUnitdataReq env n201U tx npdu).pdus.length ≤ 16) :
    ComesBack env rx (sndcpSnUnitdataReq env n201U tx npdu).pdus npdu ↔
      npdu ≠ [] ∧ ((sndcpSnUnitdataReq env n201U tx npdu).pdus.length ≤ 15 ∨
        reordered n201U env.uninit npdu = npdu) := by
  have hmaxLen : unfragmentedMax n201U = n201U - 4 := by
    unfold unfragmentedMax
    omega
  simp only [sndcpSnUnitdataReq, hcomp, Bool.false_eq_true, if_false, hmaxLen] at hrc hpdus ⊢
  by_cases hfrag : npdu.length > n201U - 4
  · simp only [hfrag, if_true] at hrc hpdus ⊢
    obtain ⟨heq, hflat⟩ := sndcpSendAll_spec env hmin hmax tx _ 0 npdu hrc (by omega)
    have hne : npdu ≠ [] := by
      rintro rfl
      simp at hfrag
    obtain ⟨p, q, ps, hc⟩ := chunks_of_long (by simp only [chunkLen, if_true]; omega) hflat
    rw [heq, hc, length_segs, List.length_cons, List.length_cons] at hpdus ⊢
    rw [hc] at hflat
    rw [comesBack_segs_iff hcomp henv hmax hnsapi hrx hc hflat (by omega)]
    simp only [hne, ne_eq, not_false_eq_true, true_and]
    exact or_congr_left (by omega)
  · simp only [hfrag, if_false] at hrc hpdus ⊢
    cases hllc : env.llcTxUi (commonHdr tx.nsapi false true :: compHdr 0 0 ::
        udataHdr tx.txNpduNr 0 ++ npdu) with
    | error e =>
      rw [hllc] at hrc
      exact absurd hrc (by simp)
    | ok _ =>
      have hseg : commonHdr tx.nsapi false true :: compHdr 0 0 :: udataHdr tx.txNpduNr 0 ++ npdu =
        segPdu tx 0 false npdu := rfl
      simp only [hseg, ComesBack, feed, ind_single env henv hnsapi hrx hcomp]
      by_cases hnil : npdu = [] <;> simp [hnil]

/-! ### Packets of fifteen and of sixteen segments -/

/-- Surroundings without compression, in which everything succeeds. -/
def exampleEnv : SndcpEnv where
  anyPcompOrDcompActive := false
  compress _ := none
  decompress _ _ _ := none
  mmctxFound := true
  uninit _ := 0
  llcTxUi _ := .ok ()

/-- The packet of octets 1 to `n`. -/
def examplePacket (n : ℕ) : Bytes := (List.range n).map fun i ↦ UInt8.ofNat (i + 1)

/-- The longest packet of fifteen segments for an `N201-U` of 5 comes back. -/
theorem sndcp_comes_back_fifteen :
    ComesBack exampleEnv (gprsSndcpEntityAlloc 5)
      (sndcpSnUnitdataReq exampleEnv 5 (gprsSndcpEntityAlloc 5) (examplePacket 29)).pdus
      (examplePacket 29) :=
  (sndcp_comes_back_iff exampleEnv rfl rfl (by decide) (by decide) (gprsSndcpEntityAlloc 5)
    (gprsSndcpEntityAlloc 5) (by decide) rfl (examplePacket 29) (by rfl) (by decide +kernel)).mpr
      ⟨by decide, .inl (by decide +kernel)⟩

/-- A packet of sixteen segments comes back with its last octet in place of the first one, and with
an octet of the buffer at the end. -/
theorem sndcp_sixteen_segments_garbled :
    (sndcpSnUnitdataReq exampleEnv 5 (gprsSndcpEntityAlloc 5) (examplePacket 30)).rc = .ok () ∧
    (sndcpSnUnitdataReq exampleEnv 5 (gprsSndcpEntityAlloc 5) (examplePacket 30)).pdus.length =
      16 ∧
    feed exampleEnv (gprsSndcpEntityAlloc 5)
      (sndcpSnUnitdataReq exampleEnv 5 (gprsSndcpEntityAlloc 5) (examplePacket 30)).pdus =
        List.replicate 15 none ++
          [some (30 :: (examplePacket 29).drop 1 ++ [0])] ∧
    ¬ ComesBack exampleEnv (gprsSndcpEntityAlloc 5)
      (sndcpSnUnitdataReq exampleEnv 5 (gprsSndcpEntityAlloc 5) (examplePacket 30)).pdus
      (examplePacket 30) := by
  refine ⟨rfl, by decide +kernel, by decide +kernel, ?_⟩
  rw [ComesBack]
  decide +kernel

end OsmoSgsn.Sndcp
