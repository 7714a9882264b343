import OsmoSgsn.Library.BitSet
import OsmoSgsn.Sndcp.Reassembly

/-!
# Packets are not mixed

There is one reassembly for each entity, and only a first segment starts it over. A segment of
another packet is noticed but enqueued all the same, and a segment that is already there is
enqueued once more. A packet that is a single segment passes by the queue, but leaves its
compression modes behind for the packet that is in it.

The results are about all runs of an entity: which segments must not arrive for every packet that
is handed on to be the concatenation of segments of one packet, and for it to be expanded with the
modes of its own first segment.
-/

namespace OsmoSgsn.Sndcp

/-! ## Segment numbers -/

theorem segNr_lt (pdu : Bytes) : (snHdr pdu).segNr < 16 := by
  have hall : ∀ x : Fin 256, (UInt8.ofNat x >>> 4).toNat < 16 := by decide +kernel
  have hdef : (snHdr pdu).segNr = (octet pdu (snHdr pdu).suh >>> 4).toNat := rfl
  have h := hall ⟨(octet pdu (snHdr pdu).suh).toNat, UInt8.toNat_lt _⟩
  rw [hdef]
  simpa using h

theorem getLsbD_segNeeded (highestSeg : ℕ) {i : ℕ} (hi : i < 32) :
    (segNeeded highestSeg).getLsbD i = decide (i ≤ highestSeg) := by
  rw [segNeeded, BitVec.getLsbD_foldl_or _ _ hi]
  simp

theorem getLsbD_enqueued (d : DefragState) (seg : ℕ × Bytes) {i : ℕ} (hi : i < 32) :
    (enqueued d seg).segHave.getLsbD i = (d.segHave.getLsbD i || decide (i = seg.1)) := by
  rw [enqueued, BitVec.getLsbD_or, BitVec.getLsbD_one_shiftLeft _ hi]

/-! ## The loop over the queue -/

/-- The segments that are taken out and those that are left are those that were there. -/
theorem collectHeld_perm {held : List Bytes} {nrs : List ℕ} {segs : List Bytes}
    (h : (collectHeld held nrs).1 = some segs) :
    held.Perm (segs ++ (collectHeld held nrs).2) := by
  induction nrs generalizing held segs with
  | nil =>
    rw [collectHeld] at h
    obtain rfl : [] = segs := by simpa using h
    exact .refl _
  | cons nr nrs ih =>
    rw [collectHeld] at h ⊢
    cases hfind : held.find? fun pdu ↦ (snHdr pdu).segNr = nr with
    | none => simp [hfind] at h
    | some pdu =>
      simp only [hfind, Option.map_eq_some_iff] at h ⊢
      obtain ⟨segs', hsegs', rfl⟩ := h
      obtain ⟨pdu', l, r, hnot, hpdu', hheld, herase⟩ :=
        List.exists_of_eraseP (List.mem_of_find?_eq_some hfind) (List.find?_some hfind)
      -- the segment that is found is the one that is erased
      have hsame : pdu' = pdu := by
        rw [hheld, List.find?_append, List.find?_eq_none.mpr (by simpa using hnot)] at hfind
        simpa [of_decide_eq_true hpdu'] using hfind
      refine List.Perm.trans ?_ ((ih hsegs').cons pdu)
      rw [herase, hheld, hsame]
      exact List.perm_middle

theorem segNr_collectHeld {held : List Bytes} {nrs : List ℕ} {segs : List Bytes}
    (h : (collectHeld held nrs).1 = some segs) :
    segs.map (fun pdu ↦ (snHdr pdu).segNr) = nrs := by
  induction nrs generalizing held segs with
  | nil =>
    rw [collectHeld] at h
    obtain rfl : [] = segs := by simpa using h
    rfl
  | cons nr nrs ih =>
    rw [collectHeld] at h
    cases hfind : held.find? fun pdu ↦ (snHdr pdu).segNr = nr with
    | none => simp [hfind] at h
    | some pdu =>
      simp only [hfind, Option.map_eq_some_iff] at h
      obtain ⟨segs', hsegs', rfl⟩ := h
      rw [List.map_cons, ih hsegs']
      congr 1
      simpa using List.find?_some hfind

/-- Whatever the loop does, it leaves only what was there. -/
theorem mem_of_mem_collectHeld {held : List Bytes} {nrs : List ℕ} {pdu : Bytes}
    (h : pdu ∈ (collectHeld held nrs).2) : pdu ∈ held := by
  induction nrs generalizing held with
  | nil => exact h
  | cons nr nrs ih =>
    rw [collectHeld] at h
    cases hfind : held.find? fun pdu ↦ (snHdr pdu).segNr = nr with
    | none => simpa [hfind] using h
    | some pdu' =>
      simp only [hfind] at h
      exact List.mem_of_mem_eraseP (ih h)

/-- The loop succeeds on distinct numbers that are all there. -/
theorem collectHeld_isSome {held : List Bytes} {nrs : List ℕ} (hnodup : nrs.Nodup)
    (hthere : ∀ nr ∈ nrs, ∃ pdu ∈ held, (snHdr pdu).segNr = nr) :
    ∃ segs, (collectHeld held nrs).1 = some segs := by
  induction nrs generalizing held with
  | nil => exact ⟨[], rfl⟩
  | cons nr nrs ih =>
    rw [List.nodup_cons] at hnodup
    rw [List.forall_mem_cons] at hthere
    obtain ⟨⟨pdu, hpdu, hnr⟩, hrest⟩ := hthere
    have hleft : ∀ nr' ∈ nrs, ∃ pdu ∈ held.eraseP fun pdu ↦ (snHdr pdu).segNr = nr,
        (snHdr pdu).segNr = nr' := by
      intro nr' hnr'
      obtain ⟨pdu', hpdu', rfl⟩ := hrest nr' hnr'
      have hne : (snHdr pdu').segNr ≠ nr := by
        rintro h
        exact hnodup.1 (h ▸ hnr')
      exact ⟨pdu', (List.mem_eraseP_of_neg (by simpa using hne)).mpr hpdu', rfl⟩
    obtain ⟨segs, hsegs⟩ := ih hnodup.2 hleft
    rw [collectHeld]
    cases hfind : held.find? fun pdu ↦ (snHdr pdu).segNr = nr with
    | none => exact absurd hnr (by simpa using List.find?_eq_none.mp hfind pdu hpdu)
    | some pdu' => exact ⟨pdu' :: segs, by simp [hsegs]⟩

/-! ## The segments of one packet -/

/-- A reassembly that is under way: the bits, the length and the queue tell of the same segments,
one for each number. -/
structure Collecting (d : DefragState) (held : List Bytes) : Prop where
  totLen : d.totLen = (held.map payload).flatten.length
  segHave : ∀ i < 32, d.segHave.getLsbD i = true ↔ ∃ pdu ∈ held, (snHdr pdu).segNr = i
  nodup : (held.map fun pdu ↦ (snHdr pdu).segNr).Nodup
  highestSeg : d.highestSeg < 16

/-- A reassembly that is over: segment 0 has come and is not in the queue any more, so that no
packet can be put together. -/
structure Spent (d : DefragState) (held : List Bytes) : Prop where
  zero : d.segHave.getLsbD 0 = true
  gone : ∀ pdu ∈ held, (snHdr pdu).segNr ≠ 0

/-- The segments in the queue belong to the packet under reassembly. -/
structure OnePacket (d : DefragState) (held : List Bytes) : Prop where
  npdu : ∀ pdu ∈ held, (snHdr pdu).npduNum = d.npdu
  phase : Collecting d held ∨ Spent d held

theorem OnePacket.congr {d e : DefragState} {held : List Bytes} (h : OnePacket d held)
    (hnpdu : e.npdu = d.npdu) (htot : e.totLen = d.totLen) (hhave : e.segHave = d.segHave)
    (hhigh : e.highestSeg = d.highestSeg) : OnePacket e held where
  npdu pdu hpdu := by rw [hnpdu, h.npdu pdu hpdu]
  phase := by
    refine h.phase.imp (fun hc ↦ ?_) fun hs ↦ ?_
    · exact ⟨by rw [htot, hc.totLen], by rw [hhave]; exact hc.segHave, hc.nodup,
        by rw [hhigh]; exact hc.highestSeg⟩
    · exact ⟨by rw [hhave]; exact hs.zero, hs.gone⟩

/-- A first segment finds nothing in the queue. -/
theorem onePacket_opened_first (d : DefragState) {pdu : Bytes} (hfirst : (snHdr pdu).first = true) :
    Collecting (opened d pdu) [] ∧ (opened d pdu).npdu = (snHdr pdu).npduNum := by
  rw [opened, if_pos hfirst]
  refine ⟨⟨rfl, fun i _ ↦ ?_, List.nodup_nil, by norm_num⟩, rfl⟩
  simp

section Taken

variable {d : DefragState} {held : List Bytes} {pdu : Bytes}

theorem taken_npdu : (taken d pdu).npdu = (opened d pdu).npdu := by
  rw [taken]
  split <;> rfl

theorem taken_totLen : (taken d pdu).totLen = (opened d pdu).totLen + (payload pdu).length := by
  rw [taken]
  split <;> rfl

theorem taken_highestSeg :
    (taken d pdu).highestSeg = max (opened d pdu).highestSeg (snHdr pdu).segNr := by
  rw [taken]
  split <;> rfl

theorem taken_segHave {i : ℕ} (hi : i < 32) :
    (taken d pdu).segHave.getLsbD i =
      ((opened d pdu).segHave.getLsbD i || decide (i = (snHdr pdu).segNr)) := by
  rw [taken]
  split
  · exact getLsbD_enqueued _ _ hi
  · exact getLsbD_enqueued _ _ hi

/-- A segment with a number that has not come yet. -/
theorem Collecting.taken (h : Collecting (opened d pdu) held)
    (hnew : (opened d pdu).segHave.getLsbD (snHdr pdu).segNr = false) :
    Collecting (taken d pdu) (pdu :: held) where
  totLen := by
    rw [taken_totLen, h.totLen, List.map_cons, List.flatten_cons, List.length_append, Nat.add_comm]
  segHave i hi := by
    rw [taken_segHave hi, Bool.or_eq_true, h.segHave i hi, decide_eq_true_eq]
    simp only [List.exists_mem_cons_iff]
    rw [or_comm, eq_comm]
  nodup := by
    rw [List.map_cons, List.nodup_cons]
    refine ⟨fun hmem ↦ ?_, h.nodup⟩
    rw [List.mem_map] at hmem
    have hlt : (snHdr pdu).segNr < 32 := (segNr_lt pdu).trans (by norm_num)
    have hbit := (h.segHave _ hlt).mpr hmem
    rw [hnew] at hbit
    exact Bool.false_ne_true hbit
  highestSeg := by
    rw [taken_highestSeg]
    exact max_lt h.highestSeg (segNr_lt pdu)

theorem Spent.taken (h : Spent (opened d pdu) held) (hnr : (snHdr pdu).segNr ≠ 0) :
    Spent (taken d pdu) (pdu :: held) where
  zero := by rw [taken_segHave (by norm_num), h.zero, Bool.true_or]
  gone := List.forall_mem_cons.mpr ⟨hnr, h.gone⟩

end Taken

/-- **A complete queue** is emptied, and its segments are those of the packet. -/
theorem Collecting.collectHeld {d : DefragState} {held : List Bytes} (h : Collecting d held)
    (hall : defragHaveAllSegments d = true) :
    ∃ segs, collectHeld held (List.range (d.highestSeg + 1)) = (some segs, []) ∧
      held.Perm segs := by
  have hneed : segNeeded d.highestSeg = d.segHave := of_decide_eq_true hall
  have hthere : ∀ i, i < 32 → (i ≤ d.highestSeg ↔ ∃ pdu ∈ held, (snHdr pdu).segNr = i) := by
    intro i hi
    rw [← h.segHave i hi, ← hneed, getLsbD_segNeeded _ hi, decide_eq_true_eq]
  have hrange : ∀ i ∈ List.range (d.highestSeg + 1), ∃ pdu ∈ held, (snHdr pdu).segNr = i := by
    intro i hi
    have hle : i ≤ d.highestSeg := Nat.lt_succ_iff.mp (List.mem_range.mp hi)
    have hlt := h.highestSeg
    exact (hthere i (by omega)).mp hle
  obtain ⟨segs, hsegs⟩ := collectHeld_isSome List.nodup_range hrange
  have hperm := collectHeld_perm hsegs
  have hnrs := segNr_collectHeld hsegs
  -- every number in the queue is one of a segment taken out, and there is one of each
  have hleft : (Sndcp.collectHeld held (List.range (d.highestSeg + 1))).2 = [] := by
    rw [List.eq_nil_iff_forall_not_mem]
    intro pdu hpdu
    have hheld : pdu ∈ held := mem_of_mem_collectHeld hpdu
    have hle := (hthere _ ((segNr_lt pdu).trans (by norm_num))).mpr ⟨pdu, hheld, rfl⟩
    have hnodup := (hperm.map fun pdu ↦ (snHdr pdu).segNr).nodup_iff.mp h.nodup
    rw [List.map_append, hnrs] at hnodup
    exact (List.nodup_append.mp hnodup).2.2 _ (List.mem_range.mpr (Nat.lt_succ_of_le hle)) _
      (List.mem_map_of_mem hpdu) rfl
  refine ⟨segs, Prod.ext hsegs hleft, ?_⟩
  rw [hleft, List.append_nil] at hperm
  exact hperm

theorem Spent.collectHeld {d : DefragState} {held : List Bytes} (h : Spent d held) :
    collectHeld held (List.range (d.highestSeg + 1)) = (none, held) := by
  have hfind : held.find? (fun pdu ↦ (snHdr pdu).segNr = 0) = none := by
    rw [List.find?_eq_none]
    intro pdu hpdu
    simpa using h.gone pdu hpdu
  rw [List.range_succ_eq_map, Sndcp.collectHeld, hfind]

/-- A packet is the concatenation of its segments, which carry the number of one packet. -/
def Handed.Unmixed (h : Handed) : Prop :=
  h.npdu = (h.segs.map payload).flatten ∧
    ∀ pdu ∈ h.segs, ∀ seg ∈ h.segs.head?, (snHdr pdu).npduNum = (snHdr seg).npduNum

theorem written_length (env : SndcpEnv) (buf : Bytes) : written env buf.length buf = buf :=
  getD_uninit_of_length env.uninit

/-- **One segment.** One of the packet under reassembly, with a number that has not come yet, keeps
the queue to one packet, and so is a packet that it completes. -/
theorem OnePacket.defragHeld (env : SndcpEnv) {d : DefragState} {held : List Bytes} {pdu : Bytes}
    (h : OnePacket d held) (hok : (snHdr pdu).first = true ∨
      (snHdr pdu).npduNum = d.npdu ∧ d.segHave.getLsbD (snHdr pdu).segNr = false) :
    OnePacket (if pdu.length < (snHdr pdu).suh + 2 then opened d pdu else taken d pdu)
        (defragHeld env d held pdu).1 ∧
      ∀ out ∈ (defragHeld env d held pdu).2, out.Unmixed := by
  -- the queue that the segment meets, with the number of its own packet
  obtain ⟨hopen, hnum, hnew⟩ :
      OnePacket (opened d pdu) (if (snHdr pdu).first then [] else held) ∧
        (opened d pdu).npdu = (snHdr pdu).npduNum ∧
        (opened d pdu).segHave.getLsbD (snHdr pdu).segNr = false := by
    by_cases hfirst : (snHdr pdu).first = true
    · obtain ⟨hcol, hnum⟩ := onePacket_opened_first d hfirst
      rw [if_pos hfirst]
      refine ⟨⟨by simp, .inl hcol⟩, hnum, ?_⟩
      rw [opened, if_pos hfirst]
      simp
    · obtain ⟨hnum, hnew⟩ := hok.resolve_left hfirst
      rw [opened, if_neg hfirst, if_neg hfirst]
      exact ⟨h, hnum.symm, hnew⟩
  rw [Sndcp.defragHeld]
  by_cases hshort : pdu.length < (snHdr pdu).suh + 2
  · simp only [if_pos hshort]
    exact ⟨hopen, by simp⟩
  · simp only [if_neg hshort]
    have htaken : OnePacket (taken d pdu) (pdu :: if (snHdr pdu).first then [] else held) := by
      refine ⟨?_, hopen.phase.imp (·.taken hnew) fun hspent ↦ hspent.taken fun hzero ↦ ?_⟩
      · rw [List.forall_mem_cons, taken_npdu, hnum]
        exact ⟨rfl, fun pdu hpdu ↦ (hopen.npdu pdu hpdu).trans hnum⟩
      · rw [hzero, hspent.zero] at hnew
        exact Bool.false_ne_true hnew.symm
    by_cases hall : ((taken d pdu).noMore && defragHaveAllSegments (taken d pdu)) = true
    · simp only [if_pos hall]
      rw [Bool.and_eq_true] at hall
      rcases htaken.phase with hcol | hspent
      · obtain ⟨segs, hcollect, hperm⟩ := hcol.collectHeld hall.2
        simp only [hcollect]
        have hzero : (taken d pdu).segHave.getLsbD 0 = true := by
          rw [← of_decide_eq_true hall.2, getLsbD_segNeeded _ (by norm_num)]
          simp
        refine ⟨⟨by simp, .inr ⟨hzero, by simp⟩⟩, ?_⟩
        rintro out ⟨⟩
        constructor
        · have hlen : (taken d pdu).totLen = (segs.map payload).flatten.length := by
            rw [hcol.totLen]
            exact ((hperm.map payload).flatten).length_eq
          show written env _ _ = _
          rw [hlen, written_length]
        · intro p hp q hq
          rw [htaken.npdu p (hperm.mem_iff.mpr hp),
            htaken.npdu q (hperm.mem_iff.mpr (List.mem_of_mem_head? hq))]
      · simp only [hspent.collectHeld]
        exact ⟨htaken, by simp⟩
    · simp only [if_neg hall]
      exact ⟨htaken, by simp⟩

/-- Whether an SN-PDU may arrive: one that is not the first of its packet belongs to the packet
under reassembly, and its number has not come yet. -/
def InTurn (s : Traced) (e : SndcpEnv × SnPdu) : Prop :=
  Admitted e.1 s.sne e.2.octets → (snHdr e.2.octets).first = true ∨
    (snHdr e.2.octets).npduNum = s.sne.defrag.npdu ∧
      s.sne.defrag.segHave.getLsbD (snHdr e.2.octets).segNr = false

theorem withModes_onePacket {sne : GprsSndcpEntity} {held : List Bytes} (pdu : Bytes)
    (h : OnePacket sne.defrag held) : OnePacket (withModes sne pdu).defrag held := by
  rw [withModes]
  split
  · exact h.congr rfl rfl rfl rfl
  · exact h

/-- One step of a run. -/
theorem onePacket_step (s : Traced) (e : SndcpEnv × SnPdu) (h : OnePacket s.sne.defrag s.held)
    (hok : InTurn s e) :
    OnePacket (tracedEntity.step s e).1.sne.defrag (tracedEntity.step s e).1.held ∧
      ∀ out ∈ (tracedEntity.step s e).2, out.Unmixed := by
  obtain ⟨env, pdu, hlen⟩ := e
  simp only [tracedEntity, Option.mem_toList, indHeld]
  by_cases hadm : Admitted env s.sne pdu
  · have hmodes := withModes_onePacket pdu h
    simp only [if_pos hadm, ind_eq env s.sne pdu hadm]
    by_cases hsingle : Single pdu
    · simp only [if_pos hsingle]
      split
      · exact ⟨hmodes, by simp⟩
      · rw [handOff_sne]
        refine ⟨hmodes, ?_⟩
        rintro out ⟨⟩
        exact ⟨by simp, by simp⟩
    · have hlink : (withModes s.sne pdu).defrag.fragList = s.held.map segment := by
        rw [withModes_fragList, s.linked]
      have hok' : (snHdr pdu).first = true ∨
          (snHdr pdu).npduNum = (withModes s.sne pdu).defrag.npdu ∧
            (withModes s.sne pdu).defrag.segHave.getLsbD (snHdr pdu).segNr = false := by
        refine (hok hadm).imp id fun hnew ↦ ?_
        rw [withModes]
        split <;> exact hnew
      obtain ⟨hstep, hout⟩ := hmodes.defragHeld env hok'
      simp only [if_neg hsingle]
      rw [defragInput_sne env hlink hlen]
      exact ⟨hstep.congr rfl rfl rfl rfl, hout⟩
  · simp only [if_neg hadm, (ind_of_not_admitted env s.sne pdu hadm).1]
    exact ⟨h, by simp⟩

/-- **Packets are not mixed** in a run in which no segment arrives for another packet than the one
under reassembly, and none that has come already. -/
theorem forall_mem_trace_unmixed (nsapi : ℕ) (es : List (SndcpEnv × SnPdu))
    (hes : tracedEntity.Meets InTurn (.alloc nsapi) es) :
    ∀ h ∈ tracedEntity.trace (.alloc nsapi) es, h.Unmixed := by
  refine Machine.forall_mem_trace InTurn (fun s ↦ OnePacket s.sne.defrag s.held)
    (fun s e h hok ↦ (onePacket_step s e h hok).1)
    (fun s e h hok ↦ (onePacket_step s e h hok).2) ⟨by simp [Traced.alloc], .inl ?_⟩ hes
  exact ⟨rfl, by simp [Traced.alloc, gprsSndcpEntityAlloc], List.nodup_nil,
    by simp [Traced.alloc, gprsSndcpEntityAlloc]⟩

/-- Segment 0 of packet 1, with modes 1 and 0. -/
def exampleFirst : SnPdu := ⟨[0x75, 0x01, 0x00, 0x01, 0xaa], by decide⟩

/-- Segment 1, the last one, of packet 1. -/
def exampleLast : SnPdu := ⟨[0x25, 0x10, 0x01, 0xbb], by decide⟩

/-- Segment 1, the last one, of packet 2. -/
def exampleStray : SnPdu := ⟨[0x25, 0x10, 0x02, 0xbb], by decide⟩

/-- A packet of two segments. -/
theorem unmixed_two_segments :
    tracedEntity.trace (.alloc 5) [(exampleEnv, exampleFirst), (exampleEnv, exampleLast)] =
        [⟨[exampleFirst.octets, exampleLast.octets], [0xaa, 0xbb], (1, 0)⟩] ∧
      ∀ h ∈ tracedEntity.trace (.alloc 5) [(exampleEnv, exampleFirst), (exampleEnv, exampleLast)],
        h.Unmixed := by
  refine ⟨by decide +kernel, forall_mem_trace_unmixed 5 _ ⟨?_, ?_, trivial⟩⟩
  · intro _
    left
    decide +kernel
  · intro _
    right
    decide +kernel

/-- A segment of packet 2 completes packet 1, and the two are handed up as one packet. -/
theorem mixed_by_stray_segment :
    tracedEntity.trace (.alloc 5) [(exampleEnv, exampleFirst), (exampleEnv, exampleStray)] =
        [⟨[exampleFirst.octets, exampleStray.octets], [0xaa, 0xbb], (1, 0)⟩] ∧
      feed exampleEnv (gprsSndcpEntityAlloc 5) [exampleFirst.octets, exampleStray.octets] =
        [none, some [0xaa, 0xbb]] ∧
      ¬ Handed.Unmixed ⟨[exampleFirst.octets, exampleStray.octets], [0xaa, 0xbb], (1, 0)⟩ := by
  refine ⟨by decide +kernel, by decide +kernel, ?_⟩
  rintro ⟨-, h⟩
  have hnum := h exampleStray.octets (by simp) exampleFirst.octets (by simp)
  exact absurd hnum (by decide +kernel)

/-! ## The modes of a packet -/

/-- A packet is expanded with the modes that its own first segment carries. -/
def Handed.OwnModes (h : Handed) : Prop :=
  ∀ pdu ∈ h.segs, (snHdr pdu).first = true → compModes pdu = h.modes

/-- The modes of a first segment in the queue are those of the entity. -/
def ModesKept (d : DefragState) (held : List Bytes) : Prop :=
  ∀ pdu ∈ held, (snHdr pdu).first = true → compModes pdu = (d.pcomp, d.dcomp)

/-- Whether an SN-PDU may arrive: a packet of a single segment carries the modes of a packet whose
first segment waits in the queue. -/
def ModesAgree (s : Traced) (e : SndcpEnv × SnPdu) : Prop :=
  Admitted e.1 s.sne e.2.octets → Single e.2.octets →
    (∃ pdu ∈ s.held, (snHdr pdu).first = true) →
      compModes e.2.octets = (s.sne.defrag.pcomp, s.sne.defrag.dcomp)

theorem taken_modes (d : DefragState) (pdu : Bytes) :
    (taken d pdu).pcomp = d.pcomp ∧ (taken d pdu).dcomp = d.dcomp := by
  rw [taken, opened]
  split <;> split <;> exact ⟨rfl, rfl⟩

theorem opened_modes (d : DefragState) (pdu : Bytes) :
    (opened d pdu).pcomp = d.pcomp ∧ (opened d pdu).dcomp = d.dcomp := by
  rw [opened]
  split <;> exact ⟨rfl, rfl⟩

/-- **One segment.** The modes of the entity are already its own if it is a first one. -/
theorem ModesKept.defragHeld (env : SndcpEnv) {sne : GprsSndcpEntity} {held : List Bytes}
    (pdu : Bytes) (h : ModesKept sne.defrag held) :
    ModesKept (withModes sne pdu).defrag
        (defragHeld env (withModes sne pdu).defrag held pdu).1 ∧
      ∀ out ∈ (defragHeld env (withModes sne pdu).defrag held pdu).2, out.OwnModes := by
  set d := (withModes sne pdu).defrag with hd
  -- a first segment replaces the modes and the queue at once
  have hopen : ModesKept d (if (snHdr pdu).first then [] else held) := by
    by_cases hfirst : (snHdr pdu).first = true
    · rw [if_pos hfirst]
      simp [ModesKept]
    · rw [if_neg hfirst, hd, withModes, if_neg hfirst]
      exact h
  have htaken : ModesKept d (pdu :: if (snHdr pdu).first then [] else held) := by
    rw [ModesKept, List.forall_mem_cons]
    refine ⟨fun hfirst ↦ ?_, hopen⟩
    rw [hd, withModes, if_pos hfirst]
  rw [Sndcp.defragHeld]
  by_cases hshort : pdu.length < (snHdr pdu).suh + 2
  · simp only [if_pos hshort]
    exact ⟨hopen, by simp⟩
  · simp only [if_neg hshort]
    by_cases hall : ((taken d pdu).noMore && defragHaveAllSegments (taken d pdu)) = true
    · simp only [if_pos hall]
      rcases hcollect : collectHeld (pdu :: if (snHdr pdu).first then [] else held)
          (List.range ((taken d pdu).highestSeg + 1)) with ⟨segs, left⟩
      have hleft : ModesKept d left := by
        intro q hq
        have hmem : q ∈ (collectHeld (pdu :: if (snHdr pdu).first then [] else held)
            (List.range ((taken d pdu).highestSeg + 1))).2 := by
          rw [hcollect]
          exact hq
        exact htaken q (mem_of_mem_collectHeld hmem)
      rcases segs with _ | segs
      · exact ⟨hleft, by simp⟩
      · refine ⟨hleft, ?_⟩
        rintro out ⟨⟩ q hq hfirst
        have hperm := collectHeld_perm (congrArg Prod.fst hcollect)
        rw [htaken q (hperm.mem_iff.mpr (List.mem_append_left _ hq)) hfirst,
          (taken_modes d pdu).1, (taken_modes d pdu).2]
    · simp only [if_neg hall]
      exact ⟨htaken, by simp⟩

/-- One step of a run. -/
theorem modesKept_step (s : Traced) (e : SndcpEnv × SnPdu) (h : ModesKept s.sne.defrag s.held)
    (hok : ModesAgree s e) :
    ModesKept (tracedEntity.step s e).1.sne.defrag (tracedEntity.step s e).1.held ∧
      ∀ out ∈ (tracedEntity.step s e).2, out.OwnModes := by
  obtain ⟨env, pdu, hlen⟩ := e
  simp only [tracedEntity, Option.mem_toList, indHeld]
  by_cases hadm : Admitted env s.sne pdu
  · simp only [if_pos hadm, ind_eq env s.sne pdu hadm]
    by_cases hsingle : Single pdu
    · have hkept : ModesKept (withModes s.sne pdu).defrag s.held := by
        intro q hq hfirst
        rw [withModes, if_pos hsingle.1, h q hq hfirst]
        exact (hok hadm hsingle ⟨q, hq, hfirst⟩).symm
      simp only [if_pos hsingle]
      split
      · exact ⟨hkept, by simp⟩
      · rw [handOff_sne]
        refine ⟨hkept, ?_⟩
        rintro out ⟨⟩ q hq -
        rw [List.mem_singleton.mp hq]
    · have hlink : (withModes s.sne pdu).defrag.fragList = s.held.map segment := by
        rw [withModes_fragList, s.linked]
      obtain ⟨hstep, hout⟩ := h.defragHeld env pdu
      simp only [if_neg hsingle]
      rw [defragInput_sne env hlink hlen]
      refine ⟨fun q hq hfirst ↦ (hstep q hq hfirst).trans ?_, hout⟩
      split
      · rw [(opened_modes _ pdu).1, (opened_modes _ pdu).2]
      · rw [(taken_modes _ pdu).1, (taken_modes _ pdu).2]
  · simp only [if_neg hadm, (ind_of_not_admitted env s.sne pdu hadm).1]
    exact ⟨h, by simp⟩

/-- A packet of its own, with modes 0 and 0. -/
def exampleSingle : SnPdu := ⟨[0x65, 0x00, 0x00, 0x02, 0xcc], by decide⟩

/-- Surroundings with compression, in which expansion puts the header compression mode in front of
a packet. -/
def exampleCompEnv : SndcpEnv :=
  { exampleEnv with
    anyPcompOrDcompActive := true
    decompress := fun pcomp _ npdu ↦ some (UInt8.ofNat pcomp :: npdu) }

/-- Two segments of a packet and a packet of its own. -/
def exampleBetween : List (SndcpEnv × SnPdu) :=
  [(exampleCompEnv, exampleFirst), (exampleCompEnv, exampleLast), (exampleCompEnv, exampleSingle)]

end OsmoSgsn.Sndcp
