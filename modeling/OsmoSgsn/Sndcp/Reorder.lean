import OsmoSgsn.Sndcp.Mixing

/-!
# Segments out of order and more than once

A packet that is cut into segments may arrive in any order after its first segment. The length of
the packet that is put together is that of all segments that came, however, and a second copy of
segment 0 starts over. So the arrival is cut into stretches, each of which begins with a copy of
segment 0: one packet is handed on for each stretch that has all segments, and it has the right
length only if no segment with data came twice before the stretch was complete.
-/

namespace OsmoSgsn.Sndcp

/-! ## Arrivals -/

/-- A packet that is cut into segments 0 to `k`. -/
structure Cut where
  k : ℕ
  le_fifteen : k ≤ 15
  pdu : ℕ → SnPdu
  first : ∀ i ≤ k, (snHdr (pdu i).octets).first = decide (i = 0)
  more : ∀ i ≤ k, (snHdr (pdu i).octets).more = decide (i ≠ k)
  segNr : ∀ i ≤ k, (snHdr (pdu i).octets).segNr = i
  whole : ∀ i ≤ k, (snHdr (pdu i).octets).suh + 2 ≤ (pdu i).octets.length

namespace Cut

variable (c : Cut)

/-- The data of segment `i`. -/
def data (i : ℕ) : Bytes := payload (c.pdu i).octets

/-- The packet. -/
def npdu : Bytes := ((List.range (c.k + 1)).map c.data).flatten

/-- Whether all segments are among those that came. -/
def Complete (p : List ℕ) : Prop := ∀ i ≤ c.k, i ∈ p

instance (p : List ℕ) : Decidable (c.Complete p) :=
  inferInstanceAs (Decidable (∀ i ≤ c.k, i ∈ p))

/-- The segments up to the one that completes the packet, if one does. -/
def completing (p : List ℕ) : List ℕ → Option (List ℕ)
  | [] => none
  | i :: r => if c.Complete (p ++ [i]) then some (p ++ [i]) else completing (p ++ [i]) r

end Cut

/-- An arrival of segments, cut before every copy of segment 0. -/
def stretches (arrival : List ℕ) : List (List ℕ) := arrival.splitBy fun _ i ↦ i ≠ 0

theorem zero_notMem_of_isChain {i : ℕ} {r : List ℕ}
    (h : (i :: r).IsChain fun _ j ↦ decide (j ≠ 0) = true) : 0 ∉ r := by
  induction r generalizing i with
  | nil => simp
  | cons j r ih =>
    rw [List.isChain_cons_cons] at h
    rw [List.mem_cons, not_or]
    exact ⟨(of_decide_eq_true h.1).symm, ih h.2⟩

/-- Every stretch begins with segment 0, and has no other copy of it. -/
theorem exists_of_mem_stretches {arrival : List ℕ} (hhead : arrival.head? = some 0) {p : List ℕ}
    (hp : p ∈ stretches arrival) : ∃ r, p = 0 :: r ∧ 0 ∉ r := by
  have hne : arrival ≠ [] := by
    rintro rfl
    simp at hhead
  have hchain := List.isChain_getLast_head_splitBy (fun _ i ↦ decide (i ≠ 0)) arrival
  have hfirst := List.head_head_splitBy (fun _ i ↦ decide (i ≠ 0)) hne
  have hzero : ∀ p ∈ stretches arrival, p.head? = some 0 := by
    rw [stretches]
    rcases hsplit : arrival.splitBy fun _ i ↦ decide (i ≠ 0) with _ | ⟨q, qs⟩
    · simp
    · simp only [hsplit] at hchain hfirst
      have hq : q.head? = some 0 := by
        rw [List.head?_eq_some_head (List.ne_nil_of_mem_splitBy (hsplit ▸ List.mem_cons_self))]
        rw [List.head?_eq_some_head hne] at hhead
        exact (congrArg some hfirst).trans hhead
      clear hsplit hfirst
      induction qs generalizing q with
      | nil => simpa using hq
      | cons q' qs ih =>
        rw [List.isChain_cons_cons] at hchain
        obtain ⟨⟨_, hb, hcut⟩, hchain⟩ := hchain
        have hq' : q'.head? = some 0 := by
          rw [List.head?_eq_some_head hb]
          simpa using hcut
        rw [List.forall_mem_cons]
        exact ⟨hq, ih q' hchain hq'⟩
  obtain ⟨r, rfl⟩ := List.head?_eq_some_iff.mp (hzero p hp)
  exact ⟨r, rfl, zero_notMem_of_isChain (List.isChain_of_mem_splitBy hp)⟩

/-! ## What the queue has of a stretch -/

namespace Cut

variable (c : Cut)

/-- The reassembly behind the segments of a stretch, before it is complete. -/
structure Gathered (d : DefragState) (held : List Bytes) (p : List ℕ) : Prop where
  held : held = p.reverse.map fun i ↦ (c.pdu i).octets
  totLen : d.totLen = (p.map c.data).flatten.length
  segHave : ∀ i < 32, d.segHave.getLsbD i = true ↔ i ∈ p
  le_highestSeg : ∀ i ∈ p, i ≤ d.highestSeg
  highestSeg_le : ∀ m, (∀ i ∈ p, i ≤ m) → d.highestSeg ≤ m
  noMore : d.noMore = decide (c.k ∈ p)

variable {c} {d : DefragState} {held : List Bytes} {p : List ℕ}

theorem gathered_opened_zero (d : DefragState) :
    c.Gathered (opened d (c.pdu 0).octets) [] [] := by
  have hfirst : (snHdr (c.pdu 0).octets).first = true := by
    rw [c.first 0 (Nat.zero_le _)]
    rfl
  rw [opened, if_pos hfirst]
  exact ⟨rfl, rfl, by simp, by simp, by simp, by simp⟩

theorem opened_of_ne_zero (d : DefragState) {i : ℕ} (hi : i ≤ c.k) (hne : i ≠ 0) :
    opened d (c.pdu i).octets = d := by
  rw [opened, c.first i hi, if_neg (by simpa using hne)]

/-- One more segment. -/
theorem Gathered.taken {i : ℕ} (h : c.Gathered (opened d (c.pdu i).octets) held p) (hi : i ≤ c.k) :
    c.Gathered (taken d (c.pdu i).octets) ((c.pdu i).octets :: held) (p ++ [i]) where
  held := by
    rw [h.held]
    simp
  totLen := by
    rw [taken_totLen, h.totLen]
    simp [data]
  segHave j hj := by
    rw [taken_segHave hj, c.segNr i hi, Bool.or_eq_true, h.segHave j hj]
    simp
  le_highestSeg j hj := by
    rw [taken_highestSeg, c.segNr i hi, le_max_iff]
    rcases List.mem_append.mp hj with hj | hj
    · exact .inl (h.le_highestSeg j hj)
    · exact .inr (List.mem_singleton.mp hj).le
  highestSeg_le m hm := by
    rw [taken_highestSeg, c.segNr i hi, max_le_iff]
    rw [List.forall_mem_append] at hm
    exact ⟨h.highestSeg_le m hm.1, hm.2 i (List.mem_singleton_self i)⟩
  noMore := by
    have hmore : (Sndcp.taken d (c.pdu i).octets).noMore =
        ((opened d (c.pdu i).octets).noMore || !(snHdr (c.pdu i).octets).more) := by
      rw [Sndcp.taken]
      cases (snHdr (c.pdu i).octets).more <;> simp [enqueued]
    rw [hmore, h.noMore, c.more i hi]
    by_cases hk : i = c.k
    · simp [hk]
    · simp [hk, Ne.symm hk]

section Whole

variable (h : c.Gathered d held p) (hle : ∀ i ∈ p, i ≤ c.k)

include h hle

/-- The tests of the code tell whether all segments are there. -/
theorem Gathered.complete_iff :
    (d.noMore && defragHaveAllSegments d) = true ↔ c.Complete p := by
  have hk : c.k ∈ p → d.highestSeg = c.k := fun hk ↦
    le_antisymm (h.highestSeg_le c.k hle) (h.le_highestSeg c.k hk)
  rw [Bool.and_eq_true, h.noMore, decide_eq_true_eq]
  constructor
  · rintro ⟨hmem, hall⟩ i hi
    have hi32 : i < 32 := by
      have := c.le_fifteen
      omega
    rw [← h.segHave i hi32, ← of_decide_eq_true hall, getLsbD_segNeeded _ hi32, hk hmem]
    exact decide_eq_true hi
  · intro hcomplete
    have hmem := hcomplete c.k le_rfl
    refine ⟨hmem, decide_eq_true (BitVec.eq_of_getLsbD_eq fun i hi ↦ ?_)⟩
    rw [getLsbD_segNeeded _ hi, hk hmem, Bool.eq_iff_iff, decide_eq_true_eq, h.segHave i hi]
    exact ⟨hcomplete i, hle i⟩

/-- A complete queue gives one copy of every segment, in order; if there was one copy of segment 0,
none is left. -/
theorem Gathered.collectHeld (hcomplete : c.Complete p) (hone : p.count 0 = 1) :
    ∃ left, collectHeld held (List.range (d.highestSeg + 1)) =
      (some ((List.range (c.k + 1)).map fun i ↦ (c.pdu i).octets), left) ∧
      ∀ pdu ∈ left, (snHdr pdu).segNr ≠ 0 := by
  have hhigh : d.highestSeg = c.k :=
    le_antisymm (h.highestSeg_le c.k hle) (h.le_highestSeg c.k (hcomplete c.k le_rfl))
  have hheld : ∀ pdu ∈ held, (snHdr pdu).segNr ≤ c.k ∧
      pdu = (c.pdu (snHdr pdu).segNr).octets := by
    rw [h.held]
    intro pdu hpdu
    obtain ⟨i, hi, rfl⟩ := List.mem_map.mp hpdu
    have hik := hle i (List.mem_reverse.mp hi)
    rw [c.segNr i hik]
    exact ⟨hik, rfl⟩
  have hnrs : held.map (fun pdu ↦ (snHdr pdu).segNr) = p.reverse := by
    rw [h.held, List.map_map]
    refine (List.map_congr_left fun i hi ↦ ?_).trans (List.map_id _)
    exact c.segNr i (hle i (List.mem_reverse.mp hi))
  have hrange : ∀ i ∈ List.range (c.k + 1), ∃ pdu ∈ held, (snHdr pdu).segNr = i := by
    intro i hi
    rw [← List.mem_map, hnrs, List.mem_reverse]
    exact hcomplete i (Nat.lt_succ_iff.mp (List.mem_range.mp hi))
  obtain ⟨segs, hsegs⟩ := collectHeld_isSome List.nodup_range hrange
  have hperm := collectHeld_perm hsegs
  have hsegNrs := segNr_collectHeld hsegs
  have heq : segs = (List.range (c.k + 1)).map fun i ↦ (c.pdu i).octets := by
    rw [← hsegNrs, List.map_map]
    refine (List.map_id _).symm.trans (List.map_congr_left fun pdu hpdu ↦ ?_)
    exact (hheld pdu (hperm.mem_iff.mpr (List.mem_append_left _ hpdu))).2
  rw [hhigh]
  refine ⟨_, Prod.ext (hsegs.trans (congrArg some heq)) rfl, fun pdu hpdu hzero ↦ ?_⟩
  -- one copy of segment 0 was there, and it was taken out
  have hcount := (hperm.map fun pdu ↦ (snHdr pdu).segNr).count_eq 0
  rw [List.map_append, hsegNrs, hnrs, List.count_reverse, hone, List.count_append,
    List.count_eq_one_of_mem List.nodup_range (List.mem_range.mpr (Nat.succ_pos _))] at hcount
  have hmem : 0 ∈ (Sndcp.collectHeld held (List.range (c.k + 1))).2.map
      fun pdu ↦ (snHdr pdu).segNr := List.mem_map.mpr ⟨pdu, hpdu, hzero⟩
  have hpos := List.count_pos_iff.mpr hmem
  omega

end Whole

end Cut

/-! ## Runs of `defrag_input` -/

/-- Segments are given to `defrag_input`, and the packets that it hands on are recorded. What
becomes of them is what it hands up (`defragInput_delivered`). -/
def tracedDefrag : Machine Traced (SndcpEnv × SnPdu) Handed where
  step s e :=
    (⟨(defragInput e.1 s.sne e.2.octets).sne, (defragHeld e.1 s.sne.defrag s.held e.2.octets).1, by
      rw [defragInput_sne e.1 s.linked e.2.short]⟩,
      (defragHeld e.1 s.sne.defrag s.held e.2.octets).2.toList)

namespace Cut

variable (c : Cut) (env : SndcpEnv)

/-- The packets that an arrival of segments makes `defrag_input` hand on. -/
def handedOn (s : Traced) (arrival : List ℕ) : List Bytes :=
  (tracedDefrag.trace s (arrival.map fun i ↦ (env, c.pdu i))).map (·.npdu)

/-- The packet that is put together from the segments of a stretch. -/
def putTogether (p : List ℕ) : Bytes := written env (p.map c.data).flatten.length c.npdu

variable {c env} {s : Traced} {p : List ℕ} {i : ℕ}

theorem step_defrag (hi : i ≤ c.k) :
    (tracedDefrag.step s (env, c.pdu i)).1.sne.defrag =
      { taken s.sne.defrag (c.pdu i).octets with
        fragList := (tracedDefrag.step s (env, c.pdu i)).1.held.map segment } := by
  have hlong : ¬ (c.pdu i).octets.length < (snHdr (c.pdu i).octets).suh + 2 :=
    Nat.not_lt.mpr (c.whole i hi)
  simp only [tracedDefrag, defragInput_sne env s.linked (c.pdu i).short, if_neg hlong]

theorem Gathered.congr {d e : DefragState} {held : List Bytes} (h : c.Gathered d held p)
    (htot : e.totLen = d.totLen) (hhave : e.segHave = d.segHave)
    (hhigh : e.highestSeg = d.highestSeg) (hmore : e.noMore = d.noMore) :
    c.Gathered e held p where
  held := h.held
  totLen := htot.trans h.totLen
  segHave := by
    rw [hhave]
    exact h.segHave
  le_highestSeg := by
    rw [hhigh]
    exact h.le_highestSeg
  highestSeg_le := by
    rw [hhigh]
    exact h.highestSeg_le
  noMore := hmore.trans h.noMore

/-- **One segment of a stretch.** Either it completes the stretch and the packet is handed on, or
the stretch goes on. -/
theorem step_gathered (env : SndcpEnv)
    (h : c.Gathered (opened s.sne.defrag (c.pdu i).octets)
      (if (snHdr (c.pdu i).octets).first then [] else s.held) p)
    (hi : i ≤ c.k) (hle : ∀ j ∈ p, j ≤ c.k) (hone : (p ++ [i]).count 0 = 1) :
    if c.Complete (p ++ [i]) then
      (tracedDefrag.step s (env, c.pdu i)).2.map (·.npdu) = [c.putTogether env (p ++ [i])] ∧
        Spent (tracedDefrag.step s (env, c.pdu i)).1.sne.defrag
          (tracedDefrag.step s (env, c.pdu i)).1.held
    else
      (tracedDefrag.step s (env, c.pdu i)).2 = [] ∧
        c.Gathered (tracedDefrag.step s (env, c.pdu i)).1.sne.defrag
          (tracedDefrag.step s (env, c.pdu i)).1.held (p ++ [i]) := by
  have htaken := h.taken hi
  have hle' : ∀ j ∈ p ++ [i], j ≤ c.k := by
    rw [List.forall_mem_append, List.forall_mem_singleton]
    exact ⟨hle, hi⟩
  have hlong : ¬ (c.pdu i).octets.length < (snHdr (c.pdu i).octets).suh + 2 :=
    Nat.not_lt.mpr (c.whole i hi)
  have htest := htaken.complete_iff hle'
  rw [step_defrag hi]
  by_cases hcomplete : c.Complete (p ++ [i])
  · obtain ⟨left, hcollect, hleft⟩ := htaken.collectHeld hle' hcomplete hone
    have hheld : defragHeld env s.sne.defrag s.held (c.pdu i).octets =
        (left, some ⟨(List.range (c.k + 1)).map fun i ↦ (c.pdu i).octets,
          c.putTogether env (p ++ [i]), (taken s.sne.defrag (c.pdu i).octets).pcomp,
          (taken s.sne.defrag (c.pdu i).octets).dcomp⟩) := by
      simp only [defragHeld, if_neg hlong, if_pos (htest.mpr hcomplete), hcollect, htaken.totLen,
        List.map_map]
      rfl
    rw [if_pos hcomplete]
    simp only [tracedDefrag, hheld]
    refine ⟨rfl, (htaken.segHave 0 (by norm_num)).mpr (hcomplete 0 (Nat.zero_le _)), hleft⟩
  · have hheld : defragHeld env s.sne.defrag s.held (c.pdu i).octets =
        ((c.pdu i).octets :: if (snHdr (c.pdu i).octets).first then [] else s.held, none) := by
      simp only [defragHeld, if_neg hlong, if_neg (mt htest.mp hcomplete)]
    rw [if_neg hcomplete]
    simp only [tracedDefrag, hheld]
    exact ⟨rfl, htaken.congr rfl rfl rfl rfl⟩

/-- A stretch that is over hands on nothing more. -/
theorem step_spent (env : SndcpEnv) (h : Spent s.sne.defrag s.held) (hi : i ≤ c.k) (hne : i ≠ 0) :
    (tracedDefrag.step s (env, c.pdu i)).2 = [] ∧
      Spent (tracedDefrag.step s (env, c.pdu i)).1.sne.defrag
        (tracedDefrag.step s (env, c.pdu i)).1.held := by
  have hlong : ¬ (c.pdu i).octets.length < (snHdr (c.pdu i).octets).suh + 2 :=
    Nat.not_lt.mpr (c.whole i hi)
  have hfirst : ¬ (snHdr (c.pdu i).octets).first = true := by
    rw [c.first i hi]
    simpa using hne
  have htaken : Spent (taken s.sne.defrag (c.pdu i).octets) ((c.pdu i).octets :: s.held) := by
    refine Spent.taken ?_ (by rwa [c.segNr i hi])
    rwa [opened_of_ne_zero _ hi hne]
  have hheld : defragHeld env s.sne.defrag s.held (c.pdu i).octets =
      ((c.pdu i).octets :: s.held, none) := by
    simp only [defragHeld, if_neg hlong, if_neg hfirst, htaken.collectHeld]
    split <;> rfl
  rw [step_defrag hi]
  simp only [tracedDefrag, hheld]
  exact ⟨rfl, htaken.zero, htaken.gone⟩

/-- The state behind an arrival. -/
def after (c : Cut) (env : SndcpEnv) (s : Traced) (arrival : List ℕ) : Traced :=
  tracedDefrag.run s (arrival.map fun i ↦ (env, c.pdu i))

theorem handedOn_cons (r : List ℕ) :
    c.handedOn env s (i :: r) = (tracedDefrag.step s (env, c.pdu i)).2.map (·.npdu) ++
      c.handedOn env (tracedDefrag.step s (env, c.pdu i)).1 r := by
  simp [handedOn]

theorem handedOn_append (a b : List ℕ) :
    c.handedOn env s (a ++ b) = c.handedOn env s a ++ c.handedOn env (c.after env s a) b := by
  induction a generalizing s with
  | nil => rfl
  | cons i a ih =>
    rw [List.cons_append, handedOn_cons, handedOn_cons, ih, List.append_assoc]
    rfl

theorem handedOn_spent {r : List ℕ} (h : Spent s.sne.defrag s.held) (hle : ∀ i ∈ r, i ≤ c.k)
    (hzero : 0 ∉ r) : c.handedOn env s r = [] := by
  induction r generalizing s with
  | nil => rfl
  | cons i r ih =>
    rw [List.forall_mem_cons] at hle
    rw [List.mem_cons, not_or] at hzero
    obtain ⟨hout, hspent⟩ := step_spent env h hle.1 (Ne.symm hzero.1)
    rw [handedOn_cons, hout, ih hspent hle.2 hzero.2]
    rfl

/-- **The rest of a stretch** hands on one packet if it completes the stretch. -/
theorem handedOn_gathered {r : List ℕ} (h : c.Gathered s.sne.defrag s.held p)
    (hp : ∀ i ∈ p, i ≤ c.k) (hone : p.count 0 = 1) (hle : ∀ i ∈ r, i ≤ c.k) (hzero : 0 ∉ r) :
    c.handedOn env s r = ((c.completing p r).map (c.putTogether env)).toList := by
  induction r generalizing s p with
  | nil => rfl
  | cons i r ih =>
    rw [List.forall_mem_cons] at hle
    rw [List.mem_cons, not_or] at hzero
    have hfirst : ¬ (snHdr (c.pdu i).octets).first = true := by
      rw [c.first i hle.1]
      simpa using Ne.symm hzero.1
    have hone' : (p ++ [i]).count 0 = 1 := by
      rw [List.count_append, hone, List.count_singleton]
      simpa using Ne.symm hzero.1
    have hp' : ∀ j ∈ p ++ [i], j ≤ c.k := by
      rw [List.forall_mem_append, List.forall_mem_singleton]
      exact ⟨hp, hle.1⟩
    have hopen : c.Gathered (opened s.sne.defrag (c.pdu i).octets)
        (if (snHdr (c.pdu i).octets).first then [] else s.held) p := by
      rwa [opened_of_ne_zero _ hle.1 (Ne.symm hzero.1), if_neg hfirst]
    have hstep := step_gathered env hopen hle.1 hp hone'
    rw [handedOn_cons, completing]
    by_cases hcomplete : c.Complete (p ++ [i])
    · rw [if_pos hcomplete] at hstep ⊢
      rw [hstep.1, handedOn_spent hstep.2 hle.2 hzero.2]
      rfl
    · rw [if_neg hcomplete] at hstep ⊢
      rw [hstep.1, ih hstep.2 hp' hone' hle.2 hzero.2]
      rfl

/-- **A stretch** hands on one packet if it is complete, whatever was there before. -/
theorem handedOn_stretch (s : Traced) {r : List ℕ} (hle : ∀ i ∈ r, i ≤ c.k) (hzero : 0 ∉ r) :
    c.handedOn env s (0 :: r) = ((c.completing [] (0 :: r)).map (c.putTogether env)).toList := by
  have hfirst : (snHdr (c.pdu 0).octets).first = true := by
    rw [c.first 0 (Nat.zero_le _)]
    rfl
  have hopen : c.Gathered (opened s.sne.defrag (c.pdu 0).octets)
      (if (snHdr (c.pdu 0).octets).first then [] else s.held) [] := by
    rw [if_pos hfirst]
    exact gathered_opened_zero _
  have hstep := step_gathered env hopen (Nat.zero_le _) (by simp) (by simp)
  rw [handedOn_cons, completing]
  by_cases hcomplete : c.Complete ([] ++ [0])
  · rw [if_pos hcomplete] at hstep ⊢
    rw [hstep.1, handedOn_spent hstep.2 hle hzero]
    rfl
  · rw [if_neg hcomplete] at hstep ⊢
    rw [hstep.1, handedOn_gathered hstep.2 (by simp) (by simp) hle hzero]
    rfl

theorem handedOn_flatten (s : Traced) {ss : List (List ℕ)}
    (hss : ∀ p ∈ ss, (∃ r, p = 0 :: r ∧ 0 ∉ r) ∧ ∀ i ∈ p, i ≤ c.k) :
    c.handedOn env s ss.flatten = (ss.filterMap (c.completing [])).map (c.putTogether env) := by
  induction ss generalizing s with
  | nil => rfl
  | cons p ss ih =>
    rw [List.forall_mem_cons] at hss
    obtain ⟨⟨⟨r, rfl, hzero⟩, hp⟩, hss⟩ := hss
    rw [List.flatten_cons, handedOn_append, ih _ hss,
      handedOn_stretch s (List.forall_mem_cons.mp hp).2 hzero, List.filterMap_cons]
    cases c.completing [] (0 :: r) <;> rfl

/-- **An arrival** hands on one packet for each complete stretch. -/
theorem handedOn_eq (env : SndcpEnv) (s : Traced) {arrival : List ℕ}
    (hhead : arrival.head? = some 0) (hle : ∀ i ∈ arrival, i ≤ c.k) :
    c.handedOn env s arrival =
      ((stretches arrival).filterMap (c.completing [])).map (c.putTogether env) := by
  have hflat : (stretches arrival).flatten = arrival := List.flatten_splitBy _ _
  rw [← handedOn_flatten s, hflat]
  intro p hp
  refine ⟨exists_of_mem_stretches hhead hp, fun i hi ↦ hle i ?_⟩
  rw [← hflat]
  exact List.mem_flatten_of_mem hp hi

/-! ## When the packet is the right one -/

/-- A stretch up to the segment that completes it is complete. -/
theorem complete_of_completing {q r : List ℕ} (h : c.completing p r = some q) :
    c.Complete q ∧ ∀ i ∈ q, i ∈ p ++ r := by
  induction r generalizing p with
  | nil => simp [completing] at h
  | cons i r ih =>
    rw [completing] at h
    split at h
    · obtain rfl : p ++ [i] = q := by simpa using h
      refine ⟨by assumption, fun j hj ↦ ?_⟩
      rw [← List.singleton_append, ← List.append_assoc]
      exact List.mem_append_left _ hj
    · simpa using ih h

theorem written_eq_iff (env : SndcpEnv) (n : ℕ) (buf : Bytes) :
    written env n buf = buf ↔ n = buf.length := by
  constructor
  · intro h
    have hlen := congrArg List.length h
    simpa [written] using hlen
  · rintro rfl
    exact written_length env buf

theorem length_flatten_map (f : ℕ → Bytes) (l : List ℕ) :
    (l.map f).flatten.length = (l.map fun i ↦ (f i).length).sum := by
  rw [List.length_flatten, List.map_map]
  rfl

/-- The length is right if and only if only segments without data came more than once. -/
theorem length_eq_iff (hcomplete : c.Complete p) (hle : ∀ i ∈ p, i ≤ c.k) :
    (p.map c.data).flatten.length = c.npdu.length ↔ ∀ i ∈ p, 1 < p.count i → c.data i = [] := by
  have hset : p.toFinset = Finset.range (c.k + 1) := by
    ext i
    rw [List.mem_toFinset, Finset.mem_range, Nat.lt_succ_iff]
    exact ⟨hle i, hcomplete i⟩
  have hsum : (p.map c.data).flatten.length =
      ∑ i ∈ Finset.range (c.k + 1), p.count i * (c.data i).length := by
    rw [length_flatten_map, Finset.sum_list_map_count, hset]
    rfl
  have hnpdu : c.npdu.length = ∑ i ∈ Finset.range (c.k + 1), (c.data i).length := by
    rw [npdu, length_flatten_map]
    rfl
  have hterm : ∀ i ∈ Finset.range (c.k + 1),
      (c.data i).length ≤ p.count i * (c.data i).length := by
    intro i hi
    refine Nat.le_mul_of_pos_left _ (List.count_pos_iff.mpr (hcomplete i ?_))
    exact Nat.lt_succ_iff.mp (Finset.mem_range.mp hi)
  rw [hsum, hnpdu, eq_comm, Finset.sum_eq_sum_iff_of_le hterm, ← hset]
  simp only [List.mem_toFinset]
  refine forall₂_congr fun i hi ↦ ?_
  have hpos : 0 < p.count i := List.count_pos_iff.mpr hi
  rw [← List.length_eq_zero_iff]
  constructor
  · intro heq hmany
    by_contra hdata
    have hlt := Nat.mul_lt_mul_of_pos_right hmany (Nat.pos_of_ne_zero hdata)
    omega
  · intro hdata
    rcases Nat.eq_or_lt_of_le hpos with hcount | hcount
    · rw [← hcount, Nat.succ_eq_add_one, Nat.zero_add, Nat.one_mul]
    · rw [hdata hcount, Nat.mul_zero]

end Cut

/-- **Reordering and duplication.** For a packet cut into segments 0 to `k`, and every arrival that
begins with segment 0: `defrag_input` hands on exactly one packet, which is the concatenation of the
segments in order, if and only if exactly one stretch of the arrival between copies of segment 0 is
complete, and only segments without data come more than once in it before it is complete. -/
theorem defragInput_reordered_iff (c : Cut) (env : SndcpEnv) (s : Traced) (arrival : List ℕ)
    (hhead : arrival.head? = some 0) (hle : ∀ i ∈ arrival, i ≤ c.k) :
    c.handedOn env s arrival = [c.npdu] ↔
      ∃ p, (stretches arrival).filterMap (c.completing []) = [p] ∧
        ∀ i ∈ p, 1 < p.count i → c.data i = [] := by
  rw [Cut.handedOn_eq env s hhead hle, List.map_eq_singleton_iff]
  refine exists_congr fun p ↦ and_congr_right fun hp ↦ ?_
  have hmem : p ∈ (stretches arrival).filterMap (c.completing []) := by simp [hp]
  obtain ⟨q, hq, hcompleting⟩ := List.mem_filterMap.mp hmem
  obtain ⟨hcomplete, hsub⟩ := Cut.complete_of_completing hcompleting
  have hle' : ∀ i ∈ p, i ≤ c.k := by
    intro i hi
    refine hle i ?_
    rw [← List.flatten_splitBy (fun _ i ↦ decide (i ≠ 0)) arrival]
    exact List.mem_flatten_of_mem hq (by simpa using hsub i hi)
  rw [Cut.putTogether, Cut.written_eq_iff, Cut.length_eq_iff hcomplete hle']

/-- Segment `i` of a packet of three, each with one octet of data. -/
def exampleSegment (i : ℕ) : SnPdu :=
  if i = 0 then ⟨[0x75, 0x00, 0x00, 0x01, 0xaa], by decide⟩
  else if i = 1 then ⟨[0x35, 0x10, 0x01, 0xbb], by decide⟩
  else ⟨[0x25, 0x20, 0x01, 0xcc], by decide⟩

/-- A packet of three segments. -/
def exampleCut : Cut where
  k := 2
  le_fifteen := by decide
  pdu := exampleSegment
  first := by decide +kernel
  more := by decide +kernel
  segNr := by decide +kernel
  whole := by decide +kernel

/-- The three segments out of order, and the last one once more. -/
theorem reordered_three_segments :
    exampleCut.handedOn exampleEnv (.alloc 5) [0, 2, 1, 2] = [exampleCut.npdu] :=
  (defragInput_reordered_iff exampleCut exampleEnv (.alloc 5) [0, 2, 1, 2] rfl (by decide)).mpr
    ⟨[0, 2, 1], by decide +kernel, by decide⟩

/-- Segment 1 comes twice before the last one: the packet ends with an octet of the buffer. -/
theorem duplicate_lengthens_packet :
    exampleCut.npdu = [0xaa, 0xbb, 0xcc] ∧
      exampleCut.handedOn exampleEnv (.alloc 5) [0, 1, 1, 2] = [[0xaa, 0xbb, 0xcc, 0x00]] ∧
      feed exampleEnv (gprsSndcpEntityAlloc 5)
          ([0, 1, 1, 2].map fun i ↦ (exampleSegment i).octets) =
        [none, none, none, some [0xaa, 0xbb, 0xcc, 0x00]] ∧
      ¬ exampleCut.handedOn exampleEnv (.alloc 5) [0, 1, 1, 2] = [exampleCut.npdu] := by
  decide +kernel

end OsmoSgsn.Sndcp
