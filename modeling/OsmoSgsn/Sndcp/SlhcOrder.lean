import OsmoSgsn.Library.LinkedRing
import OsmoSgsn.Sndcp.Slhc

/-!
# The slots of the compressor

The slots are in a ring in the order of their last use. A packet that can be compressed goes with
the slot of its connection, or with the slot that was not used for longest, and that slot is the
one that was used last then. So the search in the ring always ends.
-/

namespace OsmoSgsn.Sndcp

/-! ## What is done with a packet -/

/-- The headers of a packet, and how long they are together. -/
def Packet.ip (p : Packet) : Bytes := p.slice 0 20
def Packet.th (p : Packet) : Bytes := p.slice (ihl p.ip * 4) 20
def Packet.hlen (p : Packet) : ℕ := ihl p.ip * 4 + tcpDoff p.th * 4

/-- A packet that the compressor does not leave as it is. -/
structure Compressible (p : Packet) : Prop where
  length : 20 ≤ p.data.length
  tcp : ipProtocol p.ip = ipprotoTcp
  whole : ipFragOff p.ip % 0x4000 = 0
  hlen : p.hlen ≤ p.data.length
  fin : tcpFlag p.th 0 = false
  syn : tcpFlag p.th 1 = false
  rst : tcpFlag p.th 2 = false
  ack : tcpFlag p.th 4 = true

/-- What the compressor decides: its state with the slots in their new order, the slot of the
packet, and the changes if it goes compressed. -/
structure Decision where
  comp : SlCompress
  cs : ℕ
  changes : Option (ℕ × Bytes)

/-- The changes from the headers in a slot, if the packet can go as changes. -/
def changesFrom (slot : CState) (p : Packet) : Option (ℕ × Bytes) :=
  if unexpectedChange slot p p.ip p.th then none else changesOf slot p.hlen p.ip p.th

/-- The decision about a packet that can be compressed. -/
def decision (comp : SlCompress) (p : Packet) : Option Decision := do
  let ocs := comp.xmitOldest
  let s ← search comp p.ip p.th (comp.tslotLimit + 1) ocs (comp.tstate ocs).next
  if s.found then
    let comp := moveToFront comp s.lcs s.cs
    pure ⟨comp, s.cs, changesFrom (comp.tstate s.cs) p⟩
  else pure ⟨{ comp with xmitOldest := (comp.tstate s.lcs).csThis }, s.cs, none⟩

/-- What is sent after a decision. -/
def Decision.send (d : Decision) (p : Packet) (ocp : Bytes) (compressCid : Bool) : Compressed :=
  match d.changes with
  | none => sendUncompressed d.comp d.cs p p.ip p.th ocp
  | some (changes, newSeq) =>
    sendCompressed d.comp d.cs p p.ip p.th p.hlen ocp compressCid changes newSeq

variable {comp : SlCompress} {p : Packet} {ocp : Bytes} {compressCid : Bool}

theorem slhcCompress_of_not_compressible (h : ¬Compressible p) :
    slhcCompress comp p ocp compressCid = some ⟨comp, p.data.length, ocp, false⟩ := by
  unfold slhcCompress
  dsimp only
  split_ifs with hlength htcp hflags
  · rfl
  · rfl
  · rfl
  · simp only [not_lt, not_or, not_not, Bool.not_eq_true,
      Bool.not_eq_false] at hlength htcp hflags
    obtain ⟨hlen, hsyn, hfin, hrst, hack⟩ := hflags
    exact absurd ⟨hlength, htcp.1, htcp.2, hlen, hfin, hsyn, hrst, hack⟩ h

theorem slhcCompress_of_compressible (h : Compressible p) :
    slhcCompress comp p ocp compressCid = (decision comp p).map (·.send p ocp compressCid) := by
  have htcp : ¬(ipProtocol p.ip ≠ ipprotoTcp ∨ ipFragOff p.ip % 0x4000 ≠ 0) := by
    simp [h.tcp, h.whole]
  have hflags : ¬(p.data.length < p.hlen ∨ tcpFlag p.th 1 ∨ tcpFlag p.th 0 ∨ tcpFlag p.th 2 ∨
      tcpFlag p.th 4 = false) := by
    simp [h.hlen, h.fin, h.syn, h.rst, h.ack]
  refine (if_neg (not_lt.mpr h.length)).trans ((if_neg htcp).trans ((if_neg hflags).trans ?_))
  unfold decision
  rw [show p.slice 0 20 = p.ip from rfl, show p.slice (ihl p.ip * 4) 20 = p.th from rfl,
    show ihl p.ip * 4 + tcpDoff p.th * 4 = p.hlen from rfl]
  dsimp only
  cases hsearch : search comp p.ip p.th (comp.tslotLimit + 1) comp.xmitOldest
      (comp.tstate comp.xmitOldest).next with
  | none => rfl
  | some s =>
    dsimp only [Option.bind_eq_bind, Option.bind_some]
    split_ifs with hfound hchange
    · simp [Decision.send, changesFrom, hchange]
    · cases hchanges : changesOf ((moveToFront comp s.lcs s.cs).tstate s.cs) p.hlen p.ip p.th with
      | none => simp [Decision.send, changesFrom, hchange, hchanges]
      | some c => simp [Decision.send, changesFrom, hchange, hchanges]
    · rfl

/-! ## The order of use -/

/-- All slots of the compressor are in its ring. -/
structure SlCompress.InRing (comp : SlCompress) (xs : List ℕ) : Prop where
  ring : LinkedRing (fun i ↦ (comp.tstate i).next) comp.xmitOldest xs
  le : ∀ i ∈ comp.xmitOldest :: xs, i ≤ comp.tslotLimit
  this : ∀ i, i ≤ comp.tslotLimit → (comp.tstate i).csThis = i

/-- A slot is that of the connection of a packet. -/
def CState.Serves (slot : CState) (ip th : Bytes) : Prop :=
  ipSaddr ip = ipSaddr slot.csIp ∧ ipDaddr ip = ipDaddr slot.csIp ∧
    tcpSource th = tcpSource slot.csTcp ∧ tcpDest th = tcpDest slot.csTcp

/-- The ring is searched up to the first slot of the connection, or to the oldest one. -/
theorem search_walk {ip th : Bytes} {fuel lcs cs : ℕ} {zs : List ℕ}
    (hlinked : (lcs :: cs :: zs).IsChain fun a b ↦ (comp.tstate a).next = b)
    (hnodup : (cs :: zs).Nodup) (hlast : (cs :: zs).getLast? = some comp.xmitOldest)
    (hfuel : zs.length < fuel) :
    ∃ l x r before, cs :: zs = l ++ x :: r ∧ (lcs :: l).getLast? = some before ∧
      ((comp.tstate x).Serves ip th ∧
          search comp ip th fuel lcs cs = some ⟨true, before, x⟩ ∨
        r = [] ∧ search comp ip th fuel lcs cs = some ⟨false, before, x⟩) := by
  induction fuel generalizing lcs cs zs with
  | zero => exact absurd hfuel (Nat.not_lt_zero _)
  | succ fuel ih =>
    unfold search
    dsimp only
    split_ifs with hserves hoccurs
    · exact ⟨[], cs, zs, lcs, rfl, rfl, .inl ⟨hserves, rfl⟩⟩
    · cases zs with
      | nil => exact ⟨[], cs, [], lcs, rfl, rfl, .inr ⟨rfl, rfl⟩⟩
      | cons z zs =>
        -- the oldest slot is the last one
        rw [List.getLast?_cons_cons] at hlast
        exact absurd (hoccurs ▸ List.mem_of_getLast? hlast) (List.nodup_cons.mp hnodup).1
    · cases zs with
      | nil => exact absurd (Option.some.inj hlast) hoccurs
      | cons z zs =>
        obtain ⟨-, hrest⟩ := List.isChain_cons_cons.mp hlinked
        obtain rfl := (List.isChain_cons_cons.mp hrest).1
        rw [List.getLast?_cons_cons] at hlast
        obtain ⟨l, x, r, before, hsplit, hbefore, hfound⟩ :=
          ih hrest (List.nodup_cons.mp hnodup).2 hlast (by simpa using hfuel)
        refine ⟨cs :: l, x, r, before, by rw [hsplit, List.cons_append], ?_, hfound⟩
        rwa [List.getLast?_cons_cons]

/-- Two states that differ in the order of the slots at most. -/
structure SlCompress.Reordered (comp comp' : SlCompress) : Prop where
  slot : ∀ i, comp'.tstate i = { comp.tstate i with next := (comp'.tstate i).next }
  others : comp' = { comp with tstate := comp'.tstate, xmitOldest := comp'.xmitOldest }

theorem SlCompress.Reordered.refl (comp : SlCompress) : comp.Reordered comp := ⟨fun _ ↦ rfl, rfl⟩

/-- Writing a link. -/
def SlCompress.setNext (comp : SlCompress) (i next : ℕ) : SlCompress :=
  comp.setT i fun s ↦ { s with next := next }

@[simp] theorem SlCompress.xmitOldest_setNext (comp : SlCompress) (i n : ℕ) :
    (comp.setNext i n).xmitOldest = comp.xmitOldest := rfl

theorem SlCompress.next_setNext (comp : SlCompress) (i n : ℕ) :
    (fun j ↦ ((comp.setNext i n).tstate j).next) =
      Function.update (fun j ↦ (comp.tstate j).next) i n := by
  funext j
  by_cases hj : j = i
  · subst hj
    simp [SlCompress.setNext, SlCompress.setT]
  · simp [SlCompress.setNext, SlCompress.setT, Function.update_of_ne hj]

theorem SlCompress.Reordered.setNext {comp' : SlCompress} (h : comp.Reordered comp') (i n : ℕ) :
    comp.Reordered (comp'.setNext i n) where
  slot j := by
    by_cases hj : j = i
    · subst hj
      have hslot := h.slot j
      simp only [SlCompress.setNext, SlCompress.setT, Function.update_self]
      rw [hslot]
    · simp only [SlCompress.setNext, SlCompress.setT, Function.update_of_ne hj]
      exact h.slot j
  others := by
    have hothers := h.others
    simp only [SlCompress.setNext, SlCompress.setT]
    rw [hothers]

theorem moveToFront_latest (cs : ℕ) : moveToFront comp comp.xmitOldest cs = comp := if_pos rfl

theorem moveToFront_oldest {lcs : ℕ} (hlcs : lcs ≠ comp.xmitOldest) :
    moveToFront comp lcs comp.xmitOldest =
      { comp with xmitOldest := (comp.tstate lcs).csThis } :=
  (if_neg hlcs).trans (if_pos rfl)

theorem moveToFront_between {lcs cs : ℕ} (hlcs : lcs ≠ comp.xmitOldest)
    (hcs : cs ≠ comp.xmitOldest) :
    moveToFront comp lcs cs = ((comp.setNext lcs (comp.tstate cs).next).setNext cs
      (comp.tstate comp.xmitOldest).next).setNext comp.xmitOldest cs := by
  have hnext : (comp.setNext lcs (comp.tstate cs).next).tstate comp.xmitOldest =
      comp.tstate comp.xmitOldest := Function.update_of_ne hlcs.symm ..
  rw [← hnext]
  exact (if_neg hlcs).trans (if_neg hcs)

section Order

variable {xs l r : List ℕ} {x : ℕ}

theorem SlCompress.InRing.reordered {comp' : SlCompress} {ys : List ℕ} (h : comp.InRing xs)
    (hsame : comp.Reordered comp')
    (hring : LinkedRing (fun i ↦ (comp'.tstate i).next) comp'.xmitOldest ys)
    (hperm : List.Perm (comp'.xmitOldest :: ys) (comp.xmitOldest :: xs)) : comp'.InRing ys where
  ring := hring
  le i hi := by
    rw [hsame.others]
    exact h.le i (hperm.mem_iff.mp hi)
  this i hi := by
    rw [hsame.others] at hi
    rw [hsame.slot]
    exact h.this i hi

/-- The slot of a connection is moved to the front. -/
theorem SlCompress.InRing.toFront {lcs : ℕ} (h : comp.InRing xs)
    (hsplit : xs ++ [comp.xmitOldest] = l ++ x :: r)
    (hlcs : (comp.xmitOldest :: l).getLast? = some lcs) :
    ∃ ys, (moveToFront comp lcs x).InRing ys ∧ comp.Reordered (moveToFront comp lcs x) ∧
      ys ++ [(moveToFront comp lcs x).xmitOldest] = x :: (l ++ r) := by
  have hnodup : (xs ++ [comp.xmitOldest]).Nodup :=
    (List.perm_append_singleton comp.xmitOldest xs).nodup_iff.mpr h.ring.nodup
  rcases l.eq_nil_or_concat with rfl | ⟨l, p, rfl⟩
  · -- it is there already
    obtain rfl : comp.xmitOldest = lcs := by simpa using hlcs
    rw [moveToFront_latest]
    exact ⟨xs, h, .refl comp, hsplit⟩
  · rw [List.concat_eq_append] at hsplit hlcs ⊢
    rw [← List.cons_append, List.getLast?_concat] at hlcs
    obtain rfl := Option.some.inj hlcs
    rcases r.eq_nil_or_concat with rfl | ⟨r, o, rfl⟩
    · -- it is the oldest one
      obtain ⟨rfl, hx⟩ := List.append_inj' hsplit rfl
      obtain rfl := (List.cons.inj hx).1
      have hp : p ≠ comp.xmitOldest := by grind
      rw [moveToFront_oldest hp, h.this p (h.le p (by simp))]
      refine ⟨comp.xmitOldest :: l, ?_, ⟨fun _ ↦ rfl, rfl⟩, by simp⟩
      refine h.reordered ⟨fun _ ↦ rfl, rfl⟩ h.ring.reuse ?_
      exact (List.perm_append_singleton p (comp.xmitOldest :: l)).symm
    · -- it is between two others
      rw [List.concat_eq_append] at hsplit ⊢
      rw [← List.cons_append, ← List.append_assoc] at hsplit
      obtain ⟨rfl, ho⟩ := List.append_inj' hsplit rfl
      obtain rfl := (List.cons.inj ho).1
      have hp : p ≠ comp.xmitOldest := by grind
      have hx : x ≠ comp.xmitOldest := by grind
      rw [moveToFront_between hp hx]
      have hsame := (((SlCompress.Reordered.refl comp).setNext p (comp.tstate x).next).setNext x
        (comp.tstate comp.xmitOldest).next).setNext comp.xmitOldest x
      refine ⟨x :: (l ++ [p] ++ r), h.reordered hsame ?_ ?_, hsame, by simp⟩
      · rw [SlCompress.next_setNext, SlCompress.next_setNext, SlCompress.next_setNext]
        have hring := h.ring
        rw [List.append_assoc, List.singleton_append] at hring ⊢
        exact hring.moveToFront
      · exact (List.perm_middle.symm).cons comp.xmitOldest

/-- The oldest slot is used again. -/
theorem SlCompress.InRing.reuse {lcs : ℕ} (h : comp.InRing xs)
    (hsplit : xs ++ [comp.xmitOldest] = l ++ [x])
    (hlcs : (comp.xmitOldest :: l).getLast? = some lcs) :
    ∃ ys, ({ comp with xmitOldest := (comp.tstate lcs).csThis } : SlCompress).InRing ys ∧
      ys ++ [(comp.tstate lcs).csThis] = x :: l := by
  obtain ⟨rfl, hx⟩ := List.append_inj' hsplit rfl
  obtain rfl := (List.cons.inj hx).1
  rcases xs.eq_nil_or_concat with rfl | ⟨xs, p, rfl⟩
  · obtain rfl : comp.xmitOldest = lcs := by simpa using hlcs
    rw [h.this _ (h.le _ List.mem_cons_self)]
    exact ⟨[], h, rfl⟩
  · rw [List.concat_eq_append, ← List.cons_append, List.getLast?_concat] at hlcs
    obtain rfl := Option.some.inj hlcs
    rw [List.concat_eq_append] at h ⊢
    rw [h.this p (h.le p (by simp))]
    refine ⟨comp.xmitOldest :: xs, ?_, rfl⟩
    refine h.reordered ⟨fun _ ↦ rfl, rfl⟩ h.ring.reuse ?_
    exact (List.perm_append_singleton p (comp.xmitOldest :: xs)).symm

/-- The ring has no more slots than there are. -/
theorem SlCompress.InRing.length_le (h : comp.InRing xs) : xs.length ≤ comp.tslotLimit := by
  have hsub : comp.xmitOldest :: xs ⊆ List.range (comp.tslotLimit + 1) := fun i hi ↦
    List.mem_range.mpr (Nat.lt_succ_of_le (h.le i hi))
  have hlen := (List.subperm_of_subset h.ring.nodup hsub).length_le
  rw [List.length_range, List.length_cons] at hlen
  exact Nat.le_of_succ_le_succ hlen

/-- The search ends. -/
theorem SlCompress.InRing.search (h : comp.InRing xs) (ip th : Bytes) :
    ∃ l x r before, xs ++ [comp.xmitOldest] = l ++ x :: r ∧
      (comp.xmitOldest :: l).getLast? = some before ∧
      ((comp.tstate x).Serves ip th ∧
          Sndcp.search comp ip th (comp.tslotLimit + 1) comp.xmitOldest
            (comp.tstate comp.xmitOldest).next = some ⟨true, before, x⟩ ∨
        r = [] ∧ Sndcp.search comp ip th (comp.tslotLimit + 1) comp.xmitOldest
            (comp.tstate comp.xmitOldest).next = some ⟨false, before, x⟩) := by
  have hnodup : (xs ++ [comp.xmitOldest]).Nodup :=
    (List.perm_append_singleton comp.xmitOldest xs).nodup_iff.mpr h.ring.nodup
  have hlinked := h.ring.linked
  have hnext := h.ring.next_oldest
  have hlast : (xs ++ [comp.xmitOldest]).getLast? = some comp.xmitOldest := List.getLast?_concat
  have hlen : (xs ++ [comp.xmitOldest]).length = xs.length + 1 := List.length_append
  cases hzs : xs ++ [comp.xmitOldest] with
  | nil => simp at hzs
  | cons cs zs =>
    simp only [hzs] at hnodup hlinked hnext hlast hlen
    rw [hnext]
    refine search_walk hlinked hnodup hlast (Nat.lt_succ_of_le ?_)
    rw [List.length_cons] at hlen
    exact (Nat.succ.inj hlen).le.trans h.length_le

/-- **The decision** about a packet is always made. Its slot is the one that was used last then, and
nothing but the order has changed. -/
theorem SlCompress.InRing.decision (h : comp.InRing xs) (p : Packet) :
    ∃ d ys, Sndcp.decision comp p = some d ∧ d.comp.InRing ys ∧ comp.Reordered d.comp ∧
      ys ++ [d.comp.xmitOldest] = d.cs :: (xs ++ [comp.xmitOldest]).erase d.cs ∧
      ∀ c ∈ d.changes, (comp.tstate d.cs).Serves p.ip p.th ∧
        changesFrom (comp.tstate d.cs) p = some c := by
  have hnodup : (xs ++ [comp.xmitOldest]).Nodup :=
    (List.perm_append_singleton comp.xmitOldest xs).nodup_iff.mpr h.ring.nodup
  obtain ⟨l, x, r, before, hsplit, hbefore, ⟨hserves, hfound⟩ | ⟨rfl, hfound⟩⟩ :=
    h.search p.ip p.th
  · obtain ⟨ys, hring, hsame, horder⟩ := h.toFront hsplit hbefore
    have hslot : changesFrom ((moveToFront comp before x).tstate x) p =
        changesFrom (comp.tstate x) p := by
      rw [hsame.slot x]
      rfl
    refine ⟨⟨moveToFront comp before x, x, changesFrom (comp.tstate x) p⟩, ys, ?_, hring, hsame,
      ?_, fun c hc ↦ ⟨hserves, hc⟩⟩
    · unfold Sndcp.decision
      dsimp only
      rw [hfound, Option.bind_eq_bind, Option.bind_some, if_pos rfl, hslot]
      rfl
    · rw [horder, hsplit, List.erase_append_right _ (by grind), List.erase_cons_head]
  · obtain ⟨ys, hring, horder⟩ := h.reuse hsplit hbefore
    refine ⟨⟨{ comp with xmitOldest := (comp.tstate before).csThis }, x, none⟩, ys, ?_, hring,
      ⟨fun _ ↦ rfl, rfl⟩, ?_, fun c hc ↦ absurd hc (by simp)⟩
    · unfold Sndcp.decision
      dsimp only
      rw [hfound]
      rfl
    · rw [horder, hsplit, List.erase_append_right _ (by grind), List.erase_cons_head,
        List.append_nil]

end Order

end OsmoSgsn.Sndcp
