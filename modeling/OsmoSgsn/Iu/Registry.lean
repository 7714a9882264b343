import OsmoSgsn.Iu.Rnc

/-!
# RNCs and their addresses

The list of RNCs stays consistent in every run: no two RNCs have the same identity or are routed
alike, and no routing area is in the lists of two.

A message from an address that no RNC has, with the identity of one that is known, is taken as one
of that RNC, but the RNC keeps its old address: the comparison that should notice the change is the
wrong way round. What is sent in answer goes to the old address, and the next message from the new
one is not recognized. In a run without such messages an RNC is found by every address that a
message of it has come from.
-/

namespace OsmoSgsn.Iu

open OsmoSgsn.Ra

variable {Addr Route : Type} [DecidableEq Route] {sccp : SccpAddrs Addr Route}
  {l l' : RncList Addr} {rnc : RncPtr} {addr : Addr}

/-! ## The list -/

/-- The list of RNCs is as it should be. -/
structure Consistent (sccp : SccpAddrs Addr Route) (l : RncList Addr) : Prop where
  ptrs : (l.rncs.map (·.ptr)).Nodup
  id : ∀ r ∈ l.rncs, ∀ r' ∈ l.rncs, r.rncId = r'.rncId → r = r'
  addr : ∀ r ∈ l.rncs, ∀ r' ∈ l.rncs, sccp.route r.sccpAddr = sccp.route r'.sccpAddr → r = r'
  area : ∀ r ∈ l.rncs, ∀ r' ∈ l.rncs, ∀ rai, rai ∈ r.lacRacList → rai ∈ r'.lacRacList → r = r'

/-- The list is consistent, and a pointer is given out once. -/
structure Sound (sccp : SccpAddrs Addr Route) (l : RncList Addr) : Prop
    extends Consistent sccp l where
  lt_next : ∀ r ∈ l.rncs, r.ptr < l.nextRnc
  areas : ∀ r ∈ l.rncs, r.lacRacList.Nodup

omit [DecidableEq Route] in
/-- Two RNCs with the same pointer are the same. -/
theorem Consistent.eq_of_ptr (h : Consistent sccp l) {r r' : RanapIuRnc Addr} (hr : r ∈ l.rncs)
    (hr' : r' ∈ l.rncs) (hp : r.ptr = r'.ptr) : r = r' :=
  List.inj_on_of_nodup_map h.ptrs hr hr' hp

theorem RncList.mem_modRnc {f : RanapIuRnc Addr → RanapIuRnc Addr} {r : RanapIuRnc Addr} :
    r ∈ (l.modRnc rnc f).rncs ↔ ∃ x ∈ l.rncs, (if x.ptr = rnc then f x else x) = r := by
  simp [RncList.modRnc, List.mem_map]

/-- A write that keeps the pointer, the identity and the route of an RNC, and adds no routing area
that another RNC has. -/
theorem Sound.modRnc (h : Sound sccp l) {f : RanapIuRnc Addr → RanapIuRnc Addr}
    (hptr : ∀ r, (f r).ptr = r.ptr) (hid : ∀ r, (f r).rncId = r.rncId)
    (haddr : ∀ r ∈ l.rncs, r.ptr = rnc → sccp.route (f r).sccpAddr = sccp.route r.sccpAddr)
    (harea : ∀ r ∈ l.rncs, r.ptr = rnc → ∀ rai ∈ (f r).lacRacList, rai ∈ r.lacRacList ∨
      ∀ r' ∈ l.rncs, rai ∉ r'.lacRacList)
    (hnodup : ∀ r ∈ l.rncs, r.ptr = rnc → (f r).lacRacList.Nodup) :
    Sound sccp (l.modRnc rnc f) := by
  let g (r : RanapIuRnc Addr) := if r.ptr = rnc then f r else r
  have hgptr : ∀ r, (g r).ptr = r.ptr := by
    intro r
    simp only [g]
    split
    · exact hptr r
    · rfl
  have hgid : ∀ r, (g r).rncId = r.rncId := by
    intro r
    simp only [g]
    split
    · exact hid r
    · rfl
  have hgaddr : ∀ r ∈ l.rncs, sccp.route (g r).sccpAddr = sccp.route r.sccpAddr := by
    intro r hr
    simp only [g]
    split
    · exact haddr r hr ‹_›
    · rfl
  have hgarea : ∀ r ∈ l.rncs, ∀ rai ∈ (g r).lacRacList, rai ∈ r.lacRacList ∨
      r.ptr = rnc ∧ ∀ r' ∈ l.rncs, rai ∉ r'.lacRacList := by
    intro r hr rai hrai
    simp only [g] at hrai
    split at hrai
    · rename_i hp
      exact (harea r hr hp rai hrai).imp_right fun hno ↦ ⟨hp, hno⟩
    · exact .inl hrai
  refine ⟨⟨?_, ?_, ?_, ?_⟩, ?_, ?_⟩
  · have hmap : (l.modRnc rnc f).rncs.map (·.ptr) = l.rncs.map (·.ptr) := by
      rw [RncList.modRnc, List.map_map]
      exact List.map_congr_left fun r _ ↦ hgptr r
    rw [hmap]
    exact h.ptrs
  · intro r hr r' hr' heq
    obtain ⟨x, hx, rfl⟩ := RncList.mem_modRnc.mp hr
    obtain ⟨x', hx', rfl⟩ := RncList.mem_modRnc.mp hr'
    obtain rfl := h.id x hx x' hx' ((hgid x).symm.trans (heq.trans (hgid x')))
    rfl
  · intro r hr r' hr' heq
    obtain ⟨x, hx, rfl⟩ := RncList.mem_modRnc.mp hr
    obtain ⟨x', hx', rfl⟩ := RncList.mem_modRnc.mp hr'
    obtain rfl := h.addr x hx x' hx' ((hgaddr x hx).symm.trans (heq.trans (hgaddr x' hx')))
    rfl
  · intro r hr r' hr' rai hrai hrai'
    obtain ⟨x, hx, rfl⟩ := RncList.mem_modRnc.mp hr
    obtain ⟨x', hx', rfl⟩ := RncList.mem_modRnc.mp hr'
    obtain rfl : x = x' := by
      rcases hgarea x hx rai hrai with hold | ⟨hp, hno⟩
      · rcases hgarea x' hx' rai hrai' with hold' | ⟨-, hno'⟩
        · exact h.area x hx x' hx' rai hold hold'
        · exact absurd hold (hno' x hx)
      · rcases hgarea x' hx' rai hrai' with hold' | ⟨hp', -⟩
        · exact absurd hold' (hno x' hx')
        · exact h.eq_of_ptr hx hx' (hp.trans hp'.symm)
    rfl
  · intro r hr
    obtain ⟨x, hx, rfl⟩ := RncList.mem_modRnc.mp hr
    exact (hgptr x).symm ▸ h.lt_next x hx
  · intro r hr
    obtain ⟨x, hx, rfl⟩ := RncList.mem_modRnc.mp hr
    split
    · exact hnodup x hx ‹_›
    · exact h.areas x hx

theorem Sound.stateChg (h : Sound sccp l) (rnc : RncPtr) (state : IuRncState) :
    Sound sccp (l.stateChg rnc state) :=
  h.modRnc (fun _ ↦ rfl) (fun _ ↦ rfl) (fun _ _ _ ↦ rfl) (fun _ _ _ _ hrai ↦ .inl hrai)
    fun r hr _ ↦ h.areas r hr

/-- A routing area that no RNC has is added to the list of one. -/
theorem Sound.addArea (h : Sound sccp l) (rnc : RncPtr) {rai : RoutingAreaId}
    (hnew : ∀ r ∈ l.rncs, rai ∉ r.lacRacList) :
    Sound sccp (l.modRnc rnc fun r ↦ { r with lacRacList := rai :: r.lacRacList }) := by
  refine h.modRnc (fun _ ↦ rfl) (fun _ ↦ rfl) (fun _ _ _ ↦ rfl) (fun r hr _ x hx ↦ ?_)
    fun r hr _ ↦ List.nodup_cons.mpr ⟨hnew r hr, h.areas r hr⟩
  rcases List.mem_cons.mp hx with rfl | hx
  · exact .inr hnew
  · exact .inl hx

/-- A routing area is taken out of the list of the RNC that had it before it is added to another
one. -/
theorem Sound.updateRaiSeen (h : Sound sccp l) (rnc : RncPtr) (rai : RoutingAreaId) :
    Sound sccp (l.updateRaiSeen rnc rai) := by
  unfold RncList.updateRaiSeen
  cases hfind : l.lacRacFind rai with
  | none => exact h.addArea rnc fun r hr ↦ by simpa using List.find?_eq_none.mp hfind r hr
  | some old =>
    have hold : old ∈ l.rncs := List.mem_of_find?_eq_some hfind
    have hrai : rai ∈ old.lacRacList := by simpa using List.find?_some hfind
    by_cases hne : old.ptr ≠ rnc
    · simp only [if_pos hne]
      have herase : Sound sccp (l.modRnc old.ptr fun r ↦
          { r with lacRacList := r.lacRacList.erase rai }) :=
        h.modRnc (fun _ ↦ rfl) (fun _ ↦ rfl) (fun _ _ _ ↦ rfl)
          (fun _ _ _ x hx ↦ .inl (List.mem_of_mem_erase hx))
          fun r hr _ ↦ (h.areas r hr).erase rai
      refine herase.addArea rnc fun r hr hmem ↦ ?_
      obtain ⟨x, hx, rfl⟩ := RncList.mem_modRnc.mp hr
      split at hmem
      · exact (h.areas x hx).not_mem_erase hmem
      · rename_i hxp
        exact hxp (congrArg _ (h.area x hx old hold rai hmem hrai))
    · simp only [if_neg hne]
      exact h

/-- A new RNC, with an identity and an address that no other one has. -/
theorem Sound.rncAlloc (h : Sound sccp l) {rncId : RncId} (hid : l.findById rncId = none)
    (haddr : l.findByAddr sccp addr = none) : Sound sccp (l.rncAlloc rncId addr).1 := by
  have hid' : ∀ r ∈ l.rncs, r.rncId ≠ rncId := fun r hr ↦ by
    simpa using List.find?_eq_none.mp hid r hr
  have haddr' : ∀ r ∈ l.rncs, sccp.route addr ≠ sccp.route r.sccpAddr := fun r hr ↦ by
    simpa using List.find?_eq_none.mp haddr r hr
  refine ⟨⟨?_, ?_, ?_, ?_⟩, ?_, ?_⟩
  · refine List.nodup_cons.mpr ⟨fun hmem ↦ ?_, h.ptrs⟩
    obtain ⟨r, hr, hp⟩ := List.mem_map.mp hmem
    exact absurd (h.lt_next r hr) (hp ▸ lt_irrefl _)
  · rintro r (_ | ⟨_, hr⟩) r' (_ | ⟨_, hr'⟩) heq
    · rfl
    · exact absurd heq.symm (hid' r' hr')
    · exact absurd heq (hid' r hr)
    · exact h.id r hr r' hr' heq
  · rintro r (_ | ⟨_, hr⟩) r' (_ | ⟨_, hr'⟩) heq
    · rfl
    · exact absurd heq (haddr' r' hr')
    · exact absurd heq.symm (haddr' r hr)
    · exact h.addr r hr r' hr' heq
  · rintro r (_ | ⟨_, hr⟩) r' (_ | ⟨_, hr'⟩) rai hrai hrai'
    · rfl
    · exact absurd hrai List.not_mem_nil
    · exact absurd hrai' List.not_mem_nil
    · exact h.area r hr r' hr' rai hrai hrai'
  · rintro r (_ | ⟨_, hr⟩)
    · exact Nat.lt_succ_self _
    · exact (h.lt_next r hr).trans (Nat.lt_succ_self _)
  · rintro r (_ | ⟨_, hr⟩)
    · exact List.nodup_nil
    · exact h.areas r hr

theorem RncList.mem_of_findByAddr {r : RanapIuRnc Addr} (h : l.findByAddr sccp addr = some r) :
    r ∈ l.rncs ∧ sccp.route addr = sccp.route r.sccpAddr :=
  ⟨List.mem_of_find?_eq_some h, by simpa using List.find?_some h⟩

/-- An RNC that is known by its identity only is taken as it is. -/
theorem RncList.findOrCreate_of_some {rncId : RncId} {r : RanapIuRnc Addr}
    (hid : l.findById rncId = some r) (haddr : l.findByAddr sccp addr = none) :
    l.findOrCreate sccp rncId addr = (l, r.ptr) := by
  have hne := List.find?_eq_none.mp haddr r (List.mem_of_find?_eq_some hid)
  simp only [decide_eq_true_eq] at hne
  simp only [RncList.findOrCreate, hid, if_neg (Ne.symm hne)]

theorem RncList.findOrCreate_of_none {rncId : RncId} (hid : l.findById rncId = none) :
    l.findOrCreate sccp rncId addr = l.rncAlloc rncId addr := by
  simp only [RncList.findOrCreate, hid]

theorem Sound.findOrCreate (h : Sound sccp l) (rncId : RncId)
    (haddr : l.findByAddr sccp addr = none) : Sound sccp (l.findOrCreate sccp rncId addr).1 := by
  cases hid : l.findById rncId with
  | none =>
    rw [RncList.findOrCreate_of_none hid]
    exact h.rncAlloc hid haddr
  | some r =>
    rw [RncList.findOrCreate_of_some hid haddr]
    exact h

/-! ## The FSM -/

/-- What a change of the state and a report of a routing area keep, every event of the FSM keeps. -/
theorem RncList.dispatch_keeps {P : RncList Addr → Prop}
    (hstate : ∀ l rnc state, P l → P (l.stateChg rnc state))
    (harea : ∀ l rnc rai, P l → P (l.updateRaiSeen rnc rai)) (h : P l) {r : RanapIuRnc Addr}
    {ev : RncEvent} {sent : Bool} {out : List (RncOut Addr)}
    (hd : l.dispatch r ev sent = some (l', out)) : P l' := by
  have hreset : ∀ x, l.rxReset r sent = x → P x.1 := by
    rintro x rfl
    unfold RncList.rxReset
    split
    · exact hstate _ _ _ h
    · exact hstate _ _ _ h
  have hrnc : ∀ x, l.rncReset r sent = x → P x.1 := by
    rintro x rfl
    unfold RncList.rncReset
    split
    · exact hstate _ _ _ h
    · exact hstate _ _ _ h
  have hinitial : ∀ {l₁ : RncList Addr} rai, P l₁ → P (l₁.handleCoInitial r.ptr rai) := by
    intro l₁ rai h₁
    cases rai with
    | none => exact h₁
    | some rai => exact harea _ _ _ h₁
  unfold RncList.dispatch at hd
  split at hd
  all_goals simp only [Option.some.injEq, Prod.mk.injEq, reduceCtorEq] at hd
  all_goals first
    | exact hreset _ hd
    | exact hrnc _ hd
    | obtain ⟨rfl, -⟩ := hd
  · exact hinitial _ (hstate _ _ _ h)
  · exact hstate _ _ _ h
  · exact h
  · exact hstate _ _ _ h
  · exact hstate _ _ _ h
  · exact hstate _ _ _ h
  · exact hinitial _ h
  · exact h
  · exact h
  · exact hstate _ _ _ h

theorem RncList.receive_keeps {P : RncList Addr → Prop}
    (hstate : ∀ l rnc state, P l → P (l.stateChg rnc state))
    (harea : ∀ l rnc rai, P l → P (l.updateRaiSeen rnc rai)) (h : P l) (rnc : RncPtr)
    (addr : Addr) (ev : RncEvent) (sent : Bool) : P (l.receive rnc addr ev sent).1 := by
  unfold RncList.receive
  cases l.rnc? rnc with
  | none => exact h
  | some r =>
    cases hd : l.dispatch r ev sent with
    | none =>
      simp only [hd]
      exact h
    | some x =>
      simp only [hd]
      exact RncList.dispatch_keeps hstate harea h hd

/-- What the FSM and the creation of an RNC keep, every event keeps. -/
theorem RncList.step_keeps {P : RncList Addr → Prop}
    (hstate : ∀ l rnc state, P l → P (l.stateChg rnc state))
    (harea : ∀ l rnc rai, P l → P (l.updateRaiSeen rnc rai))
    (hcreate : ∀ l rncId addr, P l → l.findByAddr sccp addr = none →
      P (l.findOrCreate sccp rncId addr).1) (h : P l) (e : IuEvent Addr) :
    P (l.step sccp e).1 := by
  cases e with
  | reset addr rncId sent =>
    simp only [RncList.step, RncList.handleClResetReq]
    cases hf : l.findByAddr sccp addr with
    | some r => exact RncList.receive_keeps hstate harea h _ _ _ _
    | none => exact RncList.receive_keeps hstate harea (hcreate _ _ _ h hf) _ _ _ _
  | initialUe addr rncId rai sent =>
    simp only [RncList.step, RncList.rxCoInitialMsg]
    cases hf : l.findByAddr sccp addr with
    | some r => exact RncList.receive_keeps hstate harea h _ _ _ _
    | none =>
      cases rncId with
      | none => exact h
      | some rncId => exact RncList.receive_keeps hstate harea (hcreate _ _ _ h hf) _ _ _ _
  | resetAck addr =>
    simp only [RncList.step, RncList.rxKnown]
    cases l.findByAddr sccp addr with
    | some r => exact RncList.receive_keeps hstate harea h _ _ _ _
    | none => exact h
  | pcState addr available sent =>
    simp only [RncList.step, RncList.rxKnown]
    cases l.findByAddr sccp addr with
    | some r => exact RncList.receive_keeps hstate harea h _ _ _ _
    | none => exact h
  | co rnc sent =>
    simp only [RncList.step]
    cases l.rnc? rnc with
    | none => exact h
    | some r =>
      cases hd : l.dispatch r .msgUpCo sent with
      | none =>
        simp only [hd]
        exact h
      | some x =>
        simp only [hd]
        exact RncList.dispatch_keeps hstate harea h hd
  | timeout rnc =>
    simp only [RncList.step]
    cases l.rnc? rnc with
    | none => exact h
    | some r =>
      cases hd : l.dispatch r .timeout false with
      | none =>
        simp only [hd]
        exact h
      | some x =>
        simp only [hd]
        exact RncList.dispatch_keeps hstate harea h hd

theorem Sound.step (h : Sound sccp l) (e : IuEvent Addr) : Sound sccp (l.step sccp e).1 :=
  RncList.step_keeps (fun _ _ _ h ↦ h.stateChg _ _) (fun _ _ _ h ↦ h.updateRaiSeen _ _)
    (fun _ _ _ h hf ↦ h.findOrCreate _ hf) h e

/-! ## Addresses -/

/-- An RNC is found by an address. -/
def Found (sccp : SccpAddrs Addr Route) (l : RncList Addr) (addr : Addr) (rnc : RncPtr) : Prop :=
  (l.findByAddr sccp addr).map (·.ptr) = some rnc

theorem findByAddr_modRnc {f : RanapIuRnc Addr → RanapIuRnc Addr} (hptr : ∀ r, (f r).ptr = r.ptr)
    (haddr : ∀ r, (f r).sccpAddr = r.sccpAddr) (addr : Addr) :
    ((l.modRnc rnc f).findByAddr sccp addr).map (·.ptr) =
      (l.findByAddr sccp addr).map (·.ptr) := by
  have hp : (fun r : RanapIuRnc Addr ↦ decide (sccp.route addr = sccp.route r.sccpAddr)) ∘
      (fun r ↦ if r.ptr = rnc then f r else r) =
        fun r ↦ decide (sccp.route addr = sccp.route r.sccpAddr) := by
    funext r
    by_cases hr : r.ptr = rnc
    · simp [hr, haddr]
    · simp [hr]
  rw [RncList.findByAddr, RncList.findByAddr, RncList.modRnc, List.find?_map, hp, Option.map_map]
  congr 1
  funext r
  by_cases hr : r.ptr = rnc
  · simp [hr, hptr]
  · simp [hr]

theorem findByAddr_updateRaiSeen (l : RncList Addr) (rnc : RncPtr) (rai : RoutingAreaId)
    (addr : Addr) : ((l.updateRaiSeen rnc rai).findByAddr sccp addr).map (·.ptr) =
      (l.findByAddr sccp addr).map (·.ptr) := by
  unfold RncList.updateRaiSeen
  cases l.lacRacFind rai with
  | none => exact findByAddr_modRnc (by intro r; rfl) (by intro r; rfl) addr
  | some old =>
    simp only
    split
    · rw [findByAddr_modRnc (by intro r; rfl) (by intro r; rfl),
        findByAddr_modRnc (by intro r; rfl) (by intro r; rfl)]
    · rfl

theorem findByAddr_stateChg (l : RncList Addr) (rnc : RncPtr) (state : IuRncState) (addr : Addr) :
    ((l.stateChg rnc state).findByAddr sccp addr).map (·.ptr) =
      (l.findByAddr sccp addr).map (·.ptr) :=
  findByAddr_modRnc (by intro r; rfl) (by intro r; rfl) addr

/-- The FSM of an RNC leaves the addresses as they are. -/
theorem findByAddr_receive (l : RncList Addr) (rnc : RncPtr) (addr : Addr) (ev : RncEvent)
    (sent : Bool) (addr' : Addr) :
    ((l.receive rnc addr ev sent).1.findByAddr sccp addr').map (·.ptr) =
      (l.findByAddr sccp addr').map (·.ptr) :=
  RncList.receive_keeps
    (P := fun l' ↦ (l'.findByAddr sccp addr').map (·.ptr) = (l.findByAddr sccp addr').map (·.ptr))
    (fun _ _ _ h ↦ (findByAddr_stateChg _ _ _ addr').trans h)
    (fun _ _ _ h ↦ (findByAddr_updateRaiSeen _ _ _ addr').trans h) rfl rnc addr ev sent

theorem findByAddr_rncAlloc (l : RncList Addr) (rncId : RncId) (addr addr' : Addr) :
    (l.rncAlloc rncId addr).1.findByAddr sccp addr' =
      if sccp.route addr' = sccp.route addr then
        some ⟨l.nextRnc, rncId, addr, .waitRxReset, []⟩
      else l.findByAddr sccp addr' := by
  rw [RncList.findByAddr, RncList.rncAlloc, List.find?_cons]
  by_cases hr : sccp.route addr' = sccp.route addr
  · simp [hr]
  · simp [hr, RncList.findByAddr]

/-- **An RNC that is found by an address stays found by it.** -/
theorem Found.step (h : Found sccp l addr rnc) (e : IuEvent Addr) :
    Found sccp (l.step sccp e).1 addr rnc := by
  refine RncList.step_keeps (P := fun l ↦ Found sccp l addr rnc)
    (fun _ _ _ h ↦ (findByAddr_stateChg _ _ _ addr).trans h)
    (fun _ _ _ h ↦ (findByAddr_updateRaiSeen _ _ _ addr).trans h) (fun l rncId a h hnone ↦ ?_) h e
  cases hid : l.findById rncId with
  | some r =>
    rw [RncList.findOrCreate_of_some hid hnone]
    exact h
  | none =>
    rw [RncList.findOrCreate_of_none hid, Found, findByAddr_rncAlloc, if_neg]
    · exact h
    · intro hroute
      rw [RncList.findByAddr, ← hroute] at hnone
      rw [Found, RncList.findByAddr, hnone] at h
      exact absurd h (by simp)

/-! ## Messages -/

/-- What a message is taken for is what the address stands for from then on, and a RESET is answered
where it has come from. -/
def Answered (sccp : SccpAddrs Addr Route) (l : RncList Addr) (e : IuEvent Addr) : Prop :=
  ∀ addr rnc, .assigned addr rnc ∈ (l.step sccp e).2 → Found sccp (l.step sccp e).1 addr rnc ∧
    ∀ dest, .resetAck dest ∈ (l.step sccp e).2 → sccp.route dest = sccp.route addr

/-- A message that has come from an address that no RNC has does not have the identity of one. -/
def NewPeerNewId (sccp : SccpAddrs Addr Route) (l : RncList Addr) : IuEvent Addr → Prop
  | .reset addr rncId _ => l.findByAddr sccp addr = none →
    l.findById (rncId.getD ⟨⟨0, 0, false⟩, sccp.pc addr⟩) = none
  | .initialUe addr (some rncId) _ _ => l.findByAddr sccp addr = none → l.findById rncId = none
  | _ => True

/-- What the FSM sends goes to the address of the RNC. -/
theorem RncList.resetAck_of_dispatch {r : RanapIuRnc Addr} {ev : RncEvent} {sent : Bool}
    {out : List (RncOut Addr)} (hd : l.dispatch r ev sent = some (l', out)) :
    (∀ a p, .assigned a p ∉ out) ∧ ∀ dest, .resetAck dest ∈ out → dest = r.sccpAddr := by
  have hreset : (∀ a p, .assigned a p ∉ (l.rxReset r sent).2) ∧
      ∀ dest, .resetAck dest ∈ (l.rxReset r sent).2 → dest = r.sccpAddr := by
    unfold RncList.rxReset
    split
    · simp
    · simp
  have hrnc : (∀ a p, .assigned a p ∉ (l.rncReset r sent).2) ∧
      ∀ dest, .resetAck dest ∈ (l.rncReset r sent).2 → dest = r.sccpAddr := by
    unfold RncList.rncReset
    split
    · simp
    · simp
  unfold RncList.dispatch at hd
  split at hd
  all_goals simp only [Option.some.injEq, Prod.mk.injEq, reduceCtorEq] at hd
  all_goals first
    | rw [hd] at hreset
      exact hreset
    | rw [hd] at hrnc
      exact hrnc
    | exact hd.2 ▸ ⟨by simp, by simp⟩

/-- An RNC that is in the list is found by its pointer. -/
theorem Sound.rnc?_ptr (h : Sound sccp l) {r : RanapIuRnc Addr} (hr : r ∈ l.rncs) :
    l.rnc? r.ptr = some r := by
  cases hf : l.rnc? r.ptr with
  | none =>
    have hne := List.find?_eq_none.mp hf r hr
    simp at hne
  | some x =>
    have hp : x.ptr = r.ptr := by simpa using List.find?_some hf
    rw [h.eq_of_ptr (List.mem_of_find?_eq_some hf) hr hp]

/-- A message that is taken for an RNC is taken for no other one, and has come from one address. -/
theorem RncList.assigned_of_receive {ev : RncEvent} {sent : Bool} {a : Addr} {q : RncPtr}
    (h : .assigned a q ∈ (l.receive rnc addr ev sent).2) : a = addr ∧ q = rnc := by
  unfold RncList.receive at h
  cases hr : l.rnc? rnc with
  | none => simp [hr] at h
  | some r =>
    cases hd : l.dispatch r ev sent with
    | none => simp [hr, hd] at h
    | some x =>
      simp only [hr, hd, List.mem_cons, RncOut.assigned.injEq] at h
      exact h.resolve_right ((RncList.resetAck_of_dispatch hd).1 a q)

/-- A message for an RNC that is found by its address is answered as it should be. -/
theorem Sound.answered_receive (h : Sound sccp l) (hf : Found sccp l addr rnc) {ev : RncEvent}
    {sent : Bool} {a : Addr} {q : RncPtr}
    (hmem : .assigned a q ∈ (l.receive rnc addr ev sent).2) :
    Found sccp (l.receive rnc addr ev sent).1 a q ∧
      ∀ dest, .resetAck dest ∈ (l.receive rnc addr ev sent).2 →
        sccp.route dest = sccp.route a := by
  obtain ⟨rfl, rfl⟩ := RncList.assigned_of_receive hmem
  refine ⟨(findByAddr_receive l q a ev sent a).trans hf, fun dest hdest ↦ ?_⟩
  obtain ⟨x, hx, rfl⟩ := Option.map_eq_some_iff.mp hf
  obtain ⟨hxmem, hroute⟩ := RncList.mem_of_findByAddr hx
  unfold RncList.receive at hdest
  rw [h.rnc?_ptr hxmem] at hdest
  cases hd : l.dispatch x ev sent with
  | none => simp [hd] at hdest
  | some y =>
    simp only [hd, List.mem_cons, reduceCtorEq, false_or] at hdest
    rw [(RncList.resetAck_of_dispatch hd).2 dest hdest, hroute]

/-- A RESET and an InitialUE message are taken in every state. -/
theorem Sound.assigned_receive (h : Sound sccp l) {r : RanapIuRnc Addr} (hr : r ∈ l.rncs)
    (addr : Addr) (sent : Bool) {ev : RncEvent}
    (hev : ev = .rxReset ∨ ∃ rai, ev = .msgUpCoInitial rai) :
    .assigned addr r.ptr ∈ (l.receive r.ptr addr ev sent).2 := by
  have hsome : ∃ x, l.dispatch r ev sent = some x := by
    unfold RncList.dispatch
    rcases hev with rfl | ⟨rai, rfl⟩
    · cases r.state <;> exact ⟨_, rfl⟩
    · cases r.state <;> exact ⟨_, rfl⟩
  obtain ⟨x, hx⟩ := hsome
  simp only [RncList.receive, h.rnc?_ptr hr, hx, List.mem_cons, true_or]

/-- A message from an address that no RNC has, for the RNC that is found or made for it. -/
theorem Sound.answered_create (h : Sound sccp l) (haddr : l.findByAddr sccp addr = none)
    (rncId : RncId) (sent : Bool) {ev : RncEvent}
    (hev : ev = .rxReset ∨ ∃ rai, ev = .msgUpCoInitial rai)
    {x : RncList Addr × List (RncOut Addr)}
    (hx : x = (l.findOrCreate sccp rncId addr).1.receive
      (l.findOrCreate sccp rncId addr).2 addr ev sent) :
    (∀ a q, .assigned a q ∈ x.2 → Found sccp x.1 a q ∧
      ∀ dest, .resetAck dest ∈ x.2 → sccp.route dest = sccp.route a) ↔
        l.findById rncId = none := by
  subst hx
  cases hid : l.findById rncId with
  | none =>
    refine ⟨fun _ ↦ rfl, fun _ a q hmem ↦ ?_⟩
    rw [RncList.findOrCreate_of_none hid] at hmem ⊢
    refine (h.rncAlloc hid haddr).answered_receive ?_ hmem
    rw [Found, findByAddr_rncAlloc, if_pos rfl]
    rfl
  | some r =>
    refine ⟨fun hall ↦ ?_, fun hno ↦ absurd hno (by simp)⟩
    rw [RncList.findOrCreate_of_some hid haddr] at hall
    have hr : r ∈ l.rncs := List.mem_of_find?_eq_some hid
    have hfound := (hall addr r.ptr (h.assigned_receive hr addr sent hev)).1
    rw [Found, findByAddr_receive, haddr] at hfound
    exact absurd hfound (by simp)

theorem Sound.answered_iff (h : Sound sccp l) (e : IuEvent Addr) :
    Answered sccp l e ↔ NewPeerNewId sccp l e := by
  have hfound : ∀ {r : RanapIuRnc Addr} {a : Addr}, l.findByAddr sccp a = some r →
      Found sccp l a r.ptr := fun hf ↦ by rw [Found, hf]; rfl
  cases e with
  | reset addr rncId sent =>
    simp only [Answered, NewPeerNewId, RncList.step, RncList.handleClResetReq]
    cases hf : l.findByAddr sccp addr with
    | some r =>
      simp only [reduceCtorEq, false_implies, iff_true]
      exact fun a q hmem ↦ h.answered_receive (hfound hf) hmem
    | none =>
      simp only [forall_const]
      exact h.answered_create hf _ sent (.inl rfl) rfl
  | initialUe addr rncId rai sent =>
    simp only [Answered, RncList.step, RncList.rxCoInitialMsg]
    cases hf : l.findByAddr sccp addr with
    | some r =>
      have hcond : NewPeerNewId sccp l (.initialUe addr rncId rai sent) := by
        cases rncId with
        | none => trivial
        | some rncId => exact fun hno ↦ absurd (hf.symm.trans hno) (by simp)
      exact ⟨fun _ ↦ hcond, fun _ a q hmem ↦ h.answered_receive (hfound hf) hmem⟩
    | none =>
      cases rncId with
      | none => simp [NewPeerNewId]
      | some rncId =>
        simp only [NewPeerNewId, hf, forall_const]
        exact h.answered_create hf _ sent (.inr ⟨rai, rfl⟩) rfl
  | resetAck addr =>
    simp only [Answered, NewPeerNewId, RncList.step, RncList.rxKnown, iff_true]
    cases hf : l.findByAddr sccp addr with
    | some r => exact fun a q hmem ↦ h.answered_receive (hfound hf) hmem
    | none => simp
  | pcState addr available sent =>
    simp only [Answered, NewPeerNewId, RncList.step, RncList.rxKnown, iff_true]
    cases hf : l.findByAddr sccp addr with
    | some r => exact fun a q hmem ↦ h.answered_receive (hfound hf) hmem
    | none => simp
  | co rnc sent =>
    simp only [Answered, NewPeerNewId, RncList.step, iff_true]
    intro a q hmem
    cases hr : l.rnc? rnc with
    | none => simp [hr] at hmem
    | some r =>
      cases hd : l.dispatch r .msgUpCo sent with
      | none => simp [hr, hd] at hmem
      | some x =>
        simp only [hr, hd, Option.getD_some] at hmem
        exact absurd hmem ((RncList.resetAck_of_dispatch hd).1 a q)
  | timeout rnc =>
    simp only [Answered, NewPeerNewId, RncList.step, iff_true]
    intro a q hmem
    cases hr : l.rnc? rnc with
    | none => simp [hr] at hmem
    | some r =>
      cases hd : l.dispatch r .timeout false with
      | none => simp [hr, hd] at hmem
      | some x =>
        simp only [hr, hd, Option.getD_some] at hmem
        exact absurd hmem ((RncList.resetAck_of_dispatch hd).1 a q)

/-! ## Runs -/

omit [DecidableEq Route] in
theorem sound_start : Sound sccp (RncList.start : RncList Addr) := by
  refine ⟨⟨List.nodup_nil, ?_, ?_, ?_⟩, ?_, ?_⟩
  all_goals exact fun r hr ↦ absurd hr List.not_mem_nil

theorem sound_run (es : List (IuEvent Addr)) : Sound sccp ((rncMachine sccp).run .start es) :=
  Machine.invariant_run (M := rncMachine sccp) (fun _ _ ↦ True) (Sound sccp)
    (fun _ e h _ ↦ h.step e) sound_start (Machine.meets_of_forall (fun _ _ ↦ trivial) _ es)

/-- An address stands for an RNC from the message on that was taken as one of it. -/
theorem found_of_assigned (h : Sound sccp l) {es : List (IuEvent Addr)}
    (hes : (rncMachine sccp).Meets (NewPeerNewId sccp) l es)
    (hmem : .assigned addr rnc ∈ (rncMachine sccp).trace l es) :
    Found sccp ((rncMachine sccp).run l es) addr rnc := by
  induction es generalizing l with
  | nil => exact absurd hmem List.not_mem_nil
  | cons e es ih =>
    rcases List.mem_append.mp hmem with hnow | hlater
    · have hfound : Found sccp ((rncMachine sccp).step l e).1 addr rnc :=
        ((h.answered_iff e).mpr hes.1 addr rnc hnow).1
      rw [Machine.run_cons]
      exact Machine.invariant_run (M := rncMachine sccp) (fun _ _ ↦ True)
        (fun l ↦ Found sccp l addr rnc) (fun _ e h _ ↦ h.step e) hfound
        (Machine.meets_of_forall (fun _ _ ↦ trivial) _ es)
    · exact ih (h.step e) hes.2 hlater

/-- **RNCs and their addresses.** After every run no two RNCs have the same identity or are routed
alike, and no routing area is in the lists of two; and the next message is taken for an RNC that is
found by its address from then on, and a RESET is answered where it has come from, exactly when the
message does not have the identity of a known RNC with another address. In a run of such messages,
every address that a message has come from still stands for the RNC that it was taken for. -/
theorem rncs_of_run (sccp : SccpAddrs Addr Route) (es : List (IuEvent Addr)) :
    Consistent sccp ((rncMachine sccp).run .start es) ∧
      (∀ e, Answered sccp ((rncMachine sccp).run .start es) e ↔
        NewPeerNewId sccp ((rncMachine sccp).run .start es) e) ∧
      ((rncMachine sccp).Meets (NewPeerNewId sccp) .start es → ∀ addr rnc,
        .assigned addr rnc ∈ (rncMachine sccp).trace .start es →
          Found sccp ((rncMachine sccp).run .start es) addr rnc) :=
  ⟨(sound_run es).toConsistent, (sound_run es).answered_iff,
    fun hes _ _ hmem ↦ found_of_assigned sound_start hes hmem⟩

/-- Addresses that are routed by their point codes. -/
def pointCodes : SccpAddrs (BitVec 16) (BitVec 16) := ⟨id, id⟩

/-- An RNC comes back from another address. -/
def movedRnc : RncList (BitVec 16) :=
  (rncMachine pointCodes).run .start [.reset 1 (some ⟨⟨262, 42, false⟩, 7⟩) true]

/-- An RNC that has come back from another address is not found by it. -/
theorem moved_rnc_not_found :
    ¬ Answered pointCodes movedRnc (.reset 2 (some ⟨⟨262, 42, false⟩, 7⟩) true) := by
  intro h
  have hfound := (h 2 0 (by simp [movedRnc, rncMachine, RncList.step, RncList.handleClResetReq,
    RncList.findByAddr, RncList.findOrCreate, RncList.findById, RncList.rncAlloc, RncList.receive,
    RncList.rnc?, RncList.dispatch, RncList.rxReset, RncList.stateChg, RncList.modRnc, pointCodes,
    RncList.start])).1
  exact absurd hfound (by
    simp [Found, movedRnc, rncMachine, RncList.step, RncList.handleClResetReq,
      RncList.findByAddr, RncList.findOrCreate, RncList.findById, RncList.rncAlloc, RncList.receive,
      RncList.rnc?, RncList.dispatch, RncList.rxReset, RncList.stateChg, RncList.modRnc, pointCodes,
      RncList.start])

end OsmoSgsn.Iu
