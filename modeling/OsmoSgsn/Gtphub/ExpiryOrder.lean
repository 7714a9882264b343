import OsmoSgsn.Gtphub.RefCount

/-!
# The order of expiry queues

All items of a queue live equally long, so with a clock that does not go back a queue is sorted by
time, its assertion never fails, and the early end of `expiry_tick` misses nothing. First for one
queue by itself, and then for the two queues of the hub: there the time comes from two places, as a
lookup reads the clock on its own, but nothing is queued after it before the next event.
-/

open EStateM

namespace OsmoSgsn.Gtphub

/-! ## One queue -/

/-- A `struct expiry`, and which items have a `del_cb`. -/
structure ExpiryQueue (α : Type) where
  items : List (Expiring α)
  delCb : α → Bool

/-- What is done with a queue. An item may be given a callback, and lose it. -/
inductive ExpiryCall (α : Type)
  | setDelCb (x : α) (b : Bool)
  | add (x : α) (now : ℕ)
  | del (x : α)
  | tick (now : ℕ)

/-- The time of a call. -/
def ExpiryCall.now {α : Type} : ExpiryCall α → Option ℕ
  | .add _ now | .tick now => some now
  | .setDelCb _ _ | .del _ => none

section OneQueue

variable {α : Type} [DecidableEq α]

/-- `expiry_add`: nothing if the assertion fails. -/
def ExpiryQueue.add (secs : ℕ) (q : ExpiryQueue α) (x : α) (now : ℕ) : Option (ExpiryQueue α) := do
  let items ← Expiring.add q.items x (now + secs)
  return { q with items := items }

/-- `expiring_item_del`, and the items whose callback it calls. -/
def ExpiryQueue.del (q : ExpiryQueue α) (x : α) : ExpiryQueue α × List α :=
  (⟨Expiring.remove q.items x, Function.update q.delCb x false⟩, if q.delCb x then [x] else [])

/-- The loop of `expiry_tick`, with the items whose callback it calls and their number. -/
def ExpiryQueue.tickLoop (now : ℕ) : List (Expiring α) → ExpiryQueue α → ExpiryQueue α × List α × ℕ
  | [], q => (q, [], 0)
  | e :: rest, q =>
    if e.expiry ≤ now then
      let (q, called) := q.del e.item
      let (q, called', expired) := tickLoop now rest q
      (q, called ++ called', expired + 1)
    else (q, [], 0)

/-- `expiry_tick`. -/
def ExpiryQueue.tick (q : ExpiryQueue α) (now : ℕ) : ExpiryQueue α × List α × ℕ :=
  tickLoop now q.items q

/-- One call. -/
def ExpiryQueue.step (secs : ℕ) (q : ExpiryQueue α) : ExpiryCall α → Option (ExpiryQueue α)
  | .setDelCb x b => some { q with delCb := Function.update q.delCb x b }
  | .add x now => q.add secs x now
  | .del x => some (q.del x).1
  | .tick now => some (q.tick now).1

/-- What is due at a time. -/
def ExpiryQueue.due (q : ExpiryQueue α) (now : ℕ) : List (Expiring α) :=
  q.items.filter (·.expiry ≤ now)

/-- A tick deletes what is due and nothing else, calls the callbacks of that once, and counts it. -/
structure ExpiryQueue.TicksExactly (q : ExpiryQueue α) (now : ℕ) : Prop where
  items : (q.tick now).1.items = q.items.filter (now < ·.expiry)
  called : (q.tick now).2.1 = (Expiring.items (q.due now)).filter q.delCb
  expired : (q.tick now).2.2 = (q.due now).length

/-- The loop goes through what is due from the start. -/
theorem ExpiryQueue.tickLoop_eq (now : ℕ) (l : List (Expiring α)) (q : ExpiryQueue α)
    (hnd : (Expiring.items l).Nodup) :
    (q.tickLoop now l).1.items =
        q.items.filter (fun e ↦ e.item ∉ Expiring.items (l.takeWhile (·.expiry ≤ now))) ∧
      (q.tickLoop now l).2.1 = (Expiring.items (l.takeWhile (·.expiry ≤ now))).filter q.delCb ∧
      (q.tickLoop now l).2.2 = (l.takeWhile (·.expiry ≤ now)).length := by
  induction l generalizing q with
  | nil => simp [ExpiryQueue.tickLoop, Expiring.items]
  | cons e l ih =>
    obtain ⟨hnotmem, hnd⟩ := List.nodup_cons.mp hnd
    obtain ⟨hitems, hcalled, hexpired⟩ := ih (q.del e.item).1 hnd
    by_cases hdue : e.expiry ≤ now
    · simp only [ExpiryQueue.tickLoop, if_pos hdue, List.takeWhile_cons, decide_eq_true hdue,
        if_true]
      refine ⟨?_, ?_, by rw [hexpired, List.length_cons]⟩
      · rw [hitems, ExpiryQueue.del, ← Expiring.foldl_remove, ← Expiring.foldl_remove]
        rfl
      · -- the callback of an item is called at its own turn, as it is only once in the queue
        have hrest : (Expiring.items (l.takeWhile (·.expiry ≤ now))).filter (q.del e.item).1.delCb =
            (Expiring.items (l.takeWhile (·.expiry ≤ now))).filter q.delCb := by
          refine List.filter_congr fun x hx ↦ ?_
          have hmem : x ∈ Expiring.items l :=
            List.Sublist.subset ((List.takeWhile_sublist _).map _) hx
          exact Function.update_of_ne (ne_of_mem_of_not_mem hmem hnotmem) _ _
        rw [hcalled, hrest]
        change (q.del e.item).2 ++ _ = List.filter q.delCb (e.item :: Expiring.items _)
        rw [List.filter_cons, ExpiryQueue.del]
        cases q.delCb e.item <;> rfl
    · simp [ExpiryQueue.tickLoop, hdue, Expiring.items]

theorem ExpiryQueue.ticksExactly {q : ExpiryQueue α} {bound : ℕ}
    (hq : Expiring.Ordered q.items bound) (now : ℕ) : q.TicksExactly now := by
  obtain ⟨hitems, hcalled, hexpired⟩ := ExpiryQueue.tickLoop_eq now q.items q hq.nodup
  rw [hq.takeWhile_eq_filter] at hitems hcalled hexpired
  exact ⟨hitems.trans (Expiring.filter_notMem_due hq.nodup now), hcalled, hexpired⟩

/-- A call at a time that is not before the last one keeps the order, and is possible. -/
theorem ExpiryQueue.ordered_step {q : ExpiryQueue α} {secs t : ℕ}
    (hq : Expiring.Ordered q.items (t + secs)) (c : ExpiryCall α) (hnow : ∀ now ∈ c.now, t ≤ now) :
    ∃ q', q.step secs c = some q' ∧ Expiring.Ordered q'.items (c.now.getD t + secs) := by
  cases c with
  | setDelCb x b => exact ⟨_, rfl, hq⟩
  | add x now =>
    have hle : t + secs ≤ now + secs := Nat.add_le_add_right (hnow now rfl) secs
    obtain ⟨items, hadd⟩ := Option.isSome_iff_exists.mp (hq.add_isSome hle x)
    refine ⟨{ q with items := items }, ?_, hq.add hle hadd⟩
    simp [ExpiryQueue.step, ExpiryQueue.add, hadd]
  | del x => exact ⟨_, rfl, hq.sublist Expiring.remove_sublist⟩
  | tick now =>
    refine ⟨_, rfl, ?_⟩
    rw [(ExpiryQueue.ticksExactly hq now).items]
    exact (hq.sublist List.filter_sublist).mono (Nat.add_le_add_right (hnow now rfl) secs)

/-- Calls at times that do not go back keep the order, and are possible. -/
theorem ExpiryQueue.ordered_run {q : ExpiryQueue α} {secs t : ℕ} (calls : List (ExpiryCall α))
    (hq : Expiring.Ordered q.items (t + secs))
    (htimes : (t :: calls.filterMap ExpiryCall.now).Pairwise (· ≤ ·)) :
    ∃ q', calls.foldlM (ExpiryQueue.step secs) q = some q' ∧
      ∃ bound, Expiring.Ordered q'.items bound := by
  induction calls generalizing q t with
  | nil => exact ⟨q, rfl, _, hq⟩
  | cons c calls ih =>
    have hnext : (∀ now ∈ c.now, t ≤ now) ∧
        (c.now.getD t :: calls.filterMap ExpiryCall.now).Pairwise (· ≤ ·) := by
      rw [List.filterMap_cons] at htimes
      cases hc : c.now with
      | none =>
        rw [hc] at htimes
        exact ⟨by simp, htimes⟩
      | some now =>
        rw [hc] at htimes
        obtain ⟨hle, hrest⟩ := List.pairwise_cons.mp htimes
        refine ⟨?_, hrest⟩
        rintro _ ⟨⟩
        exact hle now List.mem_cons_self
    obtain ⟨q₁, hstep, hq₁⟩ := ExpiryQueue.ordered_step hq c hnext.1
    obtain ⟨q', hrun, hq'⟩ := ih hq₁ hnext.2
    refine ⟨q', ?_, hq'⟩
    rw [List.foldlM_cons, hstep]
    exact hrun

end OneQueue

/-! ## The queues of the hub -/

section Hub

variable {h h' : Hub} {lib : Lib} {G : Prop} {now t : ℕ}

/-- Both queues are in order, with nothing that was queued after a time. -/
def Hub.InOrder (t : ℕ) (h : Hub) : Prop := ∀ exq, Expiring.Ordered (h.exq exq) (t + exq.seconds)

theorem Hub.InOrder.mono {t' : ℕ} (ho : h.InOrder t) (hle : t ≤ t') : h.InOrder t' := fun exq ↦
  (ho exq).mono (Nat.add_le_add_right hle _)

theorem Hub.InOrder.setExq (exq : Exq) {x : Item} {items : List (Expiring Item)}
    (ho : h.InOrder now)
    (hadd : Expiring.add (h.exq exq) x (now + exq.seconds) = some items) :
    (h.setExq items exq).InOrder now := by
  intro exq'
  by_cases heq : exq' = exq
  · subst heq
    have hnew : (h.setExq items exq').exq exq' = items := by cases exq' <;> rfl
    rw [hnew]
    exact (ho exq').add le_rfl hadd
  · rw [Hub.setExq_exq items heq]
    exact ho exq'

/-- Every step keeps the order. -/
theorem Hub.InOrder.step (hstep : HubStep lib G now h h') (ho : h.InOrder now) :
    h'.InOrder now := by
  cases hstep with
  | touch item items _ _ hadd => exact ho.setExq item.exq hadd
  | noteDelete pd items _ _ hadd => exact ho.setExq .quickly hadd
  | delItem item _ =>
    intro exq
    rw [Hub.delItem_exq]
    exact (ho exq).sublist Expiring.remove_sublist
  | rePeer t s p pp _ _ =>
    intro exq
    rw [Hub.rePeer_exq]
    exact ho exq
  | mappingNew toPort origin orig items _ _ _ hadd => exact ho.setExq .quickly hadd
  | resolvedNew name pp items _ _ hadd => exact ho.setExq .slowly hadd
  | _ => exact fun exq ↦ ho exq

theorem HubSteps.inOrder (hsteps : HubSteps lib G now h h') (ho : h.InOrder t) (hle : t ≤ now) :
    h'.InOrder now :=
  hsteps.invariant (fun _ _ hstep hi ↦ hi.step hstep) (ho.mono hle)

/-- In order, an item can be queued. -/
theorem Trips.ne_expiryOrder (ho : h.InOrder now) : ¬ Trips now h .expiryOrder := by
  rintro (_ | ⟨exq, item, hadd⟩)
  have hsome := (ho exq).add_isSome le_rfl item
  rw [hadd] at hsome
  exact absurd hsome (by simp)

theorem Handles.inOrder {e : HubEvent} (hh : Handles lib e h h') (ho : h.InOrder t)
    (hstart : t ≤ e.start) (hstop : e.start ≤ e.stop) : h'.InOrder e.stop := by
  obtain ⟨h₁, h₂, hsteps₁, hsteps₂, heq⟩ := hh.walks
  have ho₂ : h₂.InOrder e.stop := hsteps₂.inOrder (hsteps₁.inOrder ho hstart) hstop
  rcases heq with rfl | rfl
  · exact ho₂
  · exact fun exq ↦ ho₂ exq

theorem FaultsIn.ne_expiryOrder {e : HubEvent} {P : Fault → Prop} (ho : h.InOrder t)
    (hstart : t ≤ e.start) (hstop : e.start ≤ e.stop) (hP : ¬ P .expiryOrder) :
    ¬ FaultsIn lib e P h .expiryOrder := by
  rintro (⟨h₁, hsteps₁, htrips | ⟨h₂, hsteps₂, htrips⟩⟩ | hf)
  · exact Trips.ne_expiryOrder (hsteps₁.inOrder ho hstart) htrips
  · exact Trips.ne_expiryOrder (hsteps₂.inOrder (hsteps₁.inOrder ho hstart) hstop) htrips
  · exact hP hf

/-! ### Ticks -/

/-- An object that is there can be dropped. -/
theorem Hub.Sound.expiringItemDel {item : Item} (hs : h.Sound) (hlive : h.Live item) :
    expiringItemDel item h = .ok () (h.delItem item) := by
  have hwp := wp_expiringItemDel (h := h) item
  unfold wp at hwp
  cases hr : Gtphub.expiringItemDel item h with
  | ok v h' =>
    rw [hr] at hwp
    exact congrArg (EStateM.Result.ok ()) hwp
  | error f h' =>
    rw [hr] at hwp
    obtain ⟨rfl, hshort⟩ := hwp
    have htrips : Trips 0 h .refCountZero := .refCountZero item hlive hshort
    exact absurd htrips (Trips.ne_refCountZero hs)

/-- The loop drops what is due from the start. -/
theorem Hub.Sound.expiryTickLoop {l : List (Expiring Item)} (hs : h.Sound)
    (hnd : (Expiring.items l).Nodup) (hlive : ∀ e ∈ l, h.Live e.item) (now : ℕ) :
    expiryTickLoop now l h = .ok (l.takeWhile (·.expiry ≤ now)).length
      ((Expiring.items (l.takeWhile (·.expiry ≤ now))).foldl Hub.delItem h) := by
  induction l generalizing h with
  | nil => rfl
  | cons e l ih =>
    obtain ⟨hnotmem, hnd⟩ := List.nodup_cons.mp hnd
    have hlive₁ := hlive e List.mem_cons_self
    have hrest := ih (h := h.delItem e.item) (hs.delItem hlive₁) hnd
      fun e' he' ↦ Hub.live_delItem (hlive e' (List.mem_cons_of_mem e he'))
        (ne_of_mem_of_not_mem (List.mem_map_of_mem he') hnotmem)
    unfold Gtphub.expiryTickLoop
    by_cases hdue : e.expiry ≤ now
    · rw [if_pos hdue, List.takeWhile_cons, decide_eq_true hdue, if_pos rfl]
      simp only [bind, EStateM.bind, hs.expiringItemDel hlive₁, hrest]
      rfl
    · rw [if_neg hdue, List.takeWhile_cons, decide_eq_false hdue]
      rfl

/-- The queues after some items were dropped. -/
theorem Hub.foldl_delItem_exq (l : List Item) (exq : Exq) :
    (l.foldl Hub.delItem h).exq exq = (h.exq exq).filter (·.item ∉ l) := by
  rw [← Expiring.foldl_remove]
  induction l generalizing h with
  | nil => rfl
  | cons item l ih => rw [List.foldl_cons, ih, Hub.delItem_exq, List.foldl_cons]

/-- What is due in a queue of the hub. -/
def Hub.due (h : Hub) (exq : Exq) (now : ℕ) : List (Expiring Item) :=
  (h.exq exq).filter (·.expiry ≤ now)

/-- The hub after everything that is due in a queue was dropped. -/
def Hub.ticked (h : Hub) (exq : Exq) (now : ℕ) : Hub :=
  (Expiring.items (h.due exq now)).foldl Hub.delItem h

/-- A tick of a queue drops what is due, each item once, and nothing else, and counts it. -/
structure Hub.TicksExactly (h : Hub) (exq : Exq) (now : ℕ) : Prop where
  expired : expiryTick exq now h = .ok (h.due exq now).length (h.ticked exq now)
  items : (h.ticked exq now).exq exq = (h.exq exq).filter (now < ·.expiry)
  others : ∀ exq', exq' ≠ exq → (h.ticked exq now).exq exq' = h.exq exq'

theorem Hub.ticksExactly (hs : h.Sound) (ho : h.InOrder t) (exq : Exq) (now : ℕ) :
    h.TicksExactly exq now where
  expired := by
    rw [Hub.ticked, Hub.due, ← (ho exq).takeWhile_eq_filter]
    exact hs.expiryTickLoop (hs.linked.items exq) (hs.linked.live exq) now
  items := by
    rw [Hub.ticked, Hub.foldl_delItem_exq, Hub.due]
    exact Expiring.filter_notMem_due (ho exq).nodup now
  others exq' hne := by
    rw [Hub.ticked, Hub.foldl_delItem_exq, List.filter_eq_self]
    intro e he
    rw [decide_eq_true_eq]
    intro hmem
    obtain ⟨e', he', heq⟩ := List.mem_map.mp hmem
    have hqueue := hs.linked.queue exq e' (List.mem_filter.mp he').1
    rw [heq, hs.linked.queue exq' e he] at hqueue
    exact hne hqueue

theorem Hub.Sound.ticked (hs : h.Sound) (exq : Exq) (now : ℕ) : (h.ticked exq now).Sound := by
  have hdrop (l : List Item) : l.Nodup → (∀ x ∈ l, h.Live x) → (l.foldl Hub.delItem h).Sound := by
    induction l generalizing h with
    | nil => exact fun _ _ ↦ hs
    | cons item l ih =>
      intro hnd hlive
      obtain ⟨hnotmem, hnd⟩ := List.nodup_cons.mp hnd
      refine ih (hs.delItem (hlive item List.mem_cons_self)) hnd fun x hx ↦ ?_
      exact Hub.live_delItem (hlive x (List.mem_cons_of_mem item hx))
        (ne_of_mem_of_not_mem hx hnotmem)
  refine hdrop _ ((hs.linked.items exq).sublist (List.filter_sublist.map _)) fun x hx ↦ ?_
  obtain ⟨e, he, rfl⟩ := List.mem_map.mp hx
  exact hs.linked.live exq e (List.mem_filter.mp he).1

theorem Hub.InOrder.ticked (ho : h.InOrder t) (exq : Exq) (now : ℕ) :
    (h.ticked exq now).InOrder t := by
  intro exq'
  rw [Hub.ticked, Hub.foldl_delItem_exq]
  exact (ho exq').sublist List.filter_sublist

/-! ### Runs -/

/-- The clock does not go back: not from one event to the next, and not while one is handled. -/
def Clocked : ℕ → List HubEvent → Prop
  | _, [] => True
  | t, e :: es => t ≤ e.start ∧ e.start ≤ e.stop ∧ Clocked e.stop es

theorem Clocked.of_prefix {es es' : List HubEvent} (hclock : Clocked t es) (hpre : es' <+: es) :
    Clocked t es' := by
  obtain ⟨rest, rfl⟩ := hpre
  induction es' generalizing t with
  | nil => trivial
  | cons e es' ih => exact ⟨hclock.1, hclock.2.1, ih hclock.2.2⟩

/-- The time after some events. -/
def endClock : ℕ → List HubEvent → ℕ
  | t, [] => t
  | _, e :: es => endClock e.stop es

theorem inOrder_handle (e : HubEvent) (hs : h.Sound) (ho : h.InOrder t) (hstart : t ≤ e.start)
    (hstop : e.start ≤ e.stop) :
    wp (e.handle lib) (fun _ h' ↦ h'.Sound ∧ h'.InOrder e.stop) (fun f _ ↦ f ≠ .expiryOrder) h := by
  refine wp_mono (walks_handle e hs.linked (permitted_other e)) (fun _ h' hh ↦ ?_) fun f _ hf ↦ ?_
  · exact ⟨hh.sound hs, hh.inOrder ho hstart hstop⟩
  · rintro rfl
    exact FaultsIn.ne_expiryOrder ho hstart hstop (fun hother ↦ hother.2 rfl) hf

theorem inOrder_run (lib : Lib) {s : System} {es : List HubEvent}
    (hs : s.Keeps (fun h ↦ h.Sound ∧ h.InOrder t) (· ≠ .expiryOrder)) (hclock : Clocked t es) :
    ((hubMachine lib).run s es).Keeps (fun h ↦ h.Sound ∧ h.InOrder (endClock t es))
      (· ≠ .expiryOrder) := by
  induction es generalizing s t with
  | nil => exact hs
  | cons e es ih =>
    obtain ⟨hstart, hstop, hclock⟩ := hclock
    refine ih (System.Keeps.step (fun h hh ↦ ?_) s hs) hclock
    exact inOrder_handle e hh.1 hh.2 hstart hstop

theorem gtphubStart_inOrder {cfg : HubCfg} {h₀ : Hub}
    (hstart : gtphubStart lib cfg (gtphubInit cfg) = .ok () h₀) : h₀.Sound ∧ h₀.InOrder 0 := by
  refine gtphubStart_invariant (Hub.InOrder 0) (fun _ _ hstep _ ho ↦ ho.step hstep)
    (fun h s p pp _ ho exq ↦ ho exq) (fun exq ↦ ?_) hstart
  cases exq <;> exact .nil _

end Hub

/-- A queue of the hub is in order, with each item once. -/
def Hub.Queued (h : Hub) (exq : Exq) : Prop :=
  (h.exq exq).Pairwise (fun e e' ↦ e.expiry ≤ e'.expiry) ∧ (Expiring.items (h.exq exq)).Nodup

/-- **Expiry queues stay ordered and exact.** Calls of one queue at times that do not go back are
all possible, and leave a queue in order, with each item once, that ticks exactly. So do the events
of a hub at times that do not go back, for both of its queues, and for the second one also between
the two ticks of a collection. -/
theorem expiry_queues_ordered_exact (lib : Lib) (cfg : HubCfg) (h₀ : Hub)
    (hstart : gtphubStart lib cfg (gtphubInit cfg) = .ok () h₀) :
    (∀ (α : Type) [DecidableEq α] (secs : ℕ) (delCb : α → Bool) (calls : List (ExpiryCall α)),
      (calls.filterMap ExpiryCall.now).Pairwise (· ≤ ·) →
        ∃ q, calls.foldlM (ExpiryQueue.step secs) ⟨[], delCb⟩ = some q ∧
          q.items.Pairwise (fun e e' ↦ e.expiry ≤ e'.expiry) ∧ (Expiring.items q.items).Nodup ∧
          ∀ now, q.TicksExactly now) ∧
    ∀ es, Clocked 0 es →
      ((hubMachine lib).run ⟨h₀, none⟩ es).fault ≠ some .expiryOrder ∧
        (((hubMachine lib).run ⟨h₀, none⟩ es).fault = none →
          (∀ exq, ((hubMachine lib).run ⟨h₀, none⟩ es).hub.Queued exq) ∧
          ∀ now, (∀ exq, ((hubMachine lib).run ⟨h₀, none⟩ es).hub.TicksExactly exq now) ∧
            (((hubMachine lib).run ⟨h₀, none⟩ es).hub.ticked .quickly now).TicksExactly
              .slowly now) := by
  constructor
  · intro α _ secs delCb calls htimes
    have htimes₀ : (0 :: calls.filterMap ExpiryCall.now).Pairwise (· ≤ ·) :=
      List.pairwise_cons.mpr ⟨fun _ _ ↦ Nat.zero_le _, htimes⟩
    obtain ⟨q, hrun, bound, hq⟩ := ExpiryQueue.ordered_run (q := ⟨[], delCb⟩) calls
      (.nil (0 + secs)) htimes₀
    exact ⟨q, hrun, hq.sorted, hq.nodup, fun now ↦ ExpiryQueue.ticksExactly hq now⟩
  · intro es hclock
    have hkeeps := inOrder_run lib (s := ⟨h₀, none⟩) (gtphubStart_inOrder hstart) hclock
    generalize (hubMachine lib).run ⟨h₀, none⟩ es = s at hkeeps
    obtain ⟨h, fault⟩ := s
    cases fault with
    | some f => exact ⟨fun heq ↦ hkeeps (Option.some.inj heq), fun hnone ↦ by simp at hnone⟩
    | none =>
      obtain ⟨hs, ho⟩ : h.Sound ∧ h.InOrder (endClock 0 es) := hkeeps
      refine ⟨by simp, fun _ ↦ ⟨fun exq ↦ ⟨(ho exq).sorted, (ho exq).nodup⟩, fun now ↦ ⟨?_, ?_⟩⟩⟩
      · exact fun exq ↦ Hub.ticksExactly hs ho exq now
      · exact Hub.ticksExactly (hs.ticked .quickly now) (ho.ticked .quickly now) .slowly now

/-- A queue with an item that was queued twice, and the hub of the example with one mapping: after
half a minute a tick drops the mapping. -/
theorem example_mapping_ticks :
    (∃ q, [ExpiryCall.add 1 0, .add 2 3, .add 1 4].foldlM (ExpiryQueue.step 30) ⟨[], fun _ ↦ true⟩ =
        some q ∧ q.TicksExactly 33) ∧
      (exampleRun [exampleResolved, .rx (exampleCreateReq 1 0x11 0x22 7)]).fault = none ∧
      ((exampleRun [exampleResolved, .rx (exampleCreateReq 1 0x11 0x22 7)]).hub.due .quickly
        30).length = 1 ∧
      (exampleRun [exampleResolved, .rx (exampleCreateReq 1 0x11 0x22 7)]).hub.TicksExactly
        .quickly 30 := by
  have hboth := expiry_queues_ordered_exact exampleLib exampleCfg (gtphubInit exampleCfg) rfl
  have hhub : ∀ es, Clocked 0 es → (exampleRun es).fault = none →
      (exampleRun es).hub.TicksExactly .quickly 30 := fun es hclock hrun ↦
    ((hboth.2 es hclock).2 hrun).2 30 |>.1 .quickly
  have hrun :
      (exampleRun [exampleResolved, .rx (exampleCreateReq 1 0x11 0x22 7)]).fault = none := by
    decide +kernel
  have hclock : Clocked 0 [exampleResolved, .rx (exampleCreateReq 1 0x11 0x22 7)] :=
    ⟨Nat.le_refl 0, Nat.le_refl 0, Nat.le_refl 0, Nat.le_refl 0, trivial⟩
  refine ⟨?_, hrun, by decide +kernel, hhub _ hclock hrun⟩
  obtain ⟨q, hcalls, -, -, htick⟩ := hboth.1 ℕ 30 (fun _ ↦ true)
    [ExpiryCall.add 1 0, .add 2 3, .add 1 4] (by simp [ExpiryCall.now])
  exact ⟨q, hcalls, htick 33⟩

end OsmoSgsn.Gtphub
