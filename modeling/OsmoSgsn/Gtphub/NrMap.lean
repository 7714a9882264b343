import OsmoSgsn.Library.Machine
import OsmoSgsn.Gtphub.Hub

/-!
# Maps of numbers

A number of a sender is replaced by one of a pool and can be mapped back later. Several maps may
share a pool. The pool goes round in its range without looking at the numbers that are still in
use, so a replacement is good for one round: numbers repeat once as many were drawn after a mapping
was added as the pool has.

A mapping stands for the pointer to itself. The pointer is the position of its number among all
that were drawn, which no code reads.
-/

namespace OsmoSgsn.Gtphub

/-! ## The pool -/

/-- A pool as it is made: the range is not empty, and the next number is in it. -/
structure NrPool.Made (pool : NrPool) : Prop where
  range : pool.nrMin ≤ pool.nrMax
  start : pool.nrMin ≤ pool.lastNr + 1

theorem nrPoolInit_made {nrMin nrMax : ℕ} (hrange : nrMin ≤ nrMax) :
    (nrPoolInit nrMin nrMax).Made :=
  ⟨hrange, hrange.trans (Nat.le_succ nrMax)⟩

/-- How many numbers a pool has. -/
def NrPool.size (pool : NrPool) : ℕ := pool.nrMax - pool.nrMin + 1

/-- The number that a pool gives next but some. -/
def NrPool.nth (pool : NrPool) (k : ℕ) : ℕ :=
  pool.nrMin + (min pool.lastNr pool.nrMax + 1 - pool.nrMin + k) % pool.size

theorem NrPool.nth_mem {pool : NrPool} (hp : pool.Made) (k : ℕ) :
    pool.nrMin ≤ pool.nth k ∧ pool.nth k ≤ pool.nrMax := by
  have hlt : (min pool.lastNr pool.nrMax + 1 - pool.nrMin + k) % pool.size < pool.size :=
    Nat.mod_lt _ (Nat.succ_pos _)
  have hrange := hp.range
  unfold NrPool.nth
  unfold NrPool.size at hlt ⊢
  omega

/-- Within a round the numbers differ. -/
theorem NrPool.nth_injective {pool : NrPool} {i j : ℕ} (hij : i ≤ j) (hround : j < i + pool.size)
    (heq : pool.nth i = pool.nth j) : i = j := by
  have hmod := Nat.add_left_cancel heq
  have hmod : i ≡ j [MOD pool.size] := Nat.ModEq.add_left_cancel' _ hmod
  have hdvd : pool.size ∣ j - i := (Nat.modEq_iff_dvd' hij).mp hmod
  have hzero := Nat.eq_zero_of_dvd_of_lt hdvd (by omega)
  omega

theorem nrPoolNext_made {pool : NrPool} (hp : pool.Made) : (nrPoolNext pool).Made := by
  refine ⟨hp.range, ?_⟩
  have hstart := hp.start
  simp only [nrPoolNext]
  split
  · exact Nat.le_succ _
  · exact hstart.trans (Nat.le_succ _)

theorem nrPoolNext_lastNr {pool : NrPool} (hp : pool.Made) :
    (nrPoolNext pool).lastNr = pool.nth 0 := by
  have hrange := hp.range
  have hstart := hp.start
  simp only [nrPoolNext, NrPool.nth, NrPool.size]
  split
  · next hwrap =>
    rw [min_eq_right hwrap, add_zero, Nat.sub_add_comm hrange, Nat.mod_self, add_zero]
  · next hin =>
    rw [min_eq_left (by omega), Nat.mod_eq_of_lt (by omega)]
    omega

/-- What is left of a pool after a number was drawn. -/
theorem nrPoolNext_nth {pool : NrPool} (hp : pool.Made) (k : ℕ) :
    (nrPoolNext pool).nth k = pool.nth (k + 1) := by
  have hrange := hp.range
  have hstart := hp.start
  simp only [nrPoolNext, NrPool.nth, NrPool.size]
  congr 1
  split
  · next hwrap =>
    rw [min_eq_left hrange, min_eq_right hwrap]
    have hround : pool.nrMax + 1 - pool.nrMin + (k + 1) =
        (pool.nrMin + 1 - pool.nrMin + k) + (pool.nrMax - pool.nrMin + 1) := by omega
    rw [hround, Nat.add_mod_right]
  · next hin =>
    rw [min_eq_left (by omega), min_eq_left (by omega)]
    congr 1
    omega

/-! ## The maps -/

/-- A `struct nr_mapping` in one of the maps. -/
structure Mapping (Map Origin : Type) where
  id : ℕ
  map : Map
  origin : Origin
  orig : ℕ
  repl : ℕ
  deriving DecidableEq, Repr

/-- A `struct nr_pool`, the mappings of the maps that share it, the oldest first, and the expiry
queues that they are added to. -/
structure NrMaps (Map Origin Exq : Type) where
  pool : NrPool
  draws : ℕ
  mappings : List (Mapping Map Origin)
  queue : Exq → List (Expiring (Mapping Map Origin))

/-- How the maps are made: the queue that each is given, if any, and how long its items live. -/
structure NrMapCfg (Map Exq : Type) where
  addItemsToExpiry : Map → Option Exq
  expiryInSeconds : Exq → ℕ

section Operations

variable {Map Origin Exq : Type} [DecidableEq Map] [DecidableEq Origin] [DecidableEq Exq]

/-- `nr_map_init`, for maps that share a pool. -/
def NrMaps.init (pool : NrPool) : NrMaps Map Origin Exq := ⟨pool, 0, [], fun _ ↦ []⟩

/-- `nr_map_get`. -/
def NrMaps.get (s : NrMaps Map Origin Exq) (map : Map) (origin : Origin) (orig : ℕ) :
    Option (Mapping Map Origin) :=
  s.mappings.find? fun m ↦ m.map = map ∧ m.origin = origin ∧ m.orig = orig

/-- `nr_map_get_inv`. -/
def NrMaps.getInv (s : NrMaps Map Origin Exq) (map : Map) (repl : ℕ) :
    Option (Mapping Map Origin) :=
  s.mappings.find? fun m ↦ m.map = map ∧ m.repl = repl

/-- `nr_map_refresh`: nothing if the assertion of `expiry_add` fails. -/
def NrMaps.refresh (cfg : NrMapCfg Map Exq) (s : NrMaps Map Origin Exq) (m : Mapping Map Origin)
    (now : ℕ) : Option (NrMaps Map Origin Exq) :=
  match cfg.addItemsToExpiry m.map with
  | none => some s
  | some exq => do
    let items ← Expiring.add (s.queue exq) m (now + cfg.expiryInSeconds exq)
    return { s with queue := Function.update s.queue exq items }

/-- `nr_pool_next`. -/
def NrMaps.draw (s : NrMaps Map Origin Exq) : NrMaps Map Origin Exq :=
  { s with pool := nrPoolNext s.pool, draws := s.draws + 1 }

/-- `nr_map_add`. -/
def NrMaps.add (cfg : NrMapCfg Map Exq) (s : NrMaps Map Origin Exq) (map : Map) (origin : Origin)
    (orig now : ℕ) : Option (NrMaps Map Origin Exq) :=
  let s' := s.draw
  let m : Mapping Map Origin := ⟨s.draws, map, origin, orig, s'.pool.lastNr⟩
  NrMaps.refresh cfg { s' with mappings := s'.mappings ++ [m] } m now

/-- `gtphub_mapping_have`. -/
def NrMaps.have (cfg : NrMapCfg Map Exq) (s : NrMaps Map Origin Exq) (map : Map) (origin : Origin)
    (orig now : ℕ) : Option (NrMaps Map Origin Exq) :=
  match s.get map origin orig with
  | some m => s.refresh cfg m now
  | none => s.add cfg map origin orig now

/-- `nr_mapping_del`, with the callback of the mapping. -/
def NrMaps.del (s : NrMaps Map Origin Exq) (m : Mapping Map Origin) : NrMaps Map Origin Exq :=
  { s with
    mappings := s.mappings.erase m
    queue := fun exq ↦ Expiring.remove (s.queue exq) m }

/-- The loop of `expiry_tick`. -/
def NrMaps.tickLoop (now : ℕ) : List (Expiring (Mapping Map Origin)) → NrMaps Map Origin Exq →
    NrMaps Map Origin Exq
  | [], s => s
  | e :: rest, s => if e.expiry ≤ now then tickLoop now rest (s.del e.item) else s

/-- `expiry_tick`. -/
def NrMaps.tick (s : NrMaps Map Origin Exq) (exq : Exq) (now : ℕ) : NrMaps Map Origin Exq :=
  s.tickLoop now (s.queue exq)

/-- What is done with the maps. A number may also be drawn for no mapping. -/
inductive NrMapCall (Map Origin Exq : Type)
  | have (map : Map) (origin : Origin) (orig now : ℕ)
  | refresh (m : Mapping Map Origin) (now : ℕ)
  | del (m : Mapping Map Origin)
  | tick (exq : Exq) (now : ℕ)
  | draw

/-- One call. There is no next state where an assertion fails, and none for a pointer to a mapping
that is not there. -/
def NrMaps.step (cfg : NrMapCfg Map Exq) (s : NrMaps Map Origin Exq) :
    NrMapCall Map Origin Exq → Option (NrMaps Map Origin Exq)
  | .have map origin orig now => s.have cfg map origin orig now
  | .refresh m now => if m ∈ s.mappings then s.refresh cfg m now else none
  | .del m => if m ∈ s.mappings then some (s.del m) else none
  | .tick exq now => some (s.tick exq now)
  | .draw => some s.draw

end Operations

/-! ## What the calls keep -/

/-- Two mappings are for one number of one sender in one map. -/
def Mapping.SameKey {Map Origin : Type} (m m' : Mapping Map Origin) : Prop :=
  m.map = m'.map ∧ m.origin = m'.origin ∧ m.orig = m'.orig

instance {Map Origin : Type} : Std.Symm fun m m' : Mapping Map Origin ↦ ¬ m.SameKey m' where
  symm _ _ hnot := fun ⟨hmap, horigin, horig⟩ ↦ hnot ⟨hmap.symm, horigin.symm, horig.symm⟩

instance {Map Origin : Type} : Std.Symm fun m m' : Mapping Map Origin ↦ m.repl ≠ m'.repl where
  symm _ _ hne := hne.symm

/-- The mappings after some calls: the older one has the earlier number, each has the number that
was drawn for it, and no two are for the same. -/
structure NrMaps.Numbered {Map Origin Exq : Type} (pool : NrPool) (s : NrMaps Map Origin Exq) :
    Prop where
  made : s.pool.Made
  nrMin : s.pool.nrMin = pool.nrMin
  nrMax : s.pool.nrMax = pool.nrMax
  nth : ∀ k, s.pool.nth k = pool.nth (s.draws + k)
  repl : ∀ m ∈ s.mappings, m.id < s.draws ∧ m.repl = pool.nth m.id
  ids : s.mappings.Pairwise fun m m' ↦ m.id < m'.id
  keys : s.mappings.Pairwise fun m m' ↦ ¬ m.SameKey m'

section Numbered

variable {Map Origin Exq : Type} [DecidableEq Map] [DecidableEq Origin] [DecidableEq Exq]
  {cfg : NrMapCfg Map Exq} {pool : NrPool} {s s' : NrMaps Map Origin Exq}

omit [DecidableEq Map] [DecidableEq Origin] [DecidableEq Exq] in
theorem NrMaps.numbered_init (hp : pool.Made) :
    (NrMaps.init pool : NrMaps Map Origin Exq).Numbered pool where
  made := hp
  nrMin := rfl
  nrMax := rfl
  nth k := by rw [NrMaps.init, zero_add]
  repl m hm := by simp [NrMaps.init] at hm
  ids := .nil
  keys := .nil

omit [DecidableEq Map] [DecidableEq Origin] [DecidableEq Exq] in
/-- Fewer mappings. -/
theorem NrMaps.Numbered.sublist (hs : s.Numbered pool) (hpool : s'.pool = s.pool)
    (hdraws : s'.draws = s.draws) (hsub : s'.mappings.Sublist s.mappings) : s'.Numbered pool where
  made := hpool ▸ hs.made
  nrMin := by rw [hpool, hs.nrMin]
  nrMax := by rw [hpool, hs.nrMax]
  nth k := by rw [hpool, hdraws, hs.nth]
  repl m hm := by
    rw [hdraws]
    exact hs.repl m (hsub.subset hm)
  ids := hs.ids.sublist hsub
  keys := hs.keys.sublist hsub

omit [DecidableEq Map] [DecidableEq Origin] [DecidableEq Exq] in
theorem NrMaps.Numbered.draw (hs : s.Numbered pool) : s.draw.Numbered pool where
  made := nrPoolNext_made hs.made
  nrMin := hs.nrMin
  nrMax := hs.nrMax
  nth k := by
    simp only [NrMaps.draw]
    rw [nrPoolNext_nth hs.made, hs.nth, add_right_comm, add_assoc]
  repl m hm := ⟨(hs.repl m hm).1.trans (Nat.lt_succ_self _), (hs.repl m hm).2⟩
  ids := hs.ids
  keys := hs.keys

theorem NrMaps.refresh_eq {m : Mapping Map Origin} {now : ℕ}
    (hr : s.refresh cfg m now = some s') :
    s'.pool = s.pool ∧ s'.draws = s.draws ∧ s'.mappings = s.mappings := by
  unfold NrMaps.refresh at hr
  split at hr
  · obtain rfl := Option.some.inj hr
    exact ⟨rfl, rfl, rfl⟩
  · rw [Option.bind_eq_bind, Option.bind_eq_some_iff] at hr
    obtain ⟨items, -, hr⟩ := hr
    obtain rfl := Option.some.inj hr
    exact ⟨rfl, rfl, rfl⟩

theorem NrMaps.Numbered.refresh {m : Mapping Map Origin} {now : ℕ} (hs : s.Numbered pool)
    (hr : s.refresh cfg m now = some s') : s'.Numbered pool := by
  obtain ⟨hpool, hdraws, hmappings⟩ := NrMaps.refresh_eq hr
  exact hs.sublist hpool hdraws (by rw [hmappings])

/-- A new mapping gets the next number of the pool. -/
theorem NrMaps.Numbered.add {map : Map} {origin : Origin} {orig now : ℕ} (hs : s.Numbered pool)
    (hnew : s.get map origin orig = none) (hr : s.add cfg map origin orig now = some s') :
    s'.Numbered pool := by
  refine NrMaps.Numbered.refresh ?_ hr
  have hnext : s.draw.pool.lastNr = pool.nth s.draws := by
    rw [NrMaps.draw, nrPoolNext_lastNr hs.made, hs.nth, add_zero]
  have hd := hs.draw
  refine ⟨hd.made, hd.nrMin, hd.nrMax, hd.nth, fun m hm ↦ ?_, ?_, ?_⟩
  · rcases List.mem_append.mp hm with hm | hm
    · exact hd.repl m hm
    · obtain rfl := List.mem_singleton.mp hm
      exact ⟨Nat.lt_succ_self _, hnext⟩
  · refine List.pairwise_append.mpr ⟨hs.ids, List.pairwise_singleton _ _, fun m hm m' hm' ↦ ?_⟩
    obtain rfl := List.mem_singleton.mp hm'
    exact (hs.repl m hm).1
  · refine List.pairwise_append.mpr ⟨hs.keys, List.pairwise_singleton _ _, fun m hm m' hm' ↦ ?_⟩
    obtain rfl := List.mem_singleton.mp hm'
    simpa [Mapping.SameKey] using List.find?_eq_none.mp hnew m hm

theorem NrMaps.Numbered.del (hs : s.Numbered pool) (m : Mapping Map Origin) :
    (s.del m).Numbered pool := hs.sublist rfl rfl List.erase_sublist

theorem NrMaps.Numbered.tickLoop {now : ℕ} {items : List (Expiring (Mapping Map Origin))}
    (hs : s.Numbered pool) : (s.tickLoop now items).Numbered pool := by
  induction items generalizing s with
  | nil => exact hs
  | cons e items ih =>
    unfold NrMaps.tickLoop
    split
    · exact ih (hs.del e.item)
    · exact hs

/-- Every call keeps it. -/
theorem NrMaps.Numbered.step {call : NrMapCall Map Origin Exq} (hs : s.Numbered pool)
    (hr : s.step cfg call = some s') : s'.Numbered pool := by
  cases call with
  | «have» map origin orig now =>
    simp only [NrMaps.step, NrMaps.have] at hr
    split at hr
    · exact hs.refresh hr
    · next hnew => exact hs.add hnew hr
  | refresh m now =>
    simp only [NrMaps.step] at hr
    split at hr
    · exact hs.refresh hr
    · simp at hr
  | del m =>
    simp only [NrMaps.step] at hr
    split at hr
    · obtain rfl := Option.some.inj hr
      exact hs.del m
    · simp at hr
  | tick exq now =>
    obtain rfl := Option.some.inj hr
    exact hs.tickLoop
  | draw =>
    obtain rfl := Option.some.inj hr
    exact hs.draw

/-! ## Mapping back -/

/-- How many numbers were drawn after that of a mapping. -/
def NrMaps.drawnSince (s : NrMaps Map Origin Exq) (m : Mapping Map Origin) : ℕ :=
  s.draws - (m.id + 1)

/-- Replacements differ and are in a range, there is one mapping for a number of a sender, and a
mapping is found under its number and under its replacement. -/
structure NrMaps.MapsBack (nrMin nrMax : ℕ) (s : NrMaps Map Origin Exq) : Prop where
  distinct : s.mappings.Pairwise fun m m' ↦ m.repl ≠ m'.repl
  range : ∀ m ∈ s.mappings, nrMin ≤ m.repl ∧ m.repl ≤ nrMax
  unique : s.mappings.Pairwise fun m m' ↦ ¬ m.SameKey m'
  get : ∀ m ∈ s.mappings, s.get m.map m.origin m.orig = some m
  getInv : ∀ m ∈ s.mappings, s.getInv m.map m.repl = some m

omit [DecidableEq Map] [DecidableEq Origin] [DecidableEq Exq] in
/-- Within a round, replacements differ. -/
theorem NrMaps.Numbered.distinct (hs : s.Numbered pool)
    (hround : ∀ m ∈ s.mappings, s.drawnSince m < pool.size) :
    s.mappings.Pairwise fun m m' ↦ m.repl ≠ m'.repl := by
  refine hs.ids.imp_of_mem fun {m m'} hm hm' hlt heq ↦ ?_
  obtain ⟨-, hrepl⟩ := hs.repl m hm
  obtain ⟨hdrawn, hrepl'⟩ := hs.repl m' hm'
  rw [hrepl, hrepl'] at heq
  have hsince := hround m hm
  unfold NrMaps.drawnSince at hsince
  have hid := NrPool.nth_injective hlt.le (by omega) heq
  exact hlt.ne hid

/-- An element that is the only one of its kind is found. -/
theorem find?_eq_some_of_unique {α : Type} {l : List α} {p : α → Bool} {a : α} (ha : a ∈ l)
    (hpa : p a = true) (hunique : ∀ b ∈ l, p b = true → b = a) : l.find? p = some a := by
  obtain ⟨b, hb⟩ := Option.isSome_iff_exists.mp (List.find?_isSome.mpr ⟨a, ha, hpa⟩)
  rw [hb, hunique b (List.mem_of_find?_eq_some hb) (List.find?_some hb)]

/-- **Numbers map back for a round.** After any calls on maps that share a pool, if fewer numbers
than the pool has were drawn after that of each mapping that is there, replacements differ and
every mapping is found under both of its numbers. -/
theorem nr_maps_map_back (cfg : NrMapCfg Map Exq) (pool : NrPool) (hp : pool.Made)
    (calls : List (NrMapCall Map Origin Exq)) (s : NrMaps Map Origin Exq)
    (hrun : calls.foldlM (NrMaps.step cfg) (NrMaps.init pool) = some s)
    (hround : ∀ m ∈ s.mappings, s.drawnSince m < pool.nrMax - pool.nrMin + 1) :
    s.MapsBack pool.nrMin pool.nrMax := by
  have hs : s.Numbered pool := List.foldlM_invariant _ (fun _ _ _ hs hr ↦ hs.step hr)
    (NrMaps.numbered_init hp) hrun
  have hdistinct := hs.distinct hround
  refine ⟨hdistinct, fun m hm ↦ ?_, hs.keys, fun m hm ↦ ?_, fun m hm ↦ ?_⟩
  · rw [(hs.repl m hm).2]
    exact NrPool.nth_mem hp m.id
  · refine find?_eq_some_of_unique hm (by simp) fun m' hm' hkey ↦ ?_
    by_contra hne
    exact hs.keys.forall hm' hm hne (by simpa [Mapping.SameKey] using hkey)
  · refine find?_eq_some_of_unique hm (by simp) fun m' hm' hinv ↦ ?_
    have hrepl : m'.repl = m.repl := by
      simp only [decide_eq_true_eq] at hinv
      exact hinv.2
    by_contra hne
    exact hdistinct.forall hm' hm hne hrepl

end Numbered

/-- Two maps with one queue. -/
def exampleNrMaps : NrMapCfg Bool Unit := ⟨fun _ ↦ some (), fun _ ↦ 30⟩

/-- The numbers 5 to 10, where the last one was 8. -/
def examplePool : NrPool := { nrPoolInit 5 10 with lastNr := 8 }

/-- One sender has a number of its own mapped in the first map, and then some in the second. -/
def exampleCalls (n : ℕ) : List (NrMapCall Bool ℕ Unit) :=
  .have false 0x1234 1 0 :: (List.range n).map fun i ↦ .have true 0x1234 (i + 1) i

/-- A whole round is good. -/
theorem exampleCalls_map_back : ∃ s : NrMaps Bool ℕ Unit,
    (exampleCalls 5).foldlM (NrMaps.step exampleNrMaps) (NrMaps.init examplePool) = some s ∧
      s.mappings.map Mapping.repl = [9, 10, 5, 6, 7, 8] ∧ s.MapsBack 5 10 := by
  refine ⟨_, Option.eq_some_of_isSome (by decide), by decide, ?_⟩
  exact nr_maps_map_back exampleNrMaps examplePool ⟨by decide, by decide⟩ (exampleCalls 5) _
    (Option.eq_some_of_isSome (by decide)) (by decide)

/-- As many numbers after a mapping as the pool has are too many: the last is that of the
mapping. -/
theorem replacement_repeats_after_round : ¬ ∀ (cfg : NrMapCfg Bool Unit) (pool : NrPool),
    pool.Made → ∀ (calls : List (NrMapCall Bool ℕ Unit)) (s : NrMaps Bool ℕ Unit),
      calls.foldlM (NrMaps.step cfg) (NrMaps.init pool) = some s →
        (∀ m ∈ s.mappings, s.drawnSince m ≤ pool.nrMax - pool.nrMin + 1) →
          s.MapsBack pool.nrMin pool.nrMax := by
  intro hall
  have hback := hall exampleNrMaps examplePool ⟨by decide, by decide⟩ (exampleCalls 6) _
    (Option.eq_some_of_isSome (by decide)) (by decide)
  have hdistinct : ((((exampleCalls 6).foldlM (NrMaps.step exampleNrMaps)
      (NrMaps.init examplePool)).get (by decide)).mappings.map Mapping.repl).Nodup :=
    List.pairwise_map.mpr hback.distinct
  exact absurd hdistinct (by decide)

end OsmoSgsn.Gtphub
