import Mathlib

/-!
# Expiry queues

A queue of items with the time at which each is to be dropped. All items of one queue live equally
long, so an item that is added, or whose time starts anew, goes to the end and the queue stays
sorted by time; what is due is a first part of it. Adding an item whose time lies before that of
the last other one is an error.

An item stands for an object, so it is in a queue at most once.
-/

/-- An item and the time at which it is dropped. -/
structure Expiring (α : Type*) where
  item : α
  expiry : ℕ
  deriving DecidableEq, Repr

namespace Expiring

variable {α : Type*} [DecidableEq α]

/-- Takes an item out. -/
def remove (q : List (Expiring α)) (x : α) : List (Expiring α) := q.filter (·.item ≠ x)

/-- Adds an item at the end, or moves it there; nothing if the last item is another one and has a
later time. -/
def add (q : List (Expiring α)) (x : α) (expiry : ℕ) : Option (List (Expiring α)) :=
  if ∀ e ∈ q.getLast?, e.item ≠ x → e.expiry ≤ expiry then some (remove q x ++ [⟨x, expiry⟩])
  else none

/-- The items of a queue. -/
def items (q : List (Expiring α)) : List α := q.map item

variable {q q' : List (Expiring α)} {x : α} {e : Expiring α} {expiry bound : ℕ}

theorem mem_remove : e ∈ remove q x ↔ e ∈ q ∧ e.item ≠ x := by simp [remove]

theorem remove_sublist : (remove q x).Sublist q := List.filter_sublist

theorem add_eq_some (hadd : add q x expiry = some q') : q' = remove q x ++ [⟨x, expiry⟩] := by
  unfold add at hadd
  split at hadd
  · exact (Option.some.inj hadd).symm
  · simp at hadd

theorem items_nodup_remove (hq : (items q).Nodup) : (items (remove q x)).Nodup :=
  hq.sublist (remove_sublist.map item)

theorem items_nodup_add (hq : (items q).Nodup) (hadd : add q x expiry = some q') :
    (items q').Nodup := by
  rw [add_eq_some hadd, items, List.map_append]
  refine List.Nodup.append (items_nodup_remove hq) (List.nodup_singleton x) ?_
  rw [List.map_singleton, List.disjoint_singleton]
  intro hx
  obtain ⟨e, he, heq⟩ := List.mem_map.mp hx
  exact (mem_remove.mp he).2 heq

/-- What is in a queue after an item was added. -/
theorem mem_add (hadd : add q x expiry = some q') (he : e ∈ q') :
    e = ⟨x, expiry⟩ ∨ (e ∈ q ∧ e.item ≠ x) := by
  rw [add_eq_some hadd, List.mem_append, List.mem_singleton] at he
  exact he.symm.imp_right mem_remove.mp

theorem mem_add_of_ne (hadd : add q x expiry = some q') (he : e ∈ q) (hne : e.item ≠ x) :
    e ∈ q' := by
  rw [add_eq_some hadd]
  exact List.mem_append_left _ (mem_remove.mpr ⟨he, hne⟩)

/-! ## Order -/

/-- A queue in which each item is once, earlier ones first, and none later than a time. -/
structure Ordered (q : List (Expiring α)) (bound : ℕ) : Prop where
  sorted : q.Pairwise fun e e' ↦ e.expiry ≤ e'.expiry
  nodup : (items q).Nodup
  le : ∀ e ∈ q, e.expiry ≤ bound

omit [DecidableEq α] in
theorem Ordered.nil (bound : ℕ) : Ordered ([] : List (Expiring α)) bound := ⟨.nil, .nil, by simp⟩

omit [DecidableEq α] in
theorem Ordered.mono (hq : Ordered q bound) (hle : bound ≤ expiry) : Ordered q expiry :=
  ⟨hq.sorted, hq.nodup, fun e he ↦ (hq.le e he).trans hle⟩

omit [DecidableEq α] in
theorem Ordered.sublist (hq : Ordered q bound) (hsub : q'.Sublist q) : Ordered q' bound :=
  ⟨hq.sorted.sublist hsub, hq.nodup.sublist (hsub.map item), fun e he ↦ hq.le e (hsub.subset he)⟩

/-- An item can be added with a time that no other one exceeds. -/
theorem Ordered.add_isSome (hq : Ordered q bound) (hle : bound ≤ expiry) (x : α) :
    (add q x expiry).isSome = true := by
  unfold add
  rw [if_pos]
  · rfl
  · exact fun e he _ ↦ (hq.le e (List.mem_of_getLast? he)).trans hle

theorem Ordered.add (hq : Ordered q bound) (hle : bound ≤ expiry)
    (hadd : add q x expiry = some q') :
    Ordered q' expiry := by
  refine ⟨?_, items_nodup_add hq.nodup hadd, fun e he ↦ ?_⟩
  · rw [add_eq_some hadd]
    refine List.pairwise_append.mpr
      ⟨hq.sorted.sublist remove_sublist, List.pairwise_singleton _ _, fun e he e' he' ↦ ?_⟩
    obtain rfl := List.mem_singleton.mp he'
    exact (hq.le e (mem_remove.mp he).1).trans hle
  · rcases mem_add hadd he with rfl | ⟨he, -⟩
    · exact le_refl _
    · exact (hq.le e he).trans hle

omit [DecidableEq α] in
/-- What is due is a first part of the queue. -/
theorem Ordered.takeWhile_eq_filter (hq : Ordered q bound) (now : ℕ) :
    q.takeWhile (·.expiry ≤ now) = q.filter (·.expiry ≤ now) := by
  have hsorted := hq.sorted
  clear hq
  induction q with
  | nil => rfl
  | cons e q ih =>
    obtain ⟨hhead, htail⟩ := List.pairwise_cons.mp hsorted
    by_cases hdue : e.expiry ≤ now
    · simp [hdue, ih htail]
    · have hlater : ∀ e' ∈ q, now < e'.expiry := fun e' he' ↦
        (not_le.mp hdue).trans_le (hhead e' he')
      simpa [hdue] using hlater

/-- What is left when everything that is due has been taken out. -/
theorem filter_notMem_due (hq : (items q).Nodup) (now : ℕ) :
    q.filter (·.item ∉ items (q.filter (·.expiry ≤ now))) = q.filter (now < ·.expiry) := by
  refine List.filter_congr fun e he ↦ ?_
  rw [Bool.eq_iff_iff]
  simp only [decide_eq_true_eq, items, List.mem_map, List.mem_filter, not_exists, not_and, and_imp]
  constructor
  · intro hnot
    by_contra hdue
    exact hnot e he (not_lt.mp hdue) rfl
  · intro hlater e' he' hdue heq
    have hsame : e' = e := List.inj_on_of_nodup_map hq he' he heq
    rw [hsame] at hdue
    exact absurd hdue (not_le.mpr hlater)

/-- Items that are taken out one by one. -/
theorem foldl_remove (l : List α) (q : List (Expiring α)) :
    l.foldl remove q = q.filter (·.item ∉ l) := by
  induction l generalizing q with
  | nil => simp
  | cons x l ih =>
    rw [List.foldl_cons, ih, remove, List.filter_filter]
    refine List.filter_congr fun e _ ↦ ?_
    rw [Bool.eq_iff_iff]
    simp only [List.mem_cons, not_or, Bool.and_eq_true, decide_eq_true_eq]
    exact and_comm

end Expiring
