import Mathlib

/-!
# Rings in order of use

Slots are linked in a circle. One of them is the oldest, the one that was not used for longest; the
links lead from it to the one that was used last, and from there through the others back to it.
`LinkedRing next oldest xs` says that the others are `xs`, in this order.

The oldest slot is used again by making the one before it the oldest, and no link changes. A slot
from between two others is moved to the front by writing three links.
-/

/-- The links lead from the oldest slot through the others back to it. -/
structure LinkedRing (next : ℕ → ℕ) (oldest : ℕ) (xs : List ℕ) : Prop where
  linked : (oldest :: (xs ++ [oldest])).IsChain fun a b ↦ next a = b
  nodup : (oldest :: xs).Nodup

namespace LinkedRing

variable {next : ℕ → ℕ} {oldest p x : ℕ} {xs l r : List ℕ}

/-- The links out of the slots of a list may be replaced by others that are the same. -/
theorem isChain_congr {next' : ℕ → ℕ} {ys : List ℕ} (h : ys.IsChain fun a b ↦ next a = b)
    (hsame : ∀ a ∈ ys.dropLast, next' a = next a) : ys.IsChain fun a b ↦ next' a = b := by
  induction ys with
  | nil => exact .nil
  | cons a ys ih =>
    cases ys with
    | nil => exact .singleton a
    | cons b ys =>
      obtain ⟨hab, hrest⟩ := List.isChain_cons_cons.mp h
      refine List.isChain_cons_cons.mpr ⟨?_, ih hrest fun c hc ↦ hsame c ?_⟩
      · rw [hsame a (by simp), hab]
      · exact List.mem_cons_of_mem a hc

/-- From the oldest slot the links lead to the one that was used last. -/
theorem next_oldest (h : LinkedRing next oldest xs) :
    next oldest = (xs ++ [oldest]).head (by simp) := by
  cases xs with
  | nil => exact (List.isChain_cons_cons.mp h.linked).1
  | cons y ys => exact (List.isChain_cons_cons.mp h.linked).1

/-- From a slot the links lead to the one behind it. -/
theorem next_of_append (h : LinkedRing next oldest (l ++ x :: r)) :
    next x = (r ++ [oldest]).head (by simp) := by
  have hlinked := h.linked
  rw [List.append_assoc, List.cons_append, ← List.cons_append] at hlinked
  have hx := (List.isChain_split.mp hlinked).2
  cases r with
  | nil => exact (List.isChain_cons_cons.mp hx).1
  | cons y ys => exact (List.isChain_cons_cons.mp hx).1

/-- The oldest slot is used again, and the one before it is the oldest now. -/
theorem reuse (h : LinkedRing next oldest (l ++ [p])) : LinkedRing next p (oldest :: l) where
  linked := by
    have hlinked := h.linked
    rw [List.append_assoc, List.cons_append, List.nil_append, ← List.cons_append] at hlinked
    obtain ⟨hleft, hright⟩ := List.isChain_split.mp hlinked
    refine List.isChain_cons_cons.mpr ⟨(List.isChain_cons_cons.mp hright).1, ?_⟩
    exact hleft
  nodup := by
    have hperm : List.Perm (p :: (oldest :: l)) (oldest :: (l ++ [p])) :=
      (List.perm_append_singleton p (oldest :: l)).symm
    exact hperm.nodup_iff.mpr h.nodup

/-- The links after a slot was moved to the front from behind another one. -/
def moved (next : ℕ → ℕ) (oldest p x : ℕ) : ℕ → ℕ :=
  Function.update (Function.update (Function.update next p (next x)) x (next oldest)) oldest x

theorem moved_of_ne {a : ℕ} (hp : a ≠ p) (hx : a ≠ x) (ha : a ≠ oldest) :
    moved next oldest p x a = next a := by
  rw [moved, Function.update_of_ne ha, Function.update_of_ne hx, Function.update_of_ne hp]

/-- A slot is moved to the front. -/
theorem moveToFront (h : LinkedRing next oldest (l ++ p :: x :: r)) :
    LinkedRing (moved next oldest p x) oldest (x :: (l ++ p :: r)) where
  linked := by
    have hnodup := h.nodup
    have hlinked := h.linked
    rw [List.append_assoc, List.cons_append, List.cons_append] at hlinked
    obtain ⟨hfirst, hlinked⟩ := List.isChain_cons.mp hlinked
    obtain ⟨hl, -, hrest⟩ := List.isChain_append_cons_cons.mp hlinked
    obtain ⟨hbehind, hr⟩ := List.isChain_cons.mp hrest
    simp only [List.nodup_cons, List.nodup_append, List.mem_append, List.mem_cons, not_or]
      at hnodup
    -- the links of the slots that stay where they are
    have hl' : (l ++ [p]).IsChain fun a b ↦ moved next oldest p x a = b := by
      refine isChain_congr hl fun a ha ↦ ?_
      rw [List.dropLast_concat] at ha
      exact moved_of_ne (by grind) (by grind) (by grind)
    have hr' : (r ++ [oldest]).IsChain fun a b ↦ moved next oldest p x a = b := by
      refine isChain_congr hr fun a ha ↦ ?_
      rw [List.dropLast_concat] at ha
      exact moved_of_ne (by grind) (by grind) (by grind)
    have hbefore : moved next oldest p x p = next x := by
      rw [moved, Function.update_of_ne (by grind), Function.update_of_ne (by grind),
        Function.update_self]
    have hfront : moved next oldest p x x = next oldest := by
      rw [moved, Function.update_of_ne (by grind), Function.update_self]
    rw [List.cons_append, List.append_assoc, List.cons_append, List.append_cons l p]
    refine List.isChain_cons_cons.mpr ⟨Function.update_self .., List.isChain_cons.mpr ⟨?_, ?_⟩⟩
    · intro y hy
      rw [hfront]
      refine hfirst y ?_
      cases l with
      | nil => exact hy
      | cons z l => exact hy
    · refine hl'.append hr' fun a ha y hy ↦ ?_
      obtain rfl : p = a := by simpa using ha
      rw [hbefore]
      exact hbehind y hy
  nodup := by
    have hperm : List.Perm (x :: (l ++ p :: r)) (l ++ p :: x :: r) := by
      rw [List.append_cons l p r, List.append_cons l p (x :: r)]
      exact List.perm_middle.symm
    exact (hperm.cons oldest).nodup_iff.mpr h.nodup

end LinkedRing
