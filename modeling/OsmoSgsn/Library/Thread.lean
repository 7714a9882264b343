import Mathlib

/-!
# Lists threaded through a table

The entries of a table are linked into lists by the number of the next entry. Zero is the number of
no entry and ends a list. `Threads next e xs` says that the list that starts with `e` is `xs`.

An entry is put in front of a list by writing its own link. It is taken out by writing the link of
the entry before it, or nothing but the start of the list if it is the first.
-/

/-- The entries of a list, from its first one. -/
def Threads (next : ℕ → ℕ) : ℕ → List ℕ → Prop
  | e, [] => e = 0
  | e, x :: xs => e = x ∧ x ≠ 0 ∧ Threads next (next x) xs

namespace Threads

variable {next next' : ℕ → ℕ} {e p x : ℕ} {xs l r : List ℕ}

@[simp] theorem nil_iff : Threads next e [] ↔ e = 0 := Iff.rfl

@[simp] theorem cons_iff : Threads next e (x :: xs) ↔ e = x ∧ x ≠ 0 ∧ Threads next (next x) xs :=
  Iff.rfl

/-- Only the links of its own entries matter for a list. -/
theorem congr (h : Threads next e xs) (hsame : ∀ x ∈ xs, next' x = next x) :
    Threads next' e xs := by
  induction xs generalizing e with
  | nil => exact h
  | cons x xs ih =>
    obtain ⟨rfl, h0, hrest⟩ := h
    refine ⟨rfl, h0, ?_⟩
    rw [hsame e List.mem_cons_self]
    exact ih hrest fun y hy ↦ hsame y (List.mem_cons_of_mem _ hy)

/-- An entry is put in front. -/
theorem insert (h : Threads next e xs) (hx : x ≠ 0) (hmem : x ∉ xs) :
    Threads (Function.update next x e) x (x :: xs) := by
  refine ⟨rfl, hx, ?_⟩
  rw [Function.update_self]
  exact h.congr fun y hy ↦ Function.update_of_ne (ne_of_mem_of_not_mem hy hmem) e next

/-- The first entry is left out. -/
theorem tail (h : Threads next e (x :: xs)) : Threads next (next x) xs := h.2.2

theorem ne_zero (h : Threads next e xs) (hx : x ∈ xs) : x ≠ 0 := by
  induction xs generalizing e with
  | nil => exact absurd hx List.not_mem_nil
  | cons y ys ih =>
    obtain ⟨-, h0, hrest⟩ := h
    rcases List.mem_cons.mp hx with rfl | hx
    · exact h0
    · exact ih hrest hx

/-- An entry is taken out by the link of the one before it. -/
theorem unlink (h : Threads next e (l ++ p :: x :: r)) (hnodup : (l ++ p :: x :: r).Nodup) :
    Threads (Function.update next p (next x)) e (l ++ p :: r) := by
  induction l generalizing e with
  | nil =>
    obtain ⟨rfl, hp, -, -, hrest⟩ := h
    refine ⟨rfl, hp, ?_⟩
    rw [Function.update_self]
    refine hrest.congr fun y hy ↦ Function.update_of_ne ?_ _ next
    rintro rfl
    exact (List.nodup_cons.mp hnodup).1 (List.mem_cons_of_mem x hy)
  | cons y l ih =>
    obtain ⟨rfl, hy, hrest⟩ := h
    obtain ⟨hmem, hnodup⟩ := List.nodup_cons.mp hnodup
    refine ⟨rfl, hy, ?_⟩
    rw [Function.update_of_ne (by rintro rfl; exact hmem (by simp))]
    exact ih hrest hnodup

/-- A list is determined by its first entry. -/
theorem unique {ys : List ℕ} (h : Threads next e xs) (h' : Threads next e ys) : xs = ys := by
  induction xs generalizing e ys with
  | nil =>
    cases ys with
    | nil => rfl
    | cons y ys => exact absurd (h'.1.symm.trans h) h'.2.1
  | cons x xs ih =>
    obtain ⟨rfl, h0, hrest⟩ := h
    cases ys with
    | nil => exact absurd h' h0
    | cons y ys =>
      obtain ⟨rfl, -, hrest'⟩ := h'
      rw [ih hrest hrest']

/-- An entry that is not the first one has one before it. -/
theorem exists_before (h : Threads next e xs) (hx : x ∈ xs) (hfirst : e ≠ x) :
    ∃ l p r, xs = l ++ p :: x :: r := by
  induction xs generalizing e with
  | nil => exact absurd hx List.not_mem_nil
  | cons y ys ih =>
    obtain ⟨rfl, -, hrest⟩ := h
    have hmem := (List.mem_cons.mp hx).resolve_left (Ne.symm hfirst)
    by_cases hnext : next e = x
    · cases ys with
      | nil => exact absurd hmem List.not_mem_nil
      | cons z zs =>
        obtain rfl : z = x := hrest.1.symm.trans hnext
        exact ⟨[], e, zs, rfl⟩
    · obtain ⟨l, p, r, rfl⟩ := ih hrest hmem hnext
      exact ⟨e :: l, p, r, rfl⟩

end Threads
