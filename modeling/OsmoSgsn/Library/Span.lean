import Mathlib

/-!
# Ranges of positions

A span is a start and a length. It is inside of what has `n` positions if each of its positions is;
an empty one is, wherever it starts. Spans tile a stretch if each begins where the one before it
ends.
-/

/-- Positions that follow one another. -/
structure Span where
  start : ℕ
  len : ℕ
  deriving DecidableEq, Repr

namespace Span

variable {s : Span} {n : ℕ}

/-- The position behind the last one. -/
def stop (s : Span) : ℕ := s.start + s.len

/-- A position of a span. -/
def Has (s : Span) (i : ℕ) : Prop := s.start ≤ i ∧ i < s.stop

/-- All positions are in front of an end. -/
def Inside (s : Span) (n : ℕ) : Prop := ∀ i, s.Has i → i < n

theorem inside_iff : s.Inside n ↔ s.len = 0 ∨ s.stop ≤ n := by
  unfold Inside Has stop
  constructor
  · intro h
    rcases Nat.eq_zero_or_pos s.len with hzero | hpos
    · exact .inl hzero
    · have := h (s.start + s.len - 1) (by omega)
      omega
  · intro h i hi
    omega

instance (s : Span) (n : ℕ) : Decidable (s.Inside n) := decidable_of_iff _ inside_iff.symm

theorem inside_of_stop_le (h : s.stop ≤ n) : s.Inside n := inside_iff.mpr (.inr h)

/-! ## Spans that follow one another -/

/-- The spans of a list follow one another from `a` to `b`, without gap or overlap. -/
def Tiles (a : ℕ) : List Span → ℕ → Prop
  | [], b => a = b
  | s :: l, b => s.start = a ∧ Tiles s.stop l b

variable {a b : ℕ} {l : List Span}

theorem Tiles.le (h : Tiles a l b) : a ≤ b := by
  induction l generalizing a with
  | nil => exact h.le
  | cons s l ih =>
    have hstop : s.stop ≤ b := ih h.2
    have hstart : s.start = a := h.1
    unfold stop at hstop
    omega

theorem Tiles.append {m : ℕ} {l' : List Span} (h : Tiles a l m) (h' : Tiles m l' b) :
    Tiles a (l ++ l') b := by
  induction l generalizing a with
  | nil =>
    obtain rfl : a = m := h
    exact h'
  | cons s l ih => exact ⟨h.1, ih h.2⟩

/-- They have all positions of the stretch, and no others. -/
theorem Tiles.exists_has_iff (h : Tiles a l b) {i : ℕ} : (∃ s ∈ l, s.Has i) ↔ a ≤ i ∧ i < b := by
  induction l generalizing a with
  | nil =>
    have hab : a = b := h
    simp only [List.not_mem_nil, false_and, exists_false, false_iff]
    omega
  | cons s l ih =>
    have hstart : s.start = a := h.1
    have hle : s.stop ≤ b := h.2.le
    rw [List.exists_mem_cons_iff, ih h.2]
    unfold Has
    unfold stop at *
    omega

/-- No position is in two of them. -/
theorem Tiles.pairwise (h : Tiles a l b) :
    l.Pairwise fun s t ↦ ∀ i, ¬ (s.Has i ∧ t.Has i) := by
  induction l generalizing a with
  | nil => exact List.Pairwise.nil
  | cons s l ih =>
    refine List.Pairwise.cons ?_ (ih h.2)
    intro t ht i hi
    have hbehind : s.stop ≤ i := (h.2.exists_has_iff.1 ⟨t, ht, hi.2⟩).1
    exact absurd hi.1.2 (Nat.not_lt.2 hbehind)

/-- None of them goes past the end. -/
theorem Tiles.stop_le (h : Tiles a l b) {s : Span} (hs : s ∈ l) : s.stop ≤ b := by
  induction l generalizing a with
  | nil => exact (List.not_mem_nil hs).elim
  | cons t l ih =>
    rcases List.mem_cons.mp hs with rfl | hs
    · exact h.2.le
    · exact ih h.2 hs

end Span
