import Mathlib

/-!
# Words as sets of numbers

A word in which bit `i` stands for the number `i`: numbers are entered one after the other with
`mask ||| 1 <<< i`, and looked up by their bit.
-/

namespace BitVec

variable {w : ℕ}

theorem getLsbD_one_shiftLeft (j : ℕ) {i : ℕ} (hi : i < w) :
    (1#w <<< j).getLsbD i = decide (i = j) := by
  rw [BitVec.getLsbD_shiftLeft, BitVec.getLsbD_one]
  by_cases h : i = j
  · have hw : 0 < w := by omega
    simp [← h, hi, hw]
  · rcases Nat.lt_or_gt_of_ne h with hlt | hgt
    · simp [h, hlt]
    · have hne : ¬ i - j = 0 := by omega
      simp [h, hne]

/-- **Membership.** The numbers of a word are those that it had and those that are entered. -/
theorem getLsbD_foldl_or (l : List ℕ) (mask : BitVec w) {i : ℕ} (hi : i < w) :
    (l.foldl (fun mask j ↦ mask ||| (1#w <<< j)) mask).getLsbD i =
      (mask.getLsbD i || decide (i ∈ l)) := by
  induction l generalizing mask with
  | nil => simp
  | cons j l ih =>
    rw [List.foldl_cons, ih, BitVec.getLsbD_or, getLsbD_one_shiftLeft j hi]
    simp [Bool.or_assoc]

end BitVec
