import Mathlib.Algebra.CharP.Two
import Mathlib.Algebra.Polynomial.Div
import Mathlib.Data.BitVec
import Mathlib.Data.List.GetD
import Mathlib.Data.ZMod.Basic
import Mathlib.Tactic

/-!
# Bit-serial remainders

A cyclic redundancy check is the remainder of a message by a generator, computed one bit after
another in a register. Here bits go through the register from its high end to its low end: a bit of
the message is added to the bit that leaves, and where the sum is set the generator is taken from
what stays.

Everything rests on two facts about a shift of the register. It is linear, so that two messages are
told apart by the remainder of their difference; and where the high bit of the generator is set it
loses nothing, so that a difference that has once got into the register stays there. A burst that
is no longer than the register gets into it as it is.

What the register holds is the remainder of a division of polynomials over the field of two
elements, the polynomial of the message by that of the generator.
-/

namespace Crc

variable {w : ℕ} {G : BitVec w}

/-! ## The register -/

/-- The bit at the low end leaves the register. -/
def shift (G r : BitVec w) : BitVec w := if r.getLsbD 0 then r >>> 1 ^^^ G else r >>> 1

/-- One bit, at the low end of a register. -/
def low (b : Bool) : BitVec w := (BitVec.ofBool b).setWidth w

/-- A bit of the message is added to the one that leaves. -/
def feed (G r : BitVec w) (b : Bool) : BitVec w := shift G (r ^^^ low b)

/-- The register after a message. -/
def remainder (G r : BitVec w) (bits : List Bool) : BitVec w := bits.foldl (feed G) r

@[simp] theorem remainder_nil (r : BitVec w) : remainder G r [] = r := rfl

@[simp] theorem remainder_cons (r : BitVec w) (b : Bool) (bits : List Bool) :
    remainder G r (b :: bits) = remainder G (feed G r b) bits := rfl

theorem remainder_append (r : BitVec w) (as bs : List Bool) :
    remainder G r (as ++ bs) = remainder G (remainder G r as) bs := List.foldl_append

theorem getLsbD_low (b : Bool) (i : ℕ) :
    (low b : BitVec w).getLsbD i = (decide (i < w) && (decide (i = 0) && b)) := by
  cases i <;> simp [low, BitVec.getLsbD_setWidth]

@[simp] theorem low_false : (low false : BitVec w) = 0 :=
  BitVec.eq_of_getLsbD_eq fun i _ ↦ by simp [getLsbD_low]

theorem feed_false (r : BitVec w) : feed G r false = shift G r := by simp [feed]

theorem low_xor (a b : Bool) : (low (a ^^ b) : BitVec w) = low a ^^^ low b :=
  BitVec.eq_of_getLsbD_eq fun i _ ↦ by
    simp only [getLsbD_low, BitVec.getLsbD_xor]
    cases decide (i < w) <;> cases decide (i = 0) <;> simp

/-! ## Linearity -/

theorem shift_zero : shift G 0 = 0 := by simp [shift]

theorem shift_xor (r r' : BitVec w) : shift G (r ^^^ r') = shift G r ^^^ shift G r' := by
  apply BitVec.eq_of_getLsbD_eq
  intro i _
  unfold shift
  -- which of the two get the generator is said by their low bits
  cases hr : r.getLsbD 0 <;> cases hr' : r'.getLsbD 0 <;>
    simp only [hr, hr', BitVec.getLsbD_xor, Bool.false_xor, Bool.true_xor, Bool.not_true,
      Bool.not_false, Bool.false_eq_true, if_true, if_false, BitVec.getLsbD_ushiftRight] <;>
    cases r.getLsbD (1 + i) <;> cases r'.getLsbD (1 + i) <;> cases G.getLsbD i <;> rfl

theorem iterate_shift_xor (n : ℕ) (r r' : BitVec w) :
    (shift G)^[n] (r ^^^ r') = (shift G)^[n] r ^^^ (shift G)^[n] r' := by
  induction n generalizing r r' with
  | zero => rfl
  | succ n ih => rw [Function.iterate_succ_apply, shift_xor, ih]; rfl

/-- Zeros leave a register without a trace. -/
theorem iterate_shift_of_clear {n : ℕ} {r : BitVec w} (h : ∀ i < n, r.getLsbD i = false) :
    (shift G)^[n] r = r >>> n := by
  induction n with
  | zero => simp
  | succ n ih =>
    have hlow : (r >>> n).getLsbD 0 = false := by simpa using h n n.lt_succ_self
    rw [Function.iterate_succ_apply', ih fun i hi ↦ h i (Nat.lt_succ_of_lt hi), shift, hlow,
      BitVec.shiftRight_add]
    rfl

theorem feed_xor (r r' : BitVec w) (a b : Bool) :
    feed G (r ^^^ r') (a ^^ b) = feed G r a ^^^ feed G r' b := by
  rw [feed, feed, feed, ← shift_xor, low_xor]
  congr 1
  ac_rfl

/-- What two messages leave differs by what their difference leaves. -/
theorem remainder_xor {as bs : List Bool} (hlen : as.length = bs.length) (r r' : BitVec w) :
    remainder G (r ^^^ r') (List.zipWith (· ^^ ·) as bs) =
      remainder G r as ^^^ remainder G r' bs := by
  induction as generalizing bs r r' with
  | nil =>
    rw [List.length_nil, eq_comm, List.length_eq_zero_iff] at hlen
    rw [hlen]
    rfl
  | cons a as ih =>
    obtain _ | ⟨b, bs⟩ := bs
    · simp at hlen
    · rw [List.zipWith_cons_cons, remainder_cons, feed_xor, ih (by simpa using hlen)]
      rfl

/-! ## Nothing is lost -/

/-- The bit that has left a register can be read from its high end, where only the generator puts
one. -/
theorem shift_injective (hG : G.msb = true) : Function.Injective (shift G) := by
  have hmsb (r : BitVec w) : (shift G r).msb = r.getLsbD 0 := by
    have hr : (r >>> 1).msb = false := by simp [BitVec.msb_ushiftRight]
    unfold shift
    split
    · rename_i h
      rw [BitVec.msb_xor, hr, hG, h]
      rfl
    · rename_i h
      rw [hr]
      simpa using h
  intro r r' h
  have h0 : r.getLsbD 0 = r'.getLsbD 0 := by rw [← hmsb, ← hmsb, h]
  have hshift : r >>> 1 = r' >>> 1 := by
    simp only [shift, h0] at h
    split at h
    · exact (BitVec.xor_right_inj G).mp (by simpa [BitVec.xor_comm] using h)
    · exact h
  apply BitVec.eq_of_getLsbD_eq
  intro i _
  cases i with
  | zero => exact h0
  | succ i =>
    have hi := congrArg (·.getLsbD i) hshift
    simpa [BitVec.getLsbD_ushiftRight, Nat.add_comm] using hi

theorem shift_eq_zero (hG : G.msb = true) {r : BitVec w} : shift G r = 0 ↔ r = 0 :=
  ⟨fun h ↦ shift_injective hG (h.trans shift_zero.symm), fun h ↦ by rw [h, shift_zero]⟩

theorem iterate_shift_eq_zero (hG : G.msb = true) (n : ℕ) {r : BitVec w} :
    (shift G)^[n] r = 0 ↔ r = 0 := by
  induction n with
  | zero => rfl
  | succ n ih => rw [Function.iterate_succ_apply', shift_eq_zero hG, ih]

theorem remainder_ne_zero (hG : G.msb = true) {r : BitVec w} (hr : r ≠ 0) (n : ℕ) :
    remainder G r (List.replicate n false) ≠ 0 := by
  induction n generalizing r with
  | zero => exact hr
  | succ n ih =>
    refine ih ?_
    rw [feed_false]
    exact mt (shift_eq_zero hG).mp hr

theorem remainder_zero (n : ℕ) : remainder G 0 (List.replicate n false) = 0 := by
  induction n with
  | zero => rfl
  | succ n ih =>
    rw [List.replicate_succ, remainder_cons, feed_false, shift_zero, ih]

/-! ## A burst -/

/-- The bits of a message in a register, the first at the low end. -/
def pack : List Bool → BitVec w
  | [] => 0
  | b :: bits => low b ^^^ pack bits <<< 1

theorem getLsbD_pack (bits : List Bool) (i : ℕ) :
    (pack bits : BitVec w).getLsbD i = (decide (i < w) && bits.getD i false) := by
  induction bits generalizing i with
  | nil => simp [pack]
  | cons b bits ih =>
    rw [pack, BitVec.getLsbD_xor, getLsbD_low, BitVec.getLsbD_shiftLeft, ih]
    cases i with
    | zero => simp
    | succ i =>
      have hlt : decide (i + 1 < w) = (decide (i + 1 < w) && decide (i < w)) := by
        by_cases h : i + 1 < w <;> simp [h]; omega
      rw [List.getD_cons_succ]
      simp only [Nat.add_one_ne_zero, decide_false, Bool.false_and, Bool.and_false, Bool.false_xor,
        Nat.add_sub_cancel, Nat.lt_one_iff, Bool.not_false, Bool.and_true]
      rw [hlt]
      cases decide (i + 1 < w) <;> simp

/-- A message no longer than the register may be put into it at once. -/
theorem remainder_eq_iterate {bits : List Bool} (hlen : bits.length ≤ w) (r : BitVec w) :
    remainder G r bits = (shift G)^[bits.length] (r ^^^ pack bits) := by
  induction bits generalizing r with
  | nil => simp [pack]
  | cons b bits ih =>
    have hlow : (pack bits <<< 1 : BitVec w).getLsbD 0 = false := by simp
    have hback : (pack bits <<< 1 : BitVec w) >>> 1 = pack bits := by
      apply BitVec.eq_of_getLsbD_eq
      intro i hi
      rw [BitVec.getLsbD_ushiftRight, BitVec.getLsbD_shiftLeft, getLsbD_pack, getLsbD_pack]
      by_cases hw : 1 + i < w
      · simp [hw, hi]
      · have hout : bits.length ≤ i := by
          rw [List.length_cons] at hlen
          omega
        simp [hw, List.getElem?_eq_none hout]
    -- the bits that are still to come only move on
    have hpack : shift G (pack bits <<< 1) = pack bits := by
      rw [shift, hlow, hback]
      rfl
    rw [remainder_cons, ih (Nat.le_of_succ_le hlen), List.length_cons, Function.iterate_succ_apply,
      pack, ← BitVec.xor_assoc, shift_xor, hpack]
    rfl

/-- **A burst is detected**: a message of zeros apart from a stretch no longer than the register
leaves something. -/
theorem remainder_burst_ne_zero (hG : G.msb = true) {burst : List Bool} (hlen : burst.length ≤ w)
    (hb : true ∈ burst) (before after : ℕ) :
    remainder G 0 (List.replicate before false ++ burst ++ List.replicate after false) ≠ 0 := by
  rw [remainder_append, remainder_append, remainder_zero]
  refine remainder_ne_zero hG ?_ after
  rw [remainder_eq_iterate hlen, Ne, iterate_shift_eq_zero hG]
  intro hzero
  obtain ⟨i, hi, hbit⟩ := List.mem_iff_getElem.mp hb
  have hpack := getLsbD_pack (w := w) burst i
  rw [show pack burst = (0 : BitVec w) by simpa using hzero] at hpack
  simp [hi, hbit, Nat.lt_of_lt_of_le hi hlen] at hpack

theorem getD_zipWith_xor {as bs : List Bool} (hlen : as.length = bs.length) (i : ℕ) :
    (List.zipWith (· ^^ ·) as bs).getD i false = (as.getD i false ^^ bs.getD i false) := by
  induction as generalizing bs i with
  | nil =>
    rw [List.length_nil, eq_comm, List.length_eq_zero_iff] at hlen
    rw [hlen]
    rfl
  | cons a as ih =>
    obtain _ | ⟨b, bs⟩ := bs
    · simp at hlen
    · cases i with
      | zero => rfl
      | succ i => simpa using ih (by simpa using hlen) i

/-- A message with no bit set outside a stretch. -/
theorem eq_burst {bits : List Bool} {start len : ℕ}
    (h : ∀ i, bits.getD i false = true → start ≤ i ∧ i < start + len) :
    bits = List.replicate (bits.take start).length false ++ (bits.drop start).take len ++
      List.replicate ((bits.drop start).drop len).length false := by
  have hclear (l : List Bool) (hl : ∀ i, l.getD i false = false) :
      l = List.replicate l.length false := by
    refine List.eq_replicate_iff.mpr ⟨rfl, fun b hb ↦ ?_⟩
    obtain ⟨i, hi, rfl⟩ := List.mem_iff_getElem.mp hb
    rw [← hl i, List.getD_eq_getElem _ _ hi]
  have hbefore : bits.take start = List.replicate (bits.take start).length false := by
    refine hclear _ fun i ↦ ?_
    by_cases hi : i < start
    · have hbit : bits.getD i false = false := by
        by_contra hset
        have := (h i (by simpa using hset)).1
        omega
      simpa [hi] using hbit
    · simp [hi]
  have hafter : (bits.drop start).drop len =
      List.replicate ((bits.drop start).drop len).length false := by
    refine hclear _ fun i ↦ ?_
    have hbit : bits.getD (start + len + i) false = false := by
      by_contra hset
      have := (h _ (by simpa using hset)).2
      omega
    simpa [Nat.add_assoc] using hbit
  rw [← hbefore, ← hafter, List.append_assoc, List.take_append_drop, List.take_append_drop]

/-- **Messages of one length that differ in a burst only leave different remainders.** -/
theorem remainder_ne_of_burst (hG : G.msb = true) {as bs : List Bool}
    (hlen : as.length = bs.length) (hne : as ≠ bs) {start : ℕ}
    (hburst : ∀ i, as.getD i false ≠ bs.getD i false → start ≤ i ∧ i < start + w) (r : BitVec w) :
    remainder G r as ≠ remainder G r bs := by
  have hdiff (i : ℕ) : (List.zipWith (· ^^ ·) as bs).getD i false = true ↔
      as.getD i false ≠ bs.getD i false := by
    rw [getD_zipWith_xor hlen]
    cases as.getD i false <;> cases bs.getD i false <;> simp
  have hsplit := eq_burst fun i hi ↦ hburst i ((hdiff i).mp hi)
  have hset : true ∈ ((List.zipWith (· ^^ ·) as bs).drop start).take w := by
    by_contra hnone
    refine hne (List.ext_getElem hlen fun i hi hi' ↦ ?_)
    by_contra hbit
    have hat : as.getD i false ≠ bs.getD i false := by
      rwa [List.getD_eq_getElem _ _ hi, List.getD_eq_getElem _ _ hi']
    obtain ⟨hle, hlt⟩ := hburst i hat
    -- so the difference has a bit in the stretch
    refine hnone (List.mem_iff_getElem.mpr ⟨i - start, ?_, ?_⟩)
    · simp
      omega
    · have := (hdiff i).mpr hat
      rw [List.getD_eq_getElem _ _ (by simp; omega)] at this
      simpa [Nat.add_sub_cancel' hle] using this
  have hleft := remainder_burst_ne_zero hG (List.length_take_le w _) hset
    ((List.zipWith (· ^^ ·) as bs).take start).length
    (((List.zipWith (· ^^ ·) as bs).drop start).drop w).length
  rw [← hsplit] at hleft
  intro heq
  have hxor := remainder_xor (G := G) hlen r r
  rw [heq, BitVec.xor_self, BitVec.xor_self] at hxor
  exact hleft hxor

/-! ## Division of polynomials -/

open Polynomial

/-- A bit as a coefficient. -/
noncomputable def bit (b : Bool) : (ZMod 2)[X] := if b then 1 else 0

/-- The polynomial of a register: the highest power is at the low end. -/
noncomputable def poly (r : BitVec w) : (ZMod 2)[X] :=
  ∑ i ∈ Finset.range w, bit (r.getLsbD i) * X ^ (w - 1 - i)

/-- The polynomial of a message: its first bit has the highest power. -/
noncomputable def message : List Bool → (ZMod 2)[X]
  | [] => 0
  | b :: bits => bit b * X ^ bits.length + message bits

/-- The generator with its highest power, for which the register has no place. -/
noncomputable def divisor (G : BitVec w) : (ZMod 2)[X] := X ^ w + poly G

theorem bit_xor (a b : Bool) : bit (a ^^ b) = bit a + bit b := by
  have htwo : (1 : (ZMod 2)[X]) + 1 = 0 := CharTwo.add_self_eq_zero 1
  cases a <;> cases b <;> simp [bit, htwo]

theorem poly_xor (r r' : BitVec w) : poly (r ^^^ r') = poly r + poly r' := by
  simp only [poly, BitVec.getLsbD_xor, bit_xor, add_mul, Finset.sum_add_distrib]

theorem degree_poly_lt (r : BitVec w) : (poly r).degree < w := by
  refine lt_of_le_of_lt (degree_sum_le _ _) ((Finset.sup_lt_iff (WithBot.bot_lt_coe w)).mpr ?_)
  intro i hi
  rw [Finset.mem_range] at hi
  have hbit : (bit (r.getLsbD i)).degree ≤ 0 := by
    unfold bit
    split
    · exact degree_one_le
    · simp
  have hpow : ((X : (ZMod 2)[X]) ^ (w - 1 - i)).degree ≤ ((w - 1 - i : ℕ) : WithBot ℕ) :=
    degree_X_pow_le _
  calc (bit (r.getLsbD i) * X ^ (w - 1 - i)).degree
      ≤ 0 + ((w - 1 - i : ℕ) : WithBot ℕ) := (degree_mul_le _ _).trans (add_le_add hbit hpow)
    _ < w := by
      rw [zero_add]
      exact_mod_cast (by omega : w - 1 - i < w)

theorem monic_divisor (G : BitVec w) : (divisor G).Monic :=
  monic_X_pow_add (by simpa using degree_poly_lt G)

/-- The bit that leaves a register is that of the highest power once the polynomial is shifted. -/
theorem poly_mul_X (r : BitVec w) : poly r * X = bit (r.getLsbD 0) * X ^ w + poly (r >>> 1) := by
  cases w with
  | zero => simp [poly, bit]
  | succ w =>
    have hlast : bit ((r >>> 1).getLsbD w) = 0 := by simp [bit]
    rw [poly, poly, Finset.sum_range_succ', Finset.sum_range_succ, hlast, zero_mul, add_zero,
      add_mul, add_comm, Finset.sum_mul, mul_assoc, ← pow_succ]
    congr 1
    refine Finset.sum_congr rfl fun i hi ↦ ?_
    rw [Finset.mem_range] at hi
    rw [mul_assoc, ← pow_succ, BitVec.getLsbD_ushiftRight, Nat.add_comm 1 i]
    congr 2
    omega

theorem poly_low_mul_X (hw : 0 < w) (b : Bool) : poly (low b : BitVec w) * X = bit b * X ^ w := by
  have hclear : (low b : BitVec w) >>> 1 = 0 := by
    apply BitVec.eq_of_getLsbD_eq
    intro i _
    simp [getLsbD_low]
  have hzero : poly (0 : BitVec w) = 0 := by simp [poly, bit]
  rw [poly_mul_X, hclear, hzero, add_zero, getLsbD_low]
  simp [hw]

theorem divisor_dvd_shift (r : BitVec w) : divisor G ∣ poly r * X - poly (shift G r) := by
  rw [poly_mul_X]
  unfold shift
  cases r.getLsbD 0 with
  | false => simp [bit]
  | true =>
    rw [if_pos rfl, poly_xor]
    have htwo : poly G + poly G = 0 := CharTwo.add_self_eq_zero _
    refine dvd_of_eq ?_
    rw [divisor, bit, if_pos rfl]
    linear_combination htwo

theorem divisor_dvd_feed (hw : 0 < w) (r : BitVec w) (b : Bool) :
    divisor G ∣ poly r * X + bit b * X ^ w - poly (feed G r b) := by
  have h := divisor_dvd_shift (G := G) (r ^^^ low b)
  rwa [poly_xor, add_mul, poly_low_mul_X hw] at h

/-- **The register is the remainder of a division**, of the message behind what was in it before. -/
theorem poly_remainder (hw : 0 < w) (r : BitVec w) (bits : List Bool) :
    poly (remainder G r bits) =
      (poly r * X ^ bits.length + message bits * X ^ w) %ₘ divisor G := by
  have hdvd : divisor G ∣
      poly r * X ^ bits.length + message bits * X ^ w - poly (remainder G r bits) := by
    induction bits generalizing r with
    | nil => simp [message]
    | cons b bits ih =>
      have hfirst := (divisor_dvd_feed (G := G) hw r b).mul_right (X ^ bits.length)
      have hsum := dvd_add hfirst (ih (feed G r b))
      rw [remainder_cons, List.length_cons, message]
      convert hsum using 1
      ring
  have hdeg : (divisor G).degree = w := by
    rw [divisor, degree_add_eq_left_of_degree_lt] <;> rw [degree_X_pow]
    exact degree_poly_lt G
  -- what is of smaller degree is its own remainder
  have hself := (modByMonic_eq_self_iff (monic_divisor G)).mpr
    (hdeg ▸ degree_poly_lt (remainder G r bits))
  rw [← hself]
  exact (modByMonic_eq_of_dvd_sub (monic_divisor G) hdvd).symm

end Crc
