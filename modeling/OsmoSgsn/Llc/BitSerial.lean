import OsmoSgsn.Library.Crc
import OsmoSgsn.Llc.Crc24

/-!
# The frame check sequence, bit by bit

The octets of a frame go over the air with their low bit first, and its check sequence is defined
for the bits in that order. The source takes an octet at a time: the register moves down by eight
bits, and what the eight that leave would have done to it on their way is looked up.

The table is right, the octets and the bits leave the same, and so the check sequence has what the
definition promises: two frames that differ in a burst of at most 24 bits differ in it.
-/

namespace OsmoSgsn.Llc

open Crc

/-- The generator, with the coefficient of the highest power below 24 in the low bit. -/
def generator : BitVec 24 := 0xad85dd

/-- The bits of an octet in the order of transmission. -/
def octetBits (o : UInt8) : List Bool := List.ofFn fun i : Fin 8 ↦ o.toBitVec.getLsbD i

/-- The bits of a frame in the order of transmission. -/
def bitsOf (data : Bytes) : List Bool := data.flatMap octetBits

@[simp] theorem length_octetBits (o : UInt8) : (octetBits o).length = 8 := by simp [octetBits]

@[simp] theorem bitsOf_cons (o : UInt8) (data : Bytes) :
    bitsOf (o :: data) = octetBits o ++ bitsOf data := List.flatMap_cons

theorem length_bitsOf (data : Bytes) : (bitsOf data).length = 8 * data.length := by
  induction data with
  | nil => rfl
  | cons o data ih =>
    rw [bitsOf_cons, List.length_append, length_octetBits, ih, List.length_cons]
    omega

/-! ## The table -/

/-- Every entry of the table is what an octet does to the register on its way out. -/
theorem tblCrc24_eq (i : Fin 256) :
    tblCrc24.getD i 0 = ((shift generator)^[8] (BitVec.ofNat 24 i)).setWidth 32 := by
  revert i
  decide +kernel

theorem pack_octetBits (o : UInt8) : pack (octetBits o) = o.toBitVec.setWidth 24 := by
  apply BitVec.eq_of_getLsbD_eq
  intro i hi
  rw [getLsbD_pack, BitVec.getLsbD_setWidth]
  by_cases h8 : i < 8
  · rw [octetBits, List.getD_eq_getElem _ _ (by simpa using h8), List.getElem_ofFn]
  · simp [octetBits, h8, BitVec.getLsbD_of_ge o.toBitVec i (by omega)]

/-- A register is its low octet and the rest of it. -/
theorem split_low_octet (x : BitVec 24) :
    x = BitVec.ofNat 24 (x.toNat % 256) ^^^ x >>> 8 <<< 8 := by
  apply BitVec.eq_of_getLsbD_eq
  intro i hi
  rw [BitVec.getLsbD_xor, BitVec.getLsbD_ofNat, show 256 = 2 ^ 8 from rfl, Nat.testBit_mod_two_pow,
    BitVec.getLsbD_shiftLeft, BitVec.getLsbD_ushiftRight]
  by_cases h8 : i < 8
  · simp [hi, h8, BitVec.getLsbD]
  · rw [show 8 + (i - 8) = i by omega]
    simp [hi, h8]

/-- Eight bits of a register leave it, and what they do to it is in the table. -/
theorem iterate_shift_eight (x : BitVec 24) :
    ((shift generator)^[8] x).setWidth 32 =
      (x >>> 8).setWidth 32 ^^^ tblCrc24.getD (x.toNat % 256) 0 := by
  have hentry := tblCrc24_eq ⟨x.toNat % 256, Nat.mod_lt _ (by decide)⟩
  have hclear : ∀ i < 8, (x >>> 8 <<< 8).getLsbD i = false := by simp +contextual
  have hback : x >>> 8 <<< 8 >>> 8 = x >>> 8 := by
    apply BitVec.eq_of_getLsbD_eq
    intro i _
    by_cases h : 8 + i < 24
    · simp [h]
    · simp [h, BitVec.getLsbD_of_ge x (8 + i) (by omega)]
  conv_lhs => rw [split_low_octet x, iterate_shift_xor, iterate_shift_of_clear hclear, hback]
  rw [hentry, BitVec.setWidth_xor, BitVec.xor_comm]

/-- An octet goes through the register as its bits do. -/
theorem crc24Octet_setWidth (r : BitVec 24) (o : UInt8) :
    crc24Octet (r.setWidth 32) o = (remainder generator r (octetBits o)).setWidth 32 := by
  have hxor : r.setWidth 32 ^^^ o.toBitVec.setWidth 32 =
      (r ^^^ o.toBitVec.setWidth 24).setWidth 32 := by
    have ho : (o.toBitVec.setWidth 24).setWidth 32 = o.toBitVec.setWidth 32 :=
      BitVec.setWidth_setWidth (by decide)
    rw [BitVec.setWidth_xor, ho]
  have hindex : ((r.setWidth 32 ^^^ o.toBitVec.setWidth 32) &&& 0xff).toNat =
      (r ^^^ o.toBitVec.setWidth 24).toNat % 256 := by
    rw [BitVec.toNat_and, show (0xff : BitVec 32).toNat = 2 ^ 8 - 1 from rfl,
      Nat.and_two_pow_sub_one_eq_mod, hxor, BitVec.toNat_setWidth_of_le (by decide)]
  -- the octet is shifted out of the register, so what is left does not depend on it
  have hrest : r.setWidth 32 >>> 8 = ((r ^^^ o.toBitVec.setWidth 24) >>> 8).setWidth 32 := by
    apply BitVec.eq_of_getLsbD_eq
    intro i hi
    rw [BitVec.getLsbD_ushiftRight, BitVec.getLsbD_setWidth, BitVec.getLsbD_setWidth,
      BitVec.getLsbD_ushiftRight, BitVec.getLsbD_xor, BitVec.getLsbD_setWidth,
      BitVec.getLsbD_of_ge o.toBitVec (8 + i) (by omega)]
    by_cases h : 8 + i < 32
    · simp [hi, h]
    · simp [hi, h, BitVec.getLsbD_of_ge r (8 + i) (by omega)]
  rw [remainder_eq_iterate (by simp), length_octetBits, pack_octetBits, iterate_shift_eight,
    crc24Octet, hindex, hrest]

/-- The octets of a frame leave what its bits leave. -/
theorem crc24Calc_setWidth (fcs : BitVec 24) (data : Bytes) :
    crc24Calc (fcs.setWidth 32) data = (remainder generator fcs (bitsOf data)).setWidth 32 := by
  induction data generalizing fcs with
  | nil => rfl
  | cons o data ih =>
    have hstep : crc24Calc (fcs.setWidth 32) (o :: data) =
        crc24Calc (crc24Octet (fcs.setWidth 32) o) data := rfl
    rw [hstep, crc24Octet_setWidth, ih, bitsOf_cons, remainder_append]

/-- The polynomial that the octets are divided by. -/
theorem divisor_generator :
    divisor generator = Polynomial.X ^ 24 + Polynomial.X ^ 23 + Polynomial.X ^ 21 +
      Polynomial.X ^ 20 + Polynomial.X ^ 19 + Polynomial.X ^ 17 + Polynomial.X ^ 16 +
      Polynomial.X ^ 15 + Polynomial.X ^ 13 + Polynomial.X ^ 8 + Polynomial.X ^ 7 +
      Polynomial.X ^ 5 + Polynomial.X ^ 4 + Polynomial.X ^ 2 + 1 := by
  simp [divisor, poly, Finset.sum_range_succ, bit, generator]
  ring

/-- The octet loop divides polynomials. -/
theorem poly_crc24Calc (fcs : BitVec 24) (data : Bytes) :
    poly ((crc24Calc (fcs.setWidth 32) data).setWidth 24) =
      Polynomial.modByMonic (poly fcs * Polynomial.X ^ (8 * data.length) +
        message (bitsOf data) * Polynomial.X ^ 24) (divisor generator) := by
  rw [crc24Calc_setWidth, BitVec.setWidth_setWidth_of_le _ (by decide), BitVec.setWidth_eq,
    poly_remainder (by decide), length_bitsOf]

/-! ## Bursts -/

theorem gprsLlcFcs_eq (data : Bytes) :
    gprsLlcFcs data = (~~~remainder generator 0xffffff (bitsOf data)).setWidth 32 := by
  have hinit : initCrc24 = (0xffffff : BitVec 24).setWidth 32 := rfl
  rw [gprsLlcFcs, hinit, crc24Calc_setWidth]
  apply BitVec.eq_of_getLsbD_eq
  intro i hi
  have hmask : (0xffffff : BitVec 32).getLsbD i = decide (i < 24) := by
    interval_cases i <;> rfl
  simp only [BitVec.getLsbD_and, BitVec.getLsbD_not, BitVec.getLsbD_setWidth, hmask]
  by_cases h : i < 24 <;> simp [hi, h]

theorem gprsLlcFcs_ne {a b : Bytes}
    (h : remainder generator 0xffffff (bitsOf a) ≠ remainder generator 0xffffff (bitsOf b)) :
    gprsLlcFcs a ≠ gprsLlcFcs b := by
  intro heq
  rw [gprsLlcFcs_eq, gprsLlcFcs_eq] at heq
  have hnot := congrArg (·.setWidth 24) heq
  simp only [BitVec.setWidth_setWidth_of_le _ (by decide : 24 ≤ 32), BitVec.setWidth_eq] at hnot
  exact h (BitVec.not_inj.mp hnot)

theorem bitsOf_injective {a b : Bytes} (h : bitsOf a = bitsOf b) : a = b := by
  induction a generalizing b with
  | nil =>
    have hlen := congrArg List.length h
    rw [length_bitsOf, length_bitsOf, List.length_nil] at hlen
    exact (List.length_eq_zero_iff.mp (by omega)).symm
  | cons o a ih =>
    obtain _ | ⟨o', b⟩ := b
    · simp [bitsOf, octetBits] at h
    · rw [bitsOf_cons, bitsOf_cons] at h
      obtain ⟨hfirst, hrest⟩ := List.append_inj h (by simp)
      have ho : o.toBitVec = o'.toBitVec := by
        apply BitVec.eq_of_getLsbD_eq
        intro i hi
        exact congrFun (List.ofFn_injective hfirst) ⟨i, hi⟩
      rw [UInt8.toBitVec_inj.mp ho, ih hrest]

/-- **The table-driven loop is the bit-serial remainder, and so a burst is detected**: for every
start value and every string of octets the loop leaves what the bits leave, and two frames of one
length that differ in at most 24 consecutive bits only have different check sequences. -/
theorem crc24_bit_serial :
    (∀ (fcs : BitVec 24) (data : Bytes),
      crc24Calc (fcs.setWidth 32) data =
        (remainder generator fcs (bitsOf data)).setWidth 32) ∧
    ∀ a b : Bytes, a.length = b.length → a ≠ b →
      (∃ start, ∀ i, (bitsOf a).getD i false ≠ (bitsOf b).getD i false →
        start ≤ i ∧ i < start + 24) →
      gprsLlcFcs a ≠ gprsLlcFcs b := by
  refine ⟨crc24Calc_setWidth, fun a b hlen hne ⟨start, hburst⟩ ↦ gprsLlcFcs_ne ?_⟩
  have hbits : (bitsOf a).length = (bitsOf b).length := by
    rw [length_bitsOf, length_bitsOf, hlen]
  exact remainder_ne_of_burst rfl hbits (mt bitsOf_injective hne) hburst 0xffffff

end OsmoSgsn.Llc
