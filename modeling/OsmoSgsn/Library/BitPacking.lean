import Mathlib

/-!
# Codes packed into octets

Numbers of varying widths are written into octets one after the other, the lowest bits first. The
writer keeps the bits that do not fill an octet yet. The reader takes octets until it has as many
bits as the next number is wide, and keeps what is left of the last one.

Neither knows where in an octet the other stands. Both are described by the stream of octets that
the writer has yet to put out: it starts with the bits that the writer keeps, and what comes behind
them is what the reader has ahead of it, be it in octets or taken out of them already.
-/

namespace BitPacking

/-! ## Octets as digits -/

/-- The number that octets are, the first of them the lowest. -/
def value (bs : List UInt8) : ℕ := Nat.ofDigits 256 (bs.map UInt8.toNat)

@[simp] theorem value_nil : value [] = 0 := rfl

@[simp] theorem value_cons (b : UInt8) (bs : List UInt8) :
    value (b :: bs) = b.toNat + 256 * value bs := Nat.ofDigits_cons ..

theorem value_append (xs ys : List UInt8) :
    value (xs ++ ys) = value xs + 256 ^ xs.length * value ys := by
  unfold value
  rw [List.map_append, Nat.ofDigits_append, List.length_map]

/-- Octets are determined by their number and its length. -/
theorem eq_of_value_eq {xs ys : List UInt8} (hlen : xs.length = ys.length)
    (h : value xs = value ys) : xs = ys := by
  induction xs generalizing ys with
  | nil => exact (List.length_eq_zero_iff.mp hlen.symm).symm
  | cons x xs ih =>
    cases ys with
    | nil => exact absurd hlen (by simp)
    | cons y ys =>
      have hx := x.toNat_lt
      have hy := y.toNat_lt
      simp only [value_cons] at h
      rw [ih (by simpa using hlen) (by omega), UInt8.toNat_inj.mp (by omega : x.toNat = y.toNat)]

/-- A number of octets from the low end of a number. -/
def octets : ℕ → ℕ → List UInt8
  | 0, _ => []
  | n + 1, x => .ofNat x :: octets n (x / 256)

@[simp] theorem length_octets (n x : ℕ) : (octets n x).length = n := by
  induction n generalizing x with
  | zero => rfl
  | succ n ih => rw [octets, List.length_cons, ih]

theorem value_octets (n x : ℕ) : value (octets n x) = x % 256 ^ n := by
  induction n generalizing x with
  | zero => simp [octets, Nat.mod_one]
  | succ n ih =>
    rw [octets, value_cons, ih, pow_succ', Nat.mod_mul, UInt8.toNat_ofNat']

theorem value_octets_append (n x : ℕ) (stream : List UInt8) :
    value (octets n x ++ stream) = x % 256 ^ n + 256 ^ n * value stream := by
  rw [value_append, value_octets, length_octets]

/-! ## Writing -/

/-- A stream starts with a number of bits. -/
structure Starts (buffer count : ℕ) (stream : List UInt8) : Prop where
  bits : count ≤ 8 * stream.length
  low : value stream % 2 ^ count = buffer

theorem Starts.lt {buffer count : ℕ} {stream : List UInt8} (h : Starts buffer count stream) :
    buffer < 2 ^ count := h.low ▸ Nat.mod_lt _ (by positivity)

@[simp] theorem starts_zero (stream : List UInt8) : Starts 0 0 stream :=
  ⟨Nat.zero_le _, by simp [Nat.mod_one]⟩

/-- A stream starts with the bits that an octet is filled up from. -/
theorem starts_pad {buffer count : ℕ} (hlt : buffer < 2 ^ count) (hcount : count < 8)
    (stream : List UInt8) :
    Starts buffer count (octets ((count + 7) / 8) buffer ++ stream) := by
  refine ⟨by rw [List.length_append, length_octets]; omega, ?_⟩
  rcases Nat.eq_zero_or_pos count with rfl | hpos
  · obtain rfl : buffer = 0 := by simpa using hlt
    simp [Nat.mod_one]
  · have hpow : (256 : ℕ) = 2 ^ count * 2 ^ (8 - count) := by
      rw [← pow_add, show count + (8 - count) = 8 by omega]
      rfl
    have hle : (2 : ℕ) ^ count ≤ 256 :=
      Nat.pow_le_pow_right (by decide) hcount.le |>.trans_eq (by decide : (2 : ℕ) ^ 8 = 256)
    rw [value_octets_append, show (count + 7) / 8 = 1 by omega, pow_one,
      Nat.mod_eq_of_lt (hlt.trans_le hle), hpow, Nat.mul_assoc, Nat.add_mul_mod_self_left,
      Nat.mod_eq_of_lt hlt]

section Write

variable {buffer count w code n : ℕ} {stream : List UInt8}

/-- Octets come out as soon as there are bits to fill them, and what is left starts the rest. -/
theorem value_octets_write (hn : 8 * n ≤ count)
    (h : Starts (buffer / 256 ^ n) (count - 8 * n) stream) :
    8 * (octets n buffer ++ stream).length = 8 * n + 8 * stream.length ∧
      value (octets n buffer ++ stream) % 2 ^ count = buffer % 2 ^ count := by
  constructor
  · simp [Nat.mul_add]
  · have hpow : (2 : ℕ) ^ count = 256 ^ n * 2 ^ (count - 8 * n) := by
      rw [show (256 : ℕ) = 2 ^ 8 from rfl, ← pow_mul, ← pow_add]
      congr 1
      omega
    rw [value_octets_append, hpow, Nat.mod_mul, Nat.mod_mul, Nat.add_mul_mod_self_left,
      Nat.mod_mod, Nat.add_mul_div_left _ _ (by positivity),
      Nat.div_eq_of_lt (Nat.mod_lt _ (by positivity)), Nat.zero_add, h.low,
      Nat.mod_eq_of_lt h.lt]

/-- Before a number was written, the stream started with what had been kept then. -/
theorem Starts.write (hn : 8 * n ≤ count + w) (hbuffer : buffer < 2 ^ count) (hcode : code < 2 ^ w)
    (h : Starts ((buffer + code * 2 ^ count) / 256 ^ n) (count + w - 8 * n) stream) :
    Starts buffer count (octets n (buffer + code * 2 ^ count) ++ stream) ∧
      value (octets n (buffer + code * 2 ^ count) ++ stream) / 2 ^ count % 2 ^ w = code := by
  obtain ⟨hlen, hval⟩ := value_octets_write hn h
  have hbits := h.bits
  have hlow : (buffer + code * 2 ^ count) % 2 ^ (count + w) = buffer + code * 2 ^ count := by
    refine Nat.mod_eq_of_lt ?_
    calc buffer + code * 2 ^ count < 2 ^ count + code * 2 ^ count := by omega
      _ = (code + 1) * 2 ^ count := by ring
      _ ≤ 2 ^ w * 2 ^ count := Nat.mul_le_mul_right _ hcode
      _ = 2 ^ (count + w) := by rw [pow_add, mul_comm]
  rw [hlow, pow_add] at hval
  have hdiv := congrArg (· / 2 ^ count) hval
  have hmod := congrArg (· % 2 ^ count) hval
  simp only [Nat.mod_mul_right_div_self, Nat.mod_mul_right_mod, Nat.add_mul_mod_self_right,
    Nat.add_mul_div_right _ _ (show 0 < 2 ^ count by positivity), Nat.div_eq_of_lt hbuffer,
    Nat.zero_add, Nat.mod_eq_of_lt hbuffer] at hdiv hmod
  exact ⟨⟨by omega, hmod⟩, hdiv⟩

end Write

/-! ## Reading -/

/-- Take octets until there are bits for a number. -/
def fill (w : ℕ) : ℕ → ℕ → List UInt8 → ℕ × ℕ × List UInt8
  | buffer, count, [] => (buffer, count, [])
  | buffer, count, b :: rest =>
    if count < w then fill w (buffer + b.toNat * 2 ^ count) (count + 8) rest
    else (buffer, count, b :: rest)

/-- What taking octets does: nothing is lost, and there are not more of them than needed. -/
structure Filled (w buffer count : ℕ) (rest : List UInt8) (r : ℕ × ℕ × List UInt8) : Prop where
  lt : r.1 < 2 ^ r.2.1
  same : r.1 + 2 ^ r.2.1 * value r.2.2 = buffer + 2 ^ count * value rest
  bits : r.2.1 + 8 * r.2.2.length = count + 8 * rest.length
  enough : w ≤ count + 8 * rest.length → w ≤ r.2.1
  least : count < w + 8 → r.2.1 < w + 8

theorem filled {w : ℕ} (buffer count : ℕ) (rest : List UInt8) (hlt : buffer < 2 ^ count) :
    Filled w buffer count rest (fill w buffer count rest) := by
  induction rest generalizing buffer count with
  | nil => exact ⟨hlt, rfl, rfl, fun h ↦ by simpa [fill] using h, fun h ↦ h⟩
  | cons b rest ih =>
    rw [fill]
    split
    · rename_i hw
      have hb := b.toNat_lt
      have hpow : (2 : ℕ) ^ (count + 8) = 2 ^ count * 256 := pow_add 2 count 8
      have hlt' : buffer + b.toNat * 2 ^ count < 2 ^ (count + 8) := by
        calc buffer + b.toNat * 2 ^ count < (b.toNat + 1) * 2 ^ count := by
              rw [Nat.add_mul, Nat.one_mul]
              omega
          _ ≤ 256 * 2 ^ count := Nat.mul_le_mul_right _ hb
          _ = 2 ^ (count + 8) := by rw [hpow, Nat.mul_comm]
      have h := ih _ _ hlt'
      refine ⟨h.lt, ?_, ?_, fun henough ↦ h.enough ?_, fun hleast ↦ h.least (by omega)⟩
      · rw [h.same, value_cons, hpow]
        ring
      · rw [h.bits, List.length_cons]
        ring
      · rw [List.length_cons] at henough
        omega
    · rename_i hw
      exact ⟨hlt, rfl, rfl, fun _ ↦ not_lt.mp hw, fun h ↦ h⟩

/-! ## The two in step -/

/-- A writer that has yet to put out a stream, and a reader that has read what was put out. -/
structure InStep (wbuffer wcount : ℕ) (stream : List UInt8) (rbuffer rcount : ℕ)
    (rest : List UInt8) : Prop where
  starts : Starts wbuffer wcount stream
  lt : rbuffer < 2 ^ rcount
  least : rcount < 8
  same : rbuffer + 2 ^ rcount * value rest = value stream / 2 ^ wcount
  bits : wcount + rcount + 8 * rest.length = 8 * stream.length

/-- Both stand between two octets. -/
theorem InStep.aligned (stream : List UInt8) : InStep 0 0 stream 0 0 stream :=
  ⟨starts_zero stream, by simp, by simp, by simp, by simp⟩

section InStep

variable {buffer count w code n rbuffer rcount : ℕ} {stream rest : List UInt8}

/-- **A number that is written is the one that is read**, and both are in step again. -/
theorem InStep.read (hn : 8 * n ≤ count + w) (hcode : code < 2 ^ w)
    (h : InStep buffer count (octets n (buffer + code * 2 ^ count) ++ stream) rbuffer rcount rest)
    (hstarts : Starts ((buffer + code * 2 ^ count) / 256 ^ n) (count + w - 8 * n) stream) :
    ∃ r, fill w rbuffer rcount rest = r ∧ w ≤ r.2.1 ∧ r.1 % 2 ^ w = code ∧
      InStep ((buffer + code * 2 ^ count) / 256 ^ n) (count + w - 8 * n) stream (r.1 / 2 ^ w)
        (r.2.1 - w) r.2.2 := by
  obtain ⟨-, hread⟩ := Starts.write hn h.starts.lt hcode hstarts
  have hbits := h.bits
  have hahead := hstarts.bits
  rw [List.length_append, length_octets] at hbits
  have hfill := filled (w := w) rbuffer rcount rest h.lt
  have henough : w ≤ (fill w rbuffer rcount rest).2.1 := hfill.enough (by omega)
  generalize hr : fill w rbuffer rcount rest = r at hfill henough
  obtain ⟨buffer', count', rest'⟩ := r
  obtain ⟨hlt, hvalue, hbits', -, hleast⟩ := hfill
  dsimp only at hlt hvalue hbits' hleast henough ⊢
  rw [h.same] at hvalue
  obtain ⟨c, rfl⟩ := Nat.exists_eq_add_of_le henough
  have hpow : (2 : ℕ) ^ (w + c) = 2 ^ w * 2 ^ c := pow_add 2 w c
  have hpos : 0 < 2 ^ w := by positivity
  have hcode' : buffer' % 2 ^ w = code := by
    rw [← hread, ← hvalue, hpow, Nat.mul_assoc, Nat.add_mul_mod_self_left]
  refine ⟨_, rfl, henough, hcode', hstarts, ?_, ?_, ?_, ?_⟩
  · rw [Nat.add_sub_cancel_left]
    exact Nat.div_lt_of_lt_mul (by rwa [← hpow])
  · have := hleast (by have := h.least; omega)
    dsimp only
    omega
  · -- the bits behind the number, from both sides
    dsimp only
    rw [Nat.add_sub_cancel_left]
    have hdiv := congrArg (· / 2 ^ w) hvalue
    simp only [hpow, Nat.mul_assoc, Nat.add_mul_div_left _ _ hpos, Nat.div_div_eq_div_mul] at hdiv
    rw [hdiv, value_octets_append, ← pow_add, ← Nat.add_sub_cancel' hn, pow_add,
      Nat.add_sub_cancel' hn, ← Nat.div_div_eq_div_mul, pow_mul]
    norm_num only
    rw [Nat.add_mul_div_left _ _ (by positivity),
      Nat.div_eq_of_lt (Nat.mod_lt _ (by positivity)), Nat.zero_add]
  · dsimp only
    omega

/-- **After the rest of an octet was filled up the reader stands where the writer does.** -/
theorem InStep.align (hcount : count < 8)
    (h : InStep buffer count (octets ((count + 7) / 8) buffer ++ stream) rbuffer rcount rest) :
    rest = stream ∧ rbuffer = 0 := by
  obtain ⟨hstarts, hlt, hleast, hvalue, hbits⟩ := h
  have hbuffer := hstarts.lt
  rw [List.length_append, length_octets] at hbits
  rw [value_octets_append] at hvalue
  have hlen : rest.length = stream.length := by omega
  rcases Nat.eq_zero_or_pos count with rfl | hpos
  · obtain rfl : rcount = 0 := by omega
    obtain rfl : rbuffer = 0 := by simpa using hlt
    simp only [pow_zero, Nat.zero_add, Nat.one_mul, Nat.div_one, Nat.mod_one,
      show (7 : ℕ) / 8 = 0 from rfl] at hvalue
    exact ⟨eq_of_value_eq hlen hvalue, rfl⟩
  · rw [show (count + 7) / 8 = 1 by omega, pow_one] at hvalue
    have hpow : (256 : ℕ) = 2 ^ count * 2 ^ rcount := by
      rw [← pow_add, show count + rcount = 8 by omega]
      rfl
    have hsmall : buffer % 256 / 2 ^ count = 0 :=
      Nat.div_eq_of_lt ((Nat.mod_le _ _).trans_lt hbuffer)
    rw [show buffer % 256 + 256 * value stream =
        buffer % 256 + 2 ^ count * (2 ^ rcount * value stream) by rw [hpow]; ring,
      Nat.add_mul_div_left _ _ (by positivity), hsmall, Nat.zero_add] at hvalue
    have hdiv := congrArg (· / 2 ^ rcount) hvalue
    have hmod := congrArg (· % 2 ^ rcount) hvalue
    simp only [Nat.add_mul_div_left _ _ (show 0 < 2 ^ rcount by positivity),
      Nat.mul_div_cancel_left _ (show 0 < 2 ^ rcount by positivity), Nat.div_eq_of_lt hlt,
      Nat.zero_add, Nat.add_mul_mod_self_left, Nat.mul_mod_right, Nat.mod_eq_of_lt hlt]
      at hdiv hmod
    exact ⟨eq_of_value_eq hlen hdiv, hmod⟩

end InStep

end BitPacking
