import Mathlib

/-!
# 16-bit words and their octets

A word of two octets as a processor keeps it in memory, in one of the two orders, and the order of
the network, in which the high octet comes first.
-/

/-- The order in which a processor keeps the octets of a word. -/
inductive HostOrder
  | little
  | big
  deriving DecidableEq, Repr

namespace Word16

/-- The word with these octets. -/
def ofOctets (high low : UInt8) : BitVec 16 := high.toBitVec ++ low.toBitVec

/-- The high octet of a word. -/
def high (v : BitVec 16) : UInt8 := ⟨v.extractLsb' 8 8⟩

/-- The low octet of a word. -/
def low (v : BitVec 16) : UInt8 := ⟨v.extractLsb' 0 8⟩

variable {a b a' b' : UInt8} {v : BitVec 16}

@[simp] theorem high_ofOctets : high (ofOctets a b) = a := by
  have h : (a.toBitVec ++ b.toBitVec).extractLsb' 8 8 = a.toBitVec := by
    rw [BitVec.extractLsb'_append_eq_left]
  exact congrArg UInt8.ofBitVec h

@[simp] theorem low_ofOctets : low (ofOctets a b) = b := by
  have h : (a.toBitVec ++ b.toBitVec).extractLsb' 0 8 = b.toBitVec := by
    rw [BitVec.extractLsb'_append_eq_right]
  exact congrArg UInt8.ofBitVec h

theorem ofOctets_inj : ofOctets a b = ofOctets a' b' ↔ a = a' ∧ b = b' := by
  constructor
  · intro h
    exact ⟨by simpa using congrArg high h, by simpa using congrArg low h⟩
  · rintro ⟨rfl, rfl⟩
    rfl

/-- The octets of a word in the order of the network. -/
def network (v : BitVec 16) : List UInt8 := [high v, low v]

@[simp] theorem network_ofOctets : network (ofOctets a b) = [a, b] := by simp [network]

/-- `memcpy` of two octets to a word. -/
def load (host : HostOrder) (first second : UInt8) : BitVec 16 :=
  match host with
  | .little => ofOctets second first
  | .big => ofOctets first second

/-- `memcpy` of a word to two octets. -/
def store (host : HostOrder) (v : BitVec 16) : List UInt8 :=
  match host with
  | .little => [low v, high v]
  | .big => [high v, low v]

/-- `htons`, and `ntohs`. -/
def htons (host : HostOrder) (v : BitVec 16) : BitVec 16 :=
  match host with
  | .little => ofOctets (low v) (high v)
  | .big => v

/-- A word that was brought to the order of the network is stored in that order. -/
theorem store_htons (host : HostOrder) (v : BitVec 16) : store host (htons host v) = network v := by
  cases host with
  | little => simp [store, htons, network]
  | big => rfl

theorem ofOctets_high_low (v : BitVec 16) : ofOctets (high v) (low v) = v :=
  @BitVec.extractLsb'_append_extractLsb' 8 8 v

/-- What is stored and loaded on one processor. -/
theorem load_high_low (v : BitVec 16) : load .little (low v) (high v) = v := ofOctets_high_low v

/-- The octets of a word the other way round. -/
theorem getLsbD_swap (v : BitVec 16) {n : ℕ} (hn : n < 8) :
    (ofOctets (low v) (high v)).getLsbD n = v.getLsbD (n + 8) ∧
      (ofOctets (low v) (high v)).getLsbD (n + 8) = v.getLsbD n := by
  have hhigh : ¬ n + 8 < 8 := by omega
  constructor
  · have hbit : (high v).toBitVec.getLsbD n = v.getLsbD (n + 8) := by
      simp [high, hn, Nat.add_comm]
    rw [ofOctets, BitVec.getLsbD_append, if_pos hn, hbit]
  · have hbit : (low v).toBitVec.getLsbD n = v.getLsbD n := by simp [low, hn]
    rw [ofOctets, BitVec.getLsbD_append, if_neg hhigh, Nat.add_sub_cancel, hbit]

end Word16
