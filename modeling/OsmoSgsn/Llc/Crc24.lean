import OsmoSgsn.Basic

/-!
# The frame check sequence of logical link control

Every LLC frame ends in three octets of a CRC over its header and information field. The check
runs after deciphering, so it decides whether a receiver that disagrees with the sender about the
keystream notices: it drops the frame, and its counters stay where they were.

The table and the octet loop are those of the source. Words are `BitVec 32`, as the code keeps the
remainder in a `uint32_t` although only 24 bits of it are ever set.
-/

namespace OsmoSgsn.Llc

/-! ## The table-driven remainder -/

/-- The remainders of the 256 octets. -/
def tblCrc24 : Array (BitVec 32) := #[
    0x000000, 0xd6a776, 0xf64557, 0x20e221, 0xb78115, 0x612663, 0x41c442, 0x976334,
    0x340991, 0xe2aee7, 0xc24cc6, 0x14ebb0, 0x838884, 0x552ff2, 0x75cdd3, 0xa36aa5,
    0x681322, 0xbeb454, 0x9e5675, 0x48f103, 0xdf9237, 0x093541, 0x29d760, 0xff7016,
    0x5c1ab3, 0x8abdc5, 0xaa5fe4, 0x7cf892, 0xeb9ba6, 0x3d3cd0, 0x1ddef1, 0xcb7987,
    0xd02644, 0x068132, 0x266313, 0xf0c465, 0x67a751, 0xb10027, 0x91e206, 0x474570,
    0xe42fd5, 0x3288a3, 0x126a82, 0xc4cdf4, 0x53aec0, 0x8509b6, 0xa5eb97, 0x734ce1,
    0xb83566, 0x6e9210, 0x4e7031, 0x98d747, 0x0fb473, 0xd91305, 0xf9f124, 0x2f5652,
    0x8c3cf7, 0x5a9b81, 0x7a79a0, 0xacded6, 0x3bbde2, 0xed1a94, 0xcdf8b5, 0x1b5fc3,
    0xfb4733, 0x2de045, 0x0d0264, 0xdba512, 0x4cc626, 0x9a6150, 0xba8371, 0x6c2407,
    0xcf4ea2, 0x19e9d4, 0x390bf5, 0xefac83, 0x78cfb7, 0xae68c1, 0x8e8ae0, 0x582d96,
    0x935411, 0x45f367, 0x651146, 0xb3b630, 0x24d504, 0xf27272, 0xd29053, 0x043725,
    0xa75d80, 0x71faf6, 0x5118d7, 0x87bfa1, 0x10dc95, 0xc67be3, 0xe699c2, 0x303eb4,
    0x2b6177, 0xfdc601, 0xdd2420, 0x0b8356, 0x9ce062, 0x4a4714, 0x6aa535, 0xbc0243,
    0x1f68e6, 0xc9cf90, 0xe92db1, 0x3f8ac7, 0xa8e9f3, 0x7e4e85, 0x5eaca4, 0x880bd2,
    0x437255, 0x95d523, 0xb53702, 0x639074, 0xf4f340, 0x225436, 0x02b617, 0xd41161,
    0x777bc4, 0xa1dcb2, 0x813e93, 0x5799e5, 0xc0fad1, 0x165da7, 0x36bf86, 0xe018f0,
    0xad85dd, 0x7b22ab, 0x5bc08a, 0x8d67fc, 0x1a04c8, 0xcca3be, 0xec419f, 0x3ae6e9,
    0x998c4c, 0x4f2b3a, 0x6fc91b, 0xb96e6d, 0x2e0d59, 0xf8aa2f, 0xd8480e, 0x0eef78,
    0xc596ff, 0x133189, 0x33d3a8, 0xe574de, 0x7217ea, 0xa4b09c, 0x8452bd, 0x52f5cb,
    0xf19f6e, 0x273818, 0x07da39, 0xd17d4f, 0x461e7b, 0x90b90d, 0xb05b2c, 0x66fc5a,
    0x7da399, 0xab04ef, 0x8be6ce, 0x5d41b8, 0xca228c, 0x1c85fa, 0x3c67db, 0xeac0ad,
    0x49aa08, 0x9f0d7e, 0xbfef5f, 0x694829, 0xfe2b1d, 0x288c6b, 0x086e4a, 0xdec93c,
    0x15b0bb, 0xc317cd, 0xe3f5ec, 0x35529a, 0xa231ae, 0x7496d8, 0x5474f9, 0x82d38f,
    0x21b92a, 0xf71e5c, 0xd7fc7d, 0x015b0b, 0x96383f, 0x409f49, 0x607d68, 0xb6da1e,
    0x56c2ee, 0x806598, 0xa087b9, 0x7620cf, 0xe143fb, 0x37e48d, 0x1706ac, 0xc1a1da,
    0x62cb7f, 0xb46c09, 0x948e28, 0x42295e, 0xd54a6a, 0x03ed1c, 0x230f3d, 0xf5a84b,
    0x3ed1cc, 0xe876ba, 0xc8949b, 0x1e33ed, 0x8950d9, 0x5ff7af, 0x7f158e, 0xa9b2f8,
    0x0ad85d, 0xdc7f2b, 0xfc9d0a, 0x2a3a7c, 0xbd5948, 0x6bfe3e, 0x4b1c1f, 0x9dbb69,
    0x86e4aa, 0x5043dc, 0x70a1fd, 0xa6068b, 0x3165bf, 0xe7c2c9, 0xc720e8, 0x11879e,
    0xb2ed3b, 0x644a4d, 0x44a86c, 0x920f1a, 0x056c2e, 0xd3cb58, 0xf32979, 0x258e0f,
    0xeef788, 0x3850fe, 0x18b2df, 0xce15a9, 0x59769d, 0x8fd1eb, 0xaf33ca, 0x7994bc,
    0xdafe19, 0x0c596f, 0x2cbb4e, 0xfa1c38, 0x6d7f0c, 0xbbd87a, 0x9b3a5b, 0x4d9d2d]

/-- One round of the loop: the table's word for the low octet, and the rest moved down. -/
def crc24Octet (fcs : BitVec 32) (octet : UInt8) : BitVec 32 :=
  (fcs >>> 8) ^^^ tblCrc24.getD ((fcs ^^^ octet.toBitVec.setWidth 32) &&& 0xff).toNat 0

/-- The remainder of a string of octets, from a start value. -/
def crc24Calc (fcs : BitVec 32) (data : Bytes) : BitVec 32 := data.foldl crc24Octet fcs

/-- The start value of the remainder. -/
def initCrc24 : BitVec 32 := 0xffffff

/-- The frame check sequence: the complement of the remainder, in its low 24 bits. -/
def gprsLlcFcs (data : Bytes) : BitVec 32 := ~~~ crc24Calc initCrc24 data &&& 0xffffff

/-! ## The check sequence on the wire -/

/-- The three octets in which a check sequence is sent, low octet first. -/
def fcsOctets (fcs : BitVec 32) : Bytes :=
  [⟨fcs.setWidth 8⟩, ⟨(fcs >>> 8).setWidth 8⟩, ⟨(fcs >>> 16).setWidth 8⟩]

/-- The check sequence that three octets spell, low octet first. -/
def fcsOfOctets (b₀ b₁ b₂ : UInt8) : BitVec 32 :=
  b₀.toBitVec.setWidth 32 ||| (b₁.toBitVec.setWidth 32 <<< 8) |||
    (b₂.toBitVec.setWidth 32 <<< 16)

@[simp] theorem length_fcsOctets (fcs : BitVec 32) : (fcsOctets fcs).length = 3 := rfl

/-- A word within 24 bits is read back from its three octets. -/
theorem fcsOfOctets_fcsOctets {fcs : BitVec 32} (h : fcs &&& 0xffffff = fcs) :
    fcsOfOctets ⟨fcs.setWidth 8⟩ ⟨(fcs >>> 8).setWidth 8⟩ ⟨(fcs >>> 16).setWidth 8⟩ = fcs := by
  rw [← h]
  apply BitVec.eq_of_getLsbD_eq
  intro i hi
  have hmask : (0xffffff : BitVec 32).getLsbD i = decide (i < 24) := by
    interval_cases i <;> rfl
  simp only [fcsOfOctets, BitVec.getLsbD_or, BitVec.getLsbD_setWidth, BitVec.getLsbD_shiftLeft,
    BitVec.getLsbD_ushiftRight, BitVec.getLsbD_and, hmask]
  interval_cases i <;> simp

theorem gprsLlcFcs_and_mask (data : Bytes) : gprsLlcFcs data &&& 0xffffff = gprsLlcFcs data := by
  rw [gprsLlcFcs, BitVec.and_assoc, BitVec.and_self]

end OsmoSgsn.Llc
