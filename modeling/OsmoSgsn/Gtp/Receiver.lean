import OsmoSgsn.Gtp.MmContext
import OsmoSgsn.Llc.Frame

/-!
# What another SGSN makes of an MM context

The receiver goes by TS 29.060, Figures 39 to 41. In all three the key sequence number is in the
first octet, and the second one has the security mode and the number of vectors; the key, the
vectors, the DRX parameters and the network capability follow.

What is sent announces the right lengths and numbers in every layout. It does not name its layout:
the second pass over the second octet of the UMTS layout leaves the security mode out, and in the
GSM layout the DRX parameters are where the receiver looks for it.
-/

namespace OsmoSgsn.Gtp

open Gmm (gtpDrx)
open Llc (octet_append_right)
open Word16 (network ofOctets)

/-- Figures 39 to 41. -/
inductive Layout
  | gsmTriplets | umtsQuintuplets | gsmQuintuplets
  deriving DecidableEq, Repr

/-- The security mode of a layout. -/
def Layout.mode : Layout → UInt8
  | .gsmTriplets => 1
  | .umtsQuintuplets => 2
  | .gsmQuintuplets => 3

/-- The number of vectors in an octet. -/
def announcedCount (o : UInt8) : ℕ := ((o >>> 3) &&& 7).toNat

/-- The length in two octets. -/
def announcedLength (msg : Bytes) (pos : ℕ) : ℕ :=
  (ofOctets (octet msg pos) (octet msg (pos + 1))).toNat

/-- What a receiver takes from an MM context. -/
structure Received where
  layout : Layout
  key : Bytes
  vectors : Bytes
  drx : Bytes
  capa : Bytes
  deriving DecidableEq, Repr

/-- The DRX parameters and the network capability, behind the vectors. -/
def receiveEnd (layout : Layout) (key vectors : Bytes) (msg : Bytes) (pos : ℕ) : Option Received :=
  let len := (octet msg (pos + 2)).toNat
  if msg.length < pos + 3 + len then none
  else some ⟨layout, key, vectors, [octet msg pos, octet msg (pos + 1)],
    (msg.drop (pos + 3)).take len⟩

/-- What a receiver takes from a message, by the security mode in its second octet. -/
def receive (msg : Bytes) : Option Received :=
  let mode := octet msg 1 >>> 6
  if mode = Layout.gsmTriplets.mode then
    let len := 28 * announcedCount (octet msg 1)
    receiveEnd .gsmTriplets ((msg.drop 2).take 8) ((msg.drop 10).take len) msg (10 + len)
  else if mode = Layout.umtsQuintuplets.mode then
    let len := announcedLength msg 34
    receiveEnd .umtsQuintuplets ((msg.drop 2).take 32) ((msg.drop 36).take len) msg (36 + len)
  else if mode = Layout.gsmQuintuplets.mode then
    let len := announcedLength msg 10
    receiveEnd .gsmQuintuplets ((msg.drop 2).take 8) ((msg.drop 12).take len) msg (12 + len)
  else none

namespace SgsnMmCtx

variable (mm : SgsnMmCtx)

/-- The layout that is written. -/
def layout : Layout := if mm.umts then .umtsQuintuplets else .gsmTriplets

/-- The key that is handed on. -/
def key : Bytes := if mm.umts then mm.umtsKey else mm.gsmKey

/-- The vectors that are there to be handed on, one after the other. -/
def vectors : Bytes :=
  if mm.umts then mm.quintuplets.flatMap (quintuplet ·.vec)
  else mm.triplets.flatMap (tripletEncode ·.vec)

end SgsnMmCtx

/-- A receiver has got what was stored. -/
structure Received.Carries (r : Received) (mm : SgsnMmCtx) : Prop where
  layout : r.layout = mm.layout
  key : r.key = mm.key
  vectors : r.vectors = mm.vectors
  drx : r.drx = network mm.drxParms
  capa : r.capa = mm.msNetworkCapa.1

/-- Each number and each length is that of what follows. -/
def Announces (mm : SgsnMmCtx) (out : Bytes) : Prop :=
  ∃ front vectors back, out = front ++ vectors ++ back ++ mm.ending ∧
    (octet mm.ending 0).toNat = mm.msNetworkCapa.1.length ∧
    if mm.umts then front.length = 36 ∧ announcedLength out 34 = vectors.length ∧
      vectors.length = 70 * announcedCount (octet out 1) ∧ back.length = 2
    else if mm.gtpCipher = 0 then front.length = 11 ∧
      vectors.length = 28 * announcedCount (octet out 2) ∧ back = []
    else front.length = 12 ∧ vectors = [] ∧ back = []

/-- An MM context describes itself. The security mode is in the second octet of the UMTS layout, and
in the third one of the GSM layout. -/
structure DescribesItself (mm : SgsnMmCtx) (out : Bytes) : Prop where
  fits : out.length ≤ sgsnCtxMmBuf
  announces : Announces mm out
  mode : octet out (if mm.umts then 1 else 2) >>> 6 = mm.layout.mode
  recovered : ∃ r, receive out = some r ∧ r.Carries mm

/-! ## Numbers and lengths -/

variable {mm : SgsnMmCtx} {host : HostOrder}

theorem formOctet_count (mm : SgsnMmCtx) :
    announcedCount mm.formOctet = mm.triplets.length := by
  have hle := mm.length_triplets
  rw [SgsnMmCtx.formOctet]
  interval_cases mm.triplets.length <;> rfl

theorem modeOctet_count (mm : SgsnMmCtx) :
    announcedCount mm.modeOctet = mm.quintuplets.length := by
  have hle := mm.length_quintuplets
  rw [SgsnMmCtx.modeOctet]
  interval_cases mm.quintuplets.length <;> rfl

theorem modeOctet_mode (mm : SgsnMmCtx) : mm.modeOctet >>> 6 = 0 := by
  have hle := mm.length_quintuplets
  rw [SgsnMmCtx.modeOctet]
  interval_cases mm.quintuplets.length <;> rfl

theorem ending_zero (mm : SgsnMmCtx) :
    (octet mm.ending 0).toNat = mm.msNetworkCapa.1.length := by
  have hle := mm.msNetworkCapa.2
  rw [SgsnMmCtx.ending, octet_cons_zero, UInt8.toNat_ofNat', Nat.mod_eq_of_lt (by omega)]

theorem length_ending (mm : SgsnMmCtx) : mm.ending.length ≤ 12 := by
  have hle := mm.msNetworkCapa.2
  simp only [SgsnMmCtx.ending, List.length_cons, List.length_append, List.length_nil]
  omega

/-- A length that was written is read. -/
theorem announcedLength_network {n : ℕ} (hn : n < 2 ^ 16) (front rest : Bytes) :
    announcedLength (front ++ network (BitVec.ofNat 16 n) ++ rest) front.length = n := by
  have hoctet : ∀ i, octet (front ++ network (BitVec.ofNat 16 n) ++ rest) (front.length + i) =
      octet (network (BitVec.ofNat 16 n) ++ rest) i := by
    intro i
    rw [List.append_assoc, octet_append_right (Nat.le_add_right ..), Nat.add_sub_cancel_left]
  have hhigh : octet (front ++ network (BitVec.ofNat 16 n) ++ rest) front.length =
      Word16.high (BitVec.ofNat 16 n) := hoctet 0
  have hlow : octet (front ++ network (BitVec.ofNat 16 n) ++ rest) (front.length + 1) =
      Word16.low (BitVec.ofNat 16 n) := hoctet 1
  rw [announcedLength, hhigh, hlow, Word16.ofOctets_high_low, BitVec.toNat_ofNat,
    Nat.mod_eq_of_lt hn]

theorem announcedLength_umtsFront (mm : SgsnMmCtx) (rest : Bytes) :
    announcedLength (mm.umtsFront ++ rest) 34 = 70 * mm.quintuplets.length := by
  have hle := mm.length_quintuplets
  have hlen := announcedLength_network (n := 70 * mm.quintuplets.length) (by omega)
    ([(0xc0 : UInt8) ||| mm.keySeqOctet, mm.modeOctet] ++ mm.umtsKey) rest
  rwa [← SgsnMmCtx.umtsFront, List.length_append, length_umtsKey] at hlen

theorem announces_umts (humts : mm.umts = true) :
    Announces mm (mm.umtsFront ++ mm.quintuplets.flatMap (quintuplet ·.vec) ++
      network mm.drxParms ++ mm.ending) := by
  have hvectors := length_flatMap_of_length length_quintuplet mm.quintuplets
  refine ⟨_, _, _, rfl, ending_zero mm, ?_⟩
  rw [if_pos humts]
  refine ⟨length_umtsFront mm, ?_, ?_, length_network _⟩
  · rw [hvectors, List.append_assoc, List.append_assoc, announcedLength_umtsFront]
  · have hmode : octet (mm.umtsFront ++ mm.quintuplets.flatMap (quintuplet ·.vec) ++
        network mm.drxParms ++ mm.ending) 1 = mm.modeOctet := rfl
    rw [hvectors, hmode, modeOctet_count]

theorem announces_plain (hgsm : mm.umts = false) (hcipher : mm.gtpCipher = 0) :
    Announces mm (mm.plainFront ++ mm.triplets.flatMap (tripletEncode ·.vec) ++ mm.ending) := by
  have hvectors := length_flatMap_of_length length_tripletEncode mm.triplets
  refine ⟨mm.plainFront, mm.triplets.flatMap (tripletEncode ·.vec), [], by simp, ending_zero mm, ?_⟩
  have hform : octet (mm.plainFront ++ mm.triplets.flatMap (tripletEncode ·.vec) ++ mm.ending) 2 =
      mm.formOctet := rfl
  rw [hgsm, if_neg (by simp), if_pos hcipher, hvectors, hform, formOctet_count]
  exact ⟨length_plainFront mm, rfl, rfl⟩

theorem announces_ciphered (hgsm : mm.umts = false) (hcipher : mm.gtpCipher ≠ 0) :
    Announces mm (mm.cipheredFront ++ mm.ending) := by
  refine ⟨mm.cipheredFront, [], [], by simp, ending_zero mm, ?_⟩
  rw [hgsm, if_neg (by simp), if_neg hcipher]
  exact ⟨length_cipheredFront mm, rfl, rfl⟩

/-! ## The security mode -/

/-- The second pass clears the security mode of the UMTS layout. -/
theorem not_describesItself_umts (humts : mm.umts = true) :
    ¬ DescribesItself mm (mm.umtsFront ++ mm.quintuplets.flatMap (quintuplet ·.vec) ++
      network mm.drxParms ++ mm.ending) := by
  intro h
  have hmode := h.mode
  rw [if_pos humts, SgsnMmCtx.layout, if_pos humts] at hmode
  have hoctet : octet (mm.umtsFront ++ mm.quintuplets.flatMap (quintuplet ·.vec) ++
      network mm.drxParms ++ mm.ending) 1 = mm.modeOctet := rfl
  rw [hoctet, modeOctet_mode] at hmode
  exact absurd hmode (by decide)

/-- The octet for a cipher has the security mode of the UMTS layout. -/
theorem not_describesItself_ciphered (hgsm : mm.umts = false) :
    ¬ DescribesItself mm (mm.cipheredFront ++ mm.ending) := by
  intro h
  have hmode := h.mode
  rw [hgsm, SgsnMmCtx.layout, hgsm] at hmode
  have hoctet : octet (mm.cipheredFront ++ mm.ending) 2 = (5 : UInt8) <<< 5 := rfl
  rw [if_neg (by simp), if_neg (by simp), hoctet] at hmode
  exact absurd hmode (by decide)

theorem shiftRight_six_eq_zero {a : UInt8} (h : a.toNat < 64) : a >>> 6 = 0 := by
  have hzero : (a >>> 6).toNat = 0 := by
    rw [UInt8.toNat_shiftRight, Nat.shiftRight_eq_div_pow]
    exact Nat.div_eq_of_lt h
  exact UInt8.toNat_inj.mp hzero

/-- What a receiver takes for the GSM layout. -/
theorem receive_gsm {msg : Bytes} {r : Received} (hr : receive msg = some r)
    (hlayout : r.layout = .gsmTriplets) :
    octet msg 1 >>> 6 = 1 ∧ 10 + 28 * announcedCount (octet msg 1) ≤ msg.length ∧
      r.vectors = (msg.drop 10).take (28 * announcedCount (octet msg 1)) ∧
      r.drx = [octet msg (10 + 28 * announcedCount (octet msg 1)),
        octet msg (11 + 28 * announcedCount (octet msg 1))] := by
  have hlayout_of : ∀ {layout key vectors pos}, receiveEnd layout key vectors msg pos = some r →
      r.layout = layout ∧ pos ≤ msg.length ∧ r.vectors = vectors ∧
        r.drx = [octet msg pos, octet msg (pos + 1)] := by
    intro layout key vectors pos hend
    rw [receiveEnd] at hend
    split_ifs at hend with hlen
    obtain rfl := Option.some.inj hend
    exact ⟨rfl, by omega, rfl, rfl⟩
  rw [receive] at hr
  split_ifs at hr with hone htwo hthree
  · obtain ⟨-, hlen, hvectors, hdrx⟩ := hlayout_of hr
    refine ⟨hone, hlen, hvectors, ?_⟩
    rw [hdrx, show 10 + 28 * announcedCount (octet msg 1) + 1 =
      11 + 28 * announcedCount (octet msg 1) by omega]
  · have hno := hlayout.symm.trans (hlayout_of hr).1
    cases hno
  · have hno := hlayout.symm.trans (hlayout_of hr).1
    cases hno

/-- The DRX parameters are where a receiver looks for the security mode, and the length of the
network capability where it looks for the second octet of the DRX parameters. -/
theorem not_describesItself_plain (hgsm : mm.umts = false) :
    ¬ DescribesItself mm (mm.plainFront ++ mm.triplets.flatMap (tripletEncode ·.vec) ++
      mm.ending) := by
  intro h
  obtain ⟨r, hr, hcarries⟩ := h.recovered
  have hle := mm.length_triplets
  have hcapa := mm.msNetworkCapa.2
  have hvectors := length_flatMap_of_length length_tripletEncode mm.triplets
  have hlayout : r.layout = .gsmTriplets := by rw [hcarries.layout, SgsnMmCtx.layout, hgsm]; rfl
  have hstored := hcarries.vectors
  rw [SgsnMmCtx.vectors, hgsm, if_neg (by simp)] at hstored
  obtain ⟨hmode, hlen, hread, hdrx⟩ := receive_gsm hr hlayout
  have hsecond : octet (mm.plainFront ++ mm.triplets.flatMap (tripletEncode ·.vec) ++ mm.ending) 1 =
      Word16.low mm.drxParms := rfl
  rw [hsecond] at hmode hlen hread hdrx
  -- the number of vectors that the receiver reads is right
  have hcount : announcedCount (Word16.low mm.drxParms) = mm.triplets.length := by
    have hsame := congrArg List.length (hread.symm.trans hstored)
    rw [List.length_take, List.length_drop, hvectors] at hsame
    omega
  -- so that it takes the length of the capability for a part of the DRX parameters
  have hlength : octet (mm.plainFront ++ mm.triplets.flatMap (tripletEncode ·.vec) ++ mm.ending)
      (11 + 28 * mm.triplets.length) = octet mm.ending 0 := by
    have hfront : (mm.plainFront ++ mm.triplets.flatMap (tripletEncode ·.vec)).length =
        11 + 28 * mm.triplets.length := by
      rw [List.length_append, length_plainFront, hvectors]
    rw [octet_append_right hfront.le, hfront, Nat.sub_self]
  rw [hcarries.drx, hcount, hlength, network, List.cons.injEq, List.cons.injEq] at hdrx
  have hsmall : (Word16.low mm.drxParms).toNat ≤ 8 := by
    rw [hdrx.2.1, ending_zero]
    exact hcapa
  rw [shiftRight_six_eq_zero (by omega)] at hmode
  exact absurd hmode (by decide)

/-- **No MM context describes itself.** Each fits and announces the right lengths, but the security
mode of none names its layout to a receiver. -/
theorem not_describesItself (host : HostOrder) (mm : SgsnMmCtx) :
    ∃ out, encodeMmContext host mm sgsnCtxMmBuf = some out ∧ out.length ≤ sgsnCtxMmBuf ∧
      Announces mm out ∧ ¬ DescribesItself mm out := by
  have hending := length_ending mm
  have hbuf : sgsnCtxMmBuf = 512 := rfl
  cases humts : mm.umts with
  | true =>
    have hle := mm.length_quintuplets
    have hvectors := length_flatMap_of_length length_quintuplet mm.quintuplets
    refine ⟨_, encodeMmContext_umts host humts, ?_, announces_umts humts,
      not_describesItself_umts humts⟩
    simp only [List.length_append, length_umtsFront, hvectors, length_network]
    omega
  | false =>
    by_cases hcipher : mm.gtpCipher = 0
    · have hle := mm.length_triplets
      have hvectors := length_flatMap_of_length length_tripletEncode mm.triplets
      refine ⟨_, encodeMmContext_plain host humts hcipher, ?_, announces_plain humts hcipher,
        not_describesItself_plain humts⟩
      simp only [List.length_append, length_plainFront, hvectors]
      omega
    · refine ⟨_, encodeMmContext_ciphered host humts hcipher, ?_,
        announces_ciphered humts hcipher, not_describesItself_ciphered humts⟩
      simp only [List.length_append, length_cipheredFront]
      omega

/-! ## An example -/

/-- A vector with a short response for GSM and a long one for UMTS. -/
def exampleVector : OsmoAuthVector where
  gsm := true
  umts := true
  sres := [1, 2, 3, 4]
  res := [5, 6, 7, 8, 9, 10, 11, 12]
  rand := Vector.replicate 16 0xaa
  ck := Vector.replicate 16 0xcc
  ik := Vector.replicate 16 0x11
  autn := Vector.replicate 16 0xbb
  kc := Vector.replicate 8 0xdd
  sized := ⟨rfl, by decide⟩

/-- A mobile station on Iu that was authenticated with the first of two vectors. -/
def exampleOnIu : SgsnMmCtx where
  ranType := .utranIu
  secCtx := .umts
  drxParms := 0x1234
  msNetworkCapa := ⟨[0xe5, 0xe0], by decide⟩
  ciphAlgo := .gea0
  llme := none
  authTriplet := ⟨1, 0, exampleVector⟩
  authTriplets := some #v[⟨1, 0, exampleVector⟩, ⟨0, 1, exampleVector⟩, ⟨0, 7, exampleVector⟩,
    ⟨0, 7, exampleVector⟩, ⟨0, 7, exampleVector⟩]

/-- Its second octet announces two vectors and has security mode 0, with which a receiver takes
nothing. -/
theorem exampleOnIu_not_describesItself :
    ∃ out, encodeMmContext .little exampleOnIu sgsnCtxMmBuf = some out ∧ octet out 1 = 0x17 ∧
      receive out = none ∧ ¬ DescribesItself exampleOnIu out := by
  refine ⟨_, encodeMmContext_umts .little (by decide), by decide, by decide +kernel, ?_⟩
  exact fun h ↦ absurd h.mode (by decide)

end OsmoSgsn.Gtp
