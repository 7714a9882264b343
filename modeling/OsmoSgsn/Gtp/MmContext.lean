import OsmoSgsn.Gmm.AuthResponse
import OsmoSgsn.Gmm.Drx
import OsmoSgsn.Llc.Entity

/-!
# The MM context of an SGSN Context Response

When a mobile station has moved to another SGSN, that one asks for its MM context and gets it in one
of two layouts: with a UMTS key and quintuplets, or with a GSM key and triplets. A layout has a
number of vectors and a security mode in an octet of its own, and lengths in front of what varies.

The octets are written in one pass, except that the octet with the mode and the number of vectors is
written before the quintuplets and again after them. For triplets the number is counted in a loop of
its own.
-/

namespace OsmoSgsn.Gtp

open Gmm (SgsnRanType SubAuthType gsmKeySeqInval gtpDrx)
open Llc (GprsCiphAlgo)
open Word16 (network)

/-- `struct osmo_auth_vector`. -/
structure OsmoAuthVector extends Gmm.AuthVector where
  rand : Vector UInt8 16
  ck : Vector UInt8 16
  ik : Vector UInt8 16
  autn : Vector UInt8 16
  kc : Vector UInt8 8
  sized : toAuthVector.Sized

/-- `struct gsm_auth_tuple`. -/
structure GsmAuthTuple where
  useCount : ℕ
  keySeq : ℕ
  vec : OsmoAuthVector

/-- A tuple is there. -/
def GsmAuthTuple.valid (t : GsmAuthTuple) : Bool := t.keySeq ≠ gsmKeySeqInval

/-- The key of `struct gprs_llc_llme`. -/
structure LlmeKey where
  cksn : ℕ
  kc : Vector UInt8 16

/-- `struct sgsn_mm_ctx`, as far as it is handed on. -/
structure SgsnMmCtx where
  ranType : SgsnRanType
  secCtx : SubAuthType
  drxParms : BitVec 16
  msNetworkCapa : { buf : Bytes // buf.length ≤ 8 }
  ciphAlgo : GprsCiphAlgo
  llme : Option LlmeKey
  authTriplet : GsmAuthTuple
  /-- `auth_triplets` of the subscriber data. -/
  authTriplets : Option (Vector GsmAuthTuple 5)

/-- `SGSN_CTX_MM_BUF`. -/
def sgsnCtxMmBuf : ℕ := 512

namespace SgsnMmCtx

variable (mm : SgsnMmCtx)

/-- The tuples of the subscriber data. -/
def stored : List GsmAuthTuple := mm.authTriplets.elim [] (·.toList)

/-- `gtp_cipher_from_mm`. -/
def gtpCipher : UInt8 :=
  match mm.ciphAlgo with
  | .gea0 => 0
  | .gea1 => 1
  | .gea2 => 2
  | .gea3 => 3
  | .gea4 => 4

/-- The key sequence number that is handed on, for either layout. -/
def keySeqOctet : UInt8 :=
  if mm.authTriplet.valid then UInt8.ofNat mm.authTriplet.keySeq &&& 7 else 7

/-- `auth_triplet_count`. -/
def authTripletCount : ℕ :=
  match mm.authTriplets with
  | none => if mm.authTriplet.valid then 1 else 0
  | some tuples =>
    let count := tuples.toList.countP (·.valid)
    min (if count = 0 ∧ mm.authTriplet.valid then 1 else count) 5

/-- `mm_kc`. -/
def kc : Option Bytes :=
  match mm.llme.filter (·.cksn ≠ gsmKeySeqInval) with
  | some llme => some (llme.kc.toList.take 8)
  | none => if mm.authTriplet.valid then some mm.authTriplet.vec.kc.toList else none

end SgsnMmCtx

/-! ## Vectors -/

/-- `triplet_encode`. -/
def tripletEncode (vec : OsmoAuthVector) : Bytes := vec.rand.toList ++ vec.sres ++ vec.kc.toList

/-- `triplet_encode`, where there is space for it. -/
def encodeTriplet (space : ℕ) (vec : OsmoAuthVector) : Option Bytes :=
  if space < 28 then none else some (tripletEncode vec)

/-- The octets of `encode_quintuplet`. -/
def quintuplet (vec : OsmoAuthVector) : Bytes :=
  vec.rand.toList ++ [4] ++ vec.sres ++ vec.ck.toList ++ vec.ik.toList ++ [16] ++ vec.autn.toList

/-- `encode_quintuplet`. -/
def encodeQuintuplet (space : ℕ) (vec : OsmoAuthVector) : Option Bytes :=
  if space < 16 + 1 + 4 + 16 + 16 + 1 + 16 then none else some (quintuplet vec)

/-- The loop over the tuples of the subscriber data: up to five that are there, as long as there is
space. Its result are the octets and the number of vectors. -/
def placeVectors (encode : ℕ → OsmoAuthVector → Option Bytes) :
    ℕ → ℕ → List GsmAuthTuple → Bytes × ℕ
  | _, count, [] => ([], count)
  | space, count, t :: ts =>
    if 5 ≤ count then ([], count)
    else if t.valid then
      match encode space t.vec with
      | none => ([], count)
      | some octets =>
        let (rest, n) := placeVectors encode (space - octets.length) (count + 1) ts
        (octets ++ rest, n)
    else placeVectors encode space count ts

/-- `append_gsm_triplets`. -/
def appendGsmTriplets (space : ℕ) (mm : SgsnMmCtx) : Bytes × ℕ :=
  let (octets, count) := placeVectors encodeTriplet space 0 mm.stored
  if count = 0 ∧ mm.authTriplet.valid ∧ 28 ≤ space then (tripletEncode mm.authTriplet.vec, 1)
  else (octets, count)

/-! ## Layouts -/

/-- The end of either layout: the network capability, an empty container, and no access
restriction. -/
def encodeEnd (space : ℕ) (capa : Bytes) : Bytes :=
  let out :=
    if capa.length ≠ 0 ∧ 1 + capa.length < space then UInt8.ofNat capa.length :: capa
    else if 1 ≤ space then [0] else []
  let out := if 2 ≤ space - out.length then out ++ [0, 0] else out
  if 1 ≤ space - out.length then out ++ [0] else out

/-- `encode_gsm_mm_context`. -/
def encodeGsmMmContext (host : HostOrder) (mm : SgsnMmCtx) (bufLen : ℕ) : Option Bytes :=
  if bufLen < 14 then none
  else
    let cipher := mm.gtpCipher
    let form : Bytes :=
      if cipher ≠ 0 then [(5 : UInt8) <<< 5, (cipher <<< 5) ||| (mm.keySeqOctet &&& 7)]
      else [((1 : UInt8) <<< 6) ||| ((UInt8.ofNat mm.authTripletCount &&& 7) <<< 3)]
    let out := gtpDrx host mm.drxParms ++ form ++ mm.kc.getD (List.replicate 8 0)
    let out := if cipher = 0 then out ++ (appendGsmTriplets (bufLen - out.length) mm).1 else out
    some (out ++ encodeEnd (bufLen - out.length) mm.msNetworkCapa)

/-- `encode_umts_mm_context`. -/
def encodeUmtsMmContext (host : HostOrder) (mm : SgsnMmCtx) (bufLen : ℕ) : Option Bytes :=
  if bufLen < 40 then none
  else
    let out : Bytes :=
      [((1 : UInt8) <<< 7) ||| ((1 : UInt8) <<< 6) ||| mm.keySeqOctet, ((2 : UInt8) <<< 6) ||| 7] ++
      mm.authTriplet.vec.ck.toList ++ mm.authTriplet.vec.ik.toList
    let (quintuplets, numVectors) :=
      placeVectors encodeQuintuplet (bufLen - (out.length + 2)) 0 mm.stored
    let out := out ++ network (BitVec.ofNat 16 quintuplets.length) ++ quintuplets
    -- The vectors are counted now, and the second octet is written again.
    let out := out.set 1 ((octet out 1 &&& (0x1f : UInt8)) |||
      ((UInt8.ofNat numVectors &&& (7 : UInt8)) <<< (3 : UInt8)))
    let out := out ++ gtpDrx host mm.drxParms
    some (out ++ encodeEnd (bufLen - out.length) mm.msNetworkCapa)

/-- The layout has a UMTS key and quintuplets. -/
def SgsnMmCtx.umts (mm : SgsnMmCtx) : Bool := mm.ranType = .utranIu ∨ mm.secCtx = .umts

/-- `encode_mm_context`. -/
def encodeMmContext (host : HostOrder) (mm : SgsnMmCtx) (bufLen : ℕ) : Option Bytes :=
  if mm.umts then encodeUmtsMmContext host mm bufLen else encodeGsmMmContext host mm bufLen

/-! ## What is written -/

variable {mm : SgsnMmCtx} {host : HostOrder}

@[simp] theorem length_tripletEncode (vec : OsmoAuthVector) : (tripletEncode vec).length = 28 := by
  simp [tripletEncode, vec.sized.sres]

@[simp] theorem length_quintuplet (vec : OsmoAuthVector) : (quintuplet vec).length = 70 := by
  simp [quintuplet, vec.sized.sres]

/-- Where there is space for all, the loop places every tuple that is there. -/
theorem placeVectors_eq {encode : ℕ → OsmoAuthVector → Option Bytes} {f : OsmoAuthVector → Bytes}
    {size : ℕ} (hf : ∀ vec, (f vec).length = size)
    (hencode : ∀ space vec, size ≤ space → encode space vec = some (f vec))
    (ts : List GsmAuthTuple) (space count : ℕ) (hspace : size * ts.length ≤ space)
    (hcount : count + ts.length ≤ 5) :
    placeVectors encode space count ts =
      ((ts.filter (·.valid)).flatMap (f ·.vec), count + (ts.filter (·.valid)).length) := by
  induction ts generalizing space count with
  | nil => rfl
  | cons t ts ih =>
    rw [List.length_cons, Nat.mul_succ] at hspace
    rw [List.length_cons] at hcount
    have hroom : ¬ 5 ≤ count := by omega
    rw [placeVectors, if_neg hroom]
    cases hvalid : t.valid with
    | true =>
      have hnext : size * ts.length ≤ space - (f t.vec).length := by
        rw [hf]
        omega
      simp only [if_true, hencode space t.vec (by omega), ih _ (count + 1) hnext (by omega),
        List.filter_cons, hvalid, List.flatMap_cons, List.length_cons, Prod.mk.injEq, true_and]
      omega
    | false =>
      simp only [Bool.false_eq_true, if_false, ih space count (by omega) (by omega),
        List.filter_cons, hvalid]

namespace SgsnMmCtx

/-- The tuples that are there. -/
def quintuplets (mm : SgsnMmCtx) : List GsmAuthTuple := mm.stored.filter (·.valid)

/-- The tuples that are there, or else the one of the context. -/
def triplets (mm : SgsnMmCtx) : List GsmAuthTuple :=
  if mm.quintuplets = [] ∧ mm.authTriplet.valid then [mm.authTriplet] else mm.quintuplets

/-- The key of the GSM layout. -/
def gsmKey (mm : SgsnMmCtx) : Bytes := mm.kc.getD (List.replicate 8 0)

/-- The key of the UMTS layout. -/
def umtsKey (mm : SgsnMmCtx) : Bytes :=
  mm.authTriplet.vec.ck.toList ++ mm.authTriplet.vec.ik.toList

theorem length_stored (mm : SgsnMmCtx) : mm.stored.length ≤ 5 := by
  unfold stored
  cases mm.authTriplets with
  | none => simp
  | some tuples => simp

theorem length_quintuplets (mm : SgsnMmCtx) : mm.quintuplets.length ≤ 5 :=
  (List.length_filter_le _ _).trans mm.length_stored

theorem length_triplets (mm : SgsnMmCtx) : mm.triplets.length ≤ 5 := by
  rw [triplets]
  split_ifs
  · simp
  · exact mm.length_quintuplets

theorem length_gsmKey (mm : SgsnMmCtx) : mm.gsmKey.length = 8 := by
  rw [gsmKey, kc]
  split
  · simp
  · split_ifs <;> simp

/-- **Both loops count the same.** The number of triplets is that of those that are placed. -/
theorem authTripletCount_eq (mm : SgsnMmCtx) : mm.authTripletCount = mm.triplets.length := by
  have hle := mm.length_triplets
  have hcount : mm.stored.countP (·.valid) = mm.quintuplets.length := List.countP_eq_length_filter
  have hempty : mm.quintuplets = [] ↔ mm.quintuplets.length = 0 := List.length_eq_zero_iff.symm
  unfold authTripletCount
  unfold triplets at hle ⊢
  unfold stored at hcount
  cases htuples : mm.authTriplets with
  | none =>
    have hnone : mm.quintuplets = [] := by simp [quintuplets, stored, htuples]
    cases hvalid : mm.authTriplet.valid <;> simp [hnone]
  | some tuples =>
    rw [htuples] at hcount
    simp only [Option.elim_some] at hcount
    simp only [hcount]
    by_cases hnone : mm.quintuplets = [] ∧ mm.authTriplet.valid = true
    · rw [if_pos hnone, if_pos ⟨hempty.mp hnone.1, hnone.2⟩]
      rfl
    · rw [if_neg hnone] at hle ⊢
      rw [if_neg fun h ↦ hnone ⟨hempty.mpr h.1, h.2⟩, min_eq_left hle]

end SgsnMmCtx

theorem length_flatMap_of_length {f : OsmoAuthVector → Bytes} {size : ℕ}
    (hf : ∀ vec, (f vec).length = size) (ts : List GsmAuthTuple) :
    (ts.flatMap (f ·.vec)).length = size * ts.length := by
  simp [List.length_flatMap, hf, Nat.mul_comm]

theorem appendGsmTriplets_eq {space : ℕ} (hspace : 28 * 5 ≤ space) :
    appendGsmTriplets space mm =
      (mm.triplets.flatMap (tripletEncode ·.vec), mm.triplets.length) := by
  have hle := mm.length_stored
  have hplaced : placeVectors encodeTriplet space 0 mm.stored =
      (mm.quintuplets.flatMap (tripletEncode ·.vec), 0 + mm.quintuplets.length) :=
    placeVectors_eq length_tripletEncode (fun space vec h ↦ if_neg (not_lt.mpr h)) mm.stored space 0
      (by omega) (by omega)
  rw [appendGsmTriplets, hplaced, SgsnMmCtx.triplets]
  simp only [Nat.zero_add, List.length_eq_zero_iff]
  by_cases hnone : mm.quintuplets = [] ∧ mm.authTriplet.valid = true
  · have hfallback : mm.quintuplets = [] ∧ mm.authTriplet.valid = true ∧ 28 ≤ space :=
      ⟨hnone.1, hnone.2, by omega⟩
    rw [if_pos hnone, if_pos hfallback]
    simp
  · rw [if_neg hnone, if_neg fun h ↦ hnone ⟨h.1, h.2.1⟩]

/-- Where there is space, the end is complete. -/
theorem encodeEnd_eq {space : ℕ} {capa : Bytes} (hcapa : capa.length ≤ 8) (hspace : 12 ≤ space) :
    encodeEnd space capa = UInt8.ofNat capa.length :: (capa ++ [0, 0, 0]) := by
  have hfirst : (if capa.length ≠ 0 ∧ 1 + capa.length < space then
      UInt8.ofNat capa.length :: capa
      else if 1 ≤ space then [0] else []) = UInt8.ofNat capa.length :: capa := by
    cases capa with
    | nil => simp [show 1 ≤ space by omega]
    | cons a capa => rw [if_pos ⟨by simp, by omega⟩]
  have hcontainer : 2 ≤ space - (UInt8.ofNat capa.length :: capa).length := by
    rw [List.length_cons]
    omega
  have hrestriction : 1 ≤ space - ((UInt8.ofNat capa.length :: capa) ++ [0, 0]).length := by
    rw [List.length_append, List.length_cons]
    simp only [List.length_cons, List.length_nil]
    omega
  rw [encodeEnd]
  simp only [hfirst, if_pos hcontainer, if_pos hrestriction]
  simp

/-! ## The octets of each layout -/

/-- The end of a layout in `sgsnCtxMmBuf` octets. -/
def SgsnMmCtx.ending (mm : SgsnMmCtx) : Bytes :=
  UInt8.ofNat mm.msNetworkCapa.1.length :: (mm.msNetworkCapa.1 ++ [0, 0, 0])

theorem gtpDrx_eq (host : HostOrder) (v : BitVec 16) : gtpDrx host v = network v :=
  Word16.store_htons host v

/-- The octet with the number of triplets. -/
def SgsnMmCtx.formOctet (mm : SgsnMmCtx) : UInt8 :=
  ((1 : UInt8) <<< 6) ||| ((UInt8.ofNat mm.triplets.length &&& 7) <<< 3)

/-- The second octet of the UMTS layout, as it is written at last. -/
def SgsnMmCtx.modeOctet (mm : SgsnMmCtx) : UInt8 :=
  ((0x87 : UInt8) &&& (0x1f : UInt8)) ||| ((UInt8.ofNat mm.quintuplets.length &&& 7) <<< 3)

/-- The GSM layout without a cipher, up to the triplets. -/
def SgsnMmCtx.plainFront (mm : SgsnMmCtx) : Bytes :=
  network mm.drxParms ++ [mm.formOctet] ++ mm.gsmKey

/-- The GSM layout with a cipher, up to its end. -/
def SgsnMmCtx.cipheredFront (mm : SgsnMmCtx) : Bytes :=
  network mm.drxParms ++ [(5 : UInt8) <<< 5, (mm.gtpCipher <<< 5) ||| (mm.keySeqOctet &&& 7)] ++
    mm.gsmKey

/-- The UMTS layout, up to the quintuplets. -/
def SgsnMmCtx.umtsFront (mm : SgsnMmCtx) : Bytes :=
  [(0xc0 : UInt8) ||| mm.keySeqOctet, mm.modeOctet] ++ mm.umtsKey ++
    network (BitVec.ofNat 16 (70 * mm.quintuplets.length))

@[simp] theorem length_network (v : BitVec 16) : (network v).length = 2 := rfl

@[simp] theorem length_umtsKey (mm : SgsnMmCtx) : mm.umtsKey.length = 32 := by
  simp [SgsnMmCtx.umtsKey]

@[simp] theorem length_plainFront (mm : SgsnMmCtx) : mm.plainFront.length = 11 := by
  simp [SgsnMmCtx.plainFront, mm.length_gsmKey]

@[simp] theorem length_cipheredFront (mm : SgsnMmCtx) : mm.cipheredFront.length = 12 := by
  simp [SgsnMmCtx.cipheredFront, mm.length_gsmKey]

@[simp] theorem length_umtsFront (mm : SgsnMmCtx) : mm.umtsFront.length = 36 := by
  simp [SgsnMmCtx.umtsFront]

/-- The GSM layout without a cipher. -/
theorem encodeMmContext_plain (host : HostOrder) (hgsm : mm.umts = false)
    (hcipher : mm.gtpCipher = 0) :
    encodeMmContext host mm sgsnCtxMmBuf =
      some (mm.plainFront ++ mm.triplets.flatMap (tripletEncode ·.vec) ++ mm.ending) := by
  have hle := mm.length_triplets
  have hvectors := length_flatMap_of_length length_tripletEncode mm.triplets
  have hfront : gtpDrx host mm.drxParms ++ [mm.formOctet] ++ mm.gsmKey = mm.plainFront := by
    rw [gtpDrx_eq, SgsnMmCtx.plainFront]
  have hbuf : sgsnCtxMmBuf = 512 := rfl
  rw [encodeMmContext, hgsm, encodeGsmMmContext]
  simp only [hcipher, ne_eq, not_true_eq_false, if_false, if_true, mm.authTripletCount_eq,
    Bool.false_eq_true]
  rw [if_neg (by decide), ← SgsnMmCtx.gsmKey, ← SgsnMmCtx.formOctet, hfront,
    appendGsmTriplets_eq (by rw [length_plainFront]; decide), encodeEnd_eq mm.msNetworkCapa.2,
    SgsnMmCtx.ending]
  rw [List.length_append, length_plainFront, hvectors]
  omega

/-- The GSM layout with a cipher. -/
theorem encodeMmContext_ciphered (host : HostOrder) (hgsm : mm.umts = false)
    (hcipher : mm.gtpCipher ≠ 0) :
    encodeMmContext host mm sgsnCtxMmBuf = some (mm.cipheredFront ++ mm.ending) := by
  have hbuf : sgsnCtxMmBuf = 512 := rfl
  rw [encodeMmContext, hgsm, encodeGsmMmContext]
  simp only [hcipher, ne_eq, not_false_eq_true, if_false, if_true, Bool.false_eq_true]
  rw [if_neg (by decide), ← SgsnMmCtx.gsmKey, gtpDrx_eq, ← SgsnMmCtx.cipheredFront,
    encodeEnd_eq mm.msNetworkCapa.2, SgsnMmCtx.ending]
  rw [length_cipheredFront]
  omega

/-- The UMTS layout. -/
theorem encodeMmContext_umts (host : HostOrder) (humts : mm.umts = true) :
    encodeMmContext host mm sgsnCtxMmBuf =
      some (mm.umtsFront ++ mm.quintuplets.flatMap (quintuplet ·.vec) ++ network mm.drxParms ++
        mm.ending) := by
  have hle := mm.length_quintuplets
  have hstored := mm.length_stored
  have hvectors := length_flatMap_of_length length_quintuplet mm.quintuplets
  have hbuf : sgsnCtxMmBuf = 512 := rfl
  have hplaced : placeVectors encodeQuintuplet (512 - 36) 0 mm.stored =
      (mm.quintuplets.flatMap (quintuplet ·.vec), 0 + mm.quintuplets.length) :=
    placeVectors_eq length_quintuplet (fun space vec h ↦ if_neg (not_lt.mpr h)) mm.stored _ 0
      (by omega) (by omega)
  have hhead : ([((1 : UInt8) <<< 7) ||| ((1 : UInt8) <<< 6) ||| mm.keySeqOctet,
      ((2 : UInt8) <<< 6) ||| 7] ++ mm.authTriplet.vec.ck.toList ++
        mm.authTriplet.vec.ik.toList).length = 34 := by
    simp
  rw [encodeMmContext, humts, encodeUmtsMmContext]
  simp only [if_true, hbuf, hhead, hplaced, hvectors, gtpDrx_eq]
  rw [if_neg (by decide), Nat.zero_add, encodeEnd_eq mm.msNetworkCapa.2]
  · simp only [SgsnMmCtx.umtsFront, SgsnMmCtx.umtsKey, SgsnMmCtx.ending, SgsnMmCtx.modeOctet,
      List.cons_append, List.nil_append, List.append_assoc, List.set_cons_succ,
      List.set_cons_zero, octet_cons_succ, octet_cons_zero]
    rfl
  · simp only [List.length_append, List.length_set, hhead, length_network, hvectors]
    omega

end OsmoSgsn.Gtp
