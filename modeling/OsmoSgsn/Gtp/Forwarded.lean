import OsmoSgsn.Gtp.Receiver

/-!
# Vectors that are handed on

The SGSN that gets an MM context challenges the mobile station with the vectors in it. Each can be
used once, and its answer has to be the one that this SGSN would take itself.

The vectors that are placed are all that are there, used or not. A quintuplet has the response for
GSM in the place of that for UMTS.
-/

namespace OsmoSgsn.Gtp

open Gmm (SubAuthType checkAuthRespOn)
open Word16 (network)

variable {mm : SgsnMmCtx} {host : HostOrder}

/-- The tuples whose vectors are placed. -/
def SgsnMmCtx.placed (mm : SgsnMmCtx) : List GsmAuthTuple :=
  if mm.umts then mm.quintuplets else if mm.gtpCipher = 0 then mm.triplets else []

/-- The octets of the vectors in a message. -/
def sentVectors (mm : SgsnMmCtx) (out : Bytes) : Bytes :=
  if mm.umts then (out.drop 36).take (announcedLength out 34)
  else if mm.gtpCipher = 0 then (out.drop 11).take (28 * announcedCount (octet out 2))
  else []

/-- A quintuplet whose response is that for UMTS. -/
def usableQuintuplet (vec : OsmoAuthVector) : Bytes :=
  vec.rand.toList ++ [UInt8.ofNat vec.res.length] ++ vec.res ++ vec.ck.toList ++ vec.ik.toList ++
    [16] ++ vec.autn.toList

/-- The other SGSN can use each vector: none was used, and each has the response that is
expected. -/
structure Usable (mm : SgsnMmCtx) (out : Bytes) : Prop where
  unused : ∀ t ∈ mm.placed, t.useCount = 0
  sent : sentVectors mm out = mm.placed.flatMap fun t ↦
    if mm.umts then usableQuintuplet t.vec else tripletEncode t.vec

/-- What is there to be handed on was not used, and has one response for GSM and UMTS where there
are quintuplets. With a cipher, nothing is handed on. -/
def SgsnMmCtx.Fresh (mm : SgsnMmCtx) : Prop :=
  if mm.umts then ∀ t ∈ mm.stored, t.valid → t.useCount = 0 ∧ t.vec.res = t.vec.sres
  else mm.gtpCipher = 0 → (∀ t ∈ mm.stored, t.valid → t.useCount = 0) ∧
    ((∀ t ∈ mm.stored, t.valid = false) → mm.authTriplet.valid → mm.authTriplet.useCount = 0)

/-! ## What is placed -/

theorem take_vectors {front vectors rest : Bytes} {n k : ℕ} (hfront : front.length = n)
    (hvectors : vectors.length = k) : ((front ++ vectors ++ rest).drop n).take k = vectors := by
  subst hfront hvectors
  rw [List.append_assoc, List.drop_left, List.take_left]

/-- The vectors of every layout are those of the placed tuples. -/
theorem sentVectors_eq (host : HostOrder) (mm : SgsnMmCtx) :
    ∃ out, encodeMmContext host mm sgsnCtxMmBuf = some out ∧ sentVectors mm out =
      mm.placed.flatMap fun t ↦ if mm.umts then quintuplet t.vec else tripletEncode t.vec := by
  cases humts : mm.umts with
  | true =>
    refine ⟨_, encodeMmContext_umts host humts, ?_⟩
    have hvectors := length_flatMap_of_length length_quintuplet mm.quintuplets
    rw [sentVectors, SgsnMmCtx.placed, if_pos humts, if_pos humts, List.append_assoc,
      List.append_assoc, announcedLength_umtsFront, ← List.append_assoc,
      take_vectors (length_umtsFront mm) hvectors]
    rfl
  | false =>
    have hgsm : ¬ mm.umts = true := by simp [humts]
    rw [SgsnMmCtx.placed, if_neg hgsm]
    by_cases hcipher : mm.gtpCipher = 0
    · refine ⟨_, encodeMmContext_plain host humts hcipher, ?_⟩
      have hvectors := length_flatMap_of_length length_tripletEncode mm.triplets
      have hform : octet (mm.plainFront ++ mm.triplets.flatMap (tripletEncode ·.vec) ++
          mm.ending) 2 = mm.formOctet := rfl
      rw [sentVectors, if_neg hgsm, if_pos hcipher, if_pos hcipher, hform, formOctet_count,
        take_vectors (length_plainFront mm) hvectors]
      rfl
    · refine ⟨_, encodeMmContext_ciphered host humts hcipher, ?_⟩
      rw [sentVectors, if_neg hgsm, if_neg hcipher, if_neg hcipher]
      rfl

/-! ## Responses -/

/-- A quintuplet has the response that is expected exactly if that is the one for GSM. -/
theorem quintuplet_append_eq_iff (vec : OsmoAuthVector) (a b : Bytes) :
    quintuplet vec ++ a = usableQuintuplet vec ++ b ↔ vec.res = vec.sres ∧ a = b := by
  have hsres := vec.sized.sres
  have hres := vec.sized.res
  constructor
  · intro h
    simp only [quintuplet, usableQuintuplet, List.append_assoc, List.append_cancel_left_eq,
      List.cons_append, List.nil_append, List.cons.injEq] at h
    obtain ⟨hlen, hrest⟩ := h
    have hfour : vec.res.length = 4 := by
      have hnat := congrArg UInt8.toNat hlen
      rw [UInt8.toNat_ofNat', Nat.mod_eq_of_lt (by omega)] at hnat
      exact hnat.symm
    obtain ⟨hsame, htail⟩ := List.append_inj hrest (hsres.trans hfour.symm)
    simp only [List.append_cancel_left_eq, List.cons.injEq, true_and] at htail
    exact ⟨hsame.symm, htail⟩
  · rintro ⟨hsame, rfl⟩
    have hfour : UInt8.ofNat vec.res.length = 4 := by
      rw [hsame, hsres]
      rfl
    rw [quintuplet, usableQuintuplet, hfour, hsame]

theorem flatMap_quintuplet_eq_iff (ts : List GsmAuthTuple) :
    ts.flatMap (quintuplet ·.vec) = ts.flatMap (usableQuintuplet ·.vec) ↔
      ∀ t ∈ ts, t.vec.res = t.vec.sres := by
  induction ts with
  | nil => simp
  | cons t ts ih =>
    rw [List.flatMap_cons, List.flatMap_cons, quintuplet_append_eq_iff, ih, List.forall_mem_cons]

/-! ## When they can be used -/

theorem forall_mem_quintuplets {P : GsmAuthTuple → Prop} (mm : SgsnMmCtx) :
    (∀ t ∈ mm.quintuplets, P t) ↔ ∀ t ∈ mm.stored, t.valid → P t := by
  simp [SgsnMmCtx.quintuplets, List.mem_filter]

/-- The tuple of the context stands in for those that are not there. -/
theorem forall_mem_triplets {P : GsmAuthTuple → Prop} (mm : SgsnMmCtx) :
    (∀ t ∈ mm.triplets, P t) ↔ (∀ t ∈ mm.stored, t.valid → P t) ∧
      ((∀ t ∈ mm.stored, t.valid = false) → mm.authTriplet.valid → P mm.authTriplet) := by
  have hempty : mm.quintuplets = [] ↔ ∀ t ∈ mm.stored, t.valid = false := by
    simp [SgsnMmCtx.quintuplets, List.filter_eq_nil_iff]
  rw [SgsnMmCtx.triplets, ← forall_mem_quintuplets, ← hempty]
  by_cases hnone : mm.quintuplets = [] ∧ mm.authTriplet.valid = true
  · rw [if_pos hnone, List.forall_mem_singleton, hnone.1]
    simp [hnone.2]
  · rw [if_neg hnone]
    exact (and_iff_left fun h hvalid ↦ absurd ⟨h, hvalid⟩ hnone).symm

/-- **Usable vectors.** The vectors of an MM context can be used exactly if what is there is
fresh. -/
theorem usable_iff (host : HostOrder) (mm : SgsnMmCtx) :
    ∃ out, encodeMmContext host mm sgsnCtxMmBuf = some out ∧ (Usable mm out ↔ mm.Fresh) := by
  obtain ⟨out, hout, hsent⟩ := sentVectors_eq host mm
  refine ⟨out, hout, ?_⟩
  have husable : Usable mm out ↔ (∀ t ∈ mm.placed, t.useCount = 0) ∧
      sentVectors mm out = mm.placed.flatMap fun t ↦
        if mm.umts then usableQuintuplet t.vec else tripletEncode t.vec :=
    ⟨fun h ↦ ⟨h.unused, h.sent⟩, fun h ↦ ⟨h.1, h.2⟩⟩
  rw [husable, hsent, SgsnMmCtx.Fresh, SgsnMmCtx.placed]
  cases humts : mm.umts with
  | true =>
    simp only [if_true]
    rw [flatMap_quintuplet_eq_iff, forall_mem_quintuplets, forall_mem_quintuplets]
    constructor
    · rintro ⟨hunused, hsame⟩ t ht hvalid
      exact ⟨hunused t ht hvalid, hsame t ht hvalid⟩
    · intro h
      exact ⟨fun t ht hvalid ↦ (h t ht hvalid).1, fun t ht hvalid ↦ (h t ht hvalid).2⟩
  | false =>
    simp only [Bool.false_eq_true, if_false, and_true]
    by_cases hcipher : mm.gtpCipher = 0
    · simp only [hcipher, if_true, forall_true_left]
      exact forall_mem_triplets mm
    · simp [hcipher]

/-- The first vector was used, and the second one has the response for GSM. -/
theorem exampleOnIu_not_usable :
    ∃ out, encodeMmContext .little exampleOnIu sgsnCtxMmBuf = some out ∧
      sentVectors exampleOnIu out = quintuplet exampleVector ++ quintuplet exampleVector ∧
      quintuplet exampleVector ≠ usableQuintuplet exampleVector ∧ ¬ Usable exampleOnIu out := by
  refine ⟨_, encodeMmContext_umts .little (by decide), by decide +kernel, by decide, fun h ↦ ?_⟩
  have hplaced : exampleOnIu.placed = [⟨1, 0, exampleVector⟩, ⟨0, 1, exampleVector⟩] := rfl
  have hunused := h.unused ⟨1, 0, exampleVector⟩ (by rw [hplaced]; exact List.mem_cons_self)
  cases hunused

end OsmoSgsn.Gtp
