import OsmoSgsn.Library.BitSet
import OsmoSgsn.Sndcp.Xid

/-!
# Decoding undoes encoding

The encoder asserts what it relies on; where it does not fail, the octets that it writes are given
by a function of the field (`CompField.bytes`), and the decoder reads the field back from any memory
that holds these octets. Fields are packed in the reverse order of the list, and unpacked one in
front of the other, so the two reversals cancel.
-/

namespace OsmoSgsn.Sndcp

/-! ## Assertions -/

theorem osmoAssert_bind {α : Type} (p : Prop) [Decidable p] (x : Except XidFailure α) :
    (do osmoAssert p; x) = if p then x else .error .assertion := by
  rw [osmoAssert]
  split <;> rfl

theorem ok_bind {α β : Type} (p : Prop) [Decidable p] (a : α) (f : α → Except XidFailure β) :
    (if p then Except.ok a else .error .assertion) >>= f =
      if p then f a else .error .assertion := by
  split <;> rfl

/-! ## Octets in memory -/

/-- Memory holds a string of octets at a position. -/
def Holds (mem : Mem) : ℕ → Bytes → Prop
  | _, [] => True
  | pos, b :: bytes => mem pos = b ∧ Holds mem (pos + 1) bytes

theorem holds_append {mem : Mem} {pos : ℕ} {a b : Bytes} :
    Holds mem pos (a ++ b) ↔ Holds mem pos a ∧ Holds mem (pos + a.length) b := by
  induction a generalizing pos with
  | nil => simp [Holds]
  | cons x a ih =>
    rw [List.cons_append, Holds, Holds, ih, and_assoc, List.length_cons, Nat.add_assoc,
      Nat.add_comm 1]

theorem holds_of_getElem? {mem : Mem} {pos : ℕ} {bytes : Bytes}
    (h : ∀ i b, bytes[i]? = some b → mem (pos + i) = b) : Holds mem pos bytes := by
  induction bytes generalizing pos with
  | nil => trivial
  | cons x bytes ih =>
    refine ⟨h 0 x rfl, ih fun i b hi ↦ ?_⟩
    rw [Nat.add_assoc, Nat.add_comm 1]
    exact h (i + 1) b hi

theorem holds_message (bytes : Bytes) (behind : Mem) : Holds (message bytes behind) 0 bytes := by
  refine holds_of_getElem? fun i b hi ↦ ?_
  rw [Nat.zero_add, message, List.getD_eq_getElem?_getD, hi, Option.getD_some]

/-! ## Numeric parameters -/

/-- A range of which the size of the parameter leaves nothing out. -/
def ParamRange.Fits (r : ParamRange) : Prop :=
  0 ≤ r.min ∧ r.max < if r.wide then 2 ^ 16 else 2 ^ 8

instance (r : ParamRange) : Decidable r.Fits := inferInstanceAs (Decidable (_ ∧ _))

@[simp] theorem ParamRange.length_put (r : ParamRange) (value : ℤ) :
    (r.put value).length = r.width := by
  rw [put, width]
  split <;> rfl

private theorem toNat_high (v : ℕ) (hv : v < 2 ^ 16) :
    (UInt8.ofNat (v >>> 8)).toNat <<< 8 ||| (UInt8.ofNat v).toNat = v := by
  have hlow : (UInt8.ofNat v).toNat < 2 ^ 8 := UInt8.toNat_lt _
  have hhigh : (UInt8.ofNat (v >>> 8)).toNat = v / 256 := by
    rw [UInt8.toNat_ofNat', Nat.shiftRight_eq_div_pow]
    omega
  rw [← Nat.shiftLeft_add_eq_or_of_lt hlow, hhigh, UInt8.toNat_ofNat', Nat.shiftLeft_eq]
  omega

/-- A parameter in its range is read back. -/
theorem ParamRange.get_put {r : ParamRange} (hr : r.Fits) {value : ℤ} (hmin : r.min ≤ value)
    (hmax : value ≤ r.max) {mem : Mem} {pos srcLen : ℕ} (hmem : Holds mem pos (r.put value))
    (hlen : r.width ≤ srcLen) : r.get mem pos srcLen = some value := by
  obtain ⟨hzero, hbound⟩ := hr
  obtain ⟨v, rfl⟩ : ∃ v : ℕ, value = v := ⟨value.toNat, by omega⟩
  obtain ⟨wide, min, max⟩ := r
  have hmin' : ¬ (v : ℤ) < min := not_lt.mpr hmin
  have hmax' : ¬ max < (v : ℤ) := not_lt.mpr hmax
  cases wide with
  | true =>
    simp only [if_true] at hbound
    have hv : v < 2 ^ 16 := by
      simp only at hmax
      omega
    obtain ⟨hhigh, hlow, -⟩ := hmem
    have hlen' : ¬ srcLen < 2 := not_lt.mpr hlen
    simp only [get, if_true, decodePcomp16BitField, if_neg hlen', hhigh, hlow, Int.toNat_natCast,
      toNat_high v hv, if_neg hmin', if_neg hmax']
  | false =>
    simp only [Bool.false_eq_true, if_false] at hbound
    have hv : v < 2 ^ 8 := by
      simp only at hmax
      omega
    obtain ⟨hoctet, -⟩ := hmem
    have hlen' : ¬ srcLen < 1 := not_lt.mpr hlen
    have hback : (UInt8.ofNat v).toNat = v := by
      rw [UInt8.toNat_ofNat']
      omega
    simp only [get, Bool.false_eq_true, if_false, decodePcomp8BitField, if_neg hlen', hoctet,
      Int.toNat_natCast, hback, if_neg hmin', if_neg hmax']

/-- Whether values lie in their ranges. -/
def InRanges (rvs : List (ParamRange × ℤ)) : Prop :=
  ∀ rv ∈ rvs, rv.1.min ≤ rv.2 ∧ rv.2 ≤ rv.1.max

instance (rvs : List (ParamRange × ℤ)) : Decidable (InRanges rvs) :=
  inferInstanceAs (Decidable (∀ rv ∈ rvs, _))

/-- The octets of a list of parameters. -/
def rangeBytes (rvs : List (ParamRange × ℤ)) : Bytes := rvs.flatMap fun rv ↦ rv.1.put rv.2

theorem encodeRanges_eq (rvs : List (ParamRange × ℤ)) :
    encodeRanges rvs = if InRanges rvs then .ok (rangeBytes rvs) else .error .assertion := by
  induction rvs with
  | nil => rfl
  | cons rv rvs ih =>
    have hcons : InRanges (rv :: rvs) ↔ (rv.1.min ≤ rv.2 ∧ rv.2 ≤ rv.1.max) ∧ InRanges rvs :=
      List.forall_mem_cons
    rw [encodeRanges, ih, osmoAssert_bind, ok_bind, ← ite_and]
    exact if_congr hcons.symm rfl rfl

theorem length_rangeBytes (rvs : List (ParamRange × ℤ)) :
    (rangeBytes rvs).length = (rvs.map fun rv ↦ rv.1.width).sum := by
  rw [rangeBytes, List.length_flatMap]
  simp only [ParamRange.length_put]

/-- Parameters in their ranges are read back, and the others are read behind them. -/
theorem decodeRanges_append {mem : Mem} (rvs : List (ParamRange × ℤ)) (rs : List ParamRange)
    {pos srcLen : ℕ} (hfits : ∀ rv ∈ rvs, rv.1.Fits) (hin : InRanges rvs)
    (hmem : Holds mem pos (rangeBytes rvs)) (hlen : (rangeBytes rvs).length ≤ srcLen) :
    decodeRanges mem pos srcLen (rvs.map (·.1) ++ rs) =
      let (values, n) := decodeRanges mem (pos + (rangeBytes rvs).length)
        (srcLen - (rangeBytes rvs).length) rs
      (rvs.map (·.2) ++ values, (rangeBytes rvs).length + n) := by
  induction rvs generalizing pos srcLen with
  | nil => simp [rangeBytes]
  | cons rv rvs ih =>
    have hin' := List.forall_mem_cons.mp hin
    rw [List.forall_mem_cons] at hfits
    rw [rangeBytes, List.flatMap_cons, List.length_append, ParamRange.length_put] at hlen
    rw [rangeBytes, List.flatMap_cons, holds_append, ParamRange.length_put] at hmem
    have hget := ParamRange.get_put hfits.1 hin'.1.1 hin'.1.2 hmem.1 (by omega : _ ≤ srcLen)
    have hrest := ih hfits.2 hin'.2 hmem.2 (by rw [rangeBytes]; omega : _ ≤ srcLen - rv.1.width)
    have hcount : (rangeBytes (rv :: rvs)).length = rv.1.width + (rangeBytes rvs).length := by
      rw [length_rangeBytes, length_rangeBytes, List.map_cons, List.sum_cons]
    rw [List.map_cons, List.cons_append, decodeRanges, hget]
    simp only [hrest, hcount, List.map_cons, List.cons_append, Nat.add_assoc, Nat.sub_sub]

/-! ## SAPIs -/

/-- The SAPIs that the encoder accepts. -/
def SapisOk (nsapis : List ℕ) : Prop :=
  nsapis.length ≤ 11 ∧ ∀ nsapi ∈ nsapis, 5 ≤ nsapi ∧ nsapi ≤ 15

instance (nsapis : List ℕ) : Decidable (SapisOk nsapis) := inferInstanceAs (Decidable (_ ∧ _))

/-- The word with a bit for each NSAPI. -/
def sapiWord (nsapis : List ℕ) : BitVec 16 :=
  nsapis.foldl (fun blob nsapi ↦ blob ||| (1#16 <<< nsapi)) 0

/-- The two octets of the SAPIs. -/
def sapiBytes (nsapis : List ℕ) : Bytes :=
  [UInt8.ofNat ((sapiWord nsapis).toNat >>> 8), UInt8.ofNat (sapiWord nsapis).toNat]

theorem encodePcompApplicableSapis_eq (nsapis : List ℕ) :
    encodePcompApplicableSapis nsapis =
      if SapisOk nsapis then .ok (sapiBytes nsapis) else .error .assertion := by
  rw [encodePcompApplicableSapis, osmoAssert_bind, osmoAssert_bind, ← ite_and]
  rfl

/-- NSAPIs in ascending order are read back. -/
theorem decodePcompApplicableSapis_sapiBytes {mem : Mem} {pos srcLen : ℕ} {nsapis : List ℕ}
    (hin : ∀ nsapi ∈ nsapis, 5 ≤ nsapi ∧ nsapi ≤ 15) (hsorted : nsapis.Pairwise (· < ·))
    (hmem : Holds mem pos (sapiBytes nsapis)) (hlen : 2 ≤ srcLen) :
    decodePcompApplicableSapis mem pos srcLen = some nsapis := by
  obtain ⟨hhigh, hlow, -⟩ := hmem
  rw [decodePcompApplicableSapis, if_neg (not_lt.mpr hlen), hhigh, hlow,
    toNat_high _ (sapiWord nsapis).isLt]
  have hbit : ∀ i < 15, ((sapiWord nsapis).toNat >>> 5).testBit i = decide (i + 5 ∈ nsapis) := by
    intro i hi
    rw [Nat.testBit_shiftRight, Nat.add_comm]
    rcases Nat.lt_or_ge (i + 5) 16 with h16 | h16
    · have hmem := BitVec.getLsbD_foldl_or nsapis 0#16 h16
      rw [BitVec.getLsbD_zero, Bool.false_or] at hmem
      exact hmem
    · have hnot : i + 5 ∉ nsapis := fun h ↦ by
        have := (hin _ h).2
        omega
      rw [decide_eq_false hnot]
      exact BitVec.getLsbD_of_ge _ _ h16
  have hsorted' : (((List.range 15).filter ((sapiWord nsapis).toNat >>> 5).testBit).map
      (· + 5)).Pairwise (· < ·) := by
    refine List.Pairwise.map _ (fun a b h ↦ Nat.add_lt_add_right h 5) ?_
    exact List.pairwise_lt_range.filter _
  refine congrArg some ?_
  refine List.Pairwise.eq_of_mem_iff hsorted' hsorted fun nsapi ↦ ?_
  rw [List.mem_map]
  constructor
  · rintro ⟨i, hi, rfl⟩
    rw [List.mem_filter, List.mem_range] at hi
    rw [hbit i hi.1] at hi
    exact of_decide_eq_true hi.2
  · intro h
    obtain ⟨h5, h15⟩ := hin nsapi h
    refine ⟨nsapi - 5, List.mem_filter.mpr ⟨List.mem_range.mpr (by omega), ?_⟩, by omega⟩
    rw [hbit _ (by omega), Nat.sub_add_cancel h5]
    exact decide_eq_true h

/-- SAPIs and parameters in their ranges are read back, and the others are read behind them. -/
theorem decodeSapisAndRanges_append {mem : Mem} {pos srcLen : ℕ} {nsapis : List ℕ}
    (hsapis : ∀ nsapi ∈ nsapis, 5 ≤ nsapi ∧ nsapi ≤ 15) (hsorted : nsapis.Pairwise (· < ·))
    (rvs : List (ParamRange × ℤ)) (rs : List ParamRange) (hfits : ∀ rv ∈ rvs, rv.1.Fits)
    (hin : InRanges rvs) (hmem : Holds mem pos (sapiBytes nsapis ++ rangeBytes rvs))
    (hlen : (rangeBytes rvs).length + 2 ≤ srcLen) :
    decodeSapisAndRanges mem pos srcLen (rvs.map (·.1) ++ rs) =
      let (values, n) := decodeRanges mem (pos + 2 + (rangeBytes rvs).length)
        (srcLen - 2 - (rangeBytes rvs).length) rs
      (nsapis, rvs.map (·.2) ++ values, (rangeBytes rvs).length + 2 + n) := by
  rw [holds_append] at hmem
  have hget := decodePcompApplicableSapis_sapiBytes hsapis hsorted hmem.1 (by omega : 2 ≤ srcLen)
  have hrest := decodeRanges_append rvs rs hfits hin hmem.2 (by omega : _ ≤ srcLen - 2)
  have hcount : (sapiBytes nsapis).length = 2 := rfl
  rw [hcount] at hrest
  rw [decodeSapisAndRanges, hget]
  simp only [hrest, Prod.mk.injEq, true_and]
  omega

/-- SAPIs and parameters together are read back. -/
theorem decodeSapisAndRanges_bytes {mem : Mem} {pos srcLen : ℕ} {nsapis : List ℕ}
    (hsapis : SapisOk nsapis) (hsorted : nsapis.Pairwise (· < ·)) (rvs : List (ParamRange × ℤ))
    (hfits : ∀ rv ∈ rvs, rv.1.Fits) (hin : InRanges rvs)
    (hmem : Holds mem pos (sapiBytes nsapis ++ rangeBytes rvs))
    (hlen : (rangeBytes rvs).length + 2 ≤ srcLen) :
    decodeSapisAndRanges mem pos srcLen (rvs.map (·.1)) =
      (nsapis, rvs.map (·.2), (rangeBytes rvs).length + 2) := by
  have h := decodeSapisAndRanges_append hsapis.2 hsorted rvs [] hfits hin hmem hlen
  simpa [decodeRanges] using h

/-! ## Parameters of an algorithm -/

namespace CompParams

/-- The ranges and values that follow the SAPIs. -/
def ranged : CompParams → List (ParamRange × ℤ)
  | .rfc1144 params => rfc1144Ranges.zip params.values
  | .rfc2507 params => rfc2507Ranges.zip params.values
  | .rohc params => rohcRanges.zip [params.maxCid, params.maxHeader]
  | .v42bis params => v42bisRanges.zip params.values
  | .v44 params => v44EncodeRanges.zip params.values

/-- What the encoder asserts beyond the ranges. -/
def Further : CompParams → Prop
  | .rohc params => params.profile.length ≤ 16
  | .v44 params => (params.c0 = 0x80 ∨ params.c0 = 0xc0) ∧ 2 * params.p1t ≤ params.p3t ∧
      2 * params.p1r ≤ params.p3r
  | _ => True

instance : (params : CompParams) → Decidable params.Further
  | .rfc1144 _ => inferInstanceAs (Decidable True)
  | .rfc2507 _ => inferInstanceAs (Decidable True)
  | .rohc _ => inferInstanceAs (Decidable (_ ≤ _))
  | .v42bis _ => inferInstanceAs (Decidable True)
  | .v44 _ => inferInstanceAs (Decidable (_ ∧ _))

/-- What the encoder asserts of the parameters. -/
def Encodable (params : CompParams) : Prop :=
  SapisOk params.nsapi ∧ InRanges params.ranged ∧ params.Further

instance (params : CompParams) : Decidable params.Encodable := inferInstanceAs (Decidable (_ ∧ _))

/-- The profiles of a ROHC field. -/
def profileBytes : CompParams → Bytes
  | .rohc params => params.profile.flatMap profileRange.put
  | _ => []

/-- The octets of the parameters. -/
def bytes (params : CompParams) : Bytes :=
  sapiBytes params.nsapi ++ rangeBytes params.ranged ++ params.profileBytes

/-- SAPIs and parameters in their ranges. -/
theorem encode_sapis_ranges (nsapis : List ℕ) (rvs : List (ParamRange × ℤ)) :
    (do
      let sapis ← encodePcompApplicableSapis nsapis
      let bytes ← encodeRanges rvs
      return sapis ++ bytes) =
      if SapisOk nsapis ∧ InRanges rvs then .ok (sapiBytes nsapis ++ rangeBytes rvs)
      else .error .assertion := by
  rw [encodePcompApplicableSapis_eq, encodeRanges_eq, ok_bind, ok_bind, ← ite_and]
  rfl

/-- **The encoder** writes these octets, or an assertion fails. -/
theorem encodeCompParams_eq (params : CompParams) :
    encodeCompParams params = if params.Encodable then .ok params.bytes else .error .assertion := by
  have hplain (hfurther : params.Further) (hprofile : params.profileBytes = []) :
      (if SapisOk params.nsapi ∧ InRanges params.ranged then
        Except.ok (sapiBytes params.nsapi ++ rangeBytes params.ranged)
      else .error .assertion) =
        if params.Encodable then .ok params.bytes else .error XidFailure.assertion := by
    refine if_congr ?_ ?_ rfl
    · rw [Encodable, and_iff_left hfurther]
    · rw [bytes, hprofile, List.append_nil]
  cases params with
  | rfc1144 params => exact (encode_sapis_ranges _ _).trans (hplain trivial rfl)
  | rfc2507 params => exact (encode_sapis_ranges _ _).trans (hplain trivial rfl)
  | v42bis params => exact (encode_sapis_ranges _ _).trans (hplain trivial rfl)
  | rohc params =>
    rw [encodeCompParams, encodePcompRohcParams, encodePcompApplicableSapis_eq, encodeRanges_eq,
      osmoAssert_bind, ok_bind, ok_bind, ← ite_and, ← ite_and]
    refine if_congr ?_ rfl rfl
    simp only [Encodable, Further, ranged, nsapi]
    tauto
  | v44 params =>
    rw [encodeCompParams, encodeDcompV44Params, encodePcompApplicableSapis_eq, encodeRanges_eq,
      ok_bind, osmoAssert_bind, ok_bind, osmoAssert_bind, osmoAssert_bind, ← ite_and, ← ite_and,
      ← ite_and, ← ite_and]
    refine if_congr ?_ ?_ rfl
    · simp only [Encodable, Further, ranged, nsapi]
      tauto
    · rw [bytes, show (v44 params).profileBytes = [] from rfl, List.append_nil]
      rfl

/-- The number of octets of the parameters. -/
def size : CompParams → ℕ
  | .rfc1144 _ => 3
  | .rfc2507 _ => 9
  | .rohc params => 6 + 2 * params.profile.length
  | .v42bis _ => 6
  | .v44 _ => 12

@[simp] theorem length_bytes (params : CompParams) : params.bytes.length = params.size := by
  cases params with
  | rfc1144 params => rfl
  | rfc2507 params => rfl
  | v42bis params => rfl
  | v44 params => rfl
  | rohc params =>
    have hprofiles : (params.profile.flatMap profileRange.put).length =
        2 * params.profile.length := by
      rw [List.length_flatMap]
      simp [ParamRange.length_put, profileRange, ParamRange.width, Nat.mul_comm]
    rw [bytes, List.length_append, size, profileBytes, hprofiles]
    rfl

/-- Parameters without a list of their own, and with the same ranges for the encoder and the
decoder. -/
def Plain : CompParams → Prop
  | .rfc1144 _ | .rfc2507 _ | .v42bis _ => True
  | .rohc _ | .v44 _ => False

theorem fits_ranged (params : CompParams) : ∀ rv ∈ params.ranged, rv.1.Fits := by
  have hzip (rs : List ParamRange) (vs : List ℤ) (h : ∀ r ∈ rs, r.Fits) :
      ∀ rv ∈ rs.zip vs, rv.1.Fits := fun rv hrv ↦ h _ (List.of_mem_zip hrv).1
  cases params with
  | rfc1144 params => exact hzip _ _ (by decide)
  | rfc2507 params => exact hzip _ _ (by decide)
  | rohc params => exact hzip _ _ (by decide)
  | v42bis params => exact hzip _ _ (by decide)
  | v44 params => exact hzip _ _ (by decide)

/-- **The decoder** reads the parameters back. -/
theorem decodeCompParams_bytes {params : CompParams} (hplain : params.Plain)
    (henc : params.Encodable) (hsorted : params.nsapi.Pairwise (· < ·)) {mem : Mem}
    {pos srcLen : ℕ} (hmem : Holds mem pos params.bytes) (hlen : params.size ≤ srcLen) :
    decodeCompParams mem pos srcLen params.compclass params.algo =
      some (some params, params.size) := by
  have hrun : decodeSapisAndRanges mem pos srcLen (params.ranged.map (·.1)) =
      (params.nsapi, params.ranged.map (·.2), (rangeBytes params.ranged).length + 2) := by
    rw [bytes, holds_append] at hmem
    refine decodeSapisAndRanges_bytes henc.1 hsorted _ params.fits_ranged henc.2.1 hmem.1 ?_
    rw [← length_bytes, bytes, List.length_append, List.length_append] at hlen
    simp only [sapiBytes, List.length_cons, List.length_nil] at hlen
    omega
  cases params with
  | rfc1144 params =>
    have h : decodePcompRfc1144Params mem pos srcLen = (params, 3) := by
      rw [decodePcompRfc1144Params,
        show rfc1144Ranges = (ranged (.rfc1144 params)).map (·.1) from rfl,
        hrun]
      rfl
    simp only [compclass, algo, decodeCompParams, decodePcompParams, h]
    rfl
  | rfc2507 params =>
    have h : decodePcompRfc2507Params mem pos srcLen = (params, 9) := by
      rw [decodePcompRfc2507Params,
        show rfc2507Ranges = (ranged (.rfc2507 params)).map (·.1) from rfl,
        hrun]
      rfl
    simp only [compclass, algo, decodeCompParams, decodePcompParams, h]
    rfl
  | v42bis params =>
    have h : decodeDcompV42bisParams mem pos srcLen = (params, 6) := by
      rw [decodeDcompV42bisParams, show v42bisRanges = (ranged (.v42bis params)).map (·.1) from rfl,
        hrun]
      rfl
    simp only [compclass, algo, decodeCompParams, decodeDcompParams, h]
    rfl
  | rohc params => exact hplain.elim
  | v44 params => exact hplain.elim

end CompParams

/-! ## PCOMP and DCOMP values -/

@[simp] theorem length_packCompValues (comp : List ℕ) :
    (packCompValues comp).length = (comp.length + 1) / 2 := by
  induction comp using packCompValues.induct with
  | case1 => rfl
  | case2 a => simp [packCompValues]
  | case3 a b rest ih =>
    rw [packCompValues, List.length_cons, ih, List.length_cons, List.length_cons]
    omega

private theorem toNat_nibbles {a b : ℕ} (ha : a ≤ 15) (hb : b ≤ 15) :
    (UInt8.ofNat (a <<< 4 ||| b)).toNat = 16 * a + b := by
  have hb' : b < 2 ^ 4 := by omega
  rw [UInt8.toNat_ofNat', ← Nat.shiftLeft_add_eq_or_of_lt hb', Nat.shiftLeft_eq]
  omega

/-- The value at an index, as the decoder reads it. -/
def compValueAt (mem : Mem) (pos i : ℕ) : ℕ :=
  if i % 2 = 1 then (mem (pos + i / 2)).toNat % 16 else (mem (pos + i / 2)).toNat / 16

theorem map_compValueAt {mem : Mem} (comp : List ℕ) {pos : ℕ} (hcomp : ∀ c ∈ comp, c ≤ 15)
    (hmem : Holds mem pos (packCompValues comp)) :
    (List.range comp.length).map (compValueAt mem pos) = comp := by
  induction comp using packCompValues.induct generalizing pos with
  | case1 => rfl
  | case2 a =>
    obtain ⟨hoctet, -⟩ := hmem
    have ha : a ≤ 15 := hcomp a (List.mem_singleton_self a)
    have h := toNat_nibbles ha (Nat.zero_le 15)
    rw [Nat.or_zero] at h
    have hfirst : compValueAt mem pos 0 = a := by
      rw [compValueAt, if_neg (by decide), Nat.zero_div, Nat.add_zero, hoctet, h]
      omega
    simp [hfirst]
  | case3 a b rest ih =>
    obtain ⟨hoctet, hrest⟩ := hmem
    rw [List.forall_mem_cons, List.forall_mem_cons] at hcomp
    have h := toNat_nibbles hcomp.1 hcomp.2.1
    have hfirst : compValueAt mem pos 0 = a := by
      rw [compValueAt, if_neg (by decide), Nat.zero_div, Nat.add_zero, hoctet, h]
      omega
    have hsecond : compValueAt mem pos 1 = b := by
      rw [compValueAt, if_pos rfl, show 1 / 2 = 0 from rfl, Nat.add_zero, hoctet, h]
      omega
    have hshift (i : ℕ) : compValueAt mem pos (i + 2) = compValueAt mem (pos + 1) i := by
      have hmod : (i + 2) % 2 = i % 2 := by omega
      have hdiv : pos + (i + 2) / 2 = pos + 1 + i / 2 := by omega
      rw [compValueAt, compValueAt, hmod, hdiv]
    rw [List.length_cons, List.length_cons, List.range_succ_eq_map, List.map_cons, hfirst,
      List.range_succ_eq_map, List.map_cons, List.map_cons, List.map_map, List.map_map]
    have htail := ih hcomp.2.2 hrest
    congr 1
    refine congrArg₂ List.cons hsecond ?_
    exact (List.map_congr_left fun i _ ↦ hshift i).trans htail

/-! ## Fields -/

namespace CompField

/-- The number of octets of a field with parameters. -/
def size (f : CompField) (params : CompParams) : ℕ :=
  (if f.p then 3 + (f.comp.length + 1) / 2 else 2) + params.size

/-- The octets of a field with parameters. -/
def bytes (f : CompField) (params : CompParams) : Bytes :=
  if f.p then
    UInt8.ofNat (0x80 ||| f.entity) :: UInt8.ofNat f.algo.toNat ::
      UInt8.ofNat (params.size + (f.comp.length + 1) / 2) :: packCompValues f.comp ++ params.bytes
  else UInt8.ofNat f.entity :: UInt8.ofNat params.size :: params.bytes

@[simp] theorem length_bytes (f : CompField) (params : CompParams) :
    (f.bytes params).length = f.size params := by
  rw [bytes, size]
  split
  · simp only [List.length_append, List.length_cons, length_packCompValues, params.length_bytes]
    omega
  · simp only [List.length_cons, params.length_bytes]
    omega

/-- What the encoder asserts of a field. -/
def Encodable (f : CompField) (params : CompParams) : Prop :=
  params.Encodable ∧ f.comp.length ≤ 16 ∧ f.entity ≤ 0x1f ∧ 0 ≤ f.algo ∧ f.algo ≤ 0x1f

instance (f : CompField) (params : CompParams) : Decidable (f.Encodable params) :=
  inferInstanceAs (Decidable (_ ∧ _))

/-- **The encoder of a field.** -/
theorem encodeCompField_eq {f : CompField} {params : CompParams} (hparams : f.params = some params)
    (dstMaxlen : ℕ) :
    encodeCompField dstMaxlen f =
      if f.Encodable params ∧ f.size params ≤ dstMaxlen then
        if f.p = true ∧ ∃ c ∈ f.comp, 0xf < c then .error .einval else .ok (f.bytes params)
      else .error .assertion := by
  rw [encodeCompField, hparams]
  simp only [params.encodeCompParams_eq, ok_bind, osmoAssert_bind, ← ite_and, params.length_bytes]
  refine if_congr ?_ ?_ rfl
  · rw [Encodable, size]
    cases f.p with
    | true =>
      simp only [if_true]
      rw [show params.size + (f.comp.length + 1) / 2 + 3 = 3 + (f.comp.length + 1) / 2 + params.size
        by omega]
      tauto
    | false =>
      simp only [Bool.false_eq_true, if_false]
      rw [Nat.add_comm params.size]
      tauto
  · rw [bytes]
    cases f.p with
    | true =>
      simp only [if_true, true_and]
      rfl
    | false =>
      simp only [Bool.false_eq_true, if_false, false_and]
      rfl

variable {f : CompField} {params : CompParams}

/-- A field with the propose bit, under the number of its algorithm and with as many values as that
has. -/
structure Framed (f : CompField) (params : CompParams) : Prop where
  params_eq : f.params = some params
  p : f.p = true
  entity : f.entity ≤ 31
  algo : f.algo = params.algo
  comp_length : compNum params.compclass params.algo = some f.comp.length
  comp : ∀ c ∈ f.comp, c ≤ 15

theorem Framed.length_comp_le (h : f.Framed params) : f.comp.length ≤ 5 := by
  have hcomp := h.comp_length
  have hle (k : ℕ) (hk : some k = some f.comp.length) (hk5 : k ≤ 5) : f.comp.length ≤ 5 :=
    Option.some_inj.mp hk ▸ hk5
  cases params with
  | rfc1144 params => exact hle 2 hcomp (by decide)
  | rfc2507 params => exact hle 5 hcomp (by decide)
  | rohc params => exact hle 2 hcomp (by decide)
  | v42bis params => exact hle 1 hcomp (by decide)
  | v44 params => exact hle 2 hcomp (by decide)

theorem algo_lt (params : CompParams) : ∃ k < 3, params.algo = (k : ℕ) := by
  cases params with
  | rfc1144 params => exact ⟨0, by decide, rfl⟩
  | rfc2507 params => exact ⟨1, by decide, rfl⟩
  | rohc params => exact ⟨2, by decide, rfl⟩
  | v42bis params => exact ⟨0, by decide, rfl⟩
  | v44 params => exact ⟨1, by decide, rfl⟩

private theorem toNat_propose {entity : ℕ} (h : entity ≤ 31) :
    (UInt8.ofNat (0x80 ||| entity)).toNat = 128 + entity := by
  have hlt : entity < 2 ^ 7 := by omega
  have hor : 0x80 ||| entity = 128 + entity := by
    have := Nat.shiftLeft_add_eq_or_of_lt hlt 1
    rw [Nat.shiftLeft_eq] at this
    exact this.symm
  rw [UInt8.toNat_ofNat', hor]
  omega

/-- Where the parameters of a field are. -/
theorem Framed.holds_params (h : f.Framed params) {mem : Mem} {pos : ℕ}
    (hmem : Holds mem pos (f.bytes params)) :
    Holds mem (pos + 3 + (f.comp.length + 1) / 2) params.bytes := by
  rw [bytes, if_pos h.p] at hmem
  obtain ⟨-, -, -, hrest⟩ := hmem
  replace hrest := (holds_append.mp hrest).2
  rw [length_packCompValues] at hrest
  exact hrest

/-- What stands in front of the parameters is read back, whatever becomes of the parameters. -/
theorem Framed.decodeCompField (h : f.Framed params) (hsize : params.size ≤ 252) {mem : Mem}
    {pos srcLen : ℕ} (hmem : Holds mem pos (f.bytes params)) (hlen : 1 ≤ srcLen)
    (lt : Option (List EntityAlgo)) :
    decodeCompField mem pos srcLen lt params.compclass =
      (decodeCompParams mem (pos + 3 + (f.comp.length + 1) / 2) params.size params.compclass
        params.algo).map fun (decoded, n) ↦
          ({ f with params := decoded }, 3 + (f.comp.length + 1) / 2 + n) := by
  have hcount := h.length_comp_le
  obtain ⟨k, hk, halgo_eq⟩ := algo_lt params
  rw [bytes, if_pos h.p] at hmem
  obtain ⟨hhead, halgo, hleni, hrest⟩ := hmem
  replace hrest := holds_append.mp hrest
  have hentity := toNat_propose h.entity
  have hp : (mem pos).toNat.testBit 7 = true := by
    rw [hhead, hentity, Nat.testBit_eq_decide_div_mod_eq]
    have := h.entity
    exact decide_eq_true (by omega)
  have hentity' : (mem pos).toNat % 32 = f.entity := by
    rw [hhead, hentity]
    have := h.entity
    omega
  have halgo' : (((mem (pos + 1)).toNat % 32 : ℕ) : ℤ) = f.algo := by
    rw [halgo, UInt8.toNat_ofNat', h.algo, halgo_eq]
    omega
  have hlen' : (mem (pos + 2)).toNat = params.size + (f.comp.length + 1) / 2 := by
    rw [hleni, UInt8.toNat_ofNat']
    omega
  have hvalues : decodeCompValues mem (pos + 2 + 1) true params.compclass f.algo =
      some (f.comp, (f.comp.length + 1) / 2) := by
    have hread := map_compValueAt f.comp h.comp hrest.1
    rw [decodeCompValues, if_pos rfl, h.algo, h.comp_length]
    exact congrArg (fun comp ↦ some (comp, (f.comp.length + 1) / 2)) hread
  have hleft : ((((params.size + (f.comp.length + 1) / 2 : ℕ) : ℤ) -
      ((f.comp.length + 1) / 2 : ℕ)) % 2 ^ 32).toNat = params.size := by
    omega
  rw [Sndcp.decodeCompField, if_neg (not_lt.mpr hlen)]
  simp only [hp, if_true, hentity', halgo', hlen', hvalues, hleft]
  rw [h.algo,
    show pos + 2 + 1 + (f.comp.length + 1) / 2 = pos + 3 + (f.comp.length + 1) / 2 by omega]
  cases decodeCompParams mem (pos + 3 + (f.comp.length + 1) / 2) params.size params.compclass
      params.algo with
  | none => rfl
  | some decoded =>
    refine congrArg some (Prod.ext ?_ rfl)
    simp only [h.p]

/-- A proposal of RFC 1144, RFC 2507 or V.42bis compression, with everything that belongs to it. -/
structure Proposal (f : CompField) (params : CompParams) : Prop where
  params_eq : f.params = some params
  plain : params.Plain
  encodable : params.Encodable
  sorted : params.nsapi.Pairwise (· < ·)
  p : f.p = true
  entity : f.entity ≤ 31
  algo : f.algo = params.algo
  comp_length : compNum params.compclass params.algo = some f.comp.length
  comp : ∀ c ∈ f.comp, c ≤ 15

theorem Proposal.framed (h : f.Proposal params) : f.Framed params :=
  ⟨h.params_eq, h.p, h.entity, h.algo, h.comp_length, h.comp⟩

theorem Proposal.compclass (h : f.Proposal params) :
    gprsSndcpGetCompressionClass f = params.compclass := by
  rw [gprsSndcpGetCompressionClass, h.params_eq]

/-- The numbers in a proposal are small. -/
theorem Proposal.bounds (h : f.Proposal params) :
    f.comp.length ≤ 5 ∧ 3 ≤ params.size ∧ params.size ≤ 9 ∧ 0 ≤ params.algo ∧ params.algo ≤ 1 := by
  have hplain := h.plain
  refine ⟨h.framed.length_comp_le, ?_⟩
  cases params with
  | rfc1144 params => simp [CompParams.size, CompParams.algo]
  | rfc2507 params => simp [CompParams.size, CompParams.algo]
  | v42bis params => simp [CompParams.size, CompParams.algo]
  | rohc params => exact hplain.elim
  | v44 params => exact hplain.elim

theorem Proposal.size_eq (h : f.Proposal params) :
    f.size params = 3 + (f.comp.length + 1) / 2 + params.size := by
  rw [size, h.p, if_pos rfl]

/-- **A proposal is read back.** -/
theorem Proposal.decodeCompField (h : f.Proposal params) {mem : Mem} {pos srcLen : ℕ}
    (hmem : Holds mem pos (f.bytes params)) (hlen : 1 ≤ srcLen) (lt : Option (List EntityAlgo)) :
    decodeCompField mem pos srcLen lt params.compclass = some (f, f.size params) := by
  have hsize : params.size ≤ 252 := h.bounds.2.2.1.trans (by decide)
  have hparams := CompParams.decodeCompParams_bytes h.plain h.encodable h.sorted
    (h.framed.holds_params hmem) le_rfl
  rw [h.framed.decodeCompField hsize hmem hlen, hparams, Option.map_some]
  refine congrArg some (Prod.ext ?_ h.size_eq.symm)
  exact congrArg (fun params ↦ { f with params }) h.params_eq.symm

/-- The number of octets of a field. -/
def octetCount (f : CompField) : ℕ :=
  match f.params with
  | some params => f.size params
  | none => 0

/-- The octets of a field. -/
def octets (f : CompField) : Bytes :=
  match f.params with
  | some params => f.bytes params
  | none => []

@[simp] theorem length_octets (f : CompField) : f.octets.length = f.octetCount := by
  rw [octets, octetCount]
  cases f.params with
  | none => rfl
  | some params => exact length_bytes f params

/-- Whether a field can be encoded where there is room for it. -/
def Codable (f : CompField) : Prop :=
  (f.params.any fun params ↦
    f.Encodable params ∧ ¬ (f.p = true ∧ ∃ c ∈ f.comp, 0xf < c)) = true

instance (f : CompField) : Decidable f.Codable := inferInstanceAs (Decidable (_ = true))

theorem codable_iff (hparams : f.params = some params) :
    f.Codable ↔ f.Encodable params ∧ ¬ (f.p = true ∧ ∃ c ∈ f.comp, 0xf < c) := by
  rw [Codable, hparams, Option.any_some, decide_eq_true_eq]

/-- Append a field to those before. -/
theorem packField_eq {compclass : XidParamType}
    (hclass : gprsSndcpGetCompressionClass f = compclass)
    (bytes : Bytes) :
    packField compclass bytes f =
      if f.Codable ∧ f.octetCount ≤ compBytesLen - bytes.length then .ok (bytes ++ f.octets)
      else .error .assertion := by
  rw [packField, if_pos hclass]
  cases hparams : f.params with
  | none =>
    have hnot : ¬ f.Codable := by
      rw [Codable, hparams]
      exact Bool.false_ne_true
    rw [encodeCompField, hparams, if_neg (mt And.left hnot)]
    rfl
  | some params =>
    have hcodable := codable_iff hparams
    have hcount : f.octetCount = f.size params := by rw [octetCount, hparams]
    have hoctets : f.octets = f.bytes params := by rw [octets, hparams]
    rw [encodeCompField_eq hparams, hcount, hoctets]
    by_cases hroom : f.Encodable params ∧ f.size params ≤ compBytesLen - bytes.length
    · by_cases hcomp : f.p = true ∧ ∃ c ∈ f.comp, 0xf < c
      · rw [if_pos hroom, if_pos hcomp, if_neg fun h ↦ (hcodable.mp h.1).2 hcomp]
      · rw [if_pos hroom, if_neg hcomp, if_pos ⟨hcodable.mpr ⟨hroom.1, hcomp⟩, hroom.2⟩]
    · rw [if_neg hroom, if_neg fun h ↦ hroom ⟨(hcodable.mp h.1).1, h.2⟩]

theorem Proposal.codable (h : f.Proposal params) : f.Codable := by
  rw [codable_iff h.params_eq]
  have hcomp : ¬ (f.p = true ∧ ∃ c ∈ f.comp, 0xf < c) := by
    rintro ⟨-, c, hc, hlt⟩
    exact absurd (h.comp c hc) (not_le.mpr hlt)
  obtain ⟨hlen, -, -, hmin, hmax⟩ := h.bounds
  refine ⟨⟨h.encodable, by omega, h.entity, ?_, ?_⟩, hcomp⟩
  · rw [h.algo]
    exact hmin
  · rw [h.algo]
    omega

end CompField

/-! ## Blocks of fields -/

/-- The fields of a class. -/
def ofClass (compclass : XidParamType) (fields : List CompField) : List CompField :=
  fields.filter fun f ↦ gprsSndcpGetCompressionClass f = compclass

/-- The number of octets of a list of fields. -/
def blockLen (fields : List CompField) : ℕ := (fields.map CompField.octetCount).sum

/-- The octets of the fields of a class, the last of the list first. -/
def blockBytes (compclass : XidParamType) (fields : List CompField) : Bytes :=
  (ofClass compclass fields).reverse.flatMap CompField.octets

theorem length_flatMap_octets (fields : List CompField) :
    (fields.flatMap CompField.octets).length = blockLen fields := by
  rw [List.length_flatMap, blockLen]
  congr 1
  exact List.map_congr_left fun f _ ↦ f.length_octets

theorem length_blockBytes (compclass : XidParamType) (fields : List CompField) :
    (blockBytes compclass fields).length = blockLen (ofClass compclass fields) := by
  rw [blockBytes, length_flatMap_octets, blockLen, blockLen, List.map_reverse, List.sum_reverse]

/-- Packing a list in the order given, behind the octets that are packed already. -/
theorem foldlM_packField_eq (compclass : XidParamType) (l : List CompField) (bytes : Bytes)
    (hbytes : bytes.length ≤ compBytesLen) :
    l.foldlM (packField compclass) bytes =
      if (∀ f ∈ ofClass compclass l, f.Codable) ∧
          bytes.length + blockLen (ofClass compclass l) ≤ compBytesLen then
        .ok (bytes ++ (ofClass compclass l).flatMap CompField.octets)
      else .error .assertion := by
  induction l generalizing bytes with
  | nil =>
    have hroom : bytes.length + blockLen (ofClass compclass []) ≤ compBytesLen := hbytes
    rw [if_pos ⟨by simp [ofClass], hroom⟩, List.foldlM_nil, ofClass, List.filter_nil,
      List.flatMap_nil, List.append_nil]
    rfl
  | cons f l ih =>
    rw [List.foldlM_cons]
    by_cases hclass : gprsSndcpGetCompressionClass f = compclass
    · have hof : ofClass compclass (f :: l) = f :: ofClass compclass l :=
        List.filter_cons_of_pos (by simpa using hclass)
      have hlen : blockLen (f :: ofClass compclass l) =
          f.octetCount + blockLen (ofClass compclass l) := by
        rw [blockLen, List.map_cons, List.sum_cons, blockLen]
      rw [CompField.packField_eq hclass, ok_bind, hof, hlen]
      by_cases hf : f.Codable ∧ f.octetCount ≤ compBytesLen - bytes.length
      · have hroom : (bytes ++ f.octets).length ≤ compBytesLen := by
          rw [List.length_append, f.length_octets]
          omega
        rw [if_pos hf, ih _ hroom]
        refine if_congr ?_ ?_ rfl
        · rw [List.forall_mem_cons, and_iff_right hf.1, List.length_append, f.length_octets,
            Nat.add_assoc]
        · rw [List.flatMap_cons, List.append_assoc]
      · rw [if_neg hf, if_neg]
        rw [List.forall_mem_cons]
        rintro ⟨⟨hcod, -⟩, hroom⟩
        exact hf ⟨hcod, by omega⟩
    · have hof : ofClass compclass (f :: l) = ofClass compclass l :=
        List.filter_cons_of_neg (by simpa using hclass)
      rw [packField, if_neg hclass, hof]
      exact ih bytes hbytes

/-- **Packing the fields of a class** needs every one of them to be fit for encoding, and room for
all of them. -/
theorem gprsSndcpPackFields_eq (compclass : XidParamType) (fields : List CompField) :
    gprsSndcpPackFields compclass fields =
      if (∀ f ∈ ofClass compclass fields, f.Codable) ∧
          blockLen (ofClass compclass fields) ≤ compBytesLen then
        .ok (blockBytes compclass fields)
      else .error .assertion := by
  have hrev : ofClass compclass fields.reverse = (ofClass compclass fields).reverse :=
    List.filter_reverse ..
  rw [gprsSndcpPackFields, foldlM_packField_eq _ _ [] (Nat.zero_le _), hrev]
  refine if_congr ?_ rfl rfl
  simp only [List.mem_reverse, List.length_nil, Nat.zero_add, blockLen, List.map_reverse,
    List.sum_reverse]

/-- The fields of a list are proposals. -/
def Proposals (fields : List CompField) : Prop :=
  ∀ f ∈ fields, ∃ params, f.Proposal params

theorem CompField.Proposal.octetCount {f : CompField} {params : CompParams}
    (h : f.Proposal params) : f.octetCount = f.size params := by
  rw [CompField.octetCount, h.params_eq]

theorem CompField.Proposal.octets {f : CompField} {params : CompParams}
    (h : f.Proposal params) : f.octets = f.bytes params := by
  rw [CompField.octets, h.params_eq]

/-- A proposal takes at least seven octets. -/
theorem CompField.Proposal.seven_le_octetCount {f : CompField} {params : CompParams}
    (h : f.Proposal params) : 7 ≤ f.octetCount := by
  have hplain := h.plain
  have hcomp := h.comp_length
  rw [h.octetCount, h.size_eq]
  cases params with
  | rfc1144 params =>
    have hlen : 2 = f.comp.length := Option.some_inj.mp hcomp
    rw [CompParams.size]
    omega
  | rfc2507 params =>
    rw [CompParams.size]
    omega
  | v42bis params =>
    have hlen : 1 = f.comp.length := Option.some_inj.mp hcomp
    rw [CompParams.size]
    omega
  | rohc params => exact hplain.elim
  | v44 params => exact hplain.elim

/-- Proposals of one class are not many if they are short. -/
theorem seven_mul_length_le {l : List CompField} (h : Proposals l) : 7 * l.length ≤ blockLen l := by
  induction l with
  | nil => exact Nat.zero_le _
  | cons f l ih =>
    rw [Proposals, List.forall_mem_cons] at h
    obtain ⟨⟨params, hf⟩, hl⟩ := h
    have hseven := hf.seven_le_octetCount
    have hrest := ih hl
    rw [List.length_cons, blockLen, List.map_cons, List.sum_cons]
    rw [blockLen] at hrest
    omega

/-- **A block of proposals** is read back, in reverse order. -/
theorem decodeXidBlock_octets {mem : Mem} {val tagLen : ℕ} (lt : Option (List EntityAlgo))
    {compclass : XidParamType} (l : List CompField) (hl : l ≠ []) (hprop : Proposals l)
    (hclass : ∀ f ∈ l, gprsSndcpGetCompressionClass f = compclass) {n byteCounter : ℕ}
    (hn : l.length ≤ n) (hmem : Holds mem (val + byteCounter) (l.flatMap CompField.octets))
    (hlen : tagLen = byteCounter + blockLen l) (fields : List CompField) :
    decodeXidBlock mem val tagLen lt compclass n byteCounter fields =
      some (l.reverse ++ fields) := by
  induction l generalizing n byteCounter fields with
  | nil => exact absurd rfl hl
  | cons f l ih =>
    rw [Proposals, List.forall_mem_cons] at hprop
    rw [List.forall_mem_cons] at hclass
    obtain ⟨⟨params, hf⟩, hprop⟩ := hprop
    obtain ⟨n, rfl⟩ : ∃ m, n = m + 1 := ⟨n - 1, by rw [List.length_cons] at hn; omega⟩
    rw [List.flatMap_cons, holds_append, f.length_octets, hf.octets] at hmem
    have hseven := hf.seven_le_octetCount
    have hsum : blockLen (f :: l) = f.octetCount + blockLen l := by
      rw [blockLen, List.map_cons, List.sum_cons, blockLen]
    have hdecode := hf.decodeCompField hmem.1 (by omega : 1 ≤ tagLen - byteCounter) lt
    rw [← hf.compclass, hclass.1, ← hf.octetCount] at hdecode
    rw [decodeXidBlock, hdecode]
    simp only
    by_cases hnil : l = []
    · have hzero : blockLen l = 0 := by
        rw [hnil]
        rfl
      rw [if_neg (by omega), hnil]
      rfl
    · have hpos : 0 < l.length := List.length_pos_iff.mpr hnil
      have hlow := seven_mul_length_le hprop
      rw [if_pos (by omega), ih hnil hprop hclass.2 (by rw [List.length_cons] at hn; omega)
        (by rw [← Nat.add_assoc]; exact hmem.2) (by omega)]
      simp

/-! ## Messages -/

/-- The tag of a class of fields. -/
def classTag : XidParamType → UInt8
  | .dataCompression => 1
  | _ => 2

theorem tlvPut_of_short {tag : UInt8} {value : Bytes} (h : value.length ≤ 255) :
    tlvPut tag value = tag :: UInt8.ofNat value.length :: value := by
  rw [tlvPut, Nat.mod_eq_of_lt (by omega), List.take_length]

section Elements

variable {mem : Mem} {srcLen : ℕ} (lt : Option (List EntityAlgo)) {n srcPos : ℕ} {version : ℤ}
  {fields : List CompField}

/-- **An element with proposals** adds them in front of the fields before. -/
theorem decodeElements_block {compclass : XidParamType}
    (htag : compclass = .dataCompression ∨ compclass = .protocolCompression) {l : List CompField}
    (hl : l ≠ []) (hprop : Proposals l)
    (hclass : ∀ f ∈ l, gprsSndcpGetCompressionClass f = compclass) (hshort : blockLen l ≤ 255)
    (hmem : Holds mem srcPos (tlvPut (classTag compclass) (l.flatMap CompField.octets)))
    (hroom : srcPos + 2 + blockLen l ≤ srcLen) :
    decodeElements mem srcLen lt (n + 1) srcPos version fields =
      if srcLen - (srcPos + 2 + blockLen l) ≤ 2 then some (version, l.reverse ++ fields)
      else decodeElements mem srcLen lt n (srcPos + 2 + blockLen l) version
        (l.reverse ++ fields) := by
  have hlen : (l.flatMap CompField.octets).length = blockLen l := length_flatMap_octets l
  rw [tlvPut_of_short (by omega), hlen] at hmem
  obtain ⟨htag', hlen', hoctets⟩ := hmem
  have hback : (mem (srcPos + 1)).toNat = blockLen l := by
    rw [hlen', UInt8.toNat_ofNat']
    omega
  have hparse : tlvParseOne mem srcPos (srcLen - srcPos) = some (compclass, blockLen l) := by
    rw [tlvParseOne, hback, htag', if_neg (by omega), if_neg (by omega)]
    rcases htag with rfl | rfl <;> rfl
  have hversion : compclass ≠ .versionNumber := by rcases htag with rfl | rfl <;> decide
  have hcount : l.length ≤ maxFields := by
    have := seven_mul_length_le hprop
    unfold maxFields
    omega
  have hoctets' : Holds mem (srcPos + 2 + 0) (l.flatMap CompField.octets) := hoctets
  have hblock : decodeXidBlock mem (srcPos + 2) (blockLen l) lt compclass maxFields 0 fields =
      some (l.reverse ++ fields) :=
    decodeXidBlock_octets lt l hl hprop hclass hcount hoctets' (Nat.zero_add _).symm fields
  rw [decodeElements, hparse]
  simp only [if_neg hversion, hblock]

/-- The element with the version number. -/
theorem decodeElements_version {octet : UInt8} (hmem : Holds mem srcPos (tlvPut 0 [octet]))
    (hroom : srcPos + 5 < srcLen) :
    decodeElements mem srcLen lt (n + 1) srcPos version fields =
      decodeElements mem srcLen lt n (srcPos + 3) octet.toNat fields := by
  rw [tlvPut_of_short (by simp)] at hmem
  obtain ⟨htag, hlen, hvalue, -⟩ := hmem
  have hback : (mem (srcPos + 1)).toNat = 1 := by
    rw [hlen]
    rfl
  have hparse : tlvParseOne mem srcPos (srcLen - srcPos) = some (.versionNumber, 1) := by
    rw [tlvParseOne, hback, htag, if_neg (by omega), if_neg (by omega), if_pos rfl]
  have hvalue' : mem (srcPos + 2) = octet := hvalue
  rw [decodeElements, hparse]
  simp only [if_true, hvalue']
  rw [if_neg (by omega)]

end Elements

/-- The fields of a class are proposals again, and there are none if there are no octets. -/
theorem Proposals.ofClass {fields : List CompField} (h : Proposals fields)
    (compclass : XidParamType) : Proposals (ofClass compclass fields) :=
  fun f hf ↦ h f (List.mem_of_mem_filter hf)

theorem Proposals.blockBytes_eq_nil_iff {fields : List CompField} (h : Proposals fields)
    (compclass : XidParamType) :
    blockBytes compclass fields = [] ↔ Sndcp.ofClass compclass fields = [] := by
  have hlow := seven_mul_length_le (h.ofClass compclass)
  rw [← List.length_eq_zero_iff, length_blockBytes, ← List.length_eq_zero_iff]
  constructor
  · intro hzero
    omega
  · intro hzero
    rw [List.length_eq_zero_iff.mp hzero]
    rfl

theorem Proposals.tlvBlock_of_eq_nil {fields : List CompField} (h : Proposals fields) (tag : UInt8)
    {compclass : XidParamType} (hnil : Sndcp.ofClass compclass fields = []) :
    tlvBlock tag (blockBytes compclass fields) = [] := by
  rw [tlvBlock, if_pos ((h.blockBytes_eq_nil_iff compclass).mpr hnil)]

/-- The element of a class of which there are fields. -/
theorem Proposals.tlvBlock_of_ne_nil {fields : List CompField} (h : Proposals fields) (tag : UInt8)
    {compclass : XidParamType} (hne : Sndcp.ofClass compclass fields ≠ [])
    (hshort : blockLen (Sndcp.ofClass compclass fields) ≤ 255) :
    tlvBlock tag (blockBytes compclass fields) = tlvPut tag (blockBytes compclass fields) ∧
      (tlvBlock tag (blockBytes compclass fields)).length =
        2 + blockLen (Sndcp.ofClass compclass fields) ∧
      7 ≤ blockLen (Sndcp.ofClass compclass fields) := by
  have hblock : tlvBlock tag (blockBytes compclass fields) =
      tlvPut tag (blockBytes compclass fields) := by
    rw [tlvBlock, if_neg (mt (h.blockBytes_eq_nil_iff compclass).mp hne)]
  have hpos : 0 < (Sndcp.ofClass compclass fields).length := List.length_pos_iff.mpr hne
  have hlow := seven_mul_length_le (h.ofClass compclass)
  refine ⟨hblock, ?_, by omega⟩
  rw [hblock, tlvPut_of_short (by rw [length_blockBytes]; exact hshort), List.length_cons,
    List.length_cons, length_blockBytes]
  omega

/-- A proposal is of one class or of the other. -/
theorem Proposals.ofClass_ne_nil {fields : List CompField} (h : Proposals fields)
    (hne : fields ≠ []) :
    Sndcp.ofClass .dataCompression fields ≠ [] ∨
      Sndcp.ofClass .protocolCompression fields ≠ [] := by
  obtain ⟨f, rest, rfl⟩ := List.exists_cons_of_ne_nil hne
  obtain ⟨params, hf⟩ := h f List.mem_cons_self
  have hclass := hf.compclass
  have hmem (compclass : XidParamType) (heq : gprsSndcpGetCompressionClass f = compclass) :
      Sndcp.ofClass compclass (f :: rest) ≠ [] := by
    refine List.ne_nil_of_mem (List.mem_filter.mpr ⟨List.mem_cons_self, ?_⟩)
    exact decide_eq_true heq
  cases params with
  | rfc1144 params => exact .inr (hmem _ hclass)
  | rfc2507 params => exact .inr (hmem _ hclass)
  | rohc params => exact .inr (hmem _ hclass)
  | v42bis params => exact .inl (hmem _ hclass)
  | v44 params => exact .inl (hmem _ hclass)

/-- **The message** that proposals are compiled to, if each block is short enough for its length
octet. -/
theorem Proposals.compile {fields : List CompField} (h : Proposals fields) (hne : fields ≠ [])
    (hdata : blockLen (Sndcp.ofClass .dataCompression fields) ≤ 255)
    (hproto : blockLen (Sndcp.ofClass .protocolCompression fields) ≤ 255) {version : ℤ}
    (hmin : 0 ≤ version) {dstMaxlen : ℕ} (hdst : 3 ≤ dstMaxlen) :
    gprsSndcpCompileXid dstMaxlen fields version = .ok
      ⟨tlvPut 0 [UInt8.ofNat (version % 256).toNat] ++
          tlvBlock 1 (blockBytes .dataCompression fields) ++
          tlvBlock 2 (blockBytes .protocolCompression fields),
        (tlvPut 0 [UInt8.ofNat (version % 256).toNat] ++
          tlvBlock 1 (blockBytes .dataCompression fields) ++
          tlvBlock 2 (blockBytes .protocolCompression fields)).length⟩ := by
  have hpack (compclass : XidParamType) (hlen : blockLen (Sndcp.ofClass compclass fields) ≤ 255) :
      gprsSndcpPackFields compclass fields = .ok (blockBytes compclass fields) := by
    rw [gprsSndcpPackFields_eq, if_pos]
    refine ⟨fun f hf ↦ ?_, hlen.trans (by decide)⟩
    obtain ⟨params, hf'⟩ := h.ofClass compclass f hf
    exact hf'.codable
  have hblock (tag : UInt8) (compclass : XidParamType)
      (hlen : blockLen (Sndcp.ofClass compclass fields) ≤ 255) :
      (tlvBlock tag (blockBytes compclass fields)).length =
        if blockBytes compclass fields = [] then 0
        else (blockBytes compclass fields).length + 2 := by
    rw [tlvBlock]
    split
    · rfl
    · rw [tlvPut_of_short (by rw [length_blockBytes]; exact hlen)]
      rfl
  rw [gprsSndcpCompileXid, osmoAssert_bind, if_pos hdst, if_pos hmin]
  simp only [if_neg hne, hpack _ hdata, hpack _ hproto, List.length_append, hblock 1 _ hdata,
    hblock 2 _ hproto]
  rfl

/-- The element of a class, where there is one. -/
theorem Proposals.decodeElements_ofClass {fields : List CompField} (h : Proposals fields)
    {compclass : XidParamType}
    (htag : compclass = .dataCompression ∨ compclass = .protocolCompression)
    (hclass : Sndcp.ofClass compclass fields ≠ [])
    (hshort : blockLen (Sndcp.ofClass compclass fields) ≤ 255) {mem : Mem} {srcLen n srcPos : ℕ}
    {version : ℤ} {acc : List CompField}
    (hmem : Holds mem srcPos (tlvPut (classTag compclass) (blockBytes compclass fields)))
    (hroom : srcPos + 2 + blockLen (Sndcp.ofClass compclass fields) ≤ srcLen) :
    decodeElements mem srcLen none (n + 1) srcPos version acc =
      if srcLen - (srcPos + 2 + blockLen (Sndcp.ofClass compclass fields)) ≤ 2 then
        some (version, Sndcp.ofClass compclass fields ++ acc)
      else decodeElements mem srcLen none n
        (srcPos + 2 + blockLen (Sndcp.ofClass compclass fields)) version
        (Sndcp.ofClass compclass fields ++ acc) := by
  have hrev : blockLen (Sndcp.ofClass compclass fields).reverse =
      blockLen (Sndcp.ofClass compclass fields) := by
    rw [blockLen, blockLen, List.map_reverse, List.sum_reverse]
  have hne : (Sndcp.ofClass compclass fields).reverse ≠ [] := by simpa using hclass
  have hprop : Proposals (Sndcp.ofClass compclass fields).reverse :=
    fun f hf ↦ h.ofClass compclass f (List.mem_reverse.mp hf)
  have hof : ∀ f ∈ (Sndcp.ofClass compclass fields).reverse,
      gprsSndcpGetCompressionClass f = compclass :=
    fun f hf ↦ of_decide_eq_true (List.mem_filter.mp (List.mem_reverse.mp hf)).2
  rw [decodeElements_block none htag hne hprop hof (by omega) hmem (by omega), hrev,
    List.reverse_reverse]

/-- **Decoding undoes encoding.** A list of proposals of RFC 1144, RFC 2507 and V.42bis compression
whose blocks are at most 255 octets each is compiled to a message from which, whatever lies behind
it in memory, the same version and the same fields are parsed: those of protocol compression first,
and those of each class in their order. -/
theorem gprsSndcpParseXid_compile (fields : List CompField) (hne : fields ≠ [])
    (hprop : Proposals fields) (hdata : blockLen (ofClass .dataCompression fields) ≤ 255)
    (hproto : blockLen (ofClass .protocolCompression fields) ≤ 255) (version : ℤ)
    (hmin : 0 ≤ version) (hmax : version ≤ 255) (dstMaxlen : ℕ) (hdst : 3 ≤ dstMaxlen)
    (behind : Mem) :
    ∃ out, gprsSndcpCompileXid dstMaxlen fields version = .ok out ∧
      gprsSndcpParseXid (message out.written behind) out.rc none =
        some (version, ofClass .protocolCompression fields ++ ofClass .dataCompression fields) := by
  refine ⟨_, hprop.compile hne hdata hproto hmin hdst, ?_⟩
  set octet := UInt8.ofNat (version % 256).toNat with hoctet
  set data := tlvBlock 1 (blockBytes .dataCompression fields) with hdataBlock
  set proto := tlvBlock 2 (blockBytes .protocolCompression fields) with hprotoBlock
  have hversion : (octet.toNat : ℤ) = version := by
    rw [hoctet, UInt8.toNat_ofNat']
    omega
  have hhead : (tlvPut 0 [octet]).length = 3 := rfl
  have hholds := holds_message (tlvPut 0 [octet] ++ data ++ proto) behind
  rw [holds_append, holds_append, List.length_append, hhead] at hholds
  obtain ⟨⟨hholds0, hholds1⟩, hholds2⟩ := hholds
  set mem := message (tlvPut 0 [octet] ++ data ++ proto) behind
  simp only [List.length_append, hhead]
  -- the first element is the version; which of the others are there depends on the fields
  have hstart (hroom : 5 < 3 + data.length + proto.length) :
      gprsSndcpParseXid mem (3 + data.length + proto.length) none =
        decodeElements mem (3 + data.length + proto.length) none 2 3 version [] := by
    rw [gprsSndcpParseXid, if_neg (by omega)]
    refine (decodeElements_version none hholds0 (by omega)).trans ?_
    rw [hversion]
  by_cases hD : ofClass .dataCompression fields = []
  · have hP := (hprop.ofClass_ne_nil hne).resolve_left (not_not.mpr hD)
    obtain ⟨hput, hlen, hseven⟩ := hprop.tlvBlock_of_ne_nil 2 hP hproto
    rw [hdataBlock, hprop.tlvBlock_of_eq_nil 1 hD] at hstart hholds2 ⊢
    rw [← hprotoBlock] at hput hlen
    rw [hput] at hholds2
    rw [List.length_nil] at hstart hholds2 ⊢
    rw [hstart (by omega), hprop.decodeElements_ofClass (.inr rfl) hP hproto hholds2 (by omega),
      if_pos (by omega), hD]
  · obtain ⟨hput, hlen, hseven⟩ := hprop.tlvBlock_of_ne_nil 1 hD hdata
    rw [← hdataBlock] at hput hlen
    rw [hput] at hholds1
    rw [hstart (by omega), hprop.decodeElements_ofClass (.inl rfl) hD hdata hholds1 (by omega)]
    by_cases hP : ofClass .protocolCompression fields = []
    · rw [hprotoBlock, hprop.tlvBlock_of_eq_nil 2 hP,
        if_pos (by simp only [List.length_nil]; omega), hP,
        List.append_nil, List.nil_append]
    · obtain ⟨hput', hlen', hseven'⟩ := hprop.tlvBlock_of_ne_nil 2 hP hproto
      rw [← hprotoBlock] at hput' hlen'
      rw [hput', hlen, show 0 + (3 + (2 + blockLen (ofClass .dataCompression fields))) =
        3 + 2 + blockLen (ofClass .dataCompression fields) by omega] at hholds2
      rw [if_neg (by omega), hprop.decodeElements_ofClass (.inr rfl) hP hproto hholds2 (by omega),
        if_pos (by omega), List.append_nil]

/-- A proposal of RFC 1144 compression. -/
def exampleRfc1144 : CompField := ⟨true, 0, 0, [1, 2], some (.rfc1144 ⟨[5], 7⟩)⟩

/-- A proposal of RFC 2507 compression. -/
def exampleRfc2507 : CompField :=
  ⟨true, 1, 1, [3, 4, 5, 6, 7], some (.rfc2507 ⟨[6], 256, 5, 168, 15, 15⟩)⟩

/-- A proposal of V.42bis compression. -/
def exampleV42bis : CompField := ⟨true, 3, 0, [10], some (.v42bis ⟨[5, 6], 3, 2048, 20⟩)⟩

theorem proposals_example : Proposals [exampleV42bis, exampleRfc1144, exampleRfc2507] := by
  have hv42bis : exampleV42bis.Proposal (.v42bis ⟨[5, 6], 3, 2048, 20⟩) :=
    ⟨rfl, trivial, by decide, by decide, rfl, by decide, rfl, rfl, by decide⟩
  have hrfc1144 : exampleRfc1144.Proposal (.rfc1144 ⟨[5], 7⟩) :=
    ⟨rfl, trivial, by decide, by decide, rfl, by decide, rfl, rfl, by decide⟩
  have hrfc2507 : exampleRfc2507.Proposal (.rfc2507 ⟨[6], 256, 5, 168, 15, 15⟩) :=
    ⟨rfl, trivial, by decide, by decide, rfl, by decide, rfl, rfl, by decide⟩
  simp only [Proposals, List.forall_mem_cons]
  exact ⟨⟨_, hv42bis⟩, ⟨_, hrfc1144⟩, ⟨_, hrfc2507⟩, by simp⟩

/-- Proposals of all three algorithms come back, those of protocol compression first. -/
theorem xid_proposals_come_back :
    ∃ out, gprsSndcpCompileXid 512 [exampleV42bis, exampleRfc1144, exampleRfc2507] 0 = .ok out ∧
      gprsSndcpParseXid (message out.written fun _ ↦ 0xff) out.rc none =
        some (0, [exampleRfc1144, exampleRfc2507, exampleV42bis]) :=
  gprsSndcpParseXid_compile [exampleV42bis, exampleRfc1144, exampleRfc2507] (by simp)
    proposals_example (by decide) (by decide) 0 (by decide) (by decide) 512 (by decide) _

end OsmoSgsn.Sndcp
