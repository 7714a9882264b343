import OsmoSgsn.Sndcp.XidRoundTrip

/-!
# Negotiation by the mobile station

An SNDCP-XID message from the mobile station is answered with the same fields, less what the sender
knows: the propose bit, the algorithm and the PCOMP or DCOMP values. The fields that are accepted
become compression entities, the others are answered with an empty list of NSAPIs.

The answer is compiled into a buffer of the size of the message. Is it large enough, and are the
fields fit for encoding? The decoder leaves a parameter that is not there at -1, and the encoder
asserts that it is not.
-/

namespace OsmoSgsn.Sndcp

/-! ## Compression entities -/

/-- A compression entity, without the state of its algorithm. -/
structure CompEntity where
  entity : ℕ
  nsapi : List ℕ
  comp : List ℕ
  compclass : XidParamType
  algo : ℤ
  deriving DecidableEq, Repr

/-- Terminate header compression. -/
def gprsSndcpPcompTerm (e : CompEntity) : Except XidFailure Unit :=
  osmoAssert (e.compclass = .protocolCompression ∧ e.algo = 0)

/-- Delete a compression entity. -/
def gprsSndcpCompDelete (entities : List CompEntity) (entity : ℕ) :
    Except XidFailure (List CompEntity) :=
  match entities.find? fun e ↦ e.entity = entity with
  | none => .ok entities
  | some e => do
    if e.compclass = .protocolCompression then gprsSndcpPcompTerm e
    return entities.eraseP fun e ↦ e.entity = entity

/-- Initialise header compression. -/
def gprsSndcpPcompInit (f : CompField) : Except XidFailure Unit := do
  osmoAssert (f.algo = 0)
  match f.params with
  | some (.rfc1144 _) => .ok ()
  | _ => .error .assertion

/-- Initialise data compression. -/
def gprsSndcpDcompInit (f : CompField) : Except XidFailure Unit := do
  osmoAssert (f.algo = 0)
  match f.params with
  | some (.v42bis _) => .ok ()
  | _ => .error .assertion

/-- Create a new compression entity from a field. -/
def gprsSndcpCompCreate (f : CompField) : Except XidFailure CompEntity :=
  match f.params with
  | none => .error .assertion
  | some params => do
    osmoAssert (params.nsapi ≠ [])
    match params.compclass with
    | .protocolCompression => gprsSndcpPcompInit f
    | .dataCompression => gprsSndcpDcompInit f
    | _ => .error .assertion
    return ⟨f.entity, params.nsapi, f.comp, params.compclass, f.algo⟩

/-- Create and add a new compression entity, in place of the one with its number. -/
def gprsSndcpCompAdd (entities : List CompEntity) (f : CompField) :
    Except XidFailure (List CompEntity) := do
  let entities ← gprsSndcpCompDelete entities f.entity
  let e ← gprsSndcpCompCreate f
  return e :: entities

/-! ## The answer -/

/-- Which algorithms are accepted when the mobile station proposes them. -/
structure XidCfg where
  rfc1144Passive : Bool
  v42bisPassive : Bool

/-- The compression entities of a logical link, by class. -/
structure LlmeComp where
  proto : List CompEntity
  data : List CompEntity
  deriving DecidableEq, Repr

/-- A field that is rejected: it applies to no NSAPI. -/
def CompParams.rejected : CompParams → CompParams
  | .rfc1144 params => .rfc1144 { params with nsapi := [] }
  | .rfc2507 params => .rfc2507 { params with nsapi := [] }
  | .rohc params => .rohc { params with nsapi := [] }
  | .v42bis params => .v42bis { params with nsapi := [] }
  | .v44 params => .v44 { params with nsapi := [] }

/-- Handle a header compression field, which turns into its answer. -/
def handlePcompEntities (cfg : XidCfg) (comp : LlmeComp) (f : CompField) :
    Except XidFailure (LlmeComp × CompField) :=
  let f := { f with p := false }
  let reject (params : CompParams) : Except XidFailure (LlmeComp × CompField) := do
    let proto ← gprsSndcpCompDelete comp.proto f.entity
    return ({ comp with proto }, { f with params := some params.rejected })
  match f.algo, f.params with
  | 0, some (.rfc1144 params) =>
    if cfg.rfc1144Passive ∧ params.nsapi ≠ [] then do
      let proto ← gprsSndcpCompAdd comp.proto f
      return ({ comp with proto }, f)
    else reject (.rfc1144 params)
  | 1, some (.rfc2507 params) => reject (.rfc2507 params)
  | 2, some (.rohc params) => reject (.rohc params)
  | 0, _ => .error .nullPointer
  | 1, _ => .error .nullPointer
  | 2, _ => .error .nullPointer
  | _, _ => .ok (comp, f)

/-- Handle a data compression field, which turns into its answer. -/
def handleDcompEntities (cfg : XidCfg) (comp : LlmeComp) (f : CompField) :
    Except XidFailure (LlmeComp × CompField) :=
  let f := { f with p := false }
  let reject (params : CompParams) : Except XidFailure (LlmeComp × CompField) := do
    let data ← gprsSndcpCompDelete comp.data f.entity
    return ({ comp with data }, { f with params := some params.rejected })
  match f.algo, f.params with
  | 0, some (.v42bis params) =>
    if cfg.v42bisPassive ∧ params.nsapi ≠ [] then do
      let data ← gprsSndcpCompAdd comp.data f
      return ({ comp with data }, f)
    else reject (.v42bis params)
  | 1, some (.v44 params) => reject (.v44 params)
  | 0, _ => .error .nullPointer
  | 1, _ => .error .nullPointer
  | _, _ => .ok (comp, f)

/-- Handle a field by its class. One without parameters deletes the entities with its number. -/
def handleCompField (cfg : XidCfg) (comp : LlmeComp) (f : CompField) :
    Except XidFailure (LlmeComp × CompField) :=
  match gprsSndcpGetCompressionClass f with
  | .protocolCompression => handlePcompEntities cfg comp f
  | .dataCompression => handleDcompEntities cfg comp f
  | _ => do
    let proto ← gprsSndcpCompDelete comp.proto f.entity
    let data ← gprsSndcpCompDelete comp.data f.entity
    return (⟨proto, data⟩, f)

/-- Handle a list of fields. -/
def handleCompFields (cfg : XidCfg) : LlmeComp → List CompField →
    Except XidFailure (LlmeComp × List CompField)
  | comp, [] => .ok (comp, [])
  | comp, f :: fields => do
    let (comp, f) ← handleCompField cfg comp f
    let (comp, fields) ← handleCompFields cfg comp fields
    return (comp, f :: fields)

/-- The outcome of an SNDCP-XID indication. -/
structure XidIndResult where
  rc : Except Errno Unit
  /-- The answer: what is written to its buffer, and its length. -/
  response : CompiledXid
  comp : LlmeComp

/-- Process an SNDCP-XID indication. -/
def sndcpSnXidInd (cfg : XidCfg) (comp : LlmeComp) (mem : Mem) (dataLen : ℕ) :
    Except XidFailure XidIndResult :=
  if dataLen = 0 then .ok ⟨.ok (), ⟨[], 0⟩, comp⟩
  else
    match gprsSndcpParseXid mem dataLen none with
    | none => .ok ⟨.error .einval, ⟨[], 0⟩, comp⟩
    | some (_, fields) => do
      let (comp, fields) ← handleCompFields cfg comp fields
      let response ← gprsSndcpCompileXid dataLen fields 0
      return ⟨if 0 < response.rc then .ok () else .error .einval, response, comp⟩

/-! ## What the decoder returns -/

/-- The numeric parameters of a field; those that were not there are -1. -/
def CompParams.values : CompParams → List ℤ
  | .rfc1144 params => params.values
  | .rfc2507 params => params.values
  | .rohc params => [params.maxCid, params.maxHeader]
  | .v42bis params => params.values
  | .v44 params => params.values

/-- No numeric parameter is missing. -/
def CompParams.Complete (params : CompParams) : Prop := ∀ value ∈ params.values, 0 ≤ value

instance (params : CompParams) : Decidable params.Complete :=
  inferInstanceAs (Decidable (∀ value ∈ params.values, 0 ≤ value))

theorem inRange_of_ite {blob min max value : ℤ}
    (h : (if blob < min then none else if max < blob then none else some blob) = some value) :
    min ≤ value ∧ value ≤ max := by
  split at h
  · simp at h
  · split at h
    · simp at h
    · obtain rfl := Option.some_inj.mp h
      constructor <;> omega

theorem ParamRange.get_inRange {r : ParamRange} {mem : Mem} {pos srcLen : ℕ} {value : ℤ}
    (h : r.get mem pos srcLen = some value) : r.min ≤ value ∧ value ≤ r.max := by
  rw [get, decodePcomp16BitField, decodePcomp8BitField] at h
  split at h
  · split at h
    · simp at h
    · exact inRange_of_ite h
  · split at h
    · simp at h
    · exact inRange_of_ite h

/-- Every value is missing or in its range. -/
theorem decodeRanges_inRange (mem : Mem) (pos srcLen : ℕ) (rs : List ParamRange) :
    (decodeRanges mem pos srcLen rs).1.length = rs.length ∧
      ∀ rv ∈ rs.zip (decodeRanges mem pos srcLen rs).1,
        rv.2 = -1 ∨ rv.1.min ≤ rv.2 ∧ rv.2 ≤ rv.1.max := by
  induction rs generalizing pos srcLen with
  | nil => simp [decodeRanges]
  | cons r rs ih =>
    rw [decodeRanges]
    cases hget : r.get mem pos srcLen with
    | none =>
      refine ⟨List.length_map _, fun rv hrv ↦ .inl ?_⟩
      obtain ⟨-, -, h⟩ := List.mem_map.mp (List.of_mem_zip hrv).2
      exact h.symm
    | some value =>
      obtain ⟨hlen, hrest⟩ := ih (pos + r.width) (srcLen - r.width)
      simp only [List.length_cons, hlen, List.zip_cons_cons, List.forall_mem_cons, true_and]
      exact ⟨.inr (ParamRange.get_inRange hget), hrest⟩

theorem decodePcompApplicableSapis_ok {mem : Mem} {pos srcLen : ℕ} {nsapis : List ℕ}
    (h : decodePcompApplicableSapis mem pos srcLen = some nsapis) : SapisOk nsapis := by
  rw [decodePcompApplicableSapis] at h
  split at h
  · simp at h
  · set blob := ((mem pos).toNat <<< 8 ||| (mem (pos + 1)).toNat) >>> 5 with hblob
    obtain rfl : ((List.range 15).filter blob.testBit).map (· + 5) = nsapis := by simpa using h
    have hlow : (mem (pos + 1)).toNat < 2 ^ 8 := UInt8.toNat_lt _
    have hhigh : (mem pos).toNat < 2 ^ 8 := UInt8.toNat_lt _
    have hlt : blob < 2 ^ 11 := by
      rw [hblob, ← Nat.shiftLeft_add_eq_or_of_lt hlow, Nat.shiftLeft_eq, Nat.shiftRight_eq_div_pow]
      omega
    have hbits : ∀ i ∈ (List.range 15).filter blob.testBit, i < 11 := by
      intro i hi
      by_contra hge
      have hbit := (List.mem_filter.mp hi).2
      rw [Nat.testBit_lt_two_pow (hlt.trans_le (Nat.pow_le_pow_right (by norm_num) (by omega)))]
        at hbit
      exact Bool.false_ne_true hbit
    constructor
    · rw [List.length_map, ← List.length_range (n := 11)]
      refine List.Subperm.length_le (List.subperm_of_subset ?_ ?_)
      · exact List.nodup_range.filter _
      · intro i hi
        exact List.mem_range.mpr (hbits i hi)
    · intro nsapi hnsapi
      obtain ⟨i, hi, rfl⟩ := List.mem_map.mp hnsapi
      have := hbits i hi
      omega

/-- The same for SAPIs and parameters. -/
theorem decodeSapisAndRanges_ok (mem : Mem) (pos srcLen : ℕ) (rs : List ParamRange) :
    SapisOk (decodeSapisAndRanges mem pos srcLen rs).1 ∧
      (decodeSapisAndRanges mem pos srcLen rs).2.1.length = rs.length ∧
      ∀ rv ∈ rs.zip (decodeSapisAndRanges mem pos srcLen rs).2.1,
        rv.2 = -1 ∨ rv.1.min ≤ rv.2 ∧ rv.2 ≤ rv.1.max := by
  rw [decodeSapisAndRanges]
  cases hsapis : decodePcompApplicableSapis mem pos srcLen with
  | none =>
    refine ⟨⟨Nat.zero_le _, by simp⟩, List.length_map _, fun rv hrv ↦ .inl ?_⟩
    obtain ⟨-, -, h⟩ := List.mem_map.mp (List.of_mem_zip hrv).2
    exact h.symm
  | some nsapis =>
    obtain ⟨hlen, hrange⟩ := decodeRanges_inRange mem (pos + 2) (srcLen - 2) rs
    exact ⟨decodePcompApplicableSapis_ok hsapis, hlen, hrange⟩

/-- What is known of decoded parameters: they are fit for encoding unless one is missing. -/
structure CompParams.Decoded (params : CompParams) : Prop where
  sapis : SapisOk params.nsapi
  inRanges : params.Complete → InRanges params.ranged
  further : params.Complete → params.Further

/-- Values that are in their ranges unless they are missing. -/
theorem inRanges_of_complete {rs : List ParamRange} {vs : List ℤ}
    (h : ∀ rv ∈ rs.zip vs, rv.2 = -1 ∨ rv.1.min ≤ rv.2 ∧ rv.2 ≤ rv.1.max)
    (hcomplete : ∀ v ∈ vs, 0 ≤ v) : InRanges (rs.zip vs) := by
  intro rv hrv
  refine (h rv hrv).resolve_left fun hmissing ↦ ?_
  have hnonneg := hcomplete _ (List.of_mem_zip hrv).2
  omega

section

variable (mem : Mem) (pos srcLen : ℕ)

theorem decoded_rfc1144 :
    (CompParams.rfc1144 (decodePcompRfc1144Params mem pos srcLen).1).Decoded := by
  obtain ⟨hsapis, hlen, hrange⟩ := decodeSapisAndRanges_ok mem pos srcLen rfc1144Ranges
  rw [decodePcompRfc1144Params]
  rcases hrun : decodeSapisAndRanges mem pos srcLen rfc1144Ranges with ⟨nsapi, values, n⟩
  rw [hrun] at hsapis hlen hrange
  obtain ⟨s01, rfl⟩ := List.length_eq_one_iff.mp hlen
  exact ⟨hsapis, inRanges_of_complete hrange, fun _ ↦ trivial⟩

theorem decoded_rfc2507 :
    (CompParams.rfc2507 (decodePcompRfc2507Params mem pos srcLen).1).Decoded := by
  obtain ⟨hsapis, hlen, hrange⟩ := decodeSapisAndRanges_ok mem pos srcLen rfc2507Ranges
  rw [decodePcompRfc2507Params]
  rcases hrun : decodeSapisAndRanges mem pos srcLen rfc2507Ranges with ⟨nsapi, values, n⟩
  rw [hrun] at hsapis hlen hrange
  obtain ⟨a, rest, rfl⟩ := List.exists_cons_of_length_eq_add_one hlen
  obtain ⟨b, c, d, e, rfl⟩ := List.length_eq_four.mp (Nat.succ.inj hlen)
  exact ⟨hsapis, inRanges_of_complete hrange, fun _ ↦ trivial⟩

theorem decoded_v42bis :
    (CompParams.v42bis (decodeDcompV42bisParams mem pos srcLen).1).Decoded := by
  obtain ⟨hsapis, hlen, hrange⟩ := decodeSapisAndRanges_ok mem pos srcLen v42bisRanges
  rw [decodeDcompV42bisParams]
  rcases hrun : decodeSapisAndRanges mem pos srcLen v42bisRanges with ⟨nsapi, values, n⟩
  rw [hrun] at hsapis hlen hrange
  obtain ⟨a, b, c, rfl⟩ := List.length_eq_three.mp hlen
  exact ⟨hsapis, inRanges_of_complete hrange, fun _ ↦ trivial⟩

theorem decoded_rohc : (CompParams.rohc (decodePcompRohcParams mem pos srcLen).1).Decoded := by
  obtain ⟨hsapis, hlen, hrange⟩ :=
    decodeSapisAndRanges_ok mem pos srcLen (rohcRanges ++ List.replicate 16 profileRange)
  rw [decodePcompRohcParams]
  rcases hrun : decodeSapisAndRanges mem pos srcLen (rohcRanges ++ List.replicate 16 profileRange)
    with ⟨nsapi, values, n⟩
  rw [hrun] at hsapis hlen hrange
  match values, hlen with
  | a :: b :: profiles, hlen =>
    have hprofiles : profiles.length = 16 := by simpa [rohcRanges] using hlen
    refine ⟨hsapis, inRanges_of_complete fun rv hrv ↦ hrange rv ?_, fun _ ↦ ?_⟩
    · rcases List.mem_cons.mp hrv with rfl | hrv
      · exact List.mem_cons_self
      · obtain rfl := List.mem_singleton.mp hrv
        exact List.mem_cons_of_mem _ List.mem_cons_self
    · show (if _ then _ else _ : List ℤ).length ≤ 16
      split
      · exact hprofiles.le
      · exact Nat.zero_le _

theorem decoded_v44 {params : V44Params} {n : ℕ}
    (h : decodeDcompV44Params mem pos srcLen = some (params, n)) :
    (CompParams.v44 params).Decoded := by
  obtain ⟨hsapis, hlen, hrange⟩ := decodeSapisAndRanges_ok mem pos srcLen v44DecodeRanges
  rw [decodeDcompV44Params] at h
  rcases hrun : decodeSapisAndRanges mem pos srcLen v44DecodeRanges with ⟨nsapi, values, m⟩
  rw [hrun] at hsapis hlen hrange h
  match values, hlen with
  | [c0, p0, p1t, p1r, p3t, p3r], _ =>
    simp only [List.getD_cons_zero, List.getD_cons_succ] at h
    split_ifs at h with hc0 hp3t hp3r
    obtain ⟨rfl, -⟩ := Prod.ext_iff.mp (Option.some_inj.mp h)
    -- the decoder is the stricter of the two
    have hall (hcomplete : (CompParams.v44 ⟨nsapi, c0, p0, p1t, p1r, p3t, p3r⟩).Complete) :
        InRanges (v44DecodeRanges.zip [c0, p0, p1t, p1r, p3t, p3r]) ∧ 0 ≤ c0 ∧ 0 ≤ p3t ∧
          0 ≤ p3r := by
      refine ⟨inRanges_of_complete hrange hcomplete, hcomplete c0 ?_, hcomplete p3t ?_,
        hcomplete p3r ?_⟩ <;> simp [CompParams.values, V44Params.values]
    refine ⟨hsapis, fun hcomplete ↦ ?_, fun hcomplete ↦ ?_⟩
    · obtain ⟨hin, -⟩ := hall hcomplete
      simp only [InRanges, v44DecodeRanges, v44EncodeRanges, CompParams.ranged, V44Params.values,
        List.zip_cons_cons, List.zip_nil_right, List.forall_mem_cons] at hin ⊢
      obtain ⟨h0, h1, h2, h3, h4, h5, -⟩ := hin
      refine ⟨h0, h1, by omega, by omega, by omega, by omega, by simp⟩
    · obtain ⟨-, h0, h4, h5⟩ := hall hcomplete
      show (c0 = 0x80 ∨ c0 = 0xc0) ∧ 2 * p1t ≤ p3t ∧ 2 * p1r ≤ p3r
      omega

end

/-- What is known of a decoded field. -/
structure CompField.Decoded (f : CompField) : Prop where
  entity : f.entity ≤ 31
  comp : f.comp.length ≤ 16
  params : ∀ params, f.params = some params → f.algo = params.algo ∧ params.Decoded

theorem decodeCompParams_decoded {mem : Mem} {pos srcLen : ℕ} {compclass : XidParamType} {algo : ℤ}
    {params : CompParams} {n : ℕ}
    (h : decodeCompParams mem pos srcLen compclass algo = some (some params, n)) :
    algo = params.algo ∧ params.Decoded := by
  cases compclass with
  | versionNumber => simp [decodeCompParams] at h
  | invalidCompression => simp [decodeCompParams] at h
  | protocolCompression =>
    simp only [decodeCompParams, decodePcompParams, undecoded] at h
    split_ifs at h with h0 h1 h2
    · obtain ⟨rfl, -⟩ := by simpa using h
      exact ⟨h0, decoded_rfc1144 mem pos srcLen⟩
    · obtain ⟨rfl, -⟩ := by simpa using h
      exact ⟨h1, decoded_rfc2507 mem pos srcLen⟩
    · obtain ⟨rfl, -⟩ := by simpa using h
      exact ⟨h2, decoded_rohc mem pos srcLen⟩
    · simp at h
  | dataCompression =>
    simp only [decodeCompParams, decodeDcompParams, undecoded] at h
    split_ifs at h with h0 h1
    · obtain ⟨rfl, -⟩ := by simpa using h
      exact ⟨h0, decoded_v42bis mem pos srcLen⟩
    · cases hv44 : decodeDcompV44Params mem pos srcLen with
      | none => simp [hv44] at h
      | some res =>
        rw [hv44] at h
        obtain ⟨rfl, -⟩ := by simpa using h
        exact ⟨h1, decoded_v44 mem pos srcLen hv44⟩
    · simp at h

theorem decodeCompValues_length {mem : Mem} {pos : ℕ} {p : Bool} {compclass : XidParamType}
    {algo : ℤ} {comp : List ℕ} {n : ℕ}
    (h : decodeCompValues mem pos p compclass algo = some (comp, n)) : comp.length ≤ 16 := by
  rw [decodeCompValues] at h
  split_ifs at h
  · have hnum : ∀ k, compNum compclass algo = some k → k ≤ 5 := by
      intro k hk
      unfold compNum at hk
      split at hk <;> simp at hk <;> omega
    cases hk : compNum compclass algo with
    | none => simp [hk] at h
    | some k =>
      simp only [hk, Option.some_inj, Prod.mk.injEq] at h
      rw [← h.1, List.length_map, List.length_range]
      exact (hnum k hk).trans (by norm_num)
  · simp only [Option.some_inj, Prod.mk.injEq] at h
    rw [← h.1]
    exact Nat.zero_le _

/-- **Every decoded field** is known in this way. -/
theorem decodeCompField_decoded {mem : Mem} {pos srcLen : ℕ} {lt : Option (List EntityAlgo)}
    {compclass : XidParamType} {f : CompField} {n : ℕ}
    (h : decodeCompField mem pos srcLen lt compclass = some (f, n)) : f.Decoded := by
  rw [decodeCompField] at h
  split_ifs at h
  simp only at h
  split at h
  · simp at h
  · rename_i comp k hvalues
    split at h
    · simp at h
    · rename_i params m hparams
      obtain ⟨rfl, -⟩ := Prod.ext_iff.mp (Option.some_inj.mp h)
      refine ⟨?_, decodeCompValues_length hvalues, ?_⟩
      · show (mem pos).toNat % 32 ≤ 31
        omega
      · rintro params' ⟨⟩
        exact decodeCompParams_decoded hparams

theorem decodeXidBlock_decoded {mem : Mem} {val tagLen : ℕ} {lt : Option (List EntityAlgo)}
    {compclass : XidParamType} {n byteCounter : ℕ} {fields out : List CompField}
    (hfields : ∀ f ∈ fields, f.Decoded)
    (h : decodeXidBlock mem val tagLen lt compclass n byteCounter fields = some out) :
    ∀ f ∈ out, f.Decoded := by
  induction n generalizing byteCounter fields with
  | zero => simp [decodeXidBlock] at h
  | succ n ih =>
    rw [decodeXidBlock] at h
    split at h
    · simp at h
    · rename_i f rc hf
      have hcons : ∀ g ∈ f :: fields, g.Decoded :=
        List.forall_mem_cons.mpr ⟨decodeCompField_decoded hf, hfields⟩
      split_ifs at h
      · exact ih hcons h
      · obtain rfl := Option.some_inj.mp h
        exact hcons

theorem decodeElements_decoded {mem : Mem} {srcLen : ℕ} {lt : Option (List EntityAlgo)}
    {n srcPos : ℕ} {version version' : ℤ} {fields out : List CompField}
    (hfields : ∀ f ∈ fields, f.Decoded)
    (h : decodeElements mem srcLen lt n srcPos version fields = some (version', out)) :
    ∀ f ∈ out, f.Decoded := by
  induction n generalizing srcPos version fields with
  | zero => simp [decodeElements] at h
  | succ n ih =>
    rw [decodeElements] at h
    split at h
    · simp at h
    · rename_i tag tagLen htag
      simp only at h
      split at h
      · simp at h
      · rename_i fields' hblock
        have hfields' : ∀ f ∈ fields', f.Decoded := by
          split_ifs at hblock
          · obtain rfl := Option.some_inj.mp hblock
            exact hfields
          · exact decodeXidBlock_decoded hfields hblock
        by_cases hend : srcLen - (srcPos + 2 + tagLen) ≤ 2
        · rw [if_pos hend] at h
          obtain ⟨-, rfl⟩ := Prod.ext_iff.mp (Option.some_inj.mp h)
          exact hfields'
        · rw [if_neg hend] at h
          exact ih hfields' h

/-- **Every field of a parsed message** is known in this way. -/
theorem gprsSndcpParseXid_decoded {mem : Mem} {srcLen : ℕ} {version : ℤ} {fields : List CompField}
    (h : gprsSndcpParseXid mem srcLen none = some (version, fields)) : ∀ f ∈ fields, f.Decoded := by
  rw [gprsSndcpParseXid] at h
  split_ifs at h
  exact decodeElements_decoded (by simp) h

/-! ## Handling the fields -/

/-- Entities of one class, all with the algorithm of number 0: RFC 1144 or V.42bis. -/
def OnlyClass (compclass : XidParamType) (entities : List CompEntity) : Prop :=
  ∀ e ∈ entities, e.compclass = compclass ∧ e.algo = 0

/-- The entities of a logical link as they are: only RFC 1144 and V.42bis are ever accepted. -/
structure Negotiated extends LlmeComp where
  proto_rfc1144 : OnlyClass .protocolCompression proto
  data_v42bis : OnlyClass .dataCompression data

/-- A new logical link. -/
def Negotiated.alloc : Negotiated := ⟨⟨[], []⟩, by simp [OnlyClass], by simp [OnlyClass]⟩

theorem gprsSndcpCompDelete_eq {compclass : XidParamType} {entities : List CompEntity}
    (h : OnlyClass compclass entities) (entity : ℕ) :
    gprsSndcpCompDelete entities entity = .ok (entities.eraseP fun e ↦ e.entity = entity) := by
  rw [gprsSndcpCompDelete]
  cases hfind : entities.find? fun e ↦ e.entity = entity with
  | none =>
    rw [List.eraseP_of_forall_not]
    intro e he
    simpa using List.find?_eq_none.mp hfind e he
  | some e =>
    have he := h e (List.mem_of_find?_eq_some hfind)
    by_cases hclass : e.compclass = .protocolCompression
    · simp only [if_pos hclass, gprsSndcpPcompTerm]
      rw [osmoAssert_bind, if_pos ⟨hclass, he.2⟩]
      rfl
    · simp only [if_neg hclass]
      rfl

theorem OnlyClass.eraseP {compclass : XidParamType} {entities : List CompEntity}
    (h : OnlyClass compclass entities) (entity : ℕ) :
    OnlyClass compclass (entities.eraseP fun e ↦ e.entity = entity) :=
  fun e he ↦ h e (List.mem_of_mem_eraseP he)

/-- A field and the answer to it. -/
inductive Answer (f : CompField) : CompField → Prop
  /-- Without parameters there is nothing to answer. -/
  | nothing (h : f.params = none) : Answer f f
  | accepted (params : CompParams) (h : f.params = some params) : Answer f { f with p := false }
  | rejected (params : CompParams) (h : f.params = some params) :
      Answer f { f with p := false, params := some params.rejected }

/-- The outcome of handling a field: it is answered, and the entities stay as they should be. -/
def Handled (f : CompField) (res : Except XidFailure (LlmeComp × CompField)) : Prop :=
  ∃ comp g, res = .ok (comp, g) ∧ OnlyClass .protocolCompression comp.proto ∧
    OnlyClass .dataCompression comp.data ∧ Answer f g

section Handle

variable (cfg : XidCfg) {comp : LlmeComp} (hproto : OnlyClass .protocolCompression comp.proto)
  (hdata : OnlyClass .dataCompression comp.data) {f : CompField}

include hproto hdata

theorem handled_reject_proto {params : CompParams} (hparams : f.params = some params) :
    Handled f (do
      let proto ← gprsSndcpCompDelete comp.proto f.entity
      return ({ comp with proto },
        { f with p := false, params := some params.rejected })) := by
  rw [gprsSndcpCompDelete_eq hproto]
  exact ⟨_, _, rfl, hproto.eraseP _, hdata, .rejected params hparams⟩

theorem handled_reject_data {params : CompParams} (hparams : f.params = some params) :
    Handled f (do
      let data ← gprsSndcpCompDelete comp.data f.entity
      return ({ comp with data },
        { f with p := false, params := some params.rejected })) := by
  rw [gprsSndcpCompDelete_eq hdata]
  exact ⟨_, _, rfl, hproto, hdata.eraseP _, .rejected params hparams⟩

/-- **No field fails.** -/
theorem handled_handleCompField (hf : f.Decoded) : Handled f (handleCompField cfg comp f) := by
  obtain ⟨p, entity, algo, values, params⟩ := f
  cases params with
  | none =>
    have hnone : (CompField.mk p entity algo values none).params = none := rfl
    simp only [handleCompField, gprsSndcpGetCompressionClass]
    rw [gprsSndcpCompDelete_eq hproto, gprsSndcpCompDelete_eq hdata]
    exact ⟨_, _, rfl, hproto.eraseP _, hdata.eraseP _, .nothing hnone⟩
  | some params =>
    obtain ⟨halgo, -⟩ := hf.params params rfl
    obtain rfl : algo = params.algo := halgo
    cases params with
    | rfc1144 params =>
      simp only [handleCompField, gprsSndcpGetCompressionClass, CompParams.compclass,
        handlePcompEntities, CompParams.algo]
      split_ifs with haccept
      · have hnsapi : (CompParams.rfc1144 params).nsapi ≠ [] := haccept.2
        simp only [gprsSndcpCompAdd, gprsSndcpCompDelete_eq hproto, gprsSndcpCompCreate,
          osmoAssert_bind, if_pos hnsapi, CompParams.compclass, gprsSndcpPcompInit, if_true]
        refine ⟨_, _, rfl, ?_, hdata, .accepted _ rfl⟩
        exact List.forall_mem_cons.mpr ⟨⟨rfl, rfl⟩, hproto.eraseP _⟩
      · exact handled_reject_proto hproto hdata rfl
    | rfc2507 params => exact handled_reject_proto hproto hdata rfl
    | rohc params => exact handled_reject_proto hproto hdata rfl
    | v42bis params =>
      simp only [handleCompField, gprsSndcpGetCompressionClass, CompParams.compclass,
        handleDcompEntities, CompParams.algo]
      split_ifs with haccept
      · have hnsapi : (CompParams.v42bis params).nsapi ≠ [] := haccept.2
        simp only [gprsSndcpCompAdd, gprsSndcpCompDelete_eq hdata, gprsSndcpCompCreate,
          osmoAssert_bind, if_pos hnsapi, CompParams.compclass, gprsSndcpDcompInit, if_true]
        refine ⟨_, _, rfl, hproto, ?_, .accepted _ rfl⟩
        exact List.forall_mem_cons.mpr ⟨⟨rfl, rfl⟩, hdata.eraseP _⟩
      · exact handled_reject_data hproto hdata rfl
    | v44 params => exact handled_reject_data hproto hdata rfl

end Handle

/-- **A list of fields** is answered field by field. -/
theorem handleCompFields_answers (cfg : XidCfg) (fields : List CompField)
    (hfields : ∀ f ∈ fields, f.Decoded) {comp : LlmeComp}
    (hproto : OnlyClass .protocolCompression comp.proto)
    (hdata : OnlyClass .dataCompression comp.data) :
    ∃ comp' answers, handleCompFields cfg comp fields = .ok (comp', answers) ∧
      OnlyClass .protocolCompression comp'.proto ∧ OnlyClass .dataCompression comp'.data ∧
      List.Forall₂ Answer fields answers := by
  induction fields generalizing comp with
  | nil => exact ⟨comp, [], rfl, hproto, hdata, .nil⟩
  | cons f fields ih =>
    rw [List.forall_mem_cons] at hfields
    obtain ⟨comp₁, g, hg, hproto₁, hdata₁, hanswer⟩ :=
      handled_handleCompField cfg hproto hdata hfields.1
    obtain ⟨comp₂, answers, hanswers, hproto₂, hdata₂, hall⟩ := ih hfields.2 hproto₁ hdata₁
    refine ⟨comp₂, g :: answers, ?_, hproto₂, hdata₂, .cons hanswer hall⟩
    rw [handleCompFields, hg]
    show (do
      let (comp, fields) ← handleCompFields cfg comp₁ fields
      return (comp, g :: fields)) = _
    rw [hanswers]
    rfl

/-! ## The size of the answer -/

/-- The number of octets of the answer to a field. -/
def answerLen (f : CompField) : ℕ :=
  match f.params with
  | some params => 2 + params.size
  | none => 0

/-- The number of octets of the answers to the fields of a class. -/
def answersLen (compclass : XidParamType) (fields : List CompField) : ℕ :=
  ((ofClass compclass fields).map answerLen).sum

/-- The number of octets of an element with a block of fields, of which the length octet keeps the
low eight bits. -/
def elementLen (n : ℕ) : ℕ := if n = 0 then 0 else 2 + n % 256

/-- The number of octets that are written for an answer. -/
def responseLen (fields : List CompField) : ℕ :=
  3 + elementLen (answersLen .dataCompression fields) +
    elementLen (answersLen .protocolCompression fields)

/-- Whether all parameters of a field are there. -/
def CompField.Complete (f : CompField) : Prop := ∀ params ∈ f.params, params.Complete

instance (f : CompField) : Decidable f.Complete :=
  inferInstanceAs (Decidable (∀ params ∈ f.params, params.Complete))

@[simp] theorem CompParams.rejected_compclass (params : CompParams) :
    params.rejected.compclass = params.compclass := by
  cases params <;> rfl

@[simp] theorem CompParams.rejected_size (params : CompParams) :
    params.rejected.size = params.size := by
  cases params <;> rfl

theorem CompParams.algo_le (params : CompParams) : 0 ≤ params.algo ∧ params.algo ≤ 0x1f := by
  cases params <;> simp [algo]

/-- The ranges say of the values what is in them. -/
theorem CompParams.complete_of_inRanges {params : CompParams} (h : InRanges params.ranged) :
    params.Complete := by
  have hzip (rs : List ParamRange) (vs : List ℤ) (hlen : vs.length = rs.length)
      (hfits : ∀ r ∈ rs, 0 ≤ r.min) (hin : InRanges (rs.zip vs)) : ∀ v ∈ vs, 0 ≤ v := by
    intro v hv
    obtain ⟨i, hi, rfl⟩ := List.mem_iff_getElem.mp hv
    have hmem : (rs[i], vs[i]) ∈ rs.zip vs := by
      rw [← List.getElem_zip (h := by simpa [hlen] using hi)]
      exact List.getElem_mem _
    exact (hfits _ (List.getElem_mem _)).trans (hin _ hmem).1
  cases params with
  | rfc1144 params => exact hzip _ _ rfl (by decide) h
  | rfc2507 params => exact hzip _ _ rfl (by decide) h
  | rohc params => exact hzip _ _ rfl (by decide) h
  | v42bis params => exact hzip _ _ rfl (by decide) h
  | v44 params => exact hzip _ _ rfl (by decide) h

theorem CompParams.Decoded.encodable_iff {params : CompParams} (h : params.Decoded) :
    params.Encodable ↔ params.Complete :=
  ⟨fun henc ↦ complete_of_inRanges henc.2.1,
    fun hcomplete ↦ ⟨h.sapis, h.inRanges hcomplete, h.further hcomplete⟩⟩

/-- The list of NSAPIs is the only thing that a rejection changes. -/
theorem CompParams.Decoded.rejected {params : CompParams} (h : params.Decoded) :
    params.rejected.Decoded ∧ (params.rejected.Complete ↔ params.Complete) := by
  have hsapis : SapisOk [] := by decide
  cases params with
  | rfc1144 params => exact ⟨⟨hsapis, h.inRanges, h.further⟩, Iff.rfl⟩
  | rfc2507 params => exact ⟨⟨hsapis, h.inRanges, h.further⟩, Iff.rfl⟩
  | rohc params => exact ⟨⟨hsapis, h.inRanges, h.further⟩, Iff.rfl⟩
  | v42bis params => exact ⟨⟨hsapis, h.inRanges, h.further⟩, Iff.rfl⟩
  | v44 params => exact ⟨⟨hsapis, h.inRanges, h.further⟩, Iff.rfl⟩

/-- A field without the propose bit is fit for encoding if nothing is missing. -/
theorem codable_unproposed_iff {f : CompField} (hf : f.Decoded) {params answered : CompParams}
    (hparams : f.params = some params) (hanswered : answered.Decoded) :
    ({ f with p := false, params := some answered } : CompField).Codable ↔ answered.Complete := by
  have hbound : 0 ≤ f.algo ∧ f.algo ≤ 0x1f := by
    rw [(hf.params params hparams).1]
    exact params.algo_le
  rw [CompField.codable_iff rfl, CompField.Encodable, hanswered.encodable_iff]
  simp only [Bool.false_eq_true, false_and, not_false_eq_true, and_true]
  exact ⟨fun h ↦ h.1, fun h ↦ ⟨h, hf.comp, hf.entity, hbound⟩⟩

theorem complete_iff {f : CompField} {params : CompParams} (hparams : f.params = some params) :
    f.Complete ↔ params.Complete := by
  rw [CompField.Complete, hparams]
  simp

/-- **An answer** has the class of the field, its size is known, and it is fit for encoding if
nothing is missing in the field. -/
theorem Answer.spec {f g : CompField} (h : Answer f g) (hf : f.Decoded) :
    gprsSndcpGetCompressionClass g = gprsSndcpGetCompressionClass f ∧
      g.octetCount = answerLen f ∧
      (f.params ≠ none → (g.Codable ↔ f.Complete)) := by
  cases h with
  | nothing h => exact ⟨rfl, by rw [CompField.octetCount, answerLen, h], fun hne ↦ absurd h hne⟩
  | accepted params h =>
    have hsame : ({ f with p := false } : CompField) =
        { f with p := false, params := some params } := by rw [← h]
    refine ⟨rfl, ?_, fun _ ↦ ?_⟩
    · rw [hsame, answerLen, h]
      rfl
    · rw [hsame, codable_unproposed_iff hf h (hf.params params h).2, complete_iff h]
  | rejected params h =>
    obtain ⟨hrejected, hcomplete⟩ := (hf.params params h).2.rejected
    refine ⟨?_, ?_, fun _ ↦ ?_⟩
    · rw [gprsSndcpGetCompressionClass, gprsSndcpGetCompressionClass, h]
      exact params.rejected_compclass
    · rw [answerLen, h]
      exact congrArg (2 + ·) params.rejected_size
    · rw [codable_unproposed_iff hf h hrejected, hcomplete, complete_iff h]

/-- The answers to the fields of a class. -/
theorem answers_ofClass {fields answers : List CompField} (h : List.Forall₂ Answer fields answers)
    (hfields : ∀ f ∈ fields, f.Decoded) {compclass : XidParamType}
    (hclass : compclass ≠ .invalidCompression) :
    blockLen (ofClass compclass answers) = answersLen compclass fields ∧
      ((∀ g ∈ ofClass compclass answers, g.Codable) ↔
        ∀ f ∈ ofClass compclass fields, f.Complete) := by
  induction h with
  | nil => exact ⟨rfl, by simp [ofClass]⟩
  | @cons f g fields answers hanswer _ ih =>
    rw [List.forall_mem_cons] at hfields
    obtain ⟨hsame, hlen, hcodable⟩ := hanswer.spec hfields.1
    obtain ⟨ihlen, ihcodable⟩ := ih hfields.2
    by_cases hf : gprsSndcpGetCompressionClass f = compclass
    · have hof : ofClass compclass (f :: fields) = f :: ofClass compclass fields :=
        List.filter_cons_of_pos (by simpa using hf)
      have hog : ofClass compclass (g :: answers) = g :: ofClass compclass answers :=
        List.filter_cons_of_pos (by simpa [hsame] using hf)
      have hne : f.params ≠ none := by
        intro hnone
        rw [gprsSndcpGetCompressionClass, hnone] at hf
        exact hclass hf.symm
      constructor
      · rw [hog, blockLen, List.map_cons, List.sum_cons, hlen, answersLen, hof, List.map_cons,
          List.sum_cons, ← blockLen, ihlen, answersLen]
      · rw [hog, hof, List.forall_mem_cons, List.forall_mem_cons, hcodable hne, ihcodable]
    · have hof : ofClass compclass (f :: fields) = ofClass compclass fields :=
        List.filter_cons_of_neg (by simpa using hf)
      have hog : ofClass compclass (g :: answers) = ofClass compclass answers :=
        List.filter_cons_of_neg (by simpa [hsame] using hf)
      rw [hog, answersLen, hof]
      exact ⟨ihlen, ihcodable⟩

theorem length_tlvBlock (tag : UInt8) (block : Bytes) :
    (tlvBlock tag block).length = elementLen block.length := by
  rw [tlvBlock, elementLen]
  by_cases hnil : block = []
  · rw [if_pos hnil, if_pos (List.length_eq_zero_iff.mpr hnil)]
    rfl
  · rw [if_neg hnil, if_neg (mt List.length_eq_zero_iff.mp hnil), tlvPut, List.length_cons,
      List.length_cons, List.length_take, min_eq_left (Nat.mod_le _ _)]
    omega

/-- Whether the fields of a class can be packed. -/
def Packable (compclass : XidParamType) (fields : List CompField) : Prop :=
  (∀ f ∈ ofClass compclass fields, f.Codable) ∧
    blockLen (ofClass compclass fields) ≤ compBytesLen

instance (compclass : XidParamType) (fields : List CompField) :
    Decidable (Packable compclass fields) := inferInstanceAs (Decidable (_ ∧ _))

/-- **Compiling an answer** fails, or writes as many octets as the blocks need. -/
theorem gprsSndcpCompileXid_answer (dstMaxlen : ℕ) (fields : List CompField) :
    if 3 ≤ dstMaxlen ∧ Packable .dataCompression fields ∧ Packable .protocolCompression fields then
      ∃ out, gprsSndcpCompileXid dstMaxlen fields 0 = .ok out ∧
        out.written.length = 3 + elementLen (blockLen (ofClass .dataCompression fields)) +
          elementLen (blockLen (ofClass .protocolCompression fields))
    else gprsSndcpCompileXid dstMaxlen fields 0 = .error .assertion := by
  have hhead : (if (0 : ℤ) ≤ 0 then tlvPut 0 [UInt8.ofNat (0 % 256 : ℤ).toNat] else []).length =
      3 := rfl
  by_cases hnil : fields = []
  · have hpack (compclass : XidParamType) : Packable compclass fields := by
      rw [hnil]
      exact ⟨by simp [ofClass], Nat.zero_le _⟩
    rw [gprsSndcpCompileXid, osmoAssert_bind]
    by_cases hdst : 3 ≤ dstMaxlen
    · rw [if_pos ⟨hdst, hpack _, hpack _⟩, if_pos hdst, if_pos hnil, hnil]
      exact ⟨_, rfl, rfl⟩
    · rw [if_neg (mt And.left hdst), if_neg hdst]
  · rw [gprsSndcpCompileXid, osmoAssert_bind]
    have hpack (compclass : XidParamType) : gprsSndcpPackFields compclass fields =
        if Packable compclass fields then .ok (blockBytes compclass fields)
        else .error .assertion := gprsSndcpPackFields_eq compclass fields
    simp only [if_neg hnil, hpack, ok_bind, ← ite_and]
    by_cases hall : 3 ≤ dstMaxlen ∧ Packable .dataCompression fields ∧
        Packable .protocolCompression fields
    · rw [if_pos hall, if_pos hall]
      refine ⟨_, rfl, ?_⟩
      rw [List.length_append, List.length_append, hhead, length_tlvBlock, length_tlvBlock,
        length_blockBytes, length_blockBytes]
    · rw [if_neg hall, if_neg hall]

/-- An SNDCP-XID indication is processed without a failed assertion, and the answer fits into its
buffer, which is of the size of the message. -/
def XidIndSafe (cfg : XidCfg) (comp : LlmeComp) (mem : Mem) (dataLen : ℕ) : Prop :=
  ∃ res, sndcpSnXidInd cfg comp mem dataLen = .ok res ∧ res.response.written.length ≤ dataLen

/-- **An SNDCP-XID from the mobile station.** For every message that can be parsed, whatever lies
behind it in memory, and every configuration: it is processed safely if and only if it has at least
three octets, no field lacks a parameter, the fields of each class fit into the buffer for one
class, and the answer is no longer than the message. -/
theorem sndcpSnXidInd_safe_iff (cfg : XidCfg) (comp : Negotiated) (mem : Mem) (dataLen : ℕ)
    (hlen : 1 ≤ dataLen) (version : ℤ) (fields : List CompField)
    (hparse : gprsSndcpParseXid mem dataLen none = some (version, fields)) :
    XidIndSafe cfg comp.toLlmeComp mem dataLen ↔
      3 ≤ dataLen ∧ (∀ f ∈ fields, f.Complete) ∧
        answersLen .dataCompression fields ≤ compBytesLen ∧
        answersLen .protocolCompression fields ≤ compBytesLen ∧ responseLen fields ≤ dataLen := by
  have hdecoded := gprsSndcpParseXid_decoded hparse
  obtain ⟨comp', answers, hhandle, -, -, hall⟩ :=
    handleCompFields_answers cfg fields hdecoded comp.proto_rfc1144 comp.data_v42bis
  obtain ⟨hdataLen, hdata⟩ :=
    answers_ofClass hall hdecoded (by decide : XidParamType.dataCompression ≠ .invalidCompression)
  obtain ⟨hprotoLen, hproto⟩ := answers_ofClass hall hdecoded
    (by decide : XidParamType.protocolCompression ≠ .invalidCompression)
  -- a field without parameters is in neither class, and lacks nothing
  have hcomplete : (∀ f ∈ fields, f.Complete) ↔
      (∀ f ∈ ofClass .dataCompression fields, f.Complete) ∧
        ∀ f ∈ ofClass .protocolCompression fields, f.Complete := by
    constructor
    · intro h
      exact ⟨fun f hf ↦ h f (List.mem_of_mem_filter hf), fun f hf ↦ h f (List.mem_of_mem_filter hf)⟩
    · rintro ⟨hD, hP⟩ f hf params hparams
      have hclass : gprsSndcpGetCompressionClass f = params.compclass := by
        rw [gprsSndcpGetCompressionClass, hparams]
      have hmem (compclass : XidParamType) (heq : params.compclass = compclass) :
          f ∈ ofClass compclass fields :=
        List.mem_filter.mpr ⟨hf, decide_eq_true (hclass.trans heq)⟩
      cases hc : params.compclass with
      | dataCompression => exact hD f (hmem _ hc) params hparams
      | protocolCompression => exact hP f (hmem _ hc) params hparams
      | versionNumber => cases params <;> simp [CompParams.compclass] at hc
      | invalidCompression => cases params <;> simp [CompParams.compclass] at hc
  have hind : sndcpSnXidInd cfg comp.toLlmeComp mem dataLen = do
      let response ← gprsSndcpCompileXid dataLen answers 0
      return ⟨if 0 < response.rc then .ok () else .error .einval, response, comp'⟩ := by
    rw [sndcpSnXidInd, if_neg (by omega), hparse]
    simp only [hhandle]
    rfl
  have hcompile := gprsSndcpCompileXid_answer dataLen answers
  rw [hdataLen, hprotoLen] at hcompile
  rw [XidIndSafe, hind, hcomplete, ← hdata, ← hproto, responseLen]
  by_cases hok : 3 ≤ dataLen ∧ Packable .dataCompression answers ∧
      Packable .protocolCompression answers
  · rw [if_pos hok] at hcompile
    obtain ⟨out, hout, hwritten⟩ := hcompile
    obtain ⟨hthree, ⟨hD, hDlen⟩, hP, hPlen⟩ := hok
    rw [hdataLen] at hDlen
    rw [hprotoLen] at hPlen
    rw [hout]
    constructor
    · rintro ⟨res, hres, hfit⟩
      obtain rfl := Except.ok.inj hres
      exact ⟨hthree, ⟨hD, hP⟩, hDlen, hPlen, hwritten ▸ hfit⟩
    · rintro ⟨-, -, -, -, hfit⟩
      exact ⟨_, rfl, hwritten.trans_le hfit⟩
  · rw [if_neg hok] at hcompile
    rw [hcompile]
    constructor
    · rintro ⟨res, hres, -⟩
      exact absurd hres (by simp [bind, Except.bind])
    · rintro ⟨hthree, ⟨hD, hP⟩, hDlen, hPlen, -⟩
      refine absurd ⟨hthree, ⟨hD, ?_⟩, hP, ?_⟩ hok
      · rw [hdataLen]
        exact hDlen
      · rw [hprotoLen]
        exact hPlen

/-- A version number and a complete proposal of RFC 1144 compression. -/
def exampleXid : Mem :=
  message [0x00, 0x01, 0x00, 0x02, 0x07, 0x80, 0x00, 0x04, 0x12, 0x00, 0x20, 0x07] fun _ ↦ 0

/-- A message that is processed safely. -/
theorem xid_complete_is_safe :
    gprsSndcpParseXid exampleXid 12 none =
        some (0, [⟨true, 0, 0, [1, 2], some (.rfc1144 ⟨[5], 7⟩)⟩]) ∧
      XidIndSafe ⟨true, true⟩ Negotiated.alloc.toLlmeComp exampleXid 12 := by
  have hparse : gprsSndcpParseXid exampleXid 12 none =
      some (0, [⟨true, 0, 0, [1, 2], some (.rfc1144 ⟨[5], 7⟩)⟩]) := by decide +kernel
  exact ⟨hparse, (sndcpSnXidInd_safe_iff ⟨true, true⟩ .alloc exampleXid 12 (by decide) _ _
    hparse).mpr (by decide +kernel)⟩

/-- A proposal of RFC 1144 compression without the number of slots. -/
def exampleXidIncomplete : Mem :=
  message [0x02, 0x06, 0x80, 0x00, 0x03, 0x12, 0x00, 0x20] fun _ ↦ 0

/-- A complete proposal of V.42bis compression, without a version number. -/
def exampleXidShort : Mem :=
  message [0x01, 0x0a, 0x80, 0x00, 0x07, 0x10, 0x00, 0x20, 0x03, 0x08, 0x00, 0x14] fun _ ↦ 0

/-- The first message makes an assertion fail, and for the second one thirteen octets are written
to a buffer of twelve. -/
theorem xid_unsafe :
    (gprsSndcpParseXid exampleXidIncomplete 8 none =
        some (-1, [⟨true, 0, 0, [1, 2], some (.rfc1144 ⟨[5], -1⟩)⟩]) ∧
      ¬ XidIndSafe ⟨true, true⟩ Negotiated.alloc.toLlmeComp exampleXidIncomplete 8) ∧
    (gprsSndcpParseXid exampleXidShort 12 none =
        some (-1, [⟨true, 0, 0, [1], some (.v42bis ⟨[5], 3, 2048, 20⟩)⟩]) ∧
      ¬ XidIndSafe ⟨true, true⟩ Negotiated.alloc.toLlmeComp exampleXidShort 12) := by
  refine ⟨⟨by decide +kernel, ?_⟩, by decide +kernel, ?_⟩
  · rintro ⟨res, hres, -⟩
    have hfail : (sndcpSnXidInd ⟨true, true⟩ Negotiated.alloc.toLlmeComp exampleXidIncomplete
        8).toOption.isSome = false := by decide +kernel
    rw [hres] at hfail
    exact Bool.false_ne_true hfail.symm
  · rintro ⟨res, hres, hfit⟩
    have hlong : (sndcpSnXidInd ⟨true, true⟩ Negotiated.alloc.toLlmeComp exampleXidShort
        12).toOption.map (·.response.written.length) = some 13 := by decide +kernel
    rw [hres] at hlong
    obtain heq : res.response.written.length = 13 := Option.some_inj.mp hlong
    omega

end OsmoSgsn.Sndcp
