import OsmoSgsn.Sndcp.XidInd

/-!
# Fields that are not read back

Robust header compression and V.44 have an encoder and a decoder too, but the two do not agree. The
decoder of a ROHC field sets the number of profiles back to 0 before each of the sixteen that it
tries to read, so a list of profiles is read back if it is full or empty, and is lost otherwise. The
encoder of a V.44 field takes numbers of codewords from 256 on; the decoder wants 265, and stops
where it finds less. Whatever stops the decoder, the rest of the field is left in the block.
-/

namespace OsmoSgsn.Sndcp

/-- Distinct NSAPIs are at most eleven. -/
theorem sapisOk_of_pairwise {nsapis : List ℕ} (hin : ∀ nsapi ∈ nsapis, 5 ≤ nsapi ∧ nsapi ≤ 15)
    (hsorted : nsapis.Pairwise (· < ·)) : SapisOk nsapis := by
  refine ⟨?_, hin⟩
  have hsub : nsapis ⊆ List.range' 5 11 := by
    intro nsapi hnsapi
    have := hin nsapi hnsapi
    exact List.mem_range'_1.mpr (by omega)
  have hnodup : nsapis.Nodup := hsorted.imp fun h ↦ Nat.ne_of_lt h
  have hle := (List.subperm_of_subset hnodup hsub).length_le
  rwa [List.length_range'] at hle

/-- Without octets nothing is read. -/
theorem decodeRanges_zero (mem : Mem) (pos : ℕ) (rs : List ParamRange) :
    decodeRanges mem pos 0 rs = (rs.map fun _ ↦ -1, 0) := by
  induction rs with
  | nil => rfl
  | cons r rs ih =>
    have hget : r.get mem pos 0 = none := by
      rw [ParamRange.get, decodePcomp16BitField, decodePcomp8BitField, if_pos two_pos,
        if_pos one_pos, ite_self]
    rw [decodeRanges, hget]

/-! ## Robust header compression -/

namespace RohcParams

/-- The ranges and the values of everything that follows the SAPIs. -/
def profiled (params : RohcParams) : List (ParamRange × ℤ) :=
  rohcRanges.zip [params.maxCid, params.maxHeader] ++ params.profile.map (profileRange, ·)

variable {params : RohcParams}

theorem rangeBytes_profiled :
    rangeBytes params.profiled = rangeBytes (CompParams.rohc params).ranged ++
      (CompParams.rohc params).profileBytes := by
  rw [rangeBytes, profiled, List.flatMap_append, List.flatMap_map]
  rfl

theorem length_rangeBytes_profiled :
    (rangeBytes params.profiled).length + 2 = (CompParams.rohc params).size := by
  rw [← CompParams.length_bytes, CompParams.bytes, rangeBytes_profiled]
  simp only [List.length_append]
  have hcount : (sapiBytes (CompParams.rohc params).nsapi).length = 2 := rfl
  omega

end RohcParams

namespace CompField

variable {f : CompField}

/-- A proposal of robust header compression, with everything that belongs to it. -/
structure RohcProposal (f : CompField) (params : RohcParams) : Prop extends
    f.Framed (.rohc params) where
  nsapi : ∀ nsapi ∈ params.nsapi, 5 ≤ nsapi ∧ nsapi ≤ 15
  sorted : params.nsapi.Pairwise (· < ·)
  maxCid : 0 ≤ params.maxCid ∧ params.maxCid ≤ 16383
  maxHeader : 60 ≤ params.maxHeader ∧ params.maxHeader ≤ 255
  profile_length : params.profile.length ≤ 16
  profile : ∀ profile ∈ params.profile, 0 ≤ profile ∧ profile ≤ 65535

section

variable {params : RohcParams}

theorem RohcProposal.inRanges (h : f.RohcProposal params) : InRanges params.profiled := by
  have hhead : InRanges (rohcRanges.zip [params.maxCid, params.maxHeader]) := by
    rintro rv hrv
    rcases List.mem_pair.mp hrv with rfl | rfl
    · exact h.maxCid
    · exact h.maxHeader
  intro rv hrv
  rcases List.mem_append.mp hrv with hrv | hrv
  · exact hhead rv hrv
  · obtain ⟨profile, hprofile, rfl⟩ := List.mem_map.mp hrv
    exact h.profile profile hprofile

theorem RohcProposal.encodable (h : f.RohcProposal params) : (CompParams.rohc params).Encodable :=
  ⟨sapisOk_of_pairwise h.nsapi h.sorted,
    fun rv hrv ↦ h.inRanges rv (List.mem_append_left _ hrv), h.profile_length⟩

/-- The profiles that the decoder finds. -/
def foundProfiles (profile : List ℤ) : List ℤ := if profile.length = 16 then profile else []

theorem RohcProposal.decodePcompRohcParams (h : f.RohcProposal params) {mem : Mem} {pos : ℕ}
    (hmem : Holds mem pos (CompParams.rohc params).bytes) :
    decodePcompRohcParams mem pos (CompParams.rohc params).size =
      ({ params with profile := foundProfiles params.profile }, (CompParams.rohc params).size) := by
  have hfits : ∀ rv ∈ params.profiled, rv.1.Fits := by
    intro rv hrv
    rcases List.mem_append.mp hrv with hrv | hrv
    · exact (CompParams.rohc params).fits_ranged rv hrv
    · obtain ⟨profile, -, rfl⟩ := List.mem_map.mp hrv
      exact (by decide : profileRange.Fits)
  have hranges : rohcRanges ++ List.replicate 16 profileRange =
      params.profiled.map (·.1) ++ List.replicate (16 - params.profile.length) profileRange := by
    have hmap : (params.profile.map (profileRange, ·)).map (·.1) =
        List.replicate params.profile.length profileRange := by
      rw [List.map_map]
      exact List.map_const'
    have hcount := h.profile_length
    rw [RohcParams.profiled, List.map_append, hmap, List.append_assoc,
      List.replicate_append_replicate,
      Nat.add_sub_cancel' hcount]
    rfl
  rw [CompParams.bytes, List.append_assoc, ← RohcParams.rangeBytes_profiled] at hmem
  have hlen : (rangeBytes params.profiled).length + 2 ≤ (CompParams.rohc params).size :=
    RohcParams.length_rangeBytes_profiled.le
  have hrun := decodeSapisAndRanges_append h.nsapi h.sorted params.profiled
    (List.replicate (16 - params.profile.length) profileRange) hfits h.inRanges hmem hlen
  have hleft : (CompParams.rohc params).size - 2 - (rangeBytes params.profiled).length = 0 := by
    rw [← RohcParams.length_rangeBytes_profiled]
    omega
  -- Nothing is left behind the profiles, so those that are missing are -1.
  rw [hleft, decodeRanges_zero, List.map_replicate, ← hranges,
    RohcParams.length_rangeBytes_profiled]
    at hrun
  have hvalues :
      params.profiled.map (·.2) = params.maxCid :: params.maxHeader :: params.profile := by
    rw [RohcParams.profiled, List.map_append, List.map_map]
    exact congrArg (params.maxCid :: params.maxHeader :: ·) (List.map_id params.profile)
  have hfound : (if ∀ profile ∈ params.profile ++
        List.replicate (16 - params.profile.length) (-1 : ℤ), 0 ≤ profile then
      params.profile ++ List.replicate (16 - params.profile.length) (-1) else []) =
      foundProfiles params.profile := by
    by_cases hfull : params.profile.length = 16
    · rw [foundProfiles, if_pos hfull, hfull, Nat.sub_self, List.replicate_zero, List.append_nil]
      exact if_pos fun profile hprofile ↦ (h.profile profile hprofile).1
    · have hcount := h.profile_length
      rw [foundProfiles, if_neg hfull]
      refine if_neg fun hall ↦ ?_
      have hmissing : (-1 : ℤ) ∈ List.replicate (16 - params.profile.length) (-1 : ℤ) :=
        List.mem_replicate.mpr ⟨by omega, rfl⟩
      exact absurd (hall (-1) (List.mem_append_right _ hmissing)) (by decide)
  rw [Sndcp.decodePcompRohcParams, hrun]
  simp only [hvalues, List.cons_append, List.getD_cons_zero, List.getD_cons_succ,
    List.drop_succ_cons, List.drop_zero, hfound, Nat.add_zero]

theorem RohcProposal.decodeCompField (h : f.RohcProposal params) {mem : Mem} {pos srcLen : ℕ}
    (hmem : Holds mem pos (f.bytes (.rohc params))) (hlen : 1 ≤ srcLen)
    (lt : Option (List EntityAlgo)) :
    decodeCompField mem pos srcLen lt .protocolCompression =
      some ({ f with
          params := some (.rohc { params with profile := foundProfiles params.profile }) },
        f.size (.rohc params)) := by
  have hsize : (CompParams.rohc params).size ≤ 252 := by
    have := h.profile_length
    simp only [CompParams.size]
    omega
  have hparams := h.decodePcompRohcParams (h.holds_params hmem)
  have hrun : decodeCompParams mem (pos + 3 + (f.comp.length + 1) / 2) (CompParams.rohc params).size
      .protocolCompression 2 =
      some (some (.rohc { params with profile := foundProfiles params.profile }),
        (CompParams.rohc params).size) := by
    simp only [decodeCompParams, decodePcompParams, hparams]
    rfl
  refine (h.toFramed.decodeCompField hsize hmem hlen lt).trans ?_
  simp only [CompParams.compclass, CompParams.algo, hrun, Option.map_some, size, h.p, if_true]

/-- The encoder has what it asserts, where there is room for the field. -/
theorem RohcProposal.encodeCompField (h : f.RohcProposal params) {dstMaxlen : ℕ}
    (hroom : f.size (.rohc params) ≤ dstMaxlen) :
    encodeCompField dstMaxlen f = .ok (f.bytes (.rohc params)) := by
  have halgo : 0 ≤ f.algo ∧ f.algo ≤ 0x1f := by
    rw [h.algo]
    exact (by decide : (0 : ℤ) ≤ 2 ∧ (2 : ℤ) ≤ 0x1f)
  have hencodable : f.Encodable (.rohc params) :=
    ⟨h.encodable, h.length_comp_le.trans (by decide), h.entity, halgo⟩
  rw [encodeCompField_eq h.params_eq, if_pos ⟨hencodable, hroom⟩, if_neg]
  rintro ⟨-, c, hc, hlt⟩
  exact absurd (h.comp c hc) (not_le.mpr hlt)

/-- **A ROHC field is read back if its list of profiles is empty or full**, and only then. -/
theorem rohc_read_back_iff (h : f.RohcProposal params) {dstMaxlen : ℕ}
    (hroom : f.size (.rohc params) ≤ dstMaxlen) :
    ∃ bytes, Sndcp.encodeCompField dstMaxlen f = .ok bytes ∧
      ∀ (behind : Mem) (lt : Option (List EntityAlgo)),
        (∃ rc, Sndcp.decodeCompField (message bytes behind) 0 bytes.length lt .protocolCompression =
          some (f, rc)) ↔ params.profile = [] ∨ params.profile.length = 16 := by
  refine ⟨f.bytes (.rohc params), h.encodeCompField hroom, fun behind lt ↦ ?_⟩
  have hlen : 1 ≤ (f.bytes (.rohc params)).length := by
    rw [length_bytes, size, h.p, if_pos rfl]
    omega
  rw [h.decodeCompField (holds_message _ behind) hlen lt]
  constructor
  · rintro ⟨rc, hrc⟩
    have hparams := congrArg CompField.params (Prod.ext_iff.mp (Option.some_inj.mp hrc)).1
    have hfound : foundProfiles params.profile = params.profile := by
      have := hparams.trans h.params_eq
      simp only [Option.some.injEq, CompParams.rohc.injEq] at this
      exact congrArg RohcParams.profile this
    rw [foundProfiles] at hfound
    split at hfound
    · next hfull => exact .inr hfull
    · exact .inl hfound.symm
  · intro hprofile
    have hfound : foundProfiles params.profile = params.profile := by
      rcases hprofile with hnil | hfull
      · rw [foundProfiles, hnil, ite_self]
      · rw [foundProfiles, if_pos hfull]
    refine ⟨f.size (.rohc params), congrArg some (Prod.ext ?_ rfl)⟩
    rw [hfound]
    exact congrArg (fun params ↦ { f with params }) h.params_eq.symm

end

/-- A proposal of robust header compression, with some profiles. -/
def exampleRohc (profile : List ℤ) : CompField :=
  ⟨true, 7, 2, [1, 2], some (.rohc ⟨[5, 6], 15, 168, profile⟩)⟩

theorem rohcProposal_example {profile : List ℤ} (hlen : profile.length ≤ 16)
    (hrange : ∀ p ∈ profile, 0 ≤ p ∧ p ≤ 65535) :
    (exampleRohc profile).RohcProposal ⟨[5, 6], 15, 168, profile⟩ where
  params_eq := rfl
  p := rfl
  entity := by simp [exampleRohc]
  algo := rfl
  comp_length := rfl
  comp := by simp [exampleRohc]
  nsapi := by simp
  sorted := by simp
  maxCid := by simp
  maxHeader := by simp
  profile_length := hlen
  profile := hrange

theorem rohc_without_profiles_read_back :
    ∃ bytes, Sndcp.encodeCompField 512 (exampleRohc []) = .ok bytes ∧
      ∀ (behind : Mem) (lt : Option (List EntityAlgo)), ∃ rc, Sndcp.decodeCompField
        (message bytes behind) 0 bytes.length lt .protocolCompression =
          some (exampleRohc [], rc) := by
  have h : (exampleRohc []).RohcProposal ⟨[5, 6], 15, 168, []⟩ :=
    rohcProposal_example (by decide) (by decide)
  have hroom : (exampleRohc []).size (.rohc ⟨[5, 6], 15, 168, []⟩) ≤ 512 := by decide
  obtain ⟨bytes, henc, hiff⟩ := rohc_read_back_iff h hroom
  exact ⟨bytes, henc, fun behind lt ↦ (hiff behind lt).mpr (.inl rfl)⟩

/-- Two profiles are lost. -/
theorem rohc_profiles_lost :
    ∃ bytes, Sndcp.encodeCompField 512 (exampleRohc [1, 2]) = .ok bytes ∧
      (∀ behind : Mem, Sndcp.decodeCompField (message bytes behind) 0 bytes.length none
        .protocolCompression = some (exampleRohc [], bytes.length)) ∧
      exampleRohc [] ≠ exampleRohc [1, 2] := by
  have h : (exampleRohc [1, 2]).RohcProposal ⟨[5, 6], 15, 168, [1, 2]⟩ :=
    rohcProposal_example (by decide) (by decide)
  refine ⟨(exampleRohc [1, 2]).bytes (.rohc ⟨[5, 6], 15, 168, [1, 2]⟩),
    h.encodeCompField (by decide), fun behind ↦ ?_, by decide⟩
  rw [h.decodeCompField (holds_message _ behind) (by decide) none, length_bytes]
  rfl

/-! ## V.44 -/

/-- A proposal of V.44 compression with values that the encoder accepts. -/
structure V44Proposal (f : CompField) (params : V44Params) : Prop extends
    f.Framed (.v44 params) where
  nsapi : ∀ nsapi ∈ params.nsapi, 5 ≤ nsapi ∧ nsapi ≤ 15
  sorted : params.nsapi.Pairwise (· < ·)
  accepted : ∃ bytes, encodeDcompV44Params params = .ok bytes

section

variable {params : V44Params}

theorem V44Proposal.encodable (h : f.V44Proposal params) : (CompParams.v44 params).Encodable := by
  obtain ⟨bytes, hbytes⟩ := h.accepted
  have heq := (CompParams.v44 params).encodeCompParams_eq
  rw [show encodeCompParams (.v44 params) = encodeDcompV44Params params from rfl, hbytes] at heq
  by_contra hnot
  rw [if_neg hnot] at heq
  exact absurd heq nofun

theorem V44Proposal.encodeCompField (h : f.V44Proposal params) {dstMaxlen : ℕ}
    (hroom : f.size (.v44 params) ≤ dstMaxlen) :
    encodeCompField dstMaxlen f = .ok (f.bytes (.v44 params)) := by
  have halgo : 0 ≤ f.algo ∧ f.algo ≤ 0x1f := by
    rw [h.algo]
    exact (by decide : (0 : ℤ) ≤ 1 ∧ (1 : ℤ) ≤ 0x1f)
  have hencodable : f.Encodable (.v44 params) :=
    ⟨h.encodable, h.length_comp_le.trans (by decide), h.entity, halgo⟩
  rw [encodeCompField_eq h.params_eq, if_pos ⟨hencodable, hroom⟩, if_neg]
  rintro ⟨-, c, hc, hlt⟩
  exact absurd (h.comp c hc) (not_le.mpr hlt)

/-- What the encoder writes is in the ranges of the decoder too. -/
theorem V44Proposal.inRanges (h : f.V44Proposal params) (ht : 265 ≤ params.p1t)
    (hr : 265 ≤ params.p1r) : InRanges (v44DecodeRanges.zip params.values) := by
  obtain ⟨-, hin, -, h3t, h3r⟩ := h.encodable
  have hall : (0 ≤ params.c0 ∧ params.c0 ≤ 255) ∧ (0 ≤ params.p0 ∧ params.p0 ≤ 3) ∧
      (256 ≤ params.p1t ∧ params.p1t ≤ 65535) ∧ (256 ≤ params.p1r ∧ params.p1r ≤ 65535) ∧
      (0 ≤ params.p3t ∧ params.p3t ≤ 65535) ∧ (0 ≤ params.p3r ∧ params.p3r ≤ 65535) := by
    simpa [InRanges, CompParams.ranged, v44EncodeRanges, V44Params.values] using hin
  have hgoal : (0 ≤ params.c0 ∧ params.c0 ≤ 255) ∧ (0 ≤ params.p0 ∧ params.p0 ≤ 3) ∧
      (265 ≤ params.p1t ∧ params.p1t ≤ 65535) ∧ (265 ≤ params.p1r ∧ params.p1r ≤ 65535) ∧
      (265 ≤ params.p3t ∧ params.p3t ≤ 65535) ∧ (265 ≤ params.p3r ∧ params.p3r ≤ 65535) := by
    omega
  simpa [InRanges, v44DecodeRanges, V44Params.values] using hgoal

theorem V44Proposal.decodeDcompV44Params (h : f.V44Proposal params) (ht : 265 ≤ params.p1t)
    (hr : 265 ≤ params.p1r) {mem : Mem} {pos : ℕ}
    (hmem : Holds mem pos (CompParams.v44 params).bytes) :
    decodeDcompV44Params mem pos 12 = some (params, 12) := by
  obtain ⟨hsapis, -, hc0, h3t, h3r⟩ := h.encodable
  have hbytes : (CompParams.v44 params).bytes =
      sapiBytes params.nsapi ++ rangeBytes (v44DecodeRanges.zip params.values) :=
    List.append_nil _
  rw [hbytes] at hmem
  have hfits : ∀ rv ∈ v44DecodeRanges.zip params.values, rv.1.Fits := fun rv hrv ↦
    (by decide : ∀ r ∈ v44DecodeRanges, r.Fits) _ (List.of_mem_zip hrv).1
  have hrun : decodeSapisAndRanges mem pos 12 v44DecodeRanges = (params.nsapi, params.values, 12) :=
    decodeSapisAndRanges_bytes hsapis h.sorted _ hfits (h.inRanges ht hr) hmem le_rfl
  have hc0' : ¬ (0 ≤ params.c0 ∧ params.c0 ≠ 0x80 ∧ params.c0 ≠ 0xc0) := by
    rintro ⟨-, h80, hc0'⟩
    exact hc0.elim h80 hc0'
  have h3t' : ¬ (0 ≤ params.p3t ∧ params.p3t < 2 * params.p1t) := fun hlt ↦ not_lt.mpr h3t hlt.2
  have h3r' : ¬ (0 ≤ params.p3r ∧ params.p3r < 2 * params.p1r) := fun hlt ↦ not_lt.mpr h3r hlt.2
  rw [Sndcp.decodeDcompV44Params, hrun]
  simp only [V44Params.values, List.getD_cons_zero, List.getD_cons_succ, if_neg hc0', if_neg h3t',
    if_neg h3r']

/-- A number of codewords that is decoded is in the range of the decoder. -/
theorem decodeDcompV44Params_p1 {mem : Mem} {pos srcLen n : ℕ}
    (h : Sndcp.decodeDcompV44Params mem pos srcLen = some (params, n)) :
    (params.p1t = -1 ∨ 265 ≤ params.p1t) ∧ (params.p1r = -1 ∨ 265 ≤ params.p1r) := by
  obtain ⟨-, hlen, hrange⟩ := decodeSapisAndRanges_ok mem pos srcLen v44DecodeRanges
  rw [Sndcp.decodeDcompV44Params] at h
  rcases hrun : decodeSapisAndRanges mem pos srcLen v44DecodeRanges with ⟨nsapi, values, n'⟩
  rw [hrun] at hlen hrange h
  obtain ⟨c0, rest, rfl⟩ := List.exists_cons_of_length_eq_add_one hlen
  obtain ⟨p0, rest, rfl⟩ := List.exists_cons_of_length_eq_add_one (Nat.succ.inj hlen)
  obtain ⟨p1t, p1r, p3t, p3r, rfl⟩ := List.length_eq_four.mp (Nat.succ.inj (Nat.succ.inj hlen))
  have hp1t := hrange (⟨true, 265, 65535⟩, p1t) (by simp [v44DecodeRanges])
  have hp1r := hrange (⟨true, 265, 65535⟩, p1r) (by simp [v44DecodeRanges])
  have hparams : params = ⟨nsapi, c0, p0, p1t, p1r, p3t, p3r⟩ := by
    simp only [List.getD_cons_zero, List.getD_cons_succ] at h
    split_ifs at h
    exact (Prod.ext_iff.mp (Option.some_inj.mp h)).1.symm
  rw [hparams]
  exact ⟨hp1t.imp_right And.left, hp1r.imp_right And.left⟩

/-- A field that is read back has enough codewords for the decoder. -/
theorem V44Proposal.p1_of_decodeCompField (h : f.V44Proposal params) {mem : Mem}
    {pos srcLen rc : ℕ} (hmem : Holds mem pos (f.bytes (.v44 params))) (hlen : 1 ≤ srcLen)
    {lt : Option (List EntityAlgo)}
    (hdecode : Sndcp.decodeCompField mem pos srcLen lt .dataCompression = some (f, rc)) :
    265 ≤ params.p1t ∧ 265 ≤ params.p1r := by
  have hrun := h.toFramed.decodeCompField (by decide : 12 ≤ 252) hmem hlen lt
  obtain ⟨⟨decoded, n⟩, hparams, hfield⟩ := Option.map_eq_some_iff.mp (hrun.symm.trans hdecode)
  have hdecoded : decoded = some (.v44 params) :=
    (congrArg CompField.params (Prod.ext_iff.mp hfield).1).trans h.params_eq
  have hv44 : Sndcp.decodeDcompV44Params mem (pos + 3 + (f.comp.length + 1) / 2) 12 =
      some (params, n) := by
    rw [hdecoded] at hparams
    simp only [CompParams.compclass, CompParams.algo, CompParams.size, decodeCompParams,
      decodeDcompParams, one_ne_zero, if_false, if_true] at hparams
    split at hparams
    · simp at hparams
    · next hsome =>
      rw [hsome]
      simpa using hparams
  obtain ⟨hp1t, hp1r⟩ := decodeDcompV44Params_p1 hv44
  obtain ⟨-, hin, -⟩ := h.encodable
  have ht := hin (⟨true, 256, 65535⟩, params.p1t)
    (by simp [CompParams.ranged, v44EncodeRanges, V44Params.values])
  have hr := hin (⟨true, 256, 65535⟩, params.p1r)
    (by simp [CompParams.ranged, v44EncodeRanges, V44Params.values])
  simp only at ht hr
  omega

theorem V44Proposal.decodeCompField (h : f.V44Proposal params) (ht : 265 ≤ params.p1t)
    (hr : 265 ≤ params.p1r) {mem : Mem} {pos srcLen : ℕ}
    (hmem : Holds mem pos (f.bytes (.v44 params))) (hlen : 1 ≤ srcLen)
    (lt : Option (List EntityAlgo)) :
    Sndcp.decodeCompField mem pos srcLen lt .dataCompression = some (f, f.size (.v44 params)) := by
  have hv44 := h.decodeDcompV44Params ht hr (h.holds_params hmem)
  have hparams : decodeCompParams mem (pos + 3 + (f.comp.length + 1) / 2) 12 .dataCompression 1 =
      some (some (.v44 params), 12) := by
    simp only [decodeCompParams, decodeDcompParams, one_ne_zero, if_false, if_true, hv44]
  refine (h.toFramed.decodeCompField (by decide : 12 ≤ 252) hmem hlen lt).trans ?_
  rw [show decodeCompParams _ _ (CompParams.v44 params).size (CompParams.v44 params).compclass
    (CompParams.v44 params).algo = _ from hparams, Option.map_some, size, h.p, if_pos rfl]
  refine congrArg some (Prod.ext ?_ rfl)
  rw [← h.p, ← h.params_eq]

/-- **A V.44 field is read back if both numbers of codewords are at least 265**, and only then. -/
theorem v44_read_back_iff (h : f.V44Proposal params) {dstMaxlen : ℕ}
    (hroom : f.size (.v44 params) ≤ dstMaxlen) :
    ∃ bytes, Sndcp.encodeCompField dstMaxlen f = .ok bytes ∧
      ∀ (behind : Mem) (lt : Option (List EntityAlgo)),
        (∃ rc, Sndcp.decodeCompField (message bytes behind) 0 bytes.length lt .dataCompression =
          some (f, rc)) ↔ 265 ≤ params.p1t ∧ 265 ≤ params.p1r := by
  refine ⟨f.bytes (.v44 params), h.encodeCompField hroom, fun behind lt ↦ ?_⟩
  have hlen : 1 ≤ (f.bytes (.v44 params)).length := by
    rw [length_bytes, size, h.p, if_pos rfl]
    omega
  have hmem := holds_message (f.bytes (.v44 params)) behind
  constructor
  · rintro ⟨rc, hrc⟩
    exact h.p1_of_decodeCompField hmem hlen hrc
  · rintro ⟨ht, hr⟩
    exact ⟨f.size (.v44 params), h.decodeCompField ht hr hmem hlen lt⟩

end

/-- A proposal of V.44 compression, with some number of codewords in each direction. -/
def exampleV44 (p1t p1r : ℤ) : CompField :=
  ⟨true, 1, 1, [1, 2], some (.v44 ⟨[5], 0x80, 3, p1t, p1r, 2000, 2000⟩)⟩

theorem v44_read_back :
    ∃ bytes, Sndcp.encodeCompField 512 (exampleV44 265 512) = .ok bytes ∧
      ∀ (behind : Mem) (lt : Option (List EntityAlgo)), ∃ rc, Sndcp.decodeCompField
        (message bytes behind) 0 bytes.length lt .dataCompression =
          some (exampleV44 265 512, rc) := by
  have h : (exampleV44 265 512).V44Proposal ⟨[5], 0x80, 3, 265, 512, 2000, 2000⟩ :=
    ⟨⟨rfl, rfl, by decide, rfl, rfl, by decide⟩, by decide, by decide, _, rfl⟩
  have hroom : (exampleV44 265 512).size (.v44 ⟨[5], 0x80, 3, 265, 512, 2000, 2000⟩) ≤ 512 := by
    decide
  obtain ⟨bytes, henc, hiff⟩ := v44_read_back_iff h hroom
  exact ⟨bytes, henc, fun behind lt ↦ (hiff behind lt).mpr (by decide)⟩

/-- The same field without the parameters from the first number of codewords on. -/
def exampleV44Cut : CompField :=
  ⟨true, 1, 1, [1, 2], some (.v44 ⟨[5], 0x80, 3, -1, -1, -1, -1⟩)⟩

/-- With 256 codewords the decoder stops in the middle: four parameters are missing, and eight of
the sixteen octets are left. -/
theorem v44_codewords_lost :
    ∃ bytes, Sndcp.encodeCompField 512 (exampleV44 256 512) = .ok bytes ∧ bytes.length = 16 ∧
      Sndcp.decodeCompField (message bytes fun _ ↦ 0) 0 bytes.length none .dataCompression =
        some (exampleV44Cut, 8) ∧ exampleV44Cut ≠ exampleV44 256 512 :=
  ⟨[0x81, 1, 13, 0x12, 0, 0x20, 0x80, 3, 1, 0, 2, 0, 7, 0xd0, 7, 0xd0], rfl, rfl, rfl, by decide⟩

end CompField

end OsmoSgsn.Sndcp
