import OsmoSgsn.Apn.Selection

/-!
# The APN and the address of a Create PDP Context Request

After a GGSN was chosen, `sgsn_create_pdp_ctx` builds the request to it. The APN is the one of the
MS, or else one of the subscription; a static IPv4 address of the subscription is put in where the
MS asked for none.

The entry of the subscription is looked for once more, by the APN that was selected, by the APN of
the MS, and if neither is found it is the only entry there is, whatever its APN.
`createPdp_uses_iff` says when the entry is one for the APN of the request all the same.
-/

namespace OsmoSgsn.Apn

/-- The sizes of the arrays of `struct pdp_t`, which another library declares. -/
structure GtpSizes where
  eua : ℕ
  apnUse : ℕ
  apn_fits : gsmApnLength ≤ apnUse

/-- `struct pdp_t`, as far as the APN and the End User Address of the request go. -/
structure CreateReq where
  eua : List UInt8
  apnUse : List UInt8
  /-- History: the APN that `apn_use` stands for. -/
  apnName : Str
  /-- History: the subscribed address that was inserted. -/
  inserted : Option (Vector UInt8 4)
  deriving DecidableEq, Repr

/-- `PDP_TYPE_N_IETF_IPv4` -/
def pdpTypeIetfIpv4 : UInt8 := 0x21

/-- `gtp_eua_has_ipv4` -/
def gtpEuaHasIpv4 (eua : List UInt8) : Bool :=
  decide (6 ≤ eua.length) && eua.getD 0 0 &&& 0x0f == 1 && eua.getD 1 0 == pdpTypeIetfIpv4 &&
    (eua.drop 2).take 4 != [0, 0, 0, 0]

/-- `gtp_eua_set_ipv4` -/
def gtpEuaSetIpv4 (addr : Vector UInt8 4) : List UInt8 := 0xf1 :: pdpTypeIetfIpv4 :: addr.toList

/-- `mmctx_sgsn_data`; a context without record may have one with its IMSI. -/
def mmctxSgsnData (recordOf : Str → Option SubscriberData) (mmctx : MmCtx) :
    Option SubscriberData :=
  match mmctx.subscr with
  | some data => some data
  | none => if mmctx.imsi = [] then none else recordOf mmctx.imsi

/-- `sgsn_subscr_pdp_by_apn_str` -/
def sgsnSubscrPdpByApnStr (sdata : SubscriberData) (apn : Str) : Option PdpData :=
  if apn = [] then none else sdata.pdpList.find? fun pdp ↦ strcaseEq pdp.apnStr apn

/-- The entry of a list that has one. -/
def onlyEntry (sdata : SubscriberData) : Option PdpData :=
  if sdata.pdpList.length = 1 then sdata.pdpList.getLast? else none

/-- `sgsn_subscr_pdp_lookup`, with what its buffer holds before. -/
def sgsnSubscrPdpLookup (lib : ApnLib) (junk : Buffer) (sdata : Option SubscriberData)
    (selectedApn : Str) (apnWire : List UInt8) : Option PdpData :=
  match sdata with
  | none => none
  | some sdata =>
    match sgsnSubscrPdpByApnStr sdata selectedApn with
    | some pdp => some pdp
    | none =>
      let decoded := lib.toStr junk apnWire
      match (if apnWire ≠ [] ∧ decoded.2 then sgsnSubscrPdpByApnStr sdata decoded.1.str
        else none) with
      | some pdp => some pdp
      | none => onlyEntry sdata

/-- The APN of the MS, as `osmo_apn_to_str` gives it. -/
def requestedApn (lib : ApnLib) (tp : Tlvs) : Str :=
  match tp.apn with
  | some enc => Buffer.str (lib.toStr zeroApnStr enc).1
  | none => []

/-- The address of an entry, if it is a static IPv4 one. -/
def PdpData.staticIpv4 (pdp : PdpData) : Option (Vector UInt8 4) :=
  match pdp.pdpAddress.1 with
  | .inet addr => some addr
  | _ => none

/-- The End User Address that the MS asked for. -/
def requestedEua (sizes : GtpSizes) (tp : Tlvs) : List UInt8 :=
  match tp.reqPdpAddr.take sizes.eua with
  | [] => []
  | first :: rest => (first ||| 0xf0) :: rest

/-- The APN that stands in for one of the MS, and its octets. -/
def standInApn (lib : ApnLib) (sizes : GtpSizes) (subPdp : Option PdpData) (selectedApn : Str) :
    List UInt8 × Str :=
  let apnSrc := match subPdp with
    | some pdp => if pdp.apnStr ≠ [] then pdp.apnStr else selectedApn
    | none => selectedApn
  if apnSrc = [] then ([], [])
  else match lib.fromStr sizes.apnUse apnSrc with
    | some enc => (enc, apnSrc)
    | none => ([], [])

/-- The part of `sgsn_create_pdp_ctx` that fills in the End User Address and the APN. -/
def sgsnCreatePdpCtx (lib : ApnLib) (sizes : GtpSizes) (junk : Buffer)
    (sdata : Option SubscriberData) (tp : Tlvs) (selectedApn : Str) : CreateReq :=
  let eua := requestedEua sizes tp
  let apnUse := (tp.apn.getD []).take sizes.apnUse
  let subPdp := sgsnSubscrPdpLookup lib junk sdata selectedApn apnUse
  -- an address that the MS asked for is not overridden
  let inserted := if gtpEuaHasIpv4 eua then none else subPdp.bind PdpData.staticIpv4
  let apn := if apnUse = [] then standInApn lib sizes subPdp selectedApn
    else (apnUse, requestedApn lib tp)
  { eua := (inserted.map gtpEuaSetIpv4).getD eua
    apnUse := apn.1
    apnName := apn.2
    inserted := inserted }

/-! ## What a request ought to be -/

/-- The choice of a GGSN leads to a request, now or after the GGSN was looked up. -/
def GgsnResult.Activates (r : GgsnResult) : Prop := r.ggsn ≠ none ∨ r.outApn ≠ []

/-- The APN was granted through the entry "*". -/
def GrantedThrough (cfg : Config) (mmctx : MmCtx) (pdp : PdpData) : Prop :=
  mmctx.subscr ≠ none ∧ ¬ AnyForImsi cfg mmctx.imsi ∧ pdp.apnStr = ['*']

/-- The request is for the APN of the MS or for the one selected, and the address in it is one for
that APN. -/
structure UsesSubscription (lib : ApnLib) (cfg : Config) (mmctx : MmCtx)
    (sdata : Option SubscriberData) (tp : Tlvs) (selectedApn : Str) (req : CreateReq) : Prop where
  requested : requestedApn lib tp ≠ [] → req.apnUse = tp.apn.getD []
  selected : requestedApn lib tp = [] → selectedApn ≠ [] → req.apnName = selectedApn
  wildcard : req.apnName ≠ ['*']
  address : ∀ addr ∈ req.inserted, ∃ data ∈ sdata, ∃ pdp ∈ data.pdpList,
    pdp.staticIpv4 = some addr ∧
      (strcaseEq pdp.apnStr req.apnName ∨ GrantedThrough cfg mmctx pdp)

/-- What the only entry of a subscription has to be where it is not the one for the selected APN. -/
structure OnlyEntryFits (lib : ApnLib) (cfg : Config) (sizes : GtpSizes) (mmctx : MmCtx) (tp : Tlvs)
    (pdp : PdpData) : Prop where
  /-- Its APN may stand in for one of the MS. -/
  standsIn : tp.apn.getD [] = [] → (lib.fromStr sizes.apnUse pdp.apnStr).isSome → pdp.apnStr ≠ ['*']
  /-- Its address is not used, or is one for the APN. -/
  address : gtpEuaHasIpv4 (requestedEua sizes tp) = false → pdp.staticIpv4 ≠ none →
    (tp.apn.getD [] = [] → (lib.fromStr sizes.apnUse pdp.apnStr).isSome ∨ pdp.apnStr = [] ∨
      GrantedThrough cfg mmctx pdp) ∧
    (tp.apn.getD [] ≠ [] → strcaseEq pdp.apnStr (requestedApn lib tp) ∨
      GrantedThrough cfg mmctx pdp)

/-- The condition under which the request uses the subscription of its APN. -/
structure Fits (lib : ApnLib) (cfg : Config) (sizes : GtpSizes) (mmctx : MmCtx)
    (sdata : Option SubscriberData) (tp : Tlvs) (selectedApn : Str) : Prop where
  notWildcard : requestedApn lib tp ≠ ['*']
  named : tp.apn.getD [] ≠ [] → requestedApn lib tp = [] → selectedApn = []
  encodes : tp.apn.getD [] = [] → selectedApn ≠ [] → (lib.fromStr sizes.apnUse selectedApn).isSome
  only : ∀ data ∈ sdata, ∀ pdp, data.pdpList = [pdp] →
    ¬ (selectedApn ≠ [] ∧ strcaseEq pdp.apnStr selectedApn) →
    OnlyEntryFits lib cfg sizes mmctx tp pdp

/-! ## What was selected -/

section Selected

variable {lib : ApnLib} {cfg : Config} {mmctx : MmCtx} {tp : Tlvs}

theorem reqApnStr_eq : reqApnStr lib tp =
    if requestedApn lib tp = ['*'] then [] else requestedApn lib tp := by
  rw [reqApnStr, requestedApn]
  rcases tp.apn with _ | enc
  · rfl
  · rfl

/-- An APN that was translated does not depend on the buffer. -/
theorem str_toStr {b b' : Buffer} {enc : List UInt8} (hok : (lib.toStr b enc).2 = true) :
    Buffer.str (lib.toStr b enc).1 = Buffer.str (lib.toStr b' enc).1 := by
  rw [ApnLib.toStr] at hok
  rw [ApnLib.toStr, ApnLib.toStr]
  rcases hdecode : lib.decode enc with _ | s
  · simp [hdecode] at hok
  · have hzero : ∀ rest : Buffer, Buffer.str (s ++ '\x00' :: rest) = s.takeWhile (· ≠ '\x00') := by
      intro rest
      rw [Buffer.str, List.takeWhile_append, List.takeWhile_cons_of_neg (by simp)]
      split
      · next hlen => rw [List.append_nil, (List.takeWhile_prefix _).eq_of_length hlen]
      · rfl
    exact (hzero _).trans (hzero _).symm

theorem not_activates_of_none {s : Scan} (hany : s.allowAny = false) (hsel : s.selected = none) :
    ¬ (ggsnOfScan cfg mmctx.imsi s).Activates := by
  rw [ggsnOfScan, if_pos ⟨hany, hsel⟩, GgsnResult.Activates]
  simp

theorem apnTooLong_of_activates (hact : (sgsnMmCtxFindGgsnCtx lib cfg mmctx tp).Activates) :
    tp.apnTooLong = false := by
  rw [← Bool.not_eq_true]
  intro hlong
  rw [sgsnMmCtxFindGgsnCtx, if_pos hlong, GgsnResult.Activates] at hact
  simp at hact

/-- If the request names an APN, that one is selected. -/
theorem outApn_of_named (hact : (sgsnMmCtxFindGgsnCtx lib cfg mmctx tp).Activates)
    (hreq : reqApnStr lib tp ≠ []) :
    (sgsnMmCtxFindGgsnCtx lib cfg mmctx tp).outApn = reqApnStr lib tp := by
  have hlong := apnTooLong_of_activates hact
  rw [sgsnMmCtxFindGgsnCtx, if_neg (by simp [hlong])] at hact ⊢
  apply outApn_ggsnOfScan
  by_cases hany : mmctx.subscr = none ∨ AnyForImsi cfg mmctx.imsi
  · rw [selectApn_of_any hany]
  · rw [not_or] at hany
    obtain ⟨data, hsubscr⟩ := Option.ne_none_iff_exists'.mp hany.1
    rw [selectApn_of_subscr hsubscr hany.2, if_neg hreq] at hact ⊢
    obtain ⟨-, hsel, hallow⟩ := checkGranted_spec (reqApnStr lib tp) data data.pdpList
      (Scan.start tp) rfl
    split_ifs at hsel with hgrant
    · exact hsel
    · refine absurd hact (not_activates_of_none ?_ hsel)
      rw [← Bool.not_eq_true]
      intro htrue
      obtain ⟨pdp, hpdp, hstar⟩ := (hallow htrue).resolve_left (by simp)
      exact hgrant ⟨pdp, hpdp, .inl hstar⟩

/-- If it names none, what is selected is the first APN that the subscription names, or nothing. -/
theorem outApn_of_unnamed (hreq : reqApnStr lib tp = [])
    (hout : (sgsnMmCtxFindGgsnCtx lib cfg mmctx tp).outApn ≠ []) :
    ∃ data, mmctx.subscr = some data ∧ ∃ pdp, data.pdpList.find? (·.apnStr ≠ ['*']) = some pdp ∧
      (sgsnMmCtxFindGgsnCtx lib cfg mmctx tp).outApn = pdp.apnStr := by
  rw [sgsnMmCtxFindGgsnCtx] at hout ⊢
  by_cases hlong : tp.apnTooLong
  · simp [hlong] at hout
  rw [if_neg hlong] at hout ⊢
  by_cases hany : mmctx.subscr = none ∨ AnyForImsi cfg mmctx.imsi
  · rw [selectApn_of_any hany, outApn_ggsnOfScan cfg _ rfl] at hout
    exact absurd hreq hout
  rw [not_or] at hany
  obtain ⟨data, hsubscr⟩ := Option.ne_none_iff_exists'.mp hany.1
  refine ⟨data, hsubscr, ?_⟩
  rw [selectApn_of_subscr hsubscr hany.2, if_pos hreq] at hout ⊢
  rw [outApn_ggsnOfScan_getD] at hout ⊢
  rcases hfirst : data.pdpList.find? (·.apnStr ≠ ['*']) with _ | pdp
  · obtain ⟨-, hsel, -⟩ := findGranted_of_pass cfg [] mmctx.imsi data (Scan.start tp) rfl
      (.inl hfirst)
    rw [hsel] at hout
    split_ifs at hout <;> simp at hout
  · by_cases hconf : cfg.apnList ≠ [] ∧ sgsnApnCtxMatch cfg.apnList [] mmctx.imsi = none
    · obtain ⟨-, hsel, -⟩ := findGranted_of_pass cfg [] mmctx.imsi data (Scan.start tp) rfl
        (.inr hconf)
      rw [hsel] at hout
      split_ifs at hout <;> simp at hout
    · rw [not_and] at hconf
      obtain ⟨hsel, -⟩ := findGranted_of_stop cfg [] mmctx.imsi data (Scan.start tp) hfirst hconf
      exact ⟨pdp, hfirst, by rw [hsel, Option.getD_some]⟩

/-- The IEs of the MS for the APN and the address are the same. -/
structure SameRequest (tp tp' : Tlvs) : Prop where
  apn : tp'.apn = tp.apn
  reqPdpAddr : tp'.reqPdpAddr = tp.reqPdpAddr

theorem SameRequest.insertExtra {tp' : Tlvs} (h : SameRequest tp tp') (data : SubscriberData)
    (pdp : PdpData) : SameRequest tp (insertExtra tp' data pdp) := ⟨h.apn, h.reqPdpAddr⟩

theorem sameRequest_findGranted {reqApn imsi : Str} {data : SubscriberData} {l : List PdpData}
    {s : Scan} (h : SameRequest tp s.tp) :
    SameRequest tp (findGranted cfg reqApn imsi data l s).tp := by
  induction l generalizing s with
  | nil => exact h
  | cons pdp rest ih =>
    rw [findGranted]
    dsimp only
    split_ifs
    · exact ih (h.insertExtra data pdp)
    · exact ih h
    · exact h.insertExtra data pdp
    · exact h.insertExtra data pdp

theorem sameRequest_checkGranted {reqApn : Str} {data : SubscriberData} {l : List PdpData}
    {s : Scan} (h : SameRequest tp s.tp) : SameRequest tp (checkGranted reqApn data l s).tp := by
  induction l generalizing s with
  | nil => exact h
  | cons pdp rest ih =>
    rw [checkGranted]
    split_ifs
    · exact ih (h.insertExtra data pdp)
    · exact h.insertExtra data pdp
    · exact ih h

theorem tp_ggsnOfScan {imsi : Str} {s : Scan} : (ggsnOfScan cfg imsi s).tp = s.tp := by
  rw [ggsnOfScan]
  split
  · rfl
  · dsimp only
    repeat' split
    all_goals rfl

theorem sameRequest_findGgsn : SameRequest tp (sgsnMmCtxFindGgsnCtx lib cfg mmctx tp).tp := by
  have hstart : SameRequest tp (Scan.start tp).tp := ⟨rfl, rfl⟩
  rw [sgsnMmCtxFindGgsnCtx]
  by_cases hlong : tp.apnTooLong
  · rw [if_pos hlong]
    exact hstart
  · rw [if_neg hlong, tp_ggsnOfScan]
    by_cases hany : mmctx.subscr = none ∨ AnyForImsi cfg mmctx.imsi
    · rw [selectApn_of_any hany]
      exact hstart
    · rw [not_or] at hany
      obtain ⟨data, hsubscr⟩ := Option.ne_none_iff_exists'.mp hany.1
      rw [selectApn_of_subscr hsubscr hany.2]
      split
      · exact sameRequest_findGranted hstart
      · exact sameRequest_checkGranted hstart

end Selected

/-! ## What is looked up -/

section Lookup

variable {lib : ApnLib} {sizes : GtpSizes} {junk : Buffer} {sdata : SubscriberData}
  {sel : Str} {wire : List UInt8} {tp : Tlvs}

theorem createPdp_congr {tp' : Tlvs} {sdata : Option SubscriberData} (h : SameRequest tp tp') :
    sgsnCreatePdpCtx lib sizes junk sdata tp' sel =
      sgsnCreatePdpCtx lib sizes junk sdata tp sel := by
  have hapn : requestedApn lib tp' = requestedApn lib tp := by
    rw [requestedApn, requestedApn, h.apn]
  have heua : requestedEua sizes tp' = requestedEua sizes tp := by
    rw [requestedEua, requestedEua, h.reqPdpAddr]
  rw [sgsnCreatePdpCtx, sgsnCreatePdpCtx, hapn, heua, h.apn]

theorem onlyEntry_eq_some {pdp : PdpData} : onlyEntry sdata = some pdp ↔ sdata.pdpList = [pdp] := by
  rw [onlyEntry]
  rcases hlist : sdata.pdpList with _ | ⟨first, _ | ⟨second, rest⟩⟩ <;> simp

/-- Where the APN of the MS is the selected one or none, the lookup is by the selected APN. -/
theorem lookup_eq {sdata : Option SubscriberData}
    (hwire : Buffer.str (lib.toStr zeroApnStr wire).1 = [] ∨
      Buffer.str (lib.toStr zeroApnStr wire).1 = sel) :
    sgsnSubscrPdpLookup lib junk sdata sel wire =
      (sdata.bind (sgsnSubscrPdpByApnStr · sel)).or (sdata.bind onlyEntry) := by
  rcases sdata with _ | sdata
  · rfl
  rw [sgsnSubscrPdpLookup, Option.bind_some, Option.bind_some]
  rcases hsel : sgsnSubscrPdpByApnStr sdata sel with _ | pdp
  · have hnone : (if wire ≠ [] ∧ (lib.toStr junk wire).2 = true then
        sgsnSubscrPdpByApnStr sdata (Buffer.str (lib.toStr junk wire).1) else none) = none := by
      split
      · next h =>
        rw [str_toStr h.2]
        rcases hwire with hwire | hwire
        · rw [hwire, sgsnSubscrPdpByApnStr, if_pos rfl]
        · rw [hwire, hsel]
      · rfl
    simp only [hnone, Option.none_or]
  · rfl

theorem byApnStr_eq_some {pdp : PdpData} (h : sgsnSubscrPdpByApnStr sdata sel = some pdp) :
    sel ≠ [] ∧ pdp ∈ sdata.pdpList ∧ strcaseEq pdp.apnStr sel = true := by
  rw [sgsnSubscrPdpByApnStr] at h
  split at h
  · cases h
  · next hsel => exact ⟨hsel, List.mem_of_find?_eq_some h, by simpa using List.find?_some h⟩

theorem byApnStr_of_only {pdp : PdpData} (hlist : sdata.pdpList = [pdp]) (hne : sel ≠ [])
    (heq : strcaseEq pdp.apnStr sel = true) : sgsnSubscrPdpByApnStr sdata sel = some pdp := by
  rw [sgsnSubscrPdpByApnStr, if_neg hne, hlist]
  simp [heq]

/-- A star has no other case. -/
theorem eq_star_of_toLower {c : Char} (h : c.toLower = '*') : c = '*' := by
  rw [Char.toLower] at h
  split at h
  · next hupper =>
    have hval : (c.val + 32).toNat = 42 := congrArg (fun d : Char ↦ d.val.toNat) h
    have hlow : 65 ≤ c.toNat := hupper.1
    have hhigh : c.toNat ≤ 90 := hupper.2
    rw [UInt32.toNat_add] at hval
    simp at hval
    omega
  · exact h

/-- The first APN that the subscription names is found under its name. -/
theorem byApnStr_of_first {pdp : PdpData}
    (hfirst : sdata.pdpList.find? (·.apnStr ≠ ['*']) = some pdp) (hne : pdp.apnStr ≠ []) :
    sgsnSubscrPdpByApnStr sdata pdp.apnStr = some pdp := by
  rw [sgsnSubscrPdpByApnStr, if_neg hne]
  obtain ⟨hnamed, before, after, hlist, hbefore⟩ := List.find?_eq_some_iff_append.mp hfirst
  rw [List.find?_eq_some_iff_append]
  refine ⟨strcaseEq_iff.mpr rfl, before, after, hlist, fun other hother ↦ ?_⟩
  have hstar : other.apnStr = ['*'] := by simpa using hbefore other hother
  have hnot : pdp.apnStr ≠ ['*'] := by simpa using hnamed
  rw [hstar, Bool.not_eq_true', ← Bool.not_eq_true, strcaseEq_iff]
  intro heq
  obtain ⟨c, hc⟩ : ∃ c, pdp.apnStr = [c] := by
    rw [← List.length_eq_one_iff]
    simpa using congrArg List.length heq.symm
  refine hnot (hc ▸ ?_)
  have hlower : c.toLower = '*' := by simpa [hc] using heq.symm
  rw [eq_star_of_toLower hlower]

theorem snd_standInApn {subPdp : Option PdpData} {src : Str}
    (hsrc : (match subPdp with
      | some pdp => if pdp.apnStr ≠ [] then pdp.apnStr else sel
      | none => sel) = src) :
    (standInApn lib sizes subPdp sel).2 =
      if (lib.fromStr sizes.apnUse src).isSome then src else [] := by
  unfold standInApn
  simp only [hsrc]
  by_cases hnil : src = []
  · simp [hnil]
  · rw [if_neg hnil]
    rcases lib.fromStr sizes.apnUse src with _ | enc <;> simp

end Lookup

/-! ## The request -/

section Request

variable {lib : ApnLib} {cfg : Config} {sizes : GtpSizes} {mmctx : MmCtx} {tp : Tlvs} {sel : Str}
  {sdata : Option SubscriberData} {data : SubscriberData} {req : CreateReq}

/-- Nothing depends on the only entry where it is the one for the selected APN. -/
theorem only_of_found {pdp : PdpData} (hfound : sgsnSubscrPdpByApnStr data sel = some pdp)
    {only : PdpData} (honly : data.pdpList = [only]) :
    sel ≠ [] ∧ strcaseEq only.apnStr sel = true := by
  obtain ⟨hne, hmem, heq⟩ := byApnStr_eq_some hfound
  rw [honly, List.mem_singleton] at hmem
  exact ⟨hne, hmem ▸ heq⟩

/-- The address of the only entry is put in where the MS asks for none. -/
theorem onlyEntry_inserted_iff {asked : Bool} {addr : Vector UInt8 4} :
    (if asked then none else (sdata.bind onlyEntry).bind PdpData.staticIpv4) = some addr ↔
      asked = false ∧
        ∃ data ∈ sdata, ∃ pdp, data.pdpList = [pdp] ∧ pdp.staticIpv4 = some addr := by
  rcases asked with _ | _
  · rw [if_neg Bool.false_ne_true, Option.bind_eq_some_iff]
    constructor
    · rintro ⟨pdp, hpdp, hstatic⟩
      obtain ⟨data, hdata, honly⟩ := Option.bind_eq_some_iff.mp hpdp
      exact ⟨rfl, data, hdata, pdp, onlyEntry_eq_some.mp honly, hstatic⟩
    · rintro ⟨-, data, hdata, pdp, hlist, hstatic⟩
      have honly := onlyEntry_eq_some.mpr hlist
      exact ⟨pdp, Option.bind_eq_some_iff.mpr ⟨data, hdata, honly⟩, hstatic⟩
  · simp

/-- If it is put in, it has to be one for the APN of the request. -/
theorem UsesSubscription.only_address (h : UsesSubscription lib cfg mmctx sdata tp sel req)
    (hins : req.inserted = if gtpEuaHasIpv4 (requestedEua sizes tp) then none
      else (sdata.bind onlyEntry).bind PdpData.staticIpv4)
    {pdp : PdpData} (hdata : data ∈ sdata) (hlist : data.pdpList = [pdp])
    (heua : gtpEuaHasIpv4 (requestedEua sizes tp) = false) (hstatic : pdp.staticIpv4 ≠ none) :
    strcaseEq pdp.apnStr req.apnName ∨ GrantedThrough cfg mmctx pdp := by
  obtain ⟨addr, haddr⟩ := Option.ne_none_iff_exists'.mp hstatic
  have hinserted :=
    hins.trans (onlyEntry_inserted_iff.mpr ⟨heua, data, hdata, pdp, hlist, haddr⟩)
  obtain ⟨other, hother, pdp', hpdp', -, huse⟩ := h.address addr hinserted
  obtain rfl : data = other := Option.some.inj (hdata.symm.trans hother)
  rw [hlist, List.mem_singleton] at hpdp'
  rwa [hpdp'] at huse

/-- The MS names an APN, and an entry is found under the selected one. -/
theorem uses_iff_of_ie_found {pdp : PdpData} (hsdata : sdata = some data)
    (hie : tp.apn.getD [] ≠ []) (hstar : requestedApn lib tp ≠ ['*'])
    (hname : requestedApn lib tp = [] ∨ requestedApn lib tp = sel)
    (hfound : sgsnSubscrPdpByApnStr data sel = some pdp)
    (hapnUse : req.apnUse = tp.apn.getD []) (hapnName : req.apnName = requestedApn lib tp)
    (hins : ∀ addr ∈ req.inserted, pdp.staticIpv4 = some addr) :
    UsesSubscription lib cfg mmctx sdata tp sel req ↔ Fits lib cfg sizes mmctx sdata tp sel := by
  obtain ⟨hne, hmem, heq⟩ := byApnStr_eq_some hfound
  constructor
  · intro h
    refine ⟨hstar, fun _ hnone ↦ ?_, fun hnil ↦ absurd hnil hie,
      fun other hother only honly hnot ↦ ?_⟩
    · rw [← h.selected hnone hne, hapnName, hnone]
    · obtain rfl : data = other := Option.some.inj (hsdata.symm.trans hother)
      exact absurd (only_of_found hfound honly) hnot
  · intro h
    have hnamed : requestedApn lib tp = sel :=
      hname.resolve_left fun hnone ↦ hne (h.named hie hnone)
    refine ⟨fun _ ↦ hapnUse, fun hnone ↦ absurd (h.named hie hnone), by rwa [hapnName], ?_⟩
    intro addr haddr
    refine ⟨data, hsdata, pdp, hmem, hins addr haddr, .inl ?_⟩
    rwa [hapnName, hnamed]

/-- The MS names an APN, and no entry is found under the selected one. -/
theorem uses_iff_of_ie_only (hie : tp.apn.getD [] ≠ []) (hstar : requestedApn lib tp ≠ ['*'])
    (hnot : ∀ data ∈ sdata, sgsnSubscrPdpByApnStr data sel = none)
    (hapnUse : req.apnUse = tp.apn.getD []) (hapnName : req.apnName = requestedApn lib tp)
    (hins : req.inserted = if gtpEuaHasIpv4 (requestedEua sizes tp) then none
      else (sdata.bind onlyEntry).bind PdpData.staticIpv4) :
    UsesSubscription lib cfg mmctx sdata tp sel req ↔ Fits lib cfg sizes mmctx sdata tp sel := by
  constructor
  · intro h
    refine ⟨hstar, fun _ hnone ↦ ?_, fun hnil ↦ absurd hnil hie, fun data hdata pdp hlist _ ↦
      ⟨fun hnil ↦ absurd hnil hie, fun heua hstatic ↦ ⟨fun hnil ↦ absurd hnil hie, fun _ ↦ ?_⟩⟩⟩
    · by_contra hne
      have hsame := h.selected hnone hne
      rw [hapnName, hnone] at hsame
      exact hne hsame.symm
    · rw [← hapnName]
      exact h.only_address hins hdata hlist heua hstatic
  · intro h
    refine ⟨fun _ ↦ hapnUse, fun hnone hne ↦ absurd (h.named hie hnone) hne, by rwa [hapnName], ?_⟩
    intro addr haddr
    obtain ⟨heua, data, hdata, pdp, hlist, hstatic⟩ :=
      onlyEntry_inserted_iff.mp (hins.symm.trans haddr)
    have hother : ¬ (sel ≠ [] ∧ strcaseEq pdp.apnStr sel = true) := by
      rintro ⟨hne, heq⟩
      simpa [byApnStr_of_only hlist hne heq] using hnot data hdata
    have hfits := h.only data hdata pdp hlist hother
    refine ⟨data, hdata, pdp, by simp [hlist], hstatic, ?_⟩
    rw [hapnName]
    exact (hfits.address heua (by simp [hstatic])).2 hie

theorem requestedApn_of_nil (hie : tp.apn.getD [] = []) : requestedApn lib tp = [] := by
  rw [requestedApn]
  rcases happ : tp.apn with _ | enc
  · rfl
  · obtain rfl : enc = [] := by simpa [happ] using hie
    simp [ApnLib.toStr, lib.decode_nil, Buffer.str]

/-- The MS names no APN, and the first one that the subscription names was selected. -/
theorem uses_iff_of_selected {pdp : PdpData} (hsdata : sdata = some data)
    (hie : tp.apn.getD [] = []) (hstar : sel ≠ ['*'])
    (hfound : sgsnSubscrPdpByApnStr data sel = some pdp)
    (hapnName : req.apnName = if (lib.fromStr sizes.apnUse sel).isSome then sel else [])
    (hins : ∀ addr ∈ req.inserted, pdp.staticIpv4 = some addr) :
    UsesSubscription lib cfg mmctx sdata tp sel req ↔ Fits lib cfg sizes mmctx sdata tp sel := by
  obtain ⟨hne, hmem, heq⟩ := byApnStr_eq_some hfound
  have hname : requestedApn lib tp = [] := requestedApn_of_nil hie
  constructor
  · intro h
    refine ⟨by simp [hname], fun hnot ↦ absurd hie hnot, fun _ _ ↦ ?_,
      fun other hother only honly hnot ↦ ?_⟩
    · by_contra hnone
      have hsame := h.selected hname hne
      rw [hapnName, if_neg hnone] at hsame
      exact hne hsame.symm
    · obtain rfl : data = other := Option.some.inj (hsdata.symm.trans hother)
      exact absurd (only_of_found hfound honly) hnot
  · intro h
    rw [if_pos (h.encodes hie hne)] at hapnName
    refine ⟨fun hnot ↦ absurd hname hnot, fun _ _ ↦ hapnName, by rwa [hapnName], ?_⟩
    intro addr haddr
    exact ⟨data, hsdata, pdp, hmem, hins addr haddr, .inl (by rwa [hapnName])⟩

/-- The MS names no APN, and none was selected, so the only entry stands in. -/
theorem uses_iff_of_stand_in (hie : tp.apn.getD [] = [])
    (hapnName : req.apnName = (standInApn lib sizes (sdata.bind onlyEntry) []).2)
    (hins : req.inserted = if gtpEuaHasIpv4 (requestedEua sizes tp) then none
      else (sdata.bind onlyEntry).bind PdpData.staticIpv4) :
    UsesSubscription lib cfg mmctx sdata tp [] req ↔ Fits lib cfg sizes mmctx sdata tp [] := by
  have hname : requestedApn lib tp = [] := requestedApn_of_nil hie
  -- what stands in for an APN of the MS is the APN of the only entry, if it can be encoded
  have honly : ∀ data ∈ sdata, ∀ pdp, data.pdpList = [pdp] →
      req.apnName = if (lib.fromStr sizes.apnUse pdp.apnStr).isSome then pdp.apnStr else [] := by
    intro data hdata pdp hlist
    rw [hapnName, Option.mem_def.mp hdata, Option.bind_some, onlyEntry_eq_some.mpr hlist]
    apply snd_standInApn
    simp only [ne_eq, ite_not, ite_eq_right_iff]
    exact Eq.symm
  constructor
  · intro h
    refine ⟨by simp [hname], fun hnot ↦ absurd hie hnot, fun _ hne ↦ absurd rfl hne,
      fun data hdata pdp hlist _ ↦ ⟨fun _ henc ↦ ?_, fun heua hstatic ↦
        ⟨fun _ ↦ ?_, fun hnot ↦ absurd hie hnot⟩⟩⟩
    · have hwild := h.wildcard
      rwa [honly data hdata pdp hlist, if_pos henc] at hwild
    · have huse := h.only_address hins hdata hlist heua hstatic
      rw [honly data hdata pdp hlist] at huse
      split_ifs at huse with henc
      · exact .inl henc
      · refine .inr (huse.imp_left fun heq ↦ ?_)
        simpa [strcaseEq] using heq
  · intro h
    refine ⟨fun hnot ↦ absurd hname hnot, fun _ hne ↦ absurd rfl hne, ?_, ?_⟩
    · rcases hsub : sdata.bind onlyEntry with _ | pdp
      · rw [hapnName, hsub, snd_standInApn rfl]
        simp
      · obtain ⟨data, hdata, hpdp⟩ := Option.bind_eq_some_iff.mp hsub
        have hlist := onlyEntry_eq_some.mp hpdp
        rw [honly data hdata pdp hlist]
        split_ifs with henc
        · exact (h.only data hdata pdp hlist (by simp)).standsIn hie henc
        · simp
    · intro addr haddr
      obtain ⟨heua, data, hdata, pdp, hlist, hstatic⟩ :=
        onlyEntry_inserted_iff.mp (hins.symm.trans haddr)
      have hfits := h.only data hdata pdp hlist (by simp)
      refine ⟨data, hdata, pdp, by simp [hlist], hstatic, ?_⟩
      rw [honly data hdata pdp hlist]
      rcases (hfits.address heua (by simp [hstatic])).1 hie with henc | hnil | hgrant
      · rw [if_pos henc]
        exact .inl (strcaseEq_iff.mpr rfl)
      · rw [hnil, ite_self]
        exact .inl rfl
      · exact .inr hgrant

theorem str_toStr_getD (lib : ApnLib) (tp : Tlvs) :
    Buffer.str (lib.toStr zeroApnStr (tp.apn.getD [])).1 = requestedApn lib tp := by
  rw [requestedApn]
  rcases tp.apn with _ | enc
  · simp [ApnLib.toStr, lib.decode_nil, Buffer.str]
  · rfl

/-- The APN of the MS is not cut off. -/
theorem take_apn_of_activates (sizes : GtpSizes)
    (hact : (sgsnMmCtxFindGgsnCtx lib cfg mmctx tp).Activates) :
    (tp.apn.getD []).take sizes.apnUse = tp.apn.getD [] := by
  have hlong : ¬ (tp.apn.getD []).length ≥ gsmApnLength - 1 := by
    simpa [Tlvs.apnTooLong] using apnTooLong_of_activates hact
  have hfits := sizes.apn_fits
  rw [gsmApnLength] at hlong hfits
  exact List.take_of_length_le (by omega)

/-- The MS names no APN, or the one that was selected. -/
theorem requestedApn_of_activates (hact : (sgsnMmCtxFindGgsnCtx lib cfg mmctx tp).Activates)
    (hstar : requestedApn lib tp ≠ ['*']) :
    requestedApn lib tp = [] ∨
      requestedApn lib tp = (sgsnMmCtxFindGgsnCtx lib cfg mmctx tp).outApn := by
  rw [or_iff_not_imp_left]
  intro hne
  have hreqApn : reqApnStr lib tp = requestedApn lib tp := by rw [reqApnStr_eq, if_neg hstar]
  rw [← hreqApn] at hne ⊢
  exact (outApn_of_named hact hne).symm

section Fields

variable (lib sdata sel) (junk : Buffer)
  (htake : (tp.apn.getD []).take sizes.apnUse = tp.apn.getD [])

include htake

theorem createPdp_apn_of_ie (hie : tp.apn.getD [] ≠ []) :
    (sgsnCreatePdpCtx lib sizes junk sdata tp sel).apnUse = tp.apn.getD [] ∧
      (sgsnCreatePdpCtx lib sizes junk sdata tp sel).apnName = requestedApn lib tp := by
  simp only [sgsnCreatePdpCtx, htake, if_neg hie, and_self]

variable {sel} (hname : requestedApn lib tp = [] ∨ requestedApn lib tp = sel)

include hname

theorem createPdp_inserted :
    (sgsnCreatePdpCtx lib sizes junk sdata tp sel).inserted =
      if gtpEuaHasIpv4 (requestedEua sizes tp) then none
      else ((sdata.bind (sgsnSubscrPdpByApnStr · sel)).or (sdata.bind onlyEntry)).bind
        PdpData.staticIpv4 := by
  simp only [sgsnCreatePdpCtx, htake]
  rw [lookup_eq (by rwa [str_toStr_getD])]

theorem createPdp_apnName_of_nil (hie : tp.apn.getD [] = []) :
    (sgsnCreatePdpCtx lib sizes junk sdata tp sel).apnName = (standInApn lib sizes
      ((sdata.bind (sgsnSubscrPdpByApnStr · sel)).or (sdata.bind onlyEntry)) sel).2 := by
  simp only [sgsnCreatePdpCtx, htake, if_pos hie]
  rw [lookup_eq (by rwa [str_toStr_getD])]

/-- The address of an entry that is found is the one that is put in. -/
theorem staticIpv4_of_createPdp {pdp : PdpData}
    (hfound : sdata.bind (sgsnSubscrPdpByApnStr · sel) = some pdp) {addr : Vector UInt8 4}
    (haddr : addr ∈ (sgsnCreatePdpCtx lib sizes junk sdata tp sel).inserted) :
    pdp.staticIpv4 = some addr := by
  rw [createPdp_inserted lib sdata junk htake hname, hfound, Option.some_or,
    Option.bind_some] at haddr
  split at haddr
  · cases haddr
  · exact haddr

/-- The MS names an APN. -/
theorem createPdp_uses_iff_of_ie (hie : tp.apn.getD [] ≠ []) (hstar : requestedApn lib tp ≠ ['*']) :
    UsesSubscription lib cfg mmctx sdata tp sel (sgsnCreatePdpCtx lib sizes junk sdata tp sel) ↔
      Fits lib cfg sizes mmctx sdata tp sel := by
  obtain ⟨hapnUse, hapnName⟩ := createPdp_apn_of_ie lib sel sdata junk htake hie
  rcases hfound : sdata.bind (sgsnSubscrPdpByApnStr · sel) with _ | pdp
  · have hins := createPdp_inserted lib sdata junk htake hname
    rw [hfound, Option.none_or] at hins
    refine uses_iff_of_ie_only hie hstar (fun data hdata ↦ ?_) hapnUse hapnName hins
    exact Option.bind_eq_none_iff.mp hfound data hdata
  · obtain ⟨data, hdata, hpdp⟩ := Option.bind_eq_some_iff.mp hfound
    exact uses_iff_of_ie_found hdata hie hstar hname hpdp hapnUse hapnName fun addr haddr ↦
      staticIpv4_of_createPdp lib sdata junk htake hname hfound haddr

end Fields

/-- The MS names no APN. -/
theorem createPdp_uses_iff_of_no_ie (junk : Buffer) (recordOf : Str → Option SubscriberData)
    (htake : (tp.apn.getD []).take sizes.apnUse = tp.apn.getD []) (hie : tp.apn.getD [] = []) :
    let sel := (sgsnMmCtxFindGgsnCtx lib cfg mmctx tp).outApn
    let sdata := mmctxSgsnData recordOf mmctx
    UsesSubscription lib cfg mmctx sdata tp sel (sgsnCreatePdpCtx lib sizes junk sdata tp sel) ↔
      Fits lib cfg sizes mmctx sdata tp sel := by
  intro sel sdata
  have hnil : requestedApn lib tp = [] := requestedApn_of_nil hie
  have hname : requestedApn lib tp = [] ∨ requestedApn lib tp = sel := .inl hnil
  have hins := createPdp_inserted lib sdata junk htake hname
  have hstandIn := createPdp_apnName_of_nil lib sdata junk htake hname hie
  by_cases hsel : sel = []
  · have hnone : sdata.bind (sgsnSubscrPdpByApnStr · sel) = none := by
      rw [Option.bind_eq_none_iff]
      exact fun data _ ↦ by rw [sgsnSubscrPdpByApnStr, if_pos hsel]
    rw [hnone, Option.none_or, hsel] at hins hstandIn
    rw [hsel]
    exact uses_iff_of_stand_in hie hstandIn hins
  · -- the subscription is the record of the context
    have hreq : reqApnStr lib tp = [] := by rw [reqApnStr_eq, hnil, if_neg (by simp)]
    obtain ⟨data, hsubscr, pdp, hfirst, hout⟩ := outApn_of_unnamed hreq hsel
    have hout : sel = pdp.apnStr := hout
    have hsdata : sdata = some data := by
      rw [show sdata = mmctxSgsnData recordOf mmctx from rfl, mmctxSgsnData, hsubscr]
    have hfound : sgsnSubscrPdpByApnStr data sel = some pdp := by
      rw [hout]
      exact byApnStr_of_first hfirst (hout ▸ hsel)
    have hselStar : sel ≠ ['*'] := by
      rw [hout]
      simpa using List.find?_some hfirst
    have hbind : sdata.bind (sgsnSubscrPdpByApnStr · sel) = some pdp := by
      rw [hsdata, Option.bind_some, hfound]
    refine uses_iff_of_selected hsdata hie hselStar hfound ?_ fun addr haddr ↦
      staticIpv4_of_createPdp lib sdata junk htake hname hbind haddr
    rw [hstandIn, hbind, Option.some_or]
    apply snd_standInApn
    simp only [← hout, ne_eq, ite_not]
    exact if_neg hsel

end Request

/-- Arrays of 66 and 255 octets. -/
def smallSizes : GtpSizes := ⟨66, 255, by decide⟩

/-- Any APN for the IMSIs of a network. -/
def anyForNetwork : Config where
  apnList := [⟨['*'], "26242".toList, some 1⟩]
  ggsnList := [0, 1]

/-- A subscription with one APN and a static address for it. -/
def staticInternet : MmCtx where
  imsi := "262420000000001".toList
  subscr := some { sgsnSubscriberDataAlloc with
    pdpList := [{ grantOf "internet".toList with
      pdpAddress := (.inet ⟨#[10, 0, 0, 1], rfl⟩, .unspec) }] }

/-- An activation request for the APN "ims" and any IPv4 address. -/
def imsTlvs : Tlvs where
  apn := some [3, 105, 109, 115]
  reqPdpAddr := [0x01, 0x21]
  subQos := none
  chargChar := none

/-- The request for the APN "ims" as it is built. -/
def imsRequest : CreateReq :=
  let r := sgsnMmCtxFindGgsnCtx labelLib anyForNetwork staticInternet imsTlvs
  sgsnCreatePdpCtx labelLib smallSizes [] (mmctxSgsnData (fun _ ↦ none) staticInternet) r.tp
    r.outApn

/-- With the one entry "*" and no APN in the request, "*" is what the GGSN is asked for. -/
example :
    let mmctx : MmCtx := { staticInternet with
      subscr := some { sgsnSubscriberDataAlloc with pdpList := [grantOf ['*']] } }
    let r := sgsnMmCtxFindGgsnCtx labelLib internetAndRest mmctx noApnTlvs
    (sgsnCreatePdpCtx labelLib smallSizes [] (mmctxSgsnData (fun _ ↦ none) mmctx) r.tp
      r.outApn).apnUse = [1, 42] := by decide

end OsmoSgsn.Apn
