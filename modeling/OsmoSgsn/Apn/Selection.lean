import OsmoSgsn.Apn.Subscription

/-!
# The choice of a GGSN

An activation names an APN or none. `sgsn_mm_ctx_find_ggsn_ctx` checks that the subscription or the
configuration grants it, or looks for a granted one, and takes the GGSN that is configured for it.

A request that names no APN is answered from the subscription: the first entry that is both granted
and configured. The loop that looks for it asks for the configuration of the requested APN, which is
the empty one, and not for that of the entry. What it finds there is kept for the entry it takes.
`findGgsn_consistent_iff` says for which configurations and subscriptions nothing is lost by that.
-/

namespace OsmoSgsn.Apn

/-- The configuration of the SGSN: `sgsn->apn_list`, and the numbers of `sgsn->ggsn_list`. -/
structure Config where
  apnList : List ApnCtx
  ggsnList : List ℕ
  deriving DecidableEq, Repr

/-- `sgsn_ggsn_ctx_by_id` -/
def Config.ggsnById (cfg : Config) (id : ℕ) : Option ℕ := cfg.ggsnList.find? (· = id)

/-- `struct sgsn_mm_ctx`, as far as its subscription is concerned. -/
structure MmCtx where
  imsi : Str
  subscr : Option SubscriberData
  deriving DecidableEq, Repr

/-- `struct tlv_parsed`, with the IEs that the choice of a GGSN and the request to it use. -/
structure Tlvs where
  /-- `GSM48_IE_GSM_APN` -/
  apn : Option (List UInt8)
  /-- `OSMO_IE_GSM_REQ_PDP_ADDR` -/
  reqPdpAddr : List UInt8
  /-- `OSMO_IE_GSM_SUB_QOS` -/
  subQos : Option (List UInt8)
  /-- `OSMO_IE_GSM_CHARG_CHAR` -/
  chargChar : Option (List UInt8)
  deriving DecidableEq, Repr

/-- The causes that `sgsn_mm_ctx_find_ggsn_ctx` stores. -/
inductive GsmCause
  | invMandInfo
  | reqServOptNotsub
  | missingApn
  deriving DecidableEq, Repr

/-- What `sgsn_mm_ctx_find_ggsn_ctx` leaves: its result, the cause if it stores one, `out_apn_str`,
and the IEs. -/
structure GgsnResult where
  ggsn : Option ℕ
  gsmCause : Option GsmCause
  outApn : Str
  tp : Tlvs
  deriving DecidableEq, Repr

/-- `insert_extra` -/
def insertExtra (tp : Tlvs) (data : SubscriberData) (pdp : PdpData) : Tlvs :=
  { tp with
    subQos := some (pdp.qosSubscribed.take pdp.qosSubscribedLen)
    -- prefer the charging characteristics of the PDP context
    chargChar :=
      if pdp.hasPdpCharg then some pdp.pdpCharg
      else if data.hasPdpCharg then some data.pdpCharg
      else tp.chargChar }

variable (lib : ApnLib) (cfg : Config)

/-- The APN IE is too long for `req_apn_str`. -/
def Tlvs.apnTooLong (tp : Tlvs) : Bool := (tp.apn.getD []).length ≥ gsmApnLength - 1

/-- `req_apn_str` -/
def reqApnStr (tp : Tlvs) : Str :=
  match tp.apn with
  | some enc =>
    let req := Buffer.str (lib.toStr zeroApnStr enc).1
    if req = ['*'] then [] else req
  | none => []

/-- The local variables of `sgsn_mm_ctx_find_ggsn_ctx` that its loops change. -/
structure Scan where
  apnCtx : Option ApnCtx
  selected : Option Str
  allowAny : Bool
  tp : Tlvs
  deriving DecidableEq, Repr

/-- Their values at the start. -/
def Scan.start (tp : Tlvs) : Scan :=
  { apnCtx := none, selected := none, allowAny := false, tp := tp }

@[simp] theorem Scan.start_allowAny (tp : Tlvs) : (Scan.start tp).allowAny = false := rfl

@[simp] theorem Scan.start_selected (tp : Tlvs) : (Scan.start tp).selected = none := rfl

/-- The loop for an APN that is both granted and configured. -/
def findGranted (reqApn imsi : Str) (data : SubscriberData) : List PdpData → Scan → Scan
  | [], s => s
  | pdp :: rest, s =>
    if pdp.apnStr = ['*'] then
      findGranted reqApn imsi data rest
        { s with allowAny := true, selected := some [], tp := insertExtra s.tp data pdp }
    else if cfg.apnList ≠ [] then
      let apnCtx := sgsnApnCtxMatch cfg.apnList reqApn imsi
      -- not configured
      if apnCtx = none then findGranted reqApn imsi data rest { s with apnCtx := none }
      else
        { s with apnCtx := apnCtx, selected := some pdp.apnStr, tp := insertExtra s.tp data pdp }
    else { s with selected := some pdp.apnStr, tp := insertExtra s.tp data pdp }

/-- The loop that checks whether the given APN is granted. -/
def checkGranted (reqApn : Str) (data : SubscriberData) : List PdpData → Scan → Scan
  | [], s => s
  | pdp :: rest, s =>
    if pdp.apnStr = ['*'] then
      checkGranted reqApn data rest
        { s with allowAny := true, selected := some reqApn, tp := insertExtra s.tp data pdp }
    else if strcaseEq pdp.apnStr reqApn then
      { s with selected := some reqApn, tp := insertExtra s.tp data pdp }
    else checkGranted reqApn data rest s

/-- The part of `sgsn_mm_ctx_find_ggsn_ctx` that selects an APN. -/
def selectApn (mmctx : MmCtx) (tp : Tlvs) : Scan :=
  let reqApn := reqApnStr lib tp
  match mmctx.subscr with
  | some data =>
    if sgsnApnCtxAllowAnyForImsi cfg.apnList mmctx.imsi then
      { Scan.start tp with allowAny := true, selected := some reqApn }
    else if reqApn = [] then findGranted cfg reqApn mmctx.imsi data data.pdpList (Scan.start tp)
    else checkGranted reqApn data data.pdpList (Scan.start tp)
  | none => { Scan.start tp with allowAny := true, selected := some reqApn }

/-- The part of `sgsn_mm_ctx_find_ggsn_ctx` after an APN was selected. -/
def ggsnOfScan (imsi : Str) (s : Scan) : GgsnResult :=
  if s.allowAny = false ∧ s.selected = none then
    -- access not granted
    { ggsn := none, gsmCause := some .reqServOptNotsub, outApn := [], tp := s.tp }
  else
    let outApn := s.selected.getD []
    let apnCtx := if s.apnCtx = none then s.selected.bind (sgsnApnCtxMatch cfg.apnList · imsi)
      else s.apnCtx
    let missing : GgsnResult :=
      { ggsn := none, gsmCause := some .missingApn, outApn := outApn, tp := s.tp }
    let found (ggsn : Option ℕ) : GgsnResult :=
      match ggsn with
      | some g => { ggsn := some g, gsmCause := none, outApn := outApn, tp := s.tp }
      | none => missing
    match apnCtx with
    | some actx => found actx.ggsn
    | none =>
      -- no configuration at all
      if cfg.apnList = [] then found (cfg.ggsnById 0)
      -- no APN given and no default configuration
      else if s.allowAny = true ∧ outApn = [] then found (cfg.ggsnById 0)
      else missing

/-- `sgsn_mm_ctx_find_ggsn_ctx` -/
def sgsnMmCtxFindGgsnCtx (mmctx : MmCtx) (tp : Tlvs) : GgsnResult :=
  if tp.apnTooLong then { ggsn := none, gsmCause := some .invMandInfo, outApn := [], tp := tp }
  else ggsnOfScan cfg mmctx.imsi (selectApn lib cfg mmctx tp)

/-! ## What a choice ought to be -/

/-- An "apn *" entry for a part of the IMSI allows any APN. -/
def AnyForImsi (imsi : Str) : Prop :=
  ∃ actx ∈ cfg.apnList, actx.name = ['*'] ∧ actx.imsiPrefix ≠ [] ∧ actx.imsiPrefix <+: imsi

/-- The subscription has the APN "*". -/
def Wildcard (data : SubscriberData) : Prop := ∃ pdp ∈ data.pdpList, pdp.apnStr = ['*']

/-- The subscriber may use an APN. -/
def Granted (mmctx : MmCtx) (apn : Str) : Prop :=
  mmctx.subscr = none ∨ AnyForImsi cfg mmctx.imsi ∨
    ∃ data ∈ mmctx.subscr, Wildcard data ∨ ∃ pdp ∈ data.pdpList, strcaseEq pdp.apnStr apn

/-- The GGSN for an APN: that of the entry found, or GGSN 0 without one. -/
def servingGgsn (imsi apn : Str) : Option ℕ :=
  match sgsnApnCtxMatch cfg.apnList apn imsi with
  | some actx => actx.ggsn
  | none => cfg.ggsnById 0

/-- Some granted APN is configured, with a GGSN. -/
def ServesGrant (imsi : Str) (data : SubscriberData) : Prop :=
  ∃ pdp ∈ data.pdpList, ∃ actx, sgsnApnCtxMatch cfg.apnList pdp.apnStr imsi = some actx ∧
    actx.ggsn.isSome

/-- The request names no APN. -/
def NamesNoApn (tp : Tlvs) : Prop := tp.apnTooLong = false ∧ reqApnStr lib tp = []

/-- The GGSN is one for an APN that is granted, and one is found if there is one. -/
structure Consistent (mmctx : MmCtx) (tp : Tlvs) (r : GgsnResult) : Prop where
  granted : ∀ g, r.ggsn = some g → Granted cfg mmctx r.outApn
  serving : ∀ g, r.ggsn = some g → servingGgsn cfg mmctx.imsi r.outApn = some g
  complete : ∀ data ∈ mmctx.subscr, NamesNoApn lib tp → ¬ AnyForImsi cfg mmctx.imsi →
    ¬ Wildcard data → cfg.apnList ≠ [] → (r.ggsn.isSome ↔ ServesGrant cfg mmctx.imsi data)

/-- What is configured for the empty APN is what is configured for the first named APN of the
subscription. -/
def EmptyApnServes (imsi : Str) (data : SubscriberData) : Prop :=
  ∀ pdp, data.pdpList.find? (·.apnStr ≠ ['*']) = some pdp →
    (∀ actx, sgsnApnCtxMatch cfg.apnList [] imsi = some actx →
      ∀ g, actx.ggsn = some g → servingGgsn cfg imsi pdp.apnStr = some g) ∧
    (Wildcard data ∨
      ((∃ actx, sgsnApnCtxMatch cfg.apnList [] imsi = some actx ∧ actx.ggsn.isSome) ↔
        ServesGrant cfg imsi data))

/-! ## What the loops leave -/

variable {lib cfg} {reqApn imsi : Str} {data : SubscriberData}

theorem allowAnyForImsi_iff :
    sgsnApnCtxAllowAnyForImsi cfg.apnList imsi = true ↔ AnyForImsi cfg imsi := by
  simp only [sgsnApnCtxAllowAnyForImsi, List.any_eq_true, Bool.and_eq_true, strnEq_length_iff,
    decide_eq_true_eq, beq_iff_eq, AnyForImsi, ne_eq, List.length_eq_zero_iff]
  refine exists_congr fun actx ↦ and_congr_right fun _ ↦ ?_
  tauto

/-- The first loop stops at the first named APN if the APN it looks up is configured. -/
theorem findGranted_of_stop (cfg : Config) (reqApn imsi : Str) (data : SubscriberData)
    {l : List PdpData} {pdp : PdpData} (s : Scan)
    (hfirst : l.find? (·.apnStr ≠ ['*']) = some pdp)
    (hconf : cfg.apnList ≠ [] → sgsnApnCtxMatch cfg.apnList reqApn imsi ≠ none) :
    (findGranted cfg reqApn imsi data l s).selected = some pdp.apnStr ∧
      (findGranted cfg reqApn imsi data l s).apnCtx =
        if cfg.apnList = [] then s.apnCtx else sgsnApnCtxMatch cfg.apnList reqApn imsi := by
  induction l generalizing s with
  | nil => simp at hfirst
  | cons first rest ih =>
    rw [findGranted]
    by_cases hstar : first.apnStr = ['*']
    · rw [if_pos hstar]
      have hrest : rest.find? (·.apnStr ≠ ['*']) = some pdp := by
        simpa [hstar] using hfirst
      exact ih _ hrest
    · have heq : first = pdp := by simpa [hstar] using hfirst
      rw [if_neg hstar, heq]
      by_cases hnil : cfg.apnList = []
      · simp [hnil]
      · simp [hnil, hconf hnil]

/-- Else it goes through all of the list, and only the APN "*" is noticed. -/
theorem findGranted_of_pass (cfg : Config) (reqApn imsi : Str) (data : SubscriberData)
    {l : List PdpData} (s : Scan) (hs : s.apnCtx = none)
    (hpass : l.find? (·.apnStr ≠ ['*']) = none ∨
      (cfg.apnList ≠ [] ∧ sgsnApnCtxMatch cfg.apnList reqApn imsi = none)) :
    (findGranted cfg reqApn imsi data l s).apnCtx = none ∧
      (findGranted cfg reqApn imsi data l s).selected =
        (if ∃ pdp ∈ l, pdp.apnStr = ['*'] then some [] else s.selected) ∧
      ((findGranted cfg reqApn imsi data l s).allowAny = true ↔
        s.allowAny = true ∨ ∃ pdp ∈ l, pdp.apnStr = ['*']) := by
  induction l generalizing s with
  | nil => simp [findGranted, hs]
  | cons first rest ih =>
    rw [findGranted]
    by_cases hstar : first.apnStr = ['*']
    · have hrest : rest.find? (·.apnStr ≠ ['*']) = none ∨
          (cfg.apnList ≠ [] ∧ sgsnApnCtxMatch cfg.apnList reqApn imsi = none) :=
        hpass.imp_left fun h ↦ by simpa [hstar] using h
      rw [if_pos hstar]
      obtain ⟨hctx, hsel, hany⟩ := ih
        { s with allowAny := true, selected := some [], tp := insertExtra s.tp data first } hs hrest
      refine ⟨hctx, ?_, ?_⟩
      · rw [hsel]
        simp [hstar]
      · rw [hany]
        simp [hstar]
    · have hnone : cfg.apnList ≠ [] ∧ sgsnApnCtxMatch cfg.apnList reqApn imsi = none :=
        hpass.resolve_left (by simp [hstar])
      rw [if_neg hstar, if_pos hnone.1, if_pos hnone.2]
      obtain ⟨hctx, hsel, hany⟩ := ih { s with apnCtx := none } rfl (.inr hnone)
      refine ⟨hctx, ?_, ?_⟩
      · rw [hsel]
        simp [hstar]
      · rw [hany]
        simp [hstar]

/-- The second loop selects the requested APN or nothing. -/
theorem checkGranted_spec (reqApn : Str) (data : SubscriberData) (l : List PdpData) (s : Scan)
    (hs : s.apnCtx = none) :
    (checkGranted reqApn data l s).apnCtx = none ∧
      (checkGranted reqApn data l s).selected =
        (if ∃ pdp ∈ l, pdp.apnStr = ['*'] ∨ strcaseEq pdp.apnStr reqApn then some reqApn
          else s.selected) ∧
      ((checkGranted reqApn data l s).allowAny = true → s.allowAny = true ∨
        ∃ pdp ∈ l, pdp.apnStr = ['*']) := by
  induction l generalizing s with
  | nil => simp [checkGranted, hs]
  | cons first rest ih =>
    rw [checkGranted]
    by_cases hstar : first.apnStr = ['*']
    · rw [if_pos hstar]
      obtain ⟨hctx, hsel, hany⟩ := ih
        { s with allowAny := true, selected := some reqApn, tp := insertExtra s.tp data first } hs
      refine ⟨hctx, ?_, by simp [hstar]⟩
      rw [hsel]
      simp [hstar]
    · rw [if_neg hstar]
      by_cases heq : strcaseEq first.apnStr reqApn
      · rw [if_pos heq]
        refine ⟨hs, by simp [heq], ?_⟩
        exact Or.inl
      · rw [if_neg heq]
        obtain ⟨hctx, hsel, hany⟩ := ih s hs
        refine ⟨hctx, ?_, ?_⟩
        · rw [hsel]
          simp [hstar, heq]
        · simpa [hstar] using hany

/-! ## What is made of a selected APN -/

section GgsnOfScan

variable {s : Scan} {apn : Str}

theorem ggsnOfScan_of_none (hany : s.allowAny = false) (hsel : s.selected = none) :
    (ggsnOfScan cfg imsi s).ggsn = none := by
  rw [ggsnOfScan, if_pos ⟨hany, hsel⟩]

theorem outApn_ggsnOfScan_getD : (ggsnOfScan cfg imsi s).outApn = s.selected.getD [] := by
  rw [ggsnOfScan]
  split
  · next hnone => rw [hnone.2, Option.getD_none]
  · dsimp only
    repeat' split
    all_goals rfl

theorem outApn_ggsnOfScan (cfg : Config) (imsi : Str) (hsel : s.selected = some apn) :
    (ggsnOfScan cfg imsi s).outApn = apn := by
  rw [outApn_ggsnOfScan_getD, hsel, Option.getD_some]

/-- An entry that was kept gives its GGSN. -/
theorem ggsnOfScan_of_kept (cfg : Config) (imsi : Str) {actx : ApnCtx}
    (hsel : s.selected = some apn) (hctx : s.apnCtx = some actx) :
    (ggsnOfScan cfg imsi s).ggsn = actx.ggsn := by
  rw [ggsnOfScan, if_neg (by simp [hsel])]
  simp only [hctx, reduceCtorEq, if_false]
  rcases actx.ggsn with _ | g <;> rfl

/-- Without one it is looked up, and GGSN 0 stands in for no entry only where no configuration is
missing. -/
theorem ggsnOfScan_of_looked_up (hsel : s.selected = some apn) (hctx : s.apnCtx = none) :
    (ggsnOfScan cfg imsi s).ggsn =
      match sgsnApnCtxMatch cfg.apnList apn imsi with
      | some actx => actx.ggsn
      | none =>
        if cfg.apnList = [] ∨ (s.allowAny = true ∧ apn = []) then cfg.ggsnById 0 else none := by
  rw [ggsnOfScan, if_neg (by simp [hsel])]
  simp only [hctx, hsel, if_true, Option.bind_some, Option.getD_some]
  rcases sgsnApnCtxMatch cfg.apnList apn imsi with _ | actx
  · by_cases hnil : cfg.apnList = []
    · simp only [hnil, true_or, if_true]
      rcases cfg.ggsnById 0 with _ | g <;> rfl
    · by_cases hany : s.allowAny = true ∧ apn = []
      · simp only [hnil, hany, if_false, false_or, and_self, if_true]
        rcases cfg.ggsnById 0 with _ | g <;> rfl
      · simp only [hnil, hany, if_false, false_or]
  · rcases hggsn : actx.ggsn with _ | g <;> simp [hggsn]

theorem serving_of_looked_up (hsel : s.selected = some apn) (hctx : s.apnCtx = none) {g : ℕ}
    (hg : (ggsnOfScan cfg imsi s).ggsn = some g) : servingGgsn cfg imsi apn = some g := by
  rw [ggsnOfScan_of_looked_up hsel hctx] at hg
  rw [servingGgsn]
  rcases hmatch : sgsnApnCtxMatch cfg.apnList apn imsi with _ | actx
  · rw [hmatch] at hg
    by_cases hzero : cfg.apnList = [] ∨ (s.allowAny = true ∧ apn = [])
    · simpa [hzero] using hg
    · simp [hzero] at hg
  · rw [hmatch] at hg
    exact hg

end GgsnOfScan

/-! ## The choice -/

variable {mmctx : MmCtx} {tp : Tlvs}

theorem selectApn_of_any (hany : mmctx.subscr = none ∨ AnyForImsi cfg mmctx.imsi) :
    selectApn lib cfg mmctx tp =
      { Scan.start tp with allowAny := true, selected := some (reqApnStr lib tp) } := by
  rw [selectApn]
  rcases hsubscr : mmctx.subscr with _ | data
  · rfl
  · have hallow := hany.resolve_left (by simp [hsubscr])
    simp [allowAnyForImsi_iff.mpr hallow]

theorem selectApn_of_subscr (hsubscr : mmctx.subscr = some data)
    (hany : ¬ AnyForImsi cfg mmctx.imsi) :
    selectApn lib cfg mmctx tp =
      if reqApnStr lib tp = [] then
        findGranted cfg [] mmctx.imsi data data.pdpList (Scan.start tp)
      else checkGranted (reqApnStr lib tp) data data.pdpList (Scan.start tp) := by
  have hallow : ¬ sgsnApnCtxAllowAnyForImsi cfg.apnList mmctx.imsi = true :=
    mt allowAnyForImsi_iff.mp hany
  simp only [selectApn, hsubscr, if_neg hallow]
  split
  · next hreq => rw [hreq]
  · rfl

/-- A choice that keeps no entry is consistent, as far as APNs that are named go. -/
theorem consistent_of_looked_up {s : Scan} {apn : Str} (hsel : s.selected = some apn)
    (hctx : s.apnCtx = none) (hgrant : Granted cfg mmctx apn)
    (hcomplete : ∀ data ∈ mmctx.subscr, NamesNoApn lib tp → ¬ AnyForImsi cfg mmctx.imsi →
      ¬ Wildcard data → cfg.apnList ≠ [] →
      ((ggsnOfScan cfg mmctx.imsi s).ggsn.isSome ↔ ServesGrant cfg mmctx.imsi data)) :
    Consistent lib cfg mmctx tp (ggsnOfScan cfg mmctx.imsi s) := by
  refine ⟨fun g _ ↦ ?_, fun g hg ↦ ?_, hcomplete⟩
  · rwa [outApn_ggsnOfScan cfg _ hsel]
  · rw [outApn_ggsnOfScan cfg _ hsel]
    exact serving_of_looked_up hsel hctx hg

/-- Nor is anything wrong with choosing nothing where nothing was to be found. -/
theorem consistent_of_none {r : GgsnResult} (hr : r.ggsn = none)
    (hcomplete : ∀ data ∈ mmctx.subscr, NamesNoApn lib tp → ¬ AnyForImsi cfg mmctx.imsi →
      ¬ Wildcard data → cfg.apnList ≠ [] → ¬ ServesGrant cfg mmctx.imsi data) :
    Consistent lib cfg mmctx tp r :=
  ⟨by simp [hr], by simp [hr], fun data hdata hno hany hwild hnil ↦ by
    simpa [hr] using hcomplete data hdata hno hany hwild hnil⟩

/-- Any APN is allowed. -/
theorem consistent_of_any (hany : mmctx.subscr = none ∨ AnyForImsi cfg mmctx.imsi) :
    Consistent lib cfg mmctx tp (ggsnOfScan cfg mmctx.imsi (selectApn lib cfg mmctx tp)) := by
  rw [selectApn_of_any hany]
  refine consistent_of_looked_up rfl rfl ?_ fun data hdata _ hnot _ _ ↦ ?_
  · exact hany.imp_right .inl
  · rcases hany with hnone | hany
    · simp [hnone] at hdata
    · exact absurd hany hnot

/-- The request names an APN. -/
theorem consistent_of_named (hsubscr : mmctx.subscr = some data) (hreq : reqApnStr lib tp ≠ []) :
    Consistent lib cfg mmctx tp (ggsnOfScan cfg mmctx.imsi
      (checkGranted (reqApnStr lib tp) data data.pdpList (Scan.start tp))) := by
  obtain ⟨hctx, hsel, hany⟩ := checkGranted_spec (reqApnStr lib tp) data data.pdpList
    (Scan.start tp) rfl
  split_ifs at hsel with hgrant
  · refine consistent_of_looked_up hsel hctx (.inr (.inr ⟨data, hsubscr, ?_⟩))
      fun _ _ hno ↦ absurd hno.2 hreq
    obtain ⟨pdp, hpdp, hstar | heq⟩ := hgrant
    · exact .inl ⟨pdp, hpdp, hstar⟩
    · exact .inr ⟨pdp, hpdp, heq⟩
  · refine consistent_of_none (ggsnOfScan_of_none ?_ hsel) fun _ _ hno ↦ absurd hno.2 hreq
    rw [← Bool.not_eq_true]
    intro htrue
    obtain ⟨pdp, hpdp, hstar⟩ := (hany htrue).resolve_left (by simp)
    exact hgrant ⟨pdp, hpdp, .inl hstar⟩

/-- The loop over the subscription goes through all of it. -/
theorem consistent_of_pass (hsubscr : mmctx.subscr = some data)
    (hpass : data.pdpList.find? (·.apnStr ≠ ['*']) = none ∨
      (cfg.apnList ≠ [] ∧ sgsnApnCtxMatch cfg.apnList [] mmctx.imsi = none))
    (hserves : ¬ Wildcard data → ¬ ServesGrant cfg mmctx.imsi data) :
    Consistent lib cfg mmctx tp (ggsnOfScan cfg mmctx.imsi
      (findGranted cfg [] mmctx.imsi data data.pdpList (Scan.start tp))) := by
  obtain ⟨hctx, hsel, hany⟩ := findGranted_of_pass cfg [] mmctx.imsi data (Scan.start tp) rfl hpass
  have hsame : ∀ other ∈ mmctx.subscr, other = data := fun other hother ↦ by
    simpa [hsubscr, eq_comm] using hother
  split_ifs at hsel with hwild
  · refine consistent_of_looked_up hsel hctx (.inr (.inr ⟨data, hsubscr, .inl hwild⟩)) ?_
    exact fun other hother _ _ hnot ↦ absurd (hsame other hother ▸ hwild) hnot
  · refine consistent_of_none (ggsnOfScan_of_none ?_ hsel) ?_
    · rw [← Bool.not_eq_true, hany]
      simpa using hwild
    · exact fun other hother _ _ _ _ ↦ hsame other hother ▸ hserves hwild

/-- It stops at an entry, and what was found for the empty APN is kept. -/
theorem consistent_of_stop {pdp : PdpData} {actx : ApnCtx} (hsubscr : mmctx.subscr = some data)
    (hno : NamesNoApn lib tp) (hany : ¬ AnyForImsi cfg mmctx.imsi) (hnil : cfg.apnList ≠ [])
    (hfirst : data.pdpList.find? (·.apnStr ≠ ['*']) = some pdp)
    (hmatch : sgsnApnCtxMatch cfg.apnList [] mmctx.imsi = some actx) :
    Consistent lib cfg mmctx tp (ggsnOfScan cfg mmctx.imsi
      (findGranted cfg [] mmctx.imsi data data.pdpList (Scan.start tp))) ↔
      EmptyApnServes cfg mmctx.imsi data := by
  obtain ⟨hsel, hctx⟩ := findGranted_of_stop cfg [] mmctx.imsi data (Scan.start tp) hfirst
    (by simp [hmatch])
  rw [if_neg hnil, hmatch] at hctx
  have hggsn := ggsnOfScan_of_kept cfg mmctx.imsi hsel hctx
  have hout := outApn_ggsnOfScan cfg mmctx.imsi hsel
  have hmem : pdp ∈ data.pdpList := List.mem_of_find?_eq_some hfirst
  constructor
  · intro h pdp' hfirst'
    obtain rfl : pdp' = pdp := Option.some.inj (hfirst'.symm.trans hfirst)
    constructor
    · intro actx' hmatch' g hg
      obtain rfl : actx = actx' := by simpa [hmatch] using hmatch'
      have hserving := h.serving g (by rw [hggsn, hg])
      rwa [hout] at hserving
    · rw [or_iff_not_imp_left]
      intro hwild
      rw [← h.complete data hsubscr hno hany hwild hnil, hggsn]
      simp [hmatch]
  · intro h
    obtain ⟨hserving, hcomplete⟩ := h pdp hfirst
    refine ⟨fun g _ ↦ ?_, fun g hg ↦ ?_, fun other hother _ _ hwild _ ↦ ?_⟩
    · rw [hout]
      exact .inr (.inr ⟨data, hsubscr, .inr ⟨pdp, hmem, strcaseEq_iff.mpr rfl⟩⟩)
    · rw [hggsn] at hg
      rw [hout]
      exact hserving actx hmatch g hg
    · obtain rfl : data = other := by simpa [hsubscr] using hother
      rw [← hcomplete.resolve_left hwild, hggsn]
      simp [hmatch]

/-- Without a configuration the first APN that the subscription names is looked up. -/
theorem consistent_of_unconfigured (hsubscr : mmctx.subscr = some data) (hnil : cfg.apnList = []) :
    Consistent lib cfg mmctx tp (ggsnOfScan cfg mmctx.imsi
      (findGranted cfg [] mmctx.imsi data data.pdpList (Scan.start tp))) := by
  rcases hfirst : data.pdpList.find? (·.apnStr ≠ ['*']) with _ | pdp
  · refine consistent_of_pass hsubscr (.inl hfirst) fun _ hserves ↦ ?_
    obtain ⟨pdp, -, actx, hmatch, -⟩ := hserves
    simp [hnil, sgsnApnCtxMatch] at hmatch
  · obtain ⟨hsel, hctx⟩ := findGranted_of_stop cfg [] mmctx.imsi data (Scan.start tp) hfirst
      (absurd hnil)
    rw [if_pos hnil] at hctx
    have hmem : pdp ∈ data.pdpList := List.mem_of_find?_eq_some hfirst
    refine consistent_of_looked_up hsel hctx ?_ fun _ _ _ _ _ hne ↦ absurd hnil hne
    exact .inr (.inr ⟨data, hsubscr, .inr ⟨pdp, hmem, strcaseEq_iff.mpr rfl⟩⟩)

/-- The request names no APN. -/
theorem consistent_of_unnamed (hsubscr : mmctx.subscr = some data) (hno : NamesNoApn lib tp)
    (hany : ¬ AnyForImsi cfg mmctx.imsi) :
    Consistent lib cfg mmctx tp (ggsnOfScan cfg mmctx.imsi
      (findGranted cfg [] mmctx.imsi data data.pdpList (Scan.start tp))) ↔
      (cfg.apnList ≠ [] → EmptyApnServes cfg mmctx.imsi data) := by
  by_cases hnil : cfg.apnList = []
  · exact iff_of_true (consistent_of_unconfigured hsubscr hnil) (absurd hnil)
  rcases hfirst : data.pdpList.find? (·.apnStr ≠ ['*']) with _ | pdp
  · -- the subscription names no APN, so it has "*" or nothing
    have hempty : ¬ Wildcard data → ¬ ServesGrant cfg mmctx.imsi data := by
      rintro hwild ⟨pdp, hpdp, -⟩
      have hstar := List.find?_eq_none.mp hfirst pdp hpdp
      exact hwild ⟨pdp, hpdp, by simpa using hstar⟩
    refine iff_of_true (consistent_of_pass hsubscr (.inl hfirst) hempty) fun _ pdp hpdp ↦ ?_
    rw [hfirst] at hpdp
    cases hpdp
  rcases hmatch : sgsnApnCtxMatch cfg.apnList [] mmctx.imsi with _ | actx
  · -- nothing is configured for the empty APN, so no entry is taken
    constructor
    · intro h _ pdp' _
      refine ⟨by simp [hmatch], ?_⟩
      rw [or_iff_not_imp_left]
      intro hwild
      rw [← h.complete data hsubscr hno hany hwild hnil]
      obtain ⟨-, hsel, hallow⟩ := findGranted_of_pass cfg [] mmctx.imsi data
        (Scan.start tp) rfl (.inr ⟨hnil, hmatch⟩)
      have hnone : ¬ ∃ pdp ∈ data.pdpList, pdp.apnStr = ['*'] := hwild
      rw [if_neg hnone] at hsel
      rw [ggsnOfScan_of_none ?_ hsel]
      · simp [hmatch]
      · rw [← Bool.not_eq_true, hallow]
        simpa using hnone
    · intro h
      refine consistent_of_pass hsubscr (.inr ⟨hnil, hmatch⟩) fun hwild ↦ ?_
      rw [← ((h hnil) pdp hfirst).2.resolve_left hwild]
      simp [hmatch]
  · rw [consistent_of_stop hsubscr hno hany hnil hfirst hmatch]
    exact ⟨fun h _ ↦ h, fun h ↦ h hnil⟩

/-- The choice is consistent exactly if, for a request without APN, what is configured for the empty
APN is what is configured for the first APN that the subscription names. -/
theorem findGgsn_consistent_iff (lib : ApnLib) (cfg : Config) (mmctx : MmCtx) (tp : Tlvs) :
    Consistent lib cfg mmctx tp (sgsnMmCtxFindGgsnCtx lib cfg mmctx tp) ↔
      ∀ data ∈ mmctx.subscr, NamesNoApn lib tp → ¬ AnyForImsi cfg mmctx.imsi → cfg.apnList ≠ [] →
        EmptyApnServes cfg mmctx.imsi data := by
  rw [sgsnMmCtxFindGgsnCtx]
  by_cases hlong : tp.apnTooLong
  · rw [if_pos hlong]
    have hnot : ¬ NamesNoApn lib tp := fun h ↦ by simp [h.1] at hlong
    exact iff_of_true (consistent_of_none rfl fun _ _ hno ↦ absurd hno hnot)
      fun _ _ hno ↦ absurd hno hnot
  rw [if_neg hlong]
  rcases hsubscr : mmctx.subscr with _ | data
  · exact iff_of_true (consistent_of_any (.inl hsubscr)) (by simp)
  by_cases hany : AnyForImsi cfg mmctx.imsi
  · exact iff_of_true (consistent_of_any (.inr hany)) fun _ _ _ hnot ↦ absurd hany hnot
  rw [selectApn_of_subscr hsubscr hany]
  by_cases hreq : reqApnStr lib tp = []
  · have hno : NamesNoApn lib tp := ⟨by simpa using hlong, hreq⟩
    rw [if_pos hreq, consistent_of_unnamed hsubscr hno hany]
    simp [hno, hany]
  · rw [if_neg hreq]
    exact iff_of_true (consistent_of_named hsubscr hreq) fun _ _ hno ↦ absurd hno.2 hreq

/-! ## A request without APN -/

/-- An entry of the subscription for an APN. -/
def grantOf (apn : Str) : PdpData :=
  { sgsnSubscriberPdpDataAlloc 1 with apnBuf := apn }

/-- A subscription with the one APN "internet". -/
def internetOnly : MmCtx where
  imsi := "262420000000001".toList
  subscr := some { sgsnSubscriberDataAlloc with pdpList := [grantOf "internet".toList] }

/-- GGSN 1 for "internet", and GGSN 2 for the rest. -/
def internetAndRest : Config where
  apnList := [⟨['*'], [], some 2⟩, ⟨"internet".toList, [], some 1⟩]
  ggsnList := [0, 1, 2]

/-- An activation request without APN. -/
def noApnTlvs : Tlvs := { apn := none, reqPdpAddr := [], subQos := none, chargChar := none }

/-- The labels of an encoded APN, each after its length, with dots between them. -/
def decodeLabels : ℕ → List UInt8 → Option Str
  | _, [] => some []
  | 0, _ :: _ => none
  | fuel + 1, len :: rest =>
    if rest.length < len.toNat then none
    else
      let label := (rest.take len.toNat).map fun octet ↦ Char.ofNat octet.toNat
      match rest.drop len.toNat with
      | [] => some label
      | more => (decodeLabels fuel more).map (label ++ '.' :: ·)

/-- The translation of APNs, as far as the runs below need it. -/
def labelLib : ApnLib where
  decode enc := decodeLabels enc.length enc
  residue b _ := b
  fromStr size s :=
    let enc := (s.splitOn '.').flatMap fun label ↦
      UInt8.ofNat label.length :: label.map fun c ↦ UInt8.ofNat c.toNat
    if enc.length ≤ size then some enc else none
  decode_nil := rfl

/-- The GGSN that is chosen with the APN "internet" is not the one for "internet". -/
theorem findGgsn_not_consistent :
    (sgsnMmCtxFindGgsnCtx labelLib internetAndRest internetOnly noApnTlvs).ggsn = some 2 ∧
      (sgsnMmCtxFindGgsnCtx labelLib internetAndRest internetOnly noApnTlvs).outApn =
        "internet".toList ∧
      servingGgsn internetAndRest internetOnly.imsi "internet".toList = some 1 ∧
      ¬ Consistent labelLib internetAndRest internetOnly noApnTlvs
        (sgsnMmCtxFindGgsnCtx labelLib internetAndRest internetOnly noApnTlvs) := by
  refine ⟨by decide, by decide, by decide, fun h ↦ ?_⟩
  have hserving := h.serving 2 (by decide)
  revert hserving
  decide

end OsmoSgsn.Apn
