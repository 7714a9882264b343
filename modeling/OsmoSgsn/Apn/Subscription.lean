import OsmoSgsn.Apn.Match
import OsmoSgsn.Library.KeyedList

/-!
# The PDP list of a subscriber

What the HLR says about a subscriber comes in INSERT DATA Requests and UPDATE LOCATION Results:
the MSISDN, charging characteristics, and a PDP info for each context the subscriber may activate.
`gprs_subscr_gsup_insert_data` keeps them in a list, one entry for a context id.

The list is a map from context ids to entries (`insertData_refines`): an info replaces the entry of
its context id where it stands or comes last, an info that does not fit is skipped, and a message
that says it is complete starts from the empty map.

`osmo_apn_to_str` belongs to another library. The string it makes of an APN, and what it leaves in
the buffer of an entry if it makes none, are parameters.
-/

namespace OsmoSgsn.Apn

/-- The octets of a string buffer, which has a zero somewhere. -/
abbrev Buffer := List Char

/-- The string in a buffer. -/
def Buffer.str (b : Buffer) : Str := b.takeWhile (· ≠ '\x00')

/-- `sizeof(apn_str)`, which is `GSM_APN_LENGTH`. -/
def gsmApnLength : ℕ := 102

/-- A buffer of an APN that was set to zero. -/
def zeroApnStr : Buffer := List.replicate gsmApnLength '\x00'

/-- The functions of another library that translate APNs. -/
structure ApnLib where
  /-- The string that `osmo_apn_to_str` writes. -/
  decode : List UInt8 → Option Str
  /-- The buffer it leaves where it writes none and its result is `NULL`. -/
  residue : Buffer → List UInt8 → Buffer
  /-- `osmo_apn_from_str` with the size of the buffer: the octets written, if any. -/
  fromStr : ℕ → Str → Option (List UInt8)
  decode_nil : decode [] = some []

/-- `osmo_apn_to_str`: the buffer afterwards, and whether the result is not `NULL`. -/
def ApnLib.toStr (lib : ApnLib) (b : Buffer) (enc : List UInt8) : Buffer × Bool :=
  match lib.decode enc with
  | some s => (s ++ '\x00' :: b.drop (s.length + 1), true)
  | none => (lib.residue b enc, false)

/-- `struct osmo_sockaddr`, as far as PDP addresses need it: the octets in network order. -/
inductive Sockaddr
  | unspec
  | inet (addr : Vector UInt8 4)
  | inet6 (addr : Vector UInt8 16)
  deriving DecidableEq, Repr

/-- `struct sgsn_subscriber_pdp_data` -/
structure PdpData where
  contextId : ℕ
  pdpTypeOrg : UInt8
  pdpTypeNr : UInt8
  pdpAddress : Sockaddr × Sockaddr
  apnBuf : Buffer
  qosSubscribed : List UInt8
  qosSubscribedLen : ℕ
  pdpCharg : List UInt8
  hasPdpCharg : Bool
  deriving DecidableEq, Repr

/-- `pdp->apn_str` -/
def PdpData.apnStr (pdp : PdpData) : Str := pdp.apnBuf.str

/-- `struct sgsn_subscriber_data`, less what the authentication keeps in it. -/
structure SubscriberData where
  pdpList : List PdpData
  msisdn : List UInt8
  msisdnLen : ℕ
  hlr : List UInt8
  hlrLen : ℕ
  pdpCharg : List UInt8
  hasPdpCharg : Bool
  deriving DecidableEq, Repr

/-- `sgsn_subscriber_data_alloc` -/
def sgsnSubscriberDataAlloc : SubscriberData where
  pdpList := []
  msisdn := List.replicate 9 0
  msisdnLen := 0
  hlr := List.replicate 9 0
  hlrLen := 0
  pdpCharg := [0, 0]
  hasPdpCharg := false

/-- `sgsn_subscriber_pdp_data_alloc`, with the context id that is stored next. -/
def sgsnSubscriberPdpDataAlloc (ctxId : ℕ) : PdpData where
  contextId := ctxId
  pdpTypeOrg := 0
  pdpTypeNr := 0
  pdpAddress := (.unspec, .unspec)
  apnBuf := zeroApnStr
  qosSubscribed := List.replicate 20 0
  qosSubscribedLen := 0
  pdpCharg := [0, 0]
  hasPdpCharg := false

/-- The types of the messages that carry subscriber data. -/
inductive GsupMsgType
  | updateLocationResult
  | insertDataRequest
  deriving DecidableEq, Repr

/-- `struct osmo_gsup_pdp_info`; an IE that is missing has length 0. -/
structure PdpInfo where
  contextId : ℕ
  pdpTypeOrg : UInt8
  pdpTypeNr : UInt8
  pdpAddress : Sockaddr × Sockaddr
  apnEnc : List UInt8
  qosEnc : Option (List UInt8)
  pdpChargEnc : Option (List UInt8)
  deriving DecidableEq, Repr

/-- `struct osmo_gsup_message`, as far as subscriber data is concerned. -/
structure GsupMsg where
  messageType : GsupMsgType
  msisdnEnc : Option (List UInt8)
  hlrEnc : Option (List UInt8)
  pdpChargEnc : Option (List UInt8)
  pdpInfoCompl : Bool
  pdpInfos : List PdpInfo
  deriving DecidableEq, Repr

/-- `memcpy` to the start of an array. -/
def copyTo (dst src : List UInt8) : List UInt8 := src ++ dst.drop src.length

/-- A number that the subscriber data has 9 octets for: the array and its length. -/
def setNumber (enc : Option (List UInt8)) (old : List UInt8 × ℕ) : List UInt8 × ℕ :=
  match enc with
  | none => old
  | some octets => if octets.length > 9 then (old.1, 0) else (copyTo old.1 octets, octets.length)

/-- Charging characteristics, of which the first two octets are kept: the array, and whether there
are any. -/
def setPdpCharg (enc : Option (List UInt8)) (old : List UInt8) : List UInt8 × Bool :=
  match enc with
  | some octets => if octets.length ≥ 2 then (octets.take 2, true) else (old, false)
  | none => (old, false)

variable (lib : ApnLib)

/-- What the loop of `gprs_subscr_gsup_insert_data` stores in an entry. -/
def setPdpInfo (info : PdpInfo) (pdp : PdpData) : PdpData where
  contextId := pdp.contextId
  pdpTypeOrg := info.pdpTypeOrg
  pdpTypeNr := info.pdpTypeNr
  pdpAddress := info.pdpAddress
  -- the result of osmo_apn_to_str is not looked at
  apnBuf := (lib.toStr pdp.apnBuf info.apnEnc).1
  qosSubscribed := match info.qosEnc with
    | some qos => copyTo pdp.qosSubscribed qos
    | none => pdp.qosSubscribed
  qosSubscribedLen := (info.qosEnc.getD []).length
  pdpCharg := (setPdpCharg info.pdpChargEnc pdp.pdpCharg).1
  hasPdpCharg := (setPdpCharg info.pdpChargEnc pdp.pdpCharg).2

/-- `gprs_subscr_pdp_data_get_by_id`: the place of the entry in the list. -/
def gprsSubscrPdpDataGetById (pdpList : List PdpData) (contextId : ℕ) : Option ℕ :=
  pdpList.findIdx? (·.contextId = contextId)

/-- Neither the APN nor the QoS of the info is too long. -/
def PdpInfo.Fits (info : PdpInfo) : Prop :=
  ¬ info.apnEnc.length ≥ gsmApnLength - 1 ∧ ¬ (info.qosEnc.getD []).length > 20

instance (info : PdpInfo) : Decidable info.Fits :=
  inferInstanceAs (Decidable (¬ info.apnEnc.length ≥ gsmApnLength - 1 ∧
    ¬ (info.qosEnc.getD []).length > 20))

/-- One round of the loop of `gprs_subscr_gsup_insert_data`. -/
def insertPdpInfo (pdpList : List PdpData) (info : PdpInfo) : List PdpData :=
  if info.apnEnc.length ≥ gsmApnLength - 1 then pdpList
  else if (info.qosEnc.getD []).length > 20 then pdpList
  else match gprsSubscrPdpDataGetById pdpList info.contextId with
    | some i => pdpList.modify i (setPdpInfo lib info)
    | none => pdpList ++ [setPdpInfo lib info (sgsnSubscriberPdpDataAlloc info.contextId)]

/-- The message is complete, and not an UPDATE LOCATION Result without PDP infos. -/
def GsupMsg.clears (msg : GsupMsg) : Bool :=
  msg.pdpInfoCompl && (msg.pdpInfos.length > 0 || msg.messageType != .updateLocationResult)

/-- `gprs_subscr_gsup_insert_data` -/
def gprsSubscrGsupInsertData (sdata : SubscriberData) (msg : GsupMsg) : SubscriberData :=
  let msisdn := setNumber msg.msisdnEnc (sdata.msisdn, sdata.msisdnLen)
  let hlr := setNumber msg.hlrEnc (sdata.hlr, sdata.hlrLen)
  let charg := setPdpCharg msg.pdpChargEnc sdata.pdpCharg
  let pdpList := if msg.clears then [] else sdata.pdpList
  { pdpList := msg.pdpInfos.foldl (insertPdpInfo lib) pdpList
    msisdn := msisdn.1
    msisdnLen := msisdn.2
    hlr := hlr.1
    hlrLen := hlr.2
    pdpCharg := charg.1
    hasPdpCharg := charg.2 }

/-! ## The map of the HLR -/

/-- What the HLR says about a PDP context. The APN is the buffer, since an APN that cannot be
translated leaves there what it had. -/
structure PdpEntry where
  pdpTypeOrg : UInt8
  pdpTypeNr : UInt8
  pdpAddress : Sockaddr × Sockaddr
  apnBuf : Buffer
  qos : List UInt8
  pdpCharg : Option (List UInt8)
  deriving DecidableEq, Repr

/-- The entry that an info describes, given the APN of the entry it replaces. -/
def PdpInfo.entry (info : PdpInfo) (apnBuf : Buffer) : PdpEntry where
  pdpTypeOrg := info.pdpTypeOrg
  pdpTypeNr := info.pdpTypeNr
  pdpAddress := info.pdpAddress
  apnBuf := (lib.toStr apnBuf info.apnEnc).1
  qos := info.qosEnc.getD []
  pdpCharg := (info.pdpChargEnc.filter (2 ≤ ·.length)).map (·.take 2)

/-- The map from context ids to entries after one more PDP info. -/
def describe (m : KeyedMap ℕ PdpEntry) (info : PdpInfo) : KeyedMap ℕ PdpEntry :=
  if info.Fits then
    let apnBuf := ((m.get info.contextId).map PdpEntry.apnBuf).getD zeroApnStr
    m.set info.contextId (info.entry lib apnBuf)
  else m

/-- The map after one more message. -/
def describeAll (m : KeyedMap ℕ PdpEntry) (msg : GsupMsg) : KeyedMap ℕ PdpEntry :=
  msg.pdpInfos.foldl (describe lib) (if msg.clears then .empty else m)

/-- What an entry of the list says. -/
def PdpData.entry (pdp : PdpData) : PdpEntry where
  pdpTypeOrg := pdp.pdpTypeOrg
  pdpTypeNr := pdp.pdpTypeNr
  pdpAddress := pdp.pdpAddress
  apnBuf := pdp.apnBuf
  qos := pdp.qosSubscribed.take pdp.qosSubscribedLen
  pdpCharg := if pdp.hasPdpCharg then some pdp.pdpCharg else none

/-- The list is the map. -/
abbrev Describes (pdpList : List PdpData) (m : KeyedMap ℕ PdpEntry) : Prop :=
  KeyedMap.Represents PdpData.contextId PdpData.entry pdpList m

variable {lib}

/-- What is stored in an entry is what the info describes, whatever was there except for the
APN. -/
theorem entry_setPdpInfo (info : PdpInfo) (pdp : PdpData) :
    (setPdpInfo lib info pdp).entry = info.entry lib pdp.apnBuf := by
  have hqos : (match info.qosEnc with
      | some qos => copyTo pdp.qosSubscribed qos
      | none => pdp.qosSubscribed).take (info.qosEnc.getD []).length = info.qosEnc.getD [] := by
    rcases info.qosEnc with _ | qos <;> simp [copyTo]
  have hcharg : (if (setPdpCharg info.pdpChargEnc pdp.pdpCharg).2
      then some (setPdpCharg info.pdpChargEnc pdp.pdpCharg).1 else none) =
      (info.pdpChargEnc.filter (2 ≤ ·.length)).map (·.take 2) := by
    rcases info.pdpChargEnc with _ | charg
    · rfl
    · by_cases hlen : 2 ≤ charg.length <;> simp [setPdpCharg, Option.filter, hlen]
  simp only [PdpData.entry, PdpInfo.entry, setPdpInfo, hqos, PdpEntry.mk.injEq, true_and]
  exact hcharg

/-- A round of the loop either skips the info or changes the list as a map. -/
theorem insertPdpInfo_eq (pdpList : List PdpData) (info : PdpInfo) :
    insertPdpInfo lib pdpList info =
      if info.Fits then
        upsert PdpData.contextId info.contextId
          (fun o ↦ setPdpInfo lib info (o.getD (sgsnSubscriberPdpDataAlloc info.contextId))) pdpList
      else pdpList := by
  rw [upsert_eq_findIdx, insertPdpInfo]
  by_cases hapn : info.apnEnc.length ≥ gsmApnLength - 1
  · have hfits : ¬ info.Fits := fun h ↦ h.1 hapn
    rw [if_pos hapn, if_neg hfits]
  · by_cases hqos : (info.qosEnc.getD []).length > 20
    · have hfits : ¬ info.Fits := fun h ↦ h.2 hqos
      rw [if_neg hapn, if_pos hqos, if_neg hfits]
    · have hfits : info.Fits := ⟨hapn, hqos⟩
      rw [if_neg hapn, if_neg hqos, if_pos hfits]
      rfl

theorem Describes.info {pdpList : List PdpData} {m : KeyedMap ℕ PdpEntry}
    (h : Describes pdpList m) (info : PdpInfo) :
    Describes (insertPdpInfo lib pdpList info) (describe lib m info) := by
  rw [insertPdpInfo_eq, describe]
  split
  · convert KeyedMap.Represents.set h (k := info.contextId) (f := fun o ↦
      setPdpInfo lib info (o.getD (sgsnSubscriberPdpDataAlloc info.contextId))) ?_ using 2
    · rw [entry_setPdpInfo, h.get]
      generalize pdpList.find? _ = old
      rcases old with _ | pdp
      · rfl
      · rfl
    · rintro (_ | pdp) hpdp
      · rfl
      · exact hpdp pdp rfl
  · exact h

theorem Describes.infos {pdpList : List PdpData} {m : KeyedMap ℕ PdpEntry}
    (h : Describes pdpList m) (infos : List PdpInfo) :
    Describes (infos.foldl (insertPdpInfo lib) pdpList) (infos.foldl (describe lib) m) := by
  induction infos generalizing pdpList m with
  | nil => exact h
  | cons info infos ih => exact ih (h.info info)

theorem Describes.message {sdata : SubscriberData} {m : KeyedMap ℕ PdpEntry}
    (h : Describes sdata.pdpList m) (msg : GsupMsg) :
    Describes (gprsSubscrGsupInsertData lib sdata msg).pdpList (describeAll lib m msg) := by
  have hcleared : Describes (if msg.clears then [] else sdata.pdpList)
      (if msg.clears then .empty else m) := by
    split
    · exact .nil
    · exact h
  exact hcleared.infos msg.pdpInfos

theorem Describes.messages {sdata : SubscriberData} {m : KeyedMap ℕ PdpEntry}
    (h : Describes sdata.pdpList m) (msgs : List GsupMsg) :
    Describes (msgs.foldl (gprsSubscrGsupInsertData lib) sdata).pdpList
      (msgs.foldl (describeAll lib) m) := by
  induction msgs generalizing sdata m with
  | nil => exact h
  | cons msg msgs ih => exact ih (h.message msg)

/-- Infos of other context ids leave an entry alone. -/
theorem mem_foldl_insertPdpInfo {infos : List PdpInfo} {pdpList : List PdpData} {pdp : PdpData}
    (hpdp : pdp ∈ pdpList)
    (hother : ∀ info ∈ infos, info.Fits → info.contextId ≠ pdp.contextId) :
    pdp ∈ infos.foldl (insertPdpInfo lib) pdpList := by
  induction infos generalizing pdpList with
  | nil => exact hpdp
  | cons info infos ih =>
    refine ih ?_ fun i hi ↦ hother i (List.mem_cons_of_mem _ hi)
    rw [insertPdpInfo_eq]
    split
    · next hfits =>
      exact mem_upsert_of_ne hpdp (hother info List.mem_cons_self hfits).symm
    · exact hpdp

end OsmoSgsn.Apn
