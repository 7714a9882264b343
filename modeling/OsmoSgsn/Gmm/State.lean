import OsmoSgsn.Basic
import OsmoSgsn.Library.HashTable

/-!
# Mobility contexts and subscribers

The data of GPRS mobility management: one MM context for each mobile station, one subscriber record
for each identity that was asked for at the HLR, one connection for each UE that is reached over Iu
and one LLC management entity for each TLLI that is reached over Gb. These are heap objects of the
source and point at each other, so here they have an identifier each and the gateway maps
identifiers to objects; an identifier that maps to nothing is a pointer to an object that was freed.

Code that runs while an event is handled is a program over the state of the gateway that may fault.
The state survives a fault, so what was sent before it stays visible.
-/

namespace OsmoSgsn.Gmm

/-! ## Enumerations of the source -/

/-- `enum sgsn_ran_type`. -/
inductive SgsnRanType
  | geranGb | utranIu
  deriving DecidableEq, Repr

/-- `enum sgsn_auth_policy`. -/
inductive SgsnAuthPolicy
  | policyOpen | policyClosed | policyAclOnly | policyRemote
  deriving DecidableEq, Repr

/-- `enum sgsn_auth_state`. -/
inductive SgsnAuthState
  | unknown | authenticate | umtsResync | accepted | rejected
  deriving DecidableEq, Repr

/-- `enum osmo_sub_auth_type`: the kind of authentication that a context has been through. -/
inductive SubAuthType
  | none | gsm | umts
  deriving DecidableEq, Repr

/-- The states of the GMM FSM. -/
inductive GmmState
  | deregistered | commonProcInit | registeredNormal | registeredSuspended | deregisteredInit
  deriving DecidableEq, Repr

/-- The states of the attach FSM. `ST_RETRIEVE_AUTH` has no entry in its state table. -/
inductive AttachState
  | init | identity | auth | askVlr | iuSecurityCmd | accept | reject
  deriving DecidableEq, Repr

/-- The mobility management states on Gb. -/
inductive MmGbState
  | idle | ready | standby
  deriving DecidableEq, Repr

/-- The mobility management states on Iu. -/
inductive PmmState
  | detached | connected | idle
  deriving DecidableEq, Repr

/-- The kinds of mobile identity. -/
inductive MiType
  | none | imsi | imei | imeisv | tmsi
  deriving DecidableEq, Repr

/-- `enum gprs_t3350_mode`: what is sent again when T3350 expires. -/
inductive T3350Mode
  | none | att | rau | ptmsiReall
  deriving DecidableEq, Repr

/-- The values of `pending_req`. -/
inductive PendingReq
  | none | attachReq | serviceReq | raUpdReq
  deriving DecidableEq, Repr

/-! ## Identities and authentication vectors -/

/-- Decimal digits, the way identities are stored. -/
abbrev Digits := List (Fin 10)

-- Named, so that a digit literal is the same term in every module.
instance neZero_ten : NeZero (10 : ℕ) :=
  ⟨by decide⟩

/-- A mobile identity that was decoded. -/
inductive MobileIdentity
  | imsi (digits : Digits)
  | imei (digits : Digits)
  | imeisv (digits : Digits)
  | tmsi (tmsi : BitVec 32)
  deriving DecidableEq, Repr

/-- The kind of a decoded identity. -/
def MobileIdentity.type : MobileIdentity → MiType
  | .imsi _ => .imsi
  | .imei _ => .imei
  | .imeisv _ => .imeisv
  | .tmsi _ => .tmsi

/-- A routing area: the digits of its PLMN, the location and the routing area code. -/
structure RaId where
  plmn : Digits
  lac : ℕ
  rac : ℕ
  deriving DecidableEq, Repr

/-- An authentication vector: the expected responses and which of the two it has. -/
structure AuthVector where
  gsm : Bool
  umts : Bool
  sres : Bytes
  res : Bytes
  deriving DecidableEq, Repr

/-- `GSM_KEY_SEQ_INVAL`. -/
def gsmKeySeqInval : ℕ := 7

/-- `struct gsm_auth_tuple`. -/
structure GsmAuthTuple where
  useCount : ℕ
  keySeq : ℕ
  vec : AuthVector
  deriving DecidableEq, Repr

/-- A tuple of zeros with an invalid key sequence number. -/
def GsmAuthTuple.cleared : GsmAuthTuple := ⟨0, gsmKeySeqInval, ⟨false, false, [], []⟩⟩

/-! ## Objects -/

/-- A pointer to an MM context. -/
abbrev CtxId := ℕ

/-- A pointer to a subscriber record. -/
abbrev SubId := ℕ

/-- A pointer to the connection of a UE. -/
abbrev UeId := ℕ

/-- A pointer to an LLC management entity. -/
abbrev LlmeId := ℕ

/-- A PDP context, as far as mobility and session management look at it. -/
structure PdpCtx where
  nsapi : ℕ
  sapi : ℕ
  ti : ℕ
  /-- `PDP_STATE_CR_CONF`: the GGSN has confirmed it. -/
  confirmed : Bool
  /-- There is a GGSN. -/
  ggsn : Bool
  /-- There is a handle of the GTP library. -/
  lib : Bool
  uePdpActive : Bool
  deriving DecidableEq, Repr

/-- `struct sgsn_ggsn_lookup`: a DNS query for a GGSN. -/
structure GgsnLookup where
  nsapi : ℕ
  sapi : ℕ
  ti : ℕ
  deriving DecidableEq, Repr

/-- `struct sgsn_mm_ctx` with its FSM instances. A state of an instance is a field here: the
instances are made with the context and freed with it. -/
structure MmCtx where
  ranType : SgsnRanType
  imsi : Digits
  imei : Digits
  pTmsi : BitVec 32
  pTmsiOld : BitVec 32
  /-- History: the P-TMSIs that the mobile station was given or has come with. -/
  ptmsiHistory : List (BitVec 32)
  ra : RaId
  gmm : GmmState
  llme : Option LlmeId
  tlli : BitVec 32
  tlliNew : BitVec 32
  mmGb : MmGbState
  ueCtx : Option UeId
  newKey : Bool
  serviceType : ℕ
  pmm : PmmState
  /-- State of the attach FSM. -/
  att : AttachState
  /-- `gmm_att_req.attach_req`, the octets of the request under way. -/
  attachReq : Option Bytes
  idType : MiType
  authReattempt : ℕ
  authTriplet : GsmAuthTuple
  /-- History: the mobile station was authenticated with the tuple since it was taken. -/
  answered : Bool
  ueCipherMask : BitVec 8
  acRefNrUsed : ℕ
  msNetworkCapa : Bytes
  pdpList : List PdpCtx
  /-- `mm->timer` is pending. -/
  timerPending : Bool
  /-- `mm->T`, the number of the timer that was started last. -/
  timerNr : ℕ
  numTExp : ℕ
  t3350Mode : T3350Mode
  t3370IdType : MiType
  pendingReq : PendingReq
  authState : SgsnAuthState
  secCtx : SubAuthType
  ggsnLookup : Option GgsnLookup
  subscr : Option SubId
  deriving DecidableEq, Repr

/-- `struct gprs_subscr` with its `sgsn_data`. -/
structure Subscr where
  id : SubId
  useCount : ℤ
  keepInRam : Bool
  imsi : Digits
  authorized : Bool
  authInfoPending : Bool
  locationPending : Bool
  cancelled : Bool
  enablePurge : Bool
  /-- `sgsn_data->mm`. -/
  mm : Option CtxId
  authTriplets : List GsmAuthTuple
  authTripletsUpdated : Bool
  /-- `error_cause`, where `none` is `SGSN_ERROR_CAUSE_NONE`. -/
  errorCause : Option ℕ
  deriving DecidableEq, Repr

/-- `struct ranap_ue_conn_ctx`. -/
structure UeConn where
  rnc : ℕ
  ra : RaId
  integrityActive : Bool
  notification : Bool
  freeOnRelease : Bool
  /-- History: a Security Mode Command was handed to the RNC on this connection. -/
  secModeCmdSent : Bool
  deriving DecidableEq, Repr

/-- `struct gprs_llc_llme`, as far as it is looked up by a TLLI. -/
structure Llme where
  id : LlmeId
  tlli : BitVec 32
  oldTlli : BitVec 32
  deriving DecidableEq, Repr

/-- The way a message has come: over Gb with a TLLI, from a cell and through an LLC entity, or over
Iu on a connection. -/
inductive Radio
  | gb (tlli : BitVec 32) (cell : RaId) (llme : LlmeId)
  | iu (ue : UeId)
  deriving DecidableEq, Repr

/-- The radio access of a message. -/
def Radio.ranType : Radio → SgsnRanType
  | .gb .. => .geranGb
  | .iu _ => .utranIu

/-- The LLC entity of a message. -/
def Radio.llme : Radio → Option LlmeId
  | .gb _ _ llme => some llme
  | .iu _ => none

/-- The configuration that mobility management reads. -/
structure SgsnConfig where
  authPolicy : SgsnAuthPolicy
  requireAuthentication : Bool
  requireUpdateLocation : Bool
  imsiAcl : List Digits
  geaEncryptionMask : BitVec 8
  dynamicLookup : Bool
  deriving DecidableEq, Repr

/-! ## Observations -/

/-- The messages that mobility and session management send to a mobile station. -/
inductive Downlink
  | attachAccept | attachReject (cause : ℕ)
  | detachReq (cause : ℕ) | detachAck
  | idReq (type : MiType)
  | authCiphReq (keySeq : ℕ) | authCiphRej
  | raUpdAccept | raUpdRej (cause : ℕ)
  | serviceAccept | serviceRej (cause : ℕ)
  | gmmStatus (cause : ℕ) | smStatus
  | actPdpAcc | actPdpRej | deactPdpReq | deactPdpAcc
  deriving DecidableEq, Repr

/-- The requests that are sent to the HLR. -/
inductive GsupRequest
  | sendAuthInfo (auts : Option Bytes) | updateLocation | purgeMs
  deriving DecidableEq, Repr

/-- What a run shows. An observation about a context has the context as it is at that moment. -/
inductive Obs
  /-- A message is handed to the lower layers, for a context or in answer to a message. -/
  | sent (mm : Option MmCtx) (msg : Downlink)
  /-- A Security Mode Command is handed to the RNC. -/
  | secModeCmd (mm : MmCtx) (ue : UeId)
  /-- A request is handed to the GSUP client. -/
  | gsup (imsi : Digits) (req : GsupRequest)
  /-- The GMM FSM enters `ST_GMM_REGISTERED_NORMAL` from a state in which it was not registered. -/
  | registered (mm : MmCtx)
  /-- The attach FSM enters `ST_ACCEPT`; the subscriber record is that of the context. -/
  | attachAccepted (mm : MmCtx) (subscr : Option Subscr)
  /-- `sgsn_create_pdp_ctx` is called. -/
  | createPdp (mm : MmCtx)
  /-- An action of the GMM FSM asks for a change from one state to another. -/
  | gmmChange (st next : GmmState)
  /-- An action of the attach FSM asks for a change from one state to another. -/
  | attachChange (st next : AttachState)
  deriving DecidableEq, Repr

/-! ## The gateway -/

/-- What the layers below answer while an event is handled, in the order in which they are asked.
Where a list ends, a hand-over succeeds and the random number is zero. -/
structure Env where
  /-- Whether a message to a mobile station or to an RNC is accepted. -/
  tx : List Bool := []
  /-- Whether the GSUP client accepts a request. -/
  gsup : List Bool := []
  /-- What `osmo_get_rand_id` returns; `none` is an error. -/
  rand : List (Option (BitVec 32)) := []
  deriving DecidableEq, Repr

/-- The functions that choose a bucket: of `osmo_jhash` and of the hash tables. -/
structure Hashing where
  imsi : Digits → ℕ
  ptmsi : BitVec 32 → ℕ
  tlli : BitVec 32 → ℕ

/-- The hash tables that are indices into `mm_list`. -/
structure MmTables where
  byImsi : HashTable Digits CtxId
  byPtmsi : HashTable (BitVec 32) CtxId
  byPtmsiOld : HashTable (BitVec 32) CtxId
  byTlli : HashTable (BitVec 32) CtxId
  byTlliNew : HashTable (BitVec 32) CtxId
  deriving DecidableEq, Repr

/-- The state of the gateway. -/
structure Sgsn where
  cfg : SgsnConfig
  hash : Hashing
  /-- `mm_list`. -/
  mmList : List CtxId
  ctxs : CtxId → Option MmCtx
  nextCtx : CtxId
  tables : MmTables
  /-- `gprs_llc_llmes`, the latest first. -/
  llmes : List Llme
  nextLlme : LlmeId
  /-- `gprs_subscribers`. -/
  subscrs : List Subscr
  nextSubscr : SubId
  ues : UeId → Option UeConn
  /-- `ue_conn_ctx_list`. -/
  ueList : List UeId
  env : Env
  /-- What the event under way has shown, the latest first. -/
  obs : List Obs

/-- What ends the process. -/
inductive Fault
  /-- A freed MM context or an FSM instance of it is used. -/
  | useAfterFree
  /-- A freed subscriber record is used. -/
  | staleSubscr
  /-- A freed UE connection or LLC entity is used. -/
  | staleObject
  /-- An MM context that a subscriber record does not have is used. -/
  | noContext
  | nullPointer
  | assertion
  /-- The calls of the authorization and the attach code into each other nest too deep. -/
  | callDepth
  deriving DecidableEq, Repr

/-- Code that runs while an event is handled. -/
abbrev SgsnM := EStateM Fault Sgsn

/-- `sgsn_mm_ctx_hash_remove`. -/
def MmTables.hashRemove (t : MmTables) (id : CtxId) : MmTables where
  byImsi := t.byImsi.del id
  byPtmsi := t.byPtmsi.del id
  byPtmsiOld := t.byPtmsiOld.del id
  byTlli := t.byTlli.del id
  byTlliNew := t.byTlliNew.del id

namespace Sgsn

/-- Replace a context. -/
def setCtx (s : Sgsn) (id : CtxId) (mm : MmCtx) : Sgsn :=
  { s with ctxs := Function.update s.ctxs id (some mm) }

/-- `sgsn_mm_ctx_unlink`: take a context out of the hash tables and out of the list. -/
def unlinkCtx (s : Sgsn) (id : CtxId) : Sgsn :=
  { s with mmList := s.mmList.erase id, tables := s.tables.hashRemove id }

/-- Free a context. -/
def freeCtx (s : Sgsn) (id : CtxId) : Sgsn :=
  { s with ctxs := Function.update s.ctxs id none }

/-- The record that a pointer points to. -/
def subscr? (s : Sgsn) (id : SubId) : Option Subscr := s.subscrs.find? (·.id = id)

/-- Write to the record that a pointer points to. -/
def modSubscr (s : Sgsn) (id : SubId) (f : Subscr → Subscr) : Sgsn :=
  { s with subscrs := s.subscrs.map fun x ↦ if x.id = id then f x else x }

/-- Free a record that has no reference left. -/
def dropSubscr (s : Sgsn) (id : SubId) : Sgsn :=
  { s with subscrs :=
      (s.subscrs.filter fun x ↦ ¬ (x.id = id ∧ x.useCount ≤ 0 ∧ x.keepInRam = false)) }

/-- Add a record. -/
def addSubscr (s : Sgsn) (x : Subscr) : Sgsn :=
  { s with subscrs := s.subscrs ++ [x], nextSubscr := s.nextSubscr + 1 }

/-- The first record with an identity; none has the empty one. -/
def subscrByImsi? (s : Sgsn) (imsi : Digits) : Option Subscr :=
  if imsi = [] then none else s.subscrs.find? (·.imsi = imsi)

/-- Replace a connection. -/
def setUe (s : Sgsn) (id : UeId) (ue : UeConn) : Sgsn :=
  { s with ues := Function.update s.ues id (some ue) }

/-- Take a connection out of the list and free it. -/
def freeUe (s : Sgsn) (id : UeId) : Sgsn :=
  { s with ues := Function.update s.ues id none, ueList := s.ueList.erase id }

/-- The LLC entity that a pointer points to. -/
def llme? (s : Sgsn) (id : LlmeId) : Option Llme := s.llmes.find? (·.id = id)

/-- Add an observation. -/
def observe (s : Sgsn) (o : Obs) : Sgsn := { s with obs := o :: s.obs }

end Sgsn

/-! ## Access to objects -/

/-- Read an MM context. -/
def getMm (id : CtxId) : SgsnM MmCtx := do
  match (← get).ctxs id with
  | some mm => pure mm
  | none => throw .useAfterFree

/-- Write fields of an MM context. -/
def modMm (id : CtxId) (f : MmCtx → MmCtx) : SgsnM Unit := do
  let mm ← getMm id
  modify (·.setCtx id (f mm))

/-- Read a subscriber record. -/
def getSubscr (id : SubId) : SgsnM Subscr := do
  match (← get).subscr? id with
  | some subscr => pure subscr
  | none => throw .staleSubscr

/-- Write fields of a subscriber record. -/
def modSubscr (id : SubId) (f : Subscr → Subscr) : SgsnM Unit := do
  let _ ← getSubscr id
  modify (·.modSubscr id f)

/-- Read the connection of a UE. -/
def getUe (id : UeId) : SgsnM UeConn := do
  match (← get).ues id with
  | some ue => pure ue
  | none => throw .staleObject

/-- Read an LLC entity. -/
def getLlme (id : LlmeId) : SgsnM Llme := do
  match (← get).llme? id with
  | some llme => pure llme
  | none => throw .staleObject

/-- Show something. -/
def observe (o : Obs) : SgsnM Unit := modify (·.observe o)

/-- What the lower layers answer to a message. -/
def txAnswer : SgsnM Bool := do
  let s ← get
  match s.env.tx with
  | [] => pure true
  | b :: bs =>
    set { s with env := { s.env with tx := bs } }
    pure b

/-- What the GSUP client answers to a request. -/
def gsupAnswer : SgsnM Bool := do
  let s ← get
  match s.env.gsup with
  | [] => pure true
  | b :: bs =>
    set { s with env := { s.env with gsup := bs } }
    pure b

/-- `osmo_get_rand_id`. -/
def osmoGetRandId : SgsnM (Option (BitVec 32)) := do
  let s ← get
  match s.env.rand with
  | [] => pure (some 0)
  | r :: rs =>
    set { s with env := { s.env with rand := rs } }
    pure r

end OsmoSgsn.Gmm
