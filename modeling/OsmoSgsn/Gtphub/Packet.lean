import OsmoSgsn.Basic

/-!
# GTP packets

What the hub reads from a datagram: the header of GTP version 0 or 1, and on the control plane the
information elements behind it. The receive buffer is static and longer than the datagram, so a
packet keeps the whole buffer and the number of octets that were received.

The elements are indexed by `gtpie_decaps` of libgtp, which is a parameter here. In the source the
index points into the buffer and an element is changed in place; here a packet holds the elements
by value, in their order, and changing one replaces it in the list.
-/

namespace OsmoSgsn.Gtphub

/-! ## Sides, planes and addresses -/

/-- `GTPH_SIDE_SGSN` and `GTPH_SIDE_GGSN`. -/
inductive Side
  | sgsn | ggsn
  deriving DecidableEq, Repr

/-- `other_side_idx`. -/
def Side.other : Side → Side
  | .sgsn => .ggsn
  | .ggsn => .sgsn

@[simp] theorem Side.other_other (s : Side) : s.other.other = s := by cases s <;> rfl

@[simp] theorem Side.other_ne (s : Side) : s.other ≠ s := by cases s <;> decide

/-- `GTPH_PLANE_CTRL` and `GTPH_PLANE_USER`. -/
inductive Plane
  | ctrl | user
  deriving DecidableEq, Repr

/-- `gtphub_plane_idx_default_port`. -/
def Plane.defaultPort : Plane → ℕ
  | .ctrl => 2123
  | .user => 2152

/-- The number of a plane, which is also the number of its GSN Address element. -/
def Plane.idx : Plane → ℕ
  | .ctrl => 0
  | .user => 1

/-- `struct gsn_addr`: the octets of an address. -/
abbrev GsnAddr := Bytes

/-- The size of the buffer of `struct gsn_addr`. -/
def gsnAddrSize : ℕ := 16

/-- `struct sgsn_sockaddr` of an IPv4 or IPv6 host. -/
structure Sockaddr where
  addr : GsnAddr
  port : ℕ
  deriving DecidableEq, Repr

/-! ## Information elements -/

/-- `union gtpie_member`: a type with a number of one or of four octets, or with octets. -/
inductive Ie
  | tv1 (t v : ℕ)
  | tv4 (t v : ℕ)
  | octets (t : ℕ) (v : Bytes)
  deriving DecidableEq, Repr

namespace Ie

/-- The type of an element. -/
def type : Ie → ℕ
  | tv1 t _ | tv4 t _ | octets t _ => t

/-- The number of an element of one octet. -/
def tv1V : Ie → ℕ
  | tv1 _ v => v
  | _ => 0

/-- The number of an element of four octets. -/
def tv4V : Ie → ℕ
  | tv4 _ v => v
  | _ => 0

/-- The octets of an element. -/
def tlvV : Ie → Bytes
  | octets _ v => v
  | _ => []

end Ie

/-- The types of elements that the hub looks at. -/
def gtpieCause : ℕ := 1
@[inherit_doc gtpieCause] def gtpieImsi : ℕ := 2
@[inherit_doc gtpieCause] def gtpieRecovery : ℕ := 14
@[inherit_doc gtpieCause] def gtpieTeiDi : ℕ := 16
@[inherit_doc gtpieCause] def gtpieTeiC : ℕ := 17
@[inherit_doc gtpieCause] def gtpieTeardown : ℕ := 19
@[inherit_doc gtpieCause] def gtpieNsapi : ℕ := 20
@[inherit_doc gtpieCause] def gtpieApn : ℕ := 131
@[inherit_doc gtpieCause] def gtpieGsnAddr : ℕ := 133

/-- The types of messages that the hub distinguishes. -/
def gtpEchoReq : ℕ := 1
@[inherit_doc gtpEchoReq] def gtpEchoRsp : ℕ := 2
@[inherit_doc gtpEchoReq] def gtpCreatePdpReq : ℕ := 16
@[inherit_doc gtpEchoReq] def gtpCreatePdpRsp : ℕ := 17
@[inherit_doc gtpEchoReq] def gtpUpdatePdpReq : ℕ := 18
@[inherit_doc gtpEchoReq] def gtpUpdatePdpRsp : ℕ := 19
@[inherit_doc gtpEchoReq] def gtpDeletePdpReq : ℕ := 20
@[inherit_doc gtpEchoReq] def gtpDeletePdpRsp : ℕ := 21

/-- `GTPCAUSE_ACC_REQ`. -/
def gtpcauseAccReq : ℕ := 128

/-- `gtpie_getie`: where the element of a type with a number of instances before it stands. -/
def gtpieGetie : List Ie → ℕ → ℕ → Option ℕ
  | [], _, _ => none
  | x :: ie, type, inst =>
    if x.type = type then
      match inst with
      | 0 => some 0
      | inst + 1 => (gtpieGetie ie type inst).map (· + 1)
    else (gtpieGetie ie type inst).map (· + 1)

/-- The element that `gtpie_getie` finds. -/
def gtpieFind (ie : List Ie) (type inst : ℕ) : Option Ie :=
  (gtpieGetie ie type inst).bind (ie[·]?)

/-- `gtpie_gettv1`. -/
def gtpieGettv1 (ie : List Ie) (type inst : ℕ) : Option ℕ := (gtpieFind ie type inst).map Ie.tv1V

/-- `gtpie_gettlv`, into a buffer of a size. -/
def gtpieGettlv (ie : List Ie) (type inst size : ℕ) : Option Bytes :=
  match gtpieFind ie type inst with
  | some x => if x.tlvV.length ≤ size then some x.tlvV else none
  | none => none

/-- `gtpie_gettv0`. -/
def gtpieGettv0 (ie : List Ie) (type inst size : ℕ) : Option Bytes :=
  (gtpieFind ie type inst).map (·.tlvV.take size)

/-! ## The header -/

/-- `enum gtp_rc`. -/
inductive GtpRc
  | unknown | tiny | pduC | pduU | tooshort | unsupportedVersion | invalidIe
  deriving DecidableEq, Repr

/-- The codes above zero. -/
def GtpRc.valid : GtpRc → Bool
  | .tiny | .pduC | .pduU => true
  | _ => false

/-- `struct gtp_packet_desc`. A tunnel is a pointer, see the module about the hub. -/
structure GtpPacketDesc where
  data : Bytes
  dataLen : ℕ
  headerLen : ℕ := 0
  version : ℕ := 0
  type : ℕ := 0
  seq : ℕ := 0
  headerTeiRx : ℕ := 0
  headerTei : ℕ := 0
  rc : GtpRc := .unknown
  plane : Plane
  side : Side
  tun : Option ℕ := none
  timestamp : ℕ
  ie : List Ie := []
  deriving DecidableEq, Repr

/-- `ntoh16` at an offset. -/
def be16 (data : Bytes) (i : ℕ) : ℕ := (octet data i).toNat * 2 ^ 8 + (octet data (i + 1)).toNat

/-- `ntoh32` at an offset. -/
def be32 (data : Bytes) (i : ℕ) : ℕ := be16 data i * 2 ^ 16 + be16 data (i + 2)

/-- `hton16` at an offset. -/
def put16 (data : Bytes) (i v : ℕ) : Bytes :=
  (data.set i (UInt8.ofNat (v / 2 ^ 8))).set (i + 1) (UInt8.ofNat v)

/-- `hton32` at an offset. -/
def put32 (data : Bytes) (i v : ℕ) : Bytes := put16 (put16 data i (v / 2 ^ 16)) (i + 2) v

/-- `GTP0_HEADER_SIZE`. -/
def gtp0HeaderSize : ℕ := 20

/-- `GTP1_HEADER_SIZE_SHORT`. -/
def gtp1HeaderSizeShort : ℕ := 8

/-- `GTP1_HEADER_SIZE_LONG`. -/
def gtp1HeaderSizeLong : ℕ := 12

/-- `validate_gtp0_header`. -/
def validateGtp0Header (p : GtpPacketDesc) : GtpPacketDesc :=
  if p.dataLen < gtp0HeaderSize then { p with rc := .tooshort }
  else
    let p := { p with
      type := (octet p.data 1).toNat, seq := be16 p.data 4, headerTeiRx := 0, headerTei := 0 }
    if p.dataLen = gtp0HeaderSize then { p with rc := .tiny, headerLen := gtp0HeaderSize }
    else if p.dataLen ≠ be16 p.data 2 + gtp0HeaderSize then { p with rc := .tooshort }
    else { p with rc := .pduC, headerLen := gtp0HeaderSize }

/-- `validate_gtp1_header`. The sequence number is read where the long header has it, also when the
datagram is as short as the short one. -/
def validateGtp1Header (p : GtpPacketDesc) : GtpPacketDesc :=
  if p.dataLen < gtp1HeaderSizeLong ∧ p.dataLen ≠ gtp1HeaderSizeShort then
    { p with rc := .tooshort }
  else
    let p := { p with
      type := (octet p.data 1).toNat, seq := be16 p.data 8
      headerTeiRx := be32 p.data 4, headerTei := be32 p.data 4 }
    if p.dataLen ≤ gtp1HeaderSizeLong then { p with rc := .tiny, headerLen := gtp1HeaderSizeShort }
    else if p.dataLen ≠ be16 p.data 2 + gtp1HeaderSizeShort then { p with rc := .tooshort }
    else { p with rc := .pduC, headerLen := gtp1HeaderSizeLong }

/-- `validate_gtp_header`. -/
def validateGtpHeader (p : GtpPacketDesc) : GtpPacketDesc :=
  if p.dataLen < 1 then { p with rc := .tooshort }
  else
    let p := { p with version := (octet p.data 0).toNat / 2 ^ 5 }
    if p.version = 0 then validateGtp0Header p
    else if p.version = 1 then validateGtp1Header p
    else { p with rc := .unsupportedVersion }

/-- What the hub calls and the repository does not hold: libgtp, the APN functions of libosmogsm,
and the address that `getaddrinfo` gives for a missing host. -/
structure Lib where
  /-- The elements in the octets behind the header, by version. -/
  gtpieDecaps : ℕ → Bytes → Option (List Ie)
  /-- `APN_MAXLEN`. -/
  apnMaxlen : ℕ
  osmoApnToStr : Bytes → Option Bytes
  /-- The name that is looked up for an IMSI and an APN, with two or with three digits of MNC. -/
  osmoApnQualifyFromImsi : Bytes → Bytes → Bool → Bytes
  loopback : GsnAddr

/-- `gtp_decode`. -/
def gtpDecode (lib : Lib) (data : Bytes) (dataLen : ℕ) (fromSide : Side) (fromPlane : Plane)
    (now : ℕ) : GtpPacketDesc :=
  let res := validateGtpHeader
    { data := data, dataLen := dataLen, plane := fromPlane, side := fromSide, timestamp := now }
  if !res.rc.valid then res
  else if fromPlane = .user then { res with rc := .pduU }
  else if res.rc ≠ .pduC then res
  else
    match lib.gtpieDecaps res.version ((data.take dataLen).drop res.headerLen) with
    | some ie => { res with ie := ie }
    | none => { res with rc := .invalidIe }

/-- The checks of the header leave alone what does not come from it. -/
theorem validateGtpHeader_fields (p : GtpPacketDesc) : (validateGtpHeader p).side = p.side ∧
    (validateGtpHeader p).plane = p.plane ∧ (validateGtpHeader p).timestamp = p.timestamp ∧
      (validateGtpHeader p).ie = p.ie ∧ (validateGtpHeader p).tun = p.tun := by
  unfold validateGtpHeader
  split
  · exact ⟨rfl, rfl, rfl, rfl, rfl⟩
  · simp only
    split
    · unfold validateGtp0Header
      simp only
      split_ifs <;> exact ⟨rfl, rfl, rfl, rfl, rfl⟩
    · split
      · unfold validateGtp1Header
        simp only
        split_ifs <;> exact ⟨rfl, rfl, rfl, rfl, rfl⟩
      · exact ⟨rfl, rfl, rfl, rfl, rfl⟩

theorem gtpDecode_fields (lib : Lib) (data : Bytes) (dataLen : ℕ) (s : Side) (plane : Plane)
    (now : ℕ) : (gtpDecode lib data dataLen s plane now).side = s ∧
      (gtpDecode lib data dataLen s plane now).plane = plane ∧
        (gtpDecode lib data dataLen s plane now).timestamp = now := by
  obtain ⟨hside, hplane, htime, -⟩ := validateGtpHeader_fields
    { data := data, dataLen := dataLen, plane := plane, side := s, timestamp := now }
  unfold gtpDecode
  simp only
  split
  · exact ⟨hside, hplane, htime⟩
  · split
    · exact ⟨hside, hplane, htime⟩
    · split
      · exact ⟨hside, hplane, htime⟩
      · split <;> exact ⟨hside, hplane, htime⟩

/-- On the user plane no elements are looked for. -/
theorem gtpDecode_ie_user (lib : Lib) (data : Bytes) (dataLen : ℕ) (s : Side) (now : ℕ) :
    (gtpDecode lib data dataLen s .user now).ie = [] := by
  obtain ⟨-, -, -, hie, -⟩ := validateGtpHeader_fields
    { data := data, dataLen := dataLen, plane := .user, side := s, timestamp := now }
  unfold gtpDecode
  simp only
  split <;> exact hie

namespace GtpPacketDesc

/-- `set_seq`, after its assertion. -/
def setSeq (p : GtpPacketDesc) (seq : ℕ) : GtpPacketDesc :=
  { p with data := put16 p.data 8 seq, seq := seq }

/-- `set_tei`, after its assertion. -/
def setTei (p : GtpPacketDesc) (tei : ℕ) : GtpPacketDesc :=
  { p with data := put32 p.data 4 tei, headerTei := tei }

/-- Replaces an element. -/
def setIe (p : GtpPacketDesc) (i : ℕ) (x : Ie) : GtpPacketDesc := { p with ie := p.ie.set i x }

end GtpPacketDesc

/-- `gsn_addr_get`. -/
def gsnAddrGet (p : GtpPacketDesc) (inst : ℕ) : Option GsnAddr :=
  if p.rc = .pduC then gtpieGettlv p.ie gtpieGsnAddr inst gsnAddrSize else none

/-- `gsn_addr_put`. Addresses of different sizes cannot replace each other. -/
def gsnAddrPut (addr : GsnAddr) (p : GtpPacketDesc) (inst : ℕ) : Option GtpPacketDesc :=
  if p.rc ≠ .pduC then none
  else
    match gtpieGetie p.ie gtpieGsnAddr inst, gtpieFind p.ie gtpieGsnAddr inst with
    | some i, some x =>
      if x.tlvV.length = addr.length then some (p.setIe i (.octets gtpieGsnAddr addr)) else none
    | _, _ => none

/-- `get_restart_count`. -/
def getRestartCount (p : GtpPacketDesc) : Option ℕ := gtpieGettv1 p.ie gtpieRecovery 0

/-- `imsi_digit_to_char`, where the filler gives the end of the string. -/
def imsiDigitToChar (nibble : ℕ) : Option UInt8 :=
  if nibble ≤ 9 then some (UInt8.ofNat (0x30 + nibble)) else if nibble = 0xf then some 0 else none

/-- `imsi_to_str`: the digits before the first filler. -/
def imsiToStr (imsi : Bytes) : Option Bytes :=
  ((imsi.flatMap fun b ↦ [b.toNat % 16, b.toNat / 16]).mapM imsiDigitToChar).map
    (·.takeWhile (· ≠ 0))

/-- `get_ie_imsi_str`: nothing without the element, and an error if it cannot be decoded. -/
def getIeImsiStr (ie : List Ie) (inst : ℕ) : Except Unit (Option Bytes) :=
  match gtpieGettv0 ie gtpieImsi inst 8 with
  | none => .ok none
  | some imsi =>
    match imsiToStr imsi with
    | some s => .ok (some s)
    | none => .error ()

/-- `get_ie_apn_str`. -/
def getIeApnStr (lib : Lib) (ie : List Ie) : Except Unit (Option Bytes) :=
  match gtpieGettlv ie gtpieApn 0 (lib.apnMaxlen + 1) with
  | none => .ok none
  | some apn =>
    if apn.length < 2 then .error ()
    else
      match lib.osmoApnToStr (apn.take lib.apnMaxlen) with
      | some s => .ok (some s)
      | none => .error ()

end OsmoSgsn.Gtphub
