import OsmoSgsn.Gmm.Unchecked
import OsmoSgsn.Library.Word16

/-!
# DRX parameters

An MS says in two octets when it listens for pages. They come with an attach request or with a
routing area update request, are kept in the MM context as a word, and go out again with a page and
with the context when it is handed to another SGSN.

Two handlers and a parser read the octets, each in an order of its own: the attach handler takes the
first one as the high one, the parser of the attach request as the low one, and the routing area
update copies them as the processor keeps a word. What writes them takes the high octet first.
-/

namespace OsmoSgsn.Gmm

open Word16

variable (host : HostOrder) (dec : Decoders)

/-- `GSM48_IE_GMM_DRX_PARAM` -/
def gmmDrxParam : UInt8 := 0x27

/-- `mmctx->drx_parms` after `gsm48_rx_gmm_att_req`. -/
def drxAfterAttReq (served : MobileIdentity → Bool) (msg : Bytes) (drxParms : BitVec 16) :
    BitVec 16 :=
  match attReqParse dec msg served (.startAt 2) with
  | .ok parsed _ => parsed.drxPar
  | .error _ _ => drxParms

/-- `mmctx->drx_parms` after `gsm48_rx_gmm_ra_upd_req`, which is `served` if there is a context for
the request and it is not refused. -/
def drxAfterRaUpdReq (served : Bool) (msg : Bytes) (drxParms : BitVec 16) : BitVec 16 :=
  match gprsGmmParseRaUpdReq dec msg (.startAt 2) with
  | .ok req _ =>
    if served then
      match req.tlv gmmDrxParam with
      | some value => load host (octet msg value.start) (octet msg (value.start + 1))
      | none => drxParms
    else drxParms
  | .error _ _ => drxParms

/-- The DRX octets of `encode_gsm_mm_context` and `encode_umts_mm_context`. -/
def gtpDrx (drxParms : BitVec 16) : Bytes := store host (htons host drxParms)

/-- An attach request that is accepted, with its DRX octets. -/
structure AttReqCarries (served : MobileIdentity → Bool) (msg : Bytes) (b0 b1 : UInt8)
    (parms : BitVec 16) : Prop where
  accepted : ∃ parsed c, attReqParse dec msg served (.startAt 2) = .ok parsed c
  parsed : ∃ req c, gprsGmmParseAttReq dec msg (.startAt 2) = .ok req c ∧ req.drxParms = parms
  first : octet msg (4 + attNetworkCapLen msg) = b0
  second : octet msg (5 + attNetworkCapLen msg) = b1

/-- A routing area update request that is accepted, with its DRX octets. -/
structure RaUpdReqCarries (msg : Bytes) (b0 b1 : UInt8) : Prop where
  accepted : ∃ req c, gprsGmmParseRaUpdReq dec msg (.startAt 2) = .ok req c ∧
    ∃ value, req.tlv gmmDrxParam = some value ∧
      octet msg value.start = b0 ∧ octet msg (value.start + 1) = b1

/-- The octets mean the same to all who read them, and are sent on as they came. -/
structure SameDrx (bssgpDrx : BitVec 16 → Bytes) (b0 b1 : UInt8)
    (afterAttReq afterRaUpdReq parsed : BitVec 16) : Prop where
  requests : afterRaUpdReq = afterAttReq
  parser : parsed = afterAttReq
  paged : bssgpDrx afterAttReq = [b0, b1] ∧ bssgpDrx afterRaUpdReq = [b0, b1]
  handedOn : gtpDrx host afterAttReq = [b0, b1] ∧ gtpDrx host afterRaUpdReq = [b0, b1]

variable {host dec} {msg : Bytes} {b0 b1 : UInt8} {parms : BitVec 16}

/-! ## Who reads what -/

open EStateM Cursor in
theorem wp_attReqParse_drxPar (served : MobileIdentity → Bool) :
    wp (attReqParse dec msg served)
      (fun parsed _ ↦ parsed.drxPar = ofOctets (octet msg (4 + attNetworkCapLen msg))
        (octet msg (5 + attNetworkCapLen msg)))
      (fun _ _ ↦ True) (.startAt 2) := by
  unfold attReqParse
  simp only [wp_bind, wp_next, wp_here, wp_refuse, wp_skip, wp_slice, wp_orThrow, wp_pure]
  refine ⟨fun _ ↦ trivial, fun _ ↦ ⟨fun _ ↦ trivial, fun mi _ ↦ ⟨fun _ ↦ trivial, fun _ ↦
    ⟨fun _ ↦ trivial, fun _ ↦ ?_⟩⟩⟩⟩
  have hfirst : 4 + attNetworkCapLen msg = 2 + 1 + attNetworkCapLen msg + 1 := by omega
  have hsecond : 5 + attNetworkCapLen msg = 2 + 1 + attNetworkCapLen msg + 1 + 1 := by omega
  rw [hfirst, hsecond]
  rfl

/-- The attach handler takes the first octet as the high one. -/
theorem drxAfterAttReq_eq {served : MobileIdentity → Bool}
    (h : AttReqCarries dec served msg b0 b1 parms) (drxParms : BitVec 16) :
    drxAfterAttReq dec served msg drxParms = ofOctets b0 b1 := by
  obtain ⟨parsed, c, hparse⟩ := h.accepted
  rw [drxAfterAttReq, hparse, ← h.first, ← h.second]
  exact EStateM.wp_ok (wp_attReqParse_drxPar served) hparse

/-- The parser takes it as the low one. -/
theorem parms_eq {served : MobileIdentity → Bool}
    (h : AttReqCarries dec served msg b0 b1 parms) : parms = ofOctets b1 b0 := by
  obtain ⟨req, c, hparse, hparms⟩ := h.parsed
  obtain ⟨-, hreported, -⟩ := EStateM.wp_ok (wp_gprsGmmParseAttReq dec msg) hparse
  rw [← hparms, hreported.drxParms, h.first, h.second]
  rfl

/-- The update copies both. -/
theorem drxAfterRaUpdReq_eq (h : RaUpdReqCarries dec msg b0 b1) (drxParms : BitVec 16) :
    drxAfterRaUpdReq host dec true msg drxParms = load host b0 b1 := by
  obtain ⟨req, c, hparse, value, hvalue, hfirst, hsecond⟩ := h.accepted
  simp only [drxAfterRaUpdReq, hparse, hvalue, hfirst, hsecond, if_true]

/-! ## When they agree -/

/-- The DRX parameters mean the same everywhere exactly if their two octets are equal. Pages carry
the high octet first. -/
theorem sameDrx_iff (host : HostOrder) (dec : Decoders) (served : MobileIdentity → Bool)
    (bssgpDrx : BitVec 16 → Bytes) (attReq raUpdReq : Bytes) (b0 b1 : UInt8)
    (parms drxParms drxParms' : BitVec 16) (hpaging : ∀ v, bssgpDrx v = network v)
    (hattReq : AttReqCarries dec served attReq b0 b1 parms)
    (hraUpdReq : RaUpdReqCarries dec raUpdReq b0 b1) :
    SameDrx host bssgpDrx b0 b1 (drxAfterAttReq dec served attReq drxParms)
      (drxAfterRaUpdReq host dec true raUpdReq drxParms') parms ↔ b0 = b1 := by
  rw [drxAfterAttReq_eq hattReq, drxAfterRaUpdReq_eq hraUpdReq, parms_eq hattReq]
  constructor
  · intro h
    exact (ofOctets_inj.mp h.parser).2
  · rintro rfl
    have hload : load host b0 b0 = ofOctets b0 b0 := by cases host <;> rfl
    have hpaged : bssgpDrx (ofOctets b0 b0) = [b0, b0] := by rw [hpaging, network_ofOctets]
    have hhanded : gtpDrx host (ofOctets b0 b0) = [b0, b0] := by
      rw [gtpDrx, store_htons, network_ofOctets]
    exact ⟨hload, rfl, ⟨hpaged, hload ▸ hpaged⟩, ⟨hhanded, hload ▸ hhanded⟩⟩

/-- A library that reads any identity as an IMSI, and finds the DRX parameters in front. -/
def drxDecoders : Decoders where
  mobileIdentity _ := some (.imsi [])
  routingAreaId _ := ⟨[], 0, 0⟩
  tlvParse _ _ := (1, fun tag ↦ if tag = gmmDrxParam then some ⟨1, 2⟩ else none)
  errUnknownTlvType := -3

/-- An attach request with DRX parameters. -/
def drxAttReq (b0 b1 : UInt8) : Bytes :=
  [0x08, 0x01, 1, 0x80, 1, b0, b1, 5, 0x29, 0x26, 0x24, 0x10, 0x32] ++ List.replicate 6 0 ++
    [5, 0, 0, 0, 0, 0]

/-- A routing area update request with DRX parameters. -/
def drxRaUpdReq (b0 b1 : UInt8) : Bytes :=
  [0x08, 0x08, 0] ++ List.replicate 6 0 ++ [1, 0, 0x27, b0, b1]

theorem drxAttReq_carries (b0 b1 : UInt8) :
    AttReqCarries drxDecoders (fun _ ↦ true) (drxAttReq b0 b1) b0 b1 (ofOctets b1 b0) :=
  ⟨⟨_, _, rfl⟩, ⟨_, _, rfl, rfl⟩, rfl, rfl⟩

theorem drxRaUpdReq_carries (b0 b1 : UInt8) :
    RaUpdReqCarries drxDecoders (drxRaUpdReq b0 b1) b0 b1 := ⟨_, _, rfl, _, rfl, rfl, rfl⟩

theorem sameDrx_iff_example :
    SameDrx .little network 0x12 0x34
      (drxAfterAttReq drxDecoders (fun _ ↦ true) (drxAttReq 0x12 0x34) 0)
      (drxAfterRaUpdReq .little drxDecoders true (drxRaUpdReq 0x12 0x34) 0)
      (ofOctets 0x34 0x12) ↔ (0x12 : UInt8) = 0x34 :=
  sameDrx_iff .little drxDecoders (fun _ ↦ true) network _ _ 0x12 0x34 _ 0 0 (fun _ ↦ rfl)
    (drxAttReq_carries 0x12 0x34) (drxRaUpdReq_carries 0x12 0x34)

/-- On a processor that keeps the low octet first, the octets 0x12 0x34 of an update are sent on as
0x34 0x12, and stand for another word than those of an attach. -/
theorem not_sameDrx :
    drxAfterAttReq drxDecoders (fun _ ↦ true) (drxAttReq 0x12 0x34) 0 = 0x1234 ∧
      drxAfterRaUpdReq .little drxDecoders true (drxRaUpdReq 0x12 0x34) 0 = 0x3412 ∧
      gtpDrx .little (drxAfterRaUpdReq .little drxDecoders true (drxRaUpdReq 0x12 0x34) 0) =
        [0x34, 0x12] ∧
      ¬ SameDrx .little network 0x12 0x34
        (drxAfterAttReq drxDecoders (fun _ ↦ true) (drxAttReq 0x12 0x34) 0)
        (drxAfterRaUpdReq .little drxDecoders true (drxRaUpdReq 0x12 0x34) 0)
        (ofOctets 0x34 0x12) :=
  ⟨by decide, by decide, by decide, fun h ↦ absurd h.requests (by decide)⟩

end OsmoSgsn.Gmm
