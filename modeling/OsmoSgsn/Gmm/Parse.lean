import OsmoSgsn.Gmm.State
import OsmoSgsn.Library.Cursor

/-!
# The parsers that check lengths

`gprs_gmm_parse_att_req` and `gprs_gmm_parse_ra_upd_req` go through a message once. Each field of
variable length comes with an octet that says how long it is, and is accepted only if the message
has that many octets and a constant number more, which is what the fields behind need at the least.
The octets of these fields are then read without another check.

The account of the cursor says what was read. Where a parser accepts a message, its fields and the
range that `tlv_parse` is given follow one another from the header to the end.
-/

namespace OsmoSgsn.Gmm

/-! ## Parsers of parts -/

/-- The causes with which the parsers refuse a message. -/
inductive GmmCause
  | invMandInfo | condIeErr | protoErrUnspec
  deriving DecidableEq, Repr

/-- The number of a cause. -/
def GmmCause.code : GmmCause → ℕ
  | .invMandInfo => 96
  | .condIeErr => 100
  | .protoErrUnspec => 111

theorem GmmCause.code_ne_zero (cause : GmmCause) : cause.code ≠ 0 := by
  cases cause <;> decide

/-- The tables that tell `tlv_parse` which elements there are. -/
inductive TlvDef
  | gmm | gmmAtt | gmmRau | smAtt
  deriving DecidableEq, Repr

/-- `struct tlv_parsed`: where the value of an element is. -/
abbrev TlvParsed := UInt8 → Option Span

/-- The functions of the libraries that get a range of a message. -/
structure Decoders where
  /-- `osmo_mobile_identity_decode`. -/
  mobileIdentity : Bytes → Option MobileIdentity
  /-- `osmo_routing_area_id_decode`. -/
  routingAreaId : Bytes → RaId
  /-- `tlv_parse`: what it returns, and where the values are in the range. -/
  tlvParse : TlvDef → Bytes → ℤ × TlvParsed
  /-- `OSMO_TLVP_ERR_UNKNOWN_TLV_TYPE`. -/
  errUnknownTlvType : ℤ

/-- `osmo_load16le`. -/
def load16le (a b : UInt8) : BitVec 16 := b.toBitVec ++ a.toBitVec

/-- Code that parses a message. -/
abbrev ParseM := EStateM GmmCause Cursor

variable (dec : Decoders) (msg : Bytes)

/-- The length of a field and where its value is, if the message has `rest` octets behind it. -/
def lengthValue (rest : ℕ) : ParseM Span := do
  let len ← Cursor.next msg
  let pos ← Cursor.here
  Cursor.refuse (msg.length < len.toNat + rest + pos) .protoErrUnspec
  pure ⟨pos, len.toNat⟩

/-- Call `tlv_parse` for what is behind the cursor, if there is anything. Some errors are
ignored. -/
def tlvRest (table : TlvDef) (ignored : List ℤ) : ParseM TlvParsed := do
  let pos ← Cursor.here
  if msg.length = pos then pure fun _ ↦ none
  else
    let rest ← Cursor.hand msg ⟨pos, msg.length - pos⟩
    let (ret, tlv) := dec.tlvParse table rest
    Cursor.refuse (ret < 0 ∧ ret ∉ ignored) .condIeErr
    pure fun tag ↦ (tlv tag).map fun value ↦ ⟨pos + value.start, value.len⟩

/-! ## The two requests -/

/-- `struct gprs_gmm_att_req`. -/
structure GprsGmmAttReq where
  skipInd : UInt8
  attachType : UInt8
  followUpReq : Bool
  cksq : UInt8
  drxParms : BitVec 16
  mi : MobileIdentity
  oldRai : RaId
  msNetworkCap : Span
  msRadioCap : Span
  tlv : TlvParsed

/-- `gprs_gmm_parse_att_req`. -/
def gprsGmmParseAttReq : ParseM GprsGmmAttReq := do
  Cursor.refuse (msg.length < 25) .protoErrUnspec
  let protoDiscr ← Cursor.octetAt msg 0
  let msNetworkCap ← lengthValue msg 21
  Cursor.refuse (msNetworkCap.len = 0) .invMandInfo
  Cursor.skip msNetworkCap.len
  let attachType ← Cursor.next msg
  let drxLow ← Cursor.next msg
  let drxHigh ← Cursor.next msg
  let miSpan ← lengthValue msg 12
  let miOctets ← Cursor.slice msg miSpan
  let mi ← Cursor.orThrow (dec.mobileIdentity miOctets) .protoErrUnspec
  Cursor.skip miSpan.len
  let raiOctets ← Cursor.slice msg ⟨← Cursor.here, 6⟩
  Cursor.skip 6
  let msRadioCap ← lengthValue msg 0
  Cursor.refuse (msRadioCap.len < 4) .invMandInfo
  Cursor.skip msRadioCap.len
  let tlv ← tlvRest dec msg .gmmAtt [dec.errUnknownTlvType]
  pure {
    skipInd := protoDiscr >>> 4
    attachType := attachType &&& 0x07
    followUpReq := attachType &&& 0x08 ≠ 0
    cksq := attachType >>> 4
    drxParms := load16le drxLow drxHigh
    mi := mi
    oldRai := dec.routingAreaId raiOctets
    msNetworkCap := msNetworkCap
    msRadioCap := msRadioCap
    tlv := tlv }

/-- `struct gprs_gmm_ra_upd_req`. -/
structure GprsGmmRaUpdReq where
  skipInd : UInt8
  updateType : UInt8
  followUpReq : Bool
  cksq : UInt8
  oldRai : RaId
  msRadioCap : Span
  tlv : TlvParsed

/-- `gprs_gmm_parse_ra_upd_req`. -/
def gprsGmmParseRaUpdReq : ParseM GprsGmmRaUpdReq := do
  Cursor.refuse (msg.length < 14) .protoErrUnspec
  let protoDiscr ← Cursor.octetAt msg 0
  let updateType ← Cursor.next msg
  let raiOctets ← Cursor.slice msg ⟨← Cursor.here, 6⟩
  Cursor.skip 6
  let msRadioCap ← lengthValue msg 0
  Cursor.skip msRadioCap.len
  let tlv ← tlvRest dec msg .gmmRau []
  pure {
    skipInd := protoDiscr >>> 4
    updateType := updateType &&& 0x07
    followUpReq := updateType &&& 0x08 ≠ 0
    cksq := updateType >>> 4
    oldRai := dec.routingAreaId raiOctets
    msRadioCap := msRadioCap
    tlv := tlv }

/-! ## What each part does -/

section Rules

open EStateM Cursor

variable {dec : Decoders} {msg : Bytes} {c : Cursor} {n p rest : ℕ} {β : Type}
  {Q : β → Cursor → Prop}

/-- Behind the octet with the length there is room for the value and for what was asked for. -/
theorem stays_lengthValue {k : Span → ParseM β} {q : ℕ} (hc : Stays msg.length p [] c)
    (hp : p < msg.length) (hq : p + 1 = q)
    (hk : ∀ c', Stays msg.length q [] c' → q + (octet msg p).toNat + rest ≤ msg.length →
      wp (k ⟨q, (octet msg p).toNat⟩) Q (fun _ c ↦ c.Safe msg.length) c') :
    wp (lengthValue msg rest >>= k) Q (fun _ c ↦ c.Safe msg.length) c := by
  subst hq
  unfold lengthValue
  simp only [bind_assoc, pure_bind]
  refine hc.next hp fun c' hc' ↦ hc'.here (hc'.refuse fun hroom ↦ hk c' hc' ?_)
  have hroom' : (octet msg p).toNat + rest + (p + 1) ≤ msg.length := Nat.not_lt.1 hroom
  omega

/-- The elements of the rest of a message, from a position on. -/
def restElements (dec : Decoders) (msg : Bytes) (table : TlvDef) (p : ℕ) : TlvParsed :=
  if msg.length = p then fun _ ↦ none
  else fun tag ↦ ((dec.tlvParse table (msg.drop p)).2 tag).map fun value ↦
    ⟨p + value.start, value.len⟩

/-- A rest is all that is behind its start. -/
theorem take_rest (msg : Bytes) (p : ℕ) :
    (msg.drop p).take ((msg.length : ℤ) - p).toNat = msg.drop p := by
  have hlen : ((msg.length : ℤ) - p).toNat = (msg.drop p).length := by
    rw [List.length_drop]
    omega
  rw [hlen, List.take_length]

theorem span_rest {n p : ℕ} (hp : p ≤ n) :
    (0 : ℤ) ≤ n - p ∧ (⟨p, n - p⟩ : Handed).span = ⟨p, n - p⟩ ∧ (⟨p, n - p⟩ : Span).stop = n := by
  refine ⟨by omega, ?_, Nat.add_sub_of_le hp⟩
  have hlen : ((n : ℤ) - p).toNat = n - p := by omega
  rw [Handed.span, hlen]

theorem rest_inside {n p : ℕ} (hp : p ≤ n) :
    (0 : ℤ) ≤ n - p ∧ (⟨p, n - p⟩ : Handed).span.Inside n := by
  obtain ⟨hlen, hspan, hstop⟩ := span_rest hp
  rw [hspan]
  exact ⟨hlen, Span.inside_of_stop_le hstop.le⟩

/-- The rest is handed on as a whole, and nothing is handed on if there is none. -/
theorem stays_tlvRest {k : TlvParsed → ParseM β} {table : TlvDef} {ignored : List ℤ}
    (hc : Stays msg.length p [] c) (hp : p ≤ msg.length)
    (hk : ∀ c', c'.Safe msg.length → Span.Tiles p (c'.handed.map (·.span)) msg.length →
      wp (k (restElements dec msg table p)) Q (fun _ c ↦ c.Safe msg.length) c') :
    wp (tlvRest dec msg table ignored >>= k) Q (fun _ c ↦ c.Safe msg.length) c := by
  unfold tlvRest
  simp only [bind_assoc]
  refine hc.here ?_
  by_cases hend : msg.length = p
  · -- nothing behind the cursor
    rw [if_pos hend, pure_bind]
    rw [restElements, if_pos hend] at hk
    refine hk c hc.safe ?_
    rw [hc.handed]
    exact hend.symm
  · obtain ⟨-, hspan, hstop⟩ := span_rest hp
    rw [if_neg hend, bind_assoc]
    refine hc.hand (rest_inside hp) fun c' hc' ↦ ?_
    rw [take_rest]
    simp only [bind_assoc, pure_bind]
    refine hc'.refuse fun _ ↦ ?_
    rw [restElements, if_neg hend] at hk
    refine hk c' hc'.safe ?_
    rw [hc'.handed, List.map_singleton, hspan]
    exact ⟨rfl, hstop⟩

end Rules

/-! ## What is right -/

/-- What a parser returns: zero, or the cause. -/
def retCode {ρ : Type} : EStateM.Result GmmCause Cursor ρ → ℕ
  | .ok _ _ => 0
  | .error cause _ => cause.code

/-- A parser is safe and complete for a message. The fields are where the octets of the message say
that they are, from the header on. -/
structure ParsesWholly {ρ : Type} (msg : Bytes) (parse : ParseM ρ) (fields : List Span)
    (Reported : ρ → Prop) : Prop where
  /-- Only the message is read, whether it is accepted or not. -/
  safe : EStateM.wp parse (fun _ c ↦ c.Safe msg.length) (fun _ c ↦ c.Safe msg.length) (.startAt 2)
  reported : ∀ req c, parse (.startAt 2) = .ok req c → Reported req
  adjacent : ∀ req c, parse (.startAt 2) = .ok req c →
    Span.Tiles 0 (fields ++ c.handed.map (·.span)) msg.length
  disjoint : ∀ req c, parse (.startAt 2) = .ok req c →
    (fields ++ c.handed.map (·.span)).Pairwise fun s t ↦ ∀ i, ¬ (s.Has i ∧ t.Has i)
  cover : ∀ req c, parse (.startAt 2) = .ok req c →
    ∀ i, (∃ s ∈ fields ++ c.handed.map (·.span), s.Has i) ↔ i < msg.length
  refuses : (∃ s ∈ fields, msg.length < s.stop) → retCode (parse (.startAt 2)) ≠ 0

theorem parsesWholly_of_wp {ρ : Type} {msg : Bytes} {parse : ParseM ρ} {fields : List Span}
    {Reported : ρ → Prop}
    (h : EStateM.wp parse
      (fun req c ↦ c.Safe msg.length ∧ Reported req ∧
        Span.Tiles 0 (fields ++ c.handed.map (·.span)) msg.length)
      (fun _ c ↦ c.Safe msg.length) (.startAt 2)) :
    ParsesWholly msg parse fields Reported where
  safe := EStateM.wp_mono h (fun _ _ h ↦ h.1) (fun _ _ h ↦ h)
  reported req c hc := (EStateM.wp_ok h hc).2.1
  adjacent req c hc := (EStateM.wp_ok h hc).2.2
  disjoint req c hc := (EStateM.wp_ok h hc).2.2.pairwise
  cover req c hc i := by
    rw [(EStateM.wp_ok h hc).2.2.exists_has_iff]
    simp
  refuses := by
    rintro ⟨s, hs, hpast⟩
    cases hparse : parse (.startAt 2) with
    | ok req c =>
      have htiles := (EStateM.wp_ok h hparse).2.2
      exact absurd (htiles.stop_le (List.mem_append_left _ hs)) (Nat.not_le.2 hpast)
    | error cause c => exact cause.code_ne_zero

/-! ## Attach request -/

/-- Lengths of the network capability, of the identity and of the radio capability. -/
def attNetworkCapLen (msg : Bytes) : ℕ := (octet msg 2).toNat

def attMiLen (msg : Bytes) : ℕ := (octet msg (6 + attNetworkCapLen msg)).toNat

def attRadioCapLen (msg : Bytes) : ℕ :=
  (octet msg (13 + attNetworkCapLen msg + attMiLen msg)).toNat

/-- The header and the mandatory fields of an attach request. -/
def attReqFields (msg : Bytes) : List Span :=
  let nc := attNetworkCapLen msg
  let mi := attMiLen msg
  [⟨0, 2⟩, ⟨2, 1 + nc⟩, ⟨3 + nc, 1⟩, ⟨4 + nc, 2⟩, ⟨6 + nc, 1 + mi⟩, ⟨7 + nc + mi, 6⟩,
    ⟨13 + nc + mi, 1 + attRadioCapLen msg⟩]

/-- What is reported of an attach request is what is in these fields and in the rest. -/
structure AttReqReported (dec : Decoders) (msg : Bytes) (req : GprsGmmAttReq) : Prop where
  skipInd : req.skipInd = octet msg 0 >>> 4
  msNetworkCap : req.msNetworkCap = ⟨3, attNetworkCapLen msg⟩
  attachType : req.attachType = octet msg (3 + attNetworkCapLen msg) &&& 0x07
  followUpReq : req.followUpReq = decide (octet msg (3 + attNetworkCapLen msg) &&& 0x08 ≠ 0)
  cksq : req.cksq = octet msg (3 + attNetworkCapLen msg) >>> 4
  drxParms : req.drxParms =
    load16le (octet msg (4 + attNetworkCapLen msg)) (octet msg (5 + attNetworkCapLen msg))
  mi : dec.mobileIdentity ((msg.drop (7 + attNetworkCapLen msg)).take (attMiLen msg)) = some req.mi
  oldRai : req.oldRai =
    dec.routingAreaId ((msg.drop (7 + attNetworkCapLen msg + attMiLen msg)).take 6)
  msRadioCap : req.msRadioCap = ⟨14 + attNetworkCapLen msg + attMiLen msg, attRadioCapLen msg⟩
  tlv : req.tlv = restElements dec msg .gmmAtt
    (14 + attNetworkCapLen msg + attMiLen msg + attRadioCapLen msg)

/-- The fields follow one another, up to the end of the radio capability. -/
theorem tiles_attReqFields (msg : Bytes) :
    Span.Tiles 0 (attReqFields msg)
      (14 + attNetworkCapLen msg + attMiLen msg + attRadioCapLen msg) := by
  simp only [attReqFields, Span.Tiles, Span.stop, true_and]
  omega

open EStateM Cursor in
theorem wp_gprsGmmParseAttReq (dec : Decoders) (msg : Bytes) :
    wp (gprsGmmParseAttReq dec msg)
      (fun req c ↦ c.Safe msg.length ∧ AttReqReported dec msg req ∧
        Span.Tiles 0 (attReqFields msg ++ c.handed.map (·.span)) msg.length)
      (fun _ c ↦ c.Safe msg.length) (.startAt 2) := by
  unfold gprsGmmParseAttReq
  refine stays_startAt.refuse fun hmin ↦ ?_
  refine stays_startAt.octetAt (by omega) fun c hc ↦ ?_
  refine stays_lengthValue (q := 3) hc (by omega) rfl fun c hc hroom ↦ ?_
  change 3 + attNetworkCapLen msg + 21 ≤ msg.length at hroom
  refine hc.refuse fun _ ↦ hc.skip fun c hc ↦ ?_
  change Stays msg.length (3 + attNetworkCapLen msg) [] c at hc
  refine hc.next (by omega) fun c hc ↦ ?_
  refine (hc.cast (q := 4 + attNetworkCapLen msg) (by omega)).next (by omega) fun c hc ↦ ?_
  refine (hc.cast (q := 5 + attNetworkCapLen msg) (by omega)).next (by omega) fun c hc ↦ ?_
  refine stays_lengthValue (q := 7 + attNetworkCapLen msg)
    (hc.cast (q := 6 + attNetworkCapLen msg) (by omega)) (by omega) (by omega) fun c hc hroom ↦ ?_
  change 7 + attNetworkCapLen msg + attMiLen msg + 12 ≤ msg.length at hroom
  refine hc.slice (Span.inside_of_stop_le (le_trans (Nat.le_add_right _ _) hroom)) fun c hc ↦ ?_
  refine hc.orThrow fun mi hmi ↦ hc.skip fun c hc ↦ ?_
  change Stays msg.length (7 + attNetworkCapLen msg + attMiLen msg) [] c at hc
  refine hc.here (hc.slice (Span.inside_of_stop_le ?_) fun c hc ↦ hc.skip fun c hc ↦ ?_)
  · change 7 + attNetworkCapLen msg + attMiLen msg + 6 ≤ msg.length
    omega
  refine stays_lengthValue (q := 14 + attNetworkCapLen msg + attMiLen msg)
    (hc.cast (q := 13 + attNetworkCapLen msg + attMiLen msg) (by omega)) (by omega) (by omega)
    fun c hc hroom ↦ ?_
  change 14 + attNetworkCapLen msg + attMiLen msg + attRadioCapLen msg ≤ msg.length at hroom
  refine hc.refuse fun _ ↦ hc.skip fun c hc ↦ ?_
  refine stays_tlvRest hc hroom fun c hsafe htiles ↦ ?_
  exact ⟨hsafe, ⟨rfl, rfl, rfl, rfl, rfl, rfl, hmi, rfl, rfl, rfl⟩,
    (tiles_attReqFields msg).append htiles⟩

/-! ## Routing area update request -/

/-- Length of the radio capability. -/
def raUpdRadioCapLen (msg : Bytes) : ℕ := (octet msg 9).toNat

/-- The header and the mandatory fields of a routing area update request. -/
def raUpdReqFields (msg : Bytes) : List Span :=
  [⟨0, 2⟩, ⟨2, 1⟩, ⟨3, 6⟩, ⟨9, 1 + raUpdRadioCapLen msg⟩]

/-- What is reported of a routing area update request is what is in these fields and in the rest. -/
structure RaUpdReqReported (dec : Decoders) (msg : Bytes) (req : GprsGmmRaUpdReq) : Prop where
  skipInd : req.skipInd = octet msg 0 >>> 4
  updateType : req.updateType = octet msg 2 &&& 0x07
  followUpReq : req.followUpReq = decide (octet msg 2 &&& 0x08 ≠ 0)
  cksq : req.cksq = octet msg 2 >>> 4
  oldRai : req.oldRai = dec.routingAreaId ((msg.drop 3).take 6)
  msRadioCap : req.msRadioCap = ⟨10, raUpdRadioCapLen msg⟩
  tlv : req.tlv = restElements dec msg .gmmRau (10 + raUpdRadioCapLen msg)

theorem tiles_raUpdReqFields (msg : Bytes) :
    Span.Tiles 0 (raUpdReqFields msg) (10 + raUpdRadioCapLen msg) := by
  simp only [raUpdReqFields, Span.Tiles, Span.stop, true_and]
  omega

open EStateM Cursor in
theorem wp_gprsGmmParseRaUpdReq (dec : Decoders) (msg : Bytes) :
    wp (gprsGmmParseRaUpdReq dec msg)
      (fun req c ↦ c.Safe msg.length ∧ RaUpdReqReported dec msg req ∧
        Span.Tiles 0 (raUpdReqFields msg ++ c.handed.map (·.span)) msg.length)
      (fun _ c ↦ c.Safe msg.length) (.startAt 2) := by
  unfold gprsGmmParseRaUpdReq
  refine stays_startAt.refuse fun hmin ↦ ?_
  refine stays_startAt.octetAt (by omega) fun c hc ↦ hc.next (by omega) fun c hc ↦ ?_
  refine hc.here (hc.slice (Span.inside_of_stop_le ?_) fun c hc ↦ hc.skip fun c hc ↦ ?_)
  · change 3 + 6 ≤ msg.length
    omega
  refine stays_lengthValue (q := 10) hc (by omega) rfl fun c hc hroom ↦ ?_
  change 10 + raUpdRadioCapLen msg ≤ msg.length at hroom
  refine hc.skip fun c hc ↦ stays_tlvRest hc hroom fun c hsafe htiles ↦ ?_
  exact ⟨hsafe, ⟨rfl, rfl, rfl, rfl, rfl, rfl, rfl⟩, (tiles_raUpdReqFields msg).append htiles⟩

/-- **The checked parsers.** For every message, of any length, both parsers read only inside of it.
Where they accept it, the header, the mandatory fields and what `tlv_parse` is given follow one
another through the whole message, and they accept none of which a mandatory field goes past the
end. -/
theorem gprsGmmParse_wholly (dec : Decoders) (msg : Bytes) :
    ParsesWholly msg (gprsGmmParseAttReq dec msg) (attReqFields msg) (AttReqReported dec msg) ∧
    ParsesWholly msg (gprsGmmParseRaUpdReq dec msg) (raUpdReqFields msg)
      (RaUpdReqReported dec msg) :=
  ⟨parsesWholly_of_wp (wp_gprsGmmParseAttReq dec msg),
    parsesWholly_of_wp (wp_gprsGmmParseRaUpdReq dec msg)⟩

/-- The shortest request for an update, with four octets of radio capability, is accepted. -/
example : retCode (gprsGmmParseRaUpdReq
    ⟨fun _ ↦ none, fun _ ↦ ⟨[], 0, 0⟩, fun _ _ ↦ (0, fun _ ↦ none), -3⟩
    [8, 8, 0, 0, 0, 0, 0, 0, 0, 4, 0, 0, 0, 0] (.startAt 2)) = 0 := by decide

end OsmoSgsn.Gmm
