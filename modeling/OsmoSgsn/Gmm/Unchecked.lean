import OsmoSgsn.Gmm.Parse
import OsmoSgsn.Gmm.Uplink

/-!
# The parsers that check nothing

Five handlers go through a message without looking at its length. What a length octet says is
compared with the array that a value is copied to, if with anything. Each of them stays inside
exactly the messages that have room for what their own length octets ask for, and the rest that
`tlv_parse` gets has a negative length where the octets before it do not fit.
-/

namespace OsmoSgsn.Gmm

/-- How a handler ends before it has all fields. -/
inductive ParseStop
  | ignored
  | rejected (cause : ℕ)
  deriving DecidableEq, Repr

/-- Code that parses a message and may stop. -/
abbrev L3ParseM := EStateM ParseStop Cursor

variable (dec : Decoders) (msg : Bytes)

/-! ## The five parsers -/

/-- What `gsm48_rx_gmm_att_req` takes out of a message. -/
structure AttReqParsed where
  attType : UInt8
  drxPar : BitVec 16
  mi : MobileIdentity
  msRadioAccessCapa : Bytes
  msNetworkCapa : Bytes
  deriving DecidableEq, Repr

/-- The parsing in `gsm48_rx_gmm_att_req`. There is a context to serve if one is found or made,
which is never the case for an identity of the wrong kind; the capabilities are copied to it. -/
def attReqParse (served : MobileIdentity → Bool) : L3ParseM AttReqParsed := do
  let msncLen ← Cursor.next msg
  let msnc ← Cursor.here
  Cursor.refuse (8 < msncLen.toNat) (.rejected 95)
  Cursor.skip msncLen.toNat
  let attType ← Cursor.next msg
  let drxHigh ← Cursor.next msg
  let drxLow ← Cursor.next msg
  let miLen ← Cursor.next msg
  let miData ← Cursor.here
  Cursor.skip miLen.toNat
  let miOctets ← Cursor.slice msg ⟨miData, miLen.toNat⟩
  let mi ← Cursor.orThrow (dec.mobileIdentity miOctets) (.rejected 95)
  Cursor.skip 6
  let msRaAccCapLen ← Cursor.next msg
  let msRaAccCap ← Cursor.here
  Cursor.refuse (50 < msRaAccCapLen.toNat) (.rejected 95)
  Cursor.skip msRaAccCapLen.toNat
  Cursor.refuse (served mi = false) (.rejected 9)
  let radioCapa ← Cursor.slice msg ⟨msRaAccCap, msRaAccCapLen.toNat⟩
  let networkCapa ← Cursor.slice msg ⟨msnc, msncLen.toNat⟩
  pure ⟨attType &&& 0x07, load16le drxLow drxHigh, mi, radioCapa, networkCapa⟩

/-- Read the PDP context status, two octets, if there is one. -/
def pdpCtxStatus (tlv : TlvParsed) : L3ParseM (Option (BitVec 16)) :=
  match tlv 0x32 with
  | none => pure none
  | some value => do
    let octets ← Cursor.slice msg ⟨value.start, 2⟩
    pure (some (load16le (octet octets 0) (octet octets 1)))

/-- The parsing in `gsm48_rx_gmm_service_req`, which is for Iu only. -/
def serviceReqParse (iu : Bool) (served : MobileIdentity → Bool) : L3ParseM ServiceRequest := do
  Cursor.refuse (iu = false) .ignored
  let serviceType ← Cursor.next msg
  let miLen ← Cursor.next msg
  let miData ← Cursor.here
  Cursor.skip miLen.toNat
  let miOctets ← Cursor.slice msg ⟨miData, miLen.toNat⟩
  let mi ← Cursor.orThrow (dec.mobileIdentity miOctets) (.rejected 95)
  let pos ← Cursor.here
  let rest ← Cursor.hand msg ⟨pos, msg.length - pos⟩
  Cursor.refuse (served mi = false) (.rejected 10)
  let status ← pdpCtxStatus msg fun tag ↦
    ((dec.tlvParse .gmm rest).2 tag).map fun value ↦ ⟨pos + value.start, value.len⟩
  pure ⟨((serviceType >>> 4) &&& 0x07).toNat, some mi, status⟩

/-- The parsing in `gsm48_rx_gmm_id_resp`. -/
def idRespParse (ctx : Bool) : L3ParseM GmmMsg := do
  Cursor.refuse (ctx = false) .ignored
  let len ← Cursor.octetAt msg 2
  let octets ← Cursor.slice msg ⟨3, len.toNat⟩
  let mi ← Cursor.orThrow (dec.mobileIdentity octets) .ignored
  pure (.idResp (some mi))

/-- The parsing in `gsm48_rx_gmm_ra_upd_req`, which uses the parser with checks, but not for the PDP
context status. That is read when there is a context and the request is not refused. -/
def raUpdReqParse (served : Bool) : L3ParseM (Option (BitVec 16)) := do
  let req ← EStateM.adaptExcept (fun cause ↦ .rejected cause.code) (gprsGmmParseRaUpdReq dec msg)
  Cursor.refuse (served = false) (.rejected 10)
  pdpCtxStatus msg req.tlv

/-- What `do_act_pdp_req` takes out of a message. -/
structure ActPdpParsed where
  nsapi : UInt8
  sapi : UInt8
  ti : UInt8
  reqQos : Span
  reqPdpa : Span
  tlv : TlvParsed

/-- The IPv4 address in a PDP address. -/
def ipv4Addr (pdpa : Span) (number : UInt8) : L3ParseM Bytes :=
  if number = 0x21 ∧ 6 ≤ pdpa.len then Cursor.slice msg ⟨pdpa.start + 2, 4⟩ else pure []

/-- The elements behind the PDP address; here there is a check. -/
def actPdpElements (pdpa : Span) : L3ParseM TlvParsed :=
  if pdpa.stop < msg.length then do
    let rest ← Cursor.hand msg ⟨pdpa.stop, msg.length - pdpa.stop⟩
    pure fun tag ↦ ((dec.tlvParse .smAtt rest).2 tag).map fun value ↦
      ⟨pdpa.stop + value.start, value.len⟩
  else pure fun _ ↦ none

/-- The parsing in `do_act_pdp_req`. -/
def actPdpReqParse : L3ParseM ActPdpParsed := do
  let protoDiscr ← Cursor.octetAt msg 0
  let reqNsapi ← Cursor.octetAt msg 2
  let reqLlcSapi ← Cursor.octetAt msg 3
  let reqQosLen ← Cursor.octetAt msg 4
  let reqPdpaLen ← Cursor.octetAt msg (5 + reqQosLen.toNat)
  let pdpa : Span := ⟨6 + reqQosLen.toNat, reqPdpaLen.toNat⟩
  let _ ← Cursor.octetAt msg pdpa.start
  let number ← Cursor.octetAt msg (pdpa.start + 1)
  let _ ← ipv4Addr msg pdpa number
  Cursor.refuse (reqNsapi < 5 ∨ 15 < reqNsapi) (.rejected 96)
  let tlv ← actPdpElements dec msg pdpa
  pure ⟨reqNsapi, reqLlcSapi, protoDiscr >>> 4, ⟨5, reqQosLen.toNat⟩, pdpa, tlv⟩

/-! ## Messages that are long enough -/

/-- A message has room for what `attReqParse` reads of it. -/
def AttReqFits (served : MobileIdentity → Bool) : Prop :=
  let m := (octet msg 2).toNat
  let l := (octet msg (6 + m)).toNat
  let r := (octet msg (13 + m + l)).toNat
  3 ≤ msg.length ∧ (m ≤ 8 → 7 + m + l ≤ msg.length ∧
    ∀ mi, dec.mobileIdentity ((msg.drop (7 + m)).take l) = some mi →
      14 + m + l ≤ msg.length ∧ (r ≤ 50 → served mi → 14 + m + l + r ≤ msg.length))

/-- A message has room for what `serviceReqParse` reads of it. -/
def ServiceReqFits (iu : Bool) (served : MobileIdentity → Bool) : Prop :=
  let l := (octet msg 3).toNat
  iu → 4 + l ≤ msg.length ∧ ∀ mi, dec.mobileIdentity ((msg.drop 4).take l) = some mi → served mi →
    ∀ value, (dec.tlvParse .gmm (msg.drop (4 + l))).2 0x32 = some value →
      4 + l + value.start + 2 ≤ msg.length

/-- A message has room for what `idRespParse` reads of it. -/
def IdRespFits (ctx : Bool) : Prop := ctx → 3 + (octet msg 2).toNat ≤ msg.length

/-- A message has room for what `raUpdReqParse` reads of it. -/
def RaUpdReqFits (served : Bool) : Prop :=
  retCode (gprsGmmParseRaUpdReq dec msg (.startAt 2)) = 0 → served →
    ∀ value, restElements dec msg .gmmRau (10 + raUpdRadioCapLen msg) 0x32 = some value →
      value.start + 2 ≤ msg.length

/-- A message has room for what `actPdpReqParse` reads of it. -/
def ActPdpReqFits : Prop :=
  let q := (octet msg 4).toNat
  8 + q ≤ msg.length ∧
    (octet msg (7 + q) = 0x21 → 6 ≤ (octet msg (5 + q)).toNat → 12 + q ≤ msg.length)

/-! ## Exactly these messages -/

open EStateM Cursor

variable {dec msg} {n p : ℕ}

theorem exact_pdpCtxStatus {β : Type} (tlv : TlvParsed) (k : Option (BitVec 16) → β) :
    Exact n p (pdpCtxStatus msg tlv >>= fun status ↦ pure (k status))
      (∀ value, tlv 0x32 = some value → value.start + 2 ≤ n) := by
  unfold pdpCtxStatus
  cases tlv 0x32 with
  | none => simpa using Exact.pure (k none)
  | some value =>
    simp only [bind_assoc, pure_bind]
    refine Exact.congr (Exact.slice (Exact.pure _)) ?_
    simp [Span.inside_iff, Span.stop]

/-- The octets in the order in which they are read. -/
theorem exact_attReqParse (served : MobileIdentity → Bool) :
    Exact msg.length 2 (attReqParse dec msg served) (AttReqFits dec msg served) := by
  let m := (octet msg 2).toNat
  let l := (octet msg (6 + m)).toNat
  let r := (octet msg (13 + m + l)).toNat
  have hreads : Exact msg.length 2 (attReqParse dec msg served)
      (2 < msg.length ∧ (¬ 8 < m → 3 + m < msg.length ∧ 4 + m < msg.length ∧ 5 + m < msg.length ∧
        6 + m < msg.length ∧ (⟨7 + m, l⟩ : Span).Inside msg.length ∧
        ∀ mi, dec.mobileIdentity ((msg.drop (7 + m)).take l) = some mi →
          13 + m + l < msg.length ∧ (¬ 50 < r → ¬ served mi = false →
            (⟨14 + m + l, r⟩ : Span).Inside msg.length ∧
            (⟨3, m⟩ : Span).Inside msg.length ∧ True))) := by
    unfold attReqParse
    refine .next <| .here <| .refuse fun _ ↦ .skip ?_
    change Exact _ (3 + m) _ _
    refine .next <| .cast (q := 4 + m) (by omega) <| .next <| .cast (q := 5 + m) (by omega) <|
      .next ?_
    refine .cast (q := 6 + m) (by omega) <| .next <| .cast (q := 7 + m) (by omega) <| .here ?_
    refine .skip <| .slice <| .orThrow fun mi ↦ .skip ?_
    change Exact _ (7 + m + l + 6) _ _
    refine .cast (q := 13 + m + l) (by omega) <| .next <| .cast (q := 14 + m + l) (by omega) ?_
    refine .here <| .refuse fun _ ↦ .skip ?_
    refine .refuse fun _ ↦ .slice <| .slice <| .pure _
  refine hreads.congr ?_
  simp only [Span.inside_iff, Span.stop]
  unfold AttReqFits
  grind

theorem exact_serviceReqParse (iu : Bool) (served : MobileIdentity → Bool) :
    Exact msg.length 2 (serviceReqParse dec msg iu served) (ServiceReqFits dec msg iu served) := by
  let l := (octet msg 3).toNat
  have hreads : Exact msg.length 2 (serviceReqParse dec msg iu served)
      (¬ iu = false → 2 < msg.length ∧ 3 < msg.length ∧ (⟨4, l⟩ : Span).Inside msg.length ∧
        ∀ mi, dec.mobileIdentity ((msg.drop 4).take l) = some mi →
          (((0 : ℤ) ≤ msg.length - (4 + l : ℕ) ∧
            (⟨4 + l, msg.length - (4 + l : ℕ)⟩ : Handed).span.Inside msg.length) ∧
          (¬ served mi = false → ∀ value,
            ((dec.tlvParse .gmm (msg.drop (4 + l))).2 0x32).map
              (fun value ↦ (⟨4 + l + value.start, value.len⟩ : Span)) = some value →
            value.start + 2 ≤ msg.length))) := by
    unfold serviceReqParse
    refine .refuse fun _ ↦ .next <| .next <| .here <| .skip <| .slice <| .orThrow fun mi ↦ .here ?_
    change Exact _ (4 + l) _ _
    refine .hand <| .refuse fun _ ↦ ?_
    rw [take_rest]
    exact exact_pdpCtxStatus _ _
  refine hreads.congr ?_
  have hrest : 4 + l ≤ msg.length → (0 : ℤ) ≤ msg.length - (4 + l : ℕ) ∧
      (⟨4 + l, msg.length - (4 + l : ℕ)⟩ : Handed).span.Inside msg.length := rest_inside
  simp only [Option.map_eq_some_iff, forall_exists_index, and_imp, forall_apply_eq_imp_iff₂,
    Bool.not_eq_false, @Span.inside_iff ⟨4, l⟩, Span.stop]
  constructor
  · intro h hiu
    obtain ⟨-, hlen, hmi, hrest⟩ := h hiu
    exact ⟨by omega, fun mi hdec ↦ (hrest mi hdec).2⟩
  · intro h hiu
    obtain ⟨hroom, hstatus⟩ := h hiu
    exact ⟨by omega, by omega, .inr hroom, fun mi hdec ↦ ⟨hrest hroom, hstatus mi hdec⟩⟩

theorem exact_idRespParse (ctx : Bool) :
    Exact msg.length 2 (idRespParse dec msg ctx) (IdRespFits msg ctx) := by
  let l := (octet msg 2).toNat
  have hreads : Exact msg.length 2 (idRespParse dec msg ctx)
      (¬ ctx = false → 2 < msg.length ∧ (⟨3, l⟩ : Span).Inside msg.length ∧
        ∀ mi, dec.mobileIdentity ((msg.drop 3).take l) = some mi → True) := by
    unfold idRespParse
    exact .refuse fun _ ↦ .octetAt <| .slice <| .orThrow fun mi ↦ .pure _
  refine hreads.congr ?_
  simp only [Span.inside_iff, Span.stop]
  unfold IdRespFits
  grind

/-- The parser with checks is safe, and so only the status is left. -/
theorem raUpdReqParse_safe_iff (served : Bool) :
    SafeRun msg.length (raUpdReqParse dec msg served) (.startAt 2) ↔
      RaUpdReqFits dec msg served := by
  have hparser := wp_gprsGmmParseRaUpdReq dec msg
  unfold raUpdReqParse RaUpdReqFits
  rw [SafeRun, wp_bind, wp_adaptExcept]
  cases hparse : gprsGmmParseRaUpdReq dec msg (.startAt 2) with
  | ok req c =>
    obtain ⟨hsafe, hreported, -⟩ := wp_ok hparser hparse
    have hstatus : Exact msg.length c.pos (do
        Cursor.refuse (served = false) (.rejected 10)
        pdpCtxStatus msg req.tlv) _ := .refuse fun _ ↦ by
      simpa using exact_pdpCtxStatus req.tlv id
    rw [wp, hparse]
    refine (hstatus c rfl).trans ?_
    rw [hreported.tlv]
    simp [hsafe, retCode]
  | error cause c =>
    have hsafe : c.Safe msg.length := wp_error hparser hparse
    rw [wp, hparse]
    simp [hsafe, retCode, cause.code_ne_zero]

theorem exact_ipv4Addr {β : Type} {pdpa : Span} {number : UInt8} {k : Bytes → L3ParseM β} {P : Prop}
    (hk : ∀ octets, Exact n p (k octets) P) :
    Exact n p (ipv4Addr msg pdpa number >>= k)
      ((number = 0x21 ∧ 6 ≤ pdpa.len → pdpa.start + 6 ≤ n) ∧ P) := by
  unfold ipv4Addr
  split
  · rename_i hipv4
    refine (Exact.slice (hk _)).congr ?_
    simp [hipv4, Span.inside_iff, Span.stop]
  · rename_i hother
    simpa [hother] using hk []

theorem exact_actPdpElements {β : Type} {pdpa : Span} (k : TlvParsed → β) :
    Exact msg.length p (actPdpElements dec msg pdpa >>= fun tlv ↦ pure (k tlv)) True := by
  unfold actPdpElements
  split
  · rename_i hbehind
    simp only [bind_assoc, pure_bind]
    refine Exact.congr (Exact.hand (Exact.pure _)) ?_
    exact iff_of_true ⟨rest_inside hbehind.le, trivial⟩ trivial
  · simpa using Exact.pure _

theorem exact_actPdpReqParse :
    Exact msg.length 2 (actPdpReqParse dec msg) (ActPdpReqFits msg) := by
  let q := (octet msg 4).toNat
  have hreads : Exact msg.length 2 (actPdpReqParse dec msg)
      (0 < msg.length ∧ 2 < msg.length ∧ 3 < msg.length ∧ 4 < msg.length ∧ 5 + q < msg.length ∧
        6 + q < msg.length ∧ 6 + q + 1 < msg.length ∧
        (octet msg (6 + q + 1) = 0x21 ∧ 6 ≤ (octet msg (5 + q)).toNat → 6 + q + 6 ≤ msg.length) ∧
        (¬ (octet msg 2 < 5 ∨ 15 < octet msg 2) → True)) := by
    unfold actPdpReqParse
    exact .octetAt <| .octetAt <| .octetAt <| .octetAt <| .octetAt <| .octetAt <| .octetAt <|
      exact_ipv4Addr fun _ ↦ .refuse fun _ ↦ exact_actPdpElements _
  refine hreads.congr ?_
  unfold ActPdpReqFits
  grind

/-! ## All five -/

/-- A handler, and what it finds in the state of the node. -/
inductive L3Parser
  | attReq (served : MobileIdentity → Bool)
  | serviceReq (iu : Bool) (served : MobileIdentity → Bool)
  | idResp (ctx : Bool)
  | raUpdReq (served : Bool)
  | actPdpReq

/-- The handler reads only inside the message, and gives `tlv_parse` no negative length. -/
def L3Parser.StaysInside (dec : Decoders) (msg : Bytes) : L3Parser → Prop
  | .attReq served => SafeRun msg.length (attReqParse dec msg served) (.startAt 2)
  | .serviceReq iu served => SafeRun msg.length (serviceReqParse dec msg iu served) (.startAt 2)
  | .idResp ctx => SafeRun msg.length (idRespParse dec msg ctx) (.startAt 2)
  | .raUpdReq served => SafeRun msg.length (raUpdReqParse dec msg served) (.startAt 2)
  | .actPdpReq => SafeRun msg.length (actPdpReqParse dec msg) (.startAt 2)

/-- The message has room for what its own octets ask for. -/
def L3Parser.Fits (dec : Decoders) (msg : Bytes) : L3Parser → Prop
  | .attReq served => AttReqFits dec msg served
  | .serviceReq iu served => ServiceReqFits dec msg iu served
  | .idResp ctx => IdRespFits msg ctx
  | .raUpdReq served => RaUpdReqFits dec msg served
  | .actPdpReq => ActPdpReqFits msg

/-- **Reading inside the message.** For every message, of any length, each of the handlers reads
only inside of it and gives `tlv_parse` no negative length, exactly if the message has the octets
that its length octets promise. -/
theorem staysInside_iff (parser : L3Parser) (dec : Decoders) (msg : Bytes) :
    parser.StaysInside dec msg ↔ parser.Fits dec msg := by
  cases parser with
  | attReq served => exact (exact_attReqParse served).safeRun_iff
  | serviceReq iu served => exact (exact_serviceReqParse iu served).safeRun_iff
  | idResp ctx => exact (exact_idRespParse ctx).safeRun_iff
  | raUpdReq served => exact raUpdReqParse_safe_iff served
  | actPdpReq => exact exact_actPdpReqParse.safeRun_iff

/-- Decoders that find nothing in no octets. -/
def exampleDecoders : Decoders where
  mobileIdentity _ := none
  routingAreaId _ := ⟨[], 0, 0⟩
  tlvParse _ _ := (0, fun _ ↦ none)
  errUnknownTlvType := -1

/-- Of an attach request that is a header and nothing else, an octet behind the end is read. -/
theorem headerOnly_not_staysInside :
    ¬ (L3Parser.attReq fun _ ↦ true).StaysInside exampleDecoders [0x08, 0x01] := by
  intro hrun
  have hfits : AttReqFits exampleDecoders [0x08, 0x01] fun _ ↦ true :=
    (exact_attReqParse _).safeRun_iff.1 hrun
  exact absurd hfits.1 (by decide)

end OsmoSgsn.Gmm
