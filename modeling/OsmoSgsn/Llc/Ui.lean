import OsmoSgsn.Llc.Frame

/-!
# Sending and receiving unconfirmed frames

`gprsLlcTxUi` numbers a frame, appends the check sequence and ciphers what follows the header;
`gprsLlcRcvmsg` deciphers, checks and only then counts. The two functions derive the ciphering
input from their own counters, so each result also reports the pair of `N(U)` and overflow counter
that was handed to `apply_gea`: a keystream is the right one only if both ends used the same pair.

Both functions work on the management entity that the TLLI of the message leads to.
-/

namespace OsmoSgsn.Llc

/-! ## Ciphering -/

/-- Exclusive or of a gamma into `cryptLen` octets from `start` on. -/
def xorGamma (start cryptLen : ℕ) (gamma : ℕ → UInt8) (data : Bytes) : Bytes :=
  data.mapIdx fun i b ↦ if start ≤ i ∧ i < start + cryptLen then b ^^^ gamma (i - start) else b

/-- Cipher or decipher. With a check sequence at offset `fcs` the frame is one to send: it is
marked as ciphered, the check sequence is computed again, and the three header octets stay in the
clear. Without one, `data` starts at the information field of a received frame. -/
def applyGea (c : GprsCipher) (llme : GprsLlcLlme) (cryptLen nu oc : ℕ) (sapi : Fin numSapis)
    (fcs : Option ℕ) (data : Bytes) : Except Errno Bytes :=
  if llme.algo = .gea0 then .error .einval
  else
    match c.run cryptLen llme.algo llme.kc (c.genInputUi llme.iovUi sapi nu oc)
        (if fcs.isSome then .sgsn2ms else .ms2sgsn) with
    | none => .error .enomsg
    | some gamma =>
      match fcs with
      | some off =>
        let data := data.modify 2 (· ||| 0x02)
        let data := data.take off ++ fcsOctets (gprsLlcFcs (data.take off)) ++ data.drop (off + 3)
        .ok (xorGamma 3 cryptLen gamma data)
      | none => .ok (xorGamma 0 cryptLen gamma data)

/-! ## Sending -/

/-- The counters after a frame has been numbered. The overflow counter is advanced from `V(U)` as
already incremented. -/
def GprsLlcLle.countSent (lle : GprsLlcLle) : GprsLlcLle :=
  let vuSend := (lle.vuSend + 1) % 512
  { lle with
    vuSend := vuSend
    ocUiSend := if (vuSend + 1) / 512 ≠ 0 then (lle.ocUiSend + 512) % 2 ^ 32 else lle.ocUiSend }

theorem GprsLlcLle.countSent_vuSend {lle : GprsLlcLle} (h : lle.vuSend < 512) :
    lle.countSent.vuSend = if lle.vuSend = 511 then 0 else lle.vuSend + 1 := by
  simp only [countSent]
  split <;> omega

/-- The sender's overflow counter moves with the frame numbered 510. -/
theorem GprsLlcLle.countSent_ocUiSend {lle : GprsLlcLle} (h : lle.vuSend < 512) :
    lle.countSent.ocUiSend =
      if lle.vuSend = 510 then (lle.ocUiSend + 512) % 2 ^ 32 else lle.ocUiSend := by
  have hwrap : ((lle.vuSend + 1) % 512 + 1) / 512 ≠ 0 ↔ lle.vuSend = 510 := by omega
  simp only [countSent, hwrap]

/-- The outcome of `gprs_llc_tx_ui`. -/
structure TxUiResult where
  /-- The frame that was handed to BSSGP, or the error. -/
  frame : Except Errno Bytes
  /-- The `N(U)` and overflow counter that were fed to `apply_gea`, if it was called. -/
  gea : Option (ℕ × ℕ)
  /-- The management entity afterwards. -/
  llme : GprsLlcLlme

/-- Transmit an unconfirmed frame on a SAPI. -/
def gprsLlcTxUi (c : GprsCipher) (llme : GprsLlcLlme) (sapi : Fin numSapis) (command : Bool)
    (mm : Option MmKeys) (encryptable : Bool) (payload : Bytes) : TxUiResult :=
  let lle := llme.lle sapi
  if payload.length > lle.n201U then ⟨.error .efbig, none, llme⟩
  else
    let nu := lle.vuSend
    let oc := lle.ocUiSend
    let llme := (gprsLlmeCopyKey c mm llme).setLle sapi lle.countSent
    let llch := uiHeader sapi command false nu ++ payload
    let frame := llch ++ fcsOctets (gprsLlcFcs llch)
    if llme.algo ≠ .gea0 ∧ encryptable then
      ⟨applyGea c llme llch.length nu oc sapi (some llch.length) frame, some (nu, oc), llme⟩
    else ⟨.ok frame, none, llme⟩

/-! ## Receiving -/

/-- Whether a frame number counts as a retransmission: it lies less than 32 behind `V(UR)`. -/
def gprsLlcIsRetransmit (nu vur : ℕ) : Bool :=
  let delta := (((vur : ℤ) - nu) % 512).toNat
  0 < delta && delta < 32

/-- What the header of a received frame asks for. -/
inductive HdrRxAction
  | none | txDm | rxXid
  deriving DecidableEq, Repr

/-- The counters after a frame numbered `seqTx` has been accepted. -/
def GprsLlcLle.countReceived (lle : GprsLlcLle) (seqTx : ℕ) : GprsLlcLle :=
  { lle with
    vuRecv := (seqTx + 1) % 512
    ocUiRecv := if (seqTx + 1) / 512 ≠ 0 then (lle.ocUiRecv + 512) % 2 ^ 32 else lle.ocUiRecv }

/-- The receiver's overflow counter moves with the frame numbered 511. -/
theorem GprsLlcLle.countReceived_ocUiRecv (lle : GprsLlcLle) {seqTx : ℕ} (h : seqTx < 512) :
    (lle.countReceived seqTx).ocUiRecv =
      if seqTx = 511 then (lle.ocUiRecv + 512) % 2 ^ 32 else lle.ocUiRecv := by
  have hwrap : (seqTx + 1) / 512 ≠ 0 ↔ seqTx = 511 := by omega
  simp only [countReceived, hwrap]

/-- Process the header of a frame whose check sequence is right. A number that looks like a
retransmission is refused only while it repeats the last such number, and not any more from its
third repetition on. -/
def gprsLlcHdrRx (gph : GprsLlcHdrParsed) (lle : GprsLlcLle) :
    Except Errno HdrRxAction × GprsLlcLle :=
  match gph.cmd with
  | .sabm | .disc => (.ok .txDm, lle)
  | .xid => (.ok .rxXid, lle)
  | .ui =>
    if gprsLlcIsRetransmit gph.seqTx lle.vuRecv then
      if gph.seqTx ≠ lle.vuRecvLast then
        (.ok .none, { lle with vuRecvLast := gph.seqTx, vuRecvDuplicates := 0 }.countReceived
          gph.seqTx)
      else
        let lle := { lle with vuRecvDuplicates := (lle.vuRecvDuplicates + 1) % 2 ^ 16 }
        if lle.vuRecvDuplicates < 3 then (.error .eio, lle)
        else (.ok .none, lle.countReceived gph.seqTx)
    else (.ok .none, lle.countReceived gph.seqTx)
  | _ => (.ok .none, lle)

/-- Where the information field of a received frame goes. -/
inductive LlcDelivery
  /-- To mobility management, with the flag to drop what should have been ciphered. -/
  | gmm (payload : Bytes) (dropCipherable : Bool)
  /-- To SNDCP, on one of its four SAPIs. -/
  | sndcp (sapi : Fin numSapis) (payload : Bytes)
  deriving DecidableEq, Repr

/-- The outcome of `gprs_llc_rcvmsg`. -/
structure RxResult where
  /-- The error, or the upper layer that the frame was handed to and what its header asked for. -/
  rc : Except Errno (HdrRxAction × Option LlcDelivery)
  /-- The `N(U)` and overflow counter that were fed to `apply_gea`, if it was called. -/
  gea : Option (ℕ × ℕ)
  /-- The management entity afterwards. -/
  llme : GprsLlcLlme

/-- Whether the check sequence of a frame, in the clear by now, is right. -/
def fcsMatches (llhp : GprsLlcHdrParsed) (frame : Bytes) : Bool :=
  llhp.fcs = gprsLlcFcs (frame.take llhp.crcLength)

/-- The upper layer that an information field is for. -/
def llcDeliver (llhp : GprsLlcHdrParsed) (frame : Bytes) (dropCipherable : Bool) :
    Except Errno (Option LlcDelivery) :=
  match llhp.data with
  | none => .ok none
  | some off =>
    if llhp.cmd = .ui ∧ llhp.dataLen ≠ 0 then
      let payload := (frame.drop off).take llhp.dataLen
      if llhp.sapi = 1 then .ok (some (.gmm payload dropCipherable))
      else if llhp.sapi = 3 ∨ llhp.sapi = 5 ∨ llhp.sapi = 9 ∨ llhp.sapi = 11 then
        .ok (some (.sndcp llhp.sapi payload))
      else .error .einval
    else .ok none

/-- The second half of `gprs_llc_rcvmsg`, from the check sequence on. -/
def rcvmsgChecked (llme : GprsLlcLlme) (llhp : GprsLlcHdrParsed) (frame : Bytes)
    (dropCipherable : Bool) (gea : Option (ℕ × ℕ)) : RxResult :=
  if fcsMatches llhp frame then
    let (rc, lle) := gprsLlcHdrRx llhp (llme.lle llhp.sapi)
    let llme := llme.setLle llhp.sapi lle
    match rc with
    | .error e => ⟨.error e, gea, llme⟩
    | .ok action => ⟨(llcDeliver llhp frame dropCipherable).map fun d ↦ (action, d), gea, llme⟩
  else ⟨.error .eio, gea, llme⟩

/-- The first half: decipher a frame whose header says that it is ciphered. -/
def rcvmsgDecipher (c : GprsCipher) (llme : GprsLlcLlme) (llhp : GprsLlcHdrParsed)
    (frame : Bytes) : Except Errno (GprsLlcHdrParsed × Bytes) :=
  let off := llhp.data.getD 0
  (applyGea c llme ((llhp.dataLen + 3) % 2 ^ 16) llhp.seqTx (llme.lle llhp.sapi).ocUiRecv
    llhp.sapi none (frame.drop off)).map fun data ↦
      let fcs := fcsOfOctets (octet data llhp.dataLen) (octet data (llhp.dataLen + 1))
        (octet data (llhp.dataLen + 2))
      ({ llhp with fcs := fcs }, frame.take off ++ data)

/-- Receive a frame. -/
def gprsLlcRcvmsg (c : GprsCipher) (llme : GprsLlcLlme) (frame : Bytes) : RxResult :=
  match gprsLlcHdrParse frame with
  | .error e => ⟨.error e, none, llme⟩
  | .ok llhp =>
    if llhp.isEncrypted then
      if llme.algo ≠ .gea0 then
        let gea := some (llhp.seqTx, (llme.lle llhp.sapi).ocUiRecv)
        match rcvmsgDecipher c llme llhp frame with
        | .error e => ⟨.error e, gea, llme⟩
        | .ok (llhp, frame) => rcvmsgChecked llme llhp frame false gea
      else ⟨.ok (.none, none), none, llme⟩
    else
      rcvmsgChecked llme llhp frame (llme.algo ≠ .gea0 ∧ llme.cksn ≠ gsmKeySeqInval) none

/-! ## Values for concrete runs -/

/-- A keystream generator for examples, the same in both directions. -/
def exampleCipher : GprsCipher where
  run _ _ _ iv _ := some fun i ↦ ⟨iv.setWidth 8⟩ + UInt8.ofNat i
  genInputUi iovUi sapi nu oc :=
    (iovUi ^^^ (BitVec.ofNat 32 (2 ^ 27 * sapi) + 0x80000000)) + BitVec.ofNat 32 nu +
      BitVec.ofNat 32 oc
  keyLength _ := 8
  kdfKc128 ck _ := ck

/-- A management entity with a key, whose GMM entity stands at frame number `nu`. -/
def exampleLlme (nu : ℕ) : GprsLlcLlme :=
  { llmeAlloc 0xc0000001 with
    algo := .gea1
    cksn := 1
    lle := fun sapi ↦ { lleInit sapi with vuSend := nu, vuRecv := nu } }

end OsmoSgsn.Llc
