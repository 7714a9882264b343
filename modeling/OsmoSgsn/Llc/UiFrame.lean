import OsmoSgsn.Llc.Ui

/-!
# The frame that is sent is the frame that is received

Spec lemmas for `gprsLlcTxUi` and `gprsLlcRcvmsg`, so that what follows never opens them again. A
sent frame is a header and a body, and the body is the information field and the check sequence
under the gamma, if there is one. A receiver that applies the same gamma finds the check sequence
right; whatever it finds, its overflow counter only moves on the frame numbered 511.
-/

namespace OsmoSgsn.Llc

/-! ## Gammas -/

@[simp] theorem length_xorGamma (start cryptLen : ℕ) (gamma : ℕ → UInt8) (data : Bytes) :
    (xorGamma start cryptLen gamma data).length = data.length := by
  simp [xorGamma]

/-- Applying a gamma twice restores the data. -/
theorem xorGamma_xorGamma (start cryptLen : ℕ) (gamma : ℕ → UInt8) (data : Bytes) :
    xorGamma start cryptLen gamma (xorGamma start cryptLen gamma data) = data := by
  refine List.ext_getElem (by simp) fun i _ _ ↦ ?_
  simp only [xorGamma, List.getElem_mapIdx]
  split
  · rw [UInt8.xor_assoc, UInt8.xor_self, UInt8.xor_zero]
  · rfl

/-- The octets before the start of a gamma are left alone. -/
theorem xorGamma_append (hdr : Bytes) (cryptLen : ℕ) (gamma : ℕ → UInt8) (body : Bytes) :
    xorGamma hdr.length cryptLen gamma (hdr ++ body) = hdr ++ xorGamma 0 cryptLen gamma body := by
  refine List.ext_getElem (by simp) fun i h _ ↦ ?_
  simp only [xorGamma, List.getElem_mapIdx, List.getElem_append]
  by_cases hi : i < hdr.length
  · simp [hi]
  · have hlt : (hdr.length ≤ i ∧ i < hdr.length + cryptLen) ↔ i - hdr.length < cryptLen := by
      omega
    simp [hi, hlt]

/-! ## The sent frame -/

/-- The part of an unconfirmed frame that a gamma covers: information field and check sequence. -/
def uiBody (hdr payload : Bytes) : Bytes := payload ++ fcsOctets (gprsLlcFcs (hdr ++ payload))

@[simp] theorem length_uiBody (hdr payload : Bytes) :
    (uiBody hdr payload).length = payload.length + 3 := by
  simp [uiBody]

theorem applyGea_tx (c : GprsCipher) (llme : GprsLlcLlme) (halgo : llme.algo ≠ .gea0)
    (nu oc : ℕ) (sapi : Fin numSapis) (command : Bool) (payload : Bytes) (x : BitVec 32) :
    applyGea c llme (payload.length + 3) nu oc sapi (some (payload.length + 3))
        (uiHeader sapi command false nu ++ payload ++ fcsOctets x) =
      match c.run (payload.length + 3) llme.algo llme.kc
        (c.genInputUi llme.iovUi sapi nu oc) .sgsn2ms with
      | none => .error .enomsg
      | some gamma => .ok (uiHeader sapi command true nu ++
          xorGamma 0 (payload.length + 3) gamma (uiBody (uiHeader sapi command true nu) payload))
      := by
  have hmark : (uiHeader sapi command false nu ++ payload ++ fcsOctets x).modify 2
      (· ||| 0x02) = uiHeader sapi command true nu ++ payload ++ fcsOctets x := by
    simp [uiHeader]
  have htake : (uiHeader sapi command true nu ++ payload ++ fcsOctets x).take
      (payload.length + 3) = uiHeader sapi command true nu ++ payload := by
    rw [List.take_append_of_le_length (by simp [Nat.add_comm])]
    exact List.take_of_length_le (by simp [Nat.add_comm])
  have hdrop : (uiHeader sapi command true nu ++ payload ++ fcsOctets x).drop
      (payload.length + 3 + 3) = [] := List.drop_eq_nil_of_le (by simp; omega)
  simp only [applyGea, halgo, if_false, Option.isSome_some, if_true, hmark, htake, hdrop,
    List.append_nil]
  cases c.run (payload.length + 3) llme.algo llme.kc (c.genInputUi llme.iovUi sapi nu oc)
    .sgsn2ms with
  | none => rfl
  | some gamma =>
    simp only [List.append_assoc]
    rw [← xorGamma_append (uiHeader sapi command true nu)]
    rfl

section Sent

variable (c : GprsCipher) (llme : GprsLlcLlme) (sapi : Fin numSapis) (command : Bool)
  (mm : Option MmKeys) (encryptable : Bool) {payload : Bytes}

theorem gprsLlcTxUi_tooLong (hlen : (llme.lle sapi).n201U < payload.length) :
    gprsLlcTxUi c llme sapi command mm encryptable payload = ⟨.error .efbig, none, llme⟩ := by
  rw [gprsLlcTxUi, if_pos hlen]

/-- Without a key, or where the caller forbids it, a frame goes out in the clear. -/
theorem gprsLlcTxUi_plain (hlen : payload.length ≤ (llme.lle sapi).n201U)
    (h : ¬ ((gprsLlmeCopyKey c mm llme).algo ≠ .gea0 ∧ encryptable)) :
    gprsLlcTxUi c llme sapi command mm encryptable payload = {
      frame := .ok (uiHeader sapi command false (llme.lle sapi).vuSend ++
        uiBody (uiHeader sapi command false (llme.lle sapi).vuSend) payload)
      gea := none
      llme := (gprsLlmeCopyKey c mm llme).setLle sapi (llme.lle sapi).countSent } := by
  rw [gprsLlcTxUi, if_neg (by omega)]
  dsimp only
  rw [GprsLlcLlme.setLle_algo, if_neg h, uiBody, List.append_assoc]

/-- **A ciphered frame** carries `V(U)` as it was before, and its body lies under the gamma for
that number and the overflow counter. -/
theorem gprsLlcTxUi_ciphered (hlen : payload.length ≤ (llme.lle sapi).n201U)
    (h : (gprsLlmeCopyKey c mm llme).algo ≠ .gea0 ∧ encryptable) :
    gprsLlcTxUi c llme sapi command mm encryptable payload = {
      frame :=
        match c.run (payload.length + 3) (gprsLlmeCopyKey c mm llme).algo
          (gprsLlmeCopyKey c mm llme).kc
          (c.genInputUi llme.iovUi sapi (llme.lle sapi).vuSend (llme.lle sapi).ocUiSend)
          .sgsn2ms with
        | none => .error .enomsg
        | some gamma => .ok (uiHeader sapi command true (llme.lle sapi).vuSend ++
            xorGamma 0 (payload.length + 3) gamma
              (uiBody (uiHeader sapi command true (llme.lle sapi).vuSend) payload))
      gea := some ((llme.lle sapi).vuSend, (llme.lle sapi).ocUiSend)
      llme := (gprsLlmeCopyKey c mm llme).setLle sapi (llme.lle sapi).countSent } := by
  have hlch : (uiHeader sapi command false (llme.lle sapi).vuSend ++ payload).length =
      payload.length + 3 := by
    simp [Nat.add_comm]
  rw [gprsLlcTxUi, if_neg (by omega)]
  dsimp only
  rw [GprsLlcLlme.setLle_algo, if_pos h, hlch,
    applyGea_tx c ((gprsLlmeCopyKey c mm llme).setLle sapi (llme.lle sapi).countSent) h.1]
  simp only [GprsLlcLlme.setLle_algo, GprsLlcLlme.setLle_kc, GprsLlcLlme.setLle_iovUi,
    gprsLlmeCopyKey_iovUi]

end Sent

/-! ## The received frame -/

/-- The check sequence is found behind the information field. -/
theorem fcsOfOctets_uiBody (hdr payload : Bytes) :
    fcsOfOctets (octet (uiBody hdr payload) payload.length)
      (octet (uiBody hdr payload) (payload.length + 1))
      (octet (uiBody hdr payload) (payload.length + 2)) = gprsLlcFcs (hdr ++ payload) := by
  rw [uiBody, octet_append_right le_rfl, octet_append_right (by omega),
    octet_append_right (by omega)]
  simpa [fcsOctets, octet] using fcsOfOctets_fcsOctets (gprsLlcFcs_and_mask (hdr ++ payload))

theorem fcsOfFrame_uiFrame (sapi : Fin numSapis) (command encrypted : Bool) (nu : ℕ)
    (payload : Bytes) :
    fcsOfFrame (uiHeader sapi command encrypted nu ++
        uiBody (uiHeader sapi command encrypted nu) payload) =
      gprsLlcFcs (uiHeader sapi command encrypted nu ++ payload) := by
  have hlen : (uiHeader sapi command encrypted nu ++
      uiBody (uiHeader sapi command encrypted nu) payload).length = payload.length + 6 := by
    simp
    omega
  rw [fcsOfFrame, hlen, octet_append_right (by simp), octet_append_right (by simp),
    octet_append_right (by simp)]
  simpa using fcsOfOctets_uiBody (uiHeader sapi command encrypted nu) payload

/-- The octets under the check sequence of an unconfirmed frame. -/
theorem take_uiFrame (sapi : Fin numSapis) (command encrypted : Bool) (nu : ℕ) (payload : Bytes) :
    (uiHeader sapi command encrypted nu ++
        uiBody (uiHeader sapi command encrypted nu) payload).take (payload.length + 3) =
      uiHeader sapi command encrypted nu ++ payload := by
  rw [uiBody, ← List.append_assoc, List.take_append_of_le_length (by simp [Nat.add_comm])]
  exact List.take_of_length_le (by simp [Nat.add_comm])

/-- Header processing moves the overflow counter on the frame numbered 511 only. -/
theorem gprsLlcHdrRx_ocUiRecv (gph : GprsLlcHdrParsed) (lle : GprsLlcLle)
    (h : gph.seqTx < 511) : (gprsLlcHdrRx gph lle).2.ocUiRecv = lle.ocUiRecv := by
  have hcount (lle : GprsLlcLle) : (lle.countReceived gph.seqTx).ocUiRecv = lle.ocUiRecv := by
    rw [lle.countReceived_ocUiRecv (by omega), if_neg (by omega)]
  unfold gprsLlcHdrRx
  cases gph.cmd <;> try rfl
  -- only a UI frame counts, on each of the three ways through the retransmission check
  dsimp only
  split_ifs <;> first | rfl | exact hcount _

/-- A number equal to `V(UR)` is accepted. -/
theorem gprsLlcHdrRx_expected (gph : GprsLlcHdrParsed) (lle : GprsLlcLle) (hcmd : gph.cmd = .ui)
    (h : gph.seqTx = lle.vuRecv) :
    gprsLlcHdrRx gph lle = (.ok .none, lle.countReceived gph.seqTx) := by
  have hret : gprsLlcIsRetransmit gph.seqTx lle.vuRecv = false := by
    simp [gprsLlcIsRetransmit, h]
  simp [gprsLlcHdrRx, hcmd, hret]

/-! ### From the check sequence on -/

section Checked

variable (llme : GprsLlcLlme) (llhp : GprsLlcHdrParsed) (frame : Bytes) (dropCipherable : Bool)
  (gea : Option (ℕ × ℕ))

@[simp] theorem rcvmsgChecked_gea :
    (rcvmsgChecked llme llhp frame dropCipherable gea).gea = gea := by
  unfold rcvmsgChecked
  split
  · dsimp only
    split <;> rfl
  · rfl

/-- Receiving changes nothing but the entity of the frame's SAPI. -/
theorem rcvmsgChecked_llme :
    (rcvmsgChecked llme llhp frame dropCipherable gea).llme =
      if fcsMatches llhp frame then
        llme.setLle llhp.sapi (gprsLlcHdrRx llhp (llme.lle llhp.sapi)).2
      else llme := by
  unfold rcvmsgChecked
  split
  · dsimp only
    split <;> rfl
  · rfl

end Checked

/-- The frame in the clear, as the receiver sees it after deciphering. -/
def uiParsed (sapi : Fin numSapis) (command encrypted : Bool) (nu : ℕ) (fcs : BitVec 32)
    (len : ℕ) : GprsLlcHdrParsed where
  sapi := sapi
  isCmd := !command
  ackReq := false
  isEncrypted := encrypted
  seqRx := 0
  seqTx := nu
  fcs := fcs
  data := some 3
  dataLen := len
  crcLength := len + 3
  cmd := .ui

/-- The check sequence of a frame as it was sent is right. -/
theorem fcsMatches_uiFrame (sapi : Fin numSapis) (command encrypted : Bool) (nu : ℕ)
    (payload : Bytes) :
    fcsMatches (uiParsed sapi command encrypted nu
        (gprsLlcFcs (uiHeader sapi command encrypted nu ++ payload)) payload.length)
      (uiHeader sapi command encrypted nu ++
        uiBody (uiHeader sapi command encrypted nu) payload) = true := by
  simp only [fcsMatches, uiParsed, take_uiFrame, decide_true]

section Received

variable (c : GprsCipher) (llme : GprsLlcLlme) (sapi : GprsLlcSapi) (command : Bool) {nu : ℕ}
  (hnu : nu < 512)

include hnu

/-- An unciphered frame goes straight to the check sequence. -/
theorem gprsLlcRcvmsg_plain {body : Bytes} {len : ℕ} (hlen : body.length = len + 3)
    (hmax : body.length < 2 ^ 16) :
    gprsLlcRcvmsg c llme (uiHeader sapi.toFin command false nu ++ body) =
      rcvmsgChecked llme (uiParsed sapi.toFin command false nu
          (fcsOfFrame (uiHeader sapi.toFin command false nu ++ body)) len)
        (uiHeader sapi.toFin command false nu ++ body)
        (llme.algo ≠ .gea0 ∧ llme.cksn ≠ gsmKeySeqInval) none := by
  rw [gprsLlcRcvmsg, parse_uiFrame sapi command false hnu (by omega) hmax]
  simp [uiParsed, hlen]

/-- A ciphered frame is deciphered first, with the pair of its `N(U)` and the receiver's own
overflow counter. -/
theorem gprsLlcRcvmsg_ciphered (halgo : llme.algo ≠ .gea0) {body : Bytes} {len : ℕ}
    (hlen : body.length = len + 3) (hmax : body.length < 2 ^ 16) :
    let gea := some (nu, (llme.lle sapi.toFin).ocUiRecv)
    gprsLlcRcvmsg c llme (uiHeader sapi.toFin command true nu ++ body) =
      match c.run (len + 3) llme.algo llme.kc (c.genInputUi llme.iovUi sapi.toFin nu
        (llme.lle sapi.toFin).ocUiRecv) .ms2sgsn with
      | none => ⟨.error .enomsg, gea, llme⟩
      | some gamma =>
        let data := xorGamma 0 (len + 3) gamma body
        rcvmsgChecked llme (uiParsed sapi.toFin command true nu (fcsOfOctets (octet data len)
            (octet data (len + 1)) (octet data (len + 2))) len)
          (uiHeader sapi.toFin command true nu ++ data) false gea := by
  intro gea
  have hmod : (len + 3) % 2 ^ 16 = len + 3 := Nat.mod_eq_of_lt (hlen ▸ hmax)
  have hdrop : (uiHeader sapi.toFin command true nu ++ body).drop 3 = body := rfl
  have htake : (uiHeader sapi.toFin command true nu ++ body).take 3 =
    uiHeader sapi.toFin command true nu := rfl
  rw [gprsLlcRcvmsg, parse_uiFrame sapi command true hnu (by omega) hmax]
  simp only [if_true, halgo, ne_eq, not_false_eq_true, rcvmsgDecipher, applyGea, if_false,
    Option.getD_some, hlen, Nat.add_sub_cancel, hmod, hdrop, htake, Option.isSome_none,
    Bool.false_eq_true]
  cases c.run (len + 3) llme.algo llme.kc (c.genInputUi llme.iovUi sapi.toFin nu
    (llme.lle sapi.toFin).ocUiRecv) .ms2sgsn with
  | none => rfl
  | some gamma => rfl

end Received

end OsmoSgsn.Llc
