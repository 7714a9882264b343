import OsmoSgsn.Llc.UiFrame

/-!
# Do both ends of a link cipher with the same input?

Frames sent on one SAPI and delivered in order without loss should be deciphered with the `N(U)`
and the overflow counter that they were ciphered with. The receiver advances its overflow counter
on the frame numbered 511. The sender computes the wrap from `V(U)` after the increment, and so
advances one frame early: the frame numbered 511 is already ciphered with the next value.

Starting in step below 511, the two ends therefore part exactly on the frames numbered 511, and
starting at 511, where the sender's early advance is still to come, they agree exactly on those.
Once a ciphered frame is lost to the disagreement the receiver's counters stay behind, so the
first disagreement decides.
-/

namespace OsmoSgsn.Llc

/-! ## A link -/

/-- What the layer above asks to be sent. -/
structure UiRequest where
  /-- Whether the frame is a command. -/
  command : Bool
  /-- Whether the message may be ciphered. -/
  encryptable : Bool
  /-- The information field. -/
  payload : Bytes

section Link

variable (c peer : GprsCipher) (mm : Option MmKeys) (sapi : GprsLlcSapi)

/-- The pairs that the two ends feed to `apply_gea` for each frame, sender first, when the frames
that a list of requests produces are delivered one by one. -/
def linkRun (tx rx : GprsLlcLlme) : List UiRequest → List (Option (ℕ × ℕ) × Option (ℕ × ℕ))
  | [] => []
  | req :: reqs =>
    let sent := gprsLlcTxUi c tx sapi.toFin req.command mm req.encryptable req.payload
    match sent.frame with
    | .error _ => linkRun sent.llme rx reqs
    | .ok frame =>
      let received := gprsLlcRcvmsg peer rx frame
      (sent.gea, received.gea) :: linkRun sent.llme received.llme reqs

/-- Every request produces a frame: it fits into `N201-U` and the gamma could be made. -/
def Produced (tx : GprsLlcLlme) : List UiRequest → Prop
  | [] => True
  | req :: reqs =>
    let sent := gprsLlcTxUi c tx sapi.toFin req.command mm req.encryptable req.payload
    (∃ frame, sent.frame = .ok frame) ∧ Produced sent.llme reqs

/-- The two ends agree on a frame: both feed the same pair, or neither feeds one. -/
def FramesAgree (tx rx : GprsLlcLlme) (reqs : List UiRequest) : Prop :=
  ∀ fed ∈ linkRun c peer mm sapi tx rx reqs, fed.1 = fed.2

/-- The receiving end of a link makes, for the direction it receives, the gamma that the sending
end makes for the direction it sends. -/
def GammaAgree (tx rx : GprsLlcLlme) : Prop :=
  ∀ len nu oc, peer.run len rx.algo rx.kc (peer.genInputUi rx.iovUi sapi.toFin nu oc) .ms2sgsn =
    c.run len (gprsLlmeCopyKey c mm tx).algo (gprsLlmeCopyKey c mm tx).kc
      (c.genInputUi tx.iovUi sapi.toFin nu oc) .sgsn2ms

/-! ## One frame over the link -/

variable {c peer mm sapi}

/-- Whether a frame is ciphered: there is a key and the caller asks for it. -/
def Fed (c : GprsCipher) (mm : Option MmKeys) (tx : GprsLlcLlme) (req : UiRequest) : Prop :=
  (gprsLlmeCopyKey c mm tx).algo ≠ .gea0 ∧ req.encryptable = true

instance (c : GprsCipher) (mm : Option MmKeys) (tx : GprsLlcLlme) (req : UiRequest) :
    Decidable (Fed c mm tx req) := inferInstanceAs (Decidable (_ ∧ _))

/-- A sender whose counter is in range and whose `N201-U` is the default one. -/
structure Ready (sapi : GprsLlcSapi) (tx : GprsLlcLlme) : Prop where
  /-- `V(U)` is below 512. -/
  vuSend_lt : (tx.lle sapi.toFin).vuSend < 512
  /-- `N201-U` is what the table of defaults has for the SAPI. -/
  n201U_eq : (tx.lle sapi.toFin).n201U = llcDefaultN201U sapi.toFin

theorem Ready.n201U_le {tx : GprsLlcLlme} (h : Ready sapi tx) :
    (tx.lle sapi.toFin).n201U ≤ 500 := by
  rw [h.n201U_eq]
  cases sapi <;> decide

/-- The sender after a frame. -/
def afterSent (c : GprsCipher) (mm : Option MmKeys) (sapi : GprsLlcSapi) (tx : GprsLlcLlme) :
    GprsLlcLlme :=
  (gprsLlmeCopyKey c mm tx).setLle sapi.toFin (tx.lle sapi.toFin).countSent

@[simp] theorem afterSent_lle (tx : GprsLlcLlme) :
    (afterSent c mm sapi tx).lle sapi.toFin = (tx.lle sapi.toFin).countSent := by
  simp [afterSent]

theorem copyKey_afterSent (tx : GprsLlcLlme) :
    gprsLlmeCopyKey c mm (afterSent c mm sapi tx) = afterSent c mm sapi tx := by
  rw [afterSent, gprsLlmeCopyKey_setLle, gprsLlmeCopyKey_idem]

@[simp] theorem fed_afterSent (tx : GprsLlcLlme) (req : UiRequest) :
    Fed c mm (afterSent c mm sapi tx) req ↔ Fed c mm tx req := by
  rw [Fed, Fed, copyKey_afterSent]
  rfl

theorem Ready.afterSent {tx : GprsLlcLlme} (h : Ready sapi tx) :
    Ready sapi (afterSent c mm sapi tx) where
  vuSend_lt := by
    rw [afterSent_lle]
    exact Nat.mod_lt _ (by norm_num)
  n201U_eq := by
    rw [afterSent_lle]
    exact h.n201U_eq

theorem GammaAgree.afterSent {tx rx : GprsLlcLlme} (h : GammaAgree c peer mm sapi tx rx) :
    GammaAgree c peer mm sapi (afterSent c mm sapi tx) rx := by
  intro len nu oc
  rw [copyKey_afterSent, h len nu oc]
  simp [Llc.afterSent]

/-- What the sender does with a request that produces a frame. -/
theorem sent_spec {tx : GprsLlcLlme} {req : UiRequest} {frame : Bytes}
    (h : (gprsLlcTxUi c tx sapi.toFin req.command mm req.encryptable req.payload).frame =
      .ok frame) :
    let sent := gprsLlcTxUi c tx sapi.toFin req.command mm req.encryptable req.payload
    let lle := tx.lle sapi.toFin
    let hdr := uiHeader sapi.toFin req.command (Fed c mm tx req) lle.vuSend
    req.payload.length ≤ lle.n201U ∧ sent.llme = afterSent c mm sapi tx ∧
    (¬ Fed c mm tx req → sent.gea = none ∧ frame = hdr ++ uiBody hdr req.payload) ∧
    (Fed c mm tx req → sent.gea = some (lle.vuSend, lle.ocUiSend) ∧
      ∃ gamma, c.run (req.payload.length + 3) (gprsLlmeCopyKey c mm tx).algo
        (gprsLlmeCopyKey c mm tx).kc (c.genInputUi tx.iovUi sapi.toFin lle.vuSend lle.ocUiSend)
        .sgsn2ms = some gamma ∧
      frame = hdr ++ xorGamma 0 (req.payload.length + 3) gamma (uiBody hdr req.payload)) := by
  intro sent lle hdr
  have hlen : req.payload.length ≤ lle.n201U := by
    by_contra hlong
    rw [gprsLlcTxUi_tooLong c tx sapi.toFin req.command mm req.encryptable
      (Nat.lt_of_not_le hlong)] at h
    exact absurd h (by simp)
  by_cases hfed : Fed c mm tx req
  · have heq := gprsLlcTxUi_ciphered c tx sapi.toFin req.command mm req.encryptable hlen hfed
    refine ⟨hlen, by simp only [sent, heq]; rfl, fun hplain ↦ absurd hfed hplain, fun _ ↦
      ⟨by simp only [sent, heq]; rfl, ?_⟩⟩
    rw [heq] at h
    dsimp only at h
    split at h
    · exact absurd h (by simp)
    · next gamma hgamma =>
      refine ⟨gamma, hgamma, ?_⟩
      simpa [hdr, hfed] using h.symm
  · have heq := gprsLlcTxUi_plain c tx sapi.toFin req.command mm req.encryptable hlen hfed
    refine ⟨hlen, by simp only [sent, heq]; rfl, fun _ ↦ ⟨by simp only [sent, heq], ?_⟩,
      fun hcipher ↦ absurd hcipher hfed⟩
    rw [heq] at h
    simpa [hdr, hfed] using h.symm

variable (peer) in
/-- What the receiver does with a frame that the sender produced. -/
theorem received_spec {tx rx : GprsLlcLlme} (hready : Ready sapi tx) (halgo : rx.algo ≠ .gea0)
    {req : UiRequest} {frame : Bytes}
    (h : (gprsLlcTxUi c tx sapi.toFin req.command mm req.encryptable req.payload).frame =
      .ok frame) :
    let received := gprsLlcRcvmsg peer rx frame
    let nu := (tx.lle sapi.toFin).vuSend
    let lle := rx.lle sapi.toFin
    (received.gea = if Fed c mm tx req then some (nu, lle.ocUiRecv) else none) ∧
    (received.llme = rx ∨ ∃ gph : GprsLlcHdrParsed, gph.seqTx = nu ∧
      received.llme = rx.setLle sapi.toFin (gprsLlcHdrRx gph lle).2) ∧
    (lle.vuRecv = nu → (Fed c mm tx req → GammaAgree c peer mm sapi tx rx ∧
        (tx.lle sapi.toFin).ocUiSend = lle.ocUiRecv) →
      received.llme = rx.setLle sapi.toFin (lle.countReceived nu)) := by
  intro received nu lle
  obtain ⟨hlen, -, hplain, hcipher⟩ := sent_spec h
  have hshort : req.payload.length ≤ 500 := hlen.trans hready.n201U_le
  have hchanged (llhp : GprsLlcHdrParsed) (frame : Bytes) (drop : Bool) (gea)
      (hsapi : llhp.sapi = sapi.toFin) (hseq : llhp.seqTx = nu) :
      (rcvmsgChecked rx llhp frame drop gea).llme = rx ∨ ∃ gph : GprsLlcHdrParsed,
        gph.seqTx = nu ∧ (rcvmsgChecked rx llhp frame drop gea).llme =
          rx.setLle sapi.toFin (gprsLlcHdrRx gph lle).2 := by
    rw [rcvmsgChecked_llme, hsapi]
    split
    · exact .inr ⟨llhp, hseq, rfl⟩
    · exact .inl rfl
  have haccepted (llhp : GprsLlcHdrParsed) (frame : Bytes) (drop : Bool) (gea)
      (hsapi : llhp.sapi = sapi.toFin) (hseq : llhp.seqTx = nu) (hcmd : llhp.cmd = .ui)
      (hfcs : fcsMatches llhp frame = true) (hvur : lle.vuRecv = nu) :
      (rcvmsgChecked rx llhp frame drop gea).llme =
        rx.setLle sapi.toFin (lle.countReceived nu) := by
    rw [rcvmsgChecked_llme, if_pos hfcs, hsapi,
      gprsLlcHdrRx_expected llhp lle hcmd (hseq.trans hvur.symm), hseq]
  by_cases hfed : Fed c mm tx req
  · obtain ⟨-, gamma, hgamma, rfl⟩ := hcipher hfed
    simp only [received, hfed, decide_true]
    rw [gprsLlcRcvmsg_ciphered peer rx sapi req.command hready.vuSend_lt halgo
      ((length_xorGamma ..).trans (length_uiBody ..))
      (by simp; omega)]
    -- the receiver's gamma, compared with the sender's where the two ends agree
    have hsame (hagree : GammaAgree c peer mm sapi tx rx)
        (hoc : (tx.lle sapi.toFin).ocUiSend = lle.ocUiRecv) :
        peer.run (req.payload.length + 3) rx.algo rx.kc
          (peer.genInputUi rx.iovUi sapi.toFin nu lle.ocUiRecv) .ms2sgsn = some gamma := by
      rw [hagree, ← hoc]
      exact hgamma
    cases hrun : peer.run (req.payload.length + 3) rx.algo rx.kc
        (peer.genInputUi rx.iovUi sapi.toFin nu lle.ocUiRecv) .ms2sgsn with
    | none =>
      refine ⟨rfl, .inl rfl, fun _ hagree ↦ ?_⟩
      obtain ⟨hagree, hoc⟩ := hagree trivial
      rw [hsame hagree hoc] at hrun
      exact absurd hrun (by simp)
    | some gamma' =>
      refine ⟨rcvmsgChecked_gea .., hchanged _ _ _ _ rfl rfl, fun hvur hagree ↦
        haccepted _ _ _ _ rfl rfl rfl ?_ hvur⟩
      obtain ⟨hagree, hoc⟩ := hagree trivial
      rw [hsame hagree hoc, Option.some.injEq] at hrun
      subst hrun
      rw [xorGamma_xorGamma, fcsOfOctets_uiBody]
      exact fcsMatches_uiFrame sapi.toFin req.command true nu req.payload
  · obtain ⟨-, rfl⟩ := hplain hfed
    simp only [received, hfed, decide_false]
    rw [gprsLlcRcvmsg_plain peer rx sapi req.command hready.vuSend_lt (length_uiBody ..)
      (by simp; omega), fcsOfFrame_uiFrame]
    exact ⟨rcvmsgChecked_gea .., hchanged _ _ _ _ rfl rfl, fun hvur _ ↦
      haccepted _ _ _ _ rfl rfl rfl (fcsMatches_uiFrame ..) hvur⟩

/-! ## The two counters -/

/-- How the overflow counters of the two ends differ when both stand at frame number `nu`. The
sender is ahead at 511; a link that started at 511 (`late`) is behind by one advance, which it
makes up for at 511. -/
def OcRelated (late : Prop) [Decidable late] (nu ocSend ocRecv : ℕ) : Prop :=
  ocSend < 2 ^ 32 ∧ ocRecv < 2 ^ 32 ∧
  if late then if nu = 511 then ocSend = ocRecv else ocRecv = (ocSend + 512) % 2 ^ 32
  else if nu = 511 then ocSend = (ocRecv + 512) % 2 ^ 32 else ocSend = ocRecv

theorem OcRelated.eq_iff {late : Prop} [Decidable late] {nu ocSend ocRecv : ℕ}
    (h : OcRelated late nu ocSend ocRecv) : ocSend = ocRecv ↔ (nu = 511 ↔ late) := by
  obtain ⟨hs, hr, h⟩ := h
  by_cases hlate : late <;> by_cases hnu : nu = 511 <;>
    simp only [hlate, hnu, if_true, if_false, iff_true, iff_false, not_true_eq_false] at h ⊢
  · exact h
  · omega
  · omega
  · simpa using h

/-- Both ends counting one frame keeps the relation. -/
theorem OcRelated.count {late : Prop} [Decidable late] {tx rx : GprsLlcLle}
    (hnu : tx.vuSend < 512) (h : OcRelated late tx.vuSend tx.ocUiSend rx.ocUiRecv) :
    OcRelated late tx.countSent.vuSend tx.countSent.ocUiSend
      (rx.countReceived tx.vuSend).ocUiRecv := by
  obtain ⟨hs, hr, h⟩ := h
  rw [OcRelated, GprsLlcLle.countSent_vuSend hnu, GprsLlcLle.countSent_ocUiSend hnu,
    rx.countReceived_ocUiRecv hnu]
  refine ⟨by split <;> omega, by split <;> omega, ?_⟩
  -- at 510 the sender advances, at 511 the receiver does
  rcases (by omega : tx.vuSend = 510 ∨ tx.vuSend = 511 ∨ tx.vuSend < 510) with h₀ | h₁ | h₂
  · by_cases hlate : late <;> simp [hlate, h₀] at h ⊢ <;> omega
  · by_cases hlate : late <;> simp [hlate, h₁] at h ⊢ <;> omega
  · have h511 : ¬ tx.vuSend = 511 := by omega
    have h510 : ¬ tx.vuSend = 510 := by omega
    by_cases hlate : late <;> simpa [hlate, h511, h510] using h

/-- What holds between the two ends of a link as long as no frame was lost. -/
structure LinkInv (c peer : GprsCipher) (mm : Option MmKeys) (sapi : GprsLlcSapi) (late : Prop)
    [Decidable late] (tx rx : GprsLlcLlme) : Prop where
  /-- The sender can send. -/
  ready : Ready sapi tx
  /-- The receiver deciphers. -/
  algo : rx.algo ≠ .gea0
  /-- Both make the same gamma from the same input. -/
  gamma : GammaAgree c peer mm sapi tx rx
  /-- The receiver expects the number that the sender uses next. -/
  nu : (rx.lle sapi.toFin).vuRecv = (tx.lle sapi.toFin).vuSend
  /-- The overflow counters differ as they should. -/
  oc : OcRelated late (tx.lle sapi.toFin).vuSend (tx.lle sapi.toFin).ocUiSend
    (rx.lle sapi.toFin).ocUiRecv

/-- **One frame.** A frame that is in the clear, or on whose pair the two ends agree, is accepted
and leaves the link as it found it. -/
theorem LinkInv.step {late : Prop} [Decidable late] {tx rx : GprsLlcLlme}
    (hinv : LinkInv c peer mm sapi late tx rx) {req : UiRequest} {frame : Bytes}
    (h : (gprsLlcTxUi c tx sapi.toFin req.command mm req.encryptable req.payload).frame =
      .ok frame)
    (hpair : Fed c mm tx req → (tx.lle sapi.toFin).ocUiSend = (rx.lle sapi.toFin).ocUiRecv) :
    LinkInv c peer mm sapi late (afterSent c mm sapi tx) (gprsLlcRcvmsg peer rx frame).llme := by
  obtain ⟨-, -, haccepted⟩ := received_spec peer hinv.ready hinv.algo h
  rw [haccepted hinv.nu fun hfed ↦ ⟨hinv.gamma, hpair hfed⟩]
  refine ⟨hinv.ready.afterSent, hinv.algo, hinv.gamma.afterSent, ?_, ?_⟩
  · simp [GprsLlcLle.countSent, GprsLlcLle.countReceived]
  · simpa using hinv.oc.count hinv.ready.vuSend_lt

/-- **A whole run.** The two ends agree on every frame exactly if the ciphered frames numbered 511
are those, and only those, that a late link asks for. -/
theorem framesAgree_iff_of_linkInv {late : Prop} [Decidable late] (reqs : List UiRequest)
    {tx rx : GprsLlcLlme} (hinv : LinkInv c peer mm sapi late tx rx)
    (hprod : Produced c mm sapi tx reqs) :
    FramesAgree c peer mm sapi tx rx reqs ↔ ∀ k req, reqs[k]? = some req → Fed c mm tx req →
      (((tx.lle sapi.toFin).vuSend + k) % 512 = 511 ↔ late) := by
  induction reqs generalizing tx rx with
  | nil => simp [FramesAgree, linkRun]
  | cons req reqs ih =>
    obtain ⟨⟨frame, hframe⟩, hrest⟩ := hprod
    obtain ⟨-, hllme, hplain, hcipher⟩ := sent_spec hframe
    obtain ⟨hgea, -, -⟩ := received_spec peer hinv.ready hinv.algo hframe
    rw [hllme] at hrest
    have hlt := hinv.ready.vuSend_lt
    -- the pair of the first frame is right exactly under the condition for index 0
    have hhead : ((gprsLlcTxUi c tx sapi.toFin req.command mm req.encryptable req.payload).gea =
        (gprsLlcRcvmsg peer rx frame).gea) ↔ (Fed c mm tx req →
          (tx.lle sapi.toFin).ocUiSend = (rx.lle sapi.toFin).ocUiRecv) := by
      by_cases hfed : Fed c mm tx req
      · rw [(hcipher hfed).1, hgea, if_pos hfed]
        simp [hfed]
      · rw [(hplain hfed).1, hgea, if_neg hfed]
        simp [hfed]
    have hrun : FramesAgree c peer mm sapi tx rx (req :: reqs) ↔
        (Fed c mm tx req → (tx.lle sapi.toFin).ocUiSend = (rx.lle sapi.toFin).ocUiRecv) ∧
        FramesAgree c peer mm sapi (afterSent c mm sapi tx) (gprsLlcRcvmsg peer rx frame).llme
          reqs := by
      simp only [FramesAgree, linkRun, hframe, hllme, List.forall_mem_cons, hhead]
    have hindex : (∀ k req', (req :: reqs)[k]? = some req' → Fed c mm tx req' →
          (((tx.lle sapi.toFin).vuSend + k) % 512 = 511 ↔ late)) ↔
        (Fed c mm tx req → ((tx.lle sapi.toFin).vuSend = 511 ↔ late)) ∧
        ∀ k req', reqs[k]? = some req' → Fed c mm (afterSent c mm sapi tx) req' →
          ((((afterSent c mm sapi tx).lle sapi.toFin).vuSend + k) % 512 = 511 ↔ late) := by
      have hnext (k : ℕ) : (((afterSent c mm sapi tx).lle sapi.toFin).vuSend + k) % 512 =
          ((tx.lle sapi.toFin).vuSend + (k + 1)) % 512 := by
        simp only [afterSent_lle, GprsLlcLle.countSent]
        omega
      simp only [hnext, fed_afterSent]
      constructor
      · intro h
        refine ⟨fun hfed ↦ ?_, fun k req' hk hfed ↦ h (k + 1) req' hk hfed⟩
        simpa [Nat.mod_eq_of_lt hlt] using h 0 req rfl hfed
      · rintro ⟨h₀, h⟩ (_ | k) req' hk hfed
        · obtain rfl : req = req' := by simpa using hk
          simpa [Nat.mod_eq_of_lt hlt] using h₀ hfed
        · exact h k req' hk hfed
    rw [hrun, hindex, hinv.oc.eq_iff]
    refine and_congr_right fun hpair ↦ ?_
    exact ih (hinv.step hframe fun hfed ↦ hinv.oc.eq_iff.mpr (hpair hfed)) hrest

/-! ## Any receiver -/

variable (peer) in
/-- Whatever becomes of a frame numbered below 511, the receiver's overflow counter stays. -/
theorem received_ocUiRecv {tx rx : GprsLlcLlme} (hready : Ready sapi tx) (halgo : rx.algo ≠ .gea0)
    {req : UiRequest} {frame : Bytes} (hnu : (tx.lle sapi.toFin).vuSend < 511)
    (h : (gprsLlcTxUi c tx sapi.toFin req.command mm req.encryptable req.payload).frame =
      .ok frame) :
    ((gprsLlcRcvmsg peer rx frame).llme.lle sapi.toFin).ocUiRecv =
        (rx.lle sapi.toFin).ocUiRecv ∧
      (gprsLlcRcvmsg peer rx frame).llme.algo = rx.algo := by
  obtain ⟨-, hllme, -⟩ := received_spec peer hready halgo h
  rcases hllme with heq | ⟨gph, hseq, heq⟩
  · rw [heq]
    exact ⟨rfl, rfl⟩
  · rw [heq, GprsLlcLlme.setLle_algo]
    refine ⟨?_, rfl⟩
    simpa using gprsLlcHdrRx_ocUiRecv gph (rx.lle sapi.toFin) (by omega)

/-- **A run of ciphered frames from below 511**, with no assumption on what the receiver makes of
them: the ends agree up to the frame numbered 510 and part on the next one. -/
theorem framesAgree_iff_of_ciphered (reqs : List UiRequest) {tx rx : GprsLlcLlme}
    (hready : Ready sapi tx) (halgo : rx.algo ≠ .gea0) (hprod : Produced c mm sapi tx reqs)
    (hfed : ∀ req ∈ reqs, Fed c mm tx req) (hnu : (tx.lle sapi.toFin).vuSend < 511)
    (hoc : (tx.lle sapi.toFin).ocUiSend = (rx.lle sapi.toFin).ocUiRecv)
    (hmax : (tx.lle sapi.toFin).ocUiSend < 2 ^ 32) :
    FramesAgree c peer mm sapi tx rx reqs ↔
      (tx.lle sapi.toFin).vuSend + reqs.length ≤ 511 := by
  induction reqs generalizing tx rx with
  | nil => simp [FramesAgree, linkRun, hnu.le]
  | cons req reqs ih =>
    obtain ⟨⟨frame, hframe⟩, hrest⟩ := hprod
    obtain ⟨-, hllme, -, hcipher⟩ := sent_spec hframe
    obtain ⟨hgea, -, -⟩ := received_spec peer hready halgo hframe
    obtain ⟨hstay, halgo'⟩ := received_ocUiRecv peer hready halgo hnu hframe
    rw [hllme] at hrest
    rw [List.forall_mem_cons] at hfed
    have hrun : FramesAgree c peer mm sapi tx rx (req :: reqs) ↔
        FramesAgree c peer mm sapi (afterSent c mm sapi tx) (gprsLlcRcvmsg peer rx frame).llme
          reqs := by
      simp only [FramesAgree, linkRun, hframe, hllme, List.forall_mem_cons, hgea,
        (hcipher hfed.1).1, hfed.1, if_true, hoc, true_and]
    have hfed' : ∀ req' ∈ reqs, Fed c mm (afterSent c mm sapi tx) req' := by
      simpa using hfed.2
    have hnext := GprsLlcLle.countSent_vuSend hready.vuSend_lt
    have hocNext := GprsLlcLle.countSent_ocUiSend hready.vuSend_lt
    rw [if_neg (by omega)] at hnext
    rw [hrun, List.length_cons]
    by_cases h510 : (tx.lle sapi.toFin).vuSend = 510
    · -- the sender has advanced, the receiver has not
      rcases reqs with _ | ⟨req', reqs⟩
      · simp [FramesAgree, linkRun, h510]
      · obtain ⟨⟨frame', hframe'⟩, -⟩ := hrest
        obtain ⟨-, -, -, hcipher'⟩ := sent_spec hframe'
        obtain ⟨hgea', -, -⟩ := received_spec peer hready.afterSent
          (halgo' ▸ halgo) hframe'
        have hfed'' := hfed' req' (by simp)
        refine iff_of_false (fun hagree ↦ ?_) (by simp; omega)
        have hpair := hagree (some _, some _) (by
          simp only [linkRun, hframe', (hcipher' hfed'').1, hgea', hfed'', if_true]
          exact List.mem_cons_self)
        simp only [Option.some.injEq, Prod.mk.injEq, true_and, afterSent_lle, hocNext, h510,
          if_true, hstay] at hpair
        omega
    · rw [if_neg h510] at hocNext
      rw [ih hready.afterSent (halgo' ▸ halgo) hrest hfed' (by rw [afterSent_lle, hnext]; omega)
        (by rw [afterSent_lle, hocNext, hstay, hoc]) (by rw [afterSent_lle, hocNext]; exact hmax),
        afterSent_lle, hnext]
      omega

end Link

/-! ## The link as a whole -/

/-- **When both ends cipher with the same input.** Take a link whose ends have equal counters, and
any requests that all produce frames. If the receiving end makes the sender's gammas, the ends
agree on every ciphered frame exactly if, starting below 511, no ciphered frame is numbered 511,
and starting at 511, all of them are. If every frame is ciphered and the start is below 511, then
whatever the receiver makes of the frames, the ends agree exactly up to the frame numbered 510. -/
theorem ui_ciphering_input_agrees_iff (c peer : GprsCipher) (mm : Option MmKeys)
    (sapi : GprsLlcSapi) (tx rx : GprsLlcLlme) (reqs : List UiRequest) (hready : Ready sapi tx)
    (halgo : rx.algo ≠ .gea0)
    (hnu : (rx.lle sapi.toFin).vuRecv = (tx.lle sapi.toFin).vuSend)
    (hoc : (rx.lle sapi.toFin).ocUiRecv = (tx.lle sapi.toFin).ocUiSend)
    (hmax : (tx.lle sapi.toFin).ocUiSend < 2 ^ 32) (hprod : Produced c mm sapi tx reqs) :
    (GammaAgree c peer mm sapi tx rx →
      (FramesAgree c peer mm sapi tx rx reqs ↔ ∀ k req, reqs[k]? = some req → Fed c mm tx req →
        (((tx.lle sapi.toFin).vuSend + k) % 512 = 511 ↔ (tx.lle sapi.toFin).vuSend = 511))) ∧
    ((tx.lle sapi.toFin).vuSend < 511 → (∀ req ∈ reqs, Fed c mm tx req) →
      (FramesAgree c peer mm sapi tx rx reqs ↔
        (tx.lle sapi.toFin).vuSend + reqs.length ≤ 511)) := by
  refine ⟨fun hgamma ↦ framesAgree_iff_of_linkInv reqs ⟨hready, halgo, hgamma, hnu, ?_⟩ hprod,
    fun hlt hfed ↦ framesAgree_iff_of_ciphered reqs hready halgo hprod hfed hlt hoc.symm hmax⟩
  refine ⟨hmax, hoc ▸ hmax, ?_⟩
  split_ifs with h <;> exact hoc.symm

/-! ### A link about to wrap -/

/-- A ciphered message of one octet. -/
def exampleRequest : UiRequest := ⟨false, true, [0x2a]⟩

theorem exampleLlme_ready : Ready .gmm (exampleLlme 510) := ⟨by decide, rfl⟩

theorem example_produced : Produced exampleCipher none .gmm (exampleLlme 510)
    [exampleRequest, exampleRequest] :=
  ⟨⟨_, rfl⟩, ⟨_, rfl⟩, trivial⟩

/-- At 510 the first frame agrees, as the general result says for a run of one. -/
theorem ui_ciphering_input_agrees_before_wrap :
    FramesAgree exampleCipher exampleCipher none .gmm (exampleLlme 510) (exampleLlme 510)
      [exampleRequest] :=
  ((ui_ciphering_input_agrees_iff exampleCipher exampleCipher none .gmm (exampleLlme 510)
    (exampleLlme 510) [exampleRequest] exampleLlme_ready (by decide) rfl rfl (by decide)
    ⟨⟨_, rfl⟩, trivial⟩).2 (by decide) (by simp [exampleRequest, Fed]; decide)).mpr (by decide)

/-- The second frame, numbered 511, is sent with overflow counter 512 and received with 0, although
both ends started with the same counters and make the same gammas. -/
theorem ui_ciphering_input_differs_at_wrap :
    Ready .gmm (exampleLlme 510) ∧
    GammaAgree exampleCipher exampleCipher none .gmm (exampleLlme 510) (exampleLlme 510) ∧
    Produced exampleCipher none .gmm (exampleLlme 510) [exampleRequest, exampleRequest] ∧
    linkRun exampleCipher exampleCipher none .gmm (exampleLlme 510) (exampleLlme 510)
      [exampleRequest, exampleRequest] =
        [(some (510, 0), some (510, 0)), (some (511, 512), some (511, 0))] ∧
    ¬ FramesAgree exampleCipher exampleCipher none .gmm (exampleLlme 510) (exampleLlme 510)
      [exampleRequest, exampleRequest] := by
  have hrun : linkRun exampleCipher exampleCipher none .gmm (exampleLlme 510) (exampleLlme 510)
      [exampleRequest, exampleRequest] =
        [(some (510, 0), some (510, 0)), (some (511, 512), some (511, 0))] := by
    decide +kernel
  refine ⟨exampleLlme_ready, fun _ _ _ ↦ rfl, example_produced, hrun, ?_⟩
  rw [FramesAgree, hrun]
  decide

end OsmoSgsn.Llc
