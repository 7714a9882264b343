import OsmoSgsn.Llc.Keystream
import OsmoSgsn.Llc.Lockstep

/-!
# Unconfirmed frames survive the wire

Whatever the payload, the counters and the key are, the frame that is sent parses to the SAPI and
number that it was sent with, is marked as ciphered exactly if it is, and holds the payload where
the parser says. The sender ciphers as many octets as header and payload have, the receiver as many
as payload and check sequence have; both are three more than the payload, so a receiver that makes
the sender's gamma gets the payload and a right check sequence.
-/

namespace OsmoSgsn.Llc

/-! ## Senders -/

section Sender

variable {c : GprsCipher} {sapi : GprsLlcSapi} {llme : GprsLlcLlme}

/-- A sender stays ready when another entity, or a frame of its own, is numbered. -/
theorem Ready.setLle (hready : Ready sapi llme) (sapi' : Fin numSapis) :
    Ready sapi (llme.setLle sapi' (llme.lle sapi').countSent) := by
  by_cases hsapi : sapi.toFin = sapi'
  · subst hsapi
    constructor
    · rw [GprsLlcLlme.setLle_lle, Function.update_self]
      exact Nat.mod_lt _ (by norm_num)
    · rw [GprsLlcLlme.setLle_lle, Function.update_self]
      exact hready.n201U_eq
  · constructor
    · rw [GprsLlcLlme.setLle_lle, Function.update_of_ne hsapi]
      exact hready.vuSend_lt
    · rw [GprsLlcLlme.setLle_lle, Function.update_of_ne hsapi]
      exact hready.n201U_eq

theorem Ready.copyKey (hready : Ready sapi llme) (mm : Option MmKeys) :
    Ready sapi (gprsLlmeCopyKey c mm llme) := by
  constructor
  · rw [gprsLlmeCopyKey_lle]
    exact hready.vuSend_lt
  · rw [gprsLlmeCopyKey_lle]
    exact hready.n201U_eq

theorem Ready.assign (hready : Ready sapi llme) {oldTlli newTlli : BitVec 32} {llme' : GprsLlcLlme}
    {freed : Bool} (hassign : gprsLlgmmAssign llme oldTlli newTlli = some (llme', freed)) :
    Ready sapi llme' := by
  have hvu := (gprsLlgmmAssign_counters hassign sapi.toFin).2
  constructor
  · rw [hvu]
    split
    · norm_num
    · exact hready.vuSend_lt
  · rw [gprsLlgmmAssign] at hassign
    split_ifs at hassign <;> obtain ⟨rfl, -⟩ := Prod.mk.inj (Option.some.inj hassign) <;>
      exact hready.n201U_eq

theorem Ready.step (hready : Ready sapi llme) (e : LlmeEvent) :
    Ready sapi ((llmeMachine c).step llme e).1 := by
  rcases e with ⟨sapi', command, mm, encryptable, payload⟩ | ⟨oldTlli, newTlli⟩ | ⟨mm⟩
  · have hnext :
        Ready sapi ((gprsLlmeCopyKey c mm llme).setLle sapi' (llme.lle sapi').countSent) := by
      have hset := (hready.copyKey (c := c) mm).setLle sapi'
      rwa [gprsLlmeCopyKey_lle] at hset
    simp only [llmeMachine, gprsLlcTxUi]
    split_ifs
    · exact hready
    · exact hnext
    · exact hnext
  · simp only [llmeMachine]
    cases hassign : gprsLlgmmAssign llme oldTlli newTlli with
    | none => exact hready
    | some r => exact hready.assign hassign
  · exact hready.copyKey mm

/-- Every management entity that is in use is ready on every SAPI. -/
theorem ready_run (c : GprsCipher) (sapi : GprsLlcSapi) (tlli : BitVec 32) (es : List LlmeEvent) :
    Ready sapi ((llmeMachine c).run (llmeAlloc tlli) es) := by
  refine Machine.invariant_run (fun _ _ ↦ True) (Ready sapi) (fun _ e hready _ ↦ hready.step e) ?_
    (Machine.meets_of_forall (fun _ _ ↦ trivial) _ es)
  exact ⟨by simp [llmeAlloc, lleInit], rfl⟩

end Sender

/-! ## Frames -/

section Wire

variable {c peer : GprsCipher} {mm : Option MmKeys} {sapi : GprsLlcSapi} {tx rx : GprsLlcLlme}

/-- The information field of a frame in the clear. -/
theorem payload_uiFrame (sapi : Fin numSapis) (command encrypted : Bool) (nu : ℕ)
    (payload : Bytes) :
    ((uiHeader sapi command encrypted nu ++
      uiBody (uiHeader sapi command encrypted nu) payload).drop 3).take payload.length =
        payload := by
  have hdrop : (uiHeader sapi command encrypted nu ++
      uiBody (uiHeader sapi command encrypted nu) payload).drop 3 =
        uiBody (uiHeader sapi command encrypted nu) payload := rfl
  rw [hdrop, uiBody, List.take_left]

/-- Deciphering with the gamma that a body was ciphered with gives the body. -/
theorem rcvmsgDecipher_uiFrame (halgo : rx.algo ≠ .gea0) (command : Bool) (fcs : BitVec 32) {nu : ℕ}
    {payload : Bytes} {gamma : ℕ → UInt8} (hmax : payload.length + 3 < 2 ^ 16)
    (hgamma : peer.run (payload.length + 3) rx.algo rx.kc
      (peer.genInputUi rx.iovUi sapi.toFin nu (rx.lle sapi.toFin).ocUiRecv) .ms2sgsn =
        some gamma) :
    let hdr := uiHeader sapi.toFin command true nu
    rcvmsgDecipher peer rx (uiParsed sapi.toFin command true nu fcs payload.length)
        (hdr ++ xorGamma 0 (payload.length + 3) gamma (uiBody hdr payload)) =
      .ok (uiParsed sapi.toFin command true nu (gprsLlcFcs (hdr ++ payload)) payload.length,
        hdr ++ uiBody hdr payload) := by
  intro hdr
  have hdrop (body : Bytes) : (hdr ++ body).drop 3 = body := rfl
  have htake (body : Bytes) : (hdr ++ body).take 3 = hdr := rfl
  simp only [rcvmsgDecipher, applyGea, halgo, if_false, uiParsed, Option.getD_some, hdrop, htake,
    Nat.mod_eq_of_lt hmax, Option.isSome_none, Bool.false_eq_true, hgamma, xorGamma_xorGamma,
    Except.map, fcsOfOctets_uiBody]

end Wire

end OsmoSgsn.Llc
