import OsmoSgsn.Llc.Keystream

/-!
# Can ciphering be bypassed?

Once a mobile has a key, what it sends should come ciphered. Whether a frame did is known when its
header is read, and `gprs_llc_rcvmsg` hands a flag up with a frame that did not: mobility management
drops the messages that must be ciphered. The flag goes no further, though. Session management is
called without it, and a frame for SNDCP is passed on without a look at it, so user data and session
management messages are accepted in the clear.
-/

namespace OsmoSgsn.Llc

/-- The functions on message headers of the protocol library, which is not part of this
repository. -/
structure Gsm48Lib where
  /-- `gsm48_hdr_pdisc`: the protocol discriminator. -/
  pdisc : Bytes → ℕ
  /-- `gsm48_hdr_gmm_cipherable`: whether a mobility management message is to be ciphered. -/
  gmmCipherable : Bytes → Bool

/-- `GSM48_PDISC_MM_GPRS`. -/
def gsm48PdiscMmGprs : ℕ := 0x08
/-- `GSM48_PDISC_SM_GPRS`. -/
def gsm48PdiscSmGprs : ℕ := 0x0a

/-- The handlers that an information field can reach. -/
inductive UplinkHandler
  /-- `sndcp_ll_unitdata_ind`. -/
  | sndcpLlUnitdataInd (sapi : Fin numSapis) (payload : Bytes)
  /-- `gsm0408_rcv_gmm`, past the check for messages in the clear. -/
  | rcvGmm (payload : Bytes)
  /-- `gsm0408_rcv_gsm`. -/
  | rcvGsm (payload : Bytes)
  deriving DecidableEq, Repr

/-- The check at the start of `gsm0408_rcv_gmm`. -/
def gsm0408RcvGmm (lib : Gsm48Lib) (payload : Bytes) (dropCipherable : Bool) :
    Option UplinkHandler :=
  if dropCipherable ∧ lib.gmmCipherable payload then none else some (.rcvGmm payload)

/-- Dispatch a message by its protocol discriminator. -/
def gsm0408GprsRcvmsgGb (lib : Gsm48Lib) (payload : Bytes) (dropCipherable : Bool) :
    Option UplinkHandler :=
  if lib.pdisc payload = gsm48PdiscMmGprs then gsm0408RcvGmm lib payload dropCipherable
  else if lib.pdisc payload = gsm48PdiscSmGprs then some (.rcvGsm payload)
  else none

/-- The handler that a delivery reaches. -/
def LlcDelivery.handler (lib : Gsm48Lib) : LlcDelivery → Option UplinkHandler
  | .gmm payload dropCipherable => gsm0408GprsRcvmsgGb lib payload dropCipherable
  | .sndcp sapi payload => some (.sndcpLlUnitdataInd sapi payload)

/-- Whether what a handler receives is to be ciphered. -/
def UplinkHandler.NeedsCipher (lib : Gsm48Lib) : UplinkHandler → Prop
  | .sndcpLlUnitdataInd _ _ => True
  | .rcvGmm payload => lib.gmmCipherable payload = true
  | .rcvGsm _ => True

/-- The handler that a frame reaches. -/
def frameHandler (c : GprsCipher) (lib : Gsm48Lib) (llme : GprsLlcLlme) (frame : Bytes) :
    Option UplinkHandler :=
  match (gprsLlcRcvmsg c llme frame).rc with
  | .ok (_, some delivery) => delivery.handler lib
  | _ => none

/-- What happens to a management entity. -/
inductive UplinkEvent
  /-- A frame is received. -/
  | rx (frame : Bytes)
  /-- A frame is sent, a TLLI is assigned or a key is handed down. -/
  | above (e : LlmeEvent)

/-- A frame that was received, and the handler that it reached. -/
structure FrameReceived where
  /-- The management entity before. -/
  before : GprsLlcLlme
  /-- The frame. -/
  frame : Bytes
  /-- The handler. -/
  handler : Option UplinkHandler

/-- A management entity as a machine whose outputs are the frames that it receives. -/
def uplinkMachine (c : GprsCipher) (lib : Gsm48Lib) :
    Machine GprsLlcLlme UplinkEvent FrameReceived where
  step llme
    | .rx frame =>
      ((gprsLlcRcvmsg c llme frame).llme, [⟨llme, frame, frameHandler c lib llme frame⟩])
    | .above e => (((llmeMachine c).step llme e).1, [])

/-- The management entity has a key in use. -/
def GprsLlcLlme.HasKey (llme : GprsLlcLlme) : Prop := llme.algo ≠ .gea0 ∧ llme.cksn ≠ gsmKeySeqInval

/-- A frame came with the mark of a ciphered frame and has been deciphered. -/
def Deciphered (c : GprsCipher) (llme : GprsLlcLlme) (frame : Bytes) : Prop :=
  ∃ hdr plain, gprsLlcHdrParse frame = .ok hdr ∧ hdr.isEncrypted = true ∧
    rcvmsgDecipher c llme hdr frame = .ok plain

/-- With a key in use, what is to be ciphered reaches a handler only if it was. -/
def FrameReceived.Protected (c : GprsCipher) (lib : Gsm48Lib) (o : FrameReceived) : Prop :=
  o.before.HasKey → ∀ handler, o.handler = some handler → handler.NeedsCipher lib →
    Deciphered c o.before o.frame

/-- A frame in the clear is accepted and has an information field. -/
structure AcceptedClear (llme : GprsLlcLlme) (frame : Bytes) (hdr : GprsLlcHdrParsed) : Prop where
  /-- The header can be read. -/
  parsed : gprsLlcHdrParse frame = .ok hdr
  /-- The frame is not marked as ciphered. -/
  clear : hdr.isEncrypted = false
  /-- The check sequence is right. -/
  fcs : fcsMatches hdr frame = true
  /-- The number is accepted. -/
  accepted : (gprsLlcHdrRx hdr (llme.lle hdr.sapi)).1.isOk = true
  /-- It is an unconfirmed frame. -/
  ui : hdr.cmd = .ui
  /-- It is not empty. -/
  nonempty : hdr.dataLen ≠ 0

/-- With a key in use, a frame that is accepted in the clear is not for SNDCP and is not a session
management message. -/
def ClearIsGmm (lib : Gsm48Lib) (llme : GprsLlcLlme) : UplinkEvent → Prop
  | .rx frame => llme.HasKey → ∀ hdr, AcceptedClear llme frame hdr →
      hdr.sapi ∉ ([3, 5, 9, 11] : List (Fin numSapis)) ∧
      (hdr.sapi = 1 → lib.pdisc ((frame.drop 3).take hdr.dataLen) ≠ gsm48PdiscSmGprs)
  | .above _ => True

section Step

variable {c : GprsCipher} {lib : Gsm48Lib} {llme : GprsLlcLlme} {frame : Bytes}

theorem supervisoryCmd_ne_ui (b : UInt8) : supervisoryCmd b ≠ .ui := by
  rw [supervisoryCmd]
  split <;> simp

theorem unnumberedCmd_ne_ui (b : UInt8) : unnumberedCmd b ≠ some .ui := by
  rw [unnumberedCmd]
  split <;> simp

/-- The information field of an unconfirmed frame has offset 3. -/
theorem data_of_ui {hdr : GprsLlcHdrParsed} (hparse : gprsLlcHdrParse frame = .ok hdr)
    (hui : hdr.cmd = .ui) : hdr.data = some 3 := by
  have hok {p : GprsLlcHdrParsed} (h : (Except.ok p : Except Errno GprsLlcHdrParsed).bind
      (fun p ↦ if p.cmd = .sack then .error .eio else .ok p) = .ok hdr) : p = hdr := by
    rw [Except.bind] at h
    split at h
    · cases h
    · exact Except.ok.inj h
  unfold gprsLlcHdrParse at hparse
  dsimp only at hparse
  split_ifs at hparse with h₀ h₁ h₂ hI hsack hS hUI
  · rw [← hok hparse] at hui
    exact absurd hui (supervisoryCmd_ne_ui _)
  · rw [← hok hparse] at hui
    exact absurd hui (supervisoryCmd_ne_ui _)
  · rw [← hok hparse] at hui
    exact absurd hui (supervisoryCmd_ne_ui _)
  · rw [← hok hparse]
    rfl
  · rw [← hok hparse]
    rfl
  · cases hcmd : unnumberedCmd (octet frame 1) with
    | none =>
      rw [hcmd] at hparse
      cases hparse
    | some cmd =>
      rw [hcmd] at hparse
      have hne : cmd ≠ .ui := by
        rintro rfl
        exact unnumberedCmd_ne_ui _ hcmd
      cases cmd <;> first | exact absurd rfl hne | (rw [← hok hparse] at hui; cases hui)

/-- A frame that is in the clear by now is delivered if its check sequence and number are right. -/
theorem rcvmsgChecked_rc {hdr : GprsLlcHdrParsed} {drop : Bool} {gea : Option (ℕ × ℕ)}
    {action : HdrRxAction} {d : LlcDelivery} :
    (rcvmsgChecked llme hdr frame drop gea).rc = .ok (action, some d) ↔
      fcsMatches hdr frame = true ∧ (gprsLlcHdrRx hdr (llme.lle hdr.sapi)).1 = .ok action ∧
        llcDeliver hdr frame drop = .ok (some d) := by
  rw [rcvmsgChecked]
  split
  · next hfcs =>
    cases hrx : gprsLlcHdrRx hdr (llme.lle hdr.sapi) with
    | mk rc lle =>
      cases rc with
      | error e => simp
      | ok action' =>
        cases hdel : llcDeliver hdr frame drop with
        | error e => simp [Except.map]
        | ok d' => simp [Except.map, hfcs]
  · next hfcs => simp [hfcs]

theorem frameHandler_eq_some {handler : UplinkHandler} :
    frameHandler c lib llme frame = some handler ↔ ∃ action d,
      (gprsLlcRcvmsg c llme frame).rc = .ok (action, some d) ∧ d.handler lib = some handler := by
  rw [frameHandler]
  split
  · next action d heq => simp [heq]
  · next hnone =>
    refine iff_of_false (by simp) ?_
    rintro ⟨action, d, heq, -⟩
    exact hnone action d heq

/-- A frame in the clear is checked with the flag that a key is in use. -/
theorem gprsLlcRcvmsg_clear {hdr : GprsLlcHdrParsed} (hparse : gprsLlcHdrParse frame = .ok hdr)
    (hclear : hdr.isEncrypted = false) (hkey : llme.HasKey) :
    gprsLlcRcvmsg c llme frame = rcvmsgChecked llme hdr frame true none := by
  rw [gprsLlcRcvmsg, hparse]
  simp [hclear, hkey.1, hkey.2]

/-- Where an accepted frame goes. -/
theorem AcceptedClear.deliver {hdr : GprsLlcHdrParsed} (hacc : AcceptedClear llme frame hdr)
    (drop : Bool) : llcDeliver hdr frame drop =
      if hdr.sapi = 1 then .ok (some (.gmm ((frame.drop 3).take hdr.dataLen) drop))
      else if hdr.sapi ∈ ([3, 5, 9, 11] : List (Fin numSapis)) then
        .ok (some (.sndcp hdr.sapi ((frame.drop 3).take hdr.dataLen)))
      else .error .einval := by
  rw [llcDeliver, data_of_ui hacc.parsed hacc.ui]
  simp [hacc.ui, hacc.nonempty]

/-- An accepted frame in the clear reaches the handler of its delivery. -/
theorem AcceptedClear.handler {hdr : GprsLlcHdrParsed} (hacc : AcceptedClear llme frame hdr)
    (hkey : llme.HasKey) {d : LlcDelivery} (hd : llcDeliver hdr frame true = .ok (some d)) :
    frameHandler c lib llme frame = d.handler lib := by
  cases hrx : (gprsLlcHdrRx hdr (llme.lle hdr.sapi)).1 with
  | error e =>
    have hok := hacc.accepted
    rw [hrx] at hok
    cases hok
  | ok action =>
    rw [frameHandler, gprsLlcRcvmsg_clear hacc.parsed hacc.clear hkey,
      rcvmsgChecked_rc.mpr ⟨hacc.fcs, hrx, hd⟩]

/-- A frame in the clear that is delivered has been accepted. -/
theorem acceptedClear_of_delivers {hdr : GprsLlcHdrParsed} {action : HdrRxAction} {d : LlcDelivery}
    (hparse : gprsLlcHdrParse frame = .ok hdr) (hclear : hdr.isEncrypted = false)
    (hkey : llme.HasKey) (hrc : (gprsLlcRcvmsg c llme frame).rc = .ok (action, some d)) :
    AcceptedClear llme frame hdr ∧ llcDeliver hdr frame true = .ok (some d) := by
  rw [gprsLlcRcvmsg_clear hparse hclear hkey] at hrc
  obtain ⟨hfcs, hrx, hdel⟩ := rcvmsgChecked_rc.mp hrc
  have hcmd : hdr.cmd = .ui ∧ hdr.dataLen ≠ 0 := by
    by_contra hnot
    rw [llcDeliver] at hdel
    split at hdel
    · cases hdel
    · rw [if_neg hnot] at hdel
      cases hdel
  exact ⟨⟨hparse, hclear, hfcs, by rw [hrx]; rfl, hcmd.1, hcmd.2⟩, hdel⟩

/-- A marked frame that is delivered has been deciphered. -/
theorem deciphered_of_delivers {hdr : GprsLlcHdrParsed} {action : HdrRxAction} {d : LlcDelivery}
    (hparse : gprsLlcHdrParse frame = .ok hdr) (henc : hdr.isEncrypted = true)
    (hrc : (gprsLlcRcvmsg c llme frame).rc = .ok (action, some d)) : Deciphered c llme frame := by
  rw [gprsLlcRcvmsg, hparse] at hrc
  simp only [henc, if_true] at hrc
  split at hrc
  · cases hdec : rcvmsgDecipher c llme hdr frame with
    | error e =>
      rw [hdec] at hrc
      cases hrc
    | ok plain => exact ⟨hdr, plain, hparse, henc, hdec⟩
  · cases hrc

/-- **One frame.** -/
theorem rx_protected_iff (llme : GprsLlcLlme) (frame : Bytes) :
    FrameReceived.Protected c lib ⟨llme, frame, frameHandler c lib llme frame⟩ ↔
      ClearIsGmm lib llme (.rx frame) := by
  constructor
  · intro hprot hkey hdr hacc
    have hnot (handler : UplinkHandler) (hh : frameHandler c lib llme frame = some handler)
        (hneeds : handler.NeedsCipher lib) : False := by
      obtain ⟨hdr', plain, hparse, henc, -⟩ := hprot hkey handler hh hneeds
      rw [hacc.parsed] at hparse
      cases hparse
      rw [hacc.clear] at henc
      cases henc
    have hdel := hacc.deliver true
    constructor
    · intro hsapi
      have hne : hdr.sapi ≠ 1 := by
        rintro heq
        rw [heq] at hsapi
        exact absurd hsapi (by decide)
      rw [if_neg hne, if_pos hsapi] at hdel
      exact hnot _ (hacc.handler hkey hdel) trivial
    · intro hsapi hsm
      rw [if_pos hsapi] at hdel
      refine hnot (.rcvGsm ((frame.drop 3).take hdr.dataLen)) ?_ trivial
      rw [hacc.handler hkey hdel, LlcDelivery.handler, gsm0408GprsRcvmsgGb,
        if_neg (by rw [hsm]; decide), if_pos hsm]
  · intro hclear hkey handler hh hneeds
    obtain ⟨action, d, hrc, hd⟩ := frameHandler_eq_some.mp hh
    cases hparse : gprsLlcHdrParse frame with
    | error e =>
      rw [gprsLlcRcvmsg, hparse] at hrc
      cases hrc
    | ok hdr =>
      cases henc : hdr.isEncrypted with
      | true => exact deciphered_of_delivers hparse henc hrc
      | false =>
        exfalso
        obtain ⟨hacc, hdel⟩ := acceptedClear_of_delivers hparse henc hkey hrc
        obtain ⟨hsndcp, hsm⟩ := hclear hkey hdr hacc
        rw [hacc.deliver, if_neg hsndcp] at hdel
        split at hdel
        · next hsapi =>
          cases hdel
          rw [LlcDelivery.handler, gsm0408GprsRcvmsgGb, if_neg (hsm hsapi), gsm0408RcvGmm] at hd
          split_ifs at hd with _ hcipherable
          · cases hd
            exact hcipherable ⟨rfl, hneeds⟩
        · cases hdel

end Step

/-- **Ciphering on the uplink.** In every run of a management entity, what is to be ciphered reaches
a handler only if it was, exactly if no frame that is accepted in the clear while a key is in use is
for SNDCP or is a session management message. -/
theorem uplink_protected_iff (c : GprsCipher) (lib : Gsm48Lib) (llme : GprsLlcLlme)
    (es : List UplinkEvent) :
    (∀ o ∈ (uplinkMachine c lib).trace llme es, o.Protected c lib) ↔
      (uplinkMachine c lib).Meets (ClearIsGmm lib) llme es := by
  refine Machine.forall_mem_trace_iff (ClearIsGmm lib) fun llme e ↦ ?_
  cases e with
  | rx frame =>
    rw [← rx_protected_iff]
    exact List.forall_mem_singleton
  | above e => exact ⟨fun _ ↦ trivial, fun _ o ho ↦ absurd ho List.not_mem_nil⟩

/-- The functions of the protocol library, as far as the example goes. -/
def exampleGsm48Lib : Gsm48Lib where
  pdisc payload := (octet payload 0).toNat % 16
  gmmCipherable payload := octet payload 1 ∉ ([0x01, 0x04, 0x08, 0x0b, 0x12, 0x13, 0x14, 0x15,
    0x16, 0x1c] : List UInt8)

/-- A frame in the clear, with its check sequence. -/
def exampleClearFrame (sapi : Fin numSapis) (payload : Bytes) : Bytes :=
  uiHeader sapi false false 0 ++ uiBody (uiHeader sapi false false 0) payload

/-- A mobile with a key sends a packet for SNDCP in the clear. -/
theorem clear_packet_reaches_sndcp : ¬ ∀ (c : GprsCipher) (lib : Gsm48Lib) (llme : GprsLlcLlme)
    (es : List UplinkEvent), ∀ o ∈ (uplinkMachine c lib).trace llme es, o.Protected c lib := by
  intro hall
  have hhandler : frameHandler exampleCipher exampleGsm48Lib (exampleLlme 0)
      (exampleClearFrame 3 [0x2a]) = some (.sndcpLlUnitdataInd 3 [0x2a]) := by decide +kernel
  have hkey : (exampleLlme 0).HasKey := ⟨by decide, by decide⟩
  have hprot (c : GprsCipher) (lib : Gsm48Lib) (llme : GprsLlcLlme) (frame : Bytes)
      (hkey : llme.HasKey) (handler : UplinkHandler)
      (hh : frameHandler c lib llme frame = some handler) (hneeds : handler.NeedsCipher lib) :
      Deciphered c llme frame :=
    hall c lib llme [.rx frame] _ List.mem_cons_self hkey handler hh hneeds
  obtain ⟨hdr, plain, hparse, henc, -⟩ := hprot _ _ _ _ hkey _ hhandler trivial
  have hclear : (gprsLlcHdrParse (exampleClearFrame 3 [0x2a])).map (·.isEncrypted) =
      .ok false := by decide +kernel
  rw [hparse, Except.map, henc] at hclear
  cases hclear

end OsmoSgsn.Llc
