import OsmoSgsn.Iu.Ready

/-!
# Checks that end the process

The handlers of connection-oriented RANAP messages as the gateway has them say what is done with a
message that is taken. Here are the same handlers with the elements of the messages and with the
checks that abort: `OSMO_ASSERT`, and `msgb_put`, which has to find room in the buffer that the NAS
message is copied to. Faults of the layers above come on top of that.

None of the assertions fails. The buffer has 256 octets, whatever the RNC sends: a NAS message that
is longer ends the process where it is copied, and otherwise the handlers do what those of the
gateway do.
-/

namespace OsmoSgsn.Iu.Checks

open EStateM OsmoSgsn.Ra OsmoSgsn.Gmm

/-! ## Messages -/

/-- `OCTET_STRING_t`, where there may be no buffer. -/
abbrev OctetString := Option Bytes

/-- `RANAP_LAI_t`. -/
structure Lai where
  plmnIdentity : OctetString
  lac : OctetString
  deriving DecidableEq, Repr

/-- `RANAP_GlobalRNC_ID_t`. -/
structure GlobalRncId where
  plmnIdentity : OctetString
  rncId : ℕ
  deriving DecidableEq, Repr

/-- `RANAP_InitialUE_MessageIEs_t`. An element that may be absent is optional. -/
structure InitialUeIes where
  lai : Lai
  rac : Option (BitVec 8)
  globalRncId : GlobalRncId
  nasPdu : OctetString
  deriving DecidableEq, Repr

/-- `RANAP_DirectTransferIEs_t`. -/
structure DirectTransferIes where
  nasPdu : OctetString
  lai : Option Lai
  rac : Option (BitVec 8)
  deriving DecidableEq, Repr

/-- `ranap_message`, as far as the gateway tells messages apart. -/
inductive RanapMessage
  | initialUe (ies : InitialUeIes)
  | directTransfer (ies : DirectTransferIes)
  | errorIndication
  | iuReleaseRequest
  | securityModeComplete
  | iuReleaseComplete
  /-- The list of RABs, which may be absent, and may have pointers to nothing. -/
  | rabAssignmentResponse (raBSetupOrModifiedList : Option (List (Option Bytes)))
  | other
  deriving DecidableEq, Repr

/-- What is done elsewhere: by the libraries, and by mobility management with a NAS message. -/
structure RanapLib where
  ranapParseLai : Lai → Option LocationAreaId
  osmoPlmnFromBcd : Bytes → PlmnId
  /-- `ranap_decode_rab_setupormodifieditemies_fromlist`. -/
  decodeRab : Bytes → Option RabAssignment
  nas : Bytes → UplinkMsg
  /-- What is in `_ra_id.rac` before anything is written there. -/
  staleRac : BitVec 8

/-- The octets of a string. -/
def octets (s : OctetString) : Bytes := s.getD []

variable (lib : RanapLib)

/-- `iu_grnc_id_parse`. -/
def iuGrncIdParse (src : GlobalRncId) : Option RncId :=
  match src.plmnIdentity with
  | none => none
  | some buf =>
    if buf.length ≠ 3 then none
    else some ⟨lib.osmoPlmnFromBcd buf, .ofNat 16 src.rncId⟩

/-- `sgsn_ranap_parse_lai`. -/
def sgsnRanapParseLai (lai : Lai) : Option LocationAreaId :=
  match lai.plmnIdentity with
  | none => none
  | some buf => if buf.length ≠ 3 then none else lib.ranapParseLai lai

/-! ## Aborts -/

/-- What ends the process while a message is handled. -/
inductive Abort
  /-- An `OSMO_ASSERT` of `iu_rnc_fsm.c` or `gprs_ranap.c` fails. -/
  | assertion
  /-- `msgb_put` finds too little room. -/
  | tailroom
  /-- A fault of the code that the upper layers are. -/
  | upper (f : Fault)
  deriving DecidableEq, Repr

variable {Addr Route : Type} {α : Type}

/-- Code that may abort. -/
abbrev CoM (Addr : Type) := EStateM Abort (IuSgsn Addr)

/-- Run code of the gateway. -/
def lower (m : IuM Addr α) : CoM Addr α := adaptExcept .upper m

/-- `OSMO_ASSERT` of a pointer. -/
def osmoAssert (p : Option α) : CoM Addr α :=
  match p with
  | none => throw .assertion
  | some a => pure a

/-- `struct msgb`, with as much room as it was allocated with. -/
structure Msgb where
  dataLen : ℕ
  data : Bytes

/-- `msgb_alloc`. -/
def msgbAlloc (size : ℕ) : Msgb := ⟨size, []⟩

/-- `msgb_tailroom`. -/
def Msgb.tailroom (msg : Msgb) : ℕ := msg.dataLen - msg.data.length

/-- `msgb_put`, and the octets that are copied to what it returns. -/
def msgbPut (msg : Msgb) (octets : Bytes) : CoM Addr Msgb :=
  if msg.tailroom < octets.length then throw .tailroom
  else pure { msg with data := msg.data ++ octets }

def osmoReservedRac : BitVec 8 := 0xff

/-! ## Handlers -/

variable [DecidableEq Route] (sccp : SccpAddrs Addr Route) (c : Calls)

/-- `ue_conn_ctx_alloc`. -/
def ueConnCtxAlloc (connId : ConnId) (ue : UeId) : CoM Addr (Option UeId) := do
  lower (Iu.ueConnCtxAlloc connId ue)
  pure (some ue)

/-- `ranap_handle_co_initial_ue`. The allocator returns what is not in use. -/
def ranapHandleCoInitialUe (rnc : RncPtr) (connId : ConnId) (ue : UeId) (ies : InitialUeIes) :
    CoM Addr Unit := do
  let msg := msgbAlloc 256
  match sgsnRanapParseLai lib ies.lai, ies.rac, iuGrncIdParse lib ies.globalRncId with
  | none, _, _ => pure ()
  | some _, none, _ => pure ()
  | some lai, some rac, rncId =>
    if rac = osmoReservedRac then pure ()
    else if rncId = none then pure ()
    else if octets ies.nasPdu = [] then pure ()
    else
      let msg ← msgbPut msg (octets ies.nasPdu)
      lower (modify fun s ↦ { s with rncs := s.rncs.updateRaiSeen rnc ⟨lai, rac⟩ })
      match (← get).sgsn.ues ue with
      | some _ => pure ()
      | none =>
        let ue ← osmoAssert (← ueConnCtxAlloc connId ue)
        lower (onSgsn (Gmm.ranapHandleCoInitialUe c ue rnc (raIdOf ⟨lai, rac⟩) (lib.nas msg.data)))

/-- `sgsn_ranap_iu_handle_co_initial`. -/
def sgsnRanapIuHandleCoInitial (rnc : RncPtr) (connId : ConnId) (ue : UeId) :
    RanapMessage → CoM Addr Unit
  | .initialUe ies => ranapHandleCoInitialUe lib c rnc connId ue ies
  | _ => pure ()

/-- The end of `ranap_handle_co_dt`. -/
def feedNas (ue : UeId) (ra : Option RaId) (nas : Bytes) : CoM Addr Unit := do
  let msg ← msgbPut (msgbAlloc 256) nas
  lower (onSgsn (gsm0408GprsRcvmsgIu c ue ra (lib.nas msg.data)))

/-- `ranap_handle_co_dt`. -/
def ranapHandleCoDt (ue : UeId) (ies : DirectTransferIes) : CoM Addr Unit :=
  if octets ies.nasPdu = [] then pure ()
  else match ies.lai with
    | none => feedNas lib c ue none (octets ies.nasPdu)
    | some lai =>
      match sgsnRanapParseLai lib lai with
      | none => pure ()
      | some lai =>
        feedNas lib c ue (some (raIdOf ⟨lai, ies.rac.getD lib.staleRac⟩)) (octets ies.nasPdu)

/-- `ranap_handle_co_rab_ass_resp`. Of the list, the first element is looked at. -/
def ranapHandleCoRabAssResp (ue : UeId) : Option (List (Option Bytes)) → CoM Addr Unit
  | none => pure ()
  | some [] => pure ()
  | some (none :: _) => pure ()
  | some (some ie :: _) =>
    match lib.decodeRab ie with
    | none => pure ()
    | some rab => lower (onSgsn (globalIuEvent ue (iuRabAssign rab)))

/-- `sgsn_ranap_iu_handle_co`. -/
def sgsnRanapIuHandleCo (ue : UeId) : RanapMessage → CoM Addr Unit
  | .initialUe _ => pure ()
  | .directTransfer ies => ranapHandleCoDt lib c ue ies
  | .errorIndication => pure ()
  | .iuReleaseRequest => lower (onSgsn do
    let _ ← iuUeTx ue)
  | .securityModeComplete => lower (onSgsn (globalIuEvent ue (iuSecurityModeComplete c)))
  | .iuReleaseComplete => lower (onSgsn (globalIuEvent ue iuRelease))
  | .rabAssignmentResponse list => ranapHandleCoRabAssResp lib ue list
  | .other => pure ()

/-! ## The FSM of an RNC -/

/-- `struct iu_rnc_ev_msg_up_co_initial_ctx`, with the pointer that the allocator returns. -/
structure MsgUpCoInitialCtx where
  rnc : Option RncPtr
  connId : ConnId
  ue : UeId
  message : RanapMessage

/-- `struct iu_rnc_ev_msg_up_co_ctx`. -/
structure MsgUpCoCtx where
  ueCtx : Option UeId
  message : RanapMessage

/-- The events that bring a message, with the data that they point to. -/
inductive CoEvent
  | msgUpCoInitial (data : Option MsgUpCoInitialCtx)
  | msgUpCo (data : Option MsgUpCoCtx)

/-- The data of an event is there. -/
def CoEvent.hasData : CoEvent → Option Unit
  | .msgUpCoInitial data => data.map fun _ ↦ ()
  | .msgUpCo data => data.map fun _ ↦ ()

/-- `iu_rnc_st_ready`. -/
def iuRncStReady : CoEvent → CoM Addr Unit
  | .msgUpCoInitial data => do
    let ctx ← osmoAssert data
    let rnc ← osmoAssert ctx.rnc
    sgsnRanapIuHandleCoInitial lib c rnc ctx.connId ctx.ue ctx.message
  | .msgUpCo data => do
    let ctx ← osmoAssert data
    let ue ← osmoAssert ctx.ueCtx
    sgsnRanapIuHandleCo lib c ue ctx.message

/-- `iu_rnc_st_wait_rx_reset`: the message is dispatched again in the state that follows. -/
def iuRncStWaitRxReset (rnc : RncPtr) (ev : CoEvent) : CoM Addr Unit := do
  let _ ← osmoAssert ev.hasData
  lower (iuRncStateChg rnc .ready)
  iuRncStReady lib c ev

/-- `iu_rnc_st_wait_rx_reset_ack`. -/
def iuRncStWaitRxResetAck (rnc : RncPtr) : CoEvent → CoM Addr Unit
  | .msgUpCoInitial data => do
    let _ ← osmoAssert data
    lower (iuRncReset rnc)
  | .msgUpCo data => do
    let ctx ← osmoAssert data
    match ctx.ueCtx with
    | none => pure ()
    | some ue =>
      let connIds := (← get).connIds
      lower (onSgsn (ueConnCtxLinkInvalidatedFree connIds ue))
    lower (iuRncReset rnc)

/-- A dispatch to the FSM of an RNC. -/
def iuRncDispatch (rnc : RncPtr) (ev : CoEvent) : CoM Addr Unit := do
  match (← get).rncs.rnc? rnc with
  | none => pure ()
  | some r => match r.state with
    | .waitRxReset => iuRncStWaitRxReset lib c rnc ev
    | .waitRxResetAck => iuRncStWaitRxResetAck rnc ev
    | .ready => iuRncStReady lib c ev

/-- The RNC that an initial message is taken as one of, which may be new, and the list of RNCs with
it. -/
def rncOfInitial (l : RncList Addr) (addr : Addr) (message : RanapMessage) :
    Option (RncList Addr × RncPtr) :=
  match l.findByAddr sccp addr, message with
  | some r, _ => some (l, r.ptr)
  | none, .initialUe ies =>
    (iuGrncIdParse lib ies.globalRncId).map fun rncId ↦ l.findOrCreate sccp rncId addr
  | none, _ => none

/-- `sgsn_ranap_iu_rx_co_initial_msg`, for data that is decoded, or not. -/
def sgsnRanapIuRxCoInitialMsg (addr : Addr) (connId : ConnId) (ue : UeId) :
    Option RanapMessage → CoM Addr Unit
  | none => pure ()
  | some message => do
    match rncOfInitial lib sccp (← get).rncs addr message with
    | none => pure ()
    | some (l, rnc) =>
      modify fun s ↦ { s with rncs := l }
      iuRncDispatch lib c rnc (.msgUpCoInitial (some ⟨some rnc, connId, ue, message⟩))

/-- `sgsn_ranap_iu_rx_co_msg`. -/
def sgsnRanapIuRxCoMsg (ueCtx : Option UeId) (message : Option RanapMessage) : CoM Addr Unit :=
  match ueCtx, message with
  | none, _ => pure ()
  | some _, none => pure ()
  | some ue, some message => do
    let conn ← lower (onSgsn (getUe ue))
    iuRncDispatch lib c conn.rnc (.msgUpCo (some ⟨some ue, message⟩))

/-! ## What the gateway takes of a message -/

/-- The NAS message of an InitialUE message is copied. -/
def InitialUeIes.Copied (ies : InitialUeIes) : Prop :=
  (sgsnRanapParseLai lib ies.lai).isSome ∧ (∃ rac, ies.rac = some rac ∧ rac ≠ osmoReservedRac) ∧
    (iuGrncIdParse lib ies.globalRncId).isSome ∧ octets ies.nasPdu ≠ []

/-- The NAS message of a Direct Transfer is copied. -/
def DirectTransferIes.Copied (ies : DirectTransferIes) : Prop :=
  octets ies.nasPdu ≠ [] ∧ ∀ lai ∈ ies.lai, (sgsnRanapParseLai lib lai).isSome

/-- What there is of a NAS message fits into the buffer. -/
def Fits (nas : OctetString) : Prop := (octets nas).length ≤ 256

/-- A message that is the first of a connection is no more than what fits. -/
def RanapMessage.FitsInitial : RanapMessage → Prop
  | .initialUe ies => ies.Copied lib → Fits ies.nasPdu
  | _ => True

/-- A message of a connection that is there is no more than what fits. -/
def RanapMessage.FitsCo : RanapMessage → Prop
  | .directTransfer ies => ies.Copied lib → Fits ies.nasPdu
  | _ => True

/-- What is passed on of an InitialUE message. -/
def InitialUeIes.nas (ies : InitialUeIes) : Option (RoutingAreaId × UplinkMsg) := do
  let lai ← sgsnRanapParseLai lib ies.lai
  let rac ← ies.rac
  let _ ← iuGrncIdParse lib ies.globalRncId
  if rac = osmoReservedRac ∨ octets ies.nasPdu = [] then none
  pure (⟨lai, rac⟩, lib.nas (octets ies.nasPdu))

/-- What is passed on of a Direct Transfer. -/
def DirectTransferIes.nas (ies : DirectTransferIes) : Option (Option RaId × UplinkMsg) :=
  if octets ies.nasPdu = [] then none
  else match ies.lai with
    | none => some (none, lib.nas (octets ies.nasPdu))
    | some lai => (sgsnRanapParseLai lib lai).map fun lai ↦
      (some (raIdOf ⟨lai, ies.rac.getD lib.staleRac⟩), lib.nas (octets ies.nasPdu))

/-- The message as the gateway has it. -/
def RanapMessage.co : RanapMessage → RanapCo
  | .initialUe ies => .initialUe (iuGrncIdParse lib ies.globalRncId) (ies.nas lib)
  | .directTransfer ies => .directTransfer (ies.nas lib)
  | .iuReleaseRequest => .iuReleaseRequest
  | .securityModeComplete => .securityModeComplete
  | .iuReleaseComplete => .iuReleaseComplete
  | .rabAssignmentResponse list =>
    .rabAssignmentResponse (list.bind fun l ↦ l.head?.join.bind lib.decodeRab)
  | .errorIndication | .other => .other

/-! ## Running code of the gateway -/

section Lower

variable {β : Type} {m : IuM Addr α} {k : α → IuM Addr β} {s s' : IuSgsn Addr}

theorem lower_pure (a : α) : lower (pure a : IuM Addr α) = pure a := rfl

theorem lower_get : lower (get : IuM Addr (IuSgsn Addr)) = get := rfl

theorem lower_modify (f : IuSgsn Addr → IuSgsn Addr) :
    lower (modify f : IuM Addr Unit) = modify f := rfl

theorem lower_bind : lower (m >>= k) = lower m >>= fun a ↦ lower (k a) := by
  funext s
  simp only [lower, adaptExcept, bind, EStateM.bind]
  cases m s with
  | ok a s' => rfl
  | error f s' => rfl

theorem get_bind_apply {ε σ γ : Type} (k : σ → EStateM ε σ γ) (s : σ) : (get >>= k) s = k s s :=
  rfl

/-- What follows where a connection is read. -/
theorem getUe_bind_of_some {ue : UeId} {conn : UeConn} (hue : s.sgsn.ues ue = some conn)
    (k : UeConn → CoM Addr α) : (lower (onSgsn (getUe ue)) >>= k) s = k conn s := by
  have hget : getUe ue s.sgsn = .ok conn s.sgsn := by
    rw [getUe, get_bind_apply, hue]
    rfl
  simp only [lower, adaptExcept, onSgsn, bind, EStateM.bind, hget]

theorem getUe_bind_of_none {ue : UeId} (hue : s.sgsn.ues ue = none) (k : UeConn → CoM Addr α) :
    (lower (onSgsn (getUe ue)) >>= k) s = .error (.upper .staleObject) s := by
  have hget : getUe ue s.sgsn = .error .staleObject s.sgsn := by
    rw [getUe, get_bind_apply, hue]
    rfl
  simp only [lower, adaptExcept, onSgsn, bind, EStateM.bind, hget]

/-- Code of the gateway aborts with faults of the upper layers only. -/
theorem upper_of_lower {a : Abort} (h : lower m s = .error a s') : ∃ f, a = .upper f := by
  unfold lower adaptExcept at h
  cases hm : m s with
  | ok b t => simp [hm] at h
  | error f t =>
    simp only [hm, Result.error.injEq] at h
    exact ⟨f, h.1.symm⟩

end Lower

theorem msgbPut_of_fits {nas : OctetString} (h : Fits nas) :
    (msgbPut (msgbAlloc 256) (octets nas) : CoM Addr Msgb) = pure ⟨256, octets nas⟩ := by
  rw [msgbPut, if_neg]
  · rfl
  · simpa [msgbAlloc, Msgb.tailroom, Fits] using h

theorem msgbPut_of_not_fits {nas : OctetString} (h : ¬ Fits nas) :
    (msgbPut (msgbAlloc 256) (octets nas) : CoM Addr Msgb) = throw .tailroom := by
  rw [msgbPut, if_pos]
  simpa [msgbAlloc, Msgb.tailroom, Fits] using h

/-! ## One message -/

section Handlers

variable {c : Calls} {lib : RanapLib} {rnc : RncPtr} {connId : ConnId} {ue : UeId}
  {message : RanapMessage} {s : IuSgsn Addr}

theorem InitialUeIes.nas_of_copied {ies : InitialUeIes} (h : ies.Copied lib) :
    ∃ lai rac, sgsnRanapParseLai lib ies.lai = some lai ∧ ies.rac = some rac ∧
      ies.nas lib = some (⟨lai, rac⟩, lib.nas (octets ies.nasPdu)) := by
  obtain ⟨hlai, ⟨rac, hrac, hres⟩, hid, hnas⟩ := h
  obtain ⟨lai, hlai⟩ := Option.isSome_iff_exists.mp hlai
  obtain ⟨rncId, hid⟩ := Option.isSome_iff_exists.mp hid
  exact ⟨lai, rac, hlai, hrac, by simp [InitialUeIes.nas, hlai, hrac, hid, hres, hnas]⟩

/-- What is left of the handler once a message is copied. -/
theorem handleCoInitial_of_copied {ies : InitialUeIes} (h : ies.Copied lib)
    {lai : LocationAreaId} {rac : BitVec 8} (hlai : sgsnRanapParseLai lib ies.lai = some lai)
    (hrac : ies.rac = some rac) :
    (ranapHandleCoInitialUe lib c rnc connId ue ies : CoM Addr Unit) = (do
      let msg ← msgbPut (msgbAlloc 256) (octets ies.nasPdu)
      lower (modify fun s ↦ { s with rncs := s.rncs.updateRaiSeen rnc ⟨lai, rac⟩ })
      match (← get).sgsn.ues ue with
      | some _ => pure ()
      | none =>
        let ue ← osmoAssert (← ueConnCtxAlloc connId ue)
        lower (onSgsn (Gmm.ranapHandleCoInitialUe c ue rnc (raIdOf ⟨lai, rac⟩)
          (lib.nas msg.data)))) := by
  obtain ⟨-, ⟨rac', hrac', hres⟩, hid, hnas⟩ := h
  obtain rfl : rac' = rac := Option.some.inj (hrac'.symm.trans hrac)
  obtain ⟨rncId, hid⟩ := Option.isSome_iff_exists.mp hid
  simp only [ranapHandleCoInitialUe, hlai, hrac, hid, if_neg hres, reduceCtorEq, if_false,
    if_neg hnas]

theorem handleCoInitial_of_not_copied {ies : InitialUeIes} (h : ¬ ies.Copied lib) :
    (ranapHandleCoInitialUe lib c rnc connId ue ies : CoM Addr Unit) = pure () ∧
      ies.nas lib = none := by
  cases hlai : sgsnRanapParseLai lib ies.lai with
  | none => simp [InitialUeIes.nas, ranapHandleCoInitialUe, hlai]
  | some lai =>
    cases hrac : ies.rac with
    | none => simp [InitialUeIes.nas, ranapHandleCoInitialUe, hlai, hrac]
    | some rac =>
      cases hid : iuGrncIdParse lib ies.globalRncId with
      | none => simp [InitialUeIes.nas, ranapHandleCoInitialUe, hlai, hrac, hid]
      | some rncId =>
        have hend : rac = osmoReservedRac ∨ octets ies.nasPdu = [] := by
          by_contra hno
          exact h ⟨by simp [hlai], ⟨rac, hrac, fun heq ↦ hno (.inl heq)⟩, by simp [hid],
            fun heq ↦ hno (.inr heq)⟩
        rcases hend with hend | hend <;>
          simp [InitialUeIes.nas, ranapHandleCoInitialUe, hlai, hrac, hid, hend]

/-- A first message that fits is handled as the gateway handles it. -/
theorem handleCoInitial_eq (h : message.FitsInitial lib) :
    (sgsnRanapIuHandleCoInitial lib c rnc connId ue message : CoM Addr Unit) =
      lower (Iu.sgsnRanapIuHandleCoInitial c rnc connId ue (message.co lib)) := by
  cases message with
  | initialUe ies =>
    simp only [sgsnRanapIuHandleCoInitial, RanapMessage.co]
    by_cases hcopied : ies.Copied lib
    · obtain ⟨lai, rac, hlai, hrac, hnas⟩ := InitialUeIes.nas_of_copied hcopied
      -- behind the copy, both handlers go on alike
      rw [handleCoInitial_of_copied hcopied hlai hrac, hnas, msgbPut_of_fits (h hcopied)]
      simp only [Iu.sgsnRanapIuHandleCoInitial, lower_bind, pure_bind, lower_get]
      refine bind_congr fun _ ↦ bind_congr fun s ↦ ?_
      cases s.sgsn.ues ue with
      | some _ => rfl
      | none => simp only [ueConnCtxAlloc, osmoAssert, bind_assoc, pure_bind, lower_bind]
    · have hnot : (ranapHandleCoInitialUe lib c rnc connId ue ies : CoM Addr Unit) = pure () ∧
          ies.nas lib = none := handleCoInitial_of_not_copied hcopied
      rw [hnot.1, hnot.2]
      rfl
  | _ => rfl

/-- One that does not fit aborts. -/
theorem handleCoInitial_of_not_fits (h : ¬ message.FitsInitial lib) (s : IuSgsn Addr) :
    ∃ s', sgsnRanapIuHandleCoInitial lib c rnc connId ue message s = .error .tailroom s' := by
  cases message with
  | initialUe ies =>
    obtain ⟨hcopied, hfits⟩ := Classical.not_imp.mp h
    obtain ⟨lai, rac, hlai, hrac, -⟩ := InitialUeIes.nas_of_copied hcopied
    refine ⟨s, ?_⟩
    rw [sgsnRanapIuHandleCoInitial, handleCoInitial_of_copied hcopied hlai hrac,
      msgbPut_of_not_fits hfits]
    rfl
  | _ => exact absurd trivial h

theorem feedNas_of_fits {nas : OctetString} (h : Fits nas) (ra : Option RaId) :
    (feedNas lib c ue ra (octets nas) : CoM Addr Unit) =
      lower (onSgsn (gsm0408GprsRcvmsgIu c ue ra (lib.nas (octets nas)))) := by
  rw [feedNas, msgbPut_of_fits h, pure_bind]

theorem feedNas_of_not_fits {nas : OctetString} (h : ¬ Fits nas) (ra : Option RaId) :
    (feedNas lib c ue ra (octets nas) : CoM Addr Unit) = throw .tailroom := by
  rw [feedNas, msgbPut_of_not_fits h]
  rfl

/-- A message of a connection that fits is handled as the gateway handles it. -/
theorem handleCo_eq (h : message.FitsCo lib) :
    (sgsnRanapIuHandleCo lib c ue message : CoM Addr Unit) =
      lower (onSgsn (Iu.sgsnRanapIuHandleCo c ue (message.co lib))) := by
  cases message with
  | directTransfer ies =>
    simp only [sgsnRanapIuHandleCo, ranapHandleCoDt, RanapMessage.co, DirectTransferIes.nas]
    by_cases hnas : octets ies.nasPdu = []
    · simp only [if_pos hnas]
      rfl
    · simp only [if_neg hnas]
      cases hlai : ies.lai with
      | none => exact feedNas_of_fits (h ⟨hnas, by simp [hlai]⟩) none
      | some lai =>
        cases hparse : sgsnRanapParseLai lib lai with
        | none =>
          simp only [hparse]
          rfl
        | some area =>
          simp only [hparse]
          exact feedNas_of_fits (h ⟨hnas, by simp [hlai, hparse]⟩) _
  | rabAssignmentResponse list =>
    simp only [sgsnRanapIuHandleCo, RanapMessage.co]
    -- no list, an empty one, and one whose first item could not be decoded
    rcases list with _ | _ | ⟨_ | ie, l⟩
    · rfl
    · rfl
    · rfl
    · simp only [ranapHandleCoRabAssResp, Option.bind_some, List.head?_cons, Option.join_some]
      cases lib.decodeRab ie <;> rfl
  | _ => rfl

/-- One that does not fit aborts. -/
theorem handleCo_of_not_fits (h : ¬ message.FitsCo lib) (s : IuSgsn Addr) :
    ∃ s', sgsnRanapIuHandleCo lib c ue message s = .error .tailroom s' := by
  cases message with
  | directTransfer ies =>
    obtain ⟨⟨hnas, hlai⟩, hfits⟩ := Classical.not_imp.mp h
    refine ⟨s, ?_⟩
    simp only [sgsnRanapIuHandleCo, ranapHandleCoDt, if_neg hnas]
    cases hl : ies.lai with
    | none =>
      simp only [feedNas_of_not_fits hfits]
      rfl
    | some lai =>
      obtain ⟨area, harea⟩ := Option.isSome_iff_exists.mp (hlai lai hl)
      simp only [harea, feedNas_of_not_fits hfits]
      rfl
  | _ => exact absurd trivial h

/-! ## One dispatch -/

/-- The FSM of an RNC hands on what comes over a connection. -/
def Accepts (rncs : RncList Addr) (rnc : RncPtr) : Prop :=
  ∃ r, rncs.rnc? rnc = some r ∧ r.state ≠ .waitRxResetAck

theorem dispatchInitial_eq (h : Accepts s.rncs rnc → message.FitsInitial lib) :
    iuRncDispatch lib c rnc (.msgUpCoInitial (some ⟨some rnc, connId, ue, message⟩)) s =
      lower (Iu.iuRncDispatch c rnc (.msgUpCoInitial connId ue (message.co lib))) s := by
  rw [iuRncDispatch, Iu.iuRncDispatch, lower_bind, lower_get, get_bind_apply, get_bind_apply]
  cases hr : s.rncs.rnc? rnc with
  | none => rfl
  | some r =>
    simp only
    cases hstate : r.state with
    | waitRxReset =>
      -- the message does for a reset, and the FSM is ready
      have hfits := h ⟨r, hr, by simp [hstate]⟩
      simp only [iuRncStWaitRxReset, iuRncStReady, CoEvent.hasData, Option.map_some, osmoAssert,
        pure_bind, handleCoInitial_eq hfits, lower_bind]
    | waitRxResetAck => simp only [iuRncStWaitRxResetAck, osmoAssert, pure_bind]
    | ready =>
      have hfits := h ⟨r, hr, by simp [hstate]⟩
      simp only [iuRncStReady, osmoAssert, pure_bind, handleCoInitial_eq hfits]

theorem dispatchInitial_of_not_fits (hacc : Accepts s.rncs rnc)
    (h : ¬ message.FitsInitial lib) :
    ∃ s', iuRncDispatch lib c rnc (.msgUpCoInitial (some ⟨some rnc, connId, ue, message⟩)) s =
      .error .tailroom s' := by
  obtain ⟨r, hr, hstate⟩ := hacc
  rw [iuRncDispatch, get_bind_apply]
  simp only [hr]
  cases hst : r.state with
  | waitRxReset =>
    -- the state is changed before the message is looked at
    simp only [iuRncStWaitRxReset, iuRncStReady, CoEvent.hasData, Option.map_some, osmoAssert,
      pure_bind]
    exact handleCoInitial_of_not_fits h { s with rncs := s.rncs.stateChg rnc .ready }
  | waitRxResetAck => exact absurd hst hstate
  | ready =>
    simp only [iuRncStReady, osmoAssert, pure_bind]
    exact handleCoInitial_of_not_fits h s

theorem dispatchCo_eq (h : Accepts s.rncs rnc → message.FitsCo lib) :
    iuRncDispatch lib c rnc (.msgUpCo (some ⟨some ue, message⟩)) s =
      lower (Iu.iuRncDispatch c rnc (.msgUpCo ue (message.co lib))) s := by
  rw [iuRncDispatch, Iu.iuRncDispatch, lower_bind, lower_get, get_bind_apply, get_bind_apply]
  cases hr : s.rncs.rnc? rnc with
  | none => rfl
  | some r =>
    simp only
    cases hstate : r.state with
    | waitRxReset =>
      have hfits := h ⟨r, hr, by simp [hstate]⟩
      simp only [iuRncStWaitRxReset, iuRncStReady, CoEvent.hasData, Option.map_some, osmoAssert,
        pure_bind, handleCo_eq hfits, lower_bind]
    | waitRxResetAck =>
      simp only [iuRncStWaitRxResetAck, osmoAssert, pure_bind, lower_bind, lower_get]
    | ready =>
      have hfits := h ⟨r, hr, by simp [hstate]⟩
      simp only [iuRncStReady, osmoAssert, pure_bind, handleCo_eq hfits]

theorem dispatchCo_of_not_fits (hacc : Accepts s.rncs rnc) (h : ¬ message.FitsCo lib) :
    ∃ s', iuRncDispatch lib c rnc (.msgUpCo (some ⟨some ue, message⟩)) s =
      .error .tailroom s' := by
  obtain ⟨r, hr, hstate⟩ := hacc
  rw [iuRncDispatch, get_bind_apply]
  simp only [hr]
  cases hst : r.state with
  | waitRxReset =>
    simp only [iuRncStWaitRxReset, iuRncStReady, CoEvent.hasData, Option.map_some, osmoAssert,
      pure_bind]
    exact handleCo_of_not_fits h { s with rncs := s.rncs.stateChg rnc .ready }
  | waitRxResetAck => exact absurd hst hstate
  | ready =>
    simp only [iuRncStReady, osmoAssert, pure_bind]
    exact handleCo_of_not_fits h s

end Handlers

/-! ## Traffic -/

/-- A call with a message, which may not be decoded. -/
inductive RanapRx (Addr : Type)
  /-- `sgsn_ranap_iu_rx_co_initial_msg`, with the pointer that the allocator returns. -/
  | initial (addr : Addr) (connId : ConnId) (ue : UeId) (message : Option RanapMessage)
  /-- `sgsn_ranap_iu_rx_co_msg`. -/
  | co (ueCtx : Option UeId) (message : Option RanapMessage)

/-- What a call does. -/
def RanapRx.run : RanapRx Addr → CoM Addr Unit
  | .initial addr connId ue message => sgsnRanapIuRxCoInitialMsg lib sccp c addr connId ue message
  | .co ueCtx message => sgsnRanapIuRxCoMsg lib c ueCtx message

/-- A NAS message that the RNC of the connection accepts fits into the buffer. -/
def RanapRx.Fits (s : IuSgsn Addr) : RanapRx Addr → Prop
  | .initial addr _ _ (some message) => ∀ l rnc,
    rncOfInitial lib sccp s.rncs addr message = some (l, rnc) → Accepts l rnc →
      message.FitsInitial lib
  | .co (some ue) (some message) => ∀ conn, s.sgsn.ues ue = some conn →
    Accepts s.rncs conn.rnc → message.FitsCo lib
  | _ => True

/-- What the gateway does for a call. -/
def RanapRx.gateway : RanapRx Addr → IuM Addr Unit
  | .initial addr connId ue (some message) =>
    Iu.sgsnRanapIuRxCoInitialMsg sccp c addr connId ue (.co (message.co lib))
  | .co (some ue) (some message) => Iu.sgsnRanapIuRxCoMsg c ue (.co (message.co lib))
  | _ => pure ()

variable {lib sccp c} {rx : RanapRx Addr} {s : IuSgsn Addr}

/-- The gateway has the same RNC for an initial message. -/
theorem rxCoInitialMsg_eq {addr : Addr} {connId : ConnId} {ue : UeId} {message : RanapMessage} :
    Iu.sgsnRanapIuRxCoInitialMsg sccp c addr connId ue (.co (message.co lib)) s =
      (rncOfInitial lib sccp s.rncs addr message).elim (.ok () s) fun found ↦
        Iu.iuRncDispatch c found.2 (.msgUpCoInitial connId ue (message.co lib))
          { s with rncs := found.1 } := by
  rw [Iu.sgsnRanapIuRxCoInitialMsg, rncOfInitial.eq_def, get_bind_apply]
  cases hf : s.rncs.findByAddr sccp addr with
  | some r => rfl
  | none =>
    cases message with
    | initialUe ies =>
      simp only [RanapMessage.co]
      cases hid : iuGrncIdParse lib ies.globalRncId with
      | none => rfl
      | some rncId => rfl
    | _ => rfl

/-- **What fits is handled.** With its checks, a call does what the gateway does. -/
theorem run_eq_gateway (h : rx.Fits lib sccp s) :
    rx.run lib sccp c s = lower (rx.gateway lib sccp c) s := by
  cases rx with
  | initial addr connId ue message =>
    cases message with
    | none => rfl
    | some message =>
      simp only [RanapRx.run, RanapRx.gateway, lower, adaptExcept, rxCoInitialMsg_eq,
        sgsnRanapIuRxCoInitialMsg, get_bind_apply]
      cases hrnc : rncOfInitial lib sccp s.rncs addr message with
      | none => rfl
      | some found => exact dispatchInitial_eq (s := { s with rncs := found.1 }) (h _ _ hrnc)
  | co ueCtx message =>
    cases ueCtx with
    | none => rfl
    | some ue =>
      cases message with
      | none => rfl
      | some message =>
        simp only [RanapRx.run, RanapRx.gateway, sgsnRanapIuRxCoMsg, Iu.sgsnRanapIuRxCoMsg,
          lower_bind]
        cases hue : s.sgsn.ues ue with
        | none => rw [getUe_bind_of_none hue, getUe_bind_of_none hue]
        | some conn =>
          rw [getUe_bind_of_some hue, getUe_bind_of_some hue]
          exact dispatchCo_eq (h conn hue)

/-- What does not fit is where the process ends. -/
theorem run_of_not_fits (h : ¬ rx.Fits lib sccp s) :
    ∃ s', rx.run lib sccp c s = .error .tailroom s' := by
  cases rx with
  | initial addr connId ue message =>
    cases message with
    | none => exact absurd trivial h
    | some message =>
      simp only [RanapRx.Fits, not_forall] at h
      obtain ⟨l, rnc, hrnc, hacc, hfits⟩ := h
      simp only [RanapRx.run, sgsnRanapIuRxCoInitialMsg, get_bind_apply, hrnc]
      exact dispatchInitial_of_not_fits (s := { s with rncs := l }) hacc hfits
  | co ueCtx message =>
    cases ueCtx with
    | none => exact absurd trivial h
    | some ue =>
      cases message with
      | none => exact absurd trivial h
      | some message =>
        simp only [RanapRx.Fits, not_forall] at h
        obtain ⟨conn, hue, hacc, hfits⟩ := h
        simp only [RanapRx.run, sgsnRanapIuRxCoMsg]
        rw [getUe_bind_of_some hue]
        exact dispatchCo_of_not_fits hacc hfits

/-- **Checks.** In every state, a call aborts with none of the checks if and only if the NAS
message, where it comes to an RNC that accepts it and is copied, fits into the buffer. -/
theorem run_safe_iff (lib : RanapLib) (sccp : SccpAddrs Addr Route) (c : Calls)
    (rx : RanapRx Addr) (s : IuSgsn Addr) :
    (∀ a s', rx.run lib sccp c s = .error a s' → ∃ f, a = .upper f) ↔ rx.Fits lib sccp s := by
  constructor
  · intro hsafe
    by_contra hno
    obtain ⟨s', hs'⟩ := run_of_not_fits (c := c) hno
    obtain ⟨f, hf⟩ := hsafe _ _ hs'
    exact absurd hf (by simp)
  · intro hfits a s' ha
    rw [run_eq_gateway hfits] at ha
    exact upper_of_lower ha

/-- A first message with 257 octets of NAS message. -/
def longInitialUe : RanapMessage :=
  .initialUe ⟨⟨some [0x62, 0xf2, 0x24], some [0, 1]⟩, some 1, ⟨some [0x62, 0xf2, 0x24], 7⟩,
    some (List.replicate 257 0)⟩

/-- The libraries, for one PLMN. -/
def onePlmn : RanapLib where
  ranapParseLai _ := some ⟨⟨262, 42, false⟩, 1⟩
  osmoPlmnFromBcd _ := ⟨262, 42, false⟩
  decodeRab _ := none
  nas _ := .unknown
  staleRac := 0

/-- It ends the process of a gateway that was just started. -/
theorem not_safe_longInitialUe : ¬ ∀ a s',
    (RanapRx.initial 1 5 0 (some longInitialUe)).run onePlmn pointCodes (calls 4)
      (IuNode.start openSgsn ⟨fun _ ↦ 0, fun _ ↦ 0, fun _ ↦ 0⟩).iu = .error a s' →
    ∃ f, a = .upper f := by
  intro hsafe
  have hfits : ¬ (RanapRx.initial 1 5 0 (some longInitialUe)).Fits onePlmn pointCodes
      (IuNode.start openSgsn ⟨fun _ ↦ 0, fun _ ↦ 0, fun _ ↦ 0⟩).iu := by
    intro h
    have hlen : (List.replicate 257 (0 : UInt8)).length ≤ 256 :=
      h _ _ rfl ⟨_, rfl, by decide⟩ ⟨rfl, ⟨1, rfl, by decide⟩, rfl, by decide⟩
    rw [List.length_replicate] at hlen
    omega
  obtain ⟨s', hs'⟩ := run_of_not_fits (c := calls 4) hfits
  obtain ⟨f, hf⟩ := hsafe _ _ hs'
  exact absurd hf (by simp)

end OsmoSgsn.Iu.Checks
