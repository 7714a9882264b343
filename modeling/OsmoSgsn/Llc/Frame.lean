import OsmoSgsn.Llc.Entity

/-!
# Frames on the wire

A frame starts with an address octet and a control field whose first bits tell the format:
information, supervisory, unconfirmed or unnumbered. `gprsLlcHdrParse` is the receiver's reading of
it, with the payload given by its offset in the frame as the source gives it by a pointer. The
sender only ever builds unconfirmed frames, and `parse_uiFrame` is the meeting point: what the
header of such a frame says is what the sender put there.
-/

namespace OsmoSgsn.Llc

/-! ## Parsing -/

/-- Commands and responses. -/
inductive GprsLlcCmd
  | null | rr | ack | rnr | sack | dm | disc | ua | sabm | frmr | xid | ui
  deriving DecidableEq, Repr

/-- A parsed frame header. -/
structure GprsLlcHdrParsed where
  /-- The SAPI, from the low four bits of the address octet. -/
  sapi : Fin numSapis
  /-- Command or response, as seen from the network. -/
  isCmd : Bool
  /-- Whether an acknowledgement is requested. -/
  ackReq : Bool
  /-- Whether the information field and the check sequence are ciphered. -/
  isEncrypted : Bool
  /-- The receive sequence number. -/
  seqRx : ℕ
  /-- The send sequence number, `N(U)` of an unconfirmed frame. -/
  seqTx : ℕ
  /-- The check sequence found at the end of the frame. -/
  fcs : BitVec 32
  /-- Offset of the information field, where the format has one. -/
  data : Option ℕ
  /-- Length of the information field, in sixteen bits. -/
  dataLen : ℕ
  /-- The number of octets under the check sequence, in sixteen bits. -/
  crcLength : ℕ
  /-- The command. -/
  cmd : GprsLlcCmd
  deriving DecidableEq, Repr

/-- The reserved SAPIs, whose frames are refused. -/
def sapiReserved (sapi : ℕ) : Bool :=
  sapi = 0 || sapi = 4 || sapi = 6 || sapi = 0xa || sapi = 0xc || sapi = 0xd || sapi = 0xf

/-- A pointer difference stored in a `uint16_t`. -/
def ptrDiff16 (upto start : ℕ) : ℕ := (((upto : ℤ) - start) % 2 ^ 16).toNat

/-- The supervisory command of the low two bits of an octet. -/
def supervisoryCmd (b : UInt8) : GprsLlcCmd :=
  match (b &&& 0x03).toNat with
  | 0 => .rr
  | 1 => .ack
  | 2 => .rnr
  | _ => .sack

/-- The command of an unnumbered frame. -/
def unnumberedCmd (b : UInt8) : Option GprsLlcCmd :=
  match (b &&& 0xf).toNat with
  | 0x00 => some .null
  | 0x01 => some .dm
  | 0x04 => some .disc
  | 0x06 => some .ua
  | 0x07 => some .sabm
  | 0x08 => some .frmr
  | 0x0b => some .xid
  | _ => none

/-- Length of the check sequence. -/
def crc24Length : ℕ := 3

/-- Length of the header of an unconfirmed frame. -/
def uiHdrLen : ℕ := 3

/-- `N202`: the octets of information that the check sequence of an unprotected frame covers. -/
def n202 : ℕ := 4

/-- The check sequence in the last three octets of a frame. -/
def fcsOfFrame (frame : Bytes) : BitVec 32 :=
  fcsOfOctets (octet frame (frame.length - 3)) (octet frame (frame.length - 2))
    (octet frame (frame.length - 1))

/-- Parse a frame header, and refuse invalid frames. -/
def gprsLlcHdrParse (frame : Bytes) : Except Errno GprsLlcHdrParsed :=
  let len := frame.length
  let addr := octet frame 0
  let ctrl₀ := octet frame 1
  let ctrl₁ := octet frame 2
  let ctrl₂ := octet frame 3
  if len ≤ crc24Length then .error .eio
  else if addr &&& 0x80 ≠ 0 then .error .eio
  else if sapiReserved (addr &&& 0xf).toNat then .error .einval
  else
    let hdr : GprsLlcHdrParsed := {
      sapi := Fin.ofNat numSapis (addr &&& 0xf).toNat
      isCmd := addr &&& 0x40 = 0
      ackReq := false
      isEncrypted := false
      seqRx := 0
      seqTx := 0
      fcs := fcsOfFrame frame
      data := none
      dataLen := 0
      crcLength := ptrDiff16 len crc24Length
      cmd := .null }
    let parsed : Except Errno GprsLlcHdrParsed :=
      if ctrl₀ &&& 0x80 = 0 then
        -- information transfer and supervisory format; a SACK bitmap comes before the data
        let cmd := supervisoryCmd ctrl₂
        let data := 4 + (if cmd = .sack then 1 + (octet frame 4 &&& 0x1f).toNat else 0)
        .ok { hdr with
          ackReq := ctrl₀ &&& 0x40 ≠ 0
          seqTx := (ctrl₀ &&& 0x1f).toNat <<< 4 ||| (ctrl₁ >>> 4).toNat
          seqRx := (ctrl₁ &&& 0x7).toNat <<< 6 ||| (ctrl₂ >>> 2).toNat
          cmd := cmd
          data := some data
          dataLen := ptrDiff16 (len - 3) data }
      else if ctrl₀ &&& 0xc0 = 0x80 then
        .ok { hdr with
          ackReq := ctrl₀ &&& 0x20 ≠ 0
          seqRx := (ctrl₀ &&& 0x7).toNat <<< 6 ||| (ctrl₁ >>> 2).toNat
          cmd := supervisoryCmd ctrl₁ }
      else if ctrl₀ &&& 0xe0 = 0xc0 then
        .ok { hdr with
          cmd := .ui
          data := some uiHdrLen
          dataLen := ptrDiff16 (len - 3) uiHdrLen
          seqTx := (ctrl₀ &&& 0x7).toNat <<< 6 ||| (ctrl₁ >>> 2).toNat
          isEncrypted := ctrl₁ &&& 0x02 ≠ 0
          crcLength :=
            if ctrl₁ &&& 0x01 ≠ 0 then hdr.crcLength else min hdr.crcLength (uiHdrLen + n202) }
      else
        match unnumberedCmd ctrl₀ with
        | none => .error .eio
        | some .xid =>
          .ok { hdr with cmd := .xid, data := some 2, dataLen := ptrDiff16 (len - 3) 2 }
        | some cmd => .ok { hdr with cmd := cmd }
    parsed.bind fun p ↦ if p.cmd = .sack then .error .eio else .ok p

/-! ## Building an unconfirmed frame -/

/-- The SAPIs in use. -/
inductive GprsLlcSapi
  | gmm | tom2 | sndcp3 | sndcp5 | sms | tom8 | sndcp9 | sndcp11
  deriving DecidableEq, Repr

/-- The number of a SAPI. -/
def GprsLlcSapi.toFin : GprsLlcSapi → Fin numSapis
  | .gmm => 1
  | .tom2 => 2
  | .sndcp3 => 3
  | .sndcp5 => 5
  | .sms => 7
  | .tom8 => 8
  | .sndcp9 => 9
  | .sndcp11 => 11

/-- The address octet. -/
def uiAddr (sapi : Fin numSapis) (command : Bool) : UInt8 :=
  (UInt8.ofNat sapi &&& 0xf) ||| (if command then 0x40 else 0)

/-- The first control octet. -/
def uiCtrl₀ (nu : ℕ) : UInt8 := (0xc0 : UInt8) ||| UInt8.ofNat (nu >>> 6)

/-- The second control octet, in protected mode. -/
def uiCtrl₁ (nu : ℕ) : UInt8 := (UInt8.ofNat (nu <<< 2) &&& 0xfc) ||| 0x01

/-- The header of an unconfirmed frame, with the bit that marks it as ciphered or without. -/
def uiHeader (sapi : Fin numSapis) (command encrypted : Bool) (nu : ℕ) : Bytes :=
  [uiAddr sapi command, uiCtrl₀ nu, uiCtrl₁ nu ||| (if encrypted then 0x02 else 0)]

@[simp] theorem length_uiHeader (sapi : Fin numSapis) (command encrypted : Bool) (nu : ℕ) :
    (uiHeader sapi command encrypted nu).length = 3 := rfl

/-! ## The parser reads what the sender wrote -/

private theorem uiCtrl_seqTx : ∀ (nu : Fin 512) (encrypted : Bool),
    (uiCtrl₀ nu &&& 0x7).toNat <<< 6 |||
      ((uiCtrl₁ nu ||| (if encrypted then 0x02 else 0)) >>> 2).toNat = nu := by
  decide +kernel

private theorem uiCtrl₀_format : ∀ nu : Fin 512,
    uiCtrl₀ nu &&& 0x80 ≠ 0 ∧ uiCtrl₀ nu &&& 0xc0 ≠ 0x80 ∧ uiCtrl₀ nu &&& 0xe0 = 0xc0 := by
  decide +kernel

private theorem uiCtrl₁_bits : ∀ (nu : Fin 512) (encrypted : Bool),
    decide ((uiCtrl₁ nu ||| (if encrypted then 0x02 else 0)) &&& 0x02 ≠ 0) = encrypted ∧
    (uiCtrl₁ nu ||| (if encrypted then 0x02 else 0)) &&& 0x01 ≠ 0 := by
  decide +kernel

private theorem uiAddr_sapi (sapi : GprsLlcSapi) (command : Bool) :
    uiAddr sapi.toFin command &&& 0x80 = 0 ∧
    sapiReserved (uiAddr sapi.toFin command &&& 0xf).toNat = false ∧
    Fin.ofNat numSapis (uiAddr sapi.toFin command &&& 0xf).toNat = sapi.toFin ∧
    decide (uiAddr sapi.toFin command &&& 0x40 = 0) = !command := by
  cases sapi <;> cases command <;> decide

theorem octet_append_right {xs ys : Bytes} {i : ℕ} (h : xs.length ≤ i) :
    octet (xs ++ ys) i = octet ys (i - xs.length) := by
  simp [octet, List.getD_eq_getElem?_getD, List.getElem?_append_right h]

theorem ptrDiff16_eq {upto start : ℕ} (h : start ≤ upto) (hlt : upto - start < 2 ^ 16) :
    ptrDiff16 upto start = upto - start := by
  unfold ptrDiff16
  omega

/-- What the parser makes of an unconfirmed frame: the SAPI and `N(U)` that the sender used, and
the information field between the header and the last three octets. -/
theorem parse_uiFrame (sapi : GprsLlcSapi) (command encrypted : Bool) {nu : ℕ} (hnu : nu < 512)
    {body : Bytes} (hlen : 3 ≤ body.length) (hmax : body.length < 2 ^ 16) :
    gprsLlcHdrParse (uiHeader sapi.toFin command encrypted nu ++ body) = .ok {
      sapi := sapi.toFin
      isCmd := !command
      ackReq := false
      isEncrypted := encrypted
      seqRx := 0
      seqTx := nu
      fcs := fcsOfFrame (uiHeader sapi.toFin command encrypted nu ++ body)
      data := some 3
      dataLen := body.length - 3
      crcLength := body.length
      cmd := .ui } := by
  obtain ⟨hpd, hres, hsapi, hcmd⟩ := uiAddr_sapi sapi command
  have hseq := uiCtrl_seqTx ⟨nu, hnu⟩ encrypted
  obtain ⟨hI, hS, hUI⟩ := uiCtrl₀_format ⟨nu, hnu⟩
  obtain ⟨hE, hPM⟩ := uiCtrl₁_bits ⟨nu, hnu⟩ encrypted
  have hcrc : ptrDiff16 (body.length + 3) 3 = body.length := by
    rw [ptrDiff16_eq (by omega) (by omega)]
    omega
  have hdata : ptrDiff16 body.length 3 = body.length - 3 :=
    ptrDiff16_eq hlen (by omega)
  have hlong : ¬ body.length + 3 ≤ 3 := by omega
  have hlen' : (uiHeader sapi.toFin command encrypted nu ++ body).length = body.length + 3 := by
    simp [Nat.add_comm]
  have h₀ : octet (uiHeader sapi.toFin command encrypted nu ++ body) 0 =
    uiAddr sapi.toFin command := rfl
  have h₁ : octet (uiHeader sapi.toFin command encrypted nu ++ body) 1 = uiCtrl₀ nu := rfl
  have h₂ : octet (uiHeader sapi.toFin command encrypted nu ++ body) 2 =
    uiCtrl₁ nu ||| (if encrypted then 0x02 else 0) := rfl
  unfold gprsLlcHdrParse
  simp only [if_false, h₀, h₁, h₂, hpd, hres, hsapi, hI, hS, hUI, hPM, hE, hcmd, hseq,
    hlen', crc24Length, hlong, uiHdrLen, hcrc, Nat.add_sub_cancel, hdata, ne_eq, not_true_eq_false,
    not_false_eq_true, if_true, Bool.false_eq_true, Except.bind]
  rfl

end OsmoSgsn.Llc
