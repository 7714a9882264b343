import OsmoSgsn.Llc.Crc24

/-!
# Logical link entities and their management entity

An LLME stands for one mobile on the Gb interface. It owns the ciphering key and one logical link
entity for each SAPI, and the entity owns the counters that number unconfirmed frames: `V(U)`, the
number of the next frame to send, `V(UR)`, the number expected next, and an overflow counter for
each direction that is to advance by 512 whenever its counter wraps.

This module has the state, its start values, and the two operations by which mobility management
changes it from above: `gprs_llme_copy_key`, which hands a key down, and `gprs_llgmm_assign`, which
assigns, changes or removes the TLLI. Counters are natural numbers with the source's own `% 512`,
and overflow counters wrap at `2 ^ 32`.
-/

namespace OsmoSgsn.Llc

/-! ## Ciphering, as the code sees it -/

/-- The GPRS encryption algorithms. -/
inductive GprsCiphAlgo
  | gea0 | gea1 | gea2 | gea3 | gea4
  deriving DecidableEq, Repr

/-- The direction a gamma is produced for. -/
inductive GprsCipherDirection
  | ms2sgsn | sgsn2ms
  deriving DecidableEq, Repr

/-- The ciphering functions of the crypto library. They are not part of this repository, so they
are a parameter; the results below hold for every choice of them unless a hypothesis says more. -/
structure GprsCipher where
  /-- `gprs_cipher_run`: the gamma of a length under algorithm, key, input and direction, or
  `none` where the library reports an error. -/
  run : ℕ → GprsCiphAlgo → Bytes → BitVec 32 → GprsCipherDirection → Option (ℕ → UInt8)
  /-- `gprs_cipher_gen_input_ui`: the input from IOV-UI, SAPI, `N(U)` and overflow counter. -/
  genInputUi : BitVec 32 → ℕ → ℕ → ℕ → BitVec 32
  /-- `gprs_cipher_key_length`: the octets of key that an algorithm takes. -/
  keyLength : GprsCiphAlgo → ℕ
  /-- `osmo_kdf_kc128`: the 128 bit key of GEA4, from the integrity and ciphering keys. -/
  kdfKc128 : Bytes → Bytes → Bytes

/-! ## State -/

/-- The number of SAPIs, and of entities that an LLME has. -/
abbrev numSapis : ℕ := 16

-- Named, so that a SAPI literal is the same term in every module.
instance neZero_numSapis : NeZero numSapis :=
  ⟨by decide⟩

/-- Logical link states. The code refuses the acknowledged mode, so the others never occur. -/
inductive GprsLlcLleState
  | unassigned | assignedAdm
  deriving DecidableEq, Repr

/-- States of the management entity. -/
inductive GprsLlcLlmeState
  | unassigned | assigned
  deriving DecidableEq, Repr

/-- One logical link entity, for one SAPI of one TLLI. -/
structure GprsLlcLle where
  /-- Logical link state. -/
  state : GprsLlcLleState
  /-- `V(U)`: the number of the next unconfirmed frame to send. -/
  vuSend : ℕ
  /-- `V(UR)`: the number of the next unconfirmed frame expected. -/
  vuRecv : ℕ
  /-- The last number that was judged a retransmission. -/
  vuRecvLast : ℕ
  /-- How often in a row that number has come again. -/
  vuRecvDuplicates : ℕ
  /-- Overflow counter of unconfirmed frames sent. -/
  ocUiSend : ℕ
  /-- Overflow counter of unconfirmed frames received. -/
  ocUiRecv : ℕ
  /-- Retransmission counter. -/
  retransCtr : ℕ
  /-- `N201-U`: the longest information field of an unconfirmed frame. -/
  n201U : ℕ
  deriving DecidableEq, Repr

/-- The management entity of one mobile, with its key and its sixteen entities. -/
structure GprsLlcLlme where
  /-- Whether a TLLI is assigned. -/
  state : GprsLlcLlmeState
  /-- The TLLI used for sending. -/
  tlli : BitVec 32
  /-- The former TLLI, still accepted while a change is under way. -/
  oldTlli : BitVec 32
  /-- Ciphering algorithm. -/
  algo : GprsCiphAlgo
  /-- Ciphering key, sixteen octets. -/
  kc : Bytes
  /-- Key sequence number of the key, or `gsmKeySeqInval`. -/
  cksn : ℕ
  /-- IOV-UI, the start of the ciphering input of unconfirmed frames. -/
  iovUi : BitVec 32
  /-- The entities, by SAPI. -/
  lle : Fin numSapis → GprsLlcLle

/-- `TLLI_UNASSIGNED`, the value that stands for no TLLI. -/
def tlliUnassigned : BitVec 32 := 0xffffffff

/-- `GSM_KEY_SEQ_INVAL`, the key sequence number of no key. -/
def gsmKeySeqInval : ℕ := 7

/-- `N201-U` of the default parameters, by SAPI; the reserved SAPIs have none. -/
def llcDefaultN201U : Fin numSapis → ℕ
  | 1 => 400
  | 2 => 270
  | 3 => 500
  | 5 => 500
  | 7 => 270
  | 8 => 270
  | 9 => 500
  | 11 => 500
  | _ => 0

/-- The entity of a SAPI as a new management entity has it. -/
def lleInit (sapi : Fin numSapis) : GprsLlcLle where
  state := .unassigned
  vuSend := 0
  vuRecv := 0
  vuRecvLast := 0
  vuRecvDuplicates := 0
  ocUiSend := 0
  ocUiRecv := 0
  retransCtr := 0
  n201U := llcDefaultN201U sapi

/-- A new management entity for a TLLI. -/
def llmeAlloc (tlli : BitVec 32) : GprsLlcLlme where
  state := .unassigned
  tlli := tlli
  oldTlli := tlliUnassigned
  algo := .gea0
  kc := List.replicate 16 0
  cksn := gsmKeySeqInval
  iovUi := 0
  lle := lleInit

/-- Write back one entity. -/
def GprsLlcLlme.setLle (llme : GprsLlcLlme) (sapi : Fin numSapis) (lle : GprsLlcLle) :
    GprsLlcLlme :=
  { llme with lle := Function.update llme.lle sapi lle }

@[simp] theorem GprsLlcLlme.setLle_lle (llme : GprsLlcLlme) (sapi : Fin numSapis)
    (lle : GprsLlcLle) : (llme.setLle sapi lle).lle = Function.update llme.lle sapi lle := rfl

@[simp] theorem GprsLlcLlme.setLle_algo (llme : GprsLlcLlme) (sapi : Fin numSapis)
    (lle : GprsLlcLle) : (llme.setLle sapi lle).algo = llme.algo := rfl

@[simp] theorem GprsLlcLlme.setLle_kc (llme : GprsLlcLlme) (sapi : Fin numSapis)
    (lle : GprsLlcLle) : (llme.setLle sapi lle).kc = llme.kc := rfl

@[simp] theorem GprsLlcLlme.setLle_iovUi (llme : GprsLlcLlme) (sapi : Fin numSapis)
    (lle : GprsLlcLle) : (llme.setLle sapi lle).iovUi = llme.iovUi := rfl

/-! ## Keys -/

/-- What `gprs_llme_copy_key` reads of an MM context. -/
structure MmKeys where
  /-- Ciphering algorithm chosen for the mobile. -/
  ciphAlgo : GprsCiphAlgo
  /-- Key sequence number of the current vector. -/
  keySeq : ℕ
  /-- `Kc` of the current vector. -/
  kc : Bytes
  /-- `CK` of the current vector. -/
  ck : Bytes
  /-- `IK` of the current vector. -/
  ik : Bytes
  deriving DecidableEq, Repr

/-- Propagate the crypto parameters of an MM context to a management entity. The old key is kept
beyond the octets that the algorithm takes, as `memcpy` leaves them. -/
def gprsLlmeCopyKey (c : GprsCipher) (mm : Option MmKeys) (llme : GprsLlcLlme) : GprsLlcLlme :=
  match mm with
  | none => llme
  | some mm =>
    if mm.ciphAlgo ≠ .gea0 then
      if llme.cksn ≠ mm.keySeq ∧ mm.keySeq ≠ gsmKeySeqInval then
        { llme with
          algo := mm.ciphAlgo
          kc := if mm.ciphAlgo = .gea4 then c.kdfKc128 mm.ck mm.ik
            else mm.kc.take (c.keyLength mm.ciphAlgo) ++ llme.kc.drop (c.keyLength mm.ciphAlgo)
          cksn := mm.keySeq }
      else { llme with algo := mm.ciphAlgo }
    else { llme with cksn := gsmKeySeqInval }

@[simp] theorem gprsLlmeCopyKey_lle (c : GprsCipher) (mm : Option MmKeys) (llme : GprsLlcLlme) :
    (gprsLlmeCopyKey c mm llme).lle = llme.lle := by
  unfold gprsLlmeCopyKey
  split
  · rfl
  · split <;> [split; skip] <;> rfl

@[simp] theorem gprsLlmeCopyKey_iovUi (c : GprsCipher) (mm : Option MmKeys)
    (llme : GprsLlcLlme) : (gprsLlmeCopyKey c mm llme).iovUi = llme.iovUi := by
  unfold gprsLlmeCopyKey
  split
  · rfl
  · split <;> [split; skip] <;> rfl

/-- A key is handed down independently of the counters. -/
theorem gprsLlmeCopyKey_setLle (c : GprsCipher) (mm : Option MmKeys) (llme : GprsLlcLlme)
    (sapi : Fin numSapis) (lle : GprsLlcLle) :
    gprsLlmeCopyKey c mm (llme.setLle sapi lle) = (gprsLlmeCopyKey c mm llme).setLle sapi lle := by
  unfold gprsLlmeCopyKey GprsLlcLlme.setLle
  split
  · rfl
  · dsimp only
    split_ifs <;> rfl

/-- Handing down the same key a second time changes nothing. -/
theorem gprsLlmeCopyKey_idem (c : GprsCipher) (mm : Option MmKeys) (llme : GprsLlcLlme) :
    gprsLlmeCopyKey c mm (gprsLlmeCopyKey c mm llme) = gprsLlmeCopyKey c mm llme := by
  rcases mm with _ | mm
  · rfl
  by_cases halgo : mm.ciphAlgo = .gea0
  · simp [gprsLlmeCopyKey, halgo]
  · by_cases hseq : llme.cksn ≠ mm.keySeq ∧ mm.keySeq ≠ gsmKeySeqInval
    · simp [gprsLlmeCopyKey, halgo, hseq]
    · simp only [gprsLlmeCopyKey, ne_eq, halgo, not_false_eq_true, if_true, hseq, if_false]

/-! ## TLLI assignment -/

/-- Whether an assignment is one that starts the numbering of unconfirmed frames again: a TLLI is
assigned, none is given up, and none is left over from a change under way. -/
def GprsLlcLlme.assignResets (llme : GprsLlcLlme) (oldTlli newTlli : BitVec 32) : Bool :=
  oldTlli = tlliUnassigned && newTlli ≠ tlliUnassigned && llme.oldTlli = tlliUnassigned

/-- An entity after the reset that comes with an assignment. The overflow counters are not
touched. -/
def GprsLlcLle.assignReset (lle : GprsLlcLle) : GprsLlcLle :=
  { lle with vuSend := 0, vuRecv := 0, retransCtr := 0, state := .assignedAdm }

/-- `LLGMM-ASSIGN`. The result is `none` where both TLLIs are unassigned and the code returns
`-EINVAL`; after an unassignment the entity is freed, which the second component reports. -/
def gprsLlgmmAssign (llme : GprsLlcLlme) (oldTlli newTlli : BitVec 32) :
    Option (GprsLlcLlme × Bool) :=
  if oldTlli = tlliUnassigned ∧ newTlli ≠ tlliUnassigned then
    if llme.oldTlli ≠ tlliUnassigned then
      some ({ llme with oldTlli := tlliUnassigned, tlli := newTlli }, false)
    else
      some ({ llme with
        oldTlli := tlliUnassigned
        tlli := newTlli
        state := .assigned
        lle := fun sapi ↦ (llme.lle sapi).assignReset }, false)
  else if oldTlli ≠ tlliUnassigned ∧ newTlli ≠ tlliUnassigned then
    some ({ llme with oldTlli := oldTlli, tlli := newTlli, state := .assigned }, false)
  else if oldTlli ≠ tlliUnassigned ∧ newTlli = tlliUnassigned then
    some ({ llme with
      tlli := tlliUnassigned
      oldTlli := tlliUnassigned
      state := .unassigned
      lle := fun sapi ↦ { llme.lle sapi with state := .unassigned } }, true)
  else none

/-- An assignment leaves the overflow counters alone, and `V(U)` too unless it starts the numbering
again. -/
theorem gprsLlgmmAssign_counters {llme llme' : GprsLlcLlme} {oldTlli newTlli : BitVec 32}
    {freed : Bool} (h : gprsLlgmmAssign llme oldTlli newTlli = some (llme', freed))
    (sapi : Fin numSapis) :
    (llme'.lle sapi).ocUiSend = (llme.lle sapi).ocUiSend ∧ (llme'.lle sapi).vuSend =
      if llme.assignResets oldTlli newTlli then 0 else (llme.lle sapi).vuSend := by
  unfold gprsLlgmmAssign at h
  split_ifs at h with hassign hold hchange hunassign <;>
    obtain ⟨rfl, rfl⟩ := Prod.mk.inj (Option.some.inj h)
  · simp [GprsLlcLlme.assignResets, hold]
  · have hresets : llme.assignResets oldTlli newTlli = true := by
      simp only [not_not] at hold
      simp [GprsLlcLlme.assignResets, hassign, hold]
    simp [hresets, GprsLlcLle.assignReset]
  · simp [GprsLlcLlme.assignResets, hchange]
  · simp [GprsLlcLlme.assignResets, hunassign]

end OsmoSgsn.Llc
