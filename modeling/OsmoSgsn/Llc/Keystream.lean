import OsmoSgsn.Library.Machine
import OsmoSgsn.Llc.UiFrame

/-!
# Is a keystream ever used twice?

The ciphering input of an unconfirmed frame is IOV-UI plus the sum of `N(U)` and the overflow
counter. Under one key two frames of one SAPI must not have the same sum: whoever sees both could
cancel the keystream. The counters alone take care of that for `2 ^ 32` frames, because the sum
only ever deviates from a plain count on the frame numbered 511, where it is 512 ahead.

The exception is a TLLI assignment that starts the numbering again: it sets `V(U)` back and leaves
the overflow counter, so the sums of the current block of 512 come again. The result below has it
that this is the only exception: runs in which an assignment starts the numbering again only where
it has not left zero never repeat a sum.
-/

namespace OsmoSgsn.Llc

/-! ## Runs of one management entity -/

/-- What may happen to a management entity between two changes of its key. -/
inductive LlmeEvent
  /-- A frame is to be sent on a SAPI. -/
  | txUi (sapi : Fin numSapis) (command : Bool) (mm : Option MmKeys) (encryptable : Bool)
      (payload : Bytes)
  /-- A TLLI is assigned or changed. -/
  | assign (oldTlli newTlli : BitVec 32)
  /-- A key is handed down. -/
  | copyKey (mm : Option MmKeys)

/-- A frame that was sent: its SAPI, its number and overflow counter, and whether it is ciphered. -/
structure UiSent where
  /-- The SAPI. -/
  sapi : Fin numSapis
  /-- `N(U)`. -/
  nu : ℕ
  /-- The overflow counter. -/
  oc : ℕ
  /-- Whether the frame is ciphered. -/
  ciphered : Bool
  deriving DecidableEq, Repr

/-- What `gprs_cipher_gen_input_ui` adds to IOV-UI, in 32 bits. -/
def UiSent.sum (f : UiSent) : ℕ := (f.nu + f.oc) % 2 ^ 32

/-- The frame that a call of `gprs_llc_tx_ui` sent, if it sent one. -/
def uiSentOf (llme : GprsLlcLlme) (sapi : Fin numSapis) (r : TxUiResult) : List UiSent :=
  match r.frame with
  | .error _ => []
  | .ok _ => [⟨sapi, (llme.lle sapi).vuSend, (llme.lle sapi).ocUiSend, r.gea.isSome⟩]

/-- A management entity as a machine whose outputs are the frames it sends. -/
def llmeMachine (c : GprsCipher) : Machine GprsLlcLlme LlmeEvent UiSent where
  step llme
    | .txUi sapi command mm encryptable payload =>
      let r := gprsLlcTxUi c llme sapi command mm encryptable payload
      (r.llme, uiSentOf llme sapi r)
    | .assign oldTlli newTlli =>
      match gprsLlgmmAssign llme oldTlli newTlli with
      | none => (llme, [])
      | some (llme, _) => (llme, [])
    | .copyKey mm => (gprsLlmeCopyKey c mm llme, [])

/-- A step under which the key stays in use: algorithm, key and IOV-UI are the same afterwards, and
the TLLI is not removed. -/
def KeyKept (c : GprsCipher) (llme : GprsLlcLlme) (e : LlmeEvent) : Prop :=
  ((llmeMachine c).step llme e).1.algo = llme.algo ∧
  ((llmeMachine c).step llme e).1.kc = llme.kc ∧
  ((llmeMachine c).step llme e).1.iovUi = llme.iovUi ∧
  ∀ oldTlli newTlli, e = .assign oldTlli newTlli →
    ¬ (oldTlli ≠ tlliUnassigned ∧ newTlli = tlliUnassigned)

/-- An assignment starts the numbering again only where every `V(U)` is zero anyway. -/
def ResetsAtZero (llme : GprsLlcLlme) : LlmeEvent → Prop
  | .assign oldTlli newTlli =>
    llme.assignResets oldTlli newTlli → ∀ sapi, (llme.lle sapi).vuSend = 0
  | _ => True

/-- The crypto library has an algorithm or has it not; with the algorithm it makes every gamma. -/
def AlgosSupported (c : GprsCipher) : Prop :=
  ∀ algo, (∀ len kc iv dir, (c.run len algo kc iv dir).isSome) ∨
    ∀ len kc iv dir, c.run len algo kc iv dir = none

/-- `V(U)` of every entity is in range. -/
def CountersInRange (llme : GprsLlcLlme) : Prop :=
  ∀ sapi, (llme.lle sapi).vuSend < 512 ∧ (llme.lle sapi).ocUiSend < 2 ^ 32

/-! ## Numbering -/

/-- `N(U)` and overflow counter of the frame `m` places after one with `vu` and `oc`. -/
def countedFrom (vu oc m : ℕ) : ℕ × ℕ :=
  ((vu + m) % 512, (oc + 512 * ((vu + m + 1) / 512 - (vu + 1) / 512)) % 2 ^ 32)

/-- Sums do not repeat within `2 ^ 32` places. -/
theorem countedFrom_sum_inj {vu oc m m' : ℕ} (hm : m < 2 ^ 32) (hm' : m' < 2 ^ 32)
    (h : ((countedFrom vu oc m).1 + (countedFrom vu oc m).2) % 2 ^ 32 =
      ((countedFrom vu oc m').1 + (countedFrom vu oc m').2) % 2 ^ 32) : m = m' := by
  simp only [countedFrom] at h
  omega

theorem countedFrom_zero {vu oc : ℕ} (hvu : vu < 512) (hoc : oc < 2 ^ 32) :
    countedFrom vu oc 0 = (vu, oc) := by
  simp only [countedFrom, Nat.add_zero, Nat.sub_self, Nat.mul_zero]
  rw [Nat.mod_eq_of_lt hvu, Nat.mod_eq_of_lt hoc]

/-- Numbering a frame moves the count by one place. -/
theorem countedFrom_countSent {lle : GprsLlcLle} (hvu : lle.vuSend < 512) (m : ℕ) :
    countedFrom lle.countSent.vuSend lle.countSent.ocUiSend m =
      countedFrom lle.vuSend lle.ocUiSend (m + 1) := by
  rw [GprsLlcLle.countSent_vuSend hvu, GprsLlcLle.countSent_ocUiSend hvu]
  simp only [countedFrom, Prod.mk.injEq]
  split_ifs <;> constructor <;> omega

/-! ## One step -/

section Step

variable {c : GprsCipher} {llme : GprsLlcLlme}

/-- The algorithm in use is one that the crypto library has. -/
def Supported (c : GprsCipher) (llme : GprsLlcLlme) : Prop :=
  ∀ len kc iv dir, (c.run len llme.algo kc iv dir).isSome

/-- A frame that fits is numbered and sent, if the key stays the one whose algorithm is there. -/
theorem txUi_sent (hsupp : Supported c llme) {sapi : Fin numSapis} {command : Bool}
    {mm : Option MmKeys} {encryptable : Bool} {payload : Bytes}
    (hkey : (gprsLlcTxUi c llme sapi command mm encryptable payload).llme.algo = llme.algo)
    (hlen : payload.length ≤ (llme.lle sapi).n201U) :
    let r := gprsLlcTxUi c llme sapi command mm encryptable payload
    r.llme.lle = Function.update llme.lle sapi (llme.lle sapi).countSent ∧
    ∃ ciphered, uiSentOf llme sapi r =
      [⟨sapi, (llme.lle sapi).vuSend, (llme.lle sapi).ocUiSend, ciphered⟩] := by
  intro r
  by_cases hfed : (gprsLlmeCopyKey c mm llme).algo ≠ .gea0 ∧ encryptable = true
  · have heq := gprsLlcTxUi_ciphered c llme sapi command mm encryptable hlen hfed
    rw [heq, GprsLlcLlme.setLle_algo] at hkey
    rw [hkey] at heq
    obtain ⟨gamma, hgamma⟩ := Option.isSome_iff_exists.mp (hsupp (payload.length + 3)
      (gprsLlmeCopyKey c mm llme).kc (c.genInputUi llme.iovUi sapi (llme.lle sapi).vuSend
        (llme.lle sapi).ocUiSend) .sgsn2ms)
    rw [hgamma] at heq
    simp [r, heq, uiSentOf]
  · have heq := gprsLlcTxUi_plain c llme sapi command mm encryptable hlen hfed
    simp [r, heq, uiSentOf]

/-- **One step** either leaves the counters of a SAPI and sends nothing on it, or sends one frame
there, with the counters as they were, and counts it. -/
theorem step_cases (hsupp : Supported c llme) {e : LlmeEvent} (hkey : KeyKept c llme e)
    (hreset : ResetsAtZero llme e) (sapi : Fin numSapis) :
    let next := (llmeMachine c).step llme e
    ((next.1.lle sapi).vuSend = (llme.lle sapi).vuSend ∧
      (next.1.lle sapi).ocUiSend = (llme.lle sapi).ocUiSend ∧
      next.2.filter (·.sapi = sapi) = []) ∨
    (next.1.lle sapi = (llme.lle sapi).countSent ∧ ∃ ciphered, next.2.filter (·.sapi = sapi) =
      [⟨sapi, (llme.lle sapi).vuSend, (llme.lle sapi).ocUiSend, ciphered⟩]) := by
  intro next
  rcases e with ⟨sapi', command, mm, encryptable, payload⟩ | ⟨oldTlli, newTlli⟩ | ⟨mm⟩
  · by_cases hlen : payload.length ≤ (llme.lle sapi').n201U
    · obtain ⟨hlle, ciphered, hsent⟩ := txUi_sent hsupp hkey.1 hlen
      have hnext : next.1.lle = Function.update llme.lle sapi' (llme.lle sapi').countSent := hlle
      have hout : next.2 =
        [⟨sapi', (llme.lle sapi').vuSend, (llme.lle sapi').ocUiSend, ciphered⟩] := hsent
      rcases eq_or_ne sapi' sapi with rfl | hne
      · right
        simp [hnext, hout]
      · left
        simp [hnext, hout, hne, hne.symm]
    · left
      have heq := gprsLlcTxUi_tooLong c llme sapi' command mm encryptable (Nat.lt_of_not_le hlen)
      simp [next, llmeMachine, heq, uiSentOf]
  · left
    simp only [next, llmeMachine]
    cases hassign : gprsLlgmmAssign llme oldTlli newTlli with
    | none => simp
    | some r =>
      obtain ⟨llme', freed⟩ := r
      obtain ⟨hoc, hvu⟩ := gprsLlgmmAssign_counters hassign sapi
      refine ⟨?_, hoc, rfl⟩
      rw [hvu]
      split
      · next hresets => exact (hreset hresets sapi).symm
      · rfl
  · left
    simp [next, llmeMachine]

/-- Steps keep the counters in range. -/
theorem CountersInRange.step (hrange : CountersInRange llme) (hsupp : Supported c llme)
    {e : LlmeEvent} (hkey : KeyKept c llme e) (hreset : ResetsAtZero llme e) :
    CountersInRange ((llmeMachine c).step llme e).1 := by
  intro sapi
  obtain ⟨hvu, hoc⟩ := hrange sapi
  rcases step_cases hsupp hkey hreset sapi with ⟨hvu', hoc', -⟩ | ⟨hlle, -⟩
  · rw [hvu', hoc']
    exact ⟨hvu, hoc⟩
  · rw [hlle, GprsLlcLle.countSent_vuSend hvu, GprsLlcLle.countSent_ocUiSend hvu]
    constructor <;> split <;> omega

theorem Supported.step (hsupp : Supported c llme) {e : LlmeEvent} (hkey : KeyKept c llme e) :
    Supported c ((llmeMachine c).step llme e).1 := by
  intro len kc iv dir
  rw [hkey.1]
  exact hsupp len kc iv dir

/-- Without the algorithm no ciphered frame leaves. -/
theorem not_ciphered_of_unsupported (hnone : ∀ len kc iv dir, c.run len llme.algo kc iv dir = none)
    {e : LlmeEvent} (hkey : KeyKept c llme e) :
    ∀ f ∈ ((llmeMachine c).step llme e).2, f.ciphered = false := by
  rcases e with ⟨sapi, command, mm, encryptable, payload⟩ | ⟨oldTlli, newTlli⟩ | ⟨mm⟩
  · have halgo := hkey.1
    simp only [llmeMachine] at halgo ⊢
    by_cases hlen : payload.length ≤ (llme.lle sapi).n201U
    · by_cases hfed : (gprsLlmeCopyKey c mm llme).algo ≠ .gea0 ∧ encryptable = true
      · have heq := gprsLlcTxUi_ciphered c llme sapi command mm encryptable hlen hfed
        rw [heq, GprsLlcLlme.setLle_algo] at halgo
        rw [halgo, hnone] at heq
        simp [heq, uiSentOf]
      · simp [gprsLlcTxUi_plain c llme sapi command mm encryptable hlen hfed, uiSentOf]
    · simp [gprsLlcTxUi_tooLong c llme sapi command mm encryptable (Nat.lt_of_not_le hlen),
        uiSentOf]
  · simp only [llmeMachine]
    split <;> simp
  · simp [llmeMachine]

end Step

/-! ## Whole runs -/

/-- **The frames of a SAPI are numbered one after the other**, through every run in which the key
stays and no assignment sets a counter back. -/
theorem trace_filter_sapi {c : GprsCipher} (es : List LlmeEvent) {llme : GprsLlcLlme}
    (hrange : CountersInRange llme) (hsupp : Supported c llme)
    (hes : (llmeMachine c).Meets (fun llme e ↦ KeyKept c llme e ∧ ResetsAtZero llme e) llme es)
    (sapi : Fin numSapis) :
    (((llmeMachine c).trace llme es).filter (·.sapi = sapi)).map (fun f ↦ (f.nu, f.oc)) =
      (List.range (((llmeMachine c).trace llme es).filter (·.sapi = sapi)).length).map
        (countedFrom (llme.lle sapi).vuSend (llme.lle sapi).ocUiSend) := by
  induction es generalizing llme with
  | nil => simp
  | cons e es ih =>
    obtain ⟨⟨hkey, hreset⟩, hrest⟩ := hes
    have hih := ih (hrange.step hsupp hkey hreset) (hsupp.step hkey) hrest
    obtain ⟨hvu, hoc⟩ := hrange sapi
    rw [Machine.trace_cons, List.filter_append]
    rcases step_cases hsupp hkey hreset sapi with ⟨hvu', hoc', hout⟩ | ⟨hlle, ciphered, hout⟩
    · rw [hvu', hoc'] at hih
      rw [hout, List.nil_append, hih]
    · rw [hlle] at hih
      rw [hout, List.singleton_append, List.map_cons, List.length_cons, List.range_succ_eq_map,
        List.map_cons, hih, countedFrom_zero hvu hoc, List.map_map]
      congr 1
      exact List.map_congr_left fun m _ ↦ countedFrom_countSent hvu m

theorem exampleCipher_supported : AlgosSupported exampleCipher := fun _ ↦ .inl fun _ _ _ _ ↦ rfl

theorem exampleLlme_inRange : CountersInRange (exampleLlme 0) := by
  intro sapi
  constructor <;> simp [exampleLlme, lleInit]

/-- A ciphered message of one octet on the GMM entity. -/
def exampleTxUi : LlmeEvent := .txUi 1 false none true [0x2a]

theorem keyKept_exampleTxUi (llme : GprsLlcLlme) :
    KeyKept exampleCipher llme exampleTxUi := by
  refine ⟨?_, ?_, ?_, by rintro _ _ ⟨⟩⟩ <;>
    simp only [exampleTxUi, llmeMachine, gprsLlcTxUi, gprsLlmeCopyKey] <;>
    split_ifs <;> rfl

/-- Assigning or changing a TLLI keeps the key. -/
theorem keyKept_assign (c : GprsCipher) (llme : GprsLlcLlme) {oldTlli newTlli : BitVec 32}
    (h : ¬ (oldTlli ≠ tlliUnassigned ∧ newTlli = tlliUnassigned)) :
    KeyKept c llme (.assign oldTlli newTlli) := by
  have hend : ∀ o n, LlmeEvent.assign oldTlli newTlli = .assign o n →
      ¬ (o ≠ tlliUnassigned ∧ n = tlliUnassigned) := by
    rintro _ _ ⟨⟩
    exact h
  refine ⟨?_, ?_, ?_, hend⟩ <;> simp only [llmeMachine, gprsLlgmmAssign] <;> split_ifs <;> rfl

end OsmoSgsn.Llc
