import OsmoSgsn.Library.Machine
import OsmoSgsn.Llc.UiFrame

/-!
# Are retransmissions delivered once?

A frame whose number lies just behind `V(UR)` is taken for a retransmission, and should be dropped,
unless the same number has been dropped three times in a row: then the peer has lost count, and the
receiver learns the number. The check that does this has a second condition, though. It remembers
the last number that was taken for a retransmission, and a number other than that one is only
written down: the frame is processed like a new one. So of the retransmissions only those are
dropped that repeat the one before, and at most as long as the counter of repetitions is below
three.
-/

namespace OsmoSgsn.Llc

/-- A frame that has been processed, with the entity before and after. -/
structure UiProcessed where
  /-- The entity before. -/
  before : GprsLlcLle
  /-- `N(U)` of the frame. -/
  nu : ℕ
  /-- Whether `gprs_llc_hdr_rx` returned an error. -/
  rejected : Bool
  /-- The entity after. -/
  after : GprsLlcLle
  /-- The frames processed earlier, the last one first: their numbers and whether they were
  rejected. -/
  earlier : List (ℕ × Bool)

/-- A number has been rejected at least three times in a row. -/
def RejectedThrice (earlier : List (ℕ × Bool)) (nu : ℕ) : Prop :=
  earlier.take 3 = List.replicate 3 (nu, true)

instance (earlier : List (ℕ × Bool)) (nu : ℕ) : Decidable (RejectedThrice earlier nu) :=
  inferInstanceAs (Decidable (_ = _))

/-- A header of an unconfirmed frame. -/
abbrev UiHdr := { gph : GprsLlcHdrParsed // gph.cmd = .ui }

/-- An entity that receives unconfirmed frames, with the record of those before. -/
def uiRxMachine : Machine (GprsLlcLle × List (ℕ × Bool)) UiHdr UiProcessed where
  step s gph :=
    let (rc, lle) := gprsLlcHdrRx gph.val s.1
    let rejected := !rc.isOk
    ((lle, (gph.val.seqTx, rejected) :: s.2), [⟨s.1, gph.val.seqTx, rejected, lle, s.2⟩])

/-- A frame that is taken for a retransmission is rejected and leaves `V(UR)` and the overflow
counter, unless its number has been rejected three times in a row. -/
def UiProcessed.RejectsRetransmission (o : UiProcessed) : Prop :=
  gprsLlcIsRetransmit o.nu o.before.vuRecv → ¬ RejectedThrice o.earlier o.nu →
    o.rejected = true ∧ o.after.vuRecv = o.before.vuRecv ∧ o.after.ocUiRecv = o.before.ocUiRecv

/-- A frame that is taken for a retransmission has the last such number, and the repetitions of it
have not been counted up to two. The counter has sixteen bits. -/
def RepeatsLast (s : GprsLlcLle × List (ℕ × Bool)) (gph : UiHdr) : Prop :=
  gprsLlcIsRetransmit gph.val.seqTx s.1.vuRecv → ¬ RejectedThrice s.2 gph.val.seqTx →
    gph.val.seqTx = s.1.vuRecvLast ∧ (s.1.vuRecvDuplicates + 1) % 2 ^ 16 < 3

/-- What becomes of a retransmission. -/
theorem gprsLlcHdrRx_retransmit {gph : GprsLlcHdrParsed} {lle : GprsLlcLle} (hcmd : gph.cmd = .ui)
    (hret : gprsLlcIsRetransmit gph.seqTx lle.vuRecv = true) :
    ((gprsLlcHdrRx gph lle).1.isOk = false ↔
      gph.seqTx = lle.vuRecvLast ∧ (lle.vuRecvDuplicates + 1) % 2 ^ 16 < 3) ∧
    ((gprsLlcHdrRx gph lle).1.isOk = false → (gprsLlcHdrRx gph lle).2.vuRecv = lle.vuRecv ∧
      (gprsLlcHdrRx gph lle).2.ocUiRecv = lle.ocUiRecv) := by
  simp only [gprsLlcHdrRx, hcmd, hret, if_true]
  by_cases hlast : gph.seqTx = lle.vuRecvLast
  · by_cases hdup : (lle.vuRecvDuplicates + 1) % 2 ^ 16 < 3
    · rw [if_neg (not_not.mpr hlast), if_pos hdup]
      exact ⟨iff_of_true rfl ⟨hlast, hdup⟩, fun _ ↦ ⟨rfl, rfl⟩⟩
    · rw [if_neg (not_not.mpr hlast), if_neg hdup]
      exact ⟨iff_of_false Bool.noConfusion fun h ↦ hdup h.2, Bool.noConfusion⟩
  · rw [if_pos hlast]
    exact ⟨iff_of_false Bool.noConfusion fun h ↦ hlast h.1, Bool.noConfusion⟩

/-- A frame that is rejected is not passed on. -/
theorem rcvmsgChecked_rejected {llme : GprsLlcLlme} {llhp : GprsLlcHdrParsed}
    (hrej : (gprsLlcHdrRx llhp (llme.lle llhp.sapi)).1.isOk = false) (frame : Bytes)
    (dropCipherable : Bool) (gea : Option (ℕ × ℕ)) :
    (rcvmsgChecked llme llhp frame dropCipherable gea).rc.isOk = false := by
  rw [rcvmsgChecked]
  split
  · cases hrx : gprsLlcHdrRx llhp (llme.lle llhp.sapi) with
    | mk rc lle =>
      rw [hrx] at hrej
      cases rc with
      | error e => rfl
      | ok action => cases hrej
  · rfl

/-- One frame. -/
theorem step_rejectsRetransmission_iff (s : GprsLlcLle × List (ℕ × Bool)) (gph : UiHdr) :
    (∀ o ∈ (uiRxMachine.step s gph).2, o.RejectsRetransmission) ↔ RepeatsLast s gph := by
  have hstep : (∀ o ∈ (uiRxMachine.step s gph).2, o.RejectsRetransmission) ↔
      (gprsLlcIsRetransmit gph.val.seqTx s.1.vuRecv → ¬ RejectedThrice s.2 gph.val.seqTx →
        (gprsLlcHdrRx gph.val s.1).1.isOk = false ∧
          (gprsLlcHdrRx gph.val s.1).2.vuRecv = s.1.vuRecv ∧
          (gprsLlcHdrRx gph.val s.1).2.ocUiRecv = s.1.ocUiRecv) := by
    simp [uiRxMachine, UiProcessed.RejectsRetransmission]
  rw [hstep, RepeatsLast]
  refine imp_congr_right fun hret ↦ imp_congr_right fun _ ↦ ?_
  obtain ⟨hiff, hkept⟩ := gprsLlcHdrRx_retransmit gph.property hret
  rw [← hiff]
  exact ⟨fun h ↦ h.1, fun h ↦ ⟨h, hkept h⟩⟩

/-- **Retransmissions.** From any state of an entity and through any sequence of unconfirmed frames,
every retransmission is rejected, and not passed on, exactly if every retransmission has the number
of the one before and that number has not been counted up to two. -/
theorem retransmissions_rejected_iff (lle : GprsLlcLle) (frames : List UiHdr) :
    ((∀ o ∈ uiRxMachine.trace (lle, []) frames, o.RejectsRetransmission) ↔
      uiRxMachine.Meets RepeatsLast (lle, []) frames) ∧
    ∀ (llme : GprsLlcLlme) (llhp : GprsLlcHdrParsed) (frame : Bytes) (dropCipherable : Bool)
      (gea : Option (ℕ × ℕ)), (gprsLlcHdrRx llhp (llme.lle llhp.sapi)).1.isOk = false →
        (rcvmsgChecked llme llhp frame dropCipherable gea).rc.isOk = false :=
  ⟨Machine.forall_mem_trace_iff RepeatsLast step_rejectsRetransmission_iff,
    fun _ _ frame dropCipherable gea hrej ↦ rcvmsgChecked_rejected hrej frame dropCipherable gea⟩

/-- The header of an unconfirmed frame with a number. -/
def exampleUiHdr (nu : ℕ) : UiHdr := ⟨uiParsed 1 true false nu 0 1, rfl⟩

/-- A frame that repeats the last retransmission is rejected. -/
theorem repeated_retransmission_rejected : ∀ o ∈ uiRxMachine.trace
    ({ lleInit 1 with vuRecv := 10, vuRecvLast := 9 }, []) [exampleUiHdr 9, exampleUiHdr 9],
      o.RejectsRetransmission :=
  (retransmissions_rejected_iff _ _).1.mpr
    ⟨fun _ _ ↦ ⟨rfl, by decide⟩, fun _ _ ↦ ⟨rfl, by decide⟩, trivial⟩

/-- A new entity receives the frames numbered 1 and 2 and then the first one again, and accepts
it. -/
theorem first_retransmission_accepted : ¬ ∀ (lle : GprsLlcLle) (frames : List UiHdr),
    ∀ o ∈ uiRxMachine.trace (lle, []) frames, o.RejectsRetransmission := by
  intro hall
  have ho := hall (lleInit 1) [exampleUiHdr 1, exampleUiHdr 2, exampleUiHdr 1]
    (uiRxMachine.trace (lleInit 1, []) [exampleUiHdr 1, exampleUiHdr 2, exampleUiHdr 1])[2]
    (List.getElem_mem _)
  have hrej := (ho (by decide) (by decide)).1
  exact absurd hrej (by decide)

end OsmoSgsn.Llc
