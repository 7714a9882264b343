import OsmoSgsn.Gtphub.Evict
import OsmoSgsn.Gtphub.ExpiryOrder

/-!
# Pending deletes

A Delete Request is remembered by the pointer to its tunnel until a response is seen, or for half a
minute. Nothing takes it out when the tunnel ends in another way. A tunnel that expires is no such
way, as the request has refreshed it and is forgotten long before it; the others are a second
pending request, a response for a tunnel that is partly void, and a tunnel that is made with the
address and the TEI of an endpoint of the old one.
-/

open EStateM

namespace OsmoSgsn.Gtphub

/-! ## The queues -/

/-- What is pending is remembered once, and is queued to be forgotten before its tunnel. -/
structure Hub.PendingFirst (h : Hub) : Prop where
  nodup : h.pendingDeletes.Nodup
  queued : ∀ pd ∈ h.pendingDeletes, ∃ e ∈ h.expireQuickly, e.item = .pendingDelete pd
  first : ∀ e ∈ h.expireQuickly, ∀ e' ∈ h.expireSlowly, ∀ pd, e.item = .pendingDelete pd →
    e'.item = .tunnel pd.tun → e.expiry ≤ e'.expiry

section Queues

variable {h h' : Hub} {lib : Lib} {G : Prop} {now t : ℕ}

theorem Hub.PendingFirst.same (hf : h.PendingFirst)
    (hpending : h'.pendingDeletes = h.pendingDeletes)
    (hquickly : h'.expireQuickly = h.expireQuickly) (hslowly : h'.expireSlowly = h.expireSlowly) :
    h'.PendingFirst := by
  refine ⟨?_, ?_, ?_⟩
  · rw [hpending]
    exact hf.nodup
  · rw [hpending, hquickly]
    exact hf.queued
  · rw [hquickly, hslowly]
    exact hf.first

/-- Something else is queued in front of the pending deletes or behind them. -/
theorem Hub.PendingFirst.addQuickly {x : Item} {expiry : ℕ} {items : List (Expiring Item)}
    (hf : h.PendingFirst) (hx : ∀ pd, x ≠ .pendingDelete pd)
    (hadd : Expiring.add h.expireQuickly x expiry = some items)
    (hpending : h'.pendingDeletes = h.pendingDeletes) (hquickly : h'.expireQuickly = items)
    (hslowly : h'.expireSlowly = h.expireSlowly) : h'.PendingFirst := by
  refine ⟨?_, fun pd hpd ↦ ?_, fun e he e' he' pd hitem htun ↦ ?_⟩
  · rw [hpending]
    exact hf.nodup
  · rw [hpending] at hpd
    obtain ⟨e, he, hitem⟩ := hf.queued pd hpd
    refine ⟨e, ?_, hitem⟩
    rw [hquickly]
    exact Expiring.mem_add_of_ne hadd he fun heq ↦ hx pd (heq.symm.trans hitem)
  · rw [hquickly] at he
    rw [hslowly] at he'
    rcases Expiring.mem_add hadd he with rfl | ⟨he, -⟩
    · exact absurd hitem (hx pd)
    · exact hf.first e he e' he' pd hitem htun

/-- Something is queued slowly at a time, after all that is pending. -/
theorem Hub.PendingFirst.addSlowly {x : Item} {items : List (Expiring Item)} (hf : h.PendingFirst)
    (ho : h.InOrder now)
    (hadd : Expiring.add h.expireSlowly x (now + Exq.slowly.seconds) = some items)
    (hpending : h'.pendingDeletes = h.pendingDeletes)
    (hquickly : h'.expireQuickly = h.expireQuickly)
    (hslowly : h'.expireSlowly = items) : h'.PendingFirst := by
  refine ⟨?_, ?_, fun e he e' he' pd hitem htun ↦ ?_⟩
  · rw [hpending]
    exact hf.nodup
  · rw [hpending, hquickly]
    exact hf.queued
  · rw [hquickly] at he
    rw [hslowly] at he'
    rcases Expiring.mem_add hadd he' with rfl | ⟨he', -⟩
    · refine ((ho .quickly).le e he).trans (Nat.add_le_add_left ?_ now)
      decide
    · exact hf.first e he e' he' pd hitem htun

theorem Hub.PendingFirst.delItem (hf : h.PendingFirst) (item : Item) :
    (h.delItem item).PendingFirst := by
  have hquickly : (h.delItem item).expireQuickly = Expiring.remove h.expireQuickly item :=
    Hub.delItem_exq .quickly
  have hslowly : (h.delItem item).expireSlowly = Expiring.remove h.expireSlowly item :=
    Hub.delItem_exq .slowly
  have hpending (pd : PendingDelete) (hpd : pd ∈ (h.delItem item).pendingDeletes) :
      pd ∈ h.pendingDeletes ∧ item ≠ .pendingDelete pd := by
    rw [Hub.delItem_pendingDeletes] at hpd
    cases item with
    | pendingDelete pd' =>
      obtain ⟨hne, hmem⟩ := hf.nodup.mem_erase_iff.mp hpd
      exact ⟨hmem, fun heq ↦ hne (Item.pendingDelete.inj heq).symm⟩
    | _ => exact ⟨hpd, by simp⟩
  refine ⟨?_, fun pd hpd ↦ ?_, fun e he e' he' ↦ ?_⟩
  · rw [Hub.delItem_pendingDeletes]
    cases item with
    | pendingDelete pd' => exact hf.nodup.erase pd'
    | _ => exact hf.nodup
  · obtain ⟨hmem, hne⟩ := hpending pd hpd
    obtain ⟨e, he, hitem⟩ := hf.queued pd hmem
    refine ⟨e, ?_, hitem⟩
    rw [hquickly]
    exact Expiring.mem_remove.mpr ⟨he, hitem ▸ hne.symm⟩
  · rw [hquickly] at he
    rw [hslowly] at he'
    exact hf.first e (Expiring.mem_remove.mp he).1 e' (Expiring.mem_remove.mp he').1

/-- A request is remembered when its tunnel was queued. -/
theorem Hub.PendingFirst.noteDelete {pd : PendingDelete} {items : List (Expiring Item)}
    (hf : h.PendingFirst) (hfresh : h.Fresh pd.tun now)
    (hadd : Expiring.add h.expireQuickly (.pendingDelete pd) (now + Exq.quickly.seconds) =
      some items) : ((h.noteDelete pd).setExq items .quickly).PendingFirst where
  nodup := by
    change (if pd ∈ h.pendingDeletes then h.pendingDeletes else pd :: h.pendingDeletes).Nodup
    split
    · exact hf.nodup
    · next hnot => exact List.nodup_cons.mpr ⟨hnot, hf.nodup⟩
  queued pd' hpd' := by
    by_cases heq : pd' = pd
    · subst heq
      refine ⟨⟨.pendingDelete pd', now + Exq.quickly.seconds⟩, ?_, rfl⟩
      change _ ∈ items
      rw [Expiring.add_eq_some hadd]
      exact List.mem_append_right _ List.mem_cons_self
    · have hold : pd' ∈ h.pendingDeletes := by
        change pd' ∈ (if pd ∈ h.pendingDeletes then h.pendingDeletes else pd :: h.pendingDeletes)
          at hpd'
        split at hpd'
        · exact hpd'
        · exact List.mem_of_ne_of_mem heq hpd'
      obtain ⟨e, he, hitem⟩ := hf.queued pd' hold
      refine ⟨e, Expiring.mem_add_of_ne hadd he fun hsame ↦ heq ?_, hitem⟩
      exact Item.pendingDelete.inj (hitem.symm.trans hsame)
  first e he e' he' pd' hitem htun := by
    rcases Expiring.mem_add hadd he with rfl | ⟨he, -⟩
    · obtain rfl : pd = pd' := Item.pendingDelete.inj hitem
      refine le_trans ?_ (hfresh e' he' htun)
      exact Nat.add_le_add_left (by decide) now
    · exact hf.first e he e' he' pd' hitem htun

/-- Every step keeps what is pending in front. -/
theorem Hub.PendingFirst.step (hstep : HubStep lib G now h h') (ho : h.InOrder now)
    (hf : h.PendingFirst) : h'.PendingFirst := by
  cases hstep with
  | touch item items hlive hother hadd =>
    cases item with
    | tunnel t => exact hf.addSlowly ho hadd rfl rfl rfl
    | resolvedGgsn g => exact hf.addSlowly ho hadd rfl rfl rfl
    | pendingDelete pd => exact absurd rfl (hother pd)
    | mapping m => exact hf.addQuickly hother hadd rfl rfl rfl
    | ggsnLookup id => exact hf.addQuickly hother hadd rfl rfl rfl
  | delItem item _ => exact hf.delItem item
  | noteDelete pd items ht hfresh hadd => exact hf.noteDelete hfresh hadd
  | mappingNew toPort origin orig items _ _ _ hadd =>
    exact hf.addQuickly (by simp) hadd rfl rfl rfl
  | resolvedNew name pp items _ _ hadd => exact hf.addSlowly ho hadd rfl rfl rfl
  | _ => exact hf.same rfl rfl rfl

theorem HubSteps.pendingFirst (hsteps : HubSteps lib G now h h') (ho : h.InOrder now)
    (hf : h.PendingFirst) : h'.PendingFirst := by
  have hstep : ∀ h h', HubStep lib G now h h' → h.InOrder now ∧ h.PendingFirst →
      h'.InOrder now ∧ h'.PendingFirst :=
    fun _ _ hstep hboth ↦ ⟨hboth.1.step hstep, hboth.2.step hstep hboth.1⟩
  exact (hsteps.invariant hstep ⟨ho, hf⟩).2

theorem Handles.pendingFirst {e : HubEvent} (hh : Handles lib e h h') (ho : h.InOrder t)
    (hf : h.PendingFirst) (hstart : t ≤ e.start) (hstop : e.start ≤ e.stop) : h'.PendingFirst := by
  obtain ⟨h₁, h₂, hsteps₁, hsteps₂, heq⟩ := hh.walks
  have hf₁ := hsteps₁.pendingFirst (ho.mono hstart) hf
  have hf₂ := hsteps₂.pendingFirst ((hsteps₁.inOrder ho hstart).mono hstop) hf₁
  rcases heq with rfl | rfl
  · exact hf₂
  · exact hf₂.same rfl rfl rfl

end Queues

end OsmoSgsn.Gtphub
