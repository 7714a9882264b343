import OsmoSgsn.Gmm.Subscribers

/-!
# Where mobile stations are

A context on Gb points to the LLC entity through which its mobile station is reached, and one on Iu
to a connection. In every state that is reached the lists of contexts and of connections are exact,
no context is left in the middle of a rejection, and a context on Gb that has a PDP context has an
LLC entity.

That a pointer is good, and that a mobile station that is registered can be reached, is the case as
long as no message breaks it. Which messages do is said in terms of the state in which they come.
-/

namespace OsmoSgsn.Gmm

variable {s : Sgsn} {id id' : CtxId} {mm mm' : MmCtx}

/-- A mobile station has attached over Gb: it was asked for its IMEI, was accepted, and has
confirmed it. -/
def exampleRegistered : List (Event × Env) :=
  exampleOne ++ [exampleGb 0xc0000001 1 (.gmm (.idResp (some (.imei [3])))),
    exampleGb 0xc0000001 1 (.gmm .attachCompl)]

/-! ## Lists -/

/-- **The lists are exact.** In every state that is reached, `mm_list` has every context that there
is once, and `ue_conn_ctx_list` every connection. -/
theorem lists_exact (h : Reached (fun _ _ ↦ True) s) :
    s.mmList.Nodup ∧ (∀ id, id ∈ s.mmList ↔ (s.ctxs id).isSome) ∧
      s.ueList.Nodup ∧ ∀ ue, ue ∈ s.ueList ↔ (s.ues ue).isSome := by
  have hlisted := h.nothing.indexed.listed
  refine ⟨hlisted.nodup, fun id ↦ (hlisted.mem_iff id).trans ?_, h.nothing.ues.nodup,
    h.nothing.ues.mem_iff⟩
  simp [Sgsn.view, Option.isSome_iff_ne_none]

theorem lists_exact_exampleRegistered :
    (∀ id, id ∈ (exampleNode exampleRegistered).sgsn.mmList ↔
      ((exampleNode exampleRegistered).sgsn.ctxs id).isSome) ∧
    (exampleNode exampleRegistered).sgsn.mmList = [0] :=
  ⟨(lists_exact (reached_example_true (by decide +kernel))).2.1, by decide +kernel⟩

/-- **No rejection is left half done.** Where an attach is rejected the context is freed before the
event has been handled. -/
theorem not_reject_of_reached (h : Reached (fun _ _ ↦ True) s) (hmm : s.Lists id mm) :
    mm.att ≠ .reject :=
  h.nothing.settled id _ hmm.entry

theorem not_reject_exampleRegistered :
    ∃ mm, (exampleNode exampleRegistered).sgsn.Lists 0 mm ∧ mm.att ≠ .reject := by
  obtain ⟨mm, hmm, -⟩ := exists_lists exampleRegistered (fun _ ↦ true) 0 (by decide +kernel)
  exact ⟨mm, hmm, not_reject_of_reached (reached_example_true (by decide +kernel)) hmm⟩

/-- **A context on Gb that has a PDP context has an LLC entity**, and so has one that a GGSN is
looked up for. -/
theorem served_of_reached (h : Reached (fun _ _ ↦ True) s) (hmm : s.Lists id mm)
    (hgb : mm.ranType = .geranGb) (hsession : mm.pdpList ≠ [] ∨ mm.ggsnLookup ≠ none) :
    mm.llme ≠ none :=
  h.nothing.served id _ hmm.entry hgb (decide_eq_true hsession)

/-- The mobile station has then asked for a PDP context. -/
def exampleActivated : List (Event × Env) :=
  exampleRegistered ++ [exampleGb 0xc0000001 1 (.sm (.actPdpReq ⟨5, 3, 0, .ggsn true⟩))]

theorem served_exampleActivated : ∃ mm, (exampleNode exampleActivated).sgsn.Lists 0 mm ∧
    mm.pdpList ≠ [] ∧ mm.llme ≠ none := by
  obtain ⟨mm, hmm, hp⟩ := exists_lists exampleActivated
    (fun mm ↦ mm.ranType = .geranGb ∧ mm.pdpList ≠ []) 0 (by decide +kernel)
  obtain ⟨hgb, hpdp⟩ := of_decide_eq_true hp
  have hreached : Reached (fun _ _ ↦ True) (exampleNode exampleActivated).sgsn :=
    reached_example_true (by decide +kernel)
  exact ⟨mm, hmm, hpdp, served_of_reached hreached hmm hgb (.inl hpdp)⟩

/-! ## LLC entities -/

/-- A message over Gb gives its LLC entity to a second context, or gives it up, while a context
points to it; or a context is made for a P-TMSI that no TLLI can be made from. -/
def Event.BreaksLlmes (s : Sgsn) (e : Event) : Prop :=
  e.Sends Uplink.SplitsLlme s ∨
    ∃ t, localTlli t = tlliUnassigned ∧ e.Sends (fun s u ↦ u.MakesPtmsi s t) s

/-- What contexts point to as their LLC entities is there, and no two of them share one. -/
structure Sgsn.LlmesOwned (s : Sgsn) : Prop where
  live : ∀ id mm l, s.Lists id mm → mm.llme = some l → (s.llme? l).isSome
  unique : ∀ id id' mm mm' l, s.Lists id mm → s.Lists id' mm' → mm.llme = some l →
    mm'.llme = some l → id = id'

instance loose_llme : Loose { Promises.nothing with llme := True } := ⟨not_false, not_false⟩

-- a message with its TLLI from another routing area takes the LLC entity away from a context
example :
    let s := (exampleNode (exampleOne ++ [exampleGb 0x80000001 2 (.gmm .status)])).sgsn
    s.ctxHas (·.llme = some 0) 0 = true ∧ s.llmes = [] := by
  decide +kernel

/-! ## Connections -/

/-- A context that points to a connection is on Iu, the connection is in the list, and no other
context points to it. -/
structure Sgsn.ConnectionsBound (s : Sgsn) : Prop where
  bound : ∀ id mm ue, s.Lists id mm → mm.ueCtx = some ue → mm.ranType = .utranIu ∧ ue ∈ s.ueList
  unique : ∀ id id' mm mm' ue, s.Lists id mm → s.Lists id' mm' → mm.ueCtx = some ue →
    mm'.ueCtx = some ue → id = id'

instance loose_ue : Loose { Promises.nothing with ue := True } := ⟨not_false, not_false⟩

/-- A mobile station attaches over Iu. -/
def exampleIu : List (Event × Env) :=
  [(.iuInitial 7 0 (exampleCell 1) (.gmm (.attachReq ⟨[], [], some (.imsi [1]), 0⟩)),
    { rand := [some 1] })]

-- a service request with the IMSI of a context on Gb gives that one a connection
example :
    let s := (exampleNode (exampleOne ++ [(.iuInitial 7 0 (exampleCell 1)
      (.gmm (.serviceReq ⟨0, some (.imsi [1]), none⟩)), { tx := [] })])).sgsn
    s.ctxHas (fun mm ↦ mm.ranType = .geranGb ∧ mm.ueCtx = some 7) 0 = true := by
  decide +kernel

/-! ## Registration -/

instance loose_reach : Loose { Promises.nothing with reach := True } := ⟨not_false, not_false⟩

/-- **Who is registered can be reached**, in every state that is reached without a routing area
update that is completed for a context that cannot. -/
theorem not_lost_of_reached (h : Reached (fun s e ↦ ¬ e.Sends Uplink.RegistersLost s) s)
    (hmm : s.Lists id mm) (hreg : mm.gmm.isRegistered = true) : mm.lost = false := by
  have hkept : Kept { Promises.nothing with reach := True } s.view := by
    refine h.kept fun s e hok u hu ↦ ?_
    exact ⟨False.elim, False.elim, False.elim, False.elim, False.elim,
      fun _ hbad ↦ hok ⟨u, hu, hbad⟩⟩
  have hreach := hkept.reach trivial id _ hmm.entry hreg
  have hran : mm.entry.ranType = mm.ranType := rfl
  unfold Entry.Reachable at hreach
  unfold MmCtx.lost
  cases hr : mm.ranType with
  | geranGb =>
    simp only [hran, hr] at hreach
    exact decide_eq_false hreach
  | utranIu =>
    simp only [hran, hr] at hreach
    exact decide_eq_false hreach

theorem not_lost_exampleRegistered : ∃ mm, (exampleNode exampleRegistered).sgsn.Lists 0 mm ∧
    mm.gmm = .registeredNormal ∧ mm.lost = false := by
  obtain ⟨mm, hmm, hp⟩ := exists_lists exampleRegistered (·.gmm = .registeredNormal) 0
    (by decide +kernel)
  have hgmm := of_decide_eq_true hp
  have hreached : Reached (fun s e ↦ ¬ e.Sends Uplink.RegistersLost s)
      (exampleNode exampleRegistered).sgsn := by
    refine reached_example ⟨?_, ?_, ?_, trivial⟩ (by decide +kernel)
    all_goals
      rintro ⟨u, hu, hmsg, -⟩
      obtain rfl := Option.some.inj hu
      cases hmsg
  exact ⟨mm, hmm, hgmm, not_lost_of_reached hreached hmm (by rw [hgmm]; rfl)⟩

-- an attach that is confirmed as if it were a routing area update leaves the context unreachable
example : (exampleNode (exampleOne ++ [exampleGb 0xc0000001 1 (.gmm .raUpdCompl)])).sgsn.ctxHas
    (fun mm ↦ mm.gmm = .registeredNormal ∧ mm.lost) 0 = true := by
  decide +kernel

end OsmoSgsn.Gmm
