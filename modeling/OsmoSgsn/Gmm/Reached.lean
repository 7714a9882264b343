import OsmoSgsn.Gmm.Dispatch

/-!
# States that are reached

A gateway that was just started knows nothing, and so everything that is to be known about its
registry holds. The rules keep it, and the code follows them as long as every event keeps what is
promised. So it holds in every state that is reached, and what the lookups and the pointers of the
code rely on is a consequence.
-/

namespace OsmoSgsn.Gmm

open EStateM

variable {p : Promises} {s : Sgsn} {id : CtxId}

/-! ## Runs -/

theorem kept_start (cfg : SgsnConfig) (hash : Hashing) :
    Kept p (Node.start cfg hash).sgsn.view := by
  set r := (Node.start cfg hash).sgsn.view
  have hnone (id : CtxId) : r.entry id = none := rfl
  have hevery {P : Entry → Prop} : Every P r := fun id e he ↦
    absurd ((hnone id).symm.trans he) (by simp)
  have hempty {Key : Type} {f : Entry → Option Key} : HashTable.Agrees [] (keyOf r.entry f) := by
    intro k id
    simp [keyOf, hnone]
  have howned {Ptr : Type} {f : Entry → Option Ptr} {live : Ptr → Prop} :
      Owned f live r.entry :=
    ⟨fun id e _ he ↦ absurd ((hnone id).symm.trans he) (by simp),
      fun id e _ _ _ he ↦ absurd ((hnone id).symm.trans he) (by simp)⟩
  exact {
    indexed := ⟨⟨hempty, hempty, hempty, hempty, hempty⟩,
      ⟨fun id ↦ by simp [r, Node.start, Sgsn.view], List.nodup_nil,
        fun id he ↦ absurd (hnone id) he⟩⟩
    ptmsi := fun id e _ _ _ he ↦ absurd ((hnone id).symm.trans he) (by simp)
    presented := hevery
    fresh := fun l hl ↦ absurd hl List.not_mem_nil
    served := hevery
    ues := ⟨List.nodup_nil, fun ue ↦ by simp [r, Node.start, Sgsn.view]⟩
    settled := hevery
    imsi := fun _ id e _ _ he ↦ absurd ((hnone id).symm.trans he) (by simp)
    reserved := fun _ ↦ hevery
    llme := fun _ ↦ ⟨howned, hevery⟩
    ue := fun _ ↦ ⟨howned, hevery⟩
    ran := fun _ ↦ hevery
    reach := fun _ ↦ hevery
    change := fun _ ↦ rfl }

/-- Nothing that has been shown is left when the next event is taken. -/
theorem Kept.enter (h : Kept p s.view) (env : Env) : Kept p (s.enter env).view :=
  ⟨⟨h.indexed.agreed, h.indexed.listed⟩, h.ptmsi, h.presented, h.fresh, h.served,
    h.ues.congr rfl rfl, h.settled, h.imsi, h.reserved, h.llme,
    fun hp ↦ ⟨(h.ue hp).owned, (h.ue hp).onIu⟩, h.ran, h.reach, fun _ ↦ rfl⟩

theorem Event.Keeps.enter {e : Event} (h : e.Keeps p s) (env : Env) :
    e.Keeps p (s.enter env) := by
  have huplink : e.uplink (s.enter env) = e.uplink s := by cases e <;> rfl
  exact fun u hu ↦ (h u (huplink ▸ hu)).elsewhere _ _ _ _ _ _

/-- A state that a gateway is in after an event, as long as no fault has ended it. Every step up to
there has met a condition. -/
def Reached (ok : Sgsn → Event → Prop) (s : Sgsn) : Prop :=
  ∃ depth cfg hash es, (node depth).Meets (fun n e ↦ ok n.sgsn e.1) (.start cfg hash) es ∧
    (node depth).run (.start cfg hash) es = ⟨s, none⟩

/-- **What is known holds in every state that is reached.** -/
theorem Reached.kept [Loose p] {ok : Sgsn → Event → Prop} (hok : ∀ s e, ok s e → e.Keeps p s)
    (h : Reached ok s) : Kept p s.view := by
  obtain ⟨depth, cfg, hash, es, hmeets, hrun⟩ := h
  have hinv := Machine.invariant_run (M := node depth) (fun n e ↦ ok n.sgsn e.1)
    (fun n ↦ n.fault = none → Kept p n.sgsn.view) ?_ (fun _ ↦ kept_start cfg hash) hmeets
  · rw [hrun] at hinv
    exact hinv rfl
  · intro n e hkept hmet hfault
    cases hnode : n.fault with
    | some fault => simp [node, Node.step, hnode] at hfault
    | none =>
      have hwalk := walks_handle (c := calls depth) e.1 ((hok _ _ hmet).enter e.2)
        ((hkept hnode).enter e.2)
      unfold wp at hwalk
      cases hhandle : handle (calls depth) e.1 (n.sgsn.enter e.2) with
      | error fault s' => simp [node, Node.step, hnode, hhandle] at hfault
      | ok a s' =>
        rw [hhandle] at hwalk
        simp only [node, Node.step, hnode, hhandle]
        exact ((hkept hnode).enter e.2).steps hwalk.1

end OsmoSgsn.Gmm
