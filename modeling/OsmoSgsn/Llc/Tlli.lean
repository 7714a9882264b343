import OsmoSgsn.Library.Machine
import OsmoSgsn.Llc.Entity

/-!
# From a TLLI to a subscriber

The management entities are kept in one list, and a frame finds its entity by TLLI: the first entry
with the TLLI as its current or its old one. An entry without an old TLLI has `TLLI_UNASSIGNED`
there, which is a number like any other to the search. Beside the list as the code has it stands
what it is for: which TLLIs are assigned to an entry, where having none is not a number. The two
agree on every TLLI but that one.
-/

namespace OsmoSgsn.Llc

/-- The entity that a TLLI and a SAPI lead to: the place of its management entity in the list, and
the SAPI. -/
def lleByTlliSapi (llmes : List GprsLlcLlme) (tlli : BitVec 32) (sapi : Fin numSapis) :
    Option (ℕ × Fin numSapis) :=
  (llmes.findIdx? fun llme ↦ llme.tlli = tlli ∨ llme.oldTlli = tlli).map (·, sapi)

/-! ## What is assigned -/

/-- The TLLIs of a subscriber. -/
structure AssignedTllis where
  /-- The one in use. -/
  current : Option (BitVec 32)
  /-- The one before, while it is still accepted. -/
  old : Option (BitVec 32)
  deriving DecidableEq, Repr

/-- A TLLI, unless it is the value that stands for none. -/
def tlliOf (tlli : BitVec 32) : Option (BitVec 32) :=
  if tlli = tlliUnassigned then none else some tlli

/-- What an assignment makes of the TLLIs of a subscriber: a new TLLI comes alone, or beside the one
that it replaces. -/
def AssignedTllis.assign (a : AssignedTllis) (oldTlli newTlli : BitVec 32) : AssignedTllis :=
  match tlliOf newTlli with
  | none => a
  | some new => ⟨some new, tlliOf oldTlli⟩

/-- A TLLI is assigned to a subscriber. -/
def AssignedTllis.Has (a : AssignedTllis) (tlli : BitVec 32) : Prop :=
  a.current = some tlli ∨ a.old = some tlli

/-! ## The list -/

/-- An entry of the list, with what has been assigned to it. -/
structure LlmeEntry where
  /-- The management entity. -/
  llme : GprsLlcLlme
  /-- The TLLIs that have been assigned. -/
  assigned : AssignedTllis

/-- What changes the list. -/
inductive LlmesEvent
  /-- A management entity is made for a TLLI. -/
  | alloc (tlli : BitVec 32)
  /-- The TLLIs of the entry at a place are assigned, changed or removed. -/
  | assign (i : ℕ) (oldTlli newTlli : BitVec 32)

/-- The list as a machine. New entries come to the front, and an entry that is freed leaves. -/
def llmesMachine : Machine (List LlmeEntry) LlmesEvent Empty where
  step s
    | .alloc tlli => (⟨llmeAlloc tlli, ⟨tlliOf tlli, none⟩⟩ :: s, [])
    | .assign i oldTlli newTlli =>
      match s[i]? with
      | none => (s, [])
      | some entry =>
        match gprsLlgmmAssign entry.llme oldTlli newTlli with
        | none => (s, [])
        | some (_, true) => (s.eraseIdx i, [])
        | some (llme, false) => (s.set i ⟨llme, entry.assigned.assign oldTlli newTlli⟩, [])

/-- The two TLLIs of an entry are what is assigned. -/
def LlmeEntry.Agrees (entry : LlmeEntry) : Prop :=
  tlliOf entry.llme.tlli = entry.assigned.current ∧ tlliOf entry.llme.oldTlli = entry.assigned.old

theorem tlliOf_eq_some {tlli t : BitVec 32} :
    tlliOf tlli = some t ↔ tlli = t ∧ t ≠ tlliUnassigned := by
  rw [tlliOf]
  split
  · next h =>
    refine iff_of_false (by simp) ?_
    rintro ⟨rfl, hne⟩
    exact hne h
  · next h =>
    rw [Option.some.injEq]
    constructor
    · rintro rfl
      exact ⟨rfl, h⟩
    · exact fun h ↦ h.1

/-- What has been assigned to an entry are its two TLLIs, without the value for none. -/
theorem LlmeEntry.Agrees.has_iff {entry : LlmeEntry} (hagrees : entry.Agrees) (tlli : BitVec 32) :
    entry.assigned.Has tlli ↔
      (entry.llme.tlli = tlli ∨ entry.llme.oldTlli = tlli) ∧ tlli ≠ tlliUnassigned := by
  rw [AssignedTllis.Has, ← hagrees.1, ← hagrees.2, tlliOf_eq_some, tlliOf_eq_some, ← or_and_right]

/-- An assignment determines both TLLIs. -/
theorem agrees_assign {entry : LlmeEntry} {oldTlli newTlli : BitVec 32}
    {llme : GprsLlcLlme}
    (hassign : gprsLlgmmAssign entry.llme oldTlli newTlli = some (llme, false)) :
    LlmeEntry.Agrees ⟨llme, entry.assigned.assign oldTlli newTlli⟩ := by
  have hnew : newTlli ≠ tlliUnassigned → entry.assigned.assign oldTlli newTlli =
      ⟨tlliOf newTlli, tlliOf oldTlli⟩ := by
    intro hne
    rw [AssignedTllis.assign, tlliOf_eq_some.mpr ⟨rfl, hne⟩]
  rw [gprsLlgmmAssign] at hassign
  split_ifs at hassign with h₁ h₂ h₃ h₄ <;>
    simp only [Option.some.injEq, Prod.mk.injEq, reduceCtorEq, and_true, and_false] at hassign
  · rw [hnew h₁.2, ← hassign, h₁.1]
    exact ⟨rfl, rfl⟩
  · rw [hnew h₁.2, ← hassign, h₁.1]
    exact ⟨rfl, rfl⟩
  · rw [hnew h₃.2, ← hassign]
    exact ⟨rfl, rfl⟩

theorem agrees_step {s : List LlmeEntry} (hs : ∀ entry ∈ s, entry.Agrees) (e : LlmesEvent) :
    ∀ entry ∈ (llmesMachine.step s e).1, entry.Agrees := by
  cases e with
  | alloc tlli =>
    have hold : tlliOf tlliUnassigned = none := if_pos rfl
    exact List.forall_mem_cons.mpr ⟨⟨rfl, hold⟩, hs⟩
  | assign i oldTlli newTlli =>
    simp only [llmesMachine]
    cases hi : s[i]? with
    | none => exact hs
    | some entry =>
      dsimp only
      cases hassign : gprsLlgmmAssign entry.llme oldTlli newTlli with
      | none => exact hs
      | some r =>
        obtain ⟨llme, freed⟩ := r
        cases freed with
        | true => exact fun entry' hmem ↦ hs entry' (List.mem_of_mem_eraseIdx hmem)
        | false =>
          intro entry' hmem
          rcases List.mem_or_eq_of_mem_set hmem with hmem | rfl
          · exact hs entry' hmem
          · exact agrees_assign hassign

/-- In every list that comes about, the TLLIs of an entry are those that have been assigned. -/
theorem agrees_run (es : List LlmesEvent) : ∀ entry ∈ llmesMachine.run [] es, entry.Agrees :=
  Machine.invariant_run (fun _ _ ↦ True) (fun s ↦ ∀ entry ∈ s, LlmeEntry.Agrees entry)
    (fun _ e hs _ ↦ agrees_step hs e) (by simp) (Machine.meets_of_forall (fun _ _ ↦ trivial) _ es)

/-- **The search never crosses subscribers** exactly if the TLLI is not the value that stands for
none, or every entry has two TLLIs. -/
theorem lleByTlliSapi_assigned_iff (es : List LlmesEvent) (tlli : BitVec 32) (sapi : Fin numSapis) :
    (∀ i sapi', lleByTlliSapi ((llmesMachine.run [] es).map LlmeEntry.llme) tlli sapi =
      some (i, sapi') → sapi' = sapi ∧ ∃ entry, (llmesMachine.run [] es)[i]? = some entry ∧
        entry.assigned.Has tlli) ↔
    (tlli ≠ tlliUnassigned ∨ ∀ entry ∈ llmesMachine.run [] es,
      entry.llme.tlli ≠ tlliUnassigned ∧ entry.llme.oldTlli ≠ tlliUnassigned) := by
  have hagrees := agrees_run es
  generalize llmesMachine.run [] es = s at hagrees ⊢
  have hfound (i : ℕ) (sapi' : Fin numSapis) (hi : lleByTlliSapi (s.map LlmeEntry.llme) tlli sapi =
      some (i, sapi')) : sapi' = sapi ∧ ∃ entry, s[i]? = some entry ∧
        (entry.llme.tlli = tlli ∨ entry.llme.oldTlli = tlli) := by
    obtain ⟨j, hj, heq⟩ := Option.map_eq_some_iff.mp hi
    cases heq
    obtain ⟨hlt, hmatch, -⟩ := List.findIdx?_eq_some_iff_getElem.mp hj
    rw [List.length_map] at hlt
    rw [List.getElem_map, decide_eq_true_eq] at hmatch
    exact ⟨rfl, s[i], List.getElem?_eq_getElem hlt, hmatch⟩
  constructor
  · intro hall
    by_contra hcond
    push Not at hcond
    obtain ⟨rfl, entry, hmem, hnone⟩ := hcond
    -- some entry matches, so the search finds one, and nothing has this value assigned
    have hsome : ((s.map LlmeEntry.llme).findIdx? fun llme ↦
        llme.tlli = tlliUnassigned ∨ llme.oldTlli = tlliUnassigned).isSome = true := by
      rw [List.findIdx?_isSome, List.any_eq_true]
      refine ⟨entry.llme, List.mem_map_of_mem hmem, ?_⟩
      rw [decide_eq_true_eq, or_iff_not_imp_left]
      exact hnone
    obtain ⟨i, hi⟩ := Option.isSome_iff_exists.mp hsome
    obtain ⟨-, entry', hentry', hhas⟩ := hall i sapi (by rw [lleByTlliSapi, hi, Option.map_some])
    exact (((hagrees entry' (List.mem_of_getElem? hentry')).has_iff _).mp hhas).2 rfl
  · rintro hcond i sapi' hi
    obtain ⟨hsapi, entry, hentry, hmatch⟩ := hfound i sapi' hi
    have hmem := List.mem_of_getElem? hentry
    refine ⟨hsapi, entry, hentry, ((hagrees entry hmem).has_iff tlli).mpr ⟨hmatch, ?_⟩⟩
    rcases hcond with hne | hall
    · exact hne
    · rintro rfl
      rcases hmatch with h | h
      · exact (hall entry hmem).1 h
      · exact (hall entry hmem).2 h

/-- One subscriber, who has a TLLI and no old one: a frame with no TLLI is taken for theirs. -/
theorem unassigned_tlli_finds_subscriber :
    ¬ ∀ (es : List LlmesEvent) (tlli : BitVec 32) (sapi : Fin numSapis),
      (llmesMachine.run [] es).Pairwise (fun a b ↦ ∀ t, a.assigned.Has t → ¬ b.assigned.Has t) →
      ∀ i sapi', lleByTlliSapi ((llmesMachine.run [] es).map LlmeEntry.llme) tlli sapi =
        some (i, sapi') → ∃ entry, (llmesMachine.run [] es)[i]? = some entry ∧
          entry.assigned.Has tlli := by
  intro hall
  obtain ⟨entry, hentry, hhas⟩ := hall [.alloc 0xc0000001] 0xffffffff 3
    (List.pairwise_singleton _ _) 0 3 (by decide)
  cases hentry
  rcases hhas with h | h
  · exact absurd h (by decide)
  · cases h

end OsmoSgsn.Llc
