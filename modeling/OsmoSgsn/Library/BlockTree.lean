import OsmoSgsn.Library.Wp

/-!
# Blocks that own blocks

An allocator hands out blocks, each one on its own or below another block. Freeing a block frees
what is below it too, and only a block that is live may be freed: everything else is a fault.

A block is named by its way from the top, so what is below a block is what its name is a prefix of.
The last number of a name is new when the block is allocated, and no name is used twice.

A function that is given a block and works below it may allocate and free there, and nowhere else.
`Below` is this as a preorder on heaps, and it is all that a caller has to know of such a function.
-/

/-- The name of a block: the numbers of the blocks that it is below of, and its own. -/
abbrev Block := List ℕ

/-- The live blocks, and every block that was passed to `free`, newest first. -/
@[ext] structure BlockHeap where
  live : Finset Block
  next : ℕ
  freed : List Block
  fresh : ∀ b ∈ live, ∀ i ∈ b, i < next

namespace BlockHeap

/-- A block is used that is not live. -/
inductive Fault
  | notLive (b : Block)
  deriving DecidableEq, Repr

/-- Programs that allocate and free. -/
abbrev Prog := EStateM Fault BlockHeap

/-- No block. -/
def empty : BlockHeap := ⟨∅, 0, [], by simp⟩

/-- Allocate a block below a live one. -/
def insertBelow (h : BlockHeap) (parent : Block) (hparent : parent = [] ∨ parent ∈ h.live) :
    BlockHeap where
  live := insert (parent ++ [h.next]) h.live
  next := h.next + 1
  freed := h.freed
  fresh b hb i hi := by
    rcases Finset.mem_insert.mp hb with rfl | hb
    · rcases List.mem_append.mp hi with hi | hi
      · rcases hparent with rfl | hparent
        · cases hi
        · exact Nat.lt_succ_of_lt (h.fresh parent hparent i hi)
      · obtain rfl := List.mem_singleton.mp hi
        exact Nat.lt_succ_self _
    · exact Nat.lt_succ_of_lt (h.fresh b hb i hi)

/-- Free a block and all that is below it. -/
def release (h : BlockHeap) (b : Block) : BlockHeap where
  live := h.live.filter fun x ↦ ¬ b <+: x
  next := h.next
  freed := b :: h.freed
  fresh x hx := h.fresh x (Finset.mem_filter.mp hx).1

/-- Allocate a block. No parent is the top. -/
def alloc (parent : Block) : Prog Block := do
  let h ← get
  if hparent : parent = [] ∨ parent ∈ h.live then
    set (h.insertBelow parent hparent)
    pure (parent ++ [h.next])
  else throw (.notLive parent)

/-- Free a block. -/
def free (b : Block) : Prog Unit := do
  let h ← get
  if b ∈ h.live then set (h.release b) else throw (.notLive b)

/-! ## What happens below a block -/

/-- Only below a block something was allocated or freed, and it is live if it was. -/
structure Below (b : Block) (h h' : BlockHeap) : Prop where
  outside : h'.live.filter (fun x ↦ ¬ b <+: x) = h.live.filter fun x ↦ ¬ b <+: x
  alive : b ∈ h.live → b ∈ h'.live
  freed : ∃ log, h'.freed = log ++ h.freed ∧ ∀ x ∈ log, b <+: x ∧ x ≠ b

namespace Below

variable {b c : Block} {h h' h'' : BlockHeap}

theorem refl (b : Block) (h : BlockHeap) : Below b h h := ⟨rfl, id, [], rfl, by simp⟩

theorem trans (hone : Below b h h') (htwo : Below b h' h'') : Below b h h'' := by
  refine ⟨htwo.outside.trans hone.outside, htwo.alive ∘ hone.alive, ?_⟩
  obtain ⟨log, hlog, hunder⟩ := hone.freed
  obtain ⟨log', hlog', hunder'⟩ := htwo.freed
  refine ⟨log' ++ log, by rw [hlog', hlog, List.append_assoc], fun x hx ↦ ?_⟩
  rcases List.mem_append.mp hx with hx | hx
  · exact hunder' x hx
  · exact hunder x hx

/-- What happens below a block below another one happens below that one. -/
theorem mono (hbc : b <+: c) (hne : b ≠ c) (hc : Below c h h') : Below b h h' := by
  have hnot : ¬ c <+: b := fun hcb ↦ hne (List.IsPrefix.eq_of_length_le hbc hcb.length_le)
  refine ⟨?_, fun hb ↦ ?_, ?_⟩
  · -- what is not below `b` is not below `c`
    have hsub (s : Finset Block) : (s.filter fun x ↦ ¬ c <+: x).filter (fun x ↦ ¬ b <+: x) =
        s.filter fun x ↦ ¬ b <+: x := by
      rw [Finset.filter_filter]
      refine Finset.filter_congr fun x _ ↦ ⟨And.right, fun hx ↦ ⟨fun hcx ↦ hx (hbc.trans hcx), hx⟩⟩
    rw [← hsub, hc.outside, hsub]
  · have hmem : b ∈ h'.live.filter fun x ↦ ¬ c <+: x :=
      hc.outside ▸ Finset.mem_filter.mpr ⟨hb, hnot⟩
    exact (Finset.mem_filter.mp hmem).1
  · obtain ⟨log, hlog, hunder⟩ := hc.freed
    refine ⟨log, hlog, fun x hx ↦ ⟨hbc.trans (hunder x hx).1, ?_⟩⟩
    rintro rfl
    exact hnot (hunder x hx).1

/-- A block that is freed once the work below it is done: all is as if it had not been there, and it
was freed once more than before. -/
theorem release_live (hb : Below b h h') :
    (h'.release b).live = h.live.filter fun x ↦ ¬ b <+: x := hb.outside

theorem release_count (hb : Below b h h') :
    (h'.release b).freed.count b = h.freed.count b + 1 := by
  obtain ⟨log, hlog, hunder⟩ := hb.freed
  have hnone : log.count b = 0 := List.count_eq_zero.mpr fun hmem ↦ (hunder b hmem).2 rfl
  change (b :: h'.freed).count b = _
  rw [List.count_cons_self, hlog, List.count_append, hnone, Nat.zero_add]

end Below

theorem not_mem_release (h : BlockHeap) (b : Block) : b ∉ (h.release b).live := fun hb ↦
  (Finset.mem_filter.mp hb).2 (List.prefix_refl b)

/-! ## Rules -/

section Rules

variable {b c parent : Block} {h : BlockHeap}

/-- A block that is allocated below another one is new, and nothing else changes. -/
theorem wp_alloc {Q : Block → BlockHeap → Prop} {E : Fault → BlockHeap → Prop}
    (hparent : parent ∈ h.live) (hQ : ∀ c h', c = parent ++ [h.next] → c ∈ h'.live →
      Below parent h h' → Q c h') : EStateM.wp (alloc parent) Q E h := by
  have hlive : parent = [] ∨ parent ∈ h.live := .inr hparent
  unfold alloc
  rw [EStateM.wp_bind, EStateM.wp_get, dif_pos hlive, EStateM.wp_bind, EStateM.wp_set,
    EStateM.wp_pure]
  refine hQ _ _ rfl (Finset.mem_insert_self _ _) ⟨?_, fun hb ↦ Finset.mem_insert_of_mem hb, [], rfl,
    by simp⟩
  change (insert (parent ++ [h.next]) h.live).filter (fun x ↦ ¬ parent <+: x) = _
  rw [Finset.filter_insert, if_neg (not_not.mpr (List.prefix_append _ _))]

/-- A block is freed below another one. -/
theorem wp_free {Q : Unit → BlockHeap → Prop} {E : Fault → BlockHeap → Prop} (hb : b ∈ h.live)
    (hQ : Q () (h.release b)) : EStateM.wp (free b) Q E h := by
  unfold free
  rw [EStateM.wp_bind, EStateM.wp_get, if_pos hb, EStateM.wp_set]
  exact hQ

theorem free_eq_error (hb : b ∉ h.live) : free b h = .error (.notLive b) h := by
  unfold free
  rw [EStateM.get_bind_apply, if_neg hb]
  rfl

theorem Below.release (hbc : b <+: c) (hne : b ≠ c) : Below b h (h.release c) := by
  have hnot : ¬ c <+: b := fun hcb ↦ hne (List.IsPrefix.eq_of_length_le hbc hcb.length_le)
  refine ⟨?_, fun hb ↦ Finset.mem_filter.mpr ⟨hb, hnot⟩, [c], rfl, fun x hx ↦ ?_⟩
  · change (h.live.filter fun x ↦ ¬ c <+: x).filter (fun x ↦ ¬ b <+: x) = _
    rw [Finset.filter_filter]
    exact Finset.filter_congr fun x _ ↦ ⟨And.right, fun hx ↦ ⟨fun hcx ↦ hx (hbc.trans hcx), hx⟩⟩
  · obtain rfl := List.mem_singleton.mp hx
    exact ⟨hbc, hne.symm⟩

theorem ne_append_singleton (b : Block) (i : ℕ) : b ≠ b ++ [i] := fun h ↦ by
  simpa using congrArg List.length h

end Rules

end BlockHeap
