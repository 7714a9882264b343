import OsmoSgsn.Library.Thread
import OsmoSgsn.V42bis.Codec

/-!
# The dictionary is a forest

Entries know their parents, and the children of an entry are a list that is threaded through the
table. All entries but one are attached to their parents or have never been used. That one, the
hole, is the entry that is used next. It still has the parent that it was taken from.

`Forest` says that the two ways of linking agree. It holds with the hole filled after an entry was
put in front of its siblings, and with another hole after a leaf was taken out. There is always a
leaf to take: the entry that was put in has no children yet.
-/

namespace OsmoSgsn.V42bis

/-! ## Forests -/

section Forest

variable (dict : ℕ → DictNode) (n2 hole : ℕ)

/-- An entry is attached to another one. -/
structure Child (a b : ℕ) : Prop where
  entry : n5 ≤ b
  ne_hole : b ≠ hole
  parent : (dict b).parent = a
  ne_zero : a ≠ 0

/-- The string of an entry, from its root on. -/
inductive Spells : ℕ → Bytes → Prop
  | root {a : ℕ} (hlow : n6 ≤ a) (hhigh : a < n5) : Spells a [.ofNat (a - n6)]
  | child {a b : ℕ} {w : Bytes} (hw : Spells a w) (hb : Child dict hole a b) :
    Spells b (w ++ [(dict b).nodeOctet])

/-- The table is a forest. -/
structure Forest : Prop where
  listed : ∀ a, ∃ xs, xs.Nodup ∧ Threads (fun i ↦ (dict i).next) (dict a).child xs ∧
    ∀ b, b ∈ xs ↔ Child dict hole a b
  spelled : ∀ a b, Child dict hole a b → b < n2 ∧ ∃ w, Spells dict hole a w
  single : ∀ a, n6 ≤ a → a < n5 → (dict a).parent = 0 ∧ (dict a).nodeOctet = .ofNat (a - n6)

/-- An entry can be used: nothing hangs below it. -/
structure Unused : Prop where
  entry : n5 ≤ hole
  lt : hole < n2
  leaf : (dict hole).child = 0

end Forest

section Spells

variable {dict : ℕ → DictNode} {n2 hole a b : ℕ} {w : Bytes}

theorem Spells.ne_zero (h : Spells dict hole a w) : a ≠ 0 := by
  cases h with
  | root hlow _ => exact (Nat.lt_of_lt_of_le (by decide) hlow).ne'
  | child _ hb => exact (Nat.lt_of_lt_of_le (by decide) hb.entry).ne'

theorem Spells.ne_hole (h : Spells dict hole a w) (hhole : n5 ≤ hole) : a ≠ hole := by
  cases h with
  | root _ hhigh => exact (hhigh.trans_le hhole).ne
  | child _ hb => exact hb.ne_hole

theorem Spells.low_le (h : Spells dict hole a w) : n6 ≤ a := by
  cases h with
  | root hlow _ => exact hlow
  | child _ hb => exact (by decide : n6 ≤ n5).trans hb.entry

/-- A leaf has no children. -/
theorem Forest.not_child (h : Forest dict n2 hole) (hleaf : (dict a).child = 0) :
    ¬Child dict hole a b := by
  obtain ⟨xs, -, hthreads, hmem⟩ := h.listed a
  rw [hleaf] at hthreads
  intro hb
  cases xs with
  | nil => exact absurd ((hmem b).mpr hb) List.not_mem_nil
  | cons x xs => exact hthreads.2.1 hthreads.1.symm

/-- The table that a dictionary starts with. -/
theorem forest_emptyDict (n2 : ℕ) : Forest emptyDict n2 n5 where
  listed a := by
    refine ⟨[], List.nodup_nil, rfl, fun b ↦ ⟨fun hb ↦ absurd hb List.not_mem_nil, fun hb ↦ ?_⟩⟩
    exact absurd hb.parent.symm hb.ne_zero
  spelled a b hb := absurd hb.parent.symm hb.ne_zero
  single a hlow hhigh := by simp [emptyDict, hlow, hhigh]

end Spells

/-! ## Matching -/

section Match

variable {dict : ℕ → DictNode} {n2 hole a : ℕ} {o : UInt8}

theorem findOctet_threads {e : ℕ} {xs : List ℕ} {fuel : ℕ}
    (h : Threads (fun i ↦ (dict i).next) e xs) (hfuel : xs.length < fuel) :
    ∃ r, findOctet dict o fuel e = .ok r ∧ (r = 0 ∨ r ∈ xs ∧ (dict r).nodeOctet = o) := by
  induction xs generalizing e fuel with
  | nil =>
    obtain ⟨fuel, rfl⟩ := Nat.exists_eq_add_one_of_ne_zero (Nat.ne_zero_of_lt hfuel)
    exact ⟨0, by rw [findOctet, if_pos (Threads.nil_iff.mp h)], .inl rfl⟩
  | cons x xs ih =>
    obtain ⟨fuel, rfl⟩ := Nat.exists_eq_add_one_of_ne_zero (Nat.ne_zero_of_lt hfuel)
    obtain ⟨rfl, h0, hrest⟩ := h
    rw [findOctet, if_neg h0]
    split
    · rename_i heq
      exact ⟨e, rfl, .inr ⟨List.mem_cons_self, heq⟩⟩
    · obtain ⟨r, hr, hmem⟩ := ih hrest (Nat.lt_of_succ_lt_succ hfuel)
      exact ⟨r, hr, hmem.imp_right fun hr ↦ ⟨List.mem_cons_of_mem e hr.1, hr.2⟩⟩

/-- There are fewer children than rounds. -/
theorem Forest.length_lt (h : Forest dict n2 hole) (hn2 : n2 < rounds) {xs : List ℕ}
    (hnodup : xs.Nodup) (hmem : ∀ b ∈ xs, Child dict hole a b) : xs.length < rounds := by
  have hsub : xs ⊆ List.range n2 := fun b hb ↦
    List.mem_range.mpr (h.spelled a b (hmem b hb)).1
  have hlen := (List.subperm_of_subset hnodup hsub).length_le
  rw [List.length_range] at hlen
  exact hlen.trans_lt hn2

/-- **Matching ends**, with no entry or with one that the octet leads to. -/
theorem Forest.matchOctet (h : Forest dict n2 hole) (hn2 : n2 < rounds) (a : ℕ) (o : UInt8) :
    ∃ r, matchOctet dict a o = .ok r ∧ (a = 0 → r = o.toNat + n6) ∧
      (a ≠ 0 → r = 0 ∨ Child dict hole a r ∧ (dict r).nodeOctet = o) := by
  unfold V42bis.matchOctet
  split
  · rename_i h0
    exact ⟨_, rfl, fun _ ↦ rfl, fun hne ↦ absurd h0 hne⟩
  · rename_i h0
    obtain ⟨xs, hnodup, hthreads, hmem⟩ := h.listed a
    obtain ⟨r, hr, hfound⟩ :=
      findOctet_threads (o := o) hthreads (h.length_lt hn2 hnodup fun b hb ↦ (hmem b).mp hb)
    exact ⟨r, hr, fun hzero ↦ absurd hzero h0,
      fun _ ↦ hfound.imp_right fun hf ↦ ⟨(hmem r).mp hf.1, hf.2⟩⟩

/-- The strings that can be matched so far, the empty one too. -/
def Matched (dict : ℕ → DictNode) (hole a : ℕ) (w : Bytes) : Prop :=
  a = 0 ∧ w = [] ∨ Spells dict hole a w

/-- What is matched is the string with the octet. -/
theorem Forest.spells_match (h : Forest dict n2 hole) (hn2 : n2 < rounds) {w : Bytes}
    (hw : Matched dict hole a w) {r : ℕ} (hr : V42bis.matchOctet dict a o = .ok r) (h0 : r ≠ 0) :
    Spells dict hole r (w ++ [o]) := by
  obtain ⟨r', hr', hzero, hne⟩ := h.matchOctet hn2 a o
  obtain rfl : r' = r := Except.ok.inj (hr'.symm.trans hr)
  rcases hw with ⟨rfl, rfl⟩ | hw
  · have ho := o.toNat_lt
    rw [hzero rfl]
    have hroot : Spells dict hole (o.toNat + n6) [.ofNat (o.toNat + n6 - n6)] :=
      .root (Nat.le_add_left ..) (by unfold n5; omega)
    rwa [Nat.add_sub_cancel, UInt8.ofNat_toNat] at hroot
  · obtain ⟨hb, rfl⟩ := (hne hw.ne_zero).resolve_left h0
    exact .child hw hb

/-- A string is read off the table. -/
theorem Forest.spell (h : Forest dict n2 hole) {w : Bytes} (hw : Spells dict hole a w) {fuel : ℕ}
    (hfuel : w.length < fuel) (acc : Bytes) : spell dict fuel a acc = .ok (w ++ acc) := by
  induction hw generalizing fuel acc with
  | root hlow hhigh =>
    obtain ⟨fuel, rfl⟩ := Nat.exists_eq_add_of_le' (show 2 ≤ fuel from hfuel)
    obtain ⟨hparent, hoctet⟩ := h.single _ hlow hhigh
    rw [V42bis.spell, if_neg (Spells.root hlow hhigh : Spells dict hole _ _).ne_zero, hparent,
      V42bis.spell, if_pos rfl, hoctet]
    rfl
  | child hw hb ih =>
    obtain ⟨fuel, rfl⟩ := Nat.exists_eq_add_one_of_ne_zero (Nat.ne_zero_of_lt hfuel)
    rw [V42bis.spell, if_neg (Spells.child hw hb).ne_zero, hb.parent,
      ih (by rw [List.length_append] at hfuel; exact Nat.lt_of_succ_lt_succ hfuel)]
    simp

end Match

/-! ## Putting an entry in -/

section Insert

variable {dict dict' : ℕ → DictNode} {n2 hole a : ℕ} {o : UInt8} {w : Bytes}

/-- An entry has been put in front of the children of another one. -/
structure Inserted (dict dict' : ℕ → DictNode) (hole a : ℕ) (o : UInt8) : Prop where
  new : dict' hole = ⟨o, a, 0, (dict a).child⟩
  parent : dict' a = { dict a with child := hole }
  same : ∀ i, i ≠ hole → i ≠ a → dict' i = dict i

theorem Inserted.eq_of_ne (h : Inserted dict dict' hole a o) {i : ℕ} (hi : i ≠ hole) :
    (dict' i).nodeOctet = (dict i).nodeOctet ∧ (dict' i).parent = (dict i).parent ∧
      (dict' i).next = (dict i).next := by
  by_cases ha : i = a
  · rw [ha, h.parent]
    exact ⟨rfl, rfl, rfl⟩
  · rw [h.same i hi ha]
    exact ⟨rfl, rfl, rfl⟩

/-- Then it is a child of that one, and all other children are what they were. -/
theorem Inserted.child_iff (h : Inserted dict dict' hole a o) (hhole : n5 ≤ hole) (ha : a ≠ 0)
    {x b : ℕ} :
    Child dict' 0 x b ↔ b = hole ∧ x = a ∨ Child dict hole x b := by
  have h0 (b : ℕ) (hb : n5 ≤ b) : b ≠ 0 := (Nat.lt_of_lt_of_le (by decide) hb).ne'
  by_cases hb : b = hole
  · subst hb
    constructor
    · rintro ⟨-, -, hparent, -⟩
      rw [h.new] at hparent
      exact .inl ⟨rfl, hparent.symm⟩
    · rintro (⟨-, rfl⟩ | hchild)
      · exact ⟨hhole, h0 _ hhole, by rw [h.new], ha⟩
      · exact absurd rfl hchild.ne_hole
  · obtain ⟨-, hparent, -⟩ := h.eq_of_ne hb
    constructor
    · rintro ⟨hentry, -, hp, hx⟩
      exact .inr ⟨hentry, hb, hparent ▸ hp, hx⟩
    · rintro (⟨rfl, -⟩ | hchild)
      · exact absurd rfl hb
      · exact ⟨hchild.entry, h0 _ hchild.entry, hparent.trans hchild.parent, hchild.ne_zero⟩

theorem Inserted.spells (h : Inserted dict dict' hole a o) (hhole : n5 ≤ hole) (ha : a ≠ 0)
    {b : ℕ} {v : Bytes} (hv : Spells dict hole b v) : Spells dict' 0 b v := by
  induction hv with
  | root hlow hhigh => exact .root hlow hhigh
  | child _ hb ih =>
    rw [← (h.eq_of_ne hb.ne_hole).1]
    exact .child ih ((h.child_iff hhole ha).mpr (.inr hb))

/-- Strings that do not end with the new entry were there before. -/
theorem Inserted.spells_of_ne (h : Inserted dict dict' hole a o) (hf : Forest dict n2 hole)
    (hunused : Unused dict n2 hole) (ha : a ≠ 0) (hne : a ≠ hole) {b : ℕ} {v : Bytes}
    (hv : Spells dict' 0 b v) (hb : b ≠ hole) : Spells dict hole b v := by
  induction hv with
  | root hlow hhigh => exact .root hlow hhigh
  | @child x y v _ hy ih =>
    rcases (h.child_iff hunused.entry ha).mp hy with ⟨rfl, -⟩ | hchild
    · exact absurd rfl hb
    · rw [(h.eq_of_ne hb).1]
      refine .child (ih ?_) hchild
      rintro rfl
      exact hf.not_child hunused.leaf hchild

theorem Inserted.forest (h : Inserted dict dict' hole a o) (hf : Forest dict n2 hole)
    (hunused : Unused dict n2 hole) (hw : Spells dict hole a w) : Forest dict' n2 0 := by
  have ha := hw.ne_zero
  have hne := hw.ne_hole hunused.entry
  have h0 : hole ≠ 0 := (Nat.lt_of_lt_of_le (by decide) hunused.entry).ne'
  refine ⟨fun x ↦ ?_, fun x b hb ↦ ?_, fun x hlow hhigh ↦ ?_⟩
  · obtain ⟨xs, hnodup, hthreads, hmem⟩ := hf.listed x
    have hhole : hole ∉ xs := fun hb ↦ ((hmem hole).mp hb).ne_hole rfl
    have hsame : ∀ i ∈ xs, (dict' i).next = (dict i).next := fun i hi ↦
      (h.eq_of_ne (ne_of_mem_of_not_mem hi hhole)).2.2
    have hthreads' : Threads (fun i ↦ (dict' i).next) (dict x).child xs := hthreads.congr hsame
    by_cases hxa : x = a
    · subst hxa
      refine ⟨hole :: xs, List.nodup_cons.mpr ⟨hhole, hnodup⟩, ?_, fun b ↦ ?_⟩
      · rw [h.parent]
        refine ⟨rfl, h0, ?_⟩
        dsimp only
        rwa [h.new]
      · rw [List.mem_cons, hmem, h.child_iff hunused.entry ha]
        simp
    · refine ⟨xs, hnodup, ?_, fun b ↦ ?_⟩
      · by_cases hx : x = hole
        · subst hx
          rw [h.new]
          rwa [hunused.leaf] at hthreads'
        · rwa [h.same x hx hxa]
      · rw [hmem, h.child_iff hunused.entry ha]
        simp [hxa]
  · rcases (h.child_iff hunused.entry ha).mp hb with ⟨rfl, rfl⟩ | hchild
    · exact ⟨hunused.lt, w, h.spells hunused.entry ha hw⟩
    · obtain ⟨hlt, v, hv⟩ := hf.spelled x b hchild
      exact ⟨hlt, v, h.spells hunused.entry ha hv⟩
  · obtain ⟨hoctet, hparent, -⟩ := h.eq_of_ne (hhigh.trans_le hunused.entry).ne
    rw [hoctet, hparent]
    exact hf.single x hlow hhigh

end Insert

/-! ## Taking a leaf out -/

section Detach

variable {dict dict' : ℕ → DictNode} {n2 x : ℕ}

/-- A leaf has been taken out of the list that it is in. -/
structure Detached (dict dict' : ℕ → DictNode) (x : ℕ) : Prop where
  same : ∀ i, (dict' i).nodeOctet = (dict i).nodeOctet ∧ (dict' i).parent = (dict i).parent
  leaf : (dict' x).child = 0
  listed : ∀ a xs, xs.Nodup → Threads (fun i ↦ (dict i).next) (dict a).child xs →
    (∀ b, b ∈ xs ↔ Child dict 0 a b) →
      Threads (fun i ↦ (dict' i).next) (dict' a).child (xs.erase x)

theorem Detached.child_iff (h : Detached dict dict' x) {a b : ℕ} :
    Child dict' x a b ↔ Child dict 0 a b ∧ b ≠ x := by
  obtain ⟨-, hparent⟩ := h.same b
  constructor
  · rintro ⟨hentry, hne, hp, ha⟩
    exact ⟨⟨hentry, (Nat.lt_of_lt_of_le (by decide) hentry).ne', hparent ▸ hp, ha⟩, hne⟩
  · rintro ⟨⟨hentry, -, hp, ha⟩, hne⟩
    exact ⟨hentry, hne, hparent.trans hp, ha⟩

/-- All strings but its own are still there. -/
theorem Detached.spells (h : Detached dict dict' x) (hf : Forest dict n2 0)
    (hleaf : (dict x).child = 0) {b : ℕ} {v : Bytes} (hv : Spells dict 0 b v) (hb : b ≠ x) :
    Spells dict' x b v := by
  induction hv with
  | root hlow hhigh => exact .root hlow hhigh
  | @child a b v _ hchild ih =>
    rw [← (h.same b).1]
    refine .child (ih ?_) (h.child_iff.mpr ⟨hchild, hb⟩)
    rintro rfl
    exact hf.not_child hleaf hchild

theorem Detached.spells_of (h : Detached dict dict' x) {b : ℕ} {v : Bytes}
    (hv : Spells dict' x b v) : Spells dict 0 b v := by
  induction hv with
  | root hlow hhigh => exact .root hlow hhigh
  | @child a b v _ hchild ih =>
    rw [(h.same b).1]
    exact .child ih (h.child_iff.mp hchild).1

theorem Detached.forest (h : Detached dict dict' x) (hf : Forest dict n2 0)
    (hleaf : (dict x).child = 0) : Forest dict' n2 x := by
  refine ⟨fun a ↦ ?_, fun a b hb ↦ ?_, fun a hlow hhigh ↦ ?_⟩
  · obtain ⟨xs, hnodup, hthreads, hmem⟩ := hf.listed a
    refine ⟨xs.erase x, hnodup.erase x, h.listed a xs hnodup hthreads hmem, fun b ↦ ?_⟩
    rw [hnodup.mem_erase_iff, hmem, h.child_iff, and_comm]
  · obtain ⟨hchild, hne⟩ := h.child_iff.mp hb
    obtain ⟨hlt, v, hv⟩ := hf.spelled a b hchild
    refine ⟨hlt, v, h.spells hf hleaf hv ?_⟩
    rintro rfl
    exact hf.not_child hleaf hchild
  · obtain ⟨hoctet, hparent⟩ := h.same a
    rw [hoctet, hparent]
    exact hf.single a hlow hhigh

theorem before_threads {e p : ℕ} {l r : List ℕ} {fuel : ℕ}
    (h : Threads (fun i ↦ (dict i).next) e (l ++ p :: x :: r)) (hnodup : (l ++ p :: x :: r).Nodup)
    (hfuel : l.length < fuel) : before dict x fuel e = .ok p := by
  induction l generalizing e fuel with
  | nil =>
    obtain ⟨fuel, rfl⟩ := Nat.exists_eq_add_one_of_ne_zero (Nat.ne_zero_of_lt hfuel)
    obtain ⟨rfl, -, hnext, -⟩ := h
    rw [before, if_pos hnext]
  | cons y l ih =>
    obtain ⟨fuel, rfl⟩ := Nat.exists_eq_add_one_of_ne_zero (Nat.ne_zero_of_lt hfuel)
    obtain ⟨rfl, -, hrest⟩ := h
    obtain ⟨-, hnodup⟩ := List.nodup_cons.mp hnodup
    rw [before, if_neg ?_]
    · exact ih hrest hnodup (Nat.lt_of_succ_lt_succ hfuel)
    · -- otherwise what follows would start with the leaf and have it again
      intro hnext
      dsimp only at hrest
      rw [hnext] at hrest
      cases l with
      | nil =>
        obtain ⟨rfl, -, -⟩ := hrest
        simp at hnodup
      | cons z l =>
        obtain ⟨rfl, -, -⟩ := hrest
        simp at hnodup

end Detach

section DetachTable

variable {t : Dictionary} {n2 x : ℕ}

/-- A link of an entry has changed, and nothing else. -/
theorem detached_modify {i : ℕ} {f : DictNode → DictNode}
    (hoctet : ∀ n, (f n).nodeOctet = n.nodeOctet) (hparent : ∀ n, (f n).parent = n.parent)
    (hleaf : ((t.modify i f).dict x).child = 0)
    (hlisted : ∀ a xs, xs.Nodup → Threads (fun j ↦ (t.dict j).next) (t.dict a).child xs →
      (∀ b, b ∈ xs ↔ Child t.dict 0 a b) →
        Threads (fun j ↦ ((t.modify i f).dict j).next) ((t.modify i f).dict a).child
          (xs.erase x)) : Detached t.dict (t.modify i f).dict x := by
  refine ⟨fun j ↦ ?_, hleaf, hlisted⟩
  simp only [Dictionary.modify]
  by_cases hj : j = i
  · subst hj
    rw [Function.update_self, hoctet, hparent]
    exact ⟨rfl, rfl⟩
  · rw [Function.update_of_ne hj]
    exact ⟨rfl, rfl⟩

/-- **A leaf is detached**, wherever in the list of its siblings it stands. -/
theorem Forest.detach (h : Forest t.dict n2 0) (hn2 : n2 < rounds) (hentry : n5 ≤ x)
    (hleaf : (t.dict x).child = 0) :
    ∃ dict, detach t x = .ok { t with dict := dict } ∧ Detached t.dict dict x := by
  have hx : x ≠ 0 := (Nat.lt_of_lt_of_le (by decide) hentry).ne'
  have hother {a : ℕ} {xs : List ℕ} (hmem : ∀ b, b ∈ xs ↔ Child t.dict 0 a b)
      (ha : a ≠ (t.dict x).parent) : x ∉ xs := fun hxs ↦ ha ((hmem x).mp hxs).parent.symm
  unfold V42bis.detach
  dsimp only
  split
  · rename_i h0
    refine ⟨t.dict, rfl, fun i ↦ ⟨rfl, rfl⟩, hleaf, fun a xs hnodup hthreads hmem ↦ ?_⟩
    rwa [List.erase_of_not_mem]
    intro hxs
    exact ((hmem x).mp hxs).ne_zero (((hmem x).mp hxs).parent.symm.trans h0)
  · rename_i h0
    set e := (t.dict x).parent with he
    have hex : e ≠ x := by
      intro hex
      exact h.not_child hleaf ⟨hentry, hx, he.symm.trans hex, hx⟩
    have hxe : Child t.dict 0 e x := ⟨hentry, hx, rfl, h0⟩
    split
    · rename_i hfirst
      refine ⟨(t.modify e fun n ↦ { n with child := (t.dict x).next }).dict, rfl,
        detached_modify (fun _ ↦ rfl) (fun _ ↦ rfl) ?_ fun a xs hnodup hthreads hmem ↦ ?_⟩
      · simpa [Dictionary.modify, hex.symm] using hleaf
      · have hnext : (fun j ↦ ((t.modify e fun n ↦
            { n with child := (t.dict x).next }).dict j).next) = fun j ↦ (t.dict j).next := by
          funext j
          by_cases hj : j = e
          · simp [Dictionary.modify, hj]
          · simp [Dictionary.modify, hj]
        rw [hnext]
        by_cases ha : a = e
        · subst ha
          rw [hfirst] at hthreads
          cases xs with
          | nil => exact absurd ((hmem x).mpr hxe) List.not_mem_nil
          | cons y ys =>
            obtain ⟨rfl, -, hrest⟩ := hthreads
            simpa [Dictionary.modify] using hrest
        · rw [List.erase_of_not_mem (hother hmem ha)]
          simpa [Dictionary.modify, ha] using hthreads
    · rename_i hfirst
      obtain ⟨xs, hnodup, hthreads, hmem⟩ := h.listed e
      have hlen := h.length_lt hn2 hnodup fun b hb ↦ (hmem b).mp hb
      obtain ⟨l, p, r, rfl⟩ := hthreads.exists_before ((hmem x).mpr hxe) hfirst
      have hbefore : before t.dict x rounds (t.dict e).child = .ok p :=
        before_threads hthreads hnodup (by rw [List.length_append] at hlen; omega)
      rw [hbefore]
      refine ⟨(t.modify p fun n ↦ { n with next := (t.dict x).next }).dict, rfl,
        detached_modify (fun _ ↦ rfl) (fun _ ↦ rfl) ?_ fun a ys hys hthreads' hmem' ↦ ?_⟩
      · by_cases hp : x = p
        · simpa [Dictionary.modify, hp] using hp ▸ hleaf
        · simpa [Dictionary.modify, hp] using hleaf
      · have hnext : (fun j ↦ ((t.modify p fun n ↦
            { n with next := (t.dict x).next }).dict j).next) =
            Function.update (fun j ↦ (t.dict j).next) p (t.dict x).next := by
          funext j
          by_cases hj : j = p
          · simp [Dictionary.modify, hj]
          · simp [Dictionary.modify, hj]
        have hchild : ((t.modify p fun n ↦ { n with next := (t.dict x).next }).dict a).child =
            (t.dict a).child := by
          by_cases hj : a = p
          · simp [Dictionary.modify, hj]
          · simp [Dictionary.modify, hj]
        rw [hnext, hchild]
        by_cases ha : a = e
        · subst ha
          obtain rfl := Threads.unique hthreads' hthreads
          have herase : (l ++ p :: x :: r).erase x = l ++ p :: r := by
            obtain ⟨hl, hp⟩ : x ∉ l ∧ x ≠ p := by
              simp only [List.nodup_append, List.nodup_cons, List.mem_cons] at hnodup
              grind
            rw [List.erase_append_right _ hl, List.erase_cons_tail (by simpa using hp.symm),
              List.erase_cons_head]
          rw [herase]
          exact hthreads.unlink hnodup
        · rw [List.erase_of_not_mem (hother hmem' ha)]
          refine hthreads'.congr fun b hb ↦ Function.update_of_ne ?_ ..
          rintro rfl
          have hpe := ((hmem b).mp (by simp)).parent
          exact ha (((hmem' b).mp hb).parent.symm.trans hpe)

end DetachTable

/-! ## Adding -/

section Add

variable {t : Dictionary} {dict : ℕ → DictNode} {n2 a : ℕ} {o : UInt8} {w : Bytes}

/-- A leaf is found in the range of the entries, if there is one. -/
theorem recover_leaf {x : ℕ} (hx : n5 ≤ x) (hlt : x < n2) (hleaf : (dict x).child = 0)
    {fuel next : ℕ} (hnext : n5 ≤ next) (hnextlt : next < n2)
    (hfuel : (if next < x then x - next else n2 - next + (x - n5)) < fuel) :
    ∃ r, recover dict n2 fuel next = .ok r ∧ n5 ≤ r ∧ r < n2 ∧ (dict r).child = 0 := by
  induction fuel generalizing next with
  | zero => exact absurd hfuel (Nat.not_lt_zero _)
  | succ fuel ih =>
    rw [recover]
    generalize hr : (if next + 1 = n2 then n5 else next + 1) = r
    have hrange : n5 ≤ r ∧ r < n2 := by
      split_ifs at hr <;> omega
    by_cases hchild : (dict r).child = 0
    · rw [if_neg (not_not.mpr hchild)]
      exact ⟨r, rfl, hrange.1, hrange.2, hchild⟩
    · rw [if_pos hchild]
      have hne : r ≠ x := by
        rintro rfl
        exact hchild hleaf
      refine ih hrange.1 hrange.2 ?_
      split_ifs at hr hfuel ⊢ <;> omega

/-- What adding an octet below an entry does to the strings of the dictionary: those that are there
before and after are the same. -/
structure Added (dict dict' : ℕ → DictNode) (hole hole' : ℕ) : Prop where
  before : ∀ b v, Spells dict' hole' b v → b ≠ hole → Spells dict hole b v
  after : ∀ b v, Spells dict hole b v → b ≠ hole' → Spells dict' hole' b v

/-- The table works as a dictionary. -/
structure Dictionary.Sound (t : Dictionary) : Prop where
  forest : Forest t.dict t.n2 t.c1
  unused : Unused t.dict t.n2 t.c1
  lt : t.n2 < rounds

theorem inserted_putNode (hne : a ≠ t.c1) (o : UInt8) :
    Inserted t.dict (putNode t a o).dict t.c1 a o := by
  refine ⟨?_, ?_, fun i hi hia ↦ ?_⟩
  · simp [putNode, Dictionary.modify, hne, hne.symm]
  · simp [putNode, Dictionary.modify, hne]
  · simp [putNode, Dictionary.modify, hi, hia]

/-- **Adding an octet ends, and leaves a dictionary that works.** -/
theorem Dictionary.Sound.addOctetToDictionary (h : t.Sound) (hw : Spells t.dict t.c1 a w)
    (o : UInt8) :
    ∃ dict next, addOctetToDictionary t a o =
        .ok (t.c1, { t with dict := dict, c1 := next }) ∧
      ({ t with dict := dict, c1 := next } : Dictionary).Sound ∧ Added t.dict dict t.c1 next := by
  obtain ⟨hforest, hunused, hn2⟩ := h
  have ha := hw.ne_zero
  have hne := hw.ne_hole hunused.entry
  have hinserted := inserted_putNode hne o
  have hforest₁ := hinserted.forest hforest hunused hw
  have hleaf : ((putNode t a o).dict t.c1).child = 0 := by rw [hinserted.new]
  have hrounds : (if t.c1 < t.c1 then t.c1 - t.c1 else t.n2 - t.c1 + (t.c1 - n5)) < rounds := by
    have := hunused.entry
    have := hunused.lt
    rw [if_neg (lt_irrefl _)]
    omega
  obtain ⟨next, hnext, hentry, hlt, hnextleaf⟩ :=
    recover_leaf hunused.entry hunused.lt hleaf hunused.entry hunused.lt hrounds
  obtain ⟨dict, hdetach, hdetached⟩ := hforest₁.detach hn2 hentry hnextleaf
  refine ⟨dict, next, ?_, ⟨hdetached.forest hforest₁ hnextleaf, ⟨hentry, hlt, hdetached.leaf⟩, hn2⟩,
    fun b v hv hb ↦ ?_, fun b v hv hb ↦ ?_⟩
  · change (recover (putNode t a o).dict t.n2 rounds t.c1 >>= fun next ↦
      detach (putNode t a o) next >>= fun t' ↦ pure (t.c1, { t' with c1 := next })) = _
    rw [hnext]
    change (detach (putNode t a o) next >>= fun t' ↦ pure (t.c1, { t' with c1 := next })) = _
    rw [hdetach]
    rfl
  · exact hinserted.spells_of_ne hforest hunused ha hne (hdetached.spells_of hv) hb
  · exact hdetached.spells hforest₁ hnextleaf (hinserted.spells hunused.entry ha hv) hb

end Add

end OsmoSgsn.V42bis
