import Mathlib

/-!
# The last of the greatest

A search through a list for the entry with the greatest key, where entries without a key (`⊥`) do
not count and a later entry replaces an earlier one with the same key. `List.argmax` takes the
first of the greatest, so this is `argmax` from the end.

The order of the list matters only among the entries with the greatest key: `lastMost_perm` for
lists without such ties, `idxOf_lt_of_mem_lastMost` for where the one found stands.
-/

section LastMost

variable {α β : Type*} [LinearOrder β] (key : α → WithBot β)

/-- The last of the elements with the greatest key, if that key is one. -/
def lastMost (l : List α) : Option α := (l.reverse.argmax key).filter (key · ≠ ⊥)

variable {key} {l l' : List α} {a b : α}

@[simp] theorem lastMost_nil : lastMost key [] = none := rfl

theorem mem_lastMost_iff : a ∈ lastMost key l ↔ a ∈ l.reverse.argmax key ∧ key a ≠ ⊥ := by
  simp [lastMost, Option.filter_eq_some_iff]

theorem lastMost_eq_none : lastMost key l = none ↔ ∀ a ∈ l, key a = ⊥ := by
  rcases hmax : l.reverse.argmax key with _ | m
  · have hnil : l = [] := by simpa using hmax
    simp [hnil]
  · have hm : m ∈ l := List.mem_reverse.mp (List.argmax_mem hmax)
    have hle : ∀ a ∈ l, key a ≤ key m := fun a ha ↦
      List.le_of_mem_argmax (List.mem_reverse.mpr ha) hmax
    rw [lastMost, hmax, Option.filter_eq_none_iff]
    constructor
    · intro hbot a ha
      have hmbot : key m = ⊥ := by simpa using hbot m rfl
      exact le_bot_iff.mp (hmbot ▸ hle a ha)
    · intro hbot a ha
      rw [← Option.some.inj ha]
      simpa using hbot m hm

theorem mem_of_mem_lastMost (ha : a ∈ lastMost key l) : a ∈ l :=
  List.mem_reverse.mp (List.argmax_mem (mem_lastMost_iff.mp ha).1)

theorem key_ne_bot_of_mem_lastMost (ha : a ∈ lastMost key l) : key a ≠ ⊥ :=
  (mem_lastMost_iff.mp ha).2

theorem key_le_of_mem_lastMost (ha : a ∈ lastMost key l) (hb : b ∈ l) : key b ≤ key a :=
  List.le_of_mem_argmax (List.mem_reverse.mpr hb) (mem_lastMost_iff.mp ha).1

/-- An element without a key changes nothing. -/
theorem lastMost_concat_of_bot (ha : key a = ⊥) : lastMost key (l ++ [a]) = lastMost key l := by
  rw [lastMost, lastMost, List.reverse_concat, List.argmax_cons]
  rcases l.reverse.argmax key with _ | m
  · simp [Option.filter, ha]
  · rcases eq_or_ne (key m) ⊥ with hm | hm
    · simp [Option.filter, ha, hm]
    · simp [Option.filter, ha, bot_lt_iff_ne_bot.mpr hm]

/-- Nor does one with a smaller key. -/
theorem lastMost_concat_of_lt (hm : b ∈ lastMost key l) (hlt : key a < key b) :
    lastMost key (l ++ [a]) = some b := by
  obtain ⟨hmax, hbot⟩ := mem_lastMost_iff.mp hm
  rw [Option.mem_def] at hmax
  rw [lastMost, List.reverse_concat, List.argmax_cons, hmax]
  simp [Option.filter, hlt, hbot]

/-- Any other one replaces what was found. -/
theorem lastMost_concat_of_le (ha : key a ≠ ⊥) (hle : ∀ b ∈ lastMost key l, key b ≤ key a) :
    lastMost key (l ++ [a]) = some a := by
  rw [lastMost, List.reverse_concat, List.argmax_cons]
  rcases hmax : l.reverse.argmax key with _ | m
  · simp [Option.filter, ha]
  · have hnot : ¬ key a < key m := by
      rcases eq_or_ne (key m) ⊥ with hm | hm
      · simp [hm]
      · exact not_lt.mpr (hle m (mem_lastMost_iff.mpr ⟨hmax, hm⟩))
    simp [Option.filter, hnot, ha]

/-! ## The order of the list -/

/-- What a search finds stands in its list so that no element exceeds it and none after it reaches
it. -/
theorem exists_split_of_mem_lastMost (ha : a ∈ lastMost key l) :
    ∃ l₁ l₂, l = l₁ ++ a :: l₂ ∧ ∀ b ∈ l₂, key b < key a := by
  induction l using List.reverseRecOn with
  | nil => simp at ha
  | append_singleton l b ih =>
    have hle := key_le_of_mem_lastMost ha (List.mem_append_right l (List.mem_singleton_self b))
    rcases eq_or_ne (key b) ⊥ with hbot | hbot
    · have hb : key b < key a := hbot ▸ bot_lt_iff_ne_bot.mpr (key_ne_bot_of_mem_lastMost ha)
      rw [lastMost_concat_of_bot hbot] at ha
      obtain ⟨l₁, l₂, rfl, hl₂⟩ := ih ha
      exact ⟨l₁, l₂ ++ [b], by simp, by simpa [or_imp, forall_and] using ⟨hl₂, hb⟩⟩
    · by_cases hall : ∀ c ∈ lastMost key l, key c ≤ key b
      · rw [lastMost_concat_of_le hbot hall, Option.mem_some_iff] at ha
        exact ⟨l, [], by simp [ha], by simp⟩
      · push Not at hall
        obtain ⟨c, hc, hlt⟩ := hall
        rw [lastMost_concat_of_lt hc hlt, Option.mem_some_iff] at ha
        subst ha
        obtain ⟨l₁, l₂, rfl, hl₂⟩ := ih hc
        exact ⟨l₁, l₂ ++ [b], by simp, by simpa [or_imp, forall_and] using ⟨hl₂, hlt⟩⟩

/-- Of the elements with the greatest key, the one found comes last. -/
theorem idxOf_lt_of_mem_lastMost [DecidableEq α] (hnodup : l.Nodup) (ha : a ∈ lastMost key l)
    (hb : b ∈ l) (hkey : key b = key a) (hne : b ≠ a) : l.idxOf b < l.idxOf a := by
  obtain ⟨l₁, l₂, rfl, hafter⟩ := exists_split_of_mem_lastMost ha
  have hnot : b ∉ l₂ := fun hmem ↦ (hafter b hmem).ne hkey
  have hmem : b ∈ l₁ := by
    rcases List.mem_append.mp hb with hmem | hmem
    · exact hmem
    · exact absurd ((List.mem_cons.mp hmem).resolve_left hne) hnot
  have hfresh : a ∉ l₁ := fun hin ↦
    List.disjoint_of_nodup_append hnodup hin List.mem_cons_self
  rw [List.idxOf_append_of_mem hmem, List.idxOf_append_of_notMem hfresh, List.idxOf_cons_self,
    Nat.add_zero]
  exact List.idxOf_lt_length_of_mem hmem

/-- Without ties at the greatest key the order does not matter. -/
theorem lastMost_perm (hperm : l.Perm l')
    (huniq : ∀ a ∈ lastMost key l, ∀ b ∈ l, key b = key a → b = a) :
    lastMost key l' = lastMost key l := by
  rcases hfound : lastMost key l with _ | a
  · rw [lastMost_eq_none] at hfound ⊢
    exact fun b hb ↦ hfound b (hperm.mem_iff.mpr hb)
  · rcases hother : lastMost key l' with _ | b
    · have hbot := lastMost_eq_none.mp hother a (hperm.mem_iff.mp (mem_of_mem_lastMost hfound))
      exact absurd hbot (key_ne_bot_of_mem_lastMost hfound)
    · have hb : b ∈ l := hperm.mem_iff.mpr (mem_of_mem_lastMost hother)
      have ha : a ∈ l' := hperm.mem_iff.mp (mem_of_mem_lastMost hfound)
      have hle := key_le_of_mem_lastMost hfound hb
      have hge := key_le_of_mem_lastMost hother ha
      rw [huniq a hfound b hb (le_antisymm hle hge)]

end LastMost
