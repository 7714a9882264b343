import Mathlib

/-!
# Lists as maps

A list of records with a key, where a record is looked up by going through the list, changed where
it stands, and put at the end if there is none with its key. Such a list is a map from keys to
records that also knows in which order the keys came.

`KeyedMap` is that map, and `Represents` says that a list is one.
-/

section KeyedList

variable {α κ : Type*} [DecidableEq κ]

/-- Changes the first record with a key, or appends a new one. -/
def upsert (key : α → κ) (k : κ) (f : Option α → α) : List α → List α
  | [] => [f none]
  | a :: l => if key a = k then f (some a) :: l else a :: upsert key k f l

variable {key : α → κ} {k : κ} {f : Option α → α} {l : List α} {a : α}

/-- Looking up and changing in place, or appending, is `upsert`. -/
theorem upsert_eq_findIdx :
    upsert key k f l = match l.findIdx? (key · = k) with
      | some i => l.modify i fun a ↦ f (some a)
      | none => l ++ [f none] := by
  induction l with
  | nil => rfl
  | cons a l ih =>
    rw [upsert, List.findIdx?_cons]
    by_cases ha : key a = k
    · simp [ha]
    · rw [if_neg ha, ih]
      rcases l.findIdx? (key · = k) with _ | i <;> simp [ha]

theorem mem_upsert_of_ne (ha : a ∈ l) (hne : key a ≠ k) : a ∈ upsert key k f l := by
  induction l with
  | nil => simp at ha
  | cons b l ih =>
    rw [upsert]
    split
    · next hb =>
      have hmem : a ∈ l := (List.mem_cons.mp ha).resolve_left fun hab ↦ hne (hab ▸ hb)
      exact List.mem_cons_of_mem _ hmem
    · rcases List.mem_cons.mp ha with rfl | hmem
      · exact List.mem_cons_self
      · exact List.mem_cons_of_mem _ (ih hmem)

/-- The keys stay where they are, and a new one comes last. -/
theorem map_key_upsert (hf : ∀ o, (∀ a ∈ o, key a = k) → key (f o) = k) :
    (upsert key k f l).map key = if k ∈ l.map key then l.map key else l.map key ++ [k] := by
  induction l with
  | nil => simp [upsert, hf]
  | cons a l ih =>
    rw [upsert]
    split
    · next ha => simp [ha, hf]
    · next ha =>
      rw [List.map_cons, ih, List.map_cons]
      simp only [List.mem_cons, Ne.symm ha, false_or]
      split <;> simp

/-- Only the record with the key changes. -/
theorem find_upsert (hf : ∀ o, (∀ a ∈ o, key a = k) → key (f o) = k) (k' : κ) :
    (upsert key k f l).find? (key · = k') =
      if k' = k then some (f (l.find? (key · = k))) else l.find? (key · = k') := by
  induction l with
  | nil =>
    have hkey : key (f none) = k := hf none (by simp)
    by_cases hk : k' = k
    · simp [upsert, hkey, hk]
    · simp [upsert, hkey, hk, Ne.symm hk]
  | cons a l ih =>
    rw [upsert]
    by_cases ha : key a = k
    · have hkey : key (f (some a)) = k := hf (some a) (by simpa using ha)
      by_cases hk : k' = k
      · simp [ha, hkey, hk]
      · simp [ha, hkey, hk, Ne.symm hk]
    · rw [if_neg ha, List.find?_cons, ih]
      by_cases hk : k' = k
      · simp [ha, hk]
      · simp [hk, List.find?_cons]

/-! ## Maps that know the order of their keys -/

/-- A map from keys to values, with its keys in the order in which they came. -/
structure KeyedMap (κ β : Type*) where
  keys : List κ
  get : κ → Option β

namespace KeyedMap

variable {β : Type*}

def empty : KeyedMap κ β := ⟨[], fun _ ↦ none⟩

/-- Sets the value of a key; a new key comes last. -/
def set (m : KeyedMap κ β) (k : κ) (b : β) : KeyedMap κ β where
  keys := if k ∈ m.keys then m.keys else m.keys ++ [k]
  get := Function.update m.get k (some b)

/-- The entries in the order of the keys. -/
def toList (m : KeyedMap κ β) : List (κ × β) := m.keys.filterMap fun k ↦ (m.get k).map (k, ·)

/-- A list of records is the map of their values. -/
structure Represents (key : α → κ) (value : α → β) (l : List α) (m : KeyedMap κ β) : Prop where
  keys : l.map key = m.keys
  nodup : (l.map key).Nodup
  get : ∀ k, m.get k = (l.find? (key · = k)).map value

variable {value : α → β} {m : KeyedMap κ β}

theorem Represents.nil : Represents key value [] (empty : KeyedMap κ β) := ⟨rfl, .nil, fun _ ↦ rfl⟩

/-- Changing the list is setting the value. -/
theorem Represents.set (h : Represents key value l m)
    (hf : ∀ o, (∀ a ∈ o, key a = k) → key (f o) = k) :
    Represents key value (upsert key k f l) (m.set k (value (f (l.find? (key · = k))))) := by
  have hkeys : (upsert key k f l).map key =
      if k ∈ m.keys then m.keys else m.keys ++ [k] := by rw [map_key_upsert hf, h.keys]
  refine ⟨hkeys, ?_, fun k' ↦ ?_⟩
  · have hnodup : m.keys.Nodup := h.keys ▸ h.nodup
    rw [hkeys]
    split
    · exact hnodup
    · next hk => exact hnodup.append (List.nodup_singleton k) (List.disjoint_singleton.mpr hk)
  · rw [find_upsert hf]
    change Function.update m.get k _ k' = _
    rw [Function.update_apply]
    split
    · rfl
    · exact h.get k'

/-- A list is determined by its map. -/
theorem Represents.toList (h : Represents key value l m) :
    l.map (fun a ↦ (key a, value a)) = m.toList := by
  have hfind : ∀ a ∈ l, l.find? (key · = key a) = some a := by
    intro a ha
    rcases hsome : l.find? (key · = key a) with _ | b
    · exact absurd (List.find?_eq_none.mp hsome a ha) (by simp)
    · have hb : key b = key a := by simpa using List.find?_some hsome
      rw [List.inj_on_of_nodup_map h.nodup (List.mem_of_find?_eq_some hsome) ha hb]
  rw [KeyedMap.toList, ← h.keys, List.filterMap_map, ← List.filterMap_eq_map]
  refine List.filterMap_congr fun a ha ↦ ?_
  simp [h.get, hfind a ha]

end KeyedMap

end KeyedList
