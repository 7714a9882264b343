import Mathlib.Data.List.Basic
import Mathlib.Logic.Function.Basic

/-!
# Hash tables with chains

A chained hash table holds nodes under keys. A bucket is a chain of nodes, and a lookup runs through
the bucket of a key until a node has the property that it asks for; it does not look at the key
under which a node was added, so it finds what it should only as long as every node is under the
key that it has. `Agrees` says that, and `Agrees.rehash` is how it is kept: a node whose key
changes is taken out and added again.

The nodes of all buckets are one list here, the latest first, which is the order within each
bucket. The function that chooses the bucket is arbitrary, and so collisions are.
-/

/-- A chained hash table: its nodes and the keys under which they were added, the latest first. -/
abbrev HashTable (Key Node : Type*) := List (Key × Node)

namespace HashTable

variable {Key Node : Type*} [DecidableEq Node]

/-- Take a node out. -/
def del (t : HashTable Key Node) (n : Node) : HashTable Key Node := t.filter (·.2 ≠ n)

/-- Add a node under a key. -/
def add (t : HashTable Key Node) (k : Key) (n : Node) : HashTable Key Node := (k, n) :: t

/-- Take a node out and add it under its key, if it has one. -/
def rehash (t : HashTable Key Node) (n : Node) : Option Key → HashTable Key Node
  | none => t.del n
  | some k => (t.del n).add k n

/-- The first node in the bucket of a key that has a property. -/
def lookup (bucket : Key → ℕ) (t : HashTable Key Node) (k : Key) (p : Node → Bool) :
    Option Node :=
  (t.find? fun x ↦ bucket x.1 = bucket k ∧ p x.2).map (·.2)

/-- The table holds every node under the key that it has. -/
def Agrees (t : HashTable Key Node) (key : Node → Option Key) : Prop :=
  ∀ k n, (k, n) ∈ t ↔ key n = some k

variable {t : HashTable Key Node} {key : Node → Option Key} {n : Node} {k : Key}

theorem mem_del {x : Key × Node} : x ∈ t.del n ↔ x ∈ t ∧ x.2 ≠ n := by
  simp [del, List.mem_filter]

/-- A node that has no key any more is taken out. -/
theorem Agrees.del (h : t.Agrees key) (n : Node) :
    (t.del n).Agrees (Function.update key n none) := by
  intro k m
  rw [mem_del, h k m]
  by_cases hmn : m = n
  · subst hmn
    simp
  · simp [hmn]

/-- A node whose key changes is taken out and added again. -/
theorem Agrees.rehash (h : t.Agrees key) (n : Node) (k : Option Key) :
    (t.rehash n k).Agrees (Function.update key n k) := by
  cases k with
  | none => exact h.del n
  | some k =>
    intro k' m
    rw [HashTable.rehash, add, List.mem_cons, h.del n k' m]
    by_cases hmn : m = n
    · subst hmn
      simp [eq_comm]
    · simp [hmn]

omit [DecidableEq Node] in
/-- A node whose key stays may stay where it is. -/
theorem Agrees.congr {key' : Node → Option Key} (h : t.Agrees key) (hk : ∀ n, key' n = key n) :
    t.Agrees key' := by
  intro k n
  rw [hk, h k n]

omit [DecidableEq Node] in
/-- What a lookup finds has the property, and a key. -/
theorem Agrees.of_lookup_some (h : t.Agrees key) {bucket : Key → ℕ} {p : Node → Bool}
    (hf : lookup bucket t k p = some n) : p n = true ∧ key n ≠ none := by
  obtain ⟨⟨k', m⟩, hm, rfl⟩ := Option.map_eq_some_iff.mp hf
  have hp := List.find?_some hm
  have hkey := (h k' m).mp (List.mem_of_find?_eq_some hm)
  simp only [decide_eq_true_eq] at hp
  exact ⟨hp.2, by rw [hkey]; simp⟩

omit [DecidableEq Node] in
/-- Where a lookup finds nothing, no node with the key has the property. -/
theorem Agrees.of_lookup_none (h : t.Agrees key) {bucket : Key → ℕ} {p : Node → Bool}
    (hf : lookup bucket t k p = none) (hk : key n = some k) : p n = false := by
  have hnone := List.find?_eq_none.mp (Option.map_eq_none_iff.mp hf) (k, n) ((h k n).mpr hk)
  simpa using hnone

end HashTable
