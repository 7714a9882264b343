import OsmoSgsn.Library.Span
import OsmoSgsn.Library.Wp

/-!
# Reading with a cursor

A parser written by hand goes through a message with a pointer, and nothing but its own checks keeps
the pointer inside. The programs here read past the end without a fault. They keep an account of
what they have read and of the ranges that they have handed to other parsers, and a program is safe
if its account is, however it ends.
-/

/-- A range that is handed to another parser: where it starts, and the length as it was computed. -/
structure Handed where
  start : ℕ
  len : ℤ
  deriving DecidableEq, Repr

/-- The positions that the other parser may read. -/
def Handed.span (h : Handed) : Span := ⟨h.start, h.len.toNat⟩

/-- A place in a message, and the account, the latest first. -/
structure Cursor where
  pos : ℕ
  reads : List Span
  handed : List Handed
  deriving DecidableEq, Repr

namespace Cursor

/-- At a position of a message of which nothing has been read. -/
def startAt (pos : ℕ) : Cursor := ⟨pos, [], []⟩

/-- All that was read or handed on is inside a message of `n` octets, and no length is negative. -/
structure Safe (n : ℕ) (c : Cursor) : Prop where
  reads : ∀ s ∈ c.reads, s.Inside n
  handed : ∀ h ∈ c.handed, 0 ≤ h.len ∧ h.span.Inside n

section Programs

variable {α ε : Type} (msg : List α)

/-- Read the octet at a position, relative to nothing. -/
def octetAt [Inhabited α] (i : ℕ) : EStateM ε Cursor α := do
  modify fun c ↦ { c with reads := ⟨i, 1⟩ :: c.reads }
  pure (msg.getD i default)

/-- `*cur++`. -/
def next [Inhabited α] : EStateM ε Cursor α := do
  let c ← get
  set ({ c with pos := c.pos + 1, reads := ⟨c.pos, 1⟩ :: c.reads } : Cursor)
  pure (msg.getD c.pos default)

/-- `cur += n`. -/
def skip (n : ℕ) : EStateM ε Cursor Unit := modify fun c ↦ { c with pos := c.pos + n }

/-- Where the cursor is. -/
def here : EStateM ε Cursor ℕ := do
  let c ← get
  pure c.pos

/-- Read the octets of a span. -/
def slice (s : Span) : EStateM ε Cursor (List α) := do
  modify fun c ↦ { c with reads := s :: c.reads }
  pure ((msg.drop s.start).take s.len)

/-- Hand on a range. -/
def hand (h : Handed) : EStateM ε Cursor (List α) := do
  modify fun c ↦ { c with handed := h :: c.handed }
  pure ((msg.drop h.start).take h.len.toNat)

/-- Refuse a message. -/
def refuse (p : Prop) [Decidable p] (e : ε) : EStateM ε Cursor Unit :=
  if p then throw e else pure ()

/-- A value, or the reason why there is none. -/
def orThrow {β : Type} (o : Option β) (e : ε) : EStateM ε Cursor β :=
  match o with
  | some b => pure b
  | none => throw e

end Programs

/-! ## Rules -/

section Rules

open EStateM

variable {α ε : Type} {msg : List α} {c : Cursor} {E : ε → Cursor → Prop}

theorem wp_octetAt [Inhabited α] {i : ℕ} {Q : α → Cursor → Prop} :
    wp (octetAt msg i) Q E c ↔ Q (msg.getD i default) ⟨c.pos, ⟨i, 1⟩ :: c.reads, c.handed⟩ :=
  Iff.rfl

theorem wp_next [Inhabited α] {Q : α → Cursor → Prop} :
    wp (next msg) Q E c ↔
      Q (msg.getD c.pos default) ⟨c.pos + 1, ⟨c.pos, 1⟩ :: c.reads, c.handed⟩ := Iff.rfl

theorem wp_skip {n : ℕ} {Q : Unit → Cursor → Prop} :
    wp (skip n) Q E c ↔ Q () ⟨c.pos + n, c.reads, c.handed⟩ := Iff.rfl

theorem wp_here {Q : ℕ → Cursor → Prop} : wp here Q E c ↔ Q c.pos c := Iff.rfl

theorem wp_slice {s : Span} {Q : List α → Cursor → Prop} :
    wp (slice msg s) Q E c ↔
      Q ((msg.drop s.start).take s.len) ⟨c.pos, s :: c.reads, c.handed⟩ := Iff.rfl

theorem wp_hand {h : Handed} {Q : List α → Cursor → Prop} :
    wp (hand msg h) Q E c ↔
      Q ((msg.drop h.start).take h.len.toNat) ⟨c.pos, c.reads, h :: c.handed⟩ := Iff.rfl

theorem wp_refuse {p : Prop} [Decidable p] {e : ε} {Q : Unit → Cursor → Prop} :
    wp (refuse p e) Q E c ↔ (p → E e c) ∧ (¬ p → Q () c) := by
  unfold refuse
  by_cases hp : p
  · simp [hp]
  · simp [hp]

theorem wp_orThrow {β : Type} {o : Option β} {e : ε} {Q : β → Cursor → Prop} :
    wp (orThrow o e) Q E c ↔ (o = none → E e c) ∧ ∀ b, o = some b → Q b c := by
  unfold orThrow
  cases o with
  | none => simp
  | some b => simp

end Rules

/-! ## Safe accounts -/

variable {n pos i : ℕ} {reads : List Span} {handed : List Handed} {s : Span} {h : Handed}

theorem safe_startAt : (startAt pos).Safe n := ⟨fun _ hs ↦ (List.not_mem_nil hs).elim,
  fun _ hh ↦ (List.not_mem_nil hh).elim⟩

theorem safe_read_iff :
    Safe n ⟨pos, s :: reads, handed⟩ ↔ s.Inside n ∧ Safe n ⟨pos, reads, handed⟩ := by
  constructor
  · intro h
    exact ⟨h.reads s List.mem_cons_self,
      ⟨fun t ht ↦ h.reads t (List.mem_cons_of_mem s ht), h.handed⟩⟩
  · rintro ⟨hs, h⟩
    refine ⟨?_, h.handed⟩
    intro t ht
    rcases List.mem_cons.mp ht with rfl | ht
    · exact hs
    · exact h.reads t ht

theorem safe_handed_iff :
    Safe n ⟨pos, reads, h :: handed⟩ ↔
      (0 ≤ h.len ∧ h.span.Inside n) ∧ Safe n ⟨pos, reads, handed⟩ := by
  constructor
  · intro hsafe
    exact ⟨hsafe.handed h List.mem_cons_self,
      ⟨hsafe.reads, fun t ht ↦ hsafe.handed t (List.mem_cons_of_mem h ht)⟩⟩
  · rintro ⟨hh, hsafe⟩
    refine ⟨hsafe.reads, ?_⟩
    intro t ht
    rcases List.mem_cons.mp ht with rfl | ht
    · exact hh
    · exact hsafe.handed t ht

/-- The place does not matter. -/
theorem safe_pos_iff {c : Cursor} : Safe n ⟨pos, c.reads, c.handed⟩ ↔ c.Safe n :=
  ⟨fun h ↦ ⟨h.reads, h.handed⟩, fun h ↦ ⟨h.reads, h.handed⟩⟩

/-! ## Programs that stay inside -/

/-- At a position, after reading inside of `n` octets and handing on some ranges. -/
structure Stays (n p : ℕ) (handed : List Handed) (c : Cursor) : Prop where
  pos : c.pos = p
  safe : c.Safe n
  handed : c.handed = handed

theorem stays_startAt {p : ℕ} : Stays n p [] (startAt p) := ⟨rfl, safe_startAt, rfl⟩

namespace Stays

open EStateM

variable {α β ε : Type} {msg : List α} {c : Cursor} {p : ℕ} {Q : β → Cursor → Prop}

theorem cast (hc : Stays n p handed c) {q : ℕ} (hq : p = q) : Stays n q handed c := hq ▸ hc

/-- The moves of the cursor and of the account. -/
theorem read (hc : Stays n p handed c) (hs : s.Inside n) :
    Stays n p handed ⟨c.pos, s :: c.reads, c.handed⟩ :=
  ⟨hc.pos, safe_read_iff.2 ⟨hs, hc.safe⟩, hc.handed⟩

theorem move (hc : Stays n p handed c) {q : ℕ} : Stays n q handed ⟨q, c.reads, c.handed⟩ :=
  ⟨rfl, safe_pos_iff.2 hc.safe, hc.handed⟩

theorem handOn (hc : Stays n p handed c) (hh : 0 ≤ h.len ∧ h.span.Inside n) :
    Stays n p (h :: handed) ⟨c.pos, c.reads, h :: c.handed⟩ :=
  ⟨hc.pos, safe_handed_iff.2 ⟨hh, hc.safe⟩, congrArg (h :: ·) hc.handed⟩

theorem octetAt [Inhabited α] {k : α → EStateM ε Cursor β} (hc : Stays n p handed c) (hi : i < n)
    (hk : ∀ c', Stays n p handed c' → wp (k (msg.getD i default)) Q (fun _ c ↦ c.Safe n) c') :
    wp (Cursor.octetAt msg i >>= k) Q (fun _ c ↦ c.Safe n) c := by
  rw [wp_bind, wp_octetAt]
  exact hk _ (hc.read (Span.inside_of_stop_le hi))

theorem next [Inhabited α] {k : α → EStateM ε Cursor β} (hc : Stays n p handed c) (hp : p < n)
    (hk : ∀ c', Stays n (p + 1) handed c' → wp (k (msg.getD p default)) Q (fun _ c ↦ c.Safe n) c') :
    wp (Cursor.next msg >>= k) Q (fun _ c ↦ c.Safe n) c := by
  obtain rfl := hc.pos
  rw [wp_bind, wp_next]
  exact hk _ (hc.read (s := ⟨c.pos, 1⟩) (Span.inside_of_stop_le hp)).move

theorem skip {k : Unit → EStateM ε Cursor β} {d : ℕ} (hc : Stays n p handed c)
    (hk : ∀ c', Stays n (p + d) handed c' → wp (k ()) Q (fun _ c ↦ c.Safe n) c') :
    wp (Cursor.skip d >>= k) Q (fun _ c ↦ c.Safe n) c := by
  rw [wp_bind, wp_skip]
  rw [hc.pos]
  exact hk _ hc.move

theorem here {k : ℕ → EStateM ε Cursor β} (hc : Stays n p handed c)
    (hk : wp (k p) Q (fun _ c ↦ c.Safe n) c) :
    wp (Cursor.here >>= k) Q (fun _ c ↦ c.Safe n) c := by
  obtain rfl := hc.pos
  rw [wp_bind, wp_here]
  exact hk

theorem slice {k : List α → EStateM ε Cursor β} (hc : Stays n p handed c) (hs : s.Inside n)
    (hk : ∀ c', Stays n p handed c' →
      wp (k ((msg.drop s.start).take s.len)) Q (fun _ c ↦ c.Safe n) c') :
    wp (Cursor.slice msg s >>= k) Q (fun _ c ↦ c.Safe n) c := by
  rw [wp_bind, wp_slice]
  exact hk _ (hc.read hs)

theorem hand {k : List α → EStateM ε Cursor β} (hc : Stays n p handed c)
    (hh : 0 ≤ h.len ∧ h.span.Inside n)
    (hk : ∀ c', Stays n p (h :: handed) c' →
      wp (k ((msg.drop h.start).take h.len.toNat)) Q (fun _ c ↦ c.Safe n) c') :
    wp (Cursor.hand msg h >>= k) Q (fun _ c ↦ c.Safe n) c := by
  rw [wp_bind, wp_hand]
  exact hk _ (hc.handOn hh)

/-- A message that is refused leaves a safe account. -/
theorem refuse {k : Unit → EStateM ε Cursor β} {q : Prop} [Decidable q] {e : ε}
    (hc : Stays n p handed c) (hk : ¬ q → wp (k ()) Q (fun _ c ↦ c.Safe n) c) :
    wp (Cursor.refuse q e >>= k) Q (fun _ c ↦ c.Safe n) c := by
  rw [wp_bind, wp_refuse]
  exact ⟨fun _ ↦ hc.safe, hk⟩

theorem orThrow {γ : Type} {k : γ → EStateM ε Cursor β} {o : Option γ} {e : ε}
    (hc : Stays n p handed c) (hk : ∀ b, o = some b → wp (k b) Q (fun _ c ↦ c.Safe n) c) :
    wp (Cursor.orThrow o e >>= k) Q (fun _ c ↦ c.Safe n) c := by
  rw [wp_bind, wp_orThrow]
  exact ⟨fun _ ↦ hc.safe, hk⟩

end Stays

/-! ## Exactly when a program stays inside

Nothing is taken out of an account. Where one octet outside has been read the account is unsafe to
the end, and so each step gives a condition that is necessary too. -/

open EStateM in
/-- The account of a program is safe, however it ends. -/
abbrev SafeRun {α ε : Type} (n : ℕ) (m : EStateM ε Cursor α) (c : Cursor) : Prop :=
  wp m (fun _ c ↦ c.Safe n) (fun _ c ↦ c.Safe n) c

/-- From a position on, a program stays inside exactly under a condition. -/
def Exact {α ε : Type} (n p : ℕ) (m : EStateM ε Cursor α) (P : Prop) : Prop :=
  ∀ c, c.pos = p → (SafeRun n m c ↔ c.Safe n ∧ P)

namespace Exact

open EStateM

variable {α β ε : Type} {msg : List α} {p : ℕ} {P P' : Prop}

theorem safeRun_iff {m : EStateM ε Cursor β} (hm : Exact n p m P) :
    SafeRun n m (startAt p) ↔ P :=
  (hm (startAt p) rfl).trans (and_iff_right safe_startAt)

theorem congr {m : EStateM ε Cursor β} (hm : Exact n p m P) (hP : P ↔ P') : Exact n p m P' :=
  fun c hc ↦ (hm c hc).trans (and_congr_right fun _ ↦ hP)

theorem cast {m : EStateM ε Cursor β} {q : ℕ} (hq : p = q) (hm : Exact n q m P) : Exact n p m P :=
  hq ▸ hm

theorem pure (b : β) : Exact n p (Pure.pure b : EStateM ε Cursor β) True :=
  fun _ _ ↦ (and_iff_left trivial).symm

theorem octetAt [Inhabited α] {k : α → EStateM ε Cursor β}
    (hk : Exact n p (k (msg.getD i default)) P) :
    Exact n p (Cursor.octetAt msg i >>= k) (i < n ∧ P) := by
  intro c hc
  have hin : (⟨i, 1⟩ : Span).Inside n ↔ i < n := by simp [Span.inside_iff, Span.stop]
  rw [SafeRun, wp_bind, wp_octetAt]
  refine (hk ⟨c.pos, ⟨i, 1⟩ :: c.reads, c.handed⟩ hc).trans ?_
  rw [safe_read_iff, safe_pos_iff, hin, and_assoc, and_left_comm]

theorem next [Inhabited α] {k : α → EStateM ε Cursor β}
    (hk : Exact n (p + 1) (k (msg.getD p default)) P) :
    Exact n p (Cursor.next msg >>= k) (p < n ∧ P) := by
  rintro c rfl
  have hin : (⟨c.pos, 1⟩ : Span).Inside n ↔ c.pos < n := by simp [Span.inside_iff, Span.stop]
  rw [SafeRun, wp_bind, wp_next]
  refine (hk ⟨c.pos + 1, ⟨c.pos, 1⟩ :: c.reads, c.handed⟩ rfl).trans ?_
  rw [safe_read_iff, safe_pos_iff, hin, and_assoc, and_left_comm]

theorem slice {k : List α → EStateM ε Cursor β}
    (hk : Exact n p (k ((msg.drop s.start).take s.len)) P) :
    Exact n p (Cursor.slice msg s >>= k) (s.Inside n ∧ P) := by
  intro c hc
  rw [SafeRun, wp_bind, wp_slice]
  refine (hk ⟨c.pos, s :: c.reads, c.handed⟩ hc).trans ?_
  rw [safe_read_iff, safe_pos_iff, and_assoc, and_left_comm]

theorem hand {k : List α → EStateM ε Cursor β}
    (hk : Exact n p (k ((msg.drop h.start).take h.len.toNat)) P) :
    Exact n p (Cursor.hand msg h >>= k) ((0 ≤ h.len ∧ h.span.Inside n) ∧ P) := by
  intro c hc
  rw [SafeRun, wp_bind, wp_hand]
  refine (hk ⟨c.pos, c.reads, h :: c.handed⟩ hc).trans ?_
  rw [safe_handed_iff, safe_pos_iff, and_assoc, and_left_comm]

theorem skip {k : Unit → EStateM ε Cursor β} {d : ℕ} (hk : Exact n (p + d) (k ()) P) :
    Exact n p (Cursor.skip d >>= k) P := by
  rintro c rfl
  rw [SafeRun, wp_bind, wp_skip]
  refine (hk ⟨c.pos + d, c.reads, c.handed⟩ rfl).trans ?_
  rw [safe_pos_iff]

theorem here {k : ℕ → EStateM ε Cursor β} (hk : Exact n p (k p) P) :
    Exact n p (Cursor.here >>= k) P := by
  rintro c rfl
  rw [SafeRun, wp_bind, wp_here]
  exact hk c rfl

theorem refuse {k : Unit → EStateM ε Cursor β} {q : Prop} [Decidable q] {e : ε}
    (hk : ¬ q → Exact n p (k ()) P) : Exact n p (Cursor.refuse q e >>= k) (¬ q → P) := by
  intro c hc
  rw [SafeRun, wp_bind, wp_refuse]
  by_cases hq : q
  · simp [hq]
  · simpa [hq] using hk hq c hc

theorem orThrow {γ : Type} {k : γ → EStateM ε Cursor β} {o : Option γ} {e : ε} {P : γ → Prop}
    (hk : ∀ b, Exact n p (k b) (P b)) :
    Exact n p (Cursor.orThrow o e >>= k) (∀ b, o = some b → P b) := by
  intro c hc
  rw [SafeRun, wp_bind, wp_orThrow]
  cases o with
  | none => simp
  | some b => simpa using hk b c hc

end Exact

end Cursor
