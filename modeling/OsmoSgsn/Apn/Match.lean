import OsmoSgsn.Library.LastMost

/-!
# APN routing

The operator configures which GGSN serves which APN: each entry has a name, or a pattern `*suffix`,
and an IMSI prefix. `sgsn_apn_ctx_match` goes through the list once and keeps the entry found so far
with its two priorities, the length of its IMSI prefix and the length of its name.

The loop compares the priorities at different places, the first one before it looks at the name.
What it computes all the same is the last of the matching entries whose pair of priorities is
greatest (`sgsnApnCtxMatch_eq`), so the order of the list is seen only where two entries have the
same pair: a name and the pattern of that name.
-/

namespace OsmoSgsn.Apn

/-- A string of the source without its terminating zero. -/
abbrev Str := List Char

/-- `strcasecmp(a, b) == 0`. -/
def strcaseEq (a b : Str) : Bool := a.map Char.toLower == b.map Char.toLower

/-- `strncmp(a, b, n) == 0`. -/
def strnEq (a b : Str) (n : ℕ) : Bool := a.take n == b.take n

/-- `struct apn_ctx`; the GGSN by its number. -/
structure ApnCtx where
  name : Str
  imsiPrefix : Str
  ggsn : Option ℕ
  deriving DecidableEq, Repr

namespace ApnCtx

/-- `name_ref_start[0] == '*'`. -/
def isPattern (actx : ApnCtx) : Bool := actx.name.head? == some '*'

/-- The name, or what a pattern has after its star (`name_ref_start`). -/
def nameRef (actx : ApnCtx) : Str := if actx.isPattern then actx.name.tail else actx.name

/-- The name is the requested one, or its suffix for a pattern, ignoring case. -/
def NameMatches (actx : ApnCtx) (name : Str) : Prop :=
  if actx.isPattern then actx.nameRef.map Char.toLower <:+ name.map Char.toLower
  else actx.nameRef.map Char.toLower = name.map Char.toLower

/-- An entry applies to an APN name and an IMSI. -/
def Matches (actx : ApnCtx) (name imsi : Str) : Prop :=
  actx.imsiPrefix <+: imsi ∧ actx.NameMatches name

instance (actx : ApnCtx) (name : Str) : Decidable (actx.NameMatches name) :=
  inferInstanceAs (Decidable (if actx.isPattern then
    actx.nameRef.map Char.toLower <:+ name.map Char.toLower
    else actx.nameRef.map Char.toLower = name.map Char.toLower))

instance (actx : ApnCtx) (name imsi : Str) : Decidable (actx.Matches name imsi) :=
  inferInstanceAs (Decidable (actx.imsiPrefix <+: imsi ∧ actx.NameMatches name))

/-- The length of the IMSI prefix, then the length of the matched name. -/
def priority (actx : ApnCtx) : ℕ ×ₗ ℕ := toLex (actx.imsiPrefix.length, actx.nameRef.length)

/-- The priority of an entry that applies. -/
def key (name imsi : Str) (actx : ApnCtx) : WithBot (ℕ ×ₗ ℕ) :=
  if actx.Matches name imsi then ↑actx.priority else ⊥

end ApnCtx

/-! ## The loop -/

/-- What the loop of `sgsn_apn_ctx_match` carries. -/
structure MatchState where
  foundActx : Option ApnCtx
  imsiPrio : ℕ
  namePrio : ℕ
  deriving DecidableEq, Repr

/-- One round of the loop; every early result is a `continue`. -/
def matchRound (name imsi : Str) (s : MatchState) (actx : ApnCtx) : MatchState :=
  let nameReqLen := name.length
  let imsiRefLen := actx.imsiPrefix.length
  if ¬ strnEq actx.imsiPrefix imsi imsiRefLen then s
  else if imsiRefLen < s.imsiPrio then s
  else
    let nameRefLen := actx.nameRef.length
    if actx.isPattern ∧ nameRefLen > nameReqLen then s
    else if ¬ actx.isPattern ∧ nameRefLen ≠ nameReqLen then s
    else
      let nameMatchStart := name.drop (nameReqLen - nameRefLen)
      if ¬ strcaseEq nameMatchStart actx.nameRef then s
      -- lower priority, skip
      else if imsiRefLen = s.imsiPrio ∧ nameRefLen < s.namePrio then s
      else { foundActx := some actx, imsiPrio := imsiRefLen, namePrio := nameRefLen }

/-- `sgsn_apn_ctx_match` -/
def sgsnApnCtxMatch (apnList : List ApnCtx) (name imsi : Str) : Option ApnCtx :=
  (apnList.foldl (matchRound name imsi) ⟨none, 0, 0⟩).foundActx

/-- `sgsn_apn_ctx_allow_any_for_imsi` -/
def sgsnApnCtxAllowAnyForImsi (apnList : List ApnCtx) (imsi : Str) : Bool :=
  apnList.any fun actx ↦
    actx.imsiPrefix.length ≠ 0 && strnEq actx.imsiPrefix imsi actx.imsiPrefix.length &&
      actx.name == ['*']

/-! ## What a round does -/

theorem strnEq_length_iff {a b : Str} : strnEq a b a.length = true ↔ a <+: b := by
  rw [strnEq, beq_iff_eq, List.take_length, List.prefix_iff_eq_take]

theorem strcaseEq_iff {a b : Str} :
    strcaseEq a b = true ↔ a.map Char.toLower = b.map Char.toLower :=
  beq_iff_eq

/-- A suffix is what is left after dropping the rest. -/
theorem suffix_iff_drop {a b : Str} :
    a <:+ b ↔ a.length ≤ b.length ∧ b.drop (b.length - a.length) = a := by
  constructor
  · intro h
    exact ⟨h.length_le, (List.suffix_iff_eq_drop.mp h).symm⟩
  · rintro ⟨-, h⟩
    exact List.suffix_iff_eq_drop.mpr h.symm

/-- The length and name checks of the loop are what matching a name means. -/
theorem nameMatches_iff (actx : ApnCtx) (name : Str) :
    actx.NameMatches name ↔
      ¬ (actx.isPattern ∧ actx.nameRef.length > name.length) ∧
      ¬ (¬ actx.isPattern ∧ actx.nameRef.length ≠ name.length) ∧
      strcaseEq (name.drop (name.length - actx.nameRef.length)) actx.nameRef := by
  rw [ApnCtx.NameMatches, strcaseEq_iff, List.map_drop]
  by_cases hpattern : actx.isPattern
  · rw [if_pos hpattern, suffix_iff_drop]
    simp [hpattern]
  · rw [if_neg hpattern]
    constructor
    · intro heq
      have hlen : actx.nameRef.length = name.length := by simpa using congrArg List.length heq
      simp [hpattern, hlen, heq]
    · rintro ⟨-, hlen, heq⟩
      have hlen' : actx.nameRef.length = name.length := by simpa [hpattern] using hlen
      rw [hlen', Nat.sub_self, List.drop_zero] at heq
      exact heq.symm

/-- An entry that does not apply is skipped. -/
theorem matchRound_of_not_matches {name imsi : Str} {actx : ApnCtx} (s : MatchState)
    (hnot : ¬ actx.Matches name imsi) : matchRound name imsi s actx = s := by
  rw [ApnCtx.Matches, nameMatches_iff, ← strnEq_length_iff] at hnot
  -- an entry that gets past every check applies
  simp only [matchRound, ite_eq_left_iff, not_not]
  intro himsi _ hlong hlen hname _
  exact absurd ⟨himsi, hlong, hlen, hname⟩ hnot

/-- One that applies is taken unless its priorities are lower. -/
theorem matchRound_of_matches {name imsi : Str} {actx : ApnCtx} (s : MatchState)
    (hmatch : actx.Matches name imsi) :
    matchRound name imsi s actx =
      if actx.priority < toLex (s.imsiPrio, s.namePrio) then s
      else ⟨some actx, actx.imsiPrefix.length, actx.nameRef.length⟩ := by
  rw [ApnCtx.Matches, nameMatches_iff, ← strnEq_length_iff] at hmatch
  obtain ⟨himsi, hlong, hlen, hname⟩ := hmatch
  simp only [matchRound, ApnCtx.priority, Prod.Lex.toLex_lt_toLex]
  rw [if_neg (not_not_intro himsi), if_neg hlong, if_neg hlen, if_neg (not_not_intro hname)]
  by_cases hlt : actx.imsiPrefix.length < s.imsiPrio
  · simp [hlt]
  · simp [hlt]

/-! ## What the loop finds -/

theorem key_ne_bot_iff {name imsi : Str} {actx : ApnCtx} :
    actx.key name imsi ≠ ⊥ ↔ actx.Matches name imsi := by
  rw [ApnCtx.key]
  split
  · next hmatch => simp [hmatch]
  · next hnot => simp [hnot]

/-- The state of the loop after the entries of a list. -/
structure Carries (name imsi : Str) (l : List ApnCtx) (s : MatchState) : Prop where
  found : s.foundActx = lastMost (ApnCtx.key name imsi) l
  priority : ∀ actx ∈ s.foundActx, actx.priority = toLex (s.imsiPrio, s.namePrio)
  start : s.foundActx = none → s.imsiPrio = 0 ∧ s.namePrio = 0

theorem Carries.round {name imsi : Str} {l : List ApnCtx} {s : MatchState}
    (hs : Carries name imsi l s) (actx : ApnCtx) :
    Carries name imsi (l ++ [actx]) (matchRound name imsi s actx) := by
  by_cases hmatch : actx.Matches name imsi
  · have hkey : actx.key name imsi = ↑actx.priority := if_pos hmatch
    rw [matchRound_of_matches s hmatch]
    split
    · next hlt =>
      -- something was found, for no priority is below the first
      rcases hfound : s.foundActx with _ | found
      · obtain ⟨himsi, hname⟩ := hs.start hfound
        simp [ApnCtx.priority, Prod.Lex.toLex_lt_toLex, himsi, hname] at hlt
      · have hmem : found ∈ lastMost (ApnCtx.key name imsi) l := by rw [← hs.found]; exact hfound
        have hfmatch := key_ne_bot_iff.mp (key_ne_bot_of_mem_lastMost hmem)
        have hfkey : found.key name imsi = ↑found.priority := if_pos hfmatch
        refine ⟨?_, hs.priority, hs.start⟩
        rw [hfound]
        refine (lastMost_concat_of_lt hmem ?_).symm
        rw [hkey, hfkey, WithBot.coe_lt_coe, hs.priority found hfound]
        exact hlt
    · next hge =>
      refine ⟨?_, ?_, by simp⟩
      · refine (lastMost_concat_of_le (by simp [hkey]) ?_).symm
        intro found hmem
        rw [← hs.found] at hmem
        rw [hkey, ApnCtx.key]
        split
        · rw [WithBot.coe_le_coe, hs.priority found hmem]
          exact not_lt.mp hge
        · exact bot_le
      · intro found hfound
        rw [Option.mem_some_iff] at hfound
        rw [← hfound, ApnCtx.priority]
  · rw [matchRound_of_not_matches s hmatch]
    have hkey : actx.key name imsi = ⊥ := if_neg hmatch
    exact ⟨by rw [lastMost_concat_of_bot hkey, hs.found], hs.priority, hs.start⟩

theorem carries_foldl (name imsi : Str) (l : List ApnCtx) :
    Carries name imsi l (l.foldl (matchRound name imsi) ⟨none, 0, 0⟩) := by
  induction l using List.reverseRecOn with
  | nil => exact ⟨rfl, by simp, by simp⟩
  | append_singleton l actx ih =>
    rw [List.foldl_append, List.foldl_cons, List.foldl_nil]
    exact ih.round actx

theorem sgsnApnCtxMatch_eq (apnList : List ApnCtx) (name imsi : Str) :
    sgsnApnCtxMatch apnList name imsi = lastMost (ApnCtx.key name imsi) apnList :=
  (carries_foldl name imsi apnList).found

/-- An entry that applies and that no entry that applies precedes. -/
structure Best (apnList : List ApnCtx) (name imsi : Str) (actx : ApnCtx) : Prop where
  mem : actx ∈ apnList
  applies : actx.Matches name imsi
  greatest : ∀ other ∈ apnList, other.Matches name imsi → other.priority ≤ actx.priority

theorem best_of_mem_lastMost {apnList : List ApnCtx} {name imsi : Str} {actx : ApnCtx}
    (hfound : actx ∈ lastMost (ApnCtx.key name imsi) apnList) : Best apnList name imsi actx := by
  have hmatch := key_ne_bot_iff.mp (key_ne_bot_of_mem_lastMost hfound)
  refine ⟨mem_of_mem_lastMost hfound, hmatch, fun other hother homatch ↦ ?_⟩
  have hle := key_le_of_mem_lastMost hfound hother
  rwa [ApnCtx.key, if_pos homatch, ApnCtx.key, if_pos hmatch, WithBot.coe_le_coe] at hle

/-- The entry that `sgsn_apn_ctx_match` finds is the most specific one that applies. -/
theorem sgsnApnCtxMatch_most_specific (apnList : List ApnCtx) (name imsi : Str) :
    (sgsnApnCtxMatch apnList name imsi = none ↔ ∀ actx ∈ apnList, ¬ actx.Matches name imsi) ∧
    ∀ actx, sgsnApnCtxMatch apnList name imsi = some actx →
      actx ∈ apnList ∧ actx.Matches name imsi ∧
      ∀ other ∈ apnList, other.Matches name imsi →
        toLex (other.imsiPrefix.length, other.nameRef.length) ≤
          toLex (actx.imsiPrefix.length, actx.nameRef.length) := by
  rw [sgsnApnCtxMatch_eq]
  constructor
  · rw [lastMost_eq_none]
    refine forall₂_congr fun actx _ ↦ ?_
    rw [← not_iff_not, not_not, ← ne_eq, key_ne_bot_iff]
  · intro actx hfound
    have hbest := best_of_mem_lastMost hfound
    exact ⟨hbest.mem, hbest.applies, hbest.greatest⟩

/-- The IMSI prefix goes before the name. -/
example : sgsnApnCtxMatch [⟨"*.test".toList, [], some 0⟩, ⟨"*.def.test".toList, [], some 1⟩,
    ⟨"abc.def.test".toList, [], some 2⟩, ⟨"*.def.test".toList, "456".toList, some 6⟩]
    "aBc.def.test".toList "45699900".toList =
    some ⟨"*.def.test".toList, "456".toList, some 6⟩ := by decide

/-! ## The order of the configuration -/

/-- Two entries with the same name ignoring case, and the same IMSI prefix. -/
def SameEntry (actx other : ApnCtx) : Prop :=
  actx.name.map Char.toLower = other.name.map Char.toLower ∧ actx.imsiPrefix = other.imsiPrefix

instance (actx other : ApnCtx) : Decidable (SameEntry actx other) :=
  inferInstanceAs (Decidable (actx.name.map Char.toLower = other.name.map Char.toLower ∧
    actx.imsiPrefix = other.imsiPrefix))

/-- A name and the pattern of that name, for the same IMSI prefix. -/
structure NameAndPattern (exact pattern : ApnCtx) : Prop where
  isName : exact.isPattern = false
  isPattern : pattern.isPattern = true
  sameName : exact.nameRef.map Char.toLower = pattern.nameRef.map Char.toLower
  samePrefix : exact.imsiPrefix = pattern.imsiPrefix

/-- No entry precedes these two, of which one is a name and the other the pattern of it. -/
structure Tied (apnList : List ApnCtx) (name imsi : Str) (exact pattern : ApnCtx) : Prop where
  pair : NameAndPattern exact pattern
  bestExact : Best apnList name imsi exact
  bestPattern : Best apnList name imsi pattern

theorem name_eq_of_isPattern {actx : ApnCtx} (h : actx.isPattern = true) :
    actx.name = '*' :: actx.nameRef := by
  rw [ApnCtx.nameRef, if_pos h]
  rw [ApnCtx.isPattern, beq_iff_eq] at h
  exact (List.cons_head?_tail h).symm

theorem name_eq_of_not_isPattern {actx : ApnCtx} (h : actx.isPattern = false) :
    actx.name = actx.nameRef := by
  rw [ApnCtx.nameRef, if_neg (by simp [h])]

/-- Entries that apply and have the same priority have the same prefix and the same name, up to the
star. -/
theorem same_of_priority_eq {name imsi : Str} {actx other : ApnCtx} (ha : actx.Matches name imsi)
    (ho : other.Matches name imsi) (heq : actx.priority = other.priority) :
    actx.nameRef.map Char.toLower = other.nameRef.map Char.toLower ∧
      actx.imsiPrefix = other.imsiPrefix := by
  have hlens : actx.imsiPrefix.length = other.imsiPrefix.length ∧
      actx.nameRef.length = other.nameRef.length := by
    simpa [ApnCtx.priority] using heq
  have hsuffix : ∀ e : ApnCtx, e.Matches name imsi →
      e.nameRef.map Char.toLower <:+ name.map Char.toLower := by
    rintro e ⟨-, hname⟩
    rw [ApnCtx.NameMatches] at hname
    split at hname
    · exact hname
    · exact hname ▸ List.suffix_rfl
  constructor
  · have hlen : (actx.nameRef.map Char.toLower).length =
        (other.nameRef.map Char.toLower).length := by
      simpa using hlens.2
    have hle := List.suffix_of_suffix_length_le (hsuffix actx ha) (hsuffix other ho) hlen.le
    exact hle.eq_of_length hlen
  · exact (List.prefix_of_prefix_length_le ha.1 ho.1 hlens.1.le).eq_of_length hlens.1

theorem Best.priority_eq {apnList : List ApnCtx} {name imsi : Str} {actx other : ApnCtx}
    (ha : Best apnList name imsi actx) (ho : Best apnList name imsi other) :
    actx.priority = other.priority :=
  le_antisymm (ho.greatest actx ha.mem ha.applies) (ha.greatest other ho.mem ho.applies)

/-- Two entries that nothing precedes are the same one or tied. -/
theorem sameEntry_or_tied {apnList : List ApnCtx} {name imsi : Str} {actx other : ApnCtx}
    (ha : Best apnList name imsi actx) (ho : Best apnList name imsi other) :
    SameEntry actx other ∨ Tied apnList name imsi actx other ∨
      Tied apnList name imsi other actx := by
  obtain ⟨hname, hprefix⟩ := same_of_priority_eq ha.applies ho.applies (ha.priority_eq ho)
  cases hap : actx.isPattern <;> cases hop : other.isPattern
  · refine .inl ⟨?_, hprefix⟩
    rw [name_eq_of_not_isPattern hap, name_eq_of_not_isPattern hop, hname]
  · exact .inr (.inl ⟨⟨hap, hop, hname, hprefix⟩, ha, ho⟩)
  · exact .inr (.inr ⟨⟨hop, hap, hname.symm, hprefix.symm⟩, ho, ha⟩)
  · refine .inl ⟨?_, hprefix⟩
    rw [name_eq_of_isPattern hap, name_eq_of_isPattern hop, List.map_cons, List.map_cons, hname]

theorem eq_of_sameEntry {apnList : List ApnCtx}
    (hdist : apnList.Pairwise fun actx other ↦ ¬ SameEntry actx other) {actx other : ApnCtx}
    (ha : actx ∈ apnList) (ho : other ∈ apnList) (hsame : SameEntry actx other) : actx = other := by
  by_contra hne
  have : Std.Symm fun actx other ↦ ¬ SameEntry actx other :=
    ⟨fun _ _ h hsame ↦ h ⟨hsame.1.symm, hsame.2.symm⟩⟩
  exact hdist.forall ha ho hne hsame

theorem Best.perm {l l' : List ApnCtx} {name imsi : Str} {actx : ApnCtx} (hperm : l.Perm l')
    (hbest : Best l name imsi actx) : Best l' name imsi actx :=
  ⟨hperm.mem_iff.mp hbest.mem, hbest.applies,
    fun other hother ↦ hbest.greatest other (hperm.mem_iff.mpr hother)⟩

/-- Nothing else is at the top of a tie. -/
theorem Tied.eq_or_eq {l : List ApnCtx} {name imsi : Str} {exact pattern found : ApnCtx}
    (htied : Tied l name imsi exact pattern)
    (hdist : l.Pairwise fun actx other ↦ ¬ SameEntry actx other)
    (hfound : Best l name imsi found) : found = exact ∨ found = pattern := by
  rcases sameEntry_or_tied hfound htied.bestExact with hsame | hother | hother
  · exact .inl (eq_of_sameEntry hdist hfound.mem htied.bestExact.mem hsame)
  · exact absurd hother.pair.isPattern (by simp [htied.pair.isName])
  · refine .inr (eq_of_sameEntry hdist hfound.mem htied.bestPattern.mem ?_)
    rcases sameEntry_or_tied hfound htied.bestPattern with hsame | hfirst | hfirst
    · exact hsame
    · exact absurd hother.pair.isPattern (by simp [hfirst.pair.isName])
    · exact absurd htied.pair.isPattern (by simp [hfirst.pair.isName])

/-- With a tie at the top, the one of the two that comes later is found. -/
theorem sgsnApnCtxMatch_of_tied {l : List ApnCtx} {name imsi : Str} {exact pattern : ApnCtx}
    (hdist : l.Pairwise fun actx other ↦ ¬ SameEntry actx other)
    (htied : Tied l name imsi exact pattern) :
    sgsnApnCtxMatch l name imsi =
      some (if l.idxOf exact < l.idxOf pattern then pattern else exact) := by
  have hkey : ∀ e, Best l name imsi e → e.key name imsi = ↑e.priority :=
    fun e he ↦ if_pos he.applies
  rw [sgsnApnCtxMatch_eq]
  rcases hfound : lastMost (ApnCtx.key name imsi) l with _ | found
  · have hbot := lastMost_eq_none.mp hfound exact htied.bestExact.mem
    exact absurd htied.bestExact.applies (mt key_ne_bot_iff.mpr (not_not_intro hbot))
  · have hbest := best_of_mem_lastMost hfound
    have hnodup : l.Nodup := by
      refine hdist.imp fun {actx other} hnot heq ↦ hnot ?_
      rw [heq]
      exact ⟨rfl, rfl⟩
    -- the other of the two is not after the one found, for their priorities are the same
    have hbefore : ∀ e, Best l name imsi e → e ≠ found → l.idxOf e < l.idxOf found := by
      intro e he hne
      apply idxOf_lt_of_mem_lastMost hnodup hfound he.mem _ hne
      rw [hkey e he, hkey found hbest, he.priority_eq hbest]
    rcases htied.eq_or_eq hdist hbest with rfl | rfl
    · have hne : pattern ≠ found := by
        rintro rfl
        simpa [htied.pair.isName] using htied.pair.isPattern
      rw [if_neg (hbefore pattern htied.bestPattern hne).not_gt]
    · have hne : exact ≠ found := by
        rintro rfl
        simpa [htied.pair.isName] using htied.pair.isPattern
      rw [if_pos (hbefore exact htied.bestExact hne)]

theorem Tied.perm {l l' : List ApnCtx} {name imsi : Str} {exact pattern : ApnCtx}
    (hperm : l.Perm l') (htied : Tied l name imsi exact pattern) :
    Tied l' name imsi exact pattern :=
  ⟨htied.pair, htied.bestExact.perm hperm, htied.bestPattern.perm hperm⟩

/-- The order of the configuration matters where a name and its own pattern are tied at the top,
and there the later of the two is found. -/
theorem sgsnApnCtxMatch_perm (l l' : List ApnCtx) (name imsi : Str)
    (hdist : l.Pairwise fun actx other ↦ ¬ SameEntry actx other) (hperm : l.Perm l') :
    ((∀ exact pattern, ¬ Tied l name imsi exact pattern) →
      sgsnApnCtxMatch l' name imsi = sgsnApnCtxMatch l name imsi) ∧
    ∀ exact pattern, Tied l name imsi exact pattern →
      sgsnApnCtxMatch l' name imsi =
        some (if l'.idxOf exact < l'.idxOf pattern then pattern else exact) := by
  constructor
  · intro hnone
    rw [sgsnApnCtxMatch_eq, sgsnApnCtxMatch_eq]
    refine lastMost_perm hperm fun found hfound other hother hkey ↦ ?_
    have hbest := best_of_mem_lastMost hfound
    have homatch : other.Matches name imsi := by
      rw [← key_ne_bot_iff, hkey]
      exact key_ne_bot_of_mem_lastMost hfound
    have hprio : other.priority = found.priority := by
      rwa [ApnCtx.key, if_pos homatch, ApnCtx.key, if_pos hbest.applies, WithBot.coe_inj] at hkey
    have hobest : Best l name imsi other :=
      ⟨hother, homatch, fun e he hmatch ↦ hprio ▸ hbest.greatest e he hmatch⟩
    rcases sameEntry_or_tied hobest hbest with hsame | htied | htied
    · exact eq_of_sameEntry hdist hother hbest.mem hsame
    · exact absurd htied (hnone _ _)
    · exact absurd htied (hnone _ _)
  · intro exact pattern htied
    refine sgsnApnCtxMatch_of_tied ?_ (htied.perm hperm)
    exact hdist.perm hperm fun h hsame ↦ h ⟨hsame.1.symm, hsame.2.symm⟩

/-- The entries "abc" and "*abc". -/
def abcEntry : ApnCtx := ⟨['a', 'b', 'c'], [], some 1⟩

@[inherit_doc abcEntry] def abcPattern : ApnCtx := ⟨['*', 'a', 'b', 'c'], [], some 2⟩

/-- The entries "abc" and "*abc" in both orders. -/
theorem sgsnApnCtxMatch_perm_abc :
    sgsnApnCtxMatch [abcPattern, abcEntry] ['a', 'b', 'c'] [] =
      some (if [abcPattern, abcEntry].idxOf abcEntry < [abcPattern, abcEntry].idxOf abcPattern
        then abcPattern else abcEntry) :=
  (sgsnApnCtxMatch_perm [abcEntry, abcPattern] [abcPattern, abcEntry] ['a', 'b', 'c'] [] (by decide)
    (List.Perm.swap _ _ _)).2 abcEntry abcPattern
    ⟨⟨by decide, by decide, by decide, by decide⟩, ⟨by decide, by decide, by decide⟩,
      ⟨by decide, by decide, by decide⟩⟩

/-- The same entries are found in a different order of the configuration, and not the same one. -/
theorem sgsnApnCtxMatch_not_perm :
    [abcEntry, abcPattern].Pairwise (fun actx other ↦ ¬ SameEntry actx other) ∧
      [abcEntry, abcPattern].Perm [abcPattern, abcEntry] ∧
      sgsnApnCtxMatch [abcEntry, abcPattern] ['a', 'b', 'c'] [] = some abcPattern ∧
      sgsnApnCtxMatch [abcPattern, abcEntry] ['a', 'b', 'c'] [] = some abcEntry :=
  ⟨by decide, List.Perm.swap _ _ _, by decide, by decide⟩

end OsmoSgsn.Apn
