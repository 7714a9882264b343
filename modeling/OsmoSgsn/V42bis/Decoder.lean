import OsmoSgsn.V42bis.Encoder

/-!
# What the decompressor does with it

Each round of the decompressor that matters here takes octets of its input. What several rounds do
is a chain of them, so what the compressor sends may be followed piece by piece.
-/

namespace OsmoSgsn.V42bis

/-! ## Rounds -/

section Rounds

/-- A round that takes at least one octet. -/
def Round (x y : CompState × Bytes) : Prop :=
  ∃ o buf, x.2 = o :: buf ∧ decompressRound x.1 o buf = .ok y ∧ y.2.length < x.2.length

/-- Some rounds. -/
def Decodes : CompState × Bytes → CompState × Bytes → Prop := Relation.ReflTransGen Round

theorem Decodes.single {x y : CompState × Bytes} (h : Round x y) : Decodes x y :=
  Relation.ReflTransGen.single h

/-- **The loop ends where the rounds lead.** -/
theorem decompressLoop_of_decodes {d d' : CompState} {buf : Bytes} (h : Decodes (d, buf) (d', []))
    {fuel : ℕ} (hfuel : buf.length ≤ fuel) : decompressLoop fuel d buf = .ok d' := by
  generalize hx : (d, buf) = x at h
  generalize hy : (d', ([] : Bytes)) = y at h
  induction h using Relation.ReflTransGen.head_induction_on generalizing d buf fuel with
  | refl =>
    obtain ⟨rfl, rfl⟩ := Prod.mk.inj (hx.trans hy.symm)
    cases fuel <;> rfl
  | head hround _ ih =>
    subst hx
    obtain ⟨o, rest, hbuf, hdecomp, hlt⟩ := hround
    obtain rfl : buf = o :: rest := hbuf
    obtain ⟨fuel, rfl⟩ := Nat.exists_eq_add_one_of_ne_zero (Nat.ne_zero_of_lt hfuel)
    rename_i z _
    rw [decompressLoop, hdecomp]
    have hleft : z.2.length ≤ fuel := by
      have := hlt
      simp only [List.length_cons] at *
      omega
    exact ih hleft rfl

end Rounds

/-! ## Additions -/

section Update

variable {t t' : Dictionary} {u u' a b a' : ℕ} {o : UInt8} {s : CompState}

/-- What becomes of the dictionary, and of the entry that was added last, when an octet comes that
an entry waits for. -/
inductive Update (t : Dictionary) (u a : ℕ) (o : UInt8) : Dictionary → ℕ → Prop
  | kept (h : u = 0 ∨ ∃ r, matchOctet t.dict u o = .ok r ∧ r ≠ 0) : Update t u a o t a
  | added {t' : Dictionary} (hu : u ≠ 0) (hmatch : matchOctet t.dict u o = .ok 0)
    (hadd : addOctetToDictionary t u o = .ok (t.c1, t'))
    (hadded : Added t.dict t'.dict t.c1 t'.c1) : Update t u a o t' t.c1

/-- An entry may wait for an octet that it has already. -/
theorem Update.pending (h : Update t u a o t' a')
    (hu : u' = u ∨ u = 0 ∧ ∃ r, matchOctet t.dict u' o = .ok r ∧ r ≠ 0) (b : ℕ) :
    ∃ b', Update t u' b o t' b' ∧ (b = a → b' = a') := by
  rcases hu with rfl | ⟨rfl, hmatch⟩
  · cases h with
    | kept h => exact ⟨b, .kept h, fun h ↦ h⟩
    | added hu hmatch hadd hadded => exact ⟨t.c1, .added hu hmatch hadd hadded, fun _ ↦ rfl⟩
  · cases h with
    | kept h => exact ⟨b, .kept (.inr hmatch), fun h ↦ h⟩
    | added hu _ _ _ => exact absurd rfl hu

theorem updateDictionary_of_update (h : Update s.toDictionary s.updateAt s.lastAdded o t a) :
    updateDictionary s o =
      .ok { s with toDictionary := t, lastAdded := a, updateAt := 0 } := by
  unfold updateDictionary
  cases h with
  | kept h =>
    split
    · rename_i h0
      rw [← h0]
    · rename_i h0
      obtain ⟨r, hr, hne⟩ := h.resolve_left h0
      rw [hr]
      exact if_neg hne
  | added hu hmatch hadd _ =>
    rw [if_neg hu, hmatch]
    change (addOctetToDictionary s.toDictionary s.updateAt o >>= fun r ↦
      pure { s with toDictionary := r.2, lastAdded := r.1, updateAt := 0 }) = _
    rw [hadd]
    rfl

/-- **An octet is added where it is missing.** -/
theorem Dictionary.Sound.update (h : t.Sound) (hu : u = 0 ∨ ∃ w, Spells t.dict t.c1 u w) (a : ℕ)
    (o : UInt8) : ∃ t' a', Update t u a o t' a' ∧ t'.Sound ∧ t'.n2 = t.n2 := by
  rcases hu with h0 | ⟨w, hw⟩
  · exact ⟨t, a, .kept (.inl h0), h, rfl⟩
  · obtain ⟨r, hr, -, -⟩ := h.forest.matchOctet h.lt u o
    by_cases h0 : r = 0
    · obtain ⟨dict, next, hadd, hsound, hadded⟩ := h.addOctetToDictionary hw o
      exact ⟨_, t.c1, .added hw.ne_zero (h0 ▸ hr) hadd hadded, hsound, rfl⟩
    · exact ⟨t, a, .kept (.inr ⟨r, hr, h0⟩), h, rfl⟩

end Update

/-! ## Octets in transparent mode -/

section Octets

variable {d d' : CompState} {o : UInt8} {r c : ℕ} {w rest : Bytes}

theorem takeOctet_of_taken (h : takeOnce d o = .ok (d', true)) :
    takeOctet d o = .ok (d', true) := by
  unfold takeOctet
  rw [h]
  rfl

/-- An octet that is taken, with the next escape octet. -/
theorem decodes_escape (htransparent : d.transparent = true) (hescaped : d.escaped = false)
    (h : takeOctet { d with escapeCode := nextEscape d.escapeCode o } o = .ok (d', true))
    (rest : Bytes) : Decodes (d, escape d.escapeCode o ++ rest) (d', rest) := by
  unfold nextEscape at h
  unfold escape
  split
  · rename_i heq
    rw [if_pos heq] at h
    subst heq
    have hfirst : Round (d, d.escapeCode :: eid :: rest)
        ({ d with escaped := true }, eid :: rest) := by
      refine ⟨d.escapeCode, eid :: rest, rfl, ?_, by simp⟩
      unfold decompressRound
      rw [if_pos htransparent, if_neg (by rw [hescaped]; decide), if_pos rfl]
    have hsecond : Round ({ d with escaped := true }, eid :: rest) (d', rest) := by
      refine ⟨eid, rest, rfl, ?_, by simp⟩
      unfold decompressRound
      rw [if_pos htransparent, if_pos rfl, if_neg (by decide), if_pos rfl]
      dsimp only
      rw [← hescaped, h]
      rfl
    exact (Decodes.single hfirst).trans (Decodes.single hsecond)
  · rename_i hne
    rw [if_neg hne] at h
    refine Decodes.single ⟨o, rest, rfl, ?_, by simp⟩
    unfold decompressRound
    rw [if_pos htransparent, if_neg (by rw [hescaped]; decide), if_neg hne, h]
    rfl

theorem takeOnce_next (hupdate : d.updateAt = 0)
    (hmatch : matchOctet d.dict d.lastMatched o = .ok r) (h0 : r ≠ 0) (hne : r ≠ d.lastAdded) :
    takeOnce d o = .ok (if (d.string ++ [o]).length + d.flushedLength = d.n7 then
        ({ sendString { d with lastMatched := r, string := d.string ++ [o] } with
          lastMatched := 0 }, true)
      else ({ d with lastMatched := r, string := d.string ++ [o] }, true)) := by
  unfold takeOnce updateDictionary
  rw [if_pos hupdate]
  change (matchOctet d.dict d.lastMatched o >>= _) = _
  rw [hmatch]
  change (if r = 0 then _ else if r = d.lastAdded then _ else _) = _
  rw [if_neg h0, if_neg hne]
  dsimp only
  split <;> rfl

/-- A string is over at the length of the longest. -/
def Full (d d' : CompState) (w : Bytes) : Prop :=
  Sends { d with
    lastMatched := 0
    escapeCode := w.foldl nextEscape d.escapeCode
    string := []
    flushedLength := 0 } d' (d.string ++ w)

theorem sends_sendString (hmax : 0 < d.maxOutputLen) :
    Sends { d with string := [], flushedLength := 0 } (sendString d) d.string := by
  obtain ⟨handled, buf, hout, hpush⟩ := sends_pushOctets hmax d.string
  unfold sendString
  rw [hpush]
  exact ⟨handled, buf, hout, rfl⟩

/-- **A string that the dictionary knows is followed down its way.** -/
theorem decodes_escapes (htransparent : d.transparent = true) (hescaped : d.escaped = false)
    (hupdate : d.updateAt = 0) (hflushed : d.flushedLength = 0) (hmax : 0 < d.maxOutputLen)
    (htrail : Trail d.dict d.lastAdded d.lastMatched w c) (rest : Bytes) :
    ((d.string ++ w).length < d.n7 → Decodes (d, escapes d.escapeCode w ++ rest)
      ({ d with
        lastMatched := c
        string := d.string ++ w
        escapeCode := w.foldl nextEscape d.escapeCode }, rest)) ∧
    ((d.string ++ w).length = d.n7 → w ≠ [] → ∃ d', Full d d' w ∧
      Decodes (d, escapes d.escapeCode w ++ rest) (d', rest)) := by
  generalize ha : d.lastMatched = a at htrail
  generalize hdict : d.dict = dict at htrail
  generalize hadded : d.lastAdded = added at htrail
  induction htrail generalizing d with
  | nil a =>
    refine ⟨fun _ ↦ ?_, fun _ hne ↦ absurd rfl hne⟩
    subst ha hdict hadded
    rw [List.append_nil]
    exact Relation.ReflTransGen.refl
  | @cons a r c o w hmatch h0 hne htrail ih =>
    subst ha hdict hadded
    have honce := takeOnce_next (d := { d with escapeCode := nextEscape d.escapeCode o })
      hupdate hmatch h0 hne
    have hlength : (d.string ++ o :: w).length = (d.string ++ [o]).length + w.length := by
      simp only [List.length_append, List.length_cons, List.length_nil]
      omega
    have happend : d.string ++ [o] ++ w = d.string ++ o :: w := by simp
    rw [escapes, List.append_assoc]
    by_cases hfull : (d.string ++ [o]).length = d.n7
    · refine ⟨fun hlt ↦ by omega, fun heq _ ↦ ?_⟩
      obtain rfl : w = [] := List.length_eq_zero_iff.mp (by omega)
      rw [if_pos (by dsimp only; rw [hflushed]; exact hfull)] at honce
      obtain ⟨handled, buf, hout, hsend⟩ := sends_sendString
        (d := { d with
          escapeCode := nextEscape d.escapeCode o, lastMatched := r, string := d.string ++ [o] })
        hmax
      refine ⟨_, ?_, decodes_escape htransparent hescaped (takeOctet_of_taken honce) rest⟩
      rw [hsend]
      exact ⟨handled, buf, hout, rfl⟩
    · rw [if_neg (by dsimp only; rw [hflushed]; exact hfull)] at honce
      have hfirst := decodes_escape htransparent hescaped (takeOctet_of_taken honce)
        (escapes (nextEscape d.escapeCode o) w ++ rest)
      obtain ⟨hopen, hover⟩ := ih (d := { d with
        escapeCode := nextEscape d.escapeCode o, lastMatched := r, string := d.string ++ [o] })
        htransparent hescaped hupdate hflushed hmax rfl rfl rfl
      simp only [happend, Full] at hopen hover
      refine ⟨fun hlt ↦ hfirst.trans (hopen hlt), fun heq _ ↦ ?_⟩
      have hw : w ≠ [] := by
        rintro rfl
        exact hfull heq
      obtain ⟨d', hd', hdecodes⟩ := hover heq hw
      exact ⟨d', hd', hfirst.trans hdecodes⟩

end Octets

/-! ## Codewords -/

section Codes

open BitPacking

variable {d : CompState} {code : ℕ} {w rest : Bytes}

theorem fillBits_eq (hlt : d.bitBuffer < 2 ^ d.bitCount) (hwidth : d.c2 ≤ 24) (buf : Bytes) :
    fillBits d buf = ({ d with
      bitBuffer := (fill d.c2 d.bitBuffer d.bitCount buf).1
      bitCount := (fill d.c2 d.bitBuffer d.bitCount buf).2.1 },
      (fill d.c2 d.bitBuffer d.bitCount buf).2.2) := by
  induction buf generalizing d with
  | nil => rfl
  | cons o buf ih =>
    rw [fillBits, fill]
    split
    · rename_i hcount
      have ho := packed_lt hlt (show o.toNat < 2 ^ 8 from o.toNat_lt)
      have hpow : (2 : ℕ) ^ (d.bitCount + 8) ≤ 2 ^ 32 :=
        Nat.pow_le_pow_right (by decide) (by omega)
      rw [or_shiftLeft hlt, Nat.mod_eq_of_lt (ho.trans_le hpow)]
      exact ih ho hwidth
    · rfl

/-- **A codeword is read as it was written.** -/
theorem decompressRound_code {wbuffer wcount n : ℕ} {stream : Bytes}
    (htransparent : d.transparent = false) (hn : 8 * n ≤ wcount + d.c2) (hlow : 9 ≤ d.c2)
    (hwidth : d.c2 ≤ 16) (hcode : code < 2 ^ d.c2)
    (hstep : InStep wbuffer wcount (octets n (wbuffer + code * 2 ^ wcount) ++ stream) d.bitBuffer
      d.bitCount rest)
    (hstarts : Starts ((wbuffer + code * 2 ^ wcount) / 256 ^ n) (wcount + d.c2 - 8 * n) stream) :
    ∃ buffer count rest',
      InStep ((wbuffer + code * 2 ^ wcount) / 256 ^ n) (wcount + d.c2 - 8 * n) stream buffer count
        rest' ∧
      ∀ d', (if code < n6 then takeControl { d with bitBuffer := buffer, bitCount := count } code
          else takeCode { d with bitBuffer := buffer, bitCount := count } code) = .ok d' →
        Round (d, rest) (d', rest') := by
  obtain ⟨r, hfill, henough, hread, hstep'⟩ := hstep.read hn hcode hstarts
  have hless : r.2.2.length < rest.length := by
    have := hstep.bits
    have := hstep'.bits
    have := hstep.least
    simp only [List.length_append, length_octets] at *
    omega
  refine ⟨_, _, _, hstep', fun d' hd' ↦ ?_⟩
  cases rest with
  | nil => exact absurd hless (Nat.not_lt_zero _)
  | cons o buf =>
    refine ⟨o, buf, rfl, ?_, hless⟩
    unfold decompressRound
    rw [if_neg (by rw [htransparent]; decide), fillBits_eq hstep.lt (by omega), hfill]
    dsimp only
    have hshort : code % 65536 = code :=
      Nat.mod_eq_of_lt (hcode.trans_le (Nat.pow_le_pow_right (by decide) hwidth))
    rw [if_neg (not_lt.mpr henough), hread, hshort, Nat.shiftRight_eq_div_pow]
    split
    · rename_i hcontrol
      rw [if_pos hcontrol] at hd'
      rw [hd']
      rfl
    · rename_i hcontrol
      rw [if_neg hcontrol] at hd'
      rw [hd']
      rfl

variable {o : UInt8} {t : Dictionary} {a : ℕ}

/-- The octet that a codeword starts with is added as it was before the codeword was sent. -/
theorem addFirst_of_update (hupdate : Update d.toDictionary d.updateAt d.lastAdded o t a)
    (hstring : d.string = o :: w) (hne : code ≠ t.c1) :
    ∃ a', addFirst d code = .ok { d with toDictionary := t, lastAdded := a' } := by
  have ho : octet d.string 0 = o := by rw [hstring, octet_cons_zero]
  unfold addFirst
  dsimp only
  rw [ho]
  cases hupdate with
  | kept h =>
    split
    · exact ⟨d.lastAdded, rfl⟩
    · rename_i h0
      obtain ⟨r, hr, hr0⟩ := h.resolve_left h0
      rw [hr]
      by_cases hadded : r = d.lastAdded
      · exact ⟨0, (if_neg hr0).trans (if_pos hadded)⟩
      · exact ⟨d.lastAdded, (if_neg hr0).trans (if_neg hadded)⟩
  | added hu hmatch hadd _ =>
    refine ⟨d.c1, ?_⟩
    rw [if_neg hu, hmatch]
    change (addOctetToDictionary d.toDictionary d.updateAt o >>= fun r ↦
      if code = r.2.c1 then .error (.badCode d.handled.length)
      else pure { d with toDictionary := r.2, lastAdded := r.1 }) = _
    rw [hadd]
    exact if_neg hne

/-- **A codeword gives back its string**, with the addition that came before it. -/
theorem takeCode_of_update (hsound : d.Sound) (hstring : d.string = [])
    (hflushed : d.flushedLength = 0) (hmax : 0 < d.maxOutputLen)
    (hupdate : Update d.toDictionary d.updateAt d.lastAdded o t a) (hsound' : t.Sound)
    (hspells : Spells t.dict t.c1 code (o :: w)) (hne : code ≠ d.c1)
    (hlen : (o :: w).length < rounds) :
    ∃ d' a', takeCode d code = .ok d' ∧ Sends { d with
      toDictionary := t
      lastAdded := a'
      updateAt := if (o :: w).length = d.n7 then 0 else code
      escapeCode := (o :: w).foldl nextEscape d.escapeCode
      string := []
      flushedLength := 0 } d' (o :: w) := by
  have hold : Spells d.dict d.c1 code (o :: w) := by
    cases hupdate with
    | kept _ => exact hspells
    | added _ _ _ hadded => exact hadded.before code _ hspells hne
  have hexpand : expandCodewordToString d code = .ok { d with string := o :: w } := by
    unfold expandCodewordToString
    rw [hsound.forest.spell hold hlen, hstring]
    simp
  obtain ⟨a', hfirst⟩ := addFirst_of_update (d := { d with string := o :: w }) hupdate rfl
    (hspells.ne_hole hsound'.unused.entry)
  obtain ⟨handled, buf, hout, hsend⟩ := sends_sendString (d := { d with
    toDictionary := t
    lastAdded := a'
    updateAt := if (o :: w).length = d.n7 then 0 else code
    escapeCode := (o :: w).foldl nextEscape d.escapeCode
    string := o :: w }) hmax
  refine ⟨_, a', ?_, handled, buf, hout, rfl⟩
  unfold takeCode
  rw [if_neg hne, hexpand]
  change (addFirst { d with string := o :: w } code >>= fun s ↦
    pure (sendString (s.string.foldl allowEscape
      { s with updateAt := if s.string.length + s.flushedLength = s.n7 then 0 else code }))) = _
  rw [hfirst]
  change Except.ok (sendString ((o :: w).foldl allowEscape _)) = _
  have hlength : (o :: w).length + d.flushedLength = (o :: w).length := by
    rw [hflushed, Nat.add_zero]
  dsimp only
  rw [foldl_allowEscape, hlength]
  exact congrArg Except.ok hsend

end Codes

end OsmoSgsn.V42bis
