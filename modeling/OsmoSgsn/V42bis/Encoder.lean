import OsmoSgsn.V42bis.Dictionary

/-!
# What the compressor sends

The compressor works through its input string by string. Between two strings it has sent all of the
input so far, apart from bits that do not fill an octet, and knows where the next octet is to be
added. A string ends where the dictionary does not know it with the next octet, or knows it only
since the last addition, or where it is long enough; only then it is sent.
-/

namespace OsmoSgsn.V42bis

/-! ## Output -/

section Output

variable {s s' s'' : CompState} {bs cs : Bytes}

/-- All the output so far, be it with the handler or in the buffer. -/
def CompState.out (s : CompState) : Bytes := s.handled ++ s.outputBuf

/-- Octets are put out, and nothing else happens. -/
def Sends (s s' : CompState) (bs : Bytes) : Prop :=
  ∃ handled buf, handled ++ buf = s.out ++ bs ∧
    s' = { s with handled := handled, outputBuf := buf }

theorem Sends.out (h : Sends s s' bs) : s'.out = s.out ++ bs := by
  obtain ⟨_, _, hout, rfl⟩ := h
  exact hout

theorem Sends.refl (s : CompState) : Sends s s [] :=
  ⟨s.handled, s.outputBuf, by simp [CompState.out], rfl⟩

theorem Sends.trans (h : Sends s s' bs) (h' : Sends s' s'' cs) : Sends s s'' (bs ++ cs) := by
  obtain ⟨handled, buf, hout, rfl⟩ := h
  obtain ⟨handled', buf', hout', rfl⟩ := h'
  refine ⟨handled', buf', ?_, rfl⟩
  rw [hout', CompState.out, hout, List.append_assoc]

theorem sends_pushOctet (s : CompState) (o : UInt8) : Sends s (pushOctet s o) [o] := by
  unfold pushOctet
  dsimp only
  split
  · exact ⟨_, _, by simp [CompState.out], rfl⟩
  · exact ⟨_, _, by simp [CompState.out], rfl⟩

theorem sends_pushChunks {fuel : ℕ} (hmax : 0 < s.maxOutputLen) (bs : Bytes)
    (hfuel : bs.length + (if s.maxOutputLen ≤ s.outputBuf.length then 1 else 0) < fuel) :
    Sends s (pushChunks fuel s bs) bs := by
  induction fuel generalizing s bs with
  | zero => exact absurd hfuel (Nat.not_lt_zero _)
  | succ fuel ih =>
    rw [pushChunks]
    split
    · rename_i hfull
      set chunk := s.maxOutputLen - s.outputBuf.length with hchunk
      have hrest := ih (s := { s with
        handled := s.handled ++ s.outputBuf ++ bs.take chunk, outputBuf := [] })
        hmax (bs.drop chunk) (by
          rw [if_neg (by simpa using hmax.ne'), List.length_drop]
          split_ifs at hfuel <;> omega)
      have hhead : Sends s { s with
          handled := s.handled ++ s.outputBuf ++ bs.take chunk, outputBuf := [] }
          (bs.take chunk) := ⟨_, _, by simp [CompState.out], rfl⟩
      simpa using hhead.trans hrest
    · exact ⟨_, _, by simp [CompState.out], rfl⟩

theorem sends_pushOctets (hmax : 0 < s.maxOutputLen) (bs : Bytes) : Sends s (pushOctets s bs) bs :=
  sends_pushChunks hmax bs (by split_ifs <;> omega)

end Output

/-! ## Bits -/

section Bits

open BitPacking

variable {s : CompState} {code : ℕ}

theorem sends_iterate_pushBits (n : ℕ) (s : CompState) :
    Sends { s with bitBuffer := s.bitBuffer / 256 ^ n, bitCount := s.bitCount - 8 * n }
      (pushBits^[n] s) (octets n s.bitBuffer) := by
  induction n generalizing s with
  | zero => simpa [octets] using Sends.refl s
  | succ n ih =>
    obtain ⟨handled, buf, hout, hpush⟩ := sends_pushOctet s (.ofNat s.bitBuffer)
    obtain ⟨handled', buf', hout', hiterate⟩ := ih (pushBits s)
    rw [Function.iterate_succ_apply, hiterate]
    unfold pushBits
    rw [hpush]
    refine ⟨handled', buf', ?_, ?_⟩
    · rw [hout']
      unfold pushBits
      rw [hpush]
      simp only [CompState.out] at hout ⊢
      rw [hout, octets]
      simp [Nat.shiftRight_eq_div_pow]
    · simp only [Nat.shiftRight_eq_div_pow, Nat.div_div_eq_div_mul, pow_succ']
      congr 1
      omega

/-- The bits of the writer are in order. -/
structure CompState.Packed (s : CompState) : Prop where
  lt : s.bitBuffer < 2 ^ s.bitCount
  count : s.bitCount < 8

/-- A state whose writer has put out all octets of some bits. -/
def CompState.drained (s : CompState) (x count : ℕ) : CompState :=
  { s with bitBuffer := x / 256 ^ (count / 8), bitCount := count - 8 * (count / 8) }

theorem or_shiftLeft {b count x : ℕ} (hb : b < 2 ^ count) :
    b ||| x <<< count = b + x * 2 ^ count := by
  rw [Nat.or_comm, ← Nat.shiftLeft_add_eq_or_of_lt hb, Nat.shiftLeft_eq, Nat.add_comm]

theorem packed_lt {b count code w : ℕ} (hb : b < 2 ^ count) (hcode : code < 2 ^ w) :
    b + code * 2 ^ count < 2 ^ (count + w) := by
  calc b + code * 2 ^ count < (code + 1) * 2 ^ count := by
        rw [Nat.add_mul, Nat.one_mul]
        omega
    _ ≤ 2 ^ w * 2 ^ count := Nat.mul_le_mul_right _ hcode
    _ = 2 ^ (count + w) := by rw [pow_add, Nat.mul_comm]

/-- A codeword goes behind the bits that are there. -/
theorem sends_pushCompressedCode (hpacked : s.Packed) (hwidth : s.c2 ≤ 16)
    (hcode : code < 2 ^ s.c2) :
    Sends (s.drained (s.bitBuffer + code * 2 ^ s.bitCount) (s.bitCount + s.c2))
      (pushCompressedCode s code)
      (octets ((s.bitCount + s.c2) / 8) (s.bitBuffer + code * 2 ^ s.bitCount)) := by
  have hlt := packed_lt hpacked.lt hcode
  have hpow : (2 : ℕ) ^ (s.bitCount + s.c2) ≤ 2 ^ 32 :=
    Nat.pow_le_pow_right (by decide) (by have := hpacked.count; omega)
  unfold pushCompressedCode drainBits
  rw [or_shiftLeft hpacked.lt, Nat.mod_eq_of_lt (hlt.trans_le hpow)]
  exact sends_iterate_pushBits _ { s with
    bitBuffer := s.bitBuffer + code * 2 ^ s.bitCount, bitCount := s.bitCount + s.c2 }

/-- What is left is less than an octet. -/
theorem packed_drained {x count : ℕ} (h : x < 2 ^ count) : (s.drained x count).Packed := by
  refine ⟨?_, ?_⟩
  · have hpow : (2 : ℕ) ^ count = 256 ^ (count / 8) * 2 ^ (count - 8 * (count / 8)) := by
      rw [show (256 : ℕ) = 2 ^ 8 from rfl, ← pow_mul, ← pow_add]
      congr 1
      omega
    exact Nat.div_lt_of_lt_mul (hpow ▸ h)
  · change count - 8 * (count / 8) < 8
    omega

/-- The rest of an octet is filled up. -/
theorem sends_pushOctetAlignment (hpacked : s.Packed) :
    Sends { s with bitBuffer := 0, bitCount := 0 } (pushOctetAlignment s)
      (octets ((s.bitCount + 7) / 8) s.bitBuffer) := by
  obtain ⟨hlt, hcount⟩ := hpacked
  unfold pushOctetAlignment drainBits
  split
  · rename_i hrest
    have hround := sends_iterate_pushBits 1 { s with
      bitCount := s.bitCount + (8 - s.bitCount % 8) }
    have hbuffer : s.bitBuffer / 256 ^ 1 = 0 := by
      refine Nat.div_eq_of_lt (hlt.trans_le ?_)
      rw [show (256 : ℕ) ^ 1 = 2 ^ 8 from rfl]
      exact Nat.pow_le_pow_right (by decide) hcount.le
    dsimp only at hround
    rw [hbuffer, show s.bitCount + (8 - s.bitCount % 8) - 8 * 1 = 0 by omega] at hround
    rw [show (s.bitCount + 7) / 8 = 1 by omega]
    dsimp only
    rwa [show (s.bitCount + (8 - s.bitCount % 8)) / 8 = 1 by omega]
  · rename_i hrest
    have hzero : s.bitCount = 0 := by omega
    have hbuffer : s.bitBuffer = 0 := by
      rw [hzero] at hlt
      omega
    rw [hzero, hbuffer]
    cases s
    obtain rfl := hzero
    obtain rfl := hbuffer
    exact Sends.refl _

end Bits

/-! ## Strings -/

section Strings

variable {s : CompState}

/-- The escape octet after an octet of data. -/
def nextEscape (e o : UInt8) : UInt8 := if o = e then e + escStep else e

/-- An octet of data in transparent mode. -/
def escape (e o : UInt8) : Bytes := if o = e then [o, eid] else [o]

/-- Octets of data in transparent mode. -/
def escapes : UInt8 → Bytes → Bytes
  | _, [] => []
  | e, o :: w => escape e o ++ escapes (nextEscape e o) w

theorem length_escapes (e : UInt8) (w : Bytes) : (escapes e w).length ≤ 2 * w.length := by
  induction w generalizing e with
  | nil => exact le_rfl
  | cons o w ih =>
    have hlen : (escape e o).length ≤ 2 := by
      unfold escape
      split
      · exact le_rfl
      · exact Nat.le_succ 1
    rw [escapes, List.length_append, List.length_cons]
    have := ih (nextEscape e o)
    omega

theorem sends_sendTransparent (s : CompState) (o : UInt8) :
    Sends { s with escapeCode := nextEscape s.escapeCode o } (sendTransparent s o)
      (escape s.escapeCode o) := by
  obtain ⟨handled, buf, hout, hpush⟩ := sends_pushOctet s o
  have hself : pushOctet s o = { s with handled := handled, outputBuf := buf } := hpush
  unfold sendTransparent nextEscape escape
  rw [hself]
  dsimp only
  split
  · obtain ⟨handled', buf', hout', hpush'⟩ :=
      sends_pushOctet { s with handled := handled, outputBuf := buf } eid
    rw [hpush']
    exact ⟨handled', buf', by rw [hout', CompState.out, hout, List.append_assoc]; rfl, rfl⟩
  · exact ⟨handled, buf, hout, rfl⟩

theorem sends_foldl_sendTransparent (w : Bytes) (s : CompState) :
    Sends { s with escapeCode := w.foldl nextEscape s.escapeCode } (w.foldl sendTransparent s)
      (escapes s.escapeCode w) := by
  induction w generalizing s with
  | nil => exact Sends.refl s
  | cons o w ih =>
    obtain ⟨handled, buf, hout, hsend⟩ := sends_sendTransparent s o
    have hrest := ih (sendTransparent s o)
    rw [List.foldl_cons, List.foldl_cons, escapes]
    rw [hsend] at hrest ⊢
    obtain ⟨handled', buf', hout', hrest⟩ := hrest
    refine ⟨handled', buf', ?_, hrest⟩
    rw [hout', ← List.append_assoc]
    exact congrArg (· ++ _) hout

theorem foldl_allowEscape (w : Bytes) (s : CompState) :
    w.foldl allowEscape s = { s with escapeCode := w.foldl nextEscape s.escapeCode } := by
  induction w generalizing s with
  | nil => rfl
  | cons o w ih =>
    rw [List.foldl_cons, List.foldl_cons, ih]
    unfold allowEscape nextEscape
    split
    · rfl
    · rfl

/-- A string in transparent mode. -/
theorem sendEncodedData_transparent (h : s.transparent = true) (code : ℕ) :
    ∃ s', sendEncodedData s code = .ok s' ∧
      Sends { s with
        compressionPerformance := s.performance
        escapeCode := s.string.foldl nextEscape s.escapeCode
        string := []
        flushedLength := 0 } s' (escapes s.escapeCode s.string) := by
  obtain ⟨handled, buf, hout, hsend⟩ := sends_foldl_sendTransparent s.string
    { s with compressionPerformance := s.performance }
  have hunfold : sendEncodedData s code =
      .ok { s.string.foldl sendTransparent { s with compressionPerformance := s.performance } with
        string := [], flushedLength := 0 } := by
    unfold sendEncodedData
    dsimp only
    rw [if_pos h]
    rfl
  rw [hunfold, hsend]
  exact ⟨_, rfl, handled, buf, hout, rfl⟩

/-- A string in compressed mode: the code goes out, maybe after steps to a greater width. -/
theorem sendEncodedData_compressed (h : s.transparent = false) (code : ℕ) :
    sendEncodedData s code = (stepUp code 17 { s with
      compressionPerformance := s.performance
      escapeCode := s.string.foldl nextEscape s.escapeCode } >>= fun s' ↦
        pure { pushCompressedCode s' code with string := [], flushedLength := 0 }) := by
  unfold sendEncodedData
  simp only [h, foldl_allowEscape, Bool.false_eq_true, if_false, pure_bind]

end Strings

/-! ## Matching a string -/

section Match

variable {s s' : CompState} {a c : ℕ} {v w buf : Bytes}

/-- The way down the dictionary along a string, that does not meet the entry that was added last. -/
inductive Trail (dict : ℕ → DictNode) (added : ℕ) : ℕ → Bytes → ℕ → Prop
  | nil (a : ℕ) : Trail dict added a [] a
  | cons {a r c : ℕ} {o : UInt8} {w : Bytes} (hmatch : matchOctet dict a o = .ok r) (hr : r ≠ 0)
    (hadded : r ≠ added) (hw : Trail dict added r w c) : Trail dict added a (o :: w) c

variable {dict : ℕ → DictNode} {added n2 hole : ℕ}

theorem Trail.matched (h : Trail dict added a w c) (hf : Forest dict n2 hole) (hn2 : n2 < rounds)
    (ha : Matched dict hole a v) : Matched dict hole c (v ++ w) := by
  induction h generalizing v with
  | nil a => rwa [List.append_nil]
  | @cons a r c o w hmatch hr _ _ ih =>
    rw [← List.singleton_append, ← List.append_assoc]
    exact ih (.inr (hf.spells_match hn2 ha hmatch hr))

theorem Trail.ne_added (h : Trail dict added a w c) (hw : w ≠ []) : c ≠ 0 ∧ c ≠ added := by
  induction h with
  | nil a => exact absurd rfl hw
  | @cons a r c o w _ hr hadded htrail ih =>
    cases w with
    | nil =>
      cases htrail
      exact ⟨hr, hadded⟩
    | cons o' w => exact ih (List.cons_ne_nil o' w)

/-- How a string ends before the input does, with what is left of the input, where the next octet is
to be added and which entry was added last. -/
inductive Ends (dict : ℕ → DictNode) (added n7 c : ℕ) (w : Bytes) : Bytes → ℕ → ℕ → Prop
  | mismatch {o : UInt8} {buf : Bytes} (hlen : w.length < n7)
    (hmatch : matchOctet dict c o = .ok 0) : Ends dict added n7 c w (o :: buf) c added
  | known {o : UInt8} {buf : Bytes} (hlen : w.length < n7) (hadded : added ≠ 0)
    (hmatch : matchOctet dict c o = .ok added) : Ends dict added n7 c w (o :: buf) 0 0
  | full {buf : Bytes} (hlen : w.length = n7) : Ends dict added n7 c w buf 0 added

/-- What is looked up from the root is always found, and was not added just now. -/
theorem ne_zero_of_matchOctet {r : ℕ} {o : UInt8} (hadded : ∀ o : UInt8, o.toNat + n6 ≠ added)
    (h : matchOctet dict 0 o = .ok r) : r ≠ 0 ∧ r ≠ added := by
  obtain rfl : o.toNat + n6 = r := Except.ok.inj h
  exact ⟨(Nat.lt_of_lt_of_le (by decide) (Nat.le_add_left n6 _)).ne', hadded o⟩

/-- **A string is matched as far as it goes.** Either the input ends, or the string does and is
sent. -/
theorem matchString_spec (hs : s.Sound) (hupdate : s.updateAt = 0) (hflushed : s.flushedLength = 0)
    (hadded : ∀ o : UInt8, o.toNat + n6 ≠ s.lastAdded)
    (hmatched : Matched s.dict s.c1 s.lastMatched s.string) (hlen : s.string.length < s.n7)
    (buf : Bytes) :
    ∃ w c, Trail s.dict s.lastAdded s.lastMatched w c ∧
      (buf = w ∧ (s.string ++ w).length < s.n7 ∧
          matchString s buf =
            .ok ({ s with lastMatched := c, string := s.string ++ w }, []) ∨
        ∃ rest u a, buf = w ++ rest ∧ c ≠ 0 ∧
          Ends s.dict s.lastAdded s.n7 c (s.string ++ w) rest u a ∧
          matchString s buf = (sendEncodedData { s with
            lastMatched := c
            string := s.string ++ w
            updateAt := u
            lastAdded := a } c >>= fun s' ↦ pure ({ s' with lastMatched := 0 }, rest))) := by
  induction buf generalizing s with
  | nil =>
    refine ⟨[], s.lastMatched, .nil _, .inl ⟨rfl, by simpa using hlen, ?_⟩⟩
    rw [List.append_nil, matchString]
  | cons o buf ih =>
    obtain ⟨r, hr, -, -⟩ := hs.forest.matchOctet hs.lt s.lastMatched o
    have hroot : s.lastMatched = 0 → r ≠ 0 ∧ r ≠ s.lastAdded := by
      intro h0
      rw [h0] at hr
      exact ne_zero_of_matchOctet hadded hr
    by_cases h0 : r = 0
    · subst h0
      have hne : s.lastMatched ≠ 0 := fun h ↦ (hroot h).1 rfl
      refine ⟨[], s.lastMatched, .nil _, .inr ⟨o :: buf, s.lastMatched, s.lastAdded, rfl, hne,
        .mismatch (by simpa using hlen) hr, ?_⟩⟩
      rw [matchString, hr, List.append_nil]
      rfl
    · by_cases hknown : r = s.lastAdded
      · subst hknown
        have hne : s.lastMatched ≠ 0 := fun h ↦ (hroot h).2 rfl
        refine ⟨[], s.lastMatched, .nil _, .inr ⟨o :: buf, 0, 0, rfl, hne,
          .known (by simpa using hlen) h0 hr, ?_⟩⟩
        rw [matchString, hr, List.append_nil]
        change (if s.lastAdded = 0 then _ else if s.lastAdded = s.lastAdded then _ else _) = _
        rw [if_neg h0, if_pos rfl, ← hupdate]
      · have hstep : matchString s (o :: buf) =
            if (s.string ++ [o]).length = s.n7 then
              sendEncodedData { s with lastMatched := r, string := s.string ++ [o] } r >>= fun s' ↦
                pure ({ s' with lastMatched := 0 }, buf)
            else matchString { s with lastMatched := r, string := s.string ++ [o] } buf := by
          rw [matchString, hr]
          change (if r = 0 then _ else if r = s.lastAdded then _ else _) = _
          have hlength : (s.string ++ [o]).length + s.flushedLength = (s.string ++ [o]).length := by
            rw [hflushed, Nat.add_zero]
          rw [if_neg h0, if_neg hknown]
          dsimp only
          rw [hlength]
        have hlength : (s.string ++ [o]).length = s.string.length + 1 := List.length_append
        rw [hstep]
        split
        · rename_i hfull
          refine ⟨[o], r, .cons hr h0 hknown (.nil r), .inr ⟨buf, 0, s.lastAdded, rfl, h0,
            .full hfull, ?_⟩⟩
          rw [← hupdate]
        · rename_i hfull
          obtain ⟨w, c, htrail, hends⟩ := ih
            (s := { s with lastMatched := r, string := s.string ++ [o] }) hs hupdate hflushed hadded
            (.inr (hs.forest.spells_match hs.lt hmatched hr h0)) (by dsimp only; omega)
          refine ⟨o :: w, c, .cons hr h0 hknown htrail, ?_⟩
          have happend : s.string ++ [o] ++ w = s.string ++ o :: w := by simp
          simp only [happend] at hends
          rcases hends with ⟨rfl, hlt, hmatch⟩ | ⟨rest, u, a, rfl, hc, hends, hmatch⟩
          · exact .inl ⟨rfl, hlt, hmatch⟩
          · exact .inr ⟨rest, u, a, rfl, hc, hends, hmatch⟩

end Match

end OsmoSgsn.V42bis
