import OsmoSgsn.V42bis.Decoder

/-!
# What is sent is taken

A piece of the compressor's output is *relayed* if it takes a decompressor from how it stood before
the piece to how it stands after it. What the piece says need not fill octets, so the two are
compared through the whole stream that is still to come.
-/

namespace OsmoSgsn.V42bis

open BitPacking

variable {e e' e'' : CompState} {E E' v v' : Bytes} {R R' R'' : CompState → Prop} {code : ℕ}

/-- A decompressor that stands as `R` says is taken by the piece `E` to how `R'` says, and has then
brought out `v` or keeps it for the string in progress. -/
structure Relays (e e' : CompState) (E : Bytes) (R R' : CompState → Prop) (v : Bytes) : Prop where
  starts : ∀ stream, Starts e'.bitBuffer e'.bitCount stream →
    Starts e.bitBuffer e.bitCount (E ++ stream)
  decodes : ∀ stream d rest, Starts e'.bitBuffer e'.bitCount stream → R d →
    InStep e.bitBuffer e.bitCount (E ++ stream) d.bitBuffer d.bitCount rest →
    ∃ d' rest', Decodes (d, rest) (d', rest') ∧ R' d' ∧
      InStep e'.bitBuffer e'.bitCount stream d'.bitBuffer d'.bitCount rest' ∧
      d'.out ++ d'.string = d.out ++ d.string ++ v

theorem Relays.refl (e : CompState) (R : CompState → Prop) : Relays e e [] R R [] :=
  ⟨fun _ h ↦ h, fun _ d rest _ hd hstep ↦
    ⟨d, rest, Relation.ReflTransGen.refl, hd, hstep, by rw [List.append_nil]⟩⟩

theorem Relays.trans (h : Relays e e' E R R' v) (h' : Relays e' e'' E' R' R'' v') :
    Relays e e'' (E ++ E') R R'' (v ++ v') := by
  refine ⟨fun stream hstarts ↦ ?_, fun stream d rest hstarts hd hstep ↦ ?_⟩
  · rw [List.append_assoc]
    exact h.starts _ (h'.starts stream hstarts)
  · rw [List.append_assoc] at hstep
    obtain ⟨d', rest', hdecodes, hd', hstep', hout⟩ :=
      h.decodes _ d rest (h'.starts stream hstarts) hd hstep
    obtain ⟨d'', rest'', hdecodes', hd'', hstep'', hout'⟩ :=
      h'.decodes stream d' rest' hstarts hd' hstep'
    refine ⟨d'', rest'', hdecodes.trans hdecodes', hd'', hstep'', ?_⟩
    rw [hout', hout, List.append_assoc]

theorem Relays.mono {Q Q' : CompState → Prop} (h : Relays e e' E R R' v) (hQ : ∀ d, Q d → R d)
    (hQ' : ∀ d, R' d → Q' d) : Relays e e' E Q Q' v := by
  refine ⟨h.starts, fun stream d rest hstarts hd hstep ↦ ?_⟩
  obtain ⟨d', rest', hdecodes, hd', hstep', hout⟩ := h.decodes stream d rest hstarts (hQ d hd) hstep
  exact ⟨d', rest', hdecodes, hQ' d' hd', hstep', hout⟩

/-- Only the bits of the compressor matter. -/
theorem Relays.congr {e₁ e₁' : CompState} (h : Relays e e' E R R' v)
    (hbuffer : e₁.bitBuffer = e.bitBuffer) (hcount : e₁.bitCount = e.bitCount)
    (hbuffer' : e₁'.bitBuffer = e'.bitBuffer) (hcount' : e₁'.bitCount = e'.bitCount) :
    Relays e₁ e₁' E R R' v := by
  obtain ⟨hstarts, hdecodes⟩ := h
  constructor
  · rwa [hbuffer, hcount, hbuffer', hcount']
  · rwa [hbuffer, hcount, hbuffer', hcount']

/-! ## Lengths -/

/-- A piece takes no more than so many bits, those kept back included. -/
def Takes (e e' : CompState) (E : Bytes) (n : ℕ) : Prop :=
  8 * E.length + e'.bitCount ≤ e.bitCount + n

theorem Takes.trans {n n' : ℕ} (h : Takes e e' E n) (h' : Takes e' e'' E' n') :
    Takes e e'' (E ++ E') (n + n') := by
  unfold Takes at *
  rw [List.length_append]
  omega

theorem Takes.mono {n n' : ℕ} (h : Takes e e' E n) (hn : n ≤ n') : Takes e e' E n' :=
  Nat.le_trans h (Nat.add_le_add_left hn _)

/-! ## Octets -/

/-- Octets between which nothing is kept. -/
theorem relays_octets (hbuffer : e.bitBuffer = 0) (hcount : e.bitCount = 0)
    (hbuffer' : e'.bitBuffer = 0) (hcount' : e'.bitCount = 0)
    (h : ∀ d rest, R d → ∃ d', Decodes (d, E ++ rest) (d', rest) ∧ R' d' ∧
      d'.bitBuffer = d.bitBuffer ∧ d'.bitCount = d.bitCount ∧
      d'.out ++ d'.string = d.out ++ d.string ++ v) : Relays e e' E R R' v := by
  refine ⟨fun stream _ ↦ ?_, fun stream d rest _ hd hstep ↦ ?_⟩
  · rw [hbuffer, hcount]
    exact starts_zero _
  · rw [hbuffer, hcount] at hstep
    obtain ⟨rfl, hzero⟩ := InStep.align (by decide) hstep
    have hbits : d.bitCount = 0 := by simpa [octets] using hstep.bits
    obtain ⟨d', hdecodes, hd', hb, hc, hout⟩ := h d stream hd
    refine ⟨d', stream, hdecodes, hd', ?_, hout⟩
    rw [hbuffer', hcount', hb, hc, hzero, hbits]
    exact InStep.aligned stream

/-! ## Codewords -/

/-- What a decompressor makes of a codeword. -/
def takeAny (d : CompState) (code : ℕ) : Except Failure CompState :=
  if code < n6 then takeControl d code else takeCode d code

/-- The bits of a compressor after a codeword. -/
structure Written (e e' : CompState) (code : ℕ) : Prop where
  buffer : e'.bitBuffer =
    (e.bitBuffer + code * 2 ^ e.bitCount) / 256 ^ ((e.bitCount + e.c2) / 8)
  count : e'.bitCount = e.bitCount + e.c2 - 8 * ((e.bitCount + e.c2) / 8)

/-- The octets that a codeword fills. -/
def written (e : CompState) (code : ℕ) : Bytes :=
  octets ((e.bitCount + e.c2) / 8) (e.bitBuffer + code * 2 ^ e.bitCount)

theorem starts_written (hpacked : e.Packed) (hcode : code < 2 ^ e.c2) (hwritten : Written e e' code)
    (stream : Bytes) (h : Starts e'.bitBuffer e'.bitCount stream) :
    Starts e.bitBuffer e.bitCount (written e code ++ stream) := by
  rw [hwritten.buffer, hwritten.count] at h
  exact (Starts.write (Nat.mul_div_le _ _) hpacked.lt hcode h).1

theorem takes_written (h : Written e e' code) : Takes e e' (written e code) e.c2 := by
  unfold Takes written
  rw [length_octets, h.count]
  omega

theorem takes_aligned (h : Written e e' code) (hcount : e''.bitCount = 0) (buffer : ℕ) :
    Takes e e'' (written e code ++ octets ((e'.bitCount + 7) / 8) buffer) (e.c2 + 7) := by
  refine (takes_written h).trans ?_
  unfold Takes
  rw [length_octets, hcount]
  omega

/-- **A codeword is relayed** if it is taken. -/
theorem relays_code (hpacked : e.Packed) (hlow : 9 ≤ e.c2) (hwidth : e.c2 ≤ 16)
    (hcode : code < 2 ^ e.c2) (hwritten : Written e e' code)
    (hR : ∀ d, R d → d.transparent = false ∧ d.c2 = e.c2)
    (htake : ∀ d buffer count, R d → ∃ d',
      takeAny { d with bitBuffer := buffer, bitCount := count } code = .ok d' ∧ R' d' ∧
      d'.bitBuffer = buffer ∧ d'.bitCount = count ∧
      d'.out ++ d'.string = d.out ++ d.string ++ v) :
    Relays e e' (written e code) R R' v := by
  have hn : 8 * ((e.bitCount + e.c2) / 8) ≤ e.bitCount + e.c2 := Nat.mul_div_le _ _
  refine ⟨starts_written hpacked hcode hwritten, fun stream d rest hstarts hd hstep ↦ ?_⟩
  rw [hwritten.buffer, hwritten.count] at hstarts ⊢
  obtain ⟨htransparent, hc2⟩ := hR d hd
  unfold written at hstep
  obtain ⟨buffer, count, rest', hstep', hround⟩ := decompressRound_code htransparent
    (hn.trans_eq (by rw [hc2])) (hlow.trans_eq hc2.symm) (hc2.trans_le hwidth)
    (hcode.trans_eq (by rw [hc2])) hstep (hc2 ▸ hstarts)
  obtain ⟨d', htaken, hd', rfl, rfl, hout⟩ := htake d buffer count hd
  exact ⟨d', rest', Decodes.single (hround d' htaken), hd', hc2 ▸ hstep', hout⟩

theorem written_pushCompressedCode (hpacked : e.Packed) (hwidth : e.c2 ≤ 16)
    (hcode : code < 2 ^ e.c2) :
    Written e (pushCompressedCode e code) code ∧ (pushCompressedCode e code).Packed ∧
      Sends { e with
        bitBuffer := (pushCompressedCode e code).bitBuffer
        bitCount := (pushCompressedCode e code).bitCount } (pushCompressedCode e code)
        (written e code) := by
  have hdrained : (e.drained (e.bitBuffer + code * 2 ^ e.bitCount) (e.bitCount + e.c2)).Packed :=
    packed_drained (packed_lt hpacked.lt hcode)
  obtain ⟨handled, buf, hout, hpush⟩ := sends_pushCompressedCode hpacked hwidth hcode
  rw [hpush]
  exact ⟨⟨rfl, rfl⟩, ⟨hdrained.lt, hdrained.count⟩, handled, buf, hout, rfl⟩

/-- **A control codeword is relayed with the rest of its last octet**, which is of no use for the
decompressor. -/
theorem relays_aligned (hpacked : e.Packed) (hlow : 9 ≤ e.c2) (hwidth : e.c2 ≤ 16)
    (hcode : code < 2 ^ e.c2) (hwritten : Written e e' code) (hpacked' : e'.Packed)
    (hbuffer : e''.bitBuffer = 0) (hcount : e''.bitCount = 0)
    (hR : ∀ d, R d → d.transparent = false ∧ d.c2 = e.c2)
    (htake : ∀ d buffer count, R d → ∃ d',
      takeAny { d with bitBuffer := buffer, bitCount := count } code = .ok d' ∧ R' d' ∧
      d'.bitBuffer = buffer ∧ d'.bitCount = 0 ∧ d'.out ++ d'.string = d.out ++ d.string) :
    Relays e e'' (written e code ++ octets ((e'.bitCount + 7) / 8) e'.bitBuffer) R R' [] := by
  have hn : 8 * ((e.bitCount + e.c2) / 8) ≤ e.bitCount + e.c2 := Nat.mul_div_le _ _
  have hpad := starts_pad hpacked'.lt hpacked'.count
  refine ⟨fun stream _ ↦ ?_, fun stream d rest _ hd hstep ↦ ?_⟩
  · rw [List.append_assoc]
    exact starts_written hpacked hcode hwritten _ (hpad stream)
  · rw [List.append_assoc] at hstep
    obtain ⟨htransparent, hc2⟩ := hR d hd
    have hstarts := hpad stream
    rw [hwritten.buffer, hwritten.count] at hstarts
    unfold written at hstep
    obtain ⟨buffer, count, rest', hstep', hround⟩ := decompressRound_code htransparent
      (hn.trans_eq (by rw [hc2])) (hlow.trans_eq hc2.symm) (hc2.trans_le hwidth)
      (hcode.trans_eq (by rw [hc2])) hstep (by
        rw [hc2, hwritten.buffer, hwritten.count]
        exact hstarts)
    rw [hc2, ← hwritten.buffer, ← hwritten.count] at hstep'
    obtain ⟨rfl, rfl⟩ := hstep'.align hpacked'.count
    obtain ⟨d', htaken, hd', hb, hc, hout⟩ := htake d 0 count hd
    refine ⟨d', rest', Decodes.single (hround d' htaken), hd', ?_, by rw [hout, List.append_nil]⟩
    rw [hbuffer, hcount, hb, hc]
    exact InStep.aligned rest'

/-! ## Greater widths -/

/-- A decompressor as it was, but for the width of its codewords. -/
def Widened (d₀ : CompState) (c2 : ℕ) (d : CompState) : Prop :=
  ∃ c3 buffer count, d = { d₀ with c2 := c2, c3 := c3, bitBuffer := buffer, bitCount := count }

/-- A decompressor takes a step to a greater width, within what the table has room for. -/
theorem takeAny_stepup {d : CompState} (hn2 : minDictionarySize ≤ d.n2) (hc2 : d.c2 < 12) :
    takeAny d stepup = .ok { d with c2 := d.c2 + 1, c3 := d.c3 <<< 1 % 65536 } := by
  have hroom : ¬d.n2 >>> 3 < d.c2 + 1 := by
    have hn2 : 512 ≤ d.n2 := hn2
    rw [Nat.shiftRight_eq_div_pow]
    omega
  exact if_neg hroom

/-- **Codewords get wider at both ends**, until the next one fits. -/
theorem relays_stepUp (hpacked : e.Packed) (hlow : 9 ≤ e.c2) (hwidth : e.c2 ≤ 12)
    (hc3 : e.c3 = 2 ^ e.c2) (hcode : code < 2 ^ 12) {fuel : ℕ} (hfuel : 12 - e.c2 < fuel) :
    ∃ e' E, stepUp code fuel e = .ok e' ∧ e'.Packed ∧ e.c2 ≤ e'.c2 ∧ e'.c2 ≤ 12 ∧
      code < 2 ^ e'.c2 ∧ Takes e e' E (12 * (12 - e.c2)) ∧
      Sends { e with
        c2 := e'.c2
        c3 := 2 ^ e'.c2
        bitBuffer := e'.bitBuffer
        bitCount := e'.bitCount } e' E ∧
      ∀ d₀ : CompState, d₀.transparent = false → minDictionarySize ≤ d₀.n2 →
        Relays e e' E (Widened d₀ e.c2) (Widened d₀ e'.c2) [] := by
  induction fuel generalizing e with
  | zero => exact absurd hfuel (Nat.not_lt_zero _)
  | succ fuel ih =>
    rw [stepUp]
    by_cases hfits : e.c3 ≤ code
    · rw [if_pos hfits]
      have hlt : e.c2 < 12 := by
        refine lt_of_le_of_ne hwidth fun h ↦ ?_
        rw [hc3, h] at hfits
        omega
      have hstepup : stepup < 2 ^ e.c2 :=
        lt_of_lt_of_le (by decide) (Nat.pow_le_pow_right (by decide) hlow)
      obtain ⟨hwritten, hpacked', handled, buf, hout, hpush⟩ :=
        written_pushCompressedCode hpacked (by omega : e.c2 ≤ 16) hstepup
      have hc3' : e.c3 <<< 1 % 65536 = 2 ^ (e.c2 + 1) := by
        have hpow : (2 : ℕ) ^ (e.c2 + 1) < 65536 :=
          Nat.pow_lt_pow_right (by decide) (by omega : e.c2 + 1 < 16)
        rw [Nat.shiftLeft_eq, hc3, pow_one, ← pow_succ, Nat.mod_eq_of_lt hpow]
      set s := pushCompressedCode e stepup with hs
      obtain ⟨e', E, hstep, hpackede, hle, hle', hcode', htakes, hsends, hrelays⟩ :=
        ih (e := { s with c2 := s.c2 + 1, c3 := s.c3 <<< 1 % 65536 })
          ⟨hpacked'.lt, hpacked'.count⟩ (by rw [hpush]; dsimp only; omega)
          (by rw [hpush]; dsimp only; omega) (by rw [hpush]; exact hc3')
          (by rw [hpush]; dsimp only; omega)
      have hc2 : s.c2 = e.c2 := by rw [hpush]
      have hout' : s.out = e.out ++ written e stepup := by rw [hpush]; exact hout
      refine ⟨e', written e stepup ++ E, hstep, hpackede, by dsimp only at hle; omega, hle', hcode',
        ?_, ?_, fun d₀ htransparent hn2 ↦ ?_⟩
      · have hfirst : Takes e s (written e stepup) 12 := (takes_written hwritten).mono hwidth
        refine (hfirst.trans htakes).mono ?_
        dsimp only
        omega
      · obtain ⟨handled', buf', hsent, he'⟩ := hsends
        refine ⟨handled', buf', ?_, he'.trans (by rw [hpush])⟩
        rw [hsent, ← List.append_assoc]
        exact congrArg (· ++ E) hout'
      · have hfirst : Relays e { s with c2 := s.c2 + 1, c3 := s.c3 <<< 1 % 65536 }
            (written e stepup) (Widened d₀ e.c2) (Widened d₀ (s.c2 + 1)) [] := by
          refine relays_code hpacked hlow (by omega) hstepup ⟨hwritten.buffer, hwritten.count⟩
            ?_ ?_
          · rintro _ ⟨c3, buffer, count, rfl⟩
            exact ⟨htransparent, rfl⟩
          · rintro _ buffer' count' ⟨c3, buffer, count, rfl⟩
            refine ⟨_, takeAny_stepup hn2 hlt, ⟨c3 <<< 1 % 65536, buffer', count', ?_⟩, rfl, rfl,
              ?_⟩
            · rw [hc2]
            · rw [List.append_nil]
              rfl
        exact hfirst.trans (hrelays d₀ htransparent hn2)
    · rw [if_neg hfits]
      refine ⟨e, [], rfl, hpacked, le_rfl, hwidth, hc3 ▸ not_le.mp hfits, ?_, ?_,
        fun d₀ _ _ ↦ Relays.refl e _⟩
      · exact (Nat.zero_add _).trans_le (Nat.le_add_right _ _)
      · rw [← hc3]
        exact Sends.refl e

end OsmoSgsn.V42bis
